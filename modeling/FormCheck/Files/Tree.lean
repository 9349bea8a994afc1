import FormCheck.Files.Path
import FormCheck.Text.Utf8

/-!
A folder of files, given as the bytes at each relative path, and what is found at a path in it.
Folders on the way to a file exist with it. Nothing is known outside the folder.
-/
namespace FormCheck.Files

/-- Why nothing can be read at a path. -/
inductive ReadError where
  | notFound
  | isFolder
  | notFolder
  | nameTooLong
  | holdsNul
  | notText
  deriving DecidableEq

def ReadError.message : ReadError → String
  | notFound => "No such file or directory (os error 2)"
  | isFolder => "Is a directory (os error 21)"
  | notFolder => "Not a directory (os error 20)"
  | nameTooLong => "File name too long (os error 36)"
  | holdsNul => "file name contained an unexpected NUL byte"
  | notText => "stream did not contain valid UTF-8"

structure Tree where
  files : List (List (List Char) × ByteArray)

namespace Tree

def empty : Tree := ⟨[]⟩

def names (path : String) : List (List Char) :=
  (Text.splitOn '/' path.toList).filter fun p => p ≠ [] ∧ p ≠ ['.']

def ofList (files : List (String × ByteArray)) : Tree :=
  ⟨files.map fun (path, bytes) => (names path, bytes)⟩

inductive Node where
  | file (bytes : ByteArray)
  | folder

def nodeAt? (t : Tree) (way : List (List Char)) : Option Node :=
  match t.files.find? fun f => f.1 == way with
  | some (_, bytes) => some (.file bytes)
  | none => if way = [] ∨ t.files.any fun f => way.isPrefixOf f.1 then some .folder else none

/-- Follows pieces of a path from a folder. The way is kept back to front. -/
def follow (t : Tree) : List (List Char) → List (List Char) → Except ReadError Node
  | way, [] => (t.nodeAt? way.reverse).elim (.error .notFound) .ok
  | way, piece :: pieces =>
    match t.nodeAt? way.reverse with
    | none => .error .notFound
    | some (.file _) => .error .notFolder
    | some .folder =>
      if 255 < (String.ofList piece).utf8ByteSize then .error .nameTooLong
      else if piece = [] ∨ piece = ['.'] then follow t way pieces
      else if piece = ['.', '.'] then
        match way with
        | [] => .error .notFound
        | _ :: way => follow t way pieces
      else follow t (piece :: way) pieces

/-- What stands at a path. An absolute path leads out of the folder, where only the top is known. -/
def find (t : Tree) (path : String) : Except ReadError Node :=
  if path.toList.contains '\x00' then .error .holdsNul
  else if path.isEmpty then .error .notFound
  else if 4096 ≤ path.utf8ByteSize then .error .nameTooLong
  else if isAbsolute path then
    if (names path).isEmpty then .ok .folder else .error .notFound
  else t.follow [] (Text.splitOn '/' path.toList)

def isFile (t : Tree) (path : String) : Bool :=
  match t.find path with
  | .ok (.file _) => true
  | _ => false

def readBytes (t : Tree) (path : String) : Except ReadError ByteArray :=
  match t.find path with
  | .ok (.file bytes) => .ok bytes
  | .ok .folder => .error .isFolder
  | .error e => .error e

def readText (t : Tree) (path : String) : Except ReadError String := do
  let bytes ← t.readBytes path
  (Text.decode? bytes).elim (.error .notText) .ok

end Tree

end FormCheck.Files
