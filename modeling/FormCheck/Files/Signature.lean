import FormCheck.Text.Blank
import FormCheck.Text.Utf8

/-!
Types of content told by the first bytes of a file.
-/
namespace FormCheck.Files

def headLength : Nat := 512

def signatures : List (List UInt8 × String) :=
  [([0xFF, 0xD8, 0xFF], "image/jpeg"),
    ([0x89, 0x50, 0x4E, 0x47, 0x0D, 0x0A, 0x1A, 0x0A], "image/png"),
    ([0x47, 0x49, 0x46, 0x38, 0x37, 0x61], "image/gif"),
    ([0x47, 0x49, 0x46, 0x38, 0x39, 0x61], "image/gif"),
    ([0x42, 0x4D], "image/bmp"),
    ([0x25, 0x50, 0x44, 0x46, 0x2D], "application/pdf"),
    ([0x50, 0x4B, 0x03, 0x04], "application/zip")]

def asciiBytes (s : String) : List UInt8 := s.toList.map fun c => UInt8.ofNat c.toNat

def holdsText (part : List Char) : List Char → Bool
  | [] => part.isEmpty
  | c :: cs => part.isPrefixOf (c :: cs) || holdsText part cs

/-- A drawing in markup: its element comes first, or anywhere behind a declaration. -/
def isDrawing (head : List UInt8) : Bool :=
  let text := Text.decodeLossy head
  let front := Text.trimStart text
  "<svg".toList.isPrefixOf front ||
    ("<?xml".toList.isPrefixOf front && holdsText "<svg".toList text)

def sniff? (head : List UInt8) : Option String :=
  match signatures.find? fun s => s.1.isPrefixOf head with
  | some (_, type) => some type
  | none =>
    let kind := (head.drop 8).take 4
    if head.take 4 = asciiBytes "RIFF" ∧ kind = asciiBytes "WEBP" then some "image/webp"
    else if (head.drop 4).take 4 = asciiBytes "ftyp" ∧
        (kind = asciiBytes "avif" ∨ kind = asciiBytes "avis") then some "image/avif"
    else if isDrawing head then some "image/svg+xml"
    else none

end FormCheck.Files
