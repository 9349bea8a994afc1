import FormCheck.Text.Split

/-!
Paths as text and as parts between slashes. Two paths are the same if their parts are; empty parts
count for nothing, and neither does a dot behind the first part.
-/
namespace FormCheck.Files

inductive Part where
  | root
  | here
  | up
  | name (s : List Char)
  deriving DecidableEq

def parts (path : String) : List Part :=
  let cs := path.toList
  let pieces := Text.splitOn '/' cs
  let first : List Part :=
    match cs, pieces with
    | '/' :: _, _ => [.root]
    | _, ['.'] :: _ => [.here]
    | _, _ => []
  first ++ pieces.filterMap fun p =>
    if p = [] ∨ p = ['.'] then none
    else if p = ['.', '.'] then some .up
    else some (.name p)

def samePath (a b : String) : Bool := parts a == parts b

def isAbsolute (path : String) : Bool := path.toList.head? == some '/'

/-- Removes slashes and lone dots from the end of a path, but not its first part. -/
def trimEnd (cs : List Char) : List Char :=
  go cs.reverse cs.length
where
  /-- Works on the reversed text. -/
  go (r : List Char) : Nat → List Char
    | 0 => r.reverse
    | fuel + 1 =>
      match r with
      | ['/'] => ['/']
      | '/' :: r => go r fuel
      | '.' :: '/' :: r => go ('/' :: r) fuel
      | r => r.reverse

def parent? (path : String) : Option String :=
  let cs := trimEnd path.toList
  match parts path with
  | [] | [.root] => none
  | _ =>
    match Text.splitLast? '/' cs with
    | none => some ""
    | some ([], _) => some "/"
    | some (before, _) => some (String.ofList (trimEnd (before ++ ['/'])))

def joined (folder path : String) : String :=
  if isAbsolute path ∨ folder.isEmpty then path
  else if folder.toList.getLast? = some '/' then folder ++ path
  else folder ++ "/" ++ path

end FormCheck.Files
