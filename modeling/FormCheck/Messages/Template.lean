/-!
Message templates. A token is a colon and the longest run of letters, digits and underscores behind
it; a token whose name has a replacement gives way to it, all else is copied.
-/
namespace FormCheck.Template

def isNameChar (c : Char) : Bool := c.isAlphanum || c == '_'

/-- A piece of a template: text to copy, or a token with its name. -/
inductive Piece where
  | char (c : Char)
  | token (name : List Char)
  deriving DecidableEq

/-- Cuts a template into pieces. `name` holds the name of a token begun before, in reverse. -/
def cut : Option (List Char) → List Char → List Piece
  | none, [] => []
  | some name, [] => [.token name.reverse]
  | none, c :: cs => if c = ':' then cut (some []) cs else .char c :: cut none cs
  | some name, c :: cs =>
    if isNameChar c then cut (some (c :: name)) cs
    else if c = ':' then .token name.reverse :: cut (some []) cs
    else .token name.reverse :: .char c :: cut none cs

def pieces (template : List Char) : List Piece := cut none template

def Piece.source : Piece → List Char
  | char c => [c]
  | token name => ':' :: name

def replacement? (pairs : List (String × String)) (name : List Char) : Option String :=
  if name.isEmpty then none
  else (pairs.find? fun p => p.1 == String.ofList name).map Prod.snd

def Piece.fill (pairs : List (String × String)) : Piece → List Char
  | char c => [c]
  | token name => ((replacement? pairs name).map String.toList).getD (':' :: name)

def interpolate (template : String) (pairs : List (String × String)) : String :=
  String.ofList ((pieces template.toList).flatMap (Piece.fill pairs))

theorem source_cut (name : Option (List Char)) (cs : List Char) :
    (cut name cs).flatMap Piece.source =
      (name.elim [] fun n => ':' :: n.reverse) ++ cs := by
  fun_induction cut name cs <;> simp_all [Piece.source]

theorem source_pieces (template : List Char) :
    (pieces template).flatMap Piece.source = template := by
  simp [pieces, source_cut]

end FormCheck.Template
