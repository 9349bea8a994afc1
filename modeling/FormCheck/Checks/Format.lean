import FormCheck.Json.Document
import FormCheck.Pattern.Delimited
import FormCheck.Rules.Registry
import FormCheck.Text.Hex
import FormCheck.Text.Split
import FormCheck.Unicode.Letter

/-!
Tests of the form of a text. Values of other kinds fail them.
-/
namespace FormCheck.Checks

def onText (test : List Char → Bool) : Value → Bool
  | .text s => test s.toList
  | _ => false

def isMailboxChar (c : Char) : Bool :=
  c.isAlphanum || ".!#$%&'*+/=?^_`\x7b|\x7d~-".toList.contains c

def isHostLabel (label : List Char) : Bool :=
  label.length ≤ 63 && label.all (fun c => c.isAlphanum || c == '-') &&
    label.head?.any Char.isAlphanum && label.getLast?.any Char.isAlphanum

def email (s : List Char) : Bool :=
  match Text.splitFirst? '@' s with
  | some (mailbox, host) =>
    !mailbox.isEmpty && mailbox.all isMailboxChar && (Text.splitOn '.' host).all isHostLabel
  | none => false

def uuid (s : List Char) : Bool :=
  match Text.splitOn '-' s with
  | [a, b, c, d, e] =>
    [a, b, c, d, e].map List.length == [8, 4, 4, 4, 12] &&
      [a, b, c, d, e].all (·.all Text.isHexDigit) &&
      c.head?.any (fun x => "12345".toList.contains x) &&
      d.head?.any (fun x => "89abAB".toList.contains x)
  | _ => false

def json (s : List Char) : Bool := (Json.Document.read? (String.ofList s)).isSome

def alpha (s : List Char) : Bool :=
  !s.isEmpty && s.all fun c => Unicode.isLetter c || Text.isBlank c

def alphaNum (s : List Char) : Bool :=
  !s.isEmpty && s.all fun c => Unicode.isLetter c || Unicode.isNumber c

def alphaDash (s : List Char) : Bool :=
  !s.isEmpty && s.all fun c => Unicode.isLetter c || Unicode.isNumber c || c == '_' || c == '-'

/-- The text matches the pattern, whose commas divided it into the parameters. -/
def pattern (v : Value) (params : List String) : Bool :=
  !params.isEmpty && onText (Pattern.isMatch (Text.join "," params).toList) v

end FormCheck.Checks
