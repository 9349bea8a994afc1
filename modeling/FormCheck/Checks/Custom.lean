import FormCheck.Rules.Registry
import FormCheck.Unicode.Binary

/-!
Tests for rules that a caller registers besides the built-in ones.
-/
namespace FormCheck.Checks

def even (v : Value) : Bool := v.asNumber?.any Double.isEven

def startsWith (v : Value) (params : List String) : Bool :=
  match v, params with
  | .text s, p :: _ => p.toList.isPrefixOf s.toList
  | _, _ => false

def kindIs (v : Value) (params : List String) : Bool := params.contains v.kind

def textIs (v : Value) (params : List String) : Bool := params.contains v.display

def capitalRanges : List Unicode.Ranges :=
  (Unicode.lookup? Unicode.binaryProperties "uppercase").toList

def isCapital (c : Char) : Bool :=
  if c.toNat < 128 then c.isUpper else capitalRanges.any (·.contains c)

def kebab : Value → Bool
  | .text s => s.toList.contains '-' && !s.toList.any isCapital
  | _ => false

def namedRules : List Rule :=
  [⟨"even", fun _ v _ => even v, "The :field field must be even."⟩,
    ⟨"kebab", fun _ v _ => kebab v, "The :field field must be kebab-case."⟩,
    ⟨"starts_with", fun _ v params => startsWith v params,
      "The :field field must start with :value."⟩]

def customTest? (kind : String) : Option Test :=
  match kind with
  | "pass" => some fun _ _ _ => true
  | "fail" => some fun _ _ _ => false
  | "even" => some fun _ v _ => even v
  | "starts_with" => some fun _ v params => startsWith v params
  | "kind_is" => some fun _ v params => kindIs v params
  | "text_is" => some fun _ v params => textIs v params
  | _ => none

end FormCheck.Checks
