import FormCheck.Checks.Measure
import FormCheck.Files.Signature
import FormCheck.Text.Case
import FormCheck.Text.Split

/-!
Tests of uploads. The first parameter limits the size, the others are the allowed types; the type
is told by the first bytes of the file, or else by the client.
-/
namespace FormCheck.Checks

def imageTypes : List String :=
  ["image/jpeg", "image/jpg", "image/png", "image/gif", "image/webp", "image/avif",
    "image/svg+xml"]

/-- What is known of the content of an upload. -/
structure Content where
  detected : Option String
  declared : String

def inspect? (env : Surroundings) (v : Value) (params : List String) : Option Content :=
  match v with
  | .upload u =>
    let tooLarge := match bound? params 0 with
      | some limit => !(Double.ofNat u.size.toNat).le limit && !limit.isNaN
      | none => false
    if u.isUsable env.files && !tooLarge then
      match env.files.readBytes u.path with
      | .ok bytes =>
        some ⟨Files.sniff? (bytes.toList.take Files.headLength), u.declaredType⟩
      | .error _ => none
    else none
  | _ => none

def allowList? (params : List String) : Option (List String) :=
  match params.drop 1 with
  | [] => none
  | types => some types

/-- Equal up to case, or of the family that stands before a star. -/
def typeMatches (type allowed : String) : Bool :=
  Text.eqIgnoringCase allowed type ||
    match allowed.toList.reverse, Text.splitFirst? '/' type.toList with
    | '*' :: '/' :: family, some (kind, _) =>
      Text.eqIgnoringCase (String.ofList family.reverse) (String.ofList kind)
    | _, _ => false

def file (env : Surroundings) (v : Value) (params : List String) : Bool :=
  match inspect? env v params with
  | none => false
  | some content =>
    match allowList? params with
    | none => true
    | some types => types.any (typeMatches (content.detected.getD content.declared))

def image (env : Surroundings) (v : Value) (params : List String) : Bool :=
  match (inspect? env v params).bind Content.detected with
  | none => false
  | some type =>
    "image/".toList.isPrefixOf type.toList &&
      match allowList? params with
      | none => imageTypes.contains type
      | some types => types.any (typeMatches type)

end FormCheck.Checks
