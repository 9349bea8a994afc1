import FormCheck.Checks.Choice
import FormCheck.Checks.Format
import FormCheck.Checks.Measure
import FormCheck.Checks.Moment
import FormCheck.Checks.Presence
import FormCheck.Checks.Upload
import FormCheck.Network.Address
import FormCheck.Web.Address

/-!
The rules that every registry starts with.
-/
namespace FormCheck

open Checks

def Test.ofValue (f : Value → Bool) : Test := fun _ v _ => f v

def Test.ofParams (f : Value → List String → Bool) : Test := fun _ v params => f v params

def presenceRules : List Rule :=
  [⟨"required", .ofValue required, "The :field field is required."⟩,
    ⟨"filled", .ofValue filled, "The :field field must have a value."⟩,
    ⟨"accepted", .ofValue accepted, "The :field field must be accepted."⟩,
    ⟨"boolean", .ofValue boolean,
      "The :field field must be a boolean (true/false, 1/0, yes/no)."⟩]

def measureRules : List Rule :=
  [⟨"numeric", .ofValue numeric, "The :field field must be a number."⟩,
    ⟨"min", .ofParams Checks.min, "The :field field must be at least :min characters."⟩,
    ⟨"max", .ofParams Checks.max, "The :field field may not be greater than :max characters."⟩,
    ⟨"between", .ofParams between, "The :field field must be between :min and :max."⟩,
    ⟨"size", .ofParams size, "The :field field must have a size of :size."⟩,
    ⟨"in", .ofParams oneOf, "The :field field must be one of the following: :allowed."⟩]

def formatRules : List Rule :=
  [⟨"email", .ofValue (onText email), "The :field field must be a valid email address."⟩,
    ⟨"url", .ofValue (onText Web.isAddress), "The :field field must be a valid URL."⟩,
    ⟨"alpha", .ofValue (onText alpha), "The :field field may only contain letters."⟩,
    ⟨"alpha_num", .ofValue (onText alphaNum),
      "The :field field may only contain letters and numbers."⟩,
    ⟨"alpha_dash", .ofValue (onText alphaDash),
      "The :field field may only contain letters, numbers, dashes and underscores."⟩,
    ⟨"json", .ofValue (onText json), "The :field field must be a valid JSON string."⟩,
    ⟨"uuid", .ofValue (onText uuid), "The :field field must be a valid UUID."⟩,
    ⟨"pattern", .ofParams pattern, "The :field field does not match the required format."⟩]

def addressRules : List Rule :=
  [⟨"ip", .ofValue (onText fun s => Network.isV4 s || Network.isV6 s),
      "The :field field must be a valid IP address."⟩,
    ⟨"ipv4", .ofValue (onText Network.isV4), "The :field field must be a valid IPv4 address."⟩,
    ⟨"ipv6", .ofValue (onText Network.isV6), "The :field field must be a valid IPv6 address."⟩]

def momentRules : List Rule :=
  [⟨"date", date, "The :field field must be a valid date."⟩,
    ⟨"before", before, "The :field field must be a date before :value."⟩,
    ⟨"after", after, "The :field field must be a date after :value."⟩]

def uploadRules : List Rule :=
  [⟨"file", file, "The :field field must be a valid file."⟩,
    ⟨"image", image, "The :field field must be a valid image."⟩]

/-- The comparison of fields is made by the run; the tests of these rules always pass. -/
def crossFieldRules : List Rule :=
  [⟨"confirmed", fun _ _ _ => true, "The :field field confirmation does not match."⟩,
    ⟨"same", fun _ _ _ => true, "The :field field must match :other."⟩,
    ⟨"different", fun _ _ _ => true, "The :field field must be different from :other."⟩]

def builtinRules : List Rule :=
  presenceRules ++ measureRules ++ formatRules ++ addressRules ++ momentRules ++ uploadRules ++
    crossFieldRules

def Registry.builtin : Registry := .ofList builtinRules

end FormCheck
