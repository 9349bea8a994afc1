import FormCheck.Json.Value
import FormCheck.Files.Tree
import FormCheck.Text.Blank

/-!
Mistakes of the caller: rules that cannot be read or are not known, tables and files that cannot
be used, and JSON of the wrong shape. Data that fails its rules is no mistake of this kind.
-/
namespace FormCheck

inductive JsonFault where
  | undecodable
  | notUpload
  | dataNotObject
  | rulesNotObject
  | segmentNotString (field : String) (found : Json)
  | rulesOfNoShape (field : String) (found : Json)
  | parameterNotScalar (field rule : String) (found : Json)

inductive Mistake where
  | unknownRule (name : String)
  | emptySegment (segment : String)
  /-- A segment of a rule text has no name before its colon. -/
  | namelessSegment (text segment : String)
  | badTable (locale : String)
  | unreadable (path : String) (reason : Files.ReadError)
  | badJson (fault : JsonFault)

namespace JsonFault

def message : JsonFault → String
  | undecodable => ""
  | notUpload => "objects are only supported as upload descriptors"
  | dataNotObject => "input data must be a JSON object"
  | rulesNotObject => "rules must be a JSON object"
  | segmentNotString field found =>
    "rules for `" ++ field ++ "` must be strings, found " ++ found.write
  | rulesOfNoShape field found =>
    "rules for `" ++ field ++ "` must be a string, array or object, found " ++ found.write
  | parameterNotScalar field rule found =>
    "parameter of `" ++ field ++ "." ++ rule ++ "` must be a scalar, found " ++ found.write

end JsonFault

namespace Mistake

def code : Mistake → String
  | unknownRule _ => "RULE_UNKNOWN"
  | emptySegment _ | namelessSegment _ _ => "RULE_MALFORMED"
  | badTable _ => "LOCALE_INVALID"
  | unreadable _ _ => "INPUT_IO"
  | badJson _ => "INPUT_JSON"

def category : Mistake → String
  | unknownRule _ | emptySegment _ | namelessSegment _ _ => "configuration"
  | badTable _ => "locale"
  | unreadable _ _ | badJson _ => "input"

private def malformed (text reason : String) : String :=
  "malformed rule string `" ++ text ++ "`: " ++ reason

def message : Mistake → String
  | unknownRule name => "unknown validation rule `" ++ name ++ "`"
  | emptySegment segment => malformed segment "empty rule"
  | namelessSegment text segment =>
    malformed text ("segment `" ++ Text.trim segment ++ "` has an empty rule name")
  | badTable locale => "invalid locale table for `" ++ locale ++ "`"
  | unreadable path reason => "failed to read `" ++ path ++ "`: " ++ reason.message
  | badJson fault =>
    "unsupported JSON input" ++ if fault.message.isEmpty then "" else ": " ++ fault.message

end Mistake

end FormCheck
