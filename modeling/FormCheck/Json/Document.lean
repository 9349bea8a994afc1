import FormCheck.Json.Token

/-!
JSON texts as trees of their tokens. A text is a JSON document if and only if it has such a tree;
nothing bounds its depth, the size of its numbers or the escapes in its strings.
-/
namespace FormCheck.Json

inductive Document where
  | null
  | bool (b : Bool)
  | number (n : Numeral)
  | string (units : List Unit)
  | array (items : List Document)
  | object (members : List (List Unit × Document))

namespace Document

/-- An array or object begun but not closed, with what it holds so far in reverse. -/
inductive Frame where
  | array (items : List Document)
  | object (members : List (List Unit × Document))
  | member (members : List (List Unit × Document)) (key : List Unit)

inductive Stage where
  | value
  | itemOrClose
  | keyOrClose
  | key
  | colon
  | separator
  | done (d : Document)

structure State where
  frames : List Frame
  stage : Stage

def start : State := ⟨[], .value⟩

def complete (d : Document) : List Frame → Option State
  | [] => some ⟨[], .done d⟩
  | .array items :: frames => some ⟨.array (d :: items) :: frames, .separator⟩
  | .member members key :: frames => some ⟨.object ((key, d) :: members) :: frames, .separator⟩
  | .object _ :: _ => none

def begin (frames : List Frame) : Token → Option State
  | .null => complete .null frames
  | .bool b => complete (.bool b) frames
  | .number n => complete (.number n) frames
  | .string units => complete (.string units) frames
  | .openArray => some ⟨.array [] :: frames, .itemOrClose⟩
  | .openObject => some ⟨.object [] :: frames, .keyOrClose⟩
  | _ => none

def step (s : State) (t : Token) : Option State :=
  match s.stage, t, s.frames with
  | .value, t, frames => begin frames t
  | .itemOrClose, .closeArray, .array items :: frames => complete (.array items.reverse) frames
  | .itemOrClose, t, frames => begin frames t
  | .keyOrClose, .closeObject, .object members :: frames =>
    complete (.object members.reverse) frames
  | .keyOrClose, .string key, .object members :: frames
  | .key, .string key, .object members :: frames =>
    some ⟨.member members key :: frames, .colon⟩
  | .colon, .colon, frames => some ⟨frames, .value⟩
  | .separator, .comma, .array items :: frames => some ⟨.array items :: frames, .value⟩
  | .separator, .comma, .object members :: frames => some ⟨.object members :: frames, .key⟩
  | .separator, .closeArray, .array items :: frames => complete (.array items.reverse) frames
  | .separator, .closeObject, .object members :: frames =>
    complete (.object members.reverse) frames
  | _, _, _ => none

def ofTokens? (ts : List Token) : Option Document :=
  match ts.foldlM step start with
  | some ⟨[], .done d⟩ => some d
  | _ => none

def read? (s : String) : Option Document :=
  (tokens? s).bind ofTokens?

end Document

end FormCheck.Json
