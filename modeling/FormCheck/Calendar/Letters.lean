import FormCheck.Calendar.Layout

/-!
Date formats of one letter an item, such as `d/m/Y`. `layoutText` spells such a format out as the
text of a layout; `fitsFormat` asks whether a text is what a moment is written as in the format.
-/
namespace FormCheck.Calendar.Letters

def itemText? (c : Char) : Option String :=
  match c with
  | 'Y' => "%Y"
  | 'y' => "%y"
  | 'm' => "%m"
  | 'n' => "%-m"
  | 'd' => "%d"
  | 'j' => "%-d"
  | 'H' => "%H"
  | 'G' => "%-H"
  | 'h' => "%I"
  | 'g' => "%-I"
  | 'i' => "%M"
  | 's' => "%S"
  | 'A' => "%p"
  | 'a' => "%P"
  | 'D' => "%a"
  | 'l' => "%A"
  | 'M' => "%b"
  | 'F' => "%B"
  | 'U' => "%s"
  | 'u' => "%6f"
  | 'v' => "%3f"
  | 'O' => "%z"
  | 'P' => "%:z"
  | _ => none

def literalText (c : Char) : List Char :=
  if c = '%' then ['%', '%'] else [c]

/-- A backslash makes the next character stand for itself; at the end it is passed over. -/
def spell : List Char → List Char
  | [] => []
  | ['\\'] => []
  | '\\' :: c :: cs => literalText c ++ spell cs
  | c :: cs =>
    (match itemText? c with
      | some text => text.toList
      | none => literalText c) ++ spell cs

def layoutText (format : String) : String :=
  String.ofList (spell format.toList)

/-- The local moment that fields stand for; a time alone is taken on the day `today`. -/
def localMoment? (today : Date) (f : Fields) : Option Moment :=
  (f.moment? 0).or <|
    match f.date, f.time with
    | .ok date, _ => some ⟨date, .midnight⟩
    | .error _, .ok time => some ⟨today, time⟩
    | .error _, .error _ => none

/-- Whether the text reads as a moment that is written as the same text again. -/
def fitsFormat (today : Date) (s format : String) : Bool :=
  (do
    let l ← Layout.read? (spell format.toList)
    let f ← l.fields? s
    let m ← localMoment? today f
    let offset := (f.offset.filter Fields.isOffset).getD 0
    let _ ← m.shift? (-offset)
    some (l.write m offset == s)).getD false

end FormCheck.Calendar.Letters
