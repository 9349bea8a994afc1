import FormCheck.Calendar.Layout
import FormCheck.Calendar.Standard
import FormCheck.Text.Case

/-!
Moments read without a given format: the words for days near today, the two standard forms, then
a list of layouts of which the first that fits decides.
-/
namespace FormCheck.Calendar

def momentLayouts : List String :=
  ["%Y-%m-%d %H:%M:%S", "%Y-%m-%dT%H:%M:%S", "%Y-%m-%d %H:%M", "%Y-%m-%dT%H:%M",
    "%Y-%m-%d %H:%M:%S%.f", "%Y-%m-%dT%H:%M:%S%.f", "%Y/%m/%d %H:%M:%S", "%Y/%m/%d %H:%M"]

def dateLayouts : List String :=
  ["%Y-%m-%d", "%Y/%m/%d", "%m/%d/%Y", "%d-%m-%Y", "%d.%m.%Y", "%B %d, %Y", "%b %d, %Y",
    "%d %B %Y", "%d %b %Y"]

def momentIn? (layout s : String) : Option Moment := do
  let l ← Layout.read? layout.toList
  let f ← l.fields? s
  f.moment? 0

def midnightIn? (layout s : String) : Option Moment := do
  let l ← Layout.read? layout.toList
  let f ← l.fields? s
  match f.date with
  | .ok date => some ⟨date, .midnight⟩
  | .error _ => none

def readInLayouts? (s : String) : Option Moment :=
  (momentLayouts.findSome? fun l => momentIn? l s).or
    (dateLayouts.findSome? fun l => midnightIn? l s)

def wordMoment? (now : Moment) (s : String) : Option (Option Moment) :=
  let midnight (d : Option Date) : Option Moment := d.map fun date => ⟨date, .midnight⟩
  match Text.lower s with
  | "now" => some (some now)
  | "today" => some (midnight now.date)
  | "tomorrow" => some (midnight now.date.next?)
  | "yesterday" => some (midnight now.date.previous?)
  | _ => none

def readMoment? (now : Moment) (s : String) : Option Moment :=
  let s := Text.trim s
  if s.isEmpty then none
  else match wordMoment? now s with
    | some m => m
    | none =>
      ((timestampFields? s.toList).bind Fields.universal?).or <|
        ((headerFields? s.toList).bind Fields.universal?).or <|
          readInLayouts? s

end FormCheck.Calendar
