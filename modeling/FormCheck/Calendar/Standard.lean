import FormCheck.Calendar.Scan

/-!
The two standard ways to write a moment with its offset: that of internet timestamps and that of
mail headers.
-/
namespace FormCheck.Calendar

/-- Reads `2024-01-15T10:30:00.5+01:00`; the letter may be small or a space, a `Z` is no offset. -/
def timestampFields? (s : List Char) : Option Fields := do
  let (year, s) ← scanNumber 4 4 s
  let f ← ({} : Fields).setYear year
  let (month, s) ← scanNumber 2 2 (← scanChar '-' s)
  let f ← f.setMonth month
  let (day, s) ← scanNumber 2 2 (← scanChar '-' s)
  let f ← f.setDay day
  let s ← match s with
    | 't' :: s | 'T' :: s | ' ' :: s => some s
    | _ => none
  let (hour, s) ← scanNumber 2 2 s
  let f ← f.setHour hour
  let (minute, s) ← scanNumber 2 2 (← scanChar ':' s)
  let f ← f.setMinute minute
  let (second, s) ← scanNumber 2 2 (← scanChar ':' s)
  let f ← f.setSecond second
  let (f, s) ← match s with
    | '.' :: s => do
      let (nano, s) ← scanFraction s
      some (← f.setNano nano, s)
    | s => some (f, s)
  let (offset, s) ← match s with
    | 'z' :: s | 'Z' :: s => some (0, s)
    | s => scanOffset true (scanChar ':') s
  if s.isEmpty then f.setOffset offset else none

def zoneHours? (zone : String) : Option Int :=
  match zone with
  | "gmt" | "ut" | "z" => some 0
  | "edt" => some (-4)
  | "est" | "cdt" => some (-5)
  | "cst" | "mdt" => some (-6)
  | "mst" | "pdt" => some (-7)
  | "pst" => some (-8)
  | _ =>
    match zone.toList with
    | [c] => if c.isAlpha ∧ c ≠ 'j' then some 0 else none
    | _ => none

def scanZone : Reader Int := fun s =>
  let letters := s.takeWhile Char.isAlpha
  if letters.isEmpty then scanOffset false some s
  else (zoneHours? (String.ofList (letters.map Char.toLower))).map fun hours =>
    (hours * 3600, s.dropWhile Char.isAlpha)

def closeComment : Nat → List Char → Option (List Char)
  | _, [] => none
  | depth, '\\' :: _ :: s => closeComment depth s
  | depth, '(' :: s => closeComment (depth + 1) s
  | depth, ')' :: s => if depth ≤ 1 then some s else closeComment (depth - 1) s
  | depth, _ :: s => closeComment depth s

def onlyComments (s : List Char) : Nat → Bool
  | 0 => s.isEmpty
  | fuel + 1 =>
    match Text.trimStart s with
    | '(' :: rest =>
      match closeComment 1 rest with
      | some rest => onlyComments rest fuel
      | none => false
    | _ => s.isEmpty

/-- The year of a header: two digits stand for 1950 to 2049, three count from 1900. -/
def headerYear (digits n : Nat) : Nat :=
  if digits = 2 then if n < 50 then n + 2000 else n + 1900
  else if digits = 3 then n + 1900
  else n

/-- Reads `Mon, 15 Jan 2024 10:30:00 +0100`; the weekday and the seconds may be missing. -/
def headerFields? (s : List Char) : Option Fields := do
  let s := Text.trimStart s
  let (f, s) ← match scanShortName weekdayNames s with
    | some (weekday, s) => do
      let s ← scanChar ',' s
      some (← ({} : Fields).setWeekday weekday, s)
    | none => some (({} : Fields), s)
  let (day, s) ← scanNumber 1 2 (Text.trimStart s)
  let f ← f.setDay day
  let (month, s) ← scanShortName monthNames (← scanBlanks s)
  let f ← f.setMonth (month + 1)
  let s ← scanBlanks s
  let (year, rest) ← scanLongNumber 2 s
  let f ← f.setYear (headerYear (s.length - rest.length) year)
  let (hour, s) ← scanNumber 2 2 (← scanBlanks rest)
  let f ← f.setHour hour
  let s ← scanChar ':' (Text.trimStart s)
  let (minute, s) ← scanNumber 2 2 (Text.trimStart s)
  let f ← f.setMinute minute
  let (f, s) ← match scanChar ':' (Text.trimStart s) with
    | some s => do
      let (second, s) ← scanNumber 2 2 (Text.trimStart s)
      some (← f.setSecond second, s)
    | none => some (f, s)
  let (offset, s) ← scanZone (← scanBlanks s)
  if onlyComments s s.length then f.setOffset offset else none

end FormCheck.Calendar
