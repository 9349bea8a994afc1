import FormCheck.Calendar.Letters
import FormCheck.Calendar.Reading
import FormCheck.Rules.Registry

/-!
Tests of dates: that a text is one, and that it comes before or after another.
-/
namespace FormCheck.Checks

/-- With a format the text must fit it; without one it may be any text that reads as a moment. -/
def date (env : Surroundings) (v : Value) (params : List String) : Bool :=
  match v with
  | .text s =>
    match params.head? with
    | some format =>
      if format.isEmpty then (Calendar.readMoment? env.now s).isSome
      else Calendar.Letters.fitsFormat env.now.date s format
    | none => (Calendar.readMoment? env.now s).isSome
  | _ => false

def compareMoments (test : Calendar.Moment → Calendar.Moment → Bool) (env : Surroundings)
    (v : Value) (params : List String) : Bool :=
  let reference := params.head?.bind (Calendar.readMoment? env.now)
  let actual := v.asText?.bind (Calendar.readMoment? env.now)
  match actual, reference with
  | some a, some b => test a b
  | _, _ => false

def before : Surroundings → Value → List String → Bool := compareMoments fun a b => a.before b

def after : Surroundings → Value → List String → Bool := compareMoments fun a b => b.before a

end FormCheck.Checks
