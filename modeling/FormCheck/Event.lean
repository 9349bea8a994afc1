/-!
What is logged while a validator is set up and used, and results with the events on the way to
them.
-/
namespace FormCheck

inductive Level where
  | trace
  | debug
  | warn
  deriving DecidableEq

inductive Event where
  | ruleFailed (field rule kind : String)
  | validationFinished (fields errors : Nat) (locale : String)
  | ruleOverridden (rule : String)
  | tableLoaded (locale : String) (entries : Nat)
  | fallbackUsed (requested fallback : String)
  | fallbackWithoutTable (locale : String)
  | configured (locale : String) (sanitize : Bool) (overrides : Nat)
  deriving DecidableEq

namespace Event

def level : Event → Level
  | ruleFailed .. => .trace
  | fallbackWithoutTable _ => .warn
  | _ => .debug

def text : Event → String
  | ruleFailed .. => "rule failed"
  | validationFinished .. => "validation finished"
  | ruleOverridden _ => "rule overridden"
  | tableLoaded .. => "loaded locale table"
  | fallbackUsed .. => "locale not available, using fallback"
  | fallbackWithoutTable _ => "fallback locale has no message table"
  | configured .. => "validator configured"

def fields : Event → List (String × String)
  | ruleFailed field rule kind => [("field", field), ("rule", rule), ("value_kind", kind)]
  | validationFinished fields errors locale =>
    [("fields", toString fields), ("errors", toString errors), ("locale", locale)]
  | ruleOverridden rule => [("rule", rule)]
  | tableLoaded locale entries => [("locale", locale), ("entries", toString entries)]
  | fallbackUsed requested fallback => [("requested", requested), ("fallback", fallback)]
  | fallbackWithoutTable locale => [("locale", locale)]
  | configured locale sanitize overrides =>
    [("locale", locale), ("sanitize", if sanitize then "true" else "false"),
      ("custom_messages", toString overrides)]

end Event

def Level.name : Level → String
  | trace => "TRACE"
  | debug => "DEBUG"
  | warn => "WARN"

/-- A result and the events on the way to it, in order. -/
structure Logged (α : Type) where
  value : α
  events : List Event

namespace Logged

instance : Monad Logged where
  pure x := ⟨x, []⟩
  bind m f := ⟨(f m.value).value, m.events ++ (f m.value).events⟩

def log (e : Event) : Logged Unit := ⟨(), [e]⟩

@[simp] theorem value_pure {α : Type} (x : α) : (pure x : Logged α).value = x := rfl

@[simp] theorem events_pure {α : Type} (x : α) : (pure x : Logged α).events = [] := rfl

@[simp] theorem value_bind {α β : Type} (m : Logged α) (f : α → Logged β) :
    (m >>= f).value = (f m.value).value := rfl

@[simp] theorem events_bind {α β : Type} (m : Logged α) (f : α → Logged β) :
    (m >>= f).events = m.events ++ (f m.value).events := rfl

end Logged

end FormCheck
