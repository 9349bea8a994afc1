import FormCheck.Proofs.Markup.Escaped
import FormCheck.Proofs.Text.Blank
import FormCheck.Sanitize

/-!
Cleaning twice is cleaning once, and it keeps what a value is built of. Escaping puts no padding at
the ends of a stripped text, and lists are cleaned at each of their places.
-/
namespace FormCheck

theorem sanitizeText_eq_escape {s : String} (hfirst : s.toList.head?.any isPadding = false)
    (hlast : s.toList.getLast?.any isPadding = false) : sanitizeText s = Markup.escape s := by
  rw [sanitizeText, stripPadding, Text.strip_eq_self hfirst hlast, Markup.escape]

theorem toList_sanitizeText (s : String) :
    (sanitizeText s).toList = Markup.escapeChars (stripPadding s.toList) :=
  String.toList_ofList

theorem sanitizeText_sanitizeText (s : String) :
    sanitizeText (sanitizeText s) = sanitizeText s := by
  have hfirst : (sanitizeText s).toList.head?.any isPadding = false := by
    rw [toList_sanitizeText]
    exact Markup.head?_escapeChars (by decide) (Text.head?_strip _ _)
  have hlast : (sanitizeText s).toList.getLast?.any isPadding = false := by
    rw [toList_sanitizeText]
    exact Markup.getLast?_escapeChars (by decide) (Text.getLast?_strip _ _)
  rw [sanitizeText_eq_escape hfirst hlast, Markup.escape, toList_sanitizeText,
    Markup.escapeChars_escapeChars, sanitizeText]

/-- The first ampersand begins no reference, though a semicolon follows. -/
example : sanitizeText "\t&am<p; &amp; " = "&amp;am&lt;p; &amp;" := by decide

theorem sanitizeText_eq_empty_iff {s : String} :
    sanitizeText s = "" ↔ ∀ c ∈ s.toList, isPadding c = true := by
  rw [← String.toList_eq_nil_iff, toList_sanitizeText, Markup.escapeChars_eq_nil_iff]
  exact Text.strip_eq_nil_iff

namespace Value

private theorem sanitizeAll_eq_map (items : List Value) :
    sanitizeAll items = items.map sanitize := by
  induction items with
  | nil => rfl
  | cons v vs ih => rw [sanitizeAll, ih, List.map_cons]

theorem sanitize_eq_null_iff {v : Value} : v.sanitize = .null ↔ v = .null := by
  cases v <;> simp [sanitize]

mutual

theorem sanitize_sanitize : ∀ v : Value, v.sanitize.sanitize = v.sanitize
  | .text s => by rw [sanitize, sanitize, sanitizeText_sanitizeText]
  | .list items => by rw [sanitize, sanitize, sanitizeAll_sanitizeAll items]
  | .null | .bool _ | .int _ | .float _ | .upload _ => rfl

private theorem sanitizeAll_sanitizeAll : ∀ items : List Value,
    sanitizeAll (sanitizeAll items) = sanitizeAll items
  | [] => rfl
  | v :: vs => by
    rw [sanitizeAll, sanitizeAll, sanitize_sanitize v, sanitizeAll_sanitizeAll vs]

end

/-- The node that a path of positions leads to from the value down. -/
def node? : Value → List Nat → Option Value
  | v, [] => some v
  | list items, i :: path => items[i]?.bind fun item => item.node? path
  | _, _ :: _ => none

def length? : Value → Option Nat
  | list items => some items.length
  | _ => none

theorem kind_sanitize (v : Value) : v.sanitize.kind = v.kind := by
  cases v <;> rfl

private theorem length?_sanitize (v : Value) : v.sanitize.length? = v.length? := by
  cases v with
  | list items => rw [sanitize, sanitizeAll_eq_map, length?, List.length_map, length?]
  | _ => rfl

private theorem node?_sanitize (v : Value) (path : List Nat) :
    v.sanitize.node? path = (v.node? path).map sanitize := by
  induction path generalizing v with
  | nil => rfl
  | cons i path ih =>
    cases v with
    | list items =>
      rw [sanitize, sanitizeAll_eq_map, node?, node?, List.getElem?_map]
      cases items[i]? with
      | none => rfl
      | some item => exact ih item
    | _ => rfl

/-- A clean value is left alone by cleaning. Every node stays where it is and keeps its kind, and
every list its length. -/
theorem sanitize_settles_every_node (v : Value) :
    v.sanitize.sanitize = v.sanitize ∧
    ∀ path, v.sanitize.node? path = (v.node? path).map sanitize ∧
      (v.sanitize.node? path).map kind = (v.node? path).map kind ∧
      (v.sanitize.node? path).bind length? = (v.node? path).bind length? := by
  refine ⟨v.sanitize_sanitize, fun path => ?_⟩
  have hp := v.node?_sanitize path
  refine ⟨hp, ?_, ?_⟩
  · rw [hp, Option.map_map]
    congr 1
    funext node
    exact node.kind_sanitize
  · rw [hp, Option.bind_map]
    congr 1
    funext node
    exact node.length?_sanitize

end Value

end FormCheck
