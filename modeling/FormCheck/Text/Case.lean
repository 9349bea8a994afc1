/-!
Letter case of the twenty-six letters of ASCII. Other letters have no case here.
-/
namespace FormCheck.Text

def lower (s : String) : String :=
  String.ofList (s.toList.map Char.toLower)

def eqIgnoringCase (s t : String) : Bool :=
  s.toList.map Char.toLower == t.toList.map Char.toLower

@[simp] theorem eqIgnoringCase_refl (s : String) : eqIgnoringCase s s = true := by
  simp [eqIgnoringCase]

end FormCheck.Text
