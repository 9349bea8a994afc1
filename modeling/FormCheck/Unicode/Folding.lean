import FormCheck.Text.Split
import FormCheck.Unicode.FoldingTable
import FormCheck.Unicode.Ranges

/-!
Letter case of all scripts: which characters differ in case only.
-/
namespace FormCheck.Unicode

def foldingGroups : List (List Nat) :=
  (Text.splitOn ';' foldingText.toList).map fun group =>
    (Ranges.ofText (String.ofList group)).bounds.toList.map Prod.fst

end FormCheck.Unicode
