import FormCheck.Files.Tree
import FormCheck.Calendar.Moment

/-!
What a check may look at besides the value: the files and the present moment.
-/
namespace FormCheck

structure Surroundings where
  files : Files.Tree
  now : Calendar.Moment

end FormCheck
