import FormCheck.Unicode.Binary
import FormCheck.Unicode.Category

/-!
Letters and numbers of all scripts. The characters of ASCII are told by their ranges, the others by
the tables of their categories.
-/
namespace FormCheck.Unicode

def categoryRanges (names : List String) : List Ranges :=
  names.filterMap (lookup? categories)

def letterRanges : List Ranges := categoryRanges ["lu", "ll", "lt", "lm", "lo"]

def numberRanges : List Ranges := categoryRanges ["nd", "nl", "no"]

def isLetter (c : Char) : Bool :=
  if c.toNat < 128 then c.isAlpha else letterRanges.any (·.contains c)

def isNumber (c : Char) : Bool :=
  if c.toNat < 128 then c.isDigit else numberRanges.any (·.contains c)

/-- Letters and what stands for one in a word: marks of vowels, numbers that are letters. -/
def isAlphabetic (c : Char) : Bool :=
  if c.toNat < 128 then c.isAlpha
  else ((lookup? binaryProperties "alpha").any (·.contains c))

end FormCheck.Unicode
