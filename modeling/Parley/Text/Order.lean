import Parley.Text.Surrogate

/-!
# The order of texts

Texts are ordered by the code points of their characters, from the first that differs.
-/

namespace Parley

def codePointLE (a b : String) : Bool :=
  !decide (Text.codePoints b.toList < Text.codePoints a.toList)

def sortedTexts (texts : List String) : List String := texts.mergeSort codePointLE

/-- The texts that are not empty, each once, in order of code points. -/
def sortedDistinct (texts : List String) : List String :=
  sortedTexts (texts.filter (· != "")).eraseDups

end Parley
