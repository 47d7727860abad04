/-!
# Replacing parts of text

Every occurrence of a part is replaced, from left to right; what is inserted is not searched again.
-/

namespace Parley.Text

def replaceAll (part new : List Char) (cs : List Char) : List Char :=
  match cs with
  | [] => []
  | c :: rest =>
    if part.isPrefixOf (c :: rest) then
      new ++ replaceAll part new (rest.drop (part.length - 1))
    else c :: replaceAll part new rest
termination_by cs.length
decreasing_by
  · simp only [List.length_drop, List.length_cons]
    omega
  · simp

/-- Nothing changes where the part does not occur at the first character. -/
theorem replaceAll_cons_of_not_prefix {part new : List Char} {c : Char} {rest : List Char}
    (h : part.isPrefixOf (c :: rest) = false) :
    replaceAll part new (c :: rest) = c :: replaceAll part new rest := by
  rw [replaceAll]
  simp [h]

end Parley.Text
