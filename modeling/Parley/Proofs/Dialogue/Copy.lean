import Parley.Dialogue.Copy

/-!
# Working copies are the source

A copy that is built anew from every node is equal to its source, so what a conversation does to its
lines can be told in terms of the document.
-/

namespace Parley

mutual

theorem Line.copy_eq : (l : Line) → l.copy = l
  | ⟨speaker, text, textKey, emotion, name, nameKey, options, hide⟩ => by
    cases options with
    | none => rfl
    | some cs => simp only [Line.copy, Choice.copyList_eq cs]

theorem Line.copyList_eq : (ls : List Line) → Line.copyList ls = ls
  | [] => rfl
  | l :: rest => by rw [Line.copyList, Line.copy_eq l, Line.copyList_eq rest]

theorem Choice.copy_eq : (c : Choice) → c.copy = c
  | ⟨id, text, textKey, lines, actions, branches⟩ => by
    cases lines with
    | none =>
      cases branches with
      | none => rfl
      | some bs => simp only [Choice.copy, Branch.copyList_eq bs]
    | some ls =>
      cases branches with
      | none => simp only [Choice.copy, Line.copyList_eq ls]
      | some bs => simp only [Choice.copy, Line.copyList_eq ls, Branch.copyList_eq bs]

theorem Choice.copyList_eq : (cs : List Choice) → Choice.copyList cs = cs
  | [] => rfl
  | c :: rest => by rw [Choice.copyList, Choice.copy_eq c, Choice.copyList_eq rest]

theorem Branch.copy_eq : (b : Branch) → b.copy = b
  | ⟨checks, lines, actions⟩ => by
    cases lines with
    | none => rfl
    | some ls => simp only [Branch.copy, Line.copyList_eq ls]

theorem Branch.copyList_eq : (bs : List Branch) → Branch.copyList bs = bs
  | [] => rfl
  | b :: rest => by rw [Branch.copyList, Branch.copy_eq b, Branch.copyList_eq rest]

end

end Parley
