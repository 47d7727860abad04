import Parley.Proofs.Dialogue.Resolution

/-!
# The weight of lines

A line weighs one, and each of its choices one more and all that the choice can lead to. What a
choice resolves to is lighter than the choice, so a conversation that follows the tree comes to an
end.
-/

namespace Parley

mutual

def Line.weight : Line → Nat
  | ⟨_, _, _, _, _, _, options, _⟩ =>
    1 + match options with
      | some cs => Choice.weightList cs
      | none => 0

def Line.weightList : List Line → Nat
  | [] => 0
  | l :: rest => l.weight + Line.weightList rest

def Choice.weight : Choice → Nat
  | ⟨_, _, _, lines, _, branches⟩ =>
    1 + (match lines with
        | some ls => Line.weightList ls
        | none => 0) +
      match branches with
        | some bs => Branch.weightList bs
        | none => 0

def Choice.weightList : List Choice → Nat
  | [] => 0
  | c :: rest => c.weight + Choice.weightList rest

def Branch.weight : Branch → Nat
  | ⟨_, lines, _⟩ => match lines with
    | some ls => Line.weightList ls
    | none => 0

def Branch.weightList : List Branch → Nat
  | [] => 0
  | b :: rest => b.weight + Branch.weightList rest

end

theorem Line.weight_eq (l : Line) : l.weight = 1 + Choice.weightList (l.options.getD []) := by
  obtain ⟨_, _, _, _, _, _, options, _⟩ := l
  cases options with
  | none => rfl
  | some cs => rw [Line.weight, Option.getD_some]

theorem Choice.weight_eq (c : Choice) :
    c.weight = 1 + Line.weightList (c.lines.getD []) + Branch.weightList (c.branches.getD []) := by
  obtain ⟨_, _, _, lines, _, branches⟩ := c
  cases lines <;> cases branches <;> rfl

theorem Branch.weight_eq (b : Branch) : b.weight = Line.weightList (b.lines.getD []) := by
  obtain ⟨_, lines, _⟩ := b
  cases lines <;> rfl

theorem Line.weight_pos (l : Line) : 0 < l.weight := by
  rw [l.weight_eq]
  omega

@[simp] theorem Line.weightList_cons (l : Line) (rest : List Line) :
    Line.weightList (l :: rest) = l.weight + Line.weightList rest := rfl

theorem Choice.weight_le_of_mem {c : Choice} {cs : List Choice} (h : c ∈ cs) :
    c.weight ≤ Choice.weightList cs := by
  induction cs with
  | nil => cases h
  | cons d rest ih =>
    rw [Choice.weightList]
    rcases List.mem_cons.mp h with rfl | h
    · omega
    · have hrest := ih h
      omega

theorem Branch.weight_le_of_mem {b : Branch} {bs : List Branch} (h : b ∈ bs) :
    b.weight ≤ Branch.weightList bs := by
  induction bs with
  | nil => cases h
  | cons d rest ih =>
    rw [Branch.weightList]
    rcases List.mem_cons.mp h with rfl | h
    · omega
    · have hrest := ih h
      omega

theorem Choice.weight_ofBranch_lt (c : Choice) {b : Option Branch}
    (hb : ∀ b', b = some b' → b' ∈ c.branches.getD []) :
    Line.weightList (Resolution.ofBranch c b).lines < c.weight := by
  rw [c.weight_eq]
  cases b with
  | none =>
    unfold Resolution.ofBranch
    dsimp only
    omega
  | some b =>
    have hle := Branch.weight_le_of_mem (hb b rfl)
    rw [b.weight_eq] at hle
    cases hlines : b.lines with
    | none =>
      have hof : (Resolution.ofBranch c (some b)).lines = c.lines.getD [] := by
        simp [Resolution.ofBranch, hlines]
      rw [hof]
      omega
    | some ls =>
      have hof : (Resolution.ofBranch c (some b)).lines = ls := by
        simp [Resolution.ofBranch, hlines]
      rw [hlines, Option.getD_some] at hle
      rw [hof]
      omega

theorem Choice.weight_resolveOn_lt (c : Choice) (inventory : Option Snapshot) :
    Line.weightList (c.resolveOn inventory).lines < c.weight :=
  c.weight_ofBranch_lt fun _ h => List.mem_of_find?_eq_some h

theorem Line.weight_choice_lt {l : Line} {c : Choice} (h : c ∈ l.options.getD []) :
    c.weight < l.weight := by
  have hle := Choice.weight_le_of_mem h
  rw [l.weight_eq]
  omega

end Parley
