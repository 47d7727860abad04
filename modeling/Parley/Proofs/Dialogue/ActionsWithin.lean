import Parley.Dialogue.Resolution

/-!
# The actions within a document

Every action that a document has anywhere, whichever fork, choices and branches it takes to come to
it. What a document or a choice resolves to has no actions within but those of the document or of
the choice.
-/

namespace Parley

mutual

def Line.actionsWithin : Line → List Action
  | ⟨_, _, _, _, _, _, options, _⟩ => match options with
    | some cs => Choice.allWithin cs
    | none => []

def Line.allWithin : List Line → List Action
  | [] => []
  | l :: rest => l.actionsWithin ++ Line.allWithin rest

def Choice.actionsWithin : Choice → List Action
  | ⟨_, _, _, lines, actions, branches⟩ =>
    actions.getD [] ++
      (match lines with
        | some ls => Line.allWithin ls
        | none => []) ++
      match branches with
        | some bs => Branch.allWithin bs
        | none => []

def Choice.allWithin : List Choice → List Action
  | [] => []
  | c :: rest => c.actionsWithin ++ Choice.allWithin rest

def Branch.actionsWithin : Branch → List Action
  | ⟨_, lines, actions⟩ =>
    actions.getD [] ++ match lines with
      | some ls => Line.allWithin ls
      | none => []

def Branch.allWithin : List Branch → List Action
  | [] => []
  | b :: rest => b.actionsWithin ++ Branch.allWithin rest

end

def Fork.actionsWithin (f : Fork) : List Action := f.actions.getD [] ++ Line.allWithin f.lines

def Document.actionsWithin (d : Document) : List Action :=
  d.actions.getD [] ++ Line.allWithin (d.lines.getD []) ++
    (d.forks.getD []).flatMap Fork.actionsWithin

def Resolution.actionsWithin (r : Resolution) : List Action := r.actions ++ Line.allWithin r.lines

theorem Line.actionsWithin_eq (l : Line) :
    l.actionsWithin = Choice.allWithin (l.options.getD []) := by
  obtain ⟨_, _, _, _, _, _, options, _⟩ := l
  cases options <;> rfl

theorem Choice.actionsWithin_eq (c : Choice) :
    c.actionsWithin = c.actions.getD [] ++ Line.allWithin (c.lines.getD []) ++
      Branch.allWithin (c.branches.getD []) := by
  obtain ⟨_, _, _, lines, actions, branches⟩ := c
  cases lines <;> cases branches <;> rfl

theorem Branch.actionsWithin_eq (b : Branch) :
    b.actionsWithin = b.actions.getD [] ++ Line.allWithin (b.lines.getD []) := by
  obtain ⟨_, lines, actions⟩ := b
  cases lines <;> rfl

theorem Line.allWithin_eq_flatMap (ls : List Line) :
    Line.allWithin ls = ls.flatMap Line.actionsWithin := by
  induction ls with
  | nil => rfl
  | cons l rest ih => rw [Line.allWithin, ih, List.flatMap_cons]

theorem Choice.allWithin_eq_flatMap (cs : List Choice) :
    Choice.allWithin cs = cs.flatMap Choice.actionsWithin := by
  induction cs with
  | nil => rfl
  | cons c rest ih => rw [Choice.allWithin, ih, List.flatMap_cons]

theorem Branch.allWithin_eq_flatMap (bs : List Branch) :
    Branch.allWithin bs = bs.flatMap Branch.actionsWithin := by
  induction bs with
  | nil => rfl
  | cons b rest ih => rw [Branch.allWithin, ih, List.flatMap_cons]

theorem Resolution.mem_of_firstPassing {α : Type} {supply : Supply} {checks : α → List Check}
    {as : List α} {s : Stock} {a : α} (h : (firstPassing supply checks as s).1 = some a) :
    a ∈ as := by
  induction as generalizing s with
  | nil => cases h
  | cons b rest ih =>
    unfold firstPassing at h
    split at h
    · cases h
      exact List.mem_cons_self
    · exact List.mem_cons_of_mem _ (ih h)

theorem Choice.exists_resolve (supply : Supply) (c : Choice) (s : Stock) :
    ∃ b, (c.resolve supply s).1 = Resolution.ofBranch c b ∧
      ∀ b', b = some b' → b' ∈ c.branches.getD [] :=
  ⟨_, rfl, fun _ h => Resolution.mem_of_firstPassing h⟩

theorem Document.exists_resolve (supply : Supply) (d : Document) (s : Stock) :
    ∃ f, (d.resolve supply s).1 = Resolution.ofFork d f ∧
      ∀ f', f = some f' → f' ∈ d.forks.getD [] :=
  ⟨_, rfl, fun _ h => Resolution.mem_of_firstPassing h⟩

theorem mem_of_mem_orElse {α β : Type} (within : List α → List β) {x y : Option (List α)} {b : β}
    (h : b ∈ within ((x <|> y).getD [])) : b ∈ within (x.getD []) ∨ b ∈ within (y.getD []) := by
  cases x with
  | none => exact .inr h
  | some as => exact .inl h

theorem Choice.mem_of_resolve {supply : Supply} {c : Choice} {s : Stock} {a : Action}
    (h : a ∈ (c.resolve supply s).1.actionsWithin) : a ∈ c.actionsWithin := by
  obtain ⟨b, hresolve, hmem⟩ := c.exists_resolve supply s
  rw [hresolve] at h
  rw [c.actionsWithin_eq]
  cases b with
  | none => exact List.mem_append_left _ h
  | some b =>
    have hb : a ∈ b.actionsWithin → a ∈ Branch.allWithin (c.branches.getD []) := by
      intro ha
      rw [Branch.allWithin_eq_flatMap]
      exact List.mem_flatMap.mpr ⟨b, hmem b rfl, ha⟩
    rw [b.actionsWithin_eq] at hb
    simp only [List.mem_append] at hb ⊢
    rcases List.mem_append.mp h with ha | ha
    · rcases mem_of_mem_orElse (fun as => as) ha with ha | ha
      · exact .inr (hb (.inl ha))
      · exact .inl (.inl ha)
    · rcases mem_of_mem_orElse Line.allWithin ha with ha | ha
      · exact .inr (hb (.inr ha))
      · exact .inl (.inr ha)

theorem Document.mem_of_resolve {supply : Supply} {d : Document} {s : Stock} {a : Action}
    (h : a ∈ (d.resolve supply s).1.actionsWithin) : a ∈ d.actionsWithin := by
  obtain ⟨f, hresolve, hmem⟩ := d.exists_resolve supply s
  rw [hresolve] at h
  unfold Document.actionsWithin
  cases f with
  | none => exact List.mem_append_left _ h
  | some f =>
    have hf : a ∈ f.actionsWithin → a ∈ (d.forks.getD []).flatMap Fork.actionsWithin := by
      intro ha
      exact List.mem_flatMap.mpr ⟨f, hmem f rfl, ha⟩
    simp only [Fork.actionsWithin, List.mem_append] at hf ⊢
    rcases List.mem_append.mp h with ha | ha
    · rcases mem_of_mem_orElse (fun as => as) ha with ha | ha
      · exact .inr (hf (.inl ha))
      · exact .inl (.inl ha)
    · exact .inr (hf (.inr ha))

end Parley
