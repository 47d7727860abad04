import Parley.Validation.Issue

/-!
# Documents whose choices can all be selected

A choice is selected by its id, so of two choices of a line with one id the second can never be
selected. Of all flaws only this one, and having no lines at all, are errors.
-/

namespace Parley

mutual

/-- Each choice of the line, and below it, can be selected. -/
inductive Line.Selectable : Line → Prop
  | intro {l : Line} (ids : ((l.options.getD []).map Choice.id).Nodup)
      (choices : ∀ c ∈ l.options.getD [], Choice.Selectable c) : Line.Selectable l

inductive Choice.Selectable : Choice → Prop
  | intro {c : Choice} (lines : ∀ l ∈ c.lines.getD [], Line.Selectable l)
      (branches : ∀ b ∈ c.branches.getD [], Branch.Selectable b) : Choice.Selectable c

/-- Each choice below the branch can be selected. -/
inductive Branch.Selectable : Branch → Prop
  | intro {b : Branch} (lines : ∀ l ∈ b.lines.getD [], Line.Selectable l) : Branch.Selectable b

end

structure Document.Selectable (d : Document) : Prop where
  lines : ∀ l ∈ d.lines.getD [], l.Selectable
  forks : ∀ f ∈ d.forks.getD [], ∀ l ∈ f.lines, l.Selectable

theorem Line.selectable_iff {l : Line} : l.Selectable ↔
    ((l.options.getD []).map Choice.id).Nodup ∧ ∀ c ∈ l.options.getD [], c.Selectable :=
  ⟨fun h => by cases h; exact ⟨‹_›, ‹_›⟩, fun h => ⟨h.1, h.2⟩⟩

theorem Choice.selectable_iff {c : Choice} : c.Selectable ↔
    (∀ l ∈ c.lines.getD [], l.Selectable) ∧ ∀ b ∈ c.branches.getD [], b.Selectable :=
  ⟨fun h => by cases h; exact ⟨‹_›, ‹_›⟩, fun h => ⟨h.1, h.2⟩⟩

theorem Branch.selectable_iff {b : Branch} :
    b.Selectable ↔ ∀ l ∈ b.lines.getD [], l.Selectable :=
  ⟨fun h => by cases h; assumption, fun h => ⟨h⟩⟩

theorem Document.selectable_iff {d : Document} : d.Selectable ↔
    (∀ l ∈ d.lines.getD [], l.Selectable) ∧ ∀ f ∈ d.forks.getD [], ∀ l ∈ f.lines, l.Selectable :=
  ⟨fun h => ⟨h.lines, h.forks⟩, fun h => ⟨h.1, h.2⟩⟩

def Harmless (flaws : List Flaw) : Prop := ∀ f ∈ flaws, f.kind.severity ≠ .error

theorem harmless_nil : Harmless [] := nofun

theorem harmless_append {fs gs : List Flaw} : Harmless (fs ++ gs) ↔ Harmless fs ∧ Harmless gs :=
  List.forall_mem_append

theorem harmless_ite {p : Prop} [Decidable p] {here : Location} {kind : FlawKind} :
    Harmless (if p then [⟨here, kind⟩] else []) ↔ kind.severity = .error → ¬ p := by
  by_cases h : p <;> simp [Harmless, h]

theorem Action.harmless_flaws (here : Location) (actions : Option (List Action)) :
    Harmless (Action.flaws here actions) := by
  have hfrom (as : List Action) (i : Nat) : Harmless (Action.flawsFrom here i as) := by
    induction as generalizing i with
    | nil => exact harmless_nil
    | cons a rest ih =>
      refine harmless_append.mpr ⟨?_, ih (i + 1)⟩
      intro f hf
      unfold Action.flaw? at hf
      split at hf
      · split at hf
        · obtain rfl := List.mem_singleton.mp hf
          exact nofun
        · cases hf
      · cases hf
  exact hfrom _ 0

theorem Line.flaws_eq (here : Location) (l : Line) :
    l.flaws here = (if l.text == "" && !l.textKey.truthy then [⟨here, .silentLine⟩] else []) ++
      Choice.flawsFrom (here.field "options") 0 [] (l.options.getD []) := by
  obtain ⟨_, _, _, _, _, _, options, _⟩ := l
  cases options <;> rfl

theorem Choice.flaws_eq (here : Location) (seen : List String) (c : Choice) :
    c.flaws here seen =
      (if seen.contains c.id then [⟨here, .duplicateChoice c.id⟩] else []) ++
        (if c.lines.isNone && c.actions.isNone && isBare c.branches then [⟨here, .idleChoice⟩]
          else []) ++
        Line.sectionFlaws (here.field "lines") c.lines ++
        Action.flaws (here.field "actions") c.actions ++
        Branch.flawsFrom (here.field "branches") 0 (c.branches.getD []) := by
  obtain ⟨_, _, _, lines, _, branches⟩ := c
  cases lines <;> cases branches <;> rfl

theorem Branch.flaws_eq (here : Location) (last : Bool) (b : Branch) :
    b.flaws here last = Line.sectionFlaws (here.field "lines") b.lines ++
      Action.flaws (here.field "actions") b.actions ++
      if b.checks.isEmpty && !last then [⟨here, .shadowingBranch⟩] else [] := by
  obtain ⟨_, lines, _⟩ := b
  cases lines <;> rfl

mutual

theorem Line.harmless_flaws (here : Location) : (l : Line) →
    (Harmless (l.flaws here) ↔ l.Selectable)
  | ⟨speaker, text, textKey, emotion, name, nameKey, options, hide⟩ => by
    rw [Line.flaws_eq, harmless_append, harmless_ite, Line.selectable_iff]
    cases options with
    | none => simp [FlawKind.severity, Choice.flawsFrom, harmless_nil]
    | some cs =>
      rw [Option.getD_some, Choice.harmless_flawsFrom (here.field "options") 0 [] cs]
      simp [FlawKind.severity]

theorem Line.harmless_flawsFrom (here : Location) : (i : Nat) → (ls : List Line) →
    (Harmless (Line.flawsFrom here i ls) ↔ ∀ l ∈ ls, l.Selectable)
  | _, [] => by simp [Line.flawsFrom, harmless_nil]
  | i, l :: rest => by
    rw [Line.flawsFrom, harmless_append, List.forall_mem_cons,
      Line.harmless_flaws (here.item i) l, Line.harmless_flawsFrom here (i + 1) rest]

theorem Choice.harmless_flaws (here : Location) (seen : List String) : (c : Choice) →
    (Harmless (c.flaws here seen) ↔ c.id ∉ seen ∧ c.Selectable)
  | ⟨id, text, textKey, lines, actions, branches⟩ => by
    have hlines : Harmless (Line.sectionFlaws (here.field "lines") lines) ↔
        ∀ l ∈ lines.getD [], l.Selectable := by
      cases lines with
      | none => simp [Line.sectionFlaws, Line.flawsFrom, harmless_nil]
      | some ls => exact Line.harmless_flawsFrom (here.field "lines") 0 ls
    have hbranches : Harmless (Branch.flawsFrom (here.field "branches") 0 (branches.getD [])) ↔
        ∀ b ∈ branches.getD [], b.Selectable := by
      cases branches with
      | none => simp [Branch.flawsFrom, harmless_nil]
      | some bs => exact Branch.harmless_flawsFrom (here.field "branches") 0 bs
    rw [Choice.flaws_eq, harmless_append, harmless_append, harmless_append, harmless_append,
      harmless_ite, harmless_ite, hlines, hbranches, Choice.selectable_iff]
    simp [FlawKind.severity, Action.harmless_flaws, and_assoc]

theorem Choice.harmless_flawsFrom (here : Location) : (i : Nat) → (seen : List String) →
    (cs : List Choice) → (Harmless (Choice.flawsFrom here i seen cs) ↔
      (∀ c ∈ cs, c.id ∉ seen) ∧ (cs.map Choice.id).Nodup ∧ ∀ c ∈ cs, c.Selectable)
  | _, _, [] => by simp [Choice.flawsFrom, harmless_nil]
  | i, seen, c :: rest => by
    rw [Choice.flawsFrom, harmless_append, Choice.harmless_flaws (here.item i) seen c,
      Choice.harmless_flawsFrom here (i + 1) (c.id :: seen) rest]
    -- An id that was seen with `c` is one of the ids before it or that of `c` itself.
    simp only [List.mem_cons, not_or, List.map_cons, List.nodup_cons, List.mem_map,
      forall_eq_or_imp, not_exists, not_and]
    constructor
    · rintro ⟨⟨hc, hbelow⟩, hseen, hids, hrest⟩
      exact ⟨⟨hc, fun d hd => (hseen d hd).2⟩, ⟨fun d hd => (hseen d hd).1, hids⟩, hbelow, hrest⟩
    · rintro ⟨⟨hc, hseen⟩, ⟨hnew, hids⟩, hbelow, hrest⟩
      exact ⟨⟨hc, hbelow⟩, fun d hd => ⟨hnew d hd, hseen d hd⟩, hids, hrest⟩

theorem Branch.harmless_flaws (here : Location) (last : Bool) : (b : Branch) →
    (Harmless (b.flaws here last) ↔ b.Selectable)
  | ⟨checks, lines, actions⟩ => by
    have hlines : Harmless (Line.sectionFlaws (here.field "lines") lines) ↔
        ∀ l ∈ lines.getD [], l.Selectable := by
      cases lines with
      | none => simp [Line.sectionFlaws, Line.flawsFrom, harmless_nil]
      | some ls => exact Line.harmless_flawsFrom (here.field "lines") 0 ls
    rw [Branch.flaws_eq, harmless_append, harmless_append, harmless_ite, hlines,
      Branch.selectable_iff]
    simp [FlawKind.severity, Action.harmless_flaws]

theorem Branch.harmless_flawsFrom (here : Location) : (i : Nat) → (bs : List Branch) →
    (Harmless (Branch.flawsFrom here i bs) ↔ ∀ b ∈ bs, b.Selectable)
  | _, [] => by simp [Branch.flawsFrom, harmless_nil]
  | i, b :: rest => by
    rw [Branch.flawsFrom, harmless_append, List.forall_mem_cons,
      Branch.harmless_flaws (here.item i) rest.isEmpty b,
      Branch.harmless_flawsFrom here (i + 1) rest]

end

theorem Fork.harmless_flawsFrom (here : Location) (i : Nat) (fs : List Fork) :
    Harmless (Fork.flawsFrom here i fs) ↔ ∀ f ∈ fs, ∀ l ∈ f.lines, l.Selectable := by
  induction fs generalizing i with
  | nil => simp [Fork.flawsFrom, harmless_nil]
  | cons f rest ih =>
    rw [Fork.flawsFrom, harmless_append, harmless_append, harmless_append, harmless_ite, ih,
      Line.harmless_flawsFrom, List.forall_mem_cons]
    simp [FlawKind.severity, Action.harmless_flaws]

theorem Document.harmless_flaws (d : Document) :
    Harmless d.flaws ↔ d.hasAnyLines = true ∧ d.Selectable := by
  have hnone :
      Harmless (if d.hasAnyLines then [] else [⟨[], .noLines⟩]) ↔ d.hasAnyLines = true := by
    cases d.hasAnyLines <;> simp [Harmless, FlawKind.severity]
  unfold Document.flaws
  dsimp only
  rw [harmless_append, harmless_append, harmless_append, harmless_append, harmless_ite, hnone,
    Document.selectable_iff, Line.sectionFlaws, Line.harmless_flawsFrom, Fork.harmless_flawsFrom]
  simp [FlawKind.severity, Action.harmless_flaws, and_assoc]

end Parley
