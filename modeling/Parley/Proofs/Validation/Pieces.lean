import Parley.Proofs.Validation.Whereabouts

/-!
# The pieces of a document

A document is a tree of pieces: a piece has sections by name, and an entry of a section is again a
piece. A way by names and indices leads to one piece only. Every flaw of a document is one of a
piece, and its location is the way to the piece, or goes on from there to the section or the entry
that the flaw is about.
-/

namespace Parley

/-- A part of a document that can be flawed. -/
inductive Piece where
  | document (d : Document)
  | fork (f : Fork)
  | line (l : Line)
  | choice (c : Choice)
  | branch (b : Branch)
  | action (a : Action)

namespace Piece

def sections : Piece → List (String × List Piece)
  | .document d => [("lines", (d.lines.getD []).map .line),
      ("actions", (d.actions.getD []).map .action), ("forks", (d.forks.getD []).map .fork)]
  | .fork f => [("lines", f.lines.map .line), ("actions", (f.actions.getD []).map .action)]
  | .line l => [("options", (l.options.getD []).map .choice)]
  | .choice c => [("lines", (c.lines.getD []).map .line),
      ("actions", (c.actions.getD []).map .action),
      ("branches", (c.branches.getD []).map .branch)]
  | .branch b => [("lines", (b.lines.getD []).map .line),
      ("actions", (b.actions.getD []).map .action)]
  | .action _ => []

/-- A way from a piece leads to a piece. -/
inductive At : Piece → Location → Piece → Prop where
  | here (p : Piece) : At p [] p
  | within {p q r : Piece} {name : String} {entries : List Piece} {i : Nat} {l : Location}
      (list : (name, entries) ∈ p.sections) (entry : entries[i]? = some q) (rest : At q l r) :
      At p (.field name :: .item i :: l) r

/-- What is flawed about a piece: it as a whole, a section of it, or an entry of a section as it
stands among the others. -/
inductive Suffers : Piece → Location → FlawKind → Prop where
  | noLines {d : Document} (lines : d.hasAnyLines = false) : Suffers (.document d) [] .noLines
  | unreachableBase {d : Document} {f : Fork} (last : (d.forks.getD []).getLast? = some f)
      (checks : f.checks = []) : Suffers (.document d) [.field "lines"] .unreachableBase
  | shadowingFork {d : Document} {i : Nat} {f : Fork} (fork : (d.forks.getD [])[i]? = some f)
      (checks : f.checks = []) : Suffers (.document d) [.field "forks", .item i] .shadowingFork
  | silentLine {l : Line} (text : l.text = "") (key : l.textKey.truthy = false) :
      Suffers (.line l) [] .silentLine
  | duplicateChoice {l : Line} {i j : Nat} {c c' : Choice} (before : i < j)
      (earlier : (l.options.getD [])[i]? = some c') (choice : (l.options.getD [])[j]? = some c)
      (same : c'.id = c.id) :
      Suffers (.line l) [.field "options", .item j] (.duplicateChoice c.id)
  | idleChoice {c : Choice} (lines : c.lines = none) (actions : c.actions = none)
      (branches : isBare c.branches = true) : Suffers (.choice c) [] .idleChoice
  | shadowingBranch {c : Choice} {k : Nat} {b : Branch}
      (branch : (c.branches.getD [])[k]? = some b) (checks : b.checks = []) :
      Suffers (.choice c) [.field "branches", .item k] .shadowingBranch
  | smallAmount {item : String} {n : Number} {ifMissing : Bool} (small : n.ltInt 1 = true) :
      Suffers (.action (.giveItem item (some n) ifMissing)) [] (.smallAmount n)

theorem sections_unique {p : Piece} {name : String} {entries entries' : List Piece}
    (h : (name, entries) ∈ p.sections) (h' : (name, entries') ∈ p.sections) :
    entries = entries' := by
  cases p <;> simp only [sections, List.mem_cons, List.mem_nil_iff, or_false, Prod.mk.injEq] at h h'
  all_goals grind

theorem sections_plain {p : Piece} {name : String} {entries : List Piece}
    (h : (name, entries) ∈ p.sections) : (Step.field name).Plain := by
  have hname : ∀ list ∈ p.sections, list.1 ∈ readingOrder := by
    cases p <;> simp [sections, readingOrder]
  exact Step.plain_of_mem (hname _ h)

namespace At

theorem right_unique {p q r : Piece} {l : Location} (h : p.At l q) (h' : p.At l r) : q = r := by
  induction h with
  | here p =>
    cases h'
    rfl
  | within list entry rest ih =>
    cases h' with
    | within list' entry' rest' =>
      cases sections_unique list list'
      cases entry.symm.trans entry'
      exact ih rest'

theorem plain {p q : Piece} {l : Location} (h : p.At l q) : ∀ s ∈ l, s.Plain := by
  induction h with
  | here p => exact nofun
  | within list entry rest ih =>
    exact List.forall_mem_cons.mpr ⟨sections_plain list, List.forall_mem_cons.mpr ⟨trivial, ih⟩⟩

end At

theorem Suffers.plain {p : Piece} {m : Location} {k : FlawKind} (h : p.Suffers m k) :
    ∀ s ∈ m, s.Plain := by
  cases h with
  | unreachableBase => exact List.forall_mem_singleton.mpr (Step.plain_of_mem (by decide))
  | shadowingFork | duplicateChoice | shadowingBranch =>
    refine List.forall_mem_cons.mpr ⟨Step.plain_of_mem (by decide), ?_⟩
    exact List.forall_mem_singleton.mpr trivial
  | _ => exact nofun

theorem sizeOf_lt_of_mem_getD {α : Type} [SizeOf α] {a : α} {entries : Option (List α)}
    (h : a ∈ entries.getD []) : sizeOf a < sizeOf entries := by
  cases entries with
  | none => cases h
  | some as =>
    have : sizeOf a < sizeOf as := List.sizeOf_lt_of_mem h
    simp only [Option.some.sizeOf_spec]
    omega

theorem sizeOf_lt_of_mem_sections {p : Piece} :
    ∀ list ∈ p.sections, ∀ q ∈ list.2, sizeOf q < sizeOf p := by
  rcases p with ⟨_, lines, forks, actions⟩ | ⟨_, lines, actions⟩ | ⟨_, _, _, _, _, _, options, _⟩ |
    ⟨_, _, _, lines, actions, branches⟩ | ⟨_, lines, actions⟩ | a
  all_goals
    simp only [sections, List.forall_mem_cons, List.forall_mem_map, List.not_mem_nil,
      IsEmpty.forall_iff, implies_true, and_true]
  all_goals repeat' apply And.intro
  all_goals intro a ha
  -- The lines of a fork are the only section that cannot be absent.
  case fork.left =>
    have hlt := List.sizeOf_lt_of_mem ha
    simp
    omega
  all_goals
    have hlt := sizeOf_lt_of_mem_getD ha
    simp
    omega

theorem entryInduction {P : Piece → Prop}
    (step : ∀ p, (∀ list ∈ p.sections, ∀ q ∈ list.2, P q) → P p) (p : Piece) : P p :=
  step p fun _ hlist q hq =>
    have : sizeOf q < sizeOf p := sizeOf_lt_of_mem_sections _ hlist q hq
    entryInduction step q
termination_by sizeOf p

/-- A flaw is one of a piece below another that stands at a place. -/
def Explains (p : Piece) (here : Location) (f : Flaw) : Prop :=
  ∃ l q m, p.At l q ∧ f.location = here ++ (l ++ m) ∧ q.Suffers m f.kind

/-- The flaws of an entry and of all below it, the entries around it left aside. A document is no
entry. -/
def alone (here : Location) : Piece → List Flaw
  | .document _ => []
  | .fork f => Fork.flawsAmid here [] f []
  | .line l => l.flaws here
  | .choice c => c.flaws here []
  | .branch b => b.flaws here true
  | .action a => (a.flaw? here).toList

end Piece

theorem mem_flawsAmong_nil {α : Type} {flaws : Location → List α → α → List α → List Flaw}
    {here : Location} {as : List α} {f : Flaw} (h : f ∈ flawsAmong flaws here [] as) :
    ∃ i a, as[i]? = some a ∧ f ∈ flaws (here.item i) (as.take i) a (as.drop (i + 1)) := by
  obtain ⟨before, a, after, rfl, hf⟩ := mem_flawsAmong.mp h
  refine ⟨before.length, a, by simp, ?_⟩
  simpa using hf

theorem Choice.mem_flaws_iff {here : Location} {seen : List String} {c : Choice} {f : Flaw} :
    f ∈ c.flaws here seen ↔
      (c.id ∈ seen ∧ f = ⟨here, .duplicateChoice c.id⟩) ∨ f ∈ c.flaws here [] := by
  rw [Choice.flaws_eq, Choice.flaws_eq here []]
  simp

theorem Branch.mem_flaws_iff {here : Location} {last : Bool} {b : Branch} {f : Flaw} :
    f ∈ b.flaws here last ↔
      ((b.checks = [] ∧ last = false) ∧ f = ⟨here, .shadowingBranch⟩) ∨ f ∈ b.flaws here true := by
  rw [Branch.flaws_eq, Branch.flaws_eq here true]
  simp [or_comm, or_assoc]

theorem Fork.mem_flawsAmid_iff {here : Location} {before after : List Fork} {fork : Fork}
    {f : Flaw} : f ∈ Fork.flawsAmid here before fork after ↔
      ((fork.checks = [] ∧ after ≠ []) ∧ f = ⟨here, .shadowingFork⟩) ∨
        f ∈ Fork.flawsAmid here [] fork [] := by
  unfold Fork.flawsAmid
  simp [or_comm, or_assoc]

namespace Piece

/-- Every flaw of an entry of the piece, taken alone, is of the entry or of a piece below it. -/
def EntriesExplain (p : Piece) : Prop :=
  ∀ list ∈ p.sections, ∀ q ∈ list.2, ∀ here f, f ∈ q.alone here → q.Explains here f

variable {p : Piece} {here : Location} {f : Flaw}

/-- The flaws of a section are of the piece or of what is below, if each is the piece's own or one of
the entry alone. -/
theorem explains_of_section {α : Type} {name : String} {wrap : α → Piece} {entries : List α}
    {flaws : Location → List α → α → List α → List Flaw}
    (ih : p.EntriesExplain) (hlist : (name, entries.map wrap) ∈ p.sections)
    (hentry : ∀ i a, entries[i]? = some a →
      f ∈ flaws ((here.field name).item i) (entries.take i) a (entries.drop (i + 1)) →
        f.location = here ++ [.field name, .item i] ∧ p.Suffers [.field name, .item i] f.kind ∨
          f ∈ (wrap a).alone ((here.field name).item i))
    (h : f ∈ flawsAmong flaws (here.field name) [] entries) : p.Explains here f := by
  obtain ⟨i, a, ha, hf⟩ := mem_flawsAmong_nil h
  rcases hentry i a ha hf with ⟨hlocation, hown⟩ | hbelow
  · exact ⟨[], p, _, .here p, hlocation, hown⟩
  · have hwrap : (entries.map wrap)[i]? = some (wrap a) := by simp [ha]
    obtain ⟨l, q, m, hat, hlocation, hsuffers⟩ :=
      ih _ hlist (wrap a) (List.mem_of_getElem? hwrap) _ f hbelow
    refine ⟨_, q, m, .within hlist hwrap hat, ?_, hsuffers⟩
    simpa [Location.field, Location.item] using hlocation

theorem explains_of_lines {lines : List Line} (ih : p.EntriesExplain)
    (hlist : ("lines", lines.map .line) ∈ p.sections)
    (h : f ∈ Line.flawsFrom (here.field "lines") 0 lines) : p.Explains here f := by
  rw [← List.length_nil (α := Line), Line.flawsFrom_eq] at h
  exact explains_of_section ih hlist (fun _ _ _ hf => .inr hf) h

theorem explains_of_actions {actions : Option (List Action)} (ih : p.EntriesExplain)
    (hlist : ("actions", (actions.getD []).map .action) ∈ p.sections)
    (h : f ∈ Action.flaws (here.field "actions") actions) : p.Explains here f := by
  rw [Action.flaws, ← List.length_nil (α := Action), Action.flawsFrom_eq] at h
  exact explains_of_section ih hlist (fun _ _ _ hf => .inr hf) h

theorem explains_line {l : Line} (ih : (line l).EntriesExplain) (h : f ∈ l.flaws here) :
    (line l).Explains here f := by
  rw [Line.flaws_eq, List.mem_append, List.mem_ite_nil_right, List.mem_singleton] at h
  rcases h with ⟨hsilent, rfl⟩ | hchoices
  · rw [Bool.and_eq_true, beq_iff_eq, Bool.not_eq_true'] at hsilent
    exact ⟨[], _, [], .here _, (List.append_nil _).symm, .silentLine hsilent.1 hsilent.2⟩
  · rw [← List.length_nil (α := Choice), ← List.reverse_nil (α := String),
      ← List.map_nil (f := Choice.id), Choice.flawsFrom_eq] at hchoices
    refine explains_of_section ih List.mem_cons_self ?_ hchoices
    intro j c hc hf
    rcases Choice.mem_flaws_iff.mp hf with ⟨hseen, rfl⟩ | hbelow
    · left
      -- The ids that were seen are those of the choices before.
      simp only [List.mem_reverse, List.mem_map] at hseen
      obtain ⟨c', hc', hsame⟩ := hseen
      obtain ⟨i, hi⟩ := List.mem_iff_getElem?.mp hc'
      rw [List.getElem?_take] at hi
      split at hi
      · rename_i hlt
        exact ⟨by simp [Location.field, Location.item], .duplicateChoice hlt hi hc hsame⟩
      · cases hi
    · exact .inr hbelow

theorem explains_choice {c : Choice} (ih : (choice c).EntriesExplain)
    (h : f ∈ c.flaws here []) : (choice c).Explains here f := by
  rw [Choice.flaws_eq] at h
  simp only [List.append_assoc, List.mem_append, List.mem_ite_nil_right, List.mem_singleton,
    List.contains_nil, Bool.false_eq_true, false_and, false_or] at h
  rcases h with ⟨hidle, rfl⟩ | hlines | hactions | hbranches
  · simp only [Bool.and_eq_true, Option.isNone_iff_eq_none, and_assoc] at hidle
    obtain ⟨hlines, hactions, hbranches⟩ := hidle
    exact ⟨[], _, [], .here _, (List.append_nil _).symm, .idleChoice hlines hactions hbranches⟩
  · exact explains_of_lines ih (by simp [sections]) hlines
  · exact explains_of_actions ih (by simp [sections]) hactions
  · rw [← List.length_nil (α := Branch), Branch.flawsFrom_eq] at hbranches
    have hlist : ("branches", (c.branches.getD []).map .branch) ∈ (choice c).sections := by
      simp [sections]
    refine explains_of_section ih hlist ?_ hbranches
    intro k b hb hf
    rcases Branch.mem_flaws_iff.mp hf with ⟨⟨hchecks, -⟩, rfl⟩ | hbelow
    · exact .inl ⟨by simp [Location.field, Location.item], .shadowingBranch hb hchecks⟩
    · exact .inr hbelow

theorem explains_branch {b : Branch} (ih : (branch b).EntriesExplain)
    (h : f ∈ b.flaws here true) : (branch b).Explains here f := by
  rw [Branch.flaws_eq] at h
  simp only [List.append_assoc, List.mem_append, Bool.not_true, Bool.and_false,
    Bool.false_eq_true, if_false, List.not_mem_nil, or_false] at h
  rcases h with hlines | hactions
  · exact explains_of_lines ih (by simp [sections]) hlines
  · exact explains_of_actions ih (by simp [sections]) hactions

theorem explains_fork {fork : Fork} (ih : (Piece.fork fork).EntriesExplain)
    (h : f ∈ Fork.flawsAmid here [] fork []) : (Piece.fork fork).Explains here f := by
  unfold Fork.flawsAmid at h
  simp only [List.append_assoc, List.mem_append, List.isEmpty_nil, Bool.not_true, Bool.and_false,
    Bool.false_eq_true, if_false, List.not_mem_nil, or_false] at h
  rcases h with hlines | hactions
  · exact explains_of_lines ih (by simp [sections]) hlines
  · exact explains_of_actions ih (by simp [sections]) hactions

theorem explains_action {a : Action} (h : f ∈ (a.flaw? here).toList) :
    (action a).Explains here f := by
  rw [Option.mem_toList] at h
  unfold Action.flaw? at h
  split at h
  · rw [Option.ite_none_right_eq_some] at h
    obtain ⟨hsmall, hf⟩ := h
    cases hf
    exact ⟨[], _, [], .here _, (List.append_nil _).symm, .smallAmount hsmall⟩
  · cases h

theorem explains_alone (p : Piece) : ∀ here f, f ∈ p.alone here → p.Explains here f := by
  induction p using entryInduction with
  | step p ih =>
    intro here f h
    cases p with
    | document d => cases h
    | fork fork => exact explains_fork ih h
    | line l => exact explains_line ih h
    | choice c => exact explains_choice ih h
    | branch b => exact explains_branch ih h
    | action a => exact explains_action h

end Piece

theorem Document.explains {d : Document} {f : Flaw} (h : f ∈ d.flaws) :
    (Piece.document d).Explains [] f := by
  have ih : (Piece.document d).EntriesExplain := fun _ _ q _ => q.explains_alone
  rw [Document.flaws_eq] at h
  simp only [List.append_assoc, List.mem_append] at h
  rcases h with hnone | hlines | hactions | hforks | hbase
  · cases hany : d.hasAnyLines with
    | true => simp [hany] at hnone
    | false =>
      simp only [hany, Bool.false_eq_true, if_false, List.mem_singleton] at hnone
      subst hnone
      exact ⟨[], _, [], .here _, rfl, .noLines hany⟩
  · exact Piece.explains_of_lines ih (by simp [Piece.sections]) hlines
  · exact Piece.explains_of_actions ih (by simp [Piece.sections]) hactions
  · rw [← List.length_nil (α := Fork), Fork.flawsFrom_eq] at hforks
    have hlist : ("forks", (d.forks.getD []).map .fork) ∈ (Piece.document d).sections := by
      simp [Piece.sections]
    refine Piece.explains_of_section ih hlist ?_ hforks
    intro i fork hfork hf
    rcases Fork.mem_flawsAmid_iff.mp hf with ⟨⟨hchecks, -⟩, rfl⟩ | hbelow
    · exact .inl ⟨rfl, .shadowingFork hfork hchecks⟩
    · exact .inr hbelow
  · rw [List.mem_ite_nil_right, List.mem_singleton, Bool.and_eq_true, Option.any_eq_true] at hbase
    obtain ⟨⟨⟨fork, hlast, hchecks⟩, -⟩, rfl⟩ := hbase
    exact ⟨[], _, _, .here _, rfl, .unreachableBase hlast (List.isEmpty_iff.mp hchecks)⟩

end Parley
