import Mathlib.Algebra.BigOperators.Group.List.Basic
import Mathlib.Data.Nat.Cast.Basic
import Mathlib.Data.Set.Card
import Parley.Dialogue.Statistics
import Parley.Proofs.Text.Order
import Parley.Proofs.Validation.Pieces

/-!
# The census of a document

The statistics of a document are told without going through it: as the numbers of ways that lead to
its nodes, and as the items that are named at the end of some way. A piece is counted for itself,
and the ways below it are split by their first two steps, a section and an index, so that what is
counted at every piece for itself adds up to what is counted for the document.
-/

namespace Parley

attribute [ext] Tally

namespace Tally

instance : Zero Tally := ⟨empty⟩

instance : AddMonoid Tally where
  add_assoc a b c := Tally.ext (Nat.add_assoc ..) (Nat.add_assoc ..) (Nat.add_assoc ..)
    (Nat.add_assoc ..) (Nat.add_assoc ..) (List.append_assoc ..)
  zero_add a := Tally.ext (Nat.zero_add _) (Nat.zero_add _) (Nat.zero_add _) (Nat.zero_add _)
    (Nat.zero_add _) (List.nil_append _)
  add_zero a := Tally.ext rfl rfl rfl rfl rfl (List.append_nil _)
  nsmul := nsmulRec

/-- Tallies are added up kind by kind. -/
structure Additive (f : Tally → ℕ) : Prop where
  zero : f 0 = 0
  add : ∀ a b, f (a + b) = f a + f b

theorem Additive.sum {f : Tally → ℕ} (hf : Additive f) (ts : List Tally) :
    f ts.sum = (ts.map f).sum := by
  induction ts with
  | nil => exact hf.zero
  | cons t ts ih => rw [List.sum_cons, hf.add, ih, List.map_cons, List.sum_cons]

theorem mem_items_sum {item : String} {ts : List Tally} :
    item ∈ ts.sum.items ↔ ∃ t ∈ ts, item ∈ t.items := by
  induction ts with
  | nil => exact iff_of_false (fun h => nomatch h) (by simp)
  | cons t ts ih => simp [ih]

end Tally

theorem Line.tallyList_eq_sum (ls : List Line) : Line.tallyList ls = (ls.map Line.tally).sum := by
  induction ls with
  | nil => rfl
  | cons l ls ih => rw [tallyList, ih, List.map_cons, List.sum_cons]

theorem Choice.tallyList_eq_sum (cs : List Choice) :
    Choice.tallyList cs = (cs.map Choice.tally).sum := by
  induction cs with
  | nil => rfl
  | cons c cs ih => rw [tallyList, ih, List.map_cons, List.sum_cons]

theorem Branch.tallyList_eq_sum (bs : List Branch) :
    Branch.tallyList bs = (bs.map Branch.tally).sum := by
  induction bs with
  | nil => rfl
  | cons b bs ih => rw [tallyList, ih, List.map_cons, List.sum_cons]

theorem Fork.tallyList_eq_sum (fs : List Fork) : Fork.tallyList fs = (fs.map Fork.tally).sum := by
  induction fs with
  | nil => rfl
  | cons f fs ih => rw [tallyList, ih, List.map_cons, List.sum_cons]

namespace Piece

def checks : Piece → List Check
  | .fork f => f.checks
  | .branch b => b.checks
  | _ => []

/-- A piece is counted for itself with its checks, and an action with the item that it names. -/
def own : Piece → Tally
  | .document _ => 0
  | .fork f => Check.tally f.checks
  | .line _ => { Tally.empty with lines := 1 }
  | .choice _ => { Tally.empty with options := 1 }
  | .branch b => { Tally.empty with branches := 1 } + Check.tally b.checks
  | .action a => { Tally.empty with actions := 1, items := a.item?.toList }

def tally : Piece → Tally
  | .document d => d.tally
  | .fork f => f.tally
  | .line l => l.tally
  | .choice c => c.tally
  | .branch b => b.tally
  | .action a => (Piece.action a).own

theorem tally_actions (as : Option (List Action)) :
    Action.tally as = (((as.getD []).map .action).map tally).sum := by
  unfold Action.tally
  dsimp only
  induction as.getD [] with
  | nil => rfl
  | cons a as ih =>
    rw [List.map_cons, List.map_cons, List.sum_cons, ← ih]
    refine Tally.ext rfl rfl rfl rfl ?_ ?_
    · change as.length + 1 = 1 + as.length
      omega
    · cases h : a.item? <;> simp [tally, own, h]

/-- A piece is counted for itself, and what is below it for its sections. -/
theorem tally_eq (p : Piece) :
    p.tally = p.own + (p.sections.map fun list => (list.2.map tally).sum).sum := by
  have hzero : Tally.empty = 0 := rfl
  rcases p with ⟨_, lines, forks, actions⟩ | ⟨checks, lines, actions⟩ |
    ⟨_, _, _, _, _, _, options, _⟩ | ⟨_, _, _, lines, actions, branches⟩ |
    ⟨checks, lines, actions⟩ | a
  · simp [tally, own, sections, Document.tally, Line.tallyList_eq_sum, tally_actions,
      Fork.tallyList_eq_sum, add_assoc, Function.comp_def]
  · simp [tally, own, sections, Fork.tally, Line.tallyList_eq_sum, tally_actions, add_assoc,
      Function.comp_def]
  · cases options <;> simp [tally, own, sections, Line.tally, Choice.tallyList_eq_sum, hzero,
      Function.comp_def]
  · cases lines <;> cases branches <;> simp [tally, own, sections, Choice.tally,
      Line.tallyList_eq_sum, tally_actions, Branch.tallyList_eq_sum, add_assoc, hzero,
      Function.comp_def]
  · cases lines <;> simp [tally, own, sections, Branch.tally, Line.tallyList_eq_sum,
      tally_actions, add_assoc, hzero, Function.comp_def]
  · simp [tally, sections]

/-- The ways that go on from entries of a section, which begins with an index. -/
def waysFrom (ways : Piece → Set Location) (name : String) (first : Nat) (entries : List Piece) :
    Set Location :=
  {way | ∃ i q l, entries[i]? = some q ∧ l ∈ ways q ∧ way = .field name :: .item (first + i) :: l}

def waysAmong (ways : Piece → Set Location) (sections : List (String × List Piece)) :
    Set Location :=
  {way | ∃ list ∈ sections, way ∈ waysFrom ways list.1 0 list.2}

variable {ways : Piece → Set Location} {n : Piece → ℕ}

theorem waysFrom_cons (name : String) (first : Nat) (q : Piece) (entries : List Piece) :
    waysFrom ways name first (q :: entries) =
      (fun l => .field name :: .item first :: l) '' ways q ∪
        waysFrom ways name (first + 1) entries := by
  ext way
  simp only [waysFrom, Set.mem_union, Set.mem_image, Set.mem_ofPred_eq]
  constructor
  · rintro ⟨i, r, l, hr, hl, rfl⟩
    cases i with
    | zero =>
      cases hr
      exact .inl ⟨l, hl, rfl⟩
    | succ i => exact .inr ⟨i, r, l, hr, hl, by rw [Nat.add_right_comm, Nat.add_assoc]⟩
  · rintro (⟨l, hl, rfl⟩ | ⟨i, r, l, hr, hl, rfl⟩)
    · exact ⟨0, q, l, rfl, hl, rfl⟩
    · exact ⟨i + 1, r, l, hr, hl, by rw [Nat.add_right_comm, Nat.add_assoc]⟩

/-- Entries of a section are told apart by their indices. -/
theorem encard_waysFrom {entries : List Piece} (h : ∀ q ∈ entries, (ways q).encard = n q)
    (name : String) (first : Nat) :
    (waysFrom ways name first entries).encard = ((entries.map n).sum : ℕ) := by
  induction entries generalizing first with
  | nil => simp [waysFrom]
  | cons q entries ih =>
    obtain ⟨hq, hentries⟩ := List.forall_mem_cons.mp h
    have hdisjoint : Disjoint ((fun l => Step.field name :: .item first :: l) '' ways q)
        (waysFrom ways name (first + 1) entries) := by
      rw [Set.disjoint_left]
      rintro _ ⟨l, -, rfl⟩ ⟨i, r, l', -, -, hsame⟩
      simp only [List.cons.injEq, Step.item.injEq] at hsame
      omega
    have hinjective : Function.Injective fun l => Step.field name :: .item first :: l :=
      fun l l' hsame => List.tail_eq_of_cons_eq (List.tail_eq_of_cons_eq hsame)
    rw [waysFrom_cons, Set.encard_union_eq hdisjoint, hinjective.encard_image, hq, ih hentries,
      List.map_cons, List.sum_cons, Nat.cast_add]

theorem encard_waysAmong {sections : List (String × List Piece)}
    (hnames : (sections.map Prod.fst).Nodup)
    (h : ∀ list ∈ sections, ∀ q ∈ list.2, (ways q).encard = n q) :
    (waysAmong ways sections).encard = ((sections.map fun list => (list.2.map n).sum).sum : ℕ) := by
  induction sections with
  | nil => simp [waysAmong]
  | cons list sections ih =>
    obtain ⟨hlist, hsections⟩ := List.forall_mem_cons.mp h
    rw [List.map_cons, List.nodup_cons] at hnames
    have hsplit : waysAmong ways (list :: sections) =
        waysFrom ways list.1 0 list.2 ∪ waysAmong ways sections := by
      ext way
      simp [waysAmong]
    have hdisjoint : Disjoint (waysFrom ways list.1 0 list.2) (waysAmong ways sections) := by
      rw [Set.disjoint_left]
      rintro _ ⟨i, q, l, -, -, rfl⟩ ⟨list', hlist', j, r, l', -, -, hsame⟩
      simp only [List.cons.injEq, Step.field.injEq] at hsame
      exact hnames.1 (hsame.1 ▸ List.mem_map_of_mem hlist')
    rw [hsplit, Set.encard_union_eq hdisjoint, encard_waysFrom hlist, ih hnames.2 hsections,
      List.map_cons, List.sum_cons, Nat.cast_add]

theorem nodup_sections (p : Piece) : (p.sections.map Prod.fst).Nodup := by
  cases p <;> simp [sections]

/-- The ways that lead to a piece and from there to a node of its own. -/
def places (nodes : Piece → Set Location) (p : Piece) : Set Location :=
  {way | ∃ l q node, p.At l q ∧ node ∈ nodes q ∧ way = l ++ node}

theorem places_eq (nodes : Piece → Set Location) (p : Piece) :
    p.places nodes = nodes p ∪ waysAmong (places nodes) p.sections := by
  ext way
  constructor
  · rintro ⟨l, q, node, hat, hnode, rfl⟩
    cases hat with
    | here => exact .inl hnode
    | within list entry rest =>
      exact .inr ⟨_, list, _, _, _, entry, ⟨_, _, _, rest, hnode, rfl⟩, by simp⟩
  · rintro (hnode | ⟨⟨name, entries⟩, hlist, i, q, _, hq, ⟨l, r, node, hat, hnode, rfl⟩, rfl⟩)
    · exact ⟨[], p, way, .here p, hnode, rfl⟩
    · exact ⟨_, r, node, .within hlist hq hat, hnode, by simp⟩

/-- What a tally counts at every piece for itself is counted below the piece once for each way. -/
theorem encard_places {f : Tally → ℕ} (hf : Tally.Additive f) {nodes : Piece → Set Location}
    (hnodes : ∀ p, (nodes p).encard = f p.own)
    (hown : ∀ p, ∀ node ∈ nodes p, node ∉ waysAmong (places nodes) p.sections) (p : Piece) :
    (p.places nodes).encard = f p.tally := by
  induction p using entryInduction with
  | step p ih =>
    have hsum : f p.tally =
        f p.own + (p.sections.map fun list => (list.2.map fun q => f q.tally).sum).sum := by
      rw [tally_eq, hf.add, hf.sum, List.map_map]
      congr 3
      funext list
      simp [hf.sum, Function.comp_def]
    rw [places_eq, Set.encard_union_eq (Set.disjoint_left.mpr (hown p)), hnodes,
      encard_waysAmong p.nodup_sections ih, hsum, Nat.cast_add]

/-- The ways to pieces of a kind are as many as a tally says that counts one for each piece of the
kind and nothing for the others. -/
theorem encard_ways {α : Type} {wrap : α → Piece} {f : Tally → ℕ} (hf : Tally.Additive f)
    (hwrap : ∀ a, f (wrap a).own = 1) (hother : ∀ p, (∀ a, p ≠ wrap a) → f p.own = 0) (p : Piece) :
    {way | ∃ a, p.At way (wrap a)}.encard = f p.tally := by
  have hnodes (p : Piece) : {way : Location | way = [] ∧ ∃ a, p = wrap a}.encard = f p.own := by
    by_cases hp : ∃ a, p = wrap a
    · obtain ⟨a, rfl⟩ := hp
      simp [hwrap]
    · simp [hp, hother p (not_exists.mp hp)]
  have hways : {way | ∃ a, p.At way (wrap a)} =
      p.places fun q => {way | way = [] ∧ ∃ a, q = wrap a} := by
    ext way
    constructor
    · rintro ⟨a, hat⟩
      exact ⟨way, _, [], hat, ⟨rfl, a, rfl⟩, (List.append_nil way).symm⟩
    · rintro ⟨l, _, _, hat, ⟨rfl, a, rfl⟩, rfl⟩
      exact ⟨a, (List.append_nil l).symm ▸ hat⟩
  rw [hways, encard_places hf hnodes]
  rintro q _ ⟨rfl, -⟩ ⟨list, -, i, r, l, -, -, hsame⟩
  cases hsame

def checkNodes (p : Piece) : Set Location :=
  {way | ∃ i c, p.checks[i]? = some c ∧ way = [.field "checks", .item i]}

theorem encard_checkNodes (p : Piece) : p.checkNodes.encard = p.own.checks := by
  have hown : p.own.checks = p.checks.length := by
    cases p <;> simp [own, checks, Check.tally] <;> rfl
  have himage : p.checkNodes =
      (fun i => [Step.field "checks", .item i]) '' (Finset.range p.checks.length : Set ℕ) := by
    ext way
    simp only [checkNodes, List.getElem?_eq_some_iff]
    constructor
    · rintro ⟨i, _, ⟨hi, -⟩, rfl⟩
      exact ⟨i, by simpa using hi, rfl⟩
    · rintro ⟨i, hi, rfl⟩
      exact ⟨i, _, ⟨by simpa using hi, rfl⟩, rfl⟩
  have hinjective : Function.Injective fun i => [Step.field "checks", .item i] := by
    intro i j hsame
    simpa using hsame
  rw [himage, hinjective.encard_image, Set.encard_coe_eq_coe_finsetCard, Finset.card_range, hown]

theorem checkNodes_not_below (p : Piece) :
    ∀ node ∈ p.checkNodes, node ∉ waysAmong (places checkNodes) p.sections := by
  rintro _ ⟨i, c, -, rfl⟩ ⟨list, hlist, j, q, l, -, -, hsame⟩
  have hname : list.1 ≠ "checks" := by
    have hnames : ∀ list ∈ p.sections, list.1 ≠ "checks" := by
      cases p <;> simp [sections]
    exact hnames list hlist
  simp only [List.cons.injEq, Step.field.injEq] at hsame
  exact hname hsame.1.symm

def CheckAt (p : Piece) (way : Location) (c : Check) : Prop :=
  ∃ l q i, p.At l q ∧ q.checks[i]? = some c ∧ way = l ++ [.field "checks", .item i]

theorem encard_checks (p : Piece) : {way | ∃ c, p.CheckAt way c}.encard = p.tally.checks := by
  have hways : {way | ∃ c, p.CheckAt way c} = p.places checkNodes := by
    ext way
    constructor
    · rintro ⟨c, l, q, i, hat, hc, rfl⟩
      exact ⟨l, q, _, hat, ⟨i, c, hc, rfl⟩, rfl⟩
    · rintro ⟨l, q, _, hat, ⟨i, c, hc, rfl⟩, rfl⟩
      exact ⟨c, l, q, i, hat, hc, rfl⟩
  rw [hways, encard_places ⟨rfl, Tally.checks_add⟩ encard_checkNodes checkNodes_not_below]

/-- The items named below a piece are those that it names and those named below its entries. -/
theorem mem_items_tally {item : String} {p : Piece} :
    item ∈ p.tally.items ↔
      item ∈ p.own.items ∨ ∃ list ∈ p.sections, ∃ q ∈ list.2, item ∈ q.tally.items := by
  rw [tally_eq, Tally.items_add, List.mem_append]
  simp [Tally.mem_items_sum]

/-- An item is named below a piece if it is named at the end of a way. -/
theorem mem_items_iff {item : String} {p : Piece} :
    item ∈ p.tally.items ↔ ∃ way q, p.At way q ∧ item ∈ q.own.items := by
  induction p using entryInduction with
  | step p ih =>
    rw [mem_items_tally]
    constructor
    · rintro (hown | ⟨⟨name, entries⟩, hlist, q, hq, hitem⟩)
      · exact ⟨[], p, .here p, hown⟩
      · obtain ⟨way, r, hat, hr⟩ := (ih _ hlist q hq).mp hitem
        obtain ⟨i, hi⟩ := List.mem_iff_getElem?.mp hq
        exact ⟨_, r, .within hlist hi hat, hr⟩
    · rintro ⟨way, q, hat, hq⟩
      cases hat with
      | here => exact .inl hq
      | within list entry rest =>
        have hentry := List.mem_of_getElem? entry
        exact .inr ⟨_, list, _, hentry, (ih _ list _ hentry).mpr ⟨_, q, rest, hq⟩⟩

/-- A piece names an item by a check of it, or because it gives the item. -/
theorem mem_items_own {item : String} {p : Piece} :
    item ∈ p.own.items ↔ (∃ negate, .hasItem item negate ∈ p.checks) ∨
      ∃ amount ifMissing, p = .action (.giveItem item amount ifMissing) := by
  have hchecks (cs : List Check) :
      item ∈ (Check.tally cs).items ↔ ∃ negate, .hasItem item negate ∈ cs := by
    simp only [Check.tally, List.mem_filterMap]
    constructor
    · rintro ⟨c, hc, hitem⟩
      cases c <;> cases hitem
      exact ⟨_, hc⟩
    · rintro ⟨negate, hc⟩
      exact ⟨_, hc, rfl⟩
  cases p with
  | fork f => simpa [own, checks] using hchecks f.checks
  | branch b => simpa [own, checks, Tally.empty] using hchecks b.checks
  | action a => cases a <;> simp [own, checks, Action.item?, eq_comm]
  | _ => exact iff_of_false (fun h => nomatch h) (by simp [checks])

def Tests (p : Piece) (item : String) : Prop := ∃ way negate, p.CheckAt way (.hasItem item negate)

def Gives (p : Piece) (item : String) : Prop :=
  ∃ way amount ifMissing, p.At way (.action (.giveItem item amount ifMissing))

theorem mem_items_iff_tests_or_gives {item : String} {p : Piece} :
    item ∈ p.tally.items ↔ p.Tests item ∨ p.Gives item := by
  simp only [mem_items_iff, mem_items_own]
  constructor
  · rintro ⟨way, q, hat, ⟨negate, hc⟩ | ⟨amount, ifMissing, rfl⟩⟩
    · obtain ⟨i, hi⟩ := List.mem_iff_getElem?.mp hc
      exact .inl ⟨_, negate, way, q, i, hat, hi, rfl⟩
    · exact .inr ⟨way, amount, ifMissing, hat⟩
  · rintro (⟨_, negate, l, q, i, hat, hc, -⟩ | ⟨way, amount, ifMissing, hat⟩)
    · exact ⟨l, q, hat, .inl ⟨negate, List.mem_of_getElem? hc⟩⟩
    · exact ⟨way, _, hat, .inr ⟨amount, ifMissing, rfl⟩⟩

end Piece

/-- Statistics as they are told without going through the document: by the ways that lead to its
nodes, and by the items at the ends of ways. -/
structure Document.Census (d : Document) (s : Statistics) : Prop where
  lines : {way | ∃ l, (Piece.document d).At way (.line l)}.encard = s.lines
  options : {way | ∃ c, (Piece.document d).At way (.choice c)}.encard = s.options
  branches : {way | ∃ b, (Piece.document d).At way (.branch b)}.encard = s.branches
  checks : {way | ∃ c, (Piece.document d).CheckAt way c}.encard = s.checks
  actions : {way | ∃ a, (Piece.document d).At way (.action a)}.encard = s.actions
  items : ∀ item, item ∈ s.items ↔
    item ≠ "" ∧ ((Piece.document d).Tests item ∨ (Piece.document d).Gives item)
  /-- The items stand in the order of their code points, and none of them twice. -/
  ordered : s.items.Nodup ∧ s.items.Pairwise fun a b =>
    Text.codePoints a.toList ≤ Text.codePoints b.toList
  /-- Items that are texts of code points are in strict order. -/
  strictly : (∀ item ∈ s.items, Text.Carries item) → s.items.Pairwise fun a b =>
    Text.codePoints a.toList < Text.codePoints b.toList

theorem Document.census (d : Document) (errors warnings : ℕ) :
    d.Census (d.statistics errors warnings) where
  lines := by
    refine Piece.encard_ways ⟨rfl, Tally.lines_add⟩ (fun _ => rfl) ?_ (.document d)
    intro p hp
    cases p with
    | line l => exact absurd rfl (hp l)
    | _ => rfl
  options := by
    refine Piece.encard_ways ⟨rfl, Tally.options_add⟩ (fun _ => rfl) ?_ (.document d)
    intro p hp
    cases p with
    | choice c => exact absurd rfl (hp c)
    | _ => rfl
  branches := by
    refine Piece.encard_ways ⟨rfl, Tally.branches_add⟩ (fun _ => rfl) ?_ (.document d)
    intro p hp
    cases p with
    | branch b => exact absurd rfl (hp b)
    | _ => rfl
  checks := Piece.encard_checks (.document d)
  actions := by
    refine Piece.encard_ways ⟨rfl, Tally.actions_add⟩ (fun _ => rfl) ?_ (.document d)
    intro p hp
    cases p with
    | action a => exact absurd rfl (hp a)
    | _ => rfl
  items item := by
    rw [Document.statistics, mem_sortedDistinct, and_comm]
    exact and_congr_right fun _ => Piece.mem_items_iff_tests_or_gives (p := .document d)
  ordered := ⟨nodup_sortedDistinct _, pairwise_sortedTexts _⟩
  strictly := pairwise_sortedDistinct

end Parley
