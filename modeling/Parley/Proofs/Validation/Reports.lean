import Parley.Proofs.Conversation.Steps
import Parley.Proofs.Inventory.Transcript
import Parley.Proofs.Validation.Filing
import Parley.Proofs.Validation.Pieces

/-!
# What is reported is so

Some flaws say what can never happen when a document is played: a fork, a branch or the base lines
that are not reached, a choice that is not selected, an amount that gives one unit. Validation only
looks at the document, and yet it is right about every inventory and every conversation.
-/

namespace Parley

/-- An issue with the place and the message of a kind of flaw is reported. -/
def Validation.Reports (r : Validation) (place : Location) (k : FlawKind) : Prop :=
  ∃ i, (i ∈ r.errors ∨ i ∈ r.warnings) ∧ i.location = place.write ∧ i.message = k.message

/-- The two letters that the message begins with, which tell kinds of flaws apart. -/
def FlawKind.letters : FlawKind → List Char
  | .noLines => ['D', 'i']
  | .silentLine => ['L', 'i']
  | .duplicateChoice _ => ['D', 'u']
  | .idleChoice => ['O', 'p']
  | .shadowingFork => ['F', 'o']
  | .shadowingBranch => ['B', 'r']
  | .unreachableBase => ['B', 'a']
  | .smallAmount _ => ['A', 'm']

theorem take_toList_append {s t : String} {n : Nat} (h : n ≤ s.toList.length) :
    (s ++ t).toList.take n = s.toList.take n := by
  rw [String.toList_append, List.take_append_of_le_length h]

theorem FlawKind.take_message (k : FlawKind) : k.message.toList.take 2 = k.letters := by
  cases k with
  | duplicateChoice id =>
    have hmessage : (duplicateChoice id).message = "Duplicate option id '" ++ (id ++ "'") :=
      String.append_assoc ..
    rw [hmessage, take_toList_append (by decide)]
    exact (by decide : List.take 2 "Duplicate option id '".toList = ['D', 'u'])
  | smallAmount n =>
    have hmessage : (smallAmount n).message =
        "Amount " ++ (n.write ++ " is below 1 and will grant 1") := String.append_assoc ..
    rw [hmessage, take_toList_append (by decide)]
    exact (by decide : List.take 2 "Amount ".toList = ['A', 'm'])
  | _ => decide +kernel

def BeginsSmall (s : String) : Prop := ∃ c, s.toList.head? = some c ∧ c.isLower = true

theorem beginsSmall_append {s : String} (h : BeginsSmall s) (t : String) : BeginsSmall (s ++ t) := by
  obtain ⟨c, hc, hlower⟩ := h
  refine ⟨c, ?_, hlower⟩
  rw [String.toList_append, List.head?_append, hc]
  rfl

instance (s : String) : Decidable (BeginsSmall s) :=
  match h : s.toList.head? with
  | none => isFalse (by simp [BeginsSmall, h])
  | some c => decidable_of_iff (c.isLower = true) (by simp [BeginsSmall, h])

theorem Wrong.beginsSmall {p : Place} {v : Json} {d : Defect} (h : Wrong p v d)
    (hmild : d.severity ≠ .fatal) : BeginsSmall d.message := by
  cases h with
  | notAList => exact beginsSmall_append (by decide) _
  | notAnObject => exact beginsSmall_append (by decide) _
  | unknownSpeaker =>
    rw [Defect.message_unknownSpeaker]
    exact beginsSmall_append (beginsSmall_append (by decide) _) _
  | unknownEmotion => exact beginsSmall_append (beginsSmall_append (by decide) _) _
  | unknownCheck => exact beginsSmall_append (beginsSmall_append (by decide) _) _
  | unknownAction => exact beginsSmall_append (beginsSmall_append (by decide) _) _
  | amountNotNumber => exact beginsSmall_append (beginsSmall_append (by decide) _) _
  | amountNotFinite => exact beginsSmall_append (beginsSmall_append (by decide) _) _
  | choiceWithoutId => exact (by decide : BeginsSmall Defect.choiceWithoutId.message)
  | checkWithoutItem => exact (by decide : BeginsSmall Defect.checkWithoutItem.message)
  | actionWithoutItem => exact (by decide : BeginsSmall Defect.actionWithoutItem.message)
  | amountTooLarge => exact absurd rfl hmild
  | unwritable => exact absurd rfl hmild

theorem FlawKind.not_beginsSmall (k : FlawKind) : ¬ BeginsSmall k.message := by
  rintro ⟨c, hc, hlower⟩
  have hletters := congrArg List.head? k.take_message
  rw [List.head?_take, if_neg (by decide), hc] at hletters
  cases k <;> (cases hletters; exact absurd hlower (by decide))

theorem Document.not_flaw_of_finding {v : Json} {defaultId : String} {f : Finding}
    (h : f ∈ (Document.read v defaultId).findings) (hmild : f.severity ≠ .fatal)
    {place : Location} (hplace : place.Rooted) (severity : IssueSeverity) (k : FlawKind)
    (hlocation : (Issue.ofFinding severity f).location = place.write) :
    (Issue.ofFinding severity f).message ≠ k.message := by
  have hfiles := Document.files_read h hmild severity
  generalize Issue.ofFinding severity f = i at hfiles hlocation
  cases hfiles with
  | placed hne =>
    intro hmessage
    rcases Document.mem_findings_read h hmild with ⟨id, rfl⟩ | rfl | hdefective
    · exact hne rfl
    · exact hne rfl
    · obtain ⟨p, u, -, hwrong⟩ := hdefective.exists_follow
      exact k.not_beginsSmall (hmessage ▸ hwrong.beginsSmall hmild)
  | whole => exact absurd hlocation.symm hplace.write_ne_wholeDocument

theorem Piece.At.rooted {d : Document} {q : Piece} {l : Location}
    (h : (Piece.document d).At l q) (hl : l ≠ []) : l.Rooted := by
  refine ⟨h.plain, ?_⟩
  cases h with
  | here => exact absurd rfl hl
  | @within _ _ _ name _ _ l list =>
    have hname : ∀ list ∈ (Piece.document d).sections, list.1 ∈ ["lines", "forks", "actions"] := by
      simp [Piece.sections]
    exact ⟨name, _, hname _ list, rfl⟩

theorem Location.Rooted.append {l m : Location} (h : l.Rooted) (hm : ∀ s ∈ m, s.Plain) :
    (l ++ m).Rooted := by
  obtain ⟨name, rest, hname, rfl⟩ := h.begins
  exact ⟨List.forall_mem_append.mpr ⟨h.plain, hm⟩, name, rest ++ m, hname, rfl⟩

theorem Piece.At.rooted_entry {d : Document} {q : Piece} {l : Location}
    (h : (Piece.document d).At l q) (hl : l ≠ []) (name : String)
    (hname : name ∈ readingOrder) (i : Nat) :
    (l ++ [Step.field name, .item i]).Rooted := by
  apply (h.rooted hl).append
  exact List.forall_mem_cons.mpr ⟨Step.plain_of_mem hname, List.forall_mem_singleton.mpr trivial⟩

theorem Location.Rooted.write_inj {l l' : Location} (h : l.Rooted) (h' : l'.Rooted)
    (hwrite : l.write = l'.write) : l = l' := by
  obtain ⟨name, rest, -, rfl⟩ := h.begins
  obtain ⟨name', rest', -, rfl⟩ := h'.begins
  exact Location.write_field_inj h.plain h'.plain hwrite

/-- A flaw is told at a place unless it is about the document as a whole. -/
theorem Document.rooted_of_explains {d : Document} {f : Flaw}
    (h : (Piece.document d).Explains [] f) : f.location = [] ∨ f.location.Rooted := by
  obtain ⟨l, q, m, hat, hlocation, hsuffers⟩ := h
  rw [hlocation, List.nil_append]
  generalize f.kind = k at hsuffers
  by_cases hl : l = []
  · subst hl
    cases hat
    cases hsuffers with
    | noLines => exact .inl rfl
    | unreachableBase last checks =>
      exact .inr ⟨(Piece.Suffers.unreachableBase last checks).plain, _, _, by simp, rfl⟩
    | shadowingFork fork checks =>
      exact .inr ⟨(Piece.Suffers.shadowingFork fork checks).plain, _, _, by simp, rfl⟩
  · exact .inr ((hat.rooted hl).append hsuffers.plain)

theorem Validation.suffers_of_reports {v : Json} {defaultId : String} {r : Validation}
    {d : Document} {place : Location} {k : FlawKind} (h : Validation.ofValue v defaultId = .ok r)
    (hd : r.document = some d) (hplace : place.Rooted) (hreports : r.Reports place k) :
    ∃ l q m k', (Piece.document d).At l q ∧ place = l ++ m ∧ q.Suffers m k' ∧
      k'.letters = k.letters := by
  obtain ⟨i, hi, hlocation, hmessage⟩ := hreports
  obtain ⟨l, hload, rfl⟩ := Validation.exists_load h
  obtain ⟨herrors, hwarnings, hcalm⟩ := Loaded.findings_of_ofNoted hload
  have hfound (f : Finding) (hf : f ∈ l.errors ∨ f ∈ l.warnings) :
      f ∈ (Document.read v defaultId).findings := by
    rw [herrors, hwarnings] at hf
    exact hf.elim List.mem_of_mem_filter List.mem_of_mem_filter
  have hflaw (f : Finding) (hf : f ∈ l.errors ∨ f ∈ l.warnings) (severity : IssueSeverity) :=
    Document.not_flaw_of_finding (hfound f hf) (hcalm f (hfound f hf)) hplace severity k
  rcases (Validation.mem_ofLoaded hd i).mp hi with ⟨f, hf, rfl⟩ | ⟨f, hf, rfl⟩ | ⟨f, hf, rfl⟩
  · exact absurd hmessage (hflaw f (.inl hf) _ hlocation)
  · exact absurd hmessage (hflaw f (.inr hf) _ hlocation)
  · have hexplains := Document.explains hf
    have hplaced := Document.rooted_of_explains hexplains
    obtain ⟨l, q, m, hat, hway, hsuffers⟩ := hexplains
    have hletters : f.kind.letters = k.letters := by
      rw [← f.kind.take_message, ← k.take_message]
      exact congrArg (fun s => s.toList.take 2) hmessage
    refine ⟨l, q, m, f.kind, hat, ?_, hsuffers, hletters⟩
    rw [← List.nil_append (l ++ m), ← hway]
    unfold Issue.ofFlaw at hlocation
    rcases hplaced with hnone | hrooted
    · rw [hnone] at hlocation
      exact absurd hlocation.symm hplace.write_ne_wholeDocument
    · have hsome : f.location.isEmpty = false := by
        obtain ⟨name, rest, -, hbegins⟩ := hrooted.begins
        simp [hbegins]
      simp only [hsome, Bool.false_eq_true, if_false] at hlocation
      exact (hrooted.write_inj hplace hlocation).symm

/-- Whatever the inventory, a fork among the first ones is played: there might as well be no others,
and the document's own lines are not played. -/
def Document.SettledBy (d : Document) (n : Nat) : Prop :=
  ∀ (supply : Supply) (s : Stock),
    d.resolve supply s = { d with forks := d.forks.map (List.take n) }.resolve supply s ∧
    ∃ f ∈ (d.forks.getD []).take n, (d.resolve supply s).1 = .ofFork d (some f)

/-- Whatever the inventory, a branch among the first ones is played: there might as well be no
others, and the choice is not played without a branch. -/
def Choice.SettledBy (c : Choice) (n : Nat) : Prop :=
  ∀ (supply : Supply) (s : Stock),
    c.resolve supply s = { c with branches := c.branches.map (List.take n) }.resolve supply s ∧
    ∃ b ∈ (c.branches.getD []).take n, (c.resolve supply s).1 = .ofBranch c (some b)

/-- An entry without checks passes, so nothing after it is looked at. -/
theorem Resolution.firstPassing_take {α : Type} (checks : α → List Check) {as : List α} {i : Nat}
    {a : α} (ha : as[i]? = some a) (hchecks : checks a = []) (supply : Supply) (s : Stock) :
    firstPassing supply checks as s = firstPassing supply checks (as.take (i + 1)) s ∧
      ∃ b ∈ as.take (i + 1), (firstPassing supply checks as s).1 = some b := by
  induction as generalizing i s with
  | nil => cases ha
  | cons b rest ih =>
    rw [List.take_succ_cons]
    cases hb : passes supply (checks b) s with
    | mk passed s' =>
      cases passed with
      | true => simp [firstPassing, hb]
      | false =>
        cases i with
        | zero =>
          cases ha
          rw [hchecks] at hb
          cases hb
        | succ i =>
          obtain ⟨hsame, c, hc, hfound⟩ := ih ha s'
          simp only [firstPassing, hb]
          exact ⟨hsame, c, List.mem_cons_of_mem b hc, hfound⟩

theorem getD_map_take {α : Type} (entries : Option (List α)) (n : Nat) :
    (entries.map (List.take n)).getD [] = (entries.getD []).take n := by
  cases entries <;> simp

theorem Document.settledBy_of_fork {d : Document} {i : Nat} {f : Fork}
    (hf : (d.forks.getD [])[i]? = some f) (hchecks : f.checks = []) : d.SettledBy (i + 1) := by
  intro supply s
  obtain ⟨hsame, g, hg, hfound⟩ :=
    Resolution.firstPassing_take Fork.checks hf hchecks supply s
  constructor
  · simp only [resolve, getD_map_take, ← hsame, hfound]
    rfl
  · refine ⟨g, hg, ?_⟩
    simp only [resolve, hfound]

theorem Choice.settledBy_of_branch {c : Choice} {k : Nat} {b : Branch}
    (hb : (c.branches.getD [])[k]? = some b) (hchecks : b.checks = []) : c.SettledBy (k + 1) := by
  intro supply s
  obtain ⟨hsame, g, hg, hfound⟩ :=
    Resolution.firstPassing_take Branch.checks hb hchecks supply s
  constructor
  · simp only [resolve, getD_map_take, ← hsame, hfound]
    rfl
  · refine ⟨g, hg, ?_⟩
    simp only [resolve, hfound]

def Engine.pick {τ : Type} [Translation τ] (w : Surroundings τ) (line : Line) (choice : Choice) :
    Play Unit := fun e =>
  match localize w choice.textKey choice.text with
  | .error fault => (.error fault, e)
  | .ok text => renderCurrent w (e.answered w.supply line choice text)

/-- While the line is on screen, a selection does nothing or picks another choice than that of a
number. -/
def Line.NeverPicks (l : Line) (j : Nat) : Prop :=
  ∀ (τ : Type) [Translation τ] (w : Surroundings τ) (e : Engine) (id : String),
    e.session.current? = some l →
      Engine.select w id e = (.ok (), e) ∨
        ∃ k c, k ≠ j ∧ (l.options.getD [])[k]? = some c ∧ c.id = id ∧
          Engine.select w id e = Engine.pick w l c e

theorem Line.neverPicks_of_earlier {l : Line} {i j : Nat} {c c' : Choice} (hlt : i < j)
    (hearlier : (l.options.getD [])[i]? = some c') (hchoice : (l.options.getD [])[j]? = some c)
    (hsame : c'.id = c.id) : l.NeverPicks j := by
  intro τ _ w e id hcurrent
  cases hoffered : e.offered id with
  | none => exact .inl (Engine.select_of_not_offered hoffered)
  | some found =>
    obtain ⟨line, chosen⟩ := found
    obtain ⟨-, hline, hfind⟩ := Engine.of_offered hoffered
    cases hcurrent.symm.trans hline
    obtain ⟨hid, before, after, hsplit, hbefore⟩ := List.find?_eq_some_iff_append.mp hfind
    rw [beq_iff_eq] at hid
    refine .inr ⟨before.length, chosen, ?_, by simp [hsplit], hid,
      Engine.select_of_offered hoffered⟩
    -- The earlier choice has the id as well, but no choice before the chosen one has.
    rintro rfl
    rw [hsplit] at hearlier hchoice
    rw [List.getElem?_append_left hlt] at hearlier
    rw [List.getElem?_append_right (Nat.le_refl _), Nat.sub_self] at hchoice
    cases hchoice
    have hother := hbefore c' (List.mem_of_getElem? hearlier)
    simp [hsame, hid] at hother

/-- A grant from one state to another starts a stack of so many of an item in the first empty slot
of the inventory that is seen. The slots are written without a fault, and the inventory with them is
made the known one and broadcast. -/
def GrantSite.Places {σ : Type} (site : GrantSite σ) (supply : Supply) (item : String)
    (count : Int) (s s' : σ) : Prop :=
  ∃ inventory front old back stock told,
    ((site.stock s).get supply).1 = some inventory ∧
    inventory.slots = front ++ old :: back ∧ (∀ slot ∈ front, slot.isEmpty = false) ∧
    old.isEmpty = true ∧
    let filled := front ++ ⟨.str item, count⟩ :: back
    let seen := site.notify (.broadcast inventory)
      (site.setStock s ((site.stock s).get supply).2)
    (site.stock seen).write supply filled = (.ok (), stock) ∧
    told = site.notify (.write filled) (site.setStock seen stock) ∧
    s' = site.notify (.broadcast (inventory.withSlots filled))
      (site.setStock told ((site.stock told).replace (some (inventory.withSlots filled))))

/-- Whenever and wherever the action gives something, it places one unit of its item. -/
def Action.GivesOne (a : Action) : Prop :=
  ∃ item amount ifMissing, a = .giveItem item amount ifMissing ∧
    ∀ (σ : Type) (site : GrantSite σ) (supply : Supply) (s s' : σ),
      site.give supply item amount ifMissing s = (.ok true, s') →
        site.Places supply item 1 s s'

theorem GrantSite.places_of_give {σ : Type} {site : GrantSite σ} {supply : Supply} {item : String}
    {amount : Option Number} {ifMissing : Bool} {s s' : σ}
    (h : site.give supply item amount ifMissing s = (.ok true, s')) :
    ∃ count, grantAmount amount = .ok count ∧ site.Places supply item count s s' := by
  unfold give at h
  dsimp only at h
  split at h
  · cases h
  rename_i inventory hseen
  split at h
  · cases h
  split at h
  · cases h
  split at h
  · cases h
  rename_i count hcount
  split at h
  · cases h
  rename_i slots hfilled
  split at h
  · cases h
  rename_i stock hwrite
  obtain ⟨front, old, back, hslots, hfront, hold, rfl⟩ := exists_of_fillFirstEmpty hfilled
  cases h
  exact ⟨count, hcount, inventory, front, old, back, stock, _, hseen, hslots, hfront, hold, hwrite,
    rfl, rfl⟩

theorem Number.floor_lt_one {n : Number} {units : Int} (hsmall : n.ltInt 1 = true)
    (h : n.floor = .ok units) : units < 1 := by
  cases n with
  | int n =>
    cases h
    simpa [ltInt] using hsmall
  | double x =>
    cases x with
    | finite negative mantissa exponent =>
      cases h
      simp only [ltInt, Double.ltInt, decide_eq_true_eq] at hsmall
      have hpos : (0 : Int) < (Double.toRatio negative mantissa exponent).2 := by
        unfold Double.toRatio
        dsimp only
        split
        · exact Int.one_pos
        · exact Int.natCast_pos.mpr (twoTo_pos _)
      exact Int.ediv_lt_of_lt_mul hpos hsmall
    | infinite negative => cases h
    | nan => cases h

theorem grantAmount_of_small {n : Number} {count : Int} (hsmall : n.ltInt 1 = true)
    (h : grantAmount (some n) = .ok count) : count = 1 := by
  unfold grantAmount at h
  dsimp only at h
  cases hfinite : n.finite with
  | error fault =>
    rw [hfinite] at h
    cases h
  | ok finite =>
    rw [hfinite] at h
    cases finite with
    | false =>
      cases h
      rfl
    | true =>
      cases hfloor : n.floor with
      | error fault =>
        simp only [hfloor] at h
        cases h
      | ok units =>
        have hlt := Number.floor_lt_one hsmall hfloor
        simp only [hfloor] at h
        cases h
        omega

theorem Piece.At.eq_of_append {d : Document} {q q' : Piece} {l l' m m' : Location}
    (h : (Piece.document d).At l q) (h' : (Piece.document d).At l' q') (hway : l ++ m = l' ++ m')
    (hlength : m.length = m'.length) : q = q' ∧ m = m' := by
  obtain ⟨rfl, rfl⟩ := List.append_inj' hway hlength
  exact ⟨h.right_unique h', rfl⟩

namespace Validation

variable {v : Json} {defaultId : String} {r : Validation} {d : Document} {place : Location}

theorem settledBy_of_shadowingFork (h : ofValue v defaultId = .ok r) (hd : r.document = some d)
    {i : Nat} (hreports : r.Reports [.field "forks", .item i] .shadowingFork) :
    d.SettledBy (i + 1) := by
  have hplace : Location.Rooted [.field "forks", .item i] := by
    refine ⟨?_, "forks", _, by simp, rfl⟩
    exact List.forall_mem_cons.mpr ⟨Step.plain_of_mem (by decide),
      List.forall_mem_singleton.mpr trivial⟩
  obtain ⟨l, q, m, k, hat, hway, hsuffers, hletters⟩ := suffers_of_reports h hd hplace hreports
  cases hsuffers with
  | shadowingFork fork checks =>
    obtain ⟨hpiece, hend⟩ := (Piece.At.here _).eq_of_append hat hway rfl
    cases hpiece
    cases hend
    exact Document.settledBy_of_fork fork checks
  | _ => simp [FlawKind.letters] at hletters

theorem settledBy_of_unreachableBase (h : ofValue v defaultId = .ok r) (hd : r.document = some d)
    (hreports : r.Reports [.field "lines"] .unreachableBase) :
    d.SettledBy (d.forks.getD []).length := by
  have hplace : Location.Rooted [.field "lines"] :=
    ⟨List.forall_mem_singleton.mpr (Step.plain_of_mem (by decide)), "lines", _, by simp, rfl⟩
  obtain ⟨l, q, m, k, hat, hway, hsuffers, hletters⟩ := suffers_of_reports h hd hplace hreports
  cases hsuffers with
  | @unreachableBase _ f last checks =>
    obtain ⟨hpiece, -⟩ := (Piece.At.here _).eq_of_append hat hway rfl
    cases hpiece
    rw [List.getLast?_eq_getElem?] at last
    have hlength := (List.getElem?_eq_some_iff.mp last).1
    have hsettled := Document.settledBy_of_fork last checks
    rwa [Nat.sub_add_cancel (by omega)] at hsettled
  | _ => simp [FlawKind.letters] at hletters

theorem settledBy_of_shadowingBranch (h : ofValue v defaultId = .ok r) (hd : r.document = some d)
    {c : Choice} {k : Nat} (hc : (Piece.document d).At place (.choice c))
    (hreports : r.Reports (place ++ [.field "branches", .item k]) .shadowingBranch) :
    c.SettledBy (k + 1) := by
  have hplace := hc.rooted_entry (by rintro rfl; cases hc) "branches" (by decide) k
  obtain ⟨l, q, m, kind, hat, hway, hsuffers, hletters⟩ := suffers_of_reports h hd hplace hreports
  cases hsuffers with
  | shadowingBranch branch checks =>
    obtain ⟨hpiece, hend⟩ := hc.eq_of_append hat hway rfl
    cases hpiece
    cases hend
    exact Choice.settledBy_of_branch branch checks
  | _ => simp [FlawKind.letters] at hletters

theorem neverPicks_of_duplicateChoice (h : ofValue v defaultId = .ok r)
    (hd : r.document = some d) {line : Line} {j : Nat} {id : String}
    (hline : (Piece.document d).At place (.line line))
    (hreports : r.Reports (place ++ [.field "options", .item j]) (.duplicateChoice id)) :
    line.NeverPicks j := by
  have hplace := hline.rooted_entry (by rintro rfl; cases hline) "options" (by decide) j
  obtain ⟨l, q, m, kind, hat, hway, hsuffers, hletters⟩ := suffers_of_reports h hd hplace hreports
  cases hsuffers with
  | duplicateChoice before earlier choice same =>
    obtain ⟨hpiece, hend⟩ := hline.eq_of_append hat hway rfl
    cases hpiece
    cases hend
    exact Line.neverPicks_of_earlier before earlier choice same
  | _ => simp [FlawKind.letters] at hletters

theorem givesOne_of_smallAmount (h : ofValue v defaultId = .ok r) (hd : r.document = some d)
    {a : Action} {n : Number} (ha : (Piece.document d).At place (.action a))
    (hreports : r.Reports place (.smallAmount n)) : a.GivesOne := by
  have hplace := ha.rooted (by rintro rfl; cases ha)
  obtain ⟨l, q, m, kind, hat, hway, hsuffers, hletters⟩ := suffers_of_reports h hd hplace hreports
  cases hsuffers with
  | smallAmount small =>
    obtain ⟨hpiece, -⟩ := ha.eq_of_append hat ((List.append_nil place).trans hway) rfl
    cases hpiece
    refine ⟨_, _, _, rfl, ?_⟩
    intro σ site supply s s' hgive
    obtain ⟨count, hcount, hplaces⟩ := GrantSite.places_of_give hgive
    rwa [grantAmount_of_small small hcount] at hplaces
  | _ => simp [FlawKind.letters] at hletters

end Validation

/-- Whatever validation reports about the playing of the document that it read is so, for every
inventory and in every conversation. If a fork shadows those after it, no later fork and not the base
is played; if the base lines are unreachable, they are not played; if a branch of a choice shadows
those after it, no later branch is played, nor the choice without one; a choice of an id that an
earlier one of its line has is never picked; and an action of an amount below one, whenever it gives
something, places one unit. -/
theorem Validation.reports_hold {v : Json} {defaultId : String} {r : Validation} {d : Document}
    (h : Validation.ofValue v defaultId = .ok r) (hd : r.document = some d) :
    (∀ i, r.Reports [.field "forks", .item i] .shadowingFork → d.SettledBy (i + 1)) ∧
    (r.Reports [.field "lines"] .unreachableBase → d.SettledBy (d.forks.getD []).length) ∧
    (∀ place c k, (Piece.document d).At place (.choice c) →
      r.Reports (place ++ [.field "branches", .item k]) .shadowingBranch → c.SettledBy (k + 1)) ∧
    (∀ place l j id, (Piece.document d).At place (.line l) →
      r.Reports (place ++ [.field "options", .item j]) (.duplicateChoice id) → l.NeverPicks j) ∧
    ∀ place a n, (Piece.document d).At place (.action a) → r.Reports place (.smallAmount n) →
      a.GivesOne :=
  ⟨fun _ => settledBy_of_shadowingFork h hd, settledBy_of_unreachableBase h hd,
    fun _ _ _ => settledBy_of_shadowingBranch h hd,
    fun _ _ _ _ => neverPicks_of_duplicateChoice h hd, fun _ _ _ => givesOne_of_smallAmount h hd⟩

/-- A document with a fork before another that always matches, lines that are never played, two
choices of one id, a branch that always matches before another, and an amount of none. -/
def overdone : Members :=
  [("lines", .arr [.obj [("text", .str "Yes?"), ("options", .arr [
      .obj [("id", .str "a"), ("branches", .arr [.obj [], .obj [("lines", .arr [])]])],
      .obj [("id", .str "a"), ("lines", .arr [])]])]]),
    ("forks", .arr [.obj [("lines", .arr [])], .obj []]),
    ("actions", .arr [.obj [("type", .str "giveItem"), ("itemId", .str "coin"),
      ("amount", .num 0)]])]

theorem reports_hold_overdone : ∃ r d l c c' a, Validation.ofValue (.obj overdone) "gate" = .ok r ∧
    r.document = some d ∧ d.lines = some [l] ∧ l.options = some [c, c'] ∧ d.actions = some [a] ∧
    d.SettledBy 1 ∧ d.SettledBy 2 ∧ c.SettledBy 1 ∧ l.NeverPicks 1 ∧ a.GivesOne := by
  obtain ⟨r, hr⟩ : ∃ r, Validation.ofValue (.obj overdone) "gate" = .ok r := ⟨_, rfl⟩
  obtain ⟨d, hd⟩ : ∃ d, r.document = some d := by
    cases hr
    exact ⟨_, rfl⟩
  obtain ⟨hfork, hbase, hbranch, hchoice, haction⟩ := Validation.reports_hold hr hd
  cases hr
  cases hd
  refine ⟨_, _, _, _, _, _, rfl, rfl, rfl, rfl, rfl, hfork 0 ?_, hbase ?_,
    hbranch [.field "lines", .item 0, .field "options", .item 0] _ 0 ?_ ?_,
    hchoice [.field "lines", .item 0] _ 1 "a" ?_ ?_,
    haction [.field "actions", .item 0] _ 0 ?_ ?_⟩
  · exact ⟨.ofFlaw ⟨[.field "forks", .item 0], .shadowingFork⟩, .inr (by decide +kernel), rfl, rfl⟩
  · exact ⟨.ofFlaw ⟨[.field "lines"], .unreachableBase⟩, .inr (by decide +kernel), rfl, rfl⟩
  · exact .within (i := 0) List.mem_cons_self rfl
      (.within (i := 0) List.mem_cons_self rfl (.here _))
  · exact ⟨.ofFlaw ⟨[.field "lines", .item 0, .field "options", .item 0, .field "branches", .item 0],
      .shadowingBranch⟩, .inr (by decide +kernel), rfl, rfl⟩
  · exact .within (i := 0) List.mem_cons_self rfl (.here _)
  · exact ⟨.ofFlaw ⟨[.field "lines", .item 0, .field "options", .item 1], .duplicateChoice "a"⟩,
      .inl (by decide +kernel), rfl, rfl⟩
  · exact .within (i := 0) (List.mem_cons_of_mem _ List.mem_cons_self) rfl (.here _)
  · exact ⟨.ofFlaw ⟨[.field "actions", .item 0], .smallAmount 0⟩, .inr (by decide +kernel), rfl,
      rfl⟩

end Parley
