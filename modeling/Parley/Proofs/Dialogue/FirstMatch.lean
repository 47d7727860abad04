import Parley.Proofs.Dialogue.ReadBack
import Parley.Proofs.Dialogue.Resolution
import Parley.Proofs.Validation.Making

/-!
# The first match

What a document or a choice plays on an inventory, told of the values that they are read from: the
sections of the first object in the list of forks, or of branches, all of whose checks pass there,
and those of the document or the choice itself where that object has none or where there is no such
object. A fork has its own lines in any case, and what it or a branch has as an empty list, as null
or as anything else that is no list stands for nothing to play, not for an absent section.
-/

namespace Parley

/-- An inventory has an item: some slot has at least one of it, or some member whose name contains
the word, in letters of any case, is equipped with it. -/
def Has (inventory : Option Snapshot) (item : String) : Prop :=
  ∃ snapshot, inventory = some snapshot ∧
    ((∃ slot ∈ snapshot.slots, slot.item = .str item ∧ 0 < slot.count) ∨
      ∃ name, (name, .str item) ∈ snapshot.extra ∧
        "equipped".toList <:+: name.toList.map Char.toLower)

/-- An object passes as a check: it is a test for an item, and the inventory has that item or, if
the test is negated, has it not. -/
def CheckPasses (inventory : Option Snapshot) (check : Members) : Prop :=
  check.get "type" = .str "hasItem" ∧
    (Has inventory (itemIdOf (check.get "itemId")) ↔ (check.get "negate").truthy = false)

def EntryPasses (inventory : Option Snapshot) (entry : Members) : Prop :=
  ∀ check ∈ objectsOf (entry.get "checks"), CheckPasses inventory check

theorem containsText_iff (text part : List Char) :
    containsText text part = true ↔ part <:+: text := by
  induction text with
  | nil => simp [containsText]
  | cons c rest ih => simp [containsText, List.infix_cons_iff, ih]

theorem Snapshot.owns_iff (inventory : Option Snapshot) (item : String) :
    Snapshot.owns inventory item = true ↔ Has inventory item := by
  cases inventory with
  | none => simp [owns, Has]
  | some snapshot =>
    have hslots : snapshot.holdsInSlot item = true ↔
        ∃ slot ∈ snapshot.slots, slot.item = .str item ∧ 0 < slot.count := by
      unfold holdsInSlot
      rw [List.any_eq_true]
      refine exists_congr fun slot => and_congr_right fun _ => ?_
      cases hitem : slot.item <;> simp [Slot.holds, hitem]
    have hequipped : snapshot.hasEquipped item = true ↔
        ∃ name, (name, .str item) ∈ snapshot.extra ∧
          "equipped".toList <:+: name.toList.map Char.toLower := by
      unfold hasEquipped
      rw [List.any_eq_true]
      constructor
      · rintro ⟨⟨name, v⟩, hmem, h⟩
        rw [Bool.and_eq_true, namesEquipment, containsText_iff] at h
        obtain ⟨hname, hv⟩ := h
        cases v with
        | str text =>
          obtain rfl : text = item := by simpa using hv
          exact ⟨name, hmem, hname⟩
        | _ => cases hv
      · rintro ⟨name, hmem, hname⟩
        refine ⟨_, hmem, ?_⟩
        rw [Bool.and_eq_true, namesEquipment, containsText_iff]
        exact ⟨hname, beq_self_eq_true item⟩
    simp only [owns, hasItem, Bool.or_eq_true, hslots, hequipped, Has, Option.some.injEq,
      exists_eq_left']
    exact or_comm

theorem Check.passes_ofMembers (inventory : Option Snapshot) (check : Members) :
    (Check.ofMembers check).passes inventory = true ↔ CheckPasses inventory check := by
  unfold Check.ofMembers Check.read CheckPasses
  split
  · next htype =>
    rw [← Snapshot.owns_iff]
    simp only [passes, htype, true_and]
    cases Snapshot.owns inventory _ <;> cases (check.get "negate").truthy <;> simp
  · next htype => exact iff_of_false nofun fun h => htype h.1

theorem Check.allPass_readList (inventory : Option Snapshot) (here : Location) (v : Json) :
    Check.allPass inventory (Check.readList here v).value = true ↔
      ∀ check ∈ objectsOf v, CheckPasses inventory check := by
  rw [Check.value_readList, EntryKind.keptIn_eq_objectsOf (by decide)]
  simp [allPass, Check.passes_ofMembers]

def linesOf (v : Json) : List Line := (Line.readList [] v).value

def actionsOf (v : Json) : List Action := (Action.readList [] v).value

/-- The first of the entries that passes, or none if none does. -/
inductive FirstPassing (inventory : Option Snapshot) : List Members → Option Members → Prop where
  | chosen {before after : List Members} {entry : Members}
      (hbefore : ∀ earlier ∈ before, ¬ EntryPasses inventory earlier)
      (hentry : EntryPasses inventory entry) :
      FirstPassing inventory (before ++ entry :: after) (some entry)
  | base {entries : List Members} (h : ∀ entry ∈ entries, ¬ EntryPasses inventory entry) :
      FirstPassing inventory entries none

/-- What a document with these members plays, given the fork that was chosen. -/
def playOfFork (ms : Members) : Option Members → Resolution
  | some fork => ⟨linesOf (fork.get "lines"),
      actionsOf ((fork.get? "actions").getD (ms.get "actions"))⟩
  | none => ⟨linesOf (ms.get "lines"), actionsOf (ms.get "actions")⟩

/-- What a choice with these members plays, given the branch that was chosen. -/
def playOfBranch (ms : Members) : Option Members → Resolution
  | some branch => ⟨linesOf ((branch.get? "lines").getD (ms.get "lines")),
      actionsOf ((branch.get? "actions").getD (ms.get "actions"))⟩
  | none => ⟨linesOf (ms.get "lines"), actionsOf (ms.get "actions")⟩

/-- Two lists are the same up to an entry that passes. -/
def AlikeThrough (inventory : Option Snapshot) (v v' : Json) : Prop :=
  ∃ before entry after after', v = .arr (before ++ .obj entry :: after) ∧
    v' = .arr (before ++ .obj entry :: after') ∧ EntryPasses inventory entry

theorem objectsOf_append (before after : List Json) :
    objectsOf (.arr (before ++ after)) = objectsOf (.arr before) ++ objectsOf (.arr after) :=
  List.filterMap_append

theorem objectsOf_cons_obj (entry : Members) (after : List Json) :
    objectsOf (.arr (.obj entry :: after)) = entry :: objectsOf (.arr after) := rfl

namespace Resolution

variable {α : Type} {supply : Supply} {inventory : Option Snapshot} {s : Stock}
  {make : Members → α} {checks : α → List Check}

/-- What is found among entries that are made of objects is made of the first that passes. -/
theorem firstPassing_map (make : Members → α) (checks : α → List Check)
    (h : s.Offers supply inventory)
    (hchecks : ∀ entry, Check.allPass inventory (checks (make entry)) = true ↔
      EntryPasses inventory entry) (entries : List Members) :
    ∃ found, FirstPassing inventory entries found ∧
      (firstPassing supply checks (entries.map make) s).1 = found.map make := by
  refine ⟨entries.find? fun e => Check.allPass inventory (checks (make e)), ?_, ?_⟩
  · cases hfound : entries.find? fun e => Check.allPass inventory (checks (make e)) with
    | none =>
      refine .base fun entry hentry hpasses => ?_
      exact List.find?_eq_none.mp hfound entry hentry ((hchecks entry).mpr hpasses)
    | some entry =>
      obtain ⟨hpasses, before, after, rfl, hbefore⟩ := List.find?_eq_some_iff_append.mp hfound
      refine .chosen (fun earlier hearlier hp => ?_) ((hchecks entry).mp hpasses)
      simpa [(hchecks earlier).mpr hp] using hbefore earlier hearlier
  · rw [(firstPassing_eq h checks _).1, List.find?_map]
    rfl

/-- What follows an entry that passes has no influence, neither on what is found nor on what is
fetched. -/
theorem firstPassing_append_cons (h : s.Offers supply inventory) {a : α}
    (ha : Check.allPass inventory (checks a) = true) (before after after' : List α) :
    firstPassing supply checks (before ++ a :: after) s =
      firstPassing supply checks (before ++ a :: after') s := by
  induction before generalizing s with
  | nil =>
    obtain ⟨hpasses, -⟩ := passes_eq h (checks a)
    simp only [List.nil_append, firstPassing]
    cases hp : passes supply (checks a) s with
    | mk passed s' =>
      rw [hp] at hpasses
      dsimp only at hpasses
      obtain rfl : passed = true := hpasses.trans ha
      rfl
  | cons b rest ih =>
    obtain ⟨-, hoffers⟩ := passes_eq h (checks b)
    simp only [List.cons_append, firstPassing]
    cases hp : passes supply (checks b) s with
    | mk passed s' =>
      rw [hp] at hoffers
      cases passed with
      | true => rfl
      | false => exact ih hoffers

theorem firstPassing_alike (make : Members → α) (checks : α → List Check)
    (h : s.Offers supply inventory)
    (hchecks : ∀ entry, Check.allPass inventory (checks (make entry)) = true ↔
      EntryPasses inventory entry) {v v' : Json} (halike : AlikeThrough inventory v v') :
    firstPassing supply checks ((objectsOf v).map make) s =
      firstPassing supply checks ((objectsOf v').map make) s := by
  obtain ⟨before, entry, after, after', rfl, rfl, hpasses⟩ := halike
  simp only [objectsOf_append, objectsOf_cons_obj, List.map_append, List.map_cons]
  exact firstPassing_append_cons h ((hchecks entry).mpr hpasses) _ _ _

end Resolution

section

variable {ms : Members} {supply : Supply} {inventory : Option Snapshot} {s : Stock}

theorem Fork.allPass_ofMembers (inventory : Option Snapshot) (entry : Members) :
    Check.allPass inventory (Fork.ofMembers entry).checks = true ↔ EntryPasses inventory entry :=
  Check.allPass_readList inventory _ _

theorem Branch.allPass_ofMembers (inventory : Option Snapshot) (entry : Members) :
    Check.allPass inventory (Branch.ofMembers entry).checks = true ↔ EntryPasses inventory entry :=
  Check.allPass_readList inventory _ _

/-- The sections of a document that is read of an object. -/
structure Document.MadeOf (ms : Members) (d : Document) : Prop where
  lines : d.lines = (Line.readIn [] ms).value
  actions : d.actions = (Action.readIn [] ms).value
  forks : d.forks.getD [] = (objectsOf (ms.get "forks")).map Fork.ofMembers

theorem Document.madeOf_of_load {defaultId : String} {l : Loaded}
    (h : Document.load (.obj ms) defaultId = .ok l) : ∃ d, l.document = some d ∧ d.MadeOf ms := by
  refine ⟨_, Loaded.document_of_ofNoted h, rfl, rfl, ?_⟩
  dsimp only
  rw [Fork.value_readIn, getD_map_keptIn, EntryKind.keptIn_eq_objectsOf (by decide)]

theorem Choice.branches_ofMembers (ms : Members) :
    (Choice.ofMembers ms).branches.getD [] =
      (objectsOf (ms.get "branches")).map Branch.ofMembers := by
  rw [Choice.ofMembers, Branch.value_readIn, getD_map_keptIn,
    EntryKind.keptIn_eq_objectsOf (by decide)]

theorem Document.MadeOf.ofFork {d : Document} (h : d.MadeOf ms) (fork : Option Members) :
    Resolution.ofFork d (fork.map Fork.ofMembers) = playOfFork ms fork := by
  cases fork with
  | none =>
    simp only [Option.map_none, Resolution.ofFork, h.lines, h.actions, Line.value_readIn,
      Action.value_readIn, getD_map_keptIn, playOfFork, linesOf, actionsOf, Line.value_readList,
      Action.value_readList]
  | some fork =>
    simp only [Option.map_some, Resolution.ofFork, Fork.ofMembers, Fork.read, h.actions,
      Action.value_readIn, getD_orElse_keptIn, playOfFork, linesOf, actionsOf, Line.value_readList,
      Action.value_readList]

theorem Resolution.ofBranch_ofMembers (ms : Members) (branch : Option Members) :
    Resolution.ofBranch (Choice.ofMembers ms) (branch.map Branch.ofMembers) =
      playOfBranch ms branch := by
  cases branch with
  | none =>
    simp only [Option.map_none, Resolution.ofBranch, Choice.ofMembers, Line.value_readIn,
      Action.value_readIn, getD_map_keptIn, playOfBranch, linesOf, actionsOf, Line.value_readList,
      Action.value_readList]
  | some branch =>
    simp only [Option.map_some, Resolution.ofBranch, Choice.ofMembers, Branch.ofMembers,
      Line.value_readIn, Action.value_readIn, getD_orElse_keptIn, playOfBranch, linesOf, actionsOf,
      Line.value_readList, Action.value_readList]

/-- What a document plays depends on its own sections only as far as they hold something. -/
theorem Resolution.ofFork_congr {d d' : Document} (hlines : d.lines.getD [] = d'.lines.getD [])
    (hactions : d.actions.getD [] = d'.actions.getD []) (fork : Option Fork) :
    ofFork d fork = ofFork d' fork := by
  cases fork <;>
    simp only [ofFork, Option.orElse_eq_orElse, Option.orElse_eq_or, Option.getD_or, hlines,
      hactions]

theorem Resolution.ofBranch_congr {c c' : Choice} (hlines : c.lines.getD [] = c'.lines.getD [])
    (hactions : c.actions.getD [] = c'.actions.getD []) (branch : Option Branch) :
    ofBranch c branch = ofBranch c' branch := by
  cases branch <;>
    simp only [ofBranch, Option.orElse_eq_orElse, Option.orElse_eq_or, Option.getD_or, hlines,
      hactions]

theorem value_readIn_congr {ms' : Members}
    (hlines : ms'.get "lines" = ms.get "lines") (hactions : ms'.get "actions" = ms.get "actions") :
    (Line.readIn [] ms').value.getD [] = (Line.readIn [] ms).value.getD [] ∧
      (Action.readIn [] ms').value.getD [] = (Action.readIn [] ms).value.getD [] := by
  simp only [Line.value_readIn, Action.value_readIn, getD_map_keptIn, hlines, hactions, and_self]

/-- A document plays what its object says, given the first fork that passes. -/
theorem Document.MadeOf.resolve_eq {d : Document} (h : d.MadeOf ms)
    (hoffers : s.Offers supply inventory) :
    ∃ fork, FirstPassing inventory (objectsOf (ms.get "forks")) fork ∧
      (d.resolve supply s).1 = playOfFork ms fork := by
  obtain ⟨fork, hfirst, hfound⟩ := Resolution.firstPassing_map Fork.ofMembers Fork.checks hoffers
    (Fork.allPass_ofMembers inventory) (objectsOf (ms.get "forks"))
  refine ⟨fork, hfirst, ?_⟩
  rw [← h.ofFork, ← hfound, ← h.forks]
  rfl

theorem Document.MadeOf.resolve_alike {ms' : Members} {d d' : Document} (h : d.MadeOf ms)
    (h' : d'.MadeOf ms') (hoffers : s.Offers supply inventory)
    (hlines : ms'.get "lines" = ms.get "lines") (hactions : ms'.get "actions" = ms.get "actions")
    (hforks : AlikeThrough inventory (ms.get "forks") (ms'.get "forks")) :
    d'.resolve supply s = d.resolve supply s := by
  have hfound := Resolution.firstPassing_alike Fork.ofMembers Fork.checks hoffers
    (Fork.allPass_ofMembers inventory) hforks
  obtain ⟨hl, ha⟩ := value_readIn_congr hlines hactions
  rw [← h.forks, ← h'.forks] at hfound
  rw [← h.lines, ← h'.lines] at hl
  rw [← h.actions, ← h'.actions] at ha
  unfold Document.resolve
  rw [← hfound]
  exact congrArg (·, _) (Resolution.ofFork_congr hl ha _)

/-- A choice plays what its object says, given the first branch that passes. -/
theorem Choice.resolve_ofMembers (ms : Members) (hoffers : s.Offers supply inventory) :
    ∃ branch, FirstPassing inventory (objectsOf (ms.get "branches")) branch ∧
      ((Choice.ofMembers ms).resolve supply s).1 = playOfBranch ms branch := by
  obtain ⟨branch, hfirst, hfound⟩ := Resolution.firstPassing_map Branch.ofMembers Branch.checks
    hoffers (Branch.allPass_ofMembers inventory) (objectsOf (ms.get "branches"))
  refine ⟨branch, hfirst, ?_⟩
  rw [← Resolution.ofBranch_ofMembers, ← hfound, ← Choice.branches_ofMembers]
  rfl

theorem Choice.resolve_alike {ms' : Members} (hoffers : s.Offers supply inventory)
    (hlines : ms'.get "lines" = ms.get "lines") (hactions : ms'.get "actions" = ms.get "actions")
    (hbranches : AlikeThrough inventory (ms.get "branches") (ms'.get "branches")) :
    (Choice.ofMembers ms').resolve supply s = (Choice.ofMembers ms).resolve supply s := by
  have hfound := Resolution.firstPassing_alike Branch.ofMembers Branch.checks hoffers
    (Branch.allPass_ofMembers inventory) hbranches
  obtain ⟨hl, ha⟩ := value_readIn_congr hlines hactions
  rw [← Choice.branches_ofMembers, ← Choice.branches_ofMembers] at hfound
  unfold Choice.resolve
  rw [← hfound]
  exact congrArg (·, _) (Resolution.ofBranch_congr hl ha _)

end

theorem Choice.eq_ofMembers {here : Location} {ms : Members} {c : Choice}
    (h : (Choice.readItem here (.obj ms)).value = some c) : c = Choice.ofMembers ms := by
  rw [(makes_readItem (.obj ms)).2.1 here] at h
  obtain ⟨kept, hkept, rfl⟩ := Option.map_eq_some_iff.mp h
  cases EntryKind.eq_obj_of_kept? hkept
  rfl

/-- Resolution is the first match, told of what was read: a document plays the sections of the first
object in its list of forks all of whose checks pass on the inventory, and a choice those of the
first in its list of branches, with the documented fallbacks. The entries that come after it have no
influence on what is played, nor on what is fetched. -/
theorem resolve_first_match {supply : Supply} {inventory : Option Snapshot} {s : Stock}
    (hoffers : s.Offers supply inventory) :
    (∀ ms defaultId l, Document.load (.obj ms) defaultId = .ok l → ∃ d, l.document = some d ∧
      (∃ fork, FirstPassing inventory (objectsOf (Members.get ms "forks")) fork ∧
        (d.resolve supply s).1 = playOfFork ms fork) ∧
      ∀ ms' defaultId' l' d', Document.load (.obj ms') defaultId' = .ok l' →
        l'.document = some d' → Members.get ms' "lines" = Members.get ms "lines" →
        Members.get ms' "actions" = Members.get ms "actions" →
        AlikeThrough inventory (Members.get ms "forks") (Members.get ms' "forks") →
        d'.resolve supply s = d.resolve supply s) ∧
    ∀ ms here c, (Choice.readItem here (.obj ms)).value = some c →
      (∃ branch, FirstPassing inventory (objectsOf (Members.get ms "branches")) branch ∧
        (c.resolve supply s).1 = playOfBranch ms branch) ∧
      ∀ ms' here' c', (Choice.readItem here' (.obj ms')).value = some c' →
        Members.get ms' "lines" = Members.get ms "lines" →
        Members.get ms' "actions" = Members.get ms "actions" →
        AlikeThrough inventory (Members.get ms "branches") (Members.get ms' "branches") →
        c'.resolve supply s = c.resolve supply s := by
  constructor
  · intro ms defaultId l hload
    obtain ⟨d, hdocument, hmade⟩ := Document.madeOf_of_load hload
    refine ⟨d, hdocument, hmade.resolve_eq hoffers, ?_⟩
    intro ms' defaultId' l' d' hload' hdocument' hlines hactions hforks
    obtain ⟨d'', hd'', hmade'⟩ := Document.madeOf_of_load hload'
    obtain rfl : d'' = d' := Option.some.inj (hd''.symm.trans hdocument')
    exact hmade.resolve_alike hmade' hoffers hlines hactions hforks
  · intro ms here c hread
    rw [Choice.eq_ofMembers hread]
    refine ⟨Choice.resolve_ofMembers ms hoffers, ?_⟩
    intro ms' here' c' hread' hlines hactions hbranches
    rw [Choice.eq_ofMembers hread']
    exact Choice.resolve_alike hoffers hlines hactions hbranches

def passFork : Members :=
  [("checks", .arr [.obj [("type", .str "hasItem"), ("itemId", .str "pass")]]),
    ("lines", .arr [.obj [("text", .str "Go on.")]]), ("actions", .null)]

def passGate (others : List Json) : Members :=
  [("lines", .arr [.obj [("text", .str "Halt.")]]),
    ("forks", .arr ([.null, .obj [("checks", .arr [.obj [("type", .str "magic")]])]] ++
      .obj passFork :: others)),
    ("actions", .arr [.obj [("type", .str "giveItem"), ("itemId", .str "map")]])]

/-- An answer whose lines are those of the choice, and whose actions are not. -/
def nod : Members :=
  [("id", .num 1), ("lines", .arr [.obj [("text", .str "Yes.")]]),
    ("branches", .arr [.bool true, .obj [("actions", .arr [])]])]

theorem first_match_passGate :
    let s := Stock.ofService (.ofItems [("pass", 1)] 1 [])
    ∃ l l' d d' c, Document.load (.obj (passGate [])) "gate" = .ok l ∧ l.document = some d ∧
      Document.load (.obj (passGate [.obj [], .bool true])) "gate" = .ok l' ∧
      l'.document = some d' ∧ d'.resolve .working s = d.resolve .working s ∧
      (∃ fork, FirstPassing (some s.known) (objectsOf ((passGate []).get "forks")) fork ∧
        (d.resolve .working s).1 = playOfFork (passGate []) fork) ∧
      (Choice.readItem [] (.obj nod)).value = some c ∧
      ∃ branch, FirstPassing (some s.known) (objectsOf (nod.get "branches")) branch ∧
        (c.resolve .working s).1 = playOfBranch nod branch := by
  intro s
  have hoffers : s.Offers .working (some s.known) := Stock.offers_known (fun _ => rfl) s
  obtain ⟨l, hl⟩ : ∃ l, Document.load (.obj (passGate [])) "gate" = .ok l := ⟨_, rfl⟩
  obtain ⟨l', hl'⟩ : ∃ l, Document.load (.obj (passGate [.obj [], .bool true])) "gate" = .ok l :=
    ⟨_, rfl⟩
  obtain ⟨d, hd, hplays, hlater⟩ := (resolve_first_match hoffers).1 _ _ l hl
  obtain ⟨d', hd', -⟩ := Document.madeOf_of_load hl'
  have hpasses : EntryPasses (some s.known) passFork := by
    intro check hcheck
    obtain rfl := List.mem_singleton.mp hcheck
    refine ⟨rfl, iff_of_true ⟨s.known, rfl, .inl ?_⟩ rfl⟩
    exact ⟨⟨.str "pass", 1⟩, List.mem_singleton_self _, rfl, by decide⟩
  have hsame := hlater _ _ l' d' hl' hd' rfl rfl ⟨_, passFork, _, _, rfl, rfl, hpasses⟩
  have hnod := (resolve_first_match hoffers).2 nod [] _ rfl
  exact ⟨l, l', d, d', _, hl, hd, hl', hd', hsame, hplays, rfl, hnod.1⟩

end Parley
