import Parley.Proofs.Inventory.Batch

/-!
# The transcript of a batch

What is broadcast and written while actions are executed is one block for each gift: nothing if no
inventory can be seen, the inventory alone if nothing is given, and else the inventory, the slots
that are written and the inventory with them. A write that fails breaks off in the middle of its
block, and leaves everything as the grants before it did.
-/

namespace Parley

def Action.FiniteAmount : Action → Prop
  | .giveItem _ amount _ => ∀ n, amount = some n → n.finite = .ok true
  | .unknown .. => True

/-- This inventory is seen by whoever looks at the stock: it is known, or it is stored, nothing is
known and a fetch brings it. -/
def Stock.Shows (supply : Supply) (s : Stock) (inventory : Snapshot) : Prop :=
  s.cache = some inventory ∨ s.cache = none ∧ supply.fetch s.service.fetches = .stored ∧
    inventory = s.service.stored

/-- Nothing is known and a fetch brings nothing. -/
def Stock.Blank (supply : Supply) (s : Stock) : Prop :=
  s.cache = none ∧ supply.fetch s.service.fetches ≠ .stored

/-- A gift is skipped, as the item must be missing and is held, or dropped, as no slot is empty. -/
def Snapshot.Declines (inventory : Snapshot) (item : String) (ifMissing : Bool) : Prop :=
  ifMissing = true ∧ HeldIn inventory.slots item ∨ ∀ slot ∈ inventory.slots, slot.isEmpty = false

/-- A gift is taken: a stack of it is started in the first empty slot, and all else is as it was. -/
structure Snapshot.Takes (before : Snapshot) (item : String) (amount : Option Number)
    (ifMissing : Bool) (after : Snapshot) : Prop where
  missing : ifMissing = true → ¬ HeldIn before.slots item
  placed : ∃ front old back, before.slots = front ++ old :: back ∧
    (∀ slot ∈ front, slot.isEmpty = false) ∧ old.isEmpty = true ∧
    after = ⟨front ++ stackOf (item, unitsOf amount) :: back, before.extra⟩

/-- The service stores what it stored, and nothing was written. -/
structure Stock.Untouched (s s' : Stock) : Prop where
  stored : s'.service.stored = s.service.stored
  writes : s'.service.writes = s.service.writes

/-- A gift with its events, its outcome and the stock before and after it. -/
inductive Handover (supply : Supply) (item : String) (amount : Option Number) (ifMissing : Bool)
    (s : Stock) : List GrantEvent → Except Fault Unit → Stock → Prop where
  | unavailable {s' : Stock} (blank : s.Blank supply) (cache : s'.cache = none)
      (service : s.Untouched s') : Handover supply item amount ifMissing s [] (.ok ()) s'
  | declined {s' : Stock} {inventory : Snapshot} (shows : s.Shows supply inventory)
      (declines : inventory.Declines item ifMissing) (cache : s'.cache = some inventory)
      (service : s.Untouched s') :
      Handover supply item amount ifMissing s [.broadcast inventory] (.ok ()) s'
  | granted {s' : Stock} {inventory updated : Snapshot} (shows : s.Shows supply inventory)
      (takes : inventory.Takes item amount ifMissing updated)
      (works : supply.writeFails s.service.attempts = false) (cache : s'.cache = some updated)
      (stored : s'.service.stored = s.service.stored.withSlots updated.slots)
      (writes : s'.service.writes = s.service.writes + 1) :
      Handover supply item amount ifMissing s
        [.broadcast inventory, .write updated.slots, .broadcast updated] (.ok ()) s'
  | refused {s' : Stock} {inventory updated : Snapshot} (shows : s.Shows supply inventory)
      (takes : inventory.Takes item amount ifMissing updated)
      (fails : supply.writeFails s.service.attempts = true) (cache : s'.cache = some inventory)
      (service : s.Untouched s') :
      Handover supply item amount ifMissing s [.broadcast inventory] (.error .diskFull) s'

variable {supply : Supply}

/-- A look at a stock brings what it shows, and changes nothing that writes depend on. -/
theorem Stock.get_cases (supply : Supply) (s : Stock) :
    ((s.Blank supply ∧ (s.get supply).1 = none ∧ (s.get supply).2.cache = none) ∨
      ∃ inventory, s.Shows supply inventory ∧ (s.get supply).1 = some inventory ∧
        (s.get supply).2.cache = some inventory) ∧
    s.Untouched (s.get supply).2 ∧
    (s.get supply).2.service.attempts = s.service.attempts := by
  cases hcache : s.cache with
  | some inventory =>
    rw [Stock.get_of_known hcache]
    exact ⟨.inr ⟨inventory, .inl hcache, rfl, hcache⟩, ⟨rfl, rfl⟩, rfl⟩
  | none =>
    by_cases hfetch : supply.fetch s.service.fetches = .stored
    · rw [Stock.get_of_stored hcache hfetch]
      exact ⟨.inr ⟨_, .inr ⟨hcache, hfetch, rfl⟩, rfl, rfl⟩, ⟨rfl, rfl⟩, rfl⟩
    · rw [Stock.get_of_not_stored hcache hfetch]
      exact ⟨.inl ⟨⟨hcache, hfetch⟩, rfl, rfl⟩, ⟨rfl, rfl⟩, rfl⟩

theorem exists_of_fillFirstEmpty {item : String} {count : Int} {slots slots' : List Slot}
    (h : fillFirstEmpty item count slots = some slots') :
    ∃ front old back, slots = front ++ old :: back ∧ (∀ slot ∈ front, slot.isEmpty = false) ∧
      old.isEmpty = true ∧ slots' = front ++ stackOf (item, count) :: back := by
  induction slots generalizing slots' with
  | nil => cases h
  | cons s rest ih =>
    unfold fillFirstEmpty at h
    split at h
    · next hempty =>
      cases h
      exact ⟨[], s, rest, rfl, List.forall_mem_nil _, hempty, rfl⟩
    · next hfull =>
      obtain ⟨filled, hfilled, rfl⟩ := Option.map_eq_some_iff.mp h
      obtain ⟨front, old, back, rfl, hfront, hold, rfl⟩ := ih hfilled
      have hs : s.isEmpty = false := Bool.eq_false_iff.mpr hfull
      exact ⟨s :: front, old, back, rfl, List.forall_mem_cons.mpr ⟨hs, hfront⟩, hold, rfl⟩

namespace Snapshot

variable {inventory : Snapshot} {item : String} {amount : Option Number} {ifMissing : Bool}

theorem declines_of_slotsAfter {count : Int}
    (h : inventory.slotsAfter item count ifMissing = none) : inventory.Declines item ifMissing := by
  unfold slotsAfter at h
  split at h
  · next hskip =>
    rw [Bool.and_eq_true, heldIn_iff] at hskip
    exact .inl hskip
  · rw [fillFirstEmpty_eq_none_iff] at h
    exact .inr fun slot hslot => by simpa using List.any_eq_false.mp h slot hslot

theorem takes_of_slotsAfter {slots : List Slot}
    (h : inventory.slotsAfter item (unitsOf amount) ifMissing = some slots) :
    inventory.Takes item amount ifMissing (inventory.withSlots slots) := by
  unfold slotsAfter at h
  split at h
  · cases h
  · next hmissing =>
    obtain ⟨front, old, back, hbefore, hfront, hold, rfl⟩ := exists_of_fillFirstEmpty h
    refine ⟨fun hif hheld => hmissing ?_, front, old, back, hbefore, hfront, hold, rfl⟩
    rw [Bool.and_eq_true, heldIn_iff]
    exact ⟨hif, hheld⟩

end Snapshot

namespace GrantSite

theorem recording_give {item : String} {amount : Option Number} {count : Int}
    (hcount : grantAmount amount = .ok count) (ifMissing : Bool) (s : GrantLog) :
    recording.give supply item amount ifMissing s = match s.stock.get supply with
      | (none, stock) => (.ok false, ⟨stock, s.events⟩)
      | (some inventory, stock) => match inventory.slotsAfter item count ifMissing with
        | none => (.ok false, ⟨stock, s.events ++ [.broadcast inventory]⟩)
        | some slots => match stock.write supply slots with
          | (.error fault, stock) => (.error fault, ⟨stock, s.events ++ [.broadcast inventory]⟩)
          | (.ok (), stock) => (.ok true, ⟨stock.replace (some (inventory.withSlots slots)),
              s.events ++ [.broadcast inventory] ++ [.write slots] ++
                [.broadcast (inventory.withSlots slots)]⟩) := by
  unfold give
  dsimp only [recording]
  obtain ⟨sight, stock⟩ := s.stock.get supply
  cases sight with
  | none => rfl
  | some inventory =>
    dsimp only
    unfold Snapshot.slotsAfter
    split
    · rfl
    split
    · next hfull =>
      rw [fillFirstEmpty_eq_none_iff.mpr (by simpa using hfull)]
    cases hfill : fillFirstEmpty item count inventory.slots with
    | none => simp only [hcount, hfill]
    | some slots =>
      cases hwrite : stock.write supply slots with
      | mk outcome written => cases outcome <;> simp only [hcount, hfill, hwrite]

theorem handover_of_give (supply : Supply) {item : String} {amount : Option Number}
    (hamount : ∀ n, amount = some n → n.finite = .ok true) (ifMissing : Bool) (s : GrantLog) :
    ∃ block, (recording.give supply item amount ifMissing s).2.events = s.events ++ block ∧
      Handover supply item amount ifMissing s.stock block
        ((recording.give supply item amount ifMissing s).1.map fun _ => ())
        (recording.give supply item amount ifMissing s).2.stock := by
  obtain ⟨hseen, hservice, hattempts⟩ := s.stock.get_cases supply
  rw [recording_give (grantAmount_eq hamount)]
  generalize s.stock.get supply = looked at hseen hservice hattempts
  obtain ⟨sight, stock⟩ := looked
  dsimp only at hseen hservice hattempts
  rcases hseen with ⟨hblank, rfl, hcache⟩ | ⟨inventory, hshows, rfl, hcache⟩
  · exact ⟨[], (List.append_nil _).symm, .unavailable hblank hcache hservice⟩
  dsimp only
  cases hslots : inventory.slotsAfter item (unitsOf amount) ifMissing with
  | none =>
    exact ⟨_, rfl, .declined hshows (Snapshot.declines_of_slotsAfter hslots) hcache hservice⟩
  | some slots =>
    have htakes := Snapshot.takes_of_slotsAfter hslots
    dsimp only [Stock.write]
    rw [hattempts]
    cases hfails : supply.writeFails s.stock.service.attempts with
    | true =>
      exact ⟨_, rfl, .refused hshows htakes hfails hcache ⟨hservice.stored, hservice.writes⟩⟩
    | false =>
      refine ⟨_, ?_, .granted hshows htakes hfails rfl ?_ ?_⟩
      · exact (List.append_assoc ..).trans (List.append_assoc ..)
      · exact congrArg (Snapshot.withSlots · slots) hservice.stored
      · exact congrArg (· + 1) hservice.writes

end GrantSite

/-- Actions with the blocks of the gifts among them, up to one that fails. -/
inductive Handovers (supply : Supply) :
    List Action → Stock → List (List GrantEvent) → Except Fault Unit → Stock → Prop where
  | done (s : Stock) : Handovers supply [] s [] (.ok ()) s
  | ignored {type : String} {source : Members} {rest : List Action} {s s' : Stock}
      {blocks : List (List GrantEvent)} {outcome : Except Fault Unit}
      (hrest : Handovers supply rest s blocks outcome s') :
      Handovers supply (.unknown type source :: rest) s blocks outcome s'
  | next {item : String} {amount : Option Number} {ifMissing : Bool} {rest : List Action}
      {s t s' : Stock} {block : List GrantEvent} {blocks : List (List GrantEvent)}
      {outcome : Except Fault Unit}
      (hblock : Handover supply item amount ifMissing s block (.ok ()) t)
      (hrest : Handovers supply rest t blocks outcome s') :
      Handovers supply (.giveItem item amount ifMissing :: rest) s (block :: blocks) outcome s'
  | brokenOff {item : String} {amount : Option Number} {ifMissing : Bool} {rest : List Action}
      {s s' : Stock} {block : List GrantEvent} {fault : Fault}
      (hblock : Handover supply item amount ifMissing s block (.error fault) s') :
      Handovers supply (.giveItem item amount ifMissing :: rest) s [block] (.error fault) s'

/-- The inventory that a block leads to, if something is given in it. -/
def updated? : List GrantEvent → Option Snapshot
  | [.broadcast _, .write _, .broadcast updated] => some updated
  | _ => none

def updates (blocks : List (List GrantEvent)) : List Snapshot := blocks.filterMap updated?

/-- What has become of a stock after some gifts: what the last of them wrote is stored and known,
and without one all is as it was, except that the inventory may have become known. -/
structure Stock.Updated (s : Stock) (gains : List Snapshot) (s' : Stock) : Prop where
  stored : s'.service.stored =
    (gains.getLast?.map fun updated => s.service.stored.withSlots updated.slots).getD
      s.service.stored
  writes : s'.service.writes = s.service.writes + gains.length
  cache : s'.cache = gains.getLast?.or s.cache ∨
    gains = [] ∧ s.cache = none ∧ s'.cache = some s.service.stored

theorem Stock.Updated.trans {s t s' : Stock} {gains gains' : List Snapshot}
    (h : s.Updated gains t) (h' : t.Updated gains' s') : s.Updated (gains ++ gains') s' := by
  obtain ⟨hstored, hwrites, hcache⟩ := h
  obtain ⟨hstored', hwrites', hcache'⟩ := h'
  have hcount : s'.service.writes = s.service.writes + (gains ++ gains').length := by
    rw [hwrites', hwrites, List.length_append, Nat.add_assoc]
  cases hlast : gains'.getLast? with
  | none =>
    obtain rfl := List.getLast?_eq_none_iff.mp hlast
    rw [List.append_nil] at hcount ⊢
    refine ⟨hstored'.trans hstored, hcount, ?_⟩
    rcases hcache' with hkept | ⟨-, hblank, hfetched⟩
    · rw [show s'.cache = t.cache from hkept]
      exact hcache
    · rcases hcache with hknown | ⟨-, -, hknown⟩
      · rw [hblank, eq_comm, Option.or_eq_none_iff, List.getLast?_eq_none_iff] at hknown
        obtain ⟨rfl, hnone⟩ := hknown
        exact .inr ⟨rfl, hnone, hfetched.trans (congrArg some hstored)⟩
      · rw [hblank] at hknown
        cases hknown
  | some updated =>
    have hboth : (gains ++ gains').getLast? = some updated := by
      rw [List.getLast?_append, hlast, Option.some_or]
    refine ⟨?_, hcount, .inl ?_⟩
    · rw [hstored', hstored, hlast, hboth]
      cases gains.getLast? <;> rfl
    · rcases hcache' with hknown | ⟨rfl, -⟩
      · rw [hknown, hlast, hboth, Option.some_or, Option.some_or]
      · cases hlast

theorem Stock.Shows.updated {s s' : Stock} {inventory : Snapshot} (h : s.Shows supply inventory)
    (hcache : s'.cache = some inventory) (hservice : s.Untouched s') : s.Updated [] s' := by
  refine ⟨hservice.stored, hservice.writes, ?_⟩
  rcases h with hknown | ⟨hnone, -, rfl⟩
  · exact .inl (hcache.trans hknown.symm)
  · exact .inr ⟨rfl, hnone, hcache⟩

namespace Handover

variable {item : String} {amount : Option Number} {ifMissing : Bool} {s s' : Stock}
  {block : List GrantEvent} {outcome : Except Fault Unit}

theorem updated (h : Handover supply item amount ifMissing s block outcome s') :
    s.Updated (updates [block]) s' := by
  cases h with
  | unavailable blank cache service =>
    exact ⟨service.stored, service.writes, .inl (cache.trans blank.1.symm)⟩
  | declined shows _ cache service => exact shows.updated cache service
  | granted _ _ _ cache stored writes => exact ⟨stored, writes, .inl cache⟩
  | refused shows _ _ cache service => exact shows.updated cache service

theorem shows_head (h : Handover supply item amount ifMissing s block outcome s')
    {event : GrantEvent} (hevent : block.head? = some event) :
    ∃ inventory, event = .broadcast inventory ∧ s.Shows supply inventory := by
  cases h with
  | unavailable => cases hevent
  | declined shows => exact ⟨_, (Option.some.inj hevent).symm, shows⟩
  | granted shows => exact ⟨_, (Option.some.inj hevent).symm, shows⟩
  | refused shows => exact ⟨_, (Option.some.inj hevent).symm, shows⟩

end Handover

namespace Handovers

variable {actions : List Action} {s s' : Stock} {blocks : List (List GrantEvent)}
  {outcome : Except Fault Unit}

theorem updated (h : Handovers supply actions s blocks outcome s') :
    s.Updated (updates blocks) s' := by
  induction h with
  | done s => exact ⟨rfl, rfl, .inl rfl⟩
  | ignored _ ih => exact ih
  | next hblock _ ih =>
    have hboth := hblock.updated.trans ih
    rwa [updates, updates, ← List.filterMap_append] at hboth
  | brokenOff hblock => exact hblock.updated

theorem exists_of_split (h : Handovers supply actions s blocks outcome s')
    {before after : List (List GrantEvent)} {block : List GrantEvent}
    (hsplit : blocks = before ++ block :: after) :
    ∃ t, s.Updated (updates before) t ∧ ∃ item amount ifMissing outcome' t',
      Handover supply item amount ifMissing t block outcome' t' := by
  induction h generalizing before with
  | done s => simp at hsplit
  | ignored _ ih => exact ih hsplit
  | @next _ _ _ _ s t s' first blocks _ hblock _ ih =>
    cases before with
    | nil =>
      obtain ⟨rfl, -⟩ := List.cons.inj hsplit
      exact ⟨s, ⟨rfl, rfl, .inl rfl⟩, _, _, _, _, _, hblock⟩
    | cons b before =>
      obtain ⟨rfl, hrest⟩ := List.cons.inj hsplit
      obtain ⟨u, hu, hhandover⟩ := ih hrest
      have hboth := hblock.updated.trans hu
      rw [updates, updates, ← List.filterMap_append] at hboth
      exact ⟨u, hboth, hhandover⟩
  | @brokenOff _ _ _ _ s s' first _ hblock =>
    cases before with
    | nil =>
      obtain ⟨rfl, -⟩ := List.cons.inj hsplit
      exact ⟨s, ⟨rfl, rfl, .inl rfl⟩, _, _, _, _, _, hblock⟩
    | cons b before => simp at hsplit

theorem append {t : Stock} {more : List Action} {blocks' : List (List GrantEvent)}
    (h : Handovers supply actions s blocks (.ok ()) t)
    (h' : Handovers supply more t blocks' outcome s') :
    Handovers supply (actions ++ more) s (blocks ++ blocks') outcome s' := by
  generalize hok : Except.ok () = first at h
  induction h with
  | done s => exact h'
  | ignored _ ih => exact .ignored (ih h' hok)
  | next hblock _ ih => exact .next hblock (ih h' hok)
  | brokenOff => cases hok

/-- A block begins with the inventory of the last gift before it, or without one with that which was
known at first, or stored. -/
theorem head_eq (h : Handovers supply actions s blocks outcome s')
    {before after : List (List GrantEvent)} {block : List GrantEvent}
    (hsplit : blocks = before ++ block :: after) {event : GrantEvent}
    (hevent : block.head? = some event) :
    event = .broadcast (((updates before).getLast?.or s.cache).getD s.service.stored) := by
  obtain ⟨t, hupdated, _, _, _, _, _, hhandover⟩ := h.exists_of_split hsplit
  obtain ⟨inventory, rfl, hshows⟩ := hhandover.shows_head hevent
  congr 1
  rcases hupdated.cache with hknown | ⟨hnil, hnone, hknown⟩
  · rcases hshows with hcache | ⟨hblank, -, rfl⟩
    · rw [← hknown, hcache, Option.getD_some]
    · rw [hblank, eq_comm, Option.or_eq_none_iff] at hknown
      rw [hupdated.stored, hknown.1, hknown.2]
      rfl
  · rcases hshows with hcache | ⟨hblank, -, rfl⟩
    · rw [hnil, hnone]
      exact Option.some.inj (hcache.symm.trans hknown)
    · rw [hblank] at hknown
      cases hknown

end Handovers

namespace GrantSite

/-- Actions are executed like those before and those after, up to one that fails. -/
theorem execute_append {σ : Type} (site : GrantSite σ) (actions more : List Action) (s : σ) :
    site.execute supply (actions ++ more) s = match site.execute supply actions s with
      | (.ok (), t) => site.execute supply more t
      | (.error fault, t) => (.error fault, t) := by
  induction actions generalizing s with
  | nil => rfl
  | cons a rest ih =>
    cases a with
    | unknown type source => exact ih s
    | giveItem item amount ifMissing =>
      simp only [List.cons_append, execute]
      cases hgive : site.give supply item amount ifMissing s with
      | mk outcome t =>
        cases outcome with
        | error fault => rfl
        | ok given => exact ih t

theorem handovers_of_execute (supply : Supply) {actions : List Action}
    (hactions : ∀ a ∈ actions, a.FiniteAmount) (s : GrantLog) :
    ∃ blocks, (recording.execute supply actions s).2.events = s.events ++ blocks.flatten ∧
      Handovers supply actions s.stock blocks (recording.execute supply actions s).1
        (recording.execute supply actions s).2.stock := by
  induction actions generalizing s with
  | nil => exact ⟨[], (List.append_nil _).symm, .done _⟩
  | cons a rest ih =>
    have hrest := ih fun b hb => hactions b (List.mem_cons_of_mem _ hb)
    cases a with
    | unknown type source =>
      obtain ⟨blocks, hevents, hhandovers⟩ := hrest s
      exact ⟨blocks, hevents, .ignored hhandovers⟩
    | giveItem item amount ifMissing =>
      obtain ⟨block, hevents, hblock⟩ :=
        handover_of_give supply (hactions _ List.mem_cons_self) ifMissing s
      unfold execute
      cases hgive : recording.give supply item amount ifMissing s with
      | mk outcome t =>
        rw [hgive] at hevents hblock
        cases outcome with
        | error fault => exact ⟨[block], by simpa using hevents, .brokenOff hblock⟩
        | ok given =>
          obtain ⟨blocks, hmore, hhandovers⟩ := hrest t
          refine ⟨block :: blocks, ?_, .next hblock hhandovers⟩
          rw [hmore, hevents, List.append_assoc, List.flatten_cons]

/-- A fault is that of one gift. All before it are executed, and whatever comes after it is not. -/
theorem exists_of_execute_error {σ : Type} (site : GrantSite σ) {actions : List Action} {s s' : σ}
    {fault : Fault} (h : site.execute supply actions s = (.error fault, s')) :
    ∃ done item amount ifMissing rest t,
      actions = done ++ .giveItem item amount ifMissing :: rest ∧
      site.execute supply done s = (.ok (), t) ∧
      site.give supply item amount ifMissing t = (.error fault, s') := by
  induction actions generalizing s with
  | nil => cases h
  | cons a rest ih =>
    cases a with
    | unknown type source =>
      obtain ⟨done, item, amount, ifMissing, rest', t, rfl, hdone, hgive⟩ := ih h
      exact ⟨.unknown type source :: done, item, amount, ifMissing, rest', t, rfl, hdone, hgive⟩
    | giveItem item amount ifMissing =>
      unfold execute at h
      cases hgive : site.give supply item amount ifMissing s with
      | mk outcome t =>
        rw [hgive] at h
        cases outcome with
        | error f =>
          cases h
          exact ⟨[], item, amount, ifMissing, rest, s, rfl, rfl, hgive⟩
        | ok given =>
          obtain ⟨done, item', amount', ifMissing', rest', u, rfl, hdone, hfault⟩ := ih h
          refine ⟨.giveItem item amount ifMissing :: done, item', amount', ifMissing', rest', u,
            rfl, ?_, hfault⟩
          simp only [execute, hgive, hdone]

theorem execute_of_give_error {σ : Type} (site : GrantSite σ) {done : List Action} {item : String}
    {amount : Option Number} {ifMissing : Bool} {s s' t : σ} {fault : Fault}
    (hdone : site.execute supply done s = (.ok (), t))
    (hgive : site.give supply item amount ifMissing t = (.error fault, s')) (rest : List Action) :
    site.execute supply (done ++ .giveItem item amount ifMissing :: rest) s =
      (.error fault, s') := by
  rw [execute_append, hdone]
  simp only [execute, hgive]

/-- What is broadcast and written while actions are executed. Each gift has its block, which begins
with the inventory that the last gift before it led to, and what is stored and known in the end is
what the last gift led to, whether or not a write fails. If one does, the block of its gift is cut
off after the first broadcast and is the last, the fault leaves the execution, and whatever actions
come after it have no effect. -/
theorem execute_transcript {actions : List Action} (hactions : ∀ a ∈ actions, a.FiniteAmount)
    (supply : Supply) (s : GrantLog) :
    let r := recording.execute supply actions s
    ∃ blocks, r.2.events = s.events ++ blocks.flatten ∧
      Handovers supply actions s.stock blocks r.1 r.2.stock ∧
      (∀ before block after event, blocks = before ++ block :: after → block.head? = some event →
        event = .broadcast
          (((updates before).getLast?.or s.stock.cache).getD s.stock.service.stored)) ∧
      s.stock.Updated (updates blocks) r.2.stock ∧
      ∀ fault, r.1 = .error fault → fault = .diskFull ∧
        ∃ done item amount ifMissing rest before inventory t,
          actions = done ++ .giveItem item amount ifMissing :: rest ∧
          blocks = before ++ [[.broadcast inventory]] ∧
          recording.execute supply done s = (.ok (), t) ∧
          t.events = s.events ++ before.flatten ∧
          Handovers supply done s.stock before (.ok ()) t.stock ∧
          Handover supply item amount ifMissing t.stock [.broadcast inventory] (.error .diskFull)
            r.2.stock ∧
          ∀ rest', recording.execute supply (done ++ .giveItem item amount ifMissing :: rest') s =
            r := by
  intro r
  cases hr : r with
  | mk outcome s' =>
  cases outcome with
  | ok =>
    obtain ⟨blocks, hevents, hhandovers⟩ := handovers_of_execute supply hactions s
    rw [show recording.execute supply actions s = _ from hr] at hevents hhandovers
    exact ⟨blocks, hevents, hhandovers, fun _ _ _ _ hsplit => hhandovers.head_eq hsplit,
      hhandovers.updated, nofun⟩
  | error fault =>
    obtain ⟨done, item, amount, ifMissing, rest, t, rfl, hdone, hgive⟩ :=
      recording.exists_of_execute_error hr
    rw [List.forall_mem_append, List.forall_mem_cons] at hactions
    obtain ⟨before, hbefore, hhandovers⟩ := handovers_of_execute supply hactions.1 s
    obtain ⟨block, hblock, hhandover⟩ := handover_of_give supply hactions.2.1 ifMissing t
    rw [hdone] at hbefore hhandovers
    rw [hgive] at hblock hhandover
    have hgift : Handovers supply (.giveItem item amount ifMissing :: rest) t.stock [block]
        (.error fault) s'.stock := .brokenOff hhandover
    have hall := hhandovers.append hgift
    have hrest := recording.execute_of_give_error hdone hgive
    cases hhandover with
    | refused shows takes fails cache service =>
      refine ⟨_, ?_, hall, fun _ _ _ _ hsplit => hall.head_eq hsplit, hall.updated, ?_⟩
      · rw [hblock, hbefore, List.flatten_append, List.append_assoc]
        rfl
      · rintro _ ⟨⟩
        exact ⟨rfl, done, item, amount, ifMissing, rest, before, _, t, rfl, rfl, hdone, hbefore,
          hhandovers, .refused shows takes fails cache service, hrest⟩

/-- Every fetch works, but of the writes only the first. -/
def fillingUp : Supply := ⟨fun _ => .stored, fun n => n != 0⟩

/-- Gifts of which the first is written, the second is there then, and the third cannot be
written. -/
def deliveries : List Action :=
  [.giveItem "rope" (some 2) false, .unknown "heal" [], .giveItem "rope" none true,
    .giveItem "key" none true, .giveItem "coin" none false]

theorem transcript_deliveries :
    let s : GrantLog := ⟨.ofService (.ofItems [("pass", 1)] 3 []), []⟩
    let r := recording.execute fillingUp deliveries s
    r.1 = .error .diskFull ∧ r.2.events.length = 5 ∧
      r.2.stock.service.stored.slots = [⟨.str "pass", 1⟩, ⟨.str "rope", 2⟩, .vacant] ∧
      ∃ before inventory, r.2.events = before.flatten ++ [.broadcast inventory] ∧
        s.stock.Updated (updates (before ++ [[.broadcast inventory]])) r.2.stock := by
  intro s r
  have hfinite : ∀ a ∈ deliveries, a.FiniteAmount := by
    intro a ha
    simp only [deliveries, List.mem_cons, List.not_mem_nil, or_false] at ha
    rcases ha with rfl | rfl | rfl | rfl | rfl
    case inr.inl => trivial
    all_goals rintro n ⟨⟩ <;> rfl
  obtain ⟨blocks, hevents, -, -, hupdated, hfault⟩ := execute_transcript hfinite fillingUp s
  obtain ⟨-, _, _, _, _, _, before, inventory, _, -, rfl, -⟩ := hfault .diskFull rfl
  refine ⟨rfl, rfl, rfl, before, inventory, ?_, hupdated⟩
  rw [hevents, List.flatten_append]
  rfl

end GrantSite

end Parley
