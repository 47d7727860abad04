import Parley.Proofs.Conversation.Bookkeeping
import Parley.Proofs.Conversation.Shape

/-!
# The known inventory is the stored one

Whenever nothing is going on, what an engine knows of the inventory is what its service stores, or
it knows nothing; whatever failed before, and whether or not the engine still listens. Only what the
player equips reaches the service alone, and that leaves the slots as they are.
-/

namespace Parley

/-- What is known, if anything, stands in a relation to what is stored. -/
def Stock.Agrees (R : Snapshot → Snapshot → Prop) (s : Stock) : Prop :=
  ∀ inventory, s.cache = some inventory → R inventory s.service.stored

def Snapshot.SameSlots (a b : Snapshot) : Prop := a.slots = b.slots

/-- What relates every inventory to itself, and two inventories that get the same slots. -/
structure Snapshot.Lasting (R : Snapshot → Snapshot → Prop) : Prop where
  refl : ∀ s, R s s
  withSlots : ∀ {a b : Snapshot} slots, R a b → R (a.withSlots slots) (b.withSlots slots)

namespace Snapshot

theorem lasting_eq : Lasting (· = ·) := ⟨fun _ => rfl, fun _ h => h ▸ rfl⟩

theorem lasting_sameSlots : Lasting SameSlots := ⟨fun _ => rfl, fun _ _ => rfl⟩

end Snapshot

variable {R : Snapshot → Snapshot → Prop}

theorem Stock.agrees_of_cache_eq_none {s : Stock} (h : s.cache = none) : s.Agrees R := by
  intro inventory hknown
  rw [h] at hknown
  cases hknown

theorem Ledger.Step.agrees (hR : Snapshot.Lasting R) {P : Action → Prop} {l l' : Ledger}
    (h : Step P l l') (hagrees : l.stock.Agrees R) : l'.stock.Agrees R := by
  cases h with
  | fetched =>
    rintro inventory ⟨⟩
    exact hR.refl _
  | unanswered => exact Stock.agrees_of_cache_eq_none rfl
  | refused => exact hagrees
  | granted =>
    rintro inventory ⟨⟩
    exact hR.withSlots _ (hagrees _ rfl)

theorem Ledger.Steps.agrees (hR : Snapshot.Lasting R) {P : Action → Prop} {l l' : Ledger}
    (h : Steps P l l') (hagrees : l.stock.Agrees R) : l'.stock.Agrees R := by
  induction h with
  | refl => exact hagrees
  | tail _ hstep ih => exact hstep.agrees hR ih

def GrantEvent.written? : GrantEvent → Option (List Slot)
  | .write slots => some slots
  | .broadcast _ => none

def GrantLog.ledger (s : GrantLog) : Ledger := ⟨s.stock, s.events.filterMap GrantEvent.written?⟩

theorem GrantSite.recording_keeps : recording.Keeps (fun _ => True) GrantLog.ledger where
  stock _ := rfl
  setStock _ _ _ := ⟨trivial, rfl⟩
  write s slots _ := by
    simp [recording, GrantLog.ledger, List.filterMap_append, GrantEvent.written?]
  broadcast s inventory _ _ := by
    simp [recording, GrantLog.ledger, List.filterMap_append, GrantEvent.written?]

/-- What may happen to a stock without an engine. -/
inductive Chore where
  | execute (actions : List Action)
  | give (item : String) (amount : Option Number) (ifMissing : Bool)
  | look
  | equip (name : String) (item : Json)

namespace Chore

def IsEquip (c : Chore) : Prop := ∃ name item, c = .equip name item

/-- The stock and its events after a chore, whatever the outcome of the chore. -/
def perform (supply : Supply) (s : GrantLog) : Chore → GrantLog
  | .execute actions => (GrantSite.recording.execute supply actions s).2
  | .give item amount ifMissing => (GrantSite.recording.give supply item amount ifMissing s).2
  | .look => { s with stock := (s.stock.get supply).2 }
  | .equip name item =>
    { s with stock := { s.stock with service := s.stock.service.equip name item } }

theorem agrees_perform (hR : Snapshot.Lasting R) {c : Chore}
    (hequip : c.IsEquip → ∀ {a b : Snapshot} extra, R a b → R a { b with extra }) (supply : Supply)
    {s : GrantLog} (h : s.stock.Agrees R) : (c.perform supply s).stock.Agrees R := by
  cases c with
  | execute actions =>
    have hsteps : Ledger.Steps (fun _ => True) s.ledger
        (GrantSite.recording.execute supply actions s).2.ledger :=
      (GrantSite.recording_keeps.execute supply (fun _ _ => trivial) trivial).2
    exact hsteps.agrees hR h
  | give item amount ifMissing =>
    have hsteps : Ledger.Steps (fun _ => True) s.ledger
        (GrantSite.recording.give supply item amount ifMissing s).2.ledger :=
      (GrantSite.recording_keeps.give trivial supply trivial).2
    exact hsteps.agrees hR h
  | look => exact (s.stock.steps_get (P := fun _ => True) supply []).1.agrees hR h
  | equip name item => exact fun inventory hknown => hequip ⟨name, item, rfl⟩ _ (h inventory hknown)

/-- The stock after chores, each with a supply of its own. -/
def performAll (chores : List (Supply × Chore)) (s : GrantLog) : GrantLog :=
  chores.foldl (fun s c => c.2.perform c.1 s) s

theorem agrees_performAll (hR : Snapshot.Lasting R) {chores : List (Supply × Chore)}
    (hequip : ∀ c ∈ chores, c.2.IsEquip → ∀ {a b : Snapshot} extra, R a b → R a { b with extra })
    {s : GrantLog} (h : s.stock.Agrees R) : (performAll chores s).stock.Agrees R := by
  induction chores generalizing s with
  | nil => exact h
  | cons c rest ih =>
    have hfirst := agrees_perform hR (hequip c List.mem_cons_self) c.1 h
    exact ih (fun c' hc' => hequip c' (List.mem_cons_of_mem _ hc')) hfirst

end Chore

namespace Engine

variable {τ : Type} [Translation τ]

theorem within_true (s : Session) : s.Within fun _ => True :=
  ⟨fun _ _ => trivial, fun _ _ => trivial⟩

theorem agrees_deed (hR : Snapshot.Lasting R) {d : Deed} (hnews : ¬ d.IsNews)
    (hequip : d.IsEquip → ∀ {a b : Snapshot} extra, R a b → R a { b with extra })
    (w : Surroundings τ) {e : Engine} (hquiet : e.Quiet) (h : e.stock.Agrees R) :
    (d.perform w e).Quiet ∧ (d.perform w e).stock.Agrees R := by
  by_cases hd : d.IsEquip
  · obtain ⟨name, item, rfl⟩ := hd
    exact ⟨hquiet, fun inventory hknown => hequip ⟨name, item, rfl⟩ _ (h inventory hknown)⟩
  · have hw : w.Within fun _ => True := fun _ _ _ _ _ => trivial
    obtain ⟨hquiet', -, hsteps⟩ := follows_deed hw hnews hd e hquiet (within_true _)
    exact ⟨hquiet', hsteps.agrees hR h⟩

theorem agrees_afterDeeds (hR : Snapshot.Lasting R) {steps : List (Surroundings τ × Deed)}
    (hnews : ∀ step ∈ steps, ¬ step.2.IsNews)
    (hequip : ∀ step ∈ steps, step.2.IsEquip →
      ∀ {a b : Snapshot} extra, R a b → R a { b with extra })
    {e : Engine} (hquiet : e.Quiet) (h : e.stock.Agrees R) :
    (afterDeeds steps e).stock.Agrees R := by
  induction steps generalizing e with
  | nil => exact h
  | cons step rest ih =>
    obtain ⟨hquiet', hfirst⟩ := agrees_deed hR (hnews step List.mem_cons_self)
      (hequip step List.mem_cons_self) step.1 hquiet h
    exact ih (fun s hs => hnews s (List.mem_cons_of_mem _ hs))
      (fun s hs => hequip s (List.mem_cons_of_mem _ hs)) hquiet' hfirst

end Engine

/-- What an engine that hears no news from others knows of the inventory has the slots that are
stored, and it is what is stored as long as the player equips nothing. The same holds of an executor
without an engine. -/
theorem agrees_of_deeds {τ : Type} [Translation τ] {e : Engine} (hquiet : e.Quiet)
    (hcache : e.stock.cache = none) (steps : List (Surroundings τ × Deed))
    (hnews : ∀ step ∈ steps, ¬ step.2.IsNews) {s : GrantLog} (hcache' : s.stock.cache = none)
    (chores : List (Supply × Chore)) :
    ((e.afterDeeds steps).stock.Agrees Snapshot.SameSlots ∧
      ((∀ step ∈ steps, ¬ step.2.IsEquip) → (e.afterDeeds steps).stock.Agrees (· = ·))) ∧
    (Chore.performAll chores s).stock.Agrees Snapshot.SameSlots ∧
      ((∀ c ∈ chores, ¬ c.2.IsEquip) → (Chore.performAll chores s).stock.Agrees (· = ·)) := by
  refine ⟨⟨?_, ?_⟩, ?_, ?_⟩
  · refine Engine.agrees_afterDeeds Snapshot.lasting_sameSlots hnews ?_ hquiet
      (Stock.agrees_of_cache_eq_none hcache)
    exact fun _ _ _ _ _ _ h => h
  · intro hequip
    refine Engine.agrees_afterDeeds Snapshot.lasting_eq hnews ?_ hquiet
      (Stock.agrees_of_cache_eq_none hcache)
    exact fun step hstep h => absurd h (hequip step hstep)
  · refine Chore.agrees_performAll Snapshot.lasting_sameSlots ?_
      (Stock.agrees_of_cache_eq_none hcache')
    exact fun _ _ _ _ _ _ h => h
  · intro hequip
    refine Chore.agrees_performAll Snapshot.lasting_eq ?_ (Stock.agrees_of_cache_eq_none hcache')
    exact fun c hc h => absurd h (hequip c hc)

namespace Engine

def gateWith (supply : Supply) : World := { World.plain gift with supply }

/-- Three visits at the gate: at the end of the first the inventory cannot be fetched, at the end of
the second it cannot be written, and the last, which is started twice at once, ends when the engine
listens no more. -/
def errands : List (World × Deed) :=
  [(gateWith (.constant .failure false), .call (.start "gate" .null)),
    (gateWith (.constant .failure false), .call (.turn .advance)),
    (gateWith (.constant .failure false), .call (.turn .advance)),
    (gateWith .working, .call (.interact "gate" .null)),
    (gateWith .working, .call (.turn .advance)),
    (gateWith (.constant .stored true), .call (.turn .advance)),
    (gateWith .working, .listen),
    (gateWith .working, .together ["gate", "gate"]),
    (gateWith .working, .call (.turn .advance)),
    (gateWith .working, .call .destroy),
    (gateWith .working, .call (.turn .advance))]

/-- What an executor alone does: the first gift finds no inventory. -/
def odds : List (Supply × Chore) :=
  [(.constant .nothing false, .give "coin" none false), (.working, .look),
    (.working, .equip "equippedRodId" (.str "rod")),
    (.working, .execute [.giveItem "key" none true, .giveItem "key" none true])]

theorem agrees_of_errands :
    (visitor.afterDeeds errands).stock.cache = some ⟨[⟨.str "key", 1⟩], []⟩ ∧
      (visitor.afterDeeds errands).stock.Agrees (· = ·) ∧
      (Chore.performAll odds ⟨visitor.stock, []⟩).stock.cache = some ⟨[⟨.str "key", 1⟩], []⟩ ∧
      (Chore.performAll odds ⟨visitor.stock, []⟩).stock.Agrees Snapshot.SameSlots := by
  have hplain : ∀ step ∈ errands, ¬ step.2.IsNews ∧ ¬ step.2.IsEquip := by
    intro step hstep
    simp only [errands, List.mem_cons, List.not_mem_nil, or_false] at hstep
    rcases hstep with rfl | rfl | rfl | rfl | rfl | rfl | rfl | rfl | rfl | rfl | rfl <;>
      exact ⟨nofun, nofun⟩
  obtain ⟨⟨-, hexact⟩, hslots, -⟩ := agrees_of_deeds (quiet_start _ : visitor.Quiet) rfl errands
    (fun step hstep => (hplain step hstep).1) (s := ⟨visitor.stock, []⟩) rfl odds
  exact ⟨rfl, hexact fun step hstep => (hplain step hstep).2, rfl, hslots⟩

end Engine
end Parley
