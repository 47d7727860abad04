import Mathlib.Logic.Relation
import Parley.Dialogue.Resolution
import Parley.Inventory.Grant

/-!
# The ledger of a stock

A ledger is a stock together with the slots that were written to its service, in order. Whatever
fails on the way, resolving and executing actions move a ledger by four kinds of steps: a fetch that
is answered or not, a write that is refused, and a grant. What is broadcast meanwhile changes
nothing, because it is what the stock already knows.
-/

namespace Parley

/-- A stock and the slots that were written to its service. -/
structure Ledger where
  stock : Stock
  written : List (List Slot)

/-- What happens to a ledger, where `P` tells which actions may be executed. -/
inductive Ledger.Step (P : Action → Prop) : Ledger → Ledger → Prop where
  | fetched {service : Service} {written : List (List Slot)} :
    Step P ⟨⟨service, none⟩, written⟩
      ⟨⟨{ service with fetches := service.fetches + 1 }, some service.stored⟩, written⟩
  | unanswered {service : Service} {written : List (List Slot)} :
    Step P ⟨⟨service, none⟩, written⟩
      ⟨⟨{ service with fetches := service.fetches + 1 }, none⟩, written⟩
  | refused {service : Service} {cache : Option Snapshot} {written : List (List Slot)} :
    Step P ⟨⟨service, cache⟩, written⟩
      ⟨⟨{ service with attempts := service.attempts + 1 }, cache⟩, written⟩
  | granted {service : Service} {inventory : Snapshot} {written : List (List Slot)}
      {item : String} {amount : Option Number} {ifMissing : Bool} {count : Int} {slots : List Slot}
      (permitted : P (.giveItem item amount ifMissing))
      (missing : ifMissing = true → inventory.holdsInSlot item = false)
      (counted : grantAmount amount = .ok count)
      (filled : fillFirstEmpty item count inventory.slots = some slots) :
    Step P ⟨⟨service, some inventory⟩, written⟩
      ⟨⟨{ service with attempts := service.attempts + 1 }.store slots,
        some (inventory.withSlots slots)⟩, written ++ [slots]⟩

abbrev Ledger.Steps (P : Action → Prop) : Ledger → Ledger → Prop :=
  Relation.ReflTransGen (Ledger.Step P)

variable {P : Action → Prop}

/-- A look at the stock fetches at most once, and what it sees is then known. -/
theorem Stock.steps_get (supply : Supply) (s : Stock) (written : List (List Slot)) :
    Ledger.Steps P ⟨s, written⟩ ⟨(s.get supply).2, written⟩ ∧
      (s.get supply).2.cache = (s.get supply).1 := by
  obtain ⟨service, cache⟩ := s
  cases cache with
  | some inventory => exact ⟨.refl, rfl⟩
  | none =>
    unfold Stock.get
    dsimp only
    cases supply.fetch service.fetches with
    | stored => exact ⟨.single .fetched, rfl⟩
    | nothing => exact ⟨.single .unanswered, rfl⟩
    | failure => exact ⟨.single .unanswered, rfl⟩

namespace Resolution

theorem steps_passes (supply : Supply) (checks : List Check) (s : Stock)
    (written : List (List Slot)) :
    Ledger.Steps P ⟨s, written⟩ ⟨(passes supply checks s).2, written⟩ := by
  induction checks generalizing s with
  | nil => exact .refl
  | cons c rest ih =>
    have hget := (s.steps_get (P := P) supply written).1
    unfold passes
    dsimp only
    split
    · exact hget.trans (ih _)
    · exact hget

theorem steps_firstPassing {α : Type} (supply : Supply) (checks : α → List Check) (as : List α)
    (s : Stock) (written : List (List Slot)) :
    Ledger.Steps P ⟨s, written⟩ ⟨(firstPassing supply checks as s).2, written⟩ := by
  induction as generalizing s with
  | nil => exact .refl
  | cons a rest ih =>
    have hpasses := steps_passes (P := P) supply (checks a) s written
    unfold firstPassing
    split
    · rename_i h
      rwa [h] at hpasses
    · rename_i h
      rw [h] at hpasses
      exact hpasses.trans (ih _)

end Resolution

theorem Document.steps_resolve (supply : Supply) (d : Document) (s : Stock)
    (written : List (List Slot)) :
    Ledger.Steps P ⟨s, written⟩ ⟨(d.resolve supply s).2, written⟩ :=
  Resolution.steps_firstPassing supply Fork.checks _ s written

theorem Choice.steps_resolve (supply : Supply) (c : Choice) (s : Stock)
    (written : List (List Slot)) :
    Ledger.Steps P ⟨s, written⟩ ⟨(c.resolve supply s).2, written⟩ :=
  Resolution.steps_firstPassing supply Branch.checks _ s written

namespace GrantSite

variable {σ : Type}

/-- A site keeps a ledger: its stock is that of the ledger, writes are entered, and to broadcast
what is known changes nothing. It does so in the states that are `quiet`, and stays quiet. -/
structure Keeps (site : GrantSite σ) (quiet : σ → Prop) (ledger : σ → Ledger) : Prop where
  stock : ∀ s, (ledger s).stock = site.stock s
  setStock : ∀ s stock, quiet s →
    quiet (site.setStock s stock) ∧ ledger (site.setStock s stock) = ⟨stock, (ledger s).written⟩
  write : ∀ s slots, quiet s → quiet (site.notify (.write slots) s) ∧
    ledger (site.notify (.write slots) s) = ⟨(ledger s).stock, (ledger s).written ++ [slots]⟩
  broadcast : ∀ s inventory, quiet s → (site.stock s).cache = some inventory →
    quiet (site.notify (.broadcast inventory) s) ∧
      ledger (site.notify (.broadcast inventory) s) = ledger s

namespace Keeps

variable {site : GrantSite σ} {quiet : σ → Prop} {ledger : σ → Ledger}

theorem ledger_eq (h : site.Keeps quiet ledger) (s : σ) :
    ledger s = ⟨site.stock s, (ledger s).written⟩ := by rw [← h.stock]

/-- Slots that were written are entered, and then the inventory is known with them. -/
theorem ledger_granted (h : site.Keeps quiet ledger) {s : σ} (hs : quiet s) {supply : Supply}
    {slots : List Slot} {stock : Stock}
    (hwrite : (site.stock s).write supply slots = (.ok (), stock)) (inventory : Snapshot) :
    let told := site.notify (.write slots) (site.setStock s stock)
    let updated := inventory.withSlots slots
    let s' := site.notify (.broadcast updated)
      (site.setStock told ((site.stock told).replace (some updated)))
    quiet s' ∧ ledger s' = ⟨⟨{ (site.stock s).service with
      attempts := (site.stock s).service.attempts + 1 }.store slots, some updated⟩,
      (ledger s).written ++ [slots]⟩ := by
  intro told updated s'
  obtain ⟨hq₁, hl₁⟩ := h.setStock s stock hs
  obtain ⟨hq₂, hl₂⟩ := h.write _ slots hq₁
  obtain ⟨hq₃, hl₃⟩ := h.setStock told ((site.stock told).replace (some updated)) hq₂
  have hcache : (site.stock (site.setStock told
      ((site.stock told).replace (some updated)))).cache = some updated := by
    rw [← h.stock, hl₃]
    rfl
  obtain ⟨hq₄, hl₄⟩ := h.broadcast _ updated hq₃ hcache
  refine ⟨hq₄, ?_⟩
  have htold : site.stock told = stock := by
    rw [← h.stock, hl₂, hl₁]
  rw [hl₄, hl₃, hl₂, hl₁, htold]
  unfold Stock.write at hwrite
  dsimp only at hwrite
  split at hwrite
  · cases hwrite
  · cases hwrite
    rfl

/-- Putting a known inventory with other slots into the cache after a write is a grant. -/
theorem steps_granted (h : site.Keeps quiet ledger) {s : σ} (hs : quiet s) {supply : Supply}
    {inventory : Snapshot} (hknown : (site.stock s).cache = some inventory) {item : String}
    {amount : Option Number} {ifMissing : Bool} {count : Int} {slots : List Slot} {stock : Stock}
    (permitted : P (.giveItem item amount ifMissing))
    (missing : ifMissing = true → inventory.holdsInSlot item = false)
    (counted : grantAmount amount = .ok count)
    (filled : fillFirstEmpty item count inventory.slots = some slots)
    (hwrite : (site.stock s).write supply slots = (.ok (), stock)) :
    let told := site.notify (.write slots) (site.setStock s stock)
    let updated := inventory.withSlots slots
    let s' := site.notify (.broadcast updated)
      (site.setStock told ((site.stock told).replace (some updated)))
    quiet s' ∧ Ledger.Steps P (ledger s) (ledger s') := by
  intro told updated s'
  obtain ⟨hq, hl⟩ := h.ledger_granted hs hwrite inventory
  refine ⟨hq, ?_⟩
  rw [hl, h.ledger_eq s]
  generalize site.stock s = before at hknown
  obtain ⟨service, cache⟩ := before
  cases hknown
  exact .single (.granted permitted missing counted filled)

theorem steps_refused (h : site.Keeps quiet ledger) {s : σ} (hs : quiet s) {supply : Supply}
    {slots : List Slot} {stock : Stock} {fault : Fault}
    (hwrite : (site.stock s).write supply slots = (.error fault, stock)) :
    quiet (site.setStock s stock) ∧ Ledger.Steps P (ledger s) (ledger (site.setStock s stock)) := by
  obtain ⟨hq, hl⟩ := h.setStock s stock hs
  refine ⟨hq, ?_⟩
  rw [hl, h.ledger_eq s]
  generalize site.stock s = before at hwrite
  obtain ⟨service, cache⟩ := before
  unfold Stock.write at hwrite
  dsimp only at hwrite
  split at hwrite
  · cases hwrite
    exact .single .refused
  · cases hwrite

/-- A grant, whatever its outcome, is a run of steps. -/
theorem give (h : site.Keeps quiet ledger) {s : σ} (hs : quiet s) (supply : Supply) {item : String}
    {amount : Option Number} {ifMissing : Bool} (hP : P (.giveItem item amount ifMissing)) :
    quiet (site.give supply item amount ifMissing s).2 ∧
      Ledger.Steps P (ledger s) (ledger (site.give supply item amount ifMissing s).2) := by
  obtain ⟨hget, hknown⟩ := (site.stock s).steps_get (P := P) supply (ledger s).written
  obtain ⟨hq, hl⟩ := h.setStock s ((site.stock s).get supply).2 hs
  rw [← hl, ← h.ledger_eq s] at hget
  have hstock : site.stock (site.setStock s ((site.stock s).get supply).2) =
      ((site.stock s).get supply).2 := by rw [← h.stock, hl]
  unfold GrantSite.give
  dsimp only
  generalize ((site.stock s).get supply).1 = seen at hknown ⊢
  rw [← hstock] at hknown
  generalize site.setStock s ((site.stock s).get supply).2 = s₁ at hq hget hknown ⊢
  cases seen with
  | none => exact ⟨hq, hget⟩
  | some inventory =>
    dsimp only
    obtain ⟨hq', hl'⟩ := h.broadcast s₁ inventory hq hknown
    have hknown' : (site.stock (site.notify (.broadcast inventory) s₁)).cache =
        some inventory := by rw [← h.stock, hl', h.stock, hknown]
    rw [← hl'] at hget
    generalize site.notify (.broadcast inventory) s₁ = s₂ at hq' hget hknown' ⊢
    split
    · exact ⟨hq', hget⟩
    rename_i hmissing
    split
    · exact ⟨hq', hget⟩
    split
    · exact ⟨hq', hget⟩
    rename_i count hcount
    split
    · exact ⟨hq', hget⟩
    rename_i slots hfilled
    split
    · rename_i fault stock hwrite
      obtain ⟨hq₃, hrefused⟩ := h.steps_refused (P := P) hq' hwrite
      exact ⟨hq₃, hget.trans hrefused⟩
    · rename_i stock hwrite
      have hmissing' : ifMissing = true → inventory.holdsInSlot item = false := by
        intro hif
        simpa [hif] using hmissing
      obtain ⟨hq₃, hgranted⟩ := h.steps_granted hq' hknown' hP hmissing' hcount hfilled hwrite
      exact ⟨hq₃, hget.trans hgranted⟩

/-- An execution of actions, whatever its outcome, is a run of steps. -/
theorem execute (h : site.Keeps quiet ledger) (supply : Supply) {actions : List Action}
    (hP : ∀ a ∈ actions, P a) {s : σ} (hs : quiet s) :
    quiet (site.execute supply actions s).2 ∧
      Ledger.Steps P (ledger s) (ledger (site.execute supply actions s).2) := by
  induction actions generalizing s with
  | nil => exact ⟨hs, .refl⟩
  | cons action rest ih =>
    have hrest : ∀ a ∈ rest, P a := fun a ha => hP a (List.mem_cons_of_mem _ ha)
    cases action with
    | unknown type source => exact ih hrest hs
    | giveItem item amount ifMissing =>
      obtain ⟨hq, hgive⟩ := h.give hs supply (hP _ List.mem_cons_self)
      unfold GrantSite.execute
      split
      · rename_i hgave
        rw [hgave] at hq hgive
        exact ⟨hq, hgive⟩
      · rename_i hgave
        rw [hgave] at hq hgive
        obtain ⟨hq', hsteps⟩ := ih hrest hq
        exact ⟨hq', hgive.trans hsteps⟩

end Keeps
end GrantSite
end Parley
