import Parley.Dialogue.Document
import Parley.Inventory.Service

/-!
# Granting items

An item is given by starting a new stack in the first empty slot. Listeners are told the inventory
before a grant, whether it happens or not, and again after it.
-/

namespace Parley

/-- How many units an amount grants: whole units, at least one, and one unless the amount is a
finite number. -/
def grantAmount : Option Number → Except Fault Int
  | none => .ok 1
  | some n => do
    if ← n.finite then
      return max 1 (← n.floor)
    else return 1

/-- The slots with a stack of an item in the first empty one; nothing if none is empty. -/
def fillFirstEmpty (item : String) (count : Int) : List Slot → Option (List Slot)
  | [] => none
  | s :: rest =>
    if s.isEmpty then some (⟨.str item, count⟩ :: rest)
    else (fillFirstEmpty item count rest).map (s :: ·)

/-- What others see of a grant. -/
inductive GrantEvent where
  | broadcast (inventory : Snapshot)
  | write (slots : List Slot)
deriving Repr

/-- Where grants happen: a stock that can be reached from a state, and what a state does with an
event. -/
structure GrantSite (σ : Type) where
  stock : σ → Stock
  setStock : σ → Stock → σ
  notify : GrantEvent → σ → σ

namespace GrantSite

variable {σ : Type} (site : GrantSite σ)

/-- Gives an item. The result tells whether a slot was filled. -/
def give (supply : Supply) (item : String) (amount : Option Number) (ifMissing : Bool) (s : σ) :
    Except Fault Bool × σ :=
  let (inventory, stock) := (site.stock s).get supply
  let s := site.setStock s stock
  match inventory with
  | none => (.ok false, s)
  | some inventory =>
    let s := site.notify (.broadcast inventory) s
    if ifMissing && inventory.holdsInSlot item then (.ok false, s)
    else if !inventory.slots.any Slot.isEmpty then (.ok false, s)
    else match grantAmount amount with
      | .error f => (.error f, s)
      | .ok count => match fillFirstEmpty item count inventory.slots with
        | none => (.ok false, s)
        | some slots =>
          match (site.stock s).write supply slots with
          | (.error f, stock) => (.error f, site.setStock s stock)
          | (.ok (), stock) =>
            let updated := inventory.withSlots slots
            let s := site.notify (.write slots) (site.setStock s stock)
            let s := site.setStock s ((site.stock s).replace (some updated))
            (.ok true, site.notify (.broadcast updated) s)

/-- Executes actions in order; one of an unknown type does nothing. -/
def execute (supply : Supply) : List Action → σ → Except Fault Unit × σ
  | [], s => (.ok (), s)
  | .unknown .. :: rest, s => execute supply rest s
  | .giveItem item amount ifMissing :: rest, s =>
    match site.give supply item amount ifMissing s with
    | (.error f, s) => (.error f, s)
    | (.ok _, s) => execute supply rest s

end GrantSite

/-- A stock alone, with the events so far. -/
structure GrantLog where
  stock : Stock
  events : List GrantEvent
deriving Repr

def GrantSite.recording : GrantSite GrantLog where
  stock := GrantLog.stock
  setStock s stock := { s with stock }
  notify e s := { s with events := s.events ++ [e] }

end Parley
