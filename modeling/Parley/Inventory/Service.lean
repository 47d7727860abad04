import Parley.Inventory.Snapshot

/-!
# The inventory service

The service stores the player's inventory. Conversations work on a cached snapshot, which is
fetched from the service only while there is none. A fetch may bring nothing or fail, and a write
may fail before anything is stored; `Supply` says what happens at each.
-/

namespace Parley

inductive FetchOutcome where
  | stored
  | nothing
  | failure
deriving DecidableEq, Repr

/-- What happens at the fetch and at the write that follow so many others. -/
structure Supply where
  fetch : Nat → FetchOutcome
  writeFails : Nat → Bool

namespace Supply

/-- Every fetch ends in one way, and every write works or every write fails. -/
def constant (fetch : FetchOutcome) (writeFails : Bool) : Supply :=
  ⟨fun _ => fetch, fun _ => writeFails⟩

def working : Supply := constant .stored false

end Supply

/-- The stored inventory and the numbers of fetches, of attempted writes and of writes done. -/
structure Service where
  stored : Snapshot
  fetches : Nat
  attempts : Nat
  writes : Nat
deriving Repr, Inhabited

namespace Service

/-- The number of slots of an inventory that does not say otherwise. -/
def defaultSlots : Int := 10

/-- A service with one slot for each item and vacant slots up to a total. -/
def ofItems (items : List (String × Int)) (total : Int) (extra : Members) : Service :=
  let slots := items.map fun p => Slot.mk (.str p.1) p.2
  let vacant := List.replicate (total - slots.length).toNat Slot.vacant
  ⟨⟨slots ++ vacant, extra⟩, 0, 0, 0⟩

/-- Items by id: one given twice keeps its first place and takes its last count. -/
def itemCounts (pairs : List (String × Int)) : List (String × Int) :=
  pairs.foldl (fun acc p => set acc p.1 p.2) []
where
  set : List (String × Int) → String → Int → List (String × Int)
    | [], id, n => [(id, n)]
    | (k, m) :: rest, id, n => if k == id then (k, n) :: rest else (k, m) :: set rest id n

def store (s : Service) (slots : List Slot) : Service :=
  { s with stored := s.stored.withSlots slots, writes := s.writes + 1 }

/-- Sets a member of the stored inventory. -/
def equip (s : Service) (name : String) (item : Json) : Service :=
  { s with stored := { s.stored with extra := s.stored.extra.put name item } }

/-- How many of an item the slots have together. -/
def count (s : Service) (item : String) : Int :=
  (s.stored.slots.filter fun slot => match slot.item with
    | .str t => t == item
    | _ => false).foldl (fun n slot => n + slot.count) 0

end Service

/-- The service and the snapshot that is known of it. -/
structure Stock where
  service : Service
  cache : Option Snapshot
deriving Repr, Inhabited

namespace Stock

def ofService (s : Service) : Stock := ⟨s, none⟩

/-- The known snapshot, fetched first if there is none. -/
def get (supply : Supply) (s : Stock) : Option Snapshot × Stock :=
  match s.cache with
  | some snapshot => (some snapshot, s)
  | none =>
    let service := { s.service with fetches := s.service.fetches + 1 }
    match supply.fetch s.service.fetches with
    | .stored => (some service.stored, ⟨service, some service.stored⟩)
    | _ => (none, ⟨service, none⟩)

/-- Makes a snapshot, or none, the known one. -/
def replace (s : Stock) (snapshot : Option Snapshot) : Stock := { s with cache := snapshot }

/-- Writes slots to the service. A write that fails stores nothing. -/
def write (supply : Supply) (s : Stock) (slots : List Slot) : Except Fault Unit × Stock :=
  let service := { s.service with attempts := s.service.attempts + 1 }
  if supply.writeFails s.service.attempts then (.error .diskFull, { s with service })
  else (.ok (), { s with service := service.store slots })

end Stock
end Parley
