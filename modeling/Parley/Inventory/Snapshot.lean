import Parley.Fault

/-!
# Inventory snapshots

A snapshot is what the player holds at one moment: slots with an item and a count, and further
members such as what is equipped. An item may be any value, because payloads may hold any; null is
no item.
-/

namespace Parley

structure Slot where
  item : Json
  count : Int
deriving Repr, Inhabited

namespace Slot

def vacant : Slot := ⟨.null, 0⟩

def isEmpty (s : Slot) : Bool := !s.item.truthy || s.count ≤ 0

def holds (s : Slot) (item : String) : Bool :=
  (match s.item with
    | .str t => t == item
    | _ => false) && 0 < s.count

def toJson (s : Slot) : Json := .obj [("itemId", s.item), ("count", .num (.int s.count))]

/-- The count in a payload. A value that counts as false and one that is no integer count zero; an
infinity is refused. -/
def readCount (v : Json) : Except Fault Int :=
  if !v.truthy then .ok 0
  else match v.toInteger with
    | .ok n => .ok n
    | .error .infiniteInteger => .error .infiniteInteger
    | .error _ => .ok 0

/-- A slot from a payload; what is no object is a vacant slot. -/
def ofJson : Json → Except Fault Slot
  | .obj ms => (readCount (Members.get ms "count")).map fun count =>
    ⟨(Members.get ms "itemId").orElse .null, count⟩
  | _ => .ok vacant

end Slot

/-- The slots of the player's inventory and all else that is known about it. -/
structure Snapshot where
  slots : List Slot
  extra : Members
deriving Repr, Inhabited

namespace Snapshot

def readSlots : List Json → Except Fault (List Slot)
  | [] => .ok []
  | v :: rest => do
    let slot ← Slot.ofJson v
    let others ← readSlots rest
    return slot :: others

/-- A snapshot from a payload; none unless the payload is an object with a list of slots. -/
def ofJson : Json → Except Fault (Option Snapshot)
  | .obj ms => match Members.get? ms "slots" with
    | some (.arr items) =>
      (readSlots items).map fun slots => some ⟨slots, Members.without ms "slots"⟩
    | _ => .ok none
  | _ => .ok none

def toJson (s : Snapshot) : Json := .obj (s.extra.put "slots" (.arr (s.slots.map Slot.toJson)))

def withSlots (s : Snapshot) (slots : List Slot) : Snapshot := ⟨slots, s.extra⟩

def holdsInSlot (s : Snapshot) (item : String) : Bool := s.slots.any fun slot => slot.holds item

end Snapshot

def containsText (text part : List Char) : Bool :=
  match text with
  | [] => part.isEmpty
  | _ :: rest => part.isPrefixOf text || containsText rest part

/-- Whether the name of a member tells that its value is equipped, in letters of any case. No
character beyond ASCII has a lower-case form in this word, so ASCII decides. -/
def namesEquipment (name : String) : Bool :=
  containsText (name.toList.map Char.toLower) "equipped".toList

namespace Snapshot

/-- Whether some member that names equipment has the item as its value. -/
def hasEquipped (s : Snapshot) (item : String) : Bool :=
  s.extra.any fun (name, v) => namesEquipment name && match v with
    | .str t => t == item
    | _ => false

def hasItem (s : Snapshot) (item : String) : Bool := s.hasEquipped item || s.holdsInSlot item

end Snapshot

/-- Whether an inventory has the item; an unknown inventory has none. -/
def Snapshot.owns (s : Option Snapshot) (item : String) : Bool :=
  match s with
  | some s => s.hasItem item
  | none => false

end Parley
