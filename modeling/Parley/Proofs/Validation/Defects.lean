import Parley.Proofs.Dialogue.Location
import Parley.Proofs.Validation.WellFormed

/-!
# The defects of a value

What is wrong with a value that is read as a document, told of the value and not of the reading: at
each place that is read, a list should be a list, an entry should be an object, and an object should
have sound fields. The way to a defect goes by the members and indices of the value itself. Nothing
is read below an entry that is skipped, so there are no defects there.
-/

namespace Parley

def readingOrder : List String := ["checks", "lines", "options", "forks", "actions", "branches"]

/-- What stands at the one place is read before what stands at the other. -/
inductive Location.Before : Location → Location → Prop where
  | outside {s : Step} {l : Location} : Before [] (s :: l)
  | item {i j : Nat} {l m : Location} (h : i < j) : Before (.item i :: l) (.item j :: m)
  | field {a b : String} {l m : Location} (h : readingOrder.idxOf a < readingOrder.idxOf b) :
      Before (.field a :: l) (.field b :: m)
  | step {s : Step} {l m : Location} (h : Before l m) : Before (s :: l) (s :: m)

namespace Location.Before

variable {l m : Location}

theorem append (h : Before l m) (here : Location) : Before (here ++ l) (here ++ m) := by
  induction here with
  | nil => exact h
  | cons s here ih => exact .step ih

theorem ne (h : Before l m) : l ≠ m := by
  induction h with
  | outside => exact (List.cons_ne_nil _ _).symm
  | item h =>
    rintro ⟨⟩
    exact Nat.lt_irrefl _ h
  | field h =>
    rintro ⟨⟩
    exact Nat.lt_irrefl _ h
  | step _ ih => exact fun hsame => ih (List.cons.inj hsame).2

theorem asymm (h : Before l m) : ¬ Before m l := by
  induction h with
  | outside => exact nofun
  | item hlt =>
    intro hback
    cases hback with
    | item hgt => exact Nat.lt_asymm hlt hgt
    | step => exact Nat.lt_irrefl _ hlt
  | field hlt =>
    intro hback
    cases hback with
    | field hgt => exact Nat.lt_asymm hlt hgt
    | step => exact Nat.lt_irrefl _ hlt
  | step _ ih =>
    intro hback
    cases hback with
    | item hlt | field hlt => exact Nat.lt_irrefl _ hlt
    | step hback => exact ih hback

end Location.Before

/-- What a value is within a document: the document or an entry of a list, or a list of entries. -/
inductive Place where
  | part (p : Part)
  | list (kind : EntryKind)

/-- The values of an object that reading makes texts of. -/
def Node.worded (n : Node) : List Json :=
  let get := n.members.get
  match n.part with
  | .entry .line => [get "speaker", get "emotion", get "text"]
  | .entry .choice => if (get "id").truthy then [get "id", get "text"] else []
  | .entry .check => match get "type" with
    | .str "hasItem" => [get "itemId"]
    | type => [type]
  | .entry .action => match get "type" with
    | .str "giveItem" => get "itemId" :: match get "amount" with
      | .num _ => []
      | amount => [amount]
    | type => [type]
  | _ => []

/-- What is wrong with a value where it stands, all below it left aside. -/
inductive Wrong : Place → Json → Defect → Prop where
  | notAList {kind : EntryKind} {v : Json} (given : v ≠ .null) (list : ∀ items, v ≠ .arr items) :
      Wrong (.list kind) v (.notAList v)
  | notAnObject {kind : EntryKind} {v : Json} (object : ∀ ms, v ≠ .obj ms) :
      Wrong (.part (.entry kind)) v (.notAnObject kind)
  | unknownSpeaker {ms : Members} {v : Json} (given : ms.get? "speaker" = some v)
      (unknown : ∀ s ∈ knownSpeakers, v ≠ .str s) :
      Wrong (.part (.entry .line)) (.obj ms) (.unknownSpeaker v)
  | unknownEmotion {ms : Members} (given : ms.get "emotion" ≠ .null)
      (unknown : ∀ s ∈ knownEmotions, ms.get "emotion" ≠ .str s) :
      Wrong (.part (.entry .line)) (.obj ms) (.unknownEmotion (ms.get "emotion"))
  | choiceWithoutId {ms : Members} (id : (ms.get "id").truthy = false) :
      Wrong (.part (.entry .choice)) (.obj ms) .choiceWithoutId
  | checkWithoutItem {ms : Members} (type : ms.get "type" = .str "hasItem")
      (item : (ms.get "itemId").truthy = false) :
      Wrong (.part (.entry .check)) (.obj ms) .checkWithoutItem
  | unknownCheck {ms : Members} (type : ms.get "type" ≠ .str "hasItem") :
      Wrong (.part (.entry .check)) (.obj ms) (.unknownCheck (ms.get "type"))
  | actionWithoutItem {ms : Members} (type : ms.get "type" = .str "giveItem")
      (item : (ms.get "itemId").truthy = false) :
      Wrong (.part (.entry .action)) (.obj ms) .actionWithoutItem
  | unknownAction {ms : Members} (type : ms.get "type" ≠ .str "giveItem") :
      Wrong (.part (.entry .action)) (.obj ms) (.unknownAction (ms.get "type"))
  | amountNotNumber {ms : Members} (type : ms.get "type" = .str "giveItem")
      (given : ms.get "amount" ≠ .null) (number : ∀ n, ms.get "amount" ≠ .num n) :
      Wrong (.part (.entry .action)) (.obj ms) (.amountNotNumber (ms.get "amount"))
  | amountNotFinite {ms : Members} {x : Double} (type : ms.get "type" = .str "giveItem")
      (amount : ms.get "amount" = .num (.double x)) (infinite : x.isFinite = false) :
      Wrong (.part (.entry .action)) (.obj ms) (.amountNotFinite (.double x))
  | amountTooLarge {ms : Members} {n : Int} (type : ms.get "type" = .str "giveItem")
      (amount : ms.get "amount" = .num (.int n)) (large : Double.ofInt? n = none) :
      Wrong (.part (.entry .action)) (.obj ms) .amountTooLarge
  | unwritable {kind : EntryKind} {ms : Members} {v : Json}
      (worded : v ∈ Node.worded ⟨.entry kind, ms⟩) (long : v.isWritable = false) :
      Wrong (.part (.entry kind)) (.obj ms) .unwritable

/-- A defect of a value or of what is read below it, with the way that leads to it. -/
inductive Defective : Place → Json → Location → Defect → Prop where
  | here {p : Place} {v : Json} {d : Defect} (h : Wrong p v d) : Defective p v [] d
  | field {p : Part} {ms : Members} {name : String} {kind : EntryKind} {v : Json} {l : Location}
      {d : Defect} (list : (name, kind) ∈ Node.lists ⟨p, ms⟩) (given : ms.get? name = some v)
      (below : Defective (.list kind) v l d) :
      Defective (.part p) (.obj ms) (.field name :: l) d
  | item {kind : EntryKind} {items : List Json} {i : Nat} {v : Json} {l : Location} {d : Defect}
      (given : items[i]? = some v) (below : Defective (.part (.entry kind)) v l d) :
      Defective (.list kind) (.arr items) (.item i :: l) d

namespace Defective

variable {p : Place} {v : Json} {l : Location} {d : Defect}

theorem exists_follow (h : Defective p v l d) : ∃ q u, v.follow l = some u ∧ Wrong q u d := by
  induction h with
  | @here p v d h =>
    refine ⟨p, v, ?_, h⟩
    cases v <;> rfl
  | field list given below ih =>
    obtain ⟨q, u, hu, hwrong⟩ := ih
    exact ⟨q, u, by rw [Json.follow, given]; exact hu, hwrong⟩
  | item given below ih =>
    obtain ⟨q, u, hu, hwrong⟩ := ih
    exact ⟨q, u, by rw [Json.follow, given]; exact hu, hwrong⟩

end Defective

theorem Step.plain_of_mem {name : String} (h : name ∈ readingOrder) : (Step.field name).Plain := by
  have hwords : ∀ name ∈ readingOrder, name ≠ "" ∧ name.toList.all Char.isAlpha = true := by
    decide +kernel
  obtain ⟨hempty, halpha⟩ := hwords name h
  exact ⟨hempty, List.all_eq_true.mp halpha⟩

theorem Node.ordered_lists (n : Node) :
    (n.lists.map (·.1)).Pairwise fun a b => readingOrder.idxOf a < readingOrder.idxOf b := by
  obtain ⟨part, ms⟩ := n
  cases part with
  | document =>
    change ["lines", "forks", "actions"].Pairwise _
    decide
  | entry kind =>
    cases kind with
    | choice =>
      unfold Node.lists
      dsimp only
      split
      · change ["lines", "actions", "branches"].Pairwise _
        decide
      · exact .nil
    | fork | branch =>
      change ["checks", "lines", "actions"].Pairwise _
      decide
    | line => exact List.pairwise_singleton _ _
    | check | action => exact .nil

/-- The lists of an object have names of their own, each a word. -/
theorem Node.nodup_lists (n : Node) :
    (n.lists.map (·.1)).Nodup ∧ ∀ list ∈ n.lists, (Step.field list.1).Plain := by
  have hnames : ∀ list ∈ n.lists, list.1 ∈ readingOrder := by
    obtain ⟨part, ms⟩ := n
    cases part with
    | document => simp [Node.lists, readingOrder]
    | entry kind =>
      cases kind with
      | choice => unfold Node.lists; dsimp only; split <;> simp [readingOrder]
      | _ => simp [Node.lists, readingOrder]
  refine ⟨n.ordered_lists.imp fun hlt hsame => ?_, fun list hlist =>
    Step.plain_of_mem (hnames list hlist)⟩
  rw [hsame] at hlt
  exact Nat.lt_irrefl _ hlt

namespace Defective

variable {p : Place} {v : Json} {l : Location} {d : Defect}

theorem plain (h : Defective p v l d) : ∀ s ∈ l, s.Plain := by
  induction h with
  | here h => exact nofun
  | field list given below ih =>
    exact List.forall_mem_cons.mpr ⟨(Node.nodup_lists _).2 _ list, ih⟩
  | item given below ih => exact List.forall_mem_cons.mpr ⟨trivial, ih⟩

/-- Nothing is wrong with a document itself, so the way to a defect begins with a list of it. -/
theorem eq_field (h : Defective (.part .document) v l d) :
    ∃ name l', name ≠ "" ∧ l = .field name :: l' := by
  cases h with
  | here h => cases h
  | @field _ _ name _ _ l' _ list given below =>
    exact ⟨name, l', ((Node.nodup_lists _).2 _ list).1, rfl⟩

end Defective
end Parley
