import Parley.Json.Value
import Parley.Text.Quoted

/-!
# Values as text

`display` writes a value for a message: a text stands for itself, everything else as in `quoted`,
where texts are quoted, lists stand in square brackets and objects in braces. A value with an integer
of too many digits has no text of its own; `isWritable` tells which values have one.
-/

namespace Parley.Json

mutual

/-- The written form of a value inside another. -/
def quoted : Json → String
  | .null => "None"
  | .bool b => if b then "True" else "False"
  | .num n => n.write
  | .str s => Text.quoted s
  | .arr items => "[" ++ quotedItems items ++ "]"
  | .obj members => "\x7b" ++ quotedMembers members ++ "\x7d"

def quotedItems : List Json → String
  | [] => ""
  | [x] => quoted x
  | x :: y :: rest => quoted x ++ ", " ++ quotedItems (y :: rest)

def quotedMembers : List (String × Json) → String
  | [] => ""
  | [(k, v)] => Text.quoted k ++ ": " ++ quoted v
  | (k, v) :: p :: rest => Text.quoted k ++ ": " ++ quoted v ++ ", " ++ quotedMembers (p :: rest)

end

def display : Json → String
  | .str s => s
  | v => v.quoted

@[simp] theorem display_str (s : String) : display (.str s) = s := rfl

mutual

/-- Whether no integer in the value is too long to be written. -/
def isWritable : Json → Bool
  | .num n => n.isWritable
  | .arr items => areWritable items
  | .obj members => haveWritable members
  | _ => true

def areWritable : List Json → Bool
  | [] => true
  | v :: rest => isWritable v && areWritable rest

def haveWritable : List (String × Json) → Bool
  | [] => true
  | (_, v) :: rest => isWritable v && haveWritable rest

end

@[simp] theorem isWritable_null : isWritable .null = true := rfl

@[simp] theorem isWritable_bool (b : Bool) : isWritable (.bool b) = true := rfl

@[simp] theorem isWritable_str (s : String) : isWritable (.str s) = true := rfl

@[simp] theorem isWritable_num (n : Number) : isWritable (.num n) = n.isWritable := rfl

theorem areWritable_eq_all (items : List Json) : areWritable items = items.all isWritable := by
  induction items with
  | nil => rfl
  | cons v rest ih => rw [areWritable, ih, List.all_cons]

theorem haveWritable_eq_all (members : List (String × Json)) :
    haveWritable members = members.all (isWritable ·.2) := by
  induction members with
  | nil => rfl
  | cons p rest ih =>
    obtain ⟨name, v⟩ := p
    rw [haveWritable, ih, List.all_cons]

@[simp] theorem isWritable_arr (items : List Json) :
    isWritable (.arr items) = items.all isWritable := areWritable_eq_all items

@[simp] theorem isWritable_obj (members : List (String × Json)) :
    isWritable (.obj members) = members.all (isWritable ·.2) := haveWritable_eq_all members

theorem display_ne_empty {v : Json} (h : v.truthy = true) : v.display ≠ "" := by
  cases v with
  | null => simp [truthy] at h
  | bool b => cases b <;> decide
  | num n => exact n.write_ne_empty
  | str s => simpa [truthy] using h
  | arr items => simp [display, quoted, String.append_eq_empty_iff]
  | obj members => simp [display, quoted, String.append_eq_empty_iff]

end Parley.Json
