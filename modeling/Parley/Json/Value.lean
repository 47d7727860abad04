import Parley.Number

/-!
# JSON values

Objects keep their members in order. A member list built by `Members.put` has distinct names; a
name given twice keeps its first place and takes its last value.
-/

namespace Parley

inductive Json where
  | null
  | bool (b : Bool)
  | num (n : Number)
  | str (s : String)
  | arr (items : List Json)
  | obj (members : List (String × Json))
deriving Repr, Inhabited

abbrev Members := List (String × Json)

namespace Members

def get? (ms : Members) (name : String) : Option Json := ms.lookup name

/-- The value of a name, or null if there is none. -/
def get (ms : Members) (name : String) : Json := (ms.get? name).getD .null

def has (ms : Members) (name : String) : Bool := ms.any (·.1 == name)

/-- Sets the value of a name, in its place if it has one, else at the end. -/
def put : Members → String → Json → Members
  | [], name, v => [(name, v)]
  | (k, w) :: rest, name, v => if k == name then (k, v) :: rest else (k, w) :: put rest name v

/-- Builds members from pairs, later ones winning. -/
def ofPairs (pairs : List (String × Json)) : Members :=
  pairs.foldl (fun ms p => ms.put p.1 p.2) []

def without (ms : Members) (name : String) : Members := ms.filter (·.1 != name)

@[simp] theorem get?_nil (name : String) : get? [] name = none := rfl

theorem get?_cons (k : String) (v : Json) (ms : Members) (name : String) :
    get? ((k, v) :: ms) name = if name = k then some v else get? ms name := by
  by_cases h : name = k
  · simp [get?, h]
  · have hb : (name == k) = false := by simp [h]
    simp [get?, List.lookup_cons, h, hb]

theorem get?_append (ms ns : Members) (name : String) :
    get? (ms ++ ns) name = (get? ms name).or (get? ns name) :=
  List.lookup_append

theorem get?_put (ms : Members) (k : String) (v : Json) (name : String) :
    get? (ms.put k v) name = if name = k then some v else get? ms name := by
  induction ms with
  | nil => simp [put, get?_cons]
  | cons p rest ih =>
    obtain ⟨j, w⟩ := p
    by_cases hj : j = k
    · subst hj
      by_cases hn : name = j <;> simp [put, get?_cons, hn]
    · by_cases hn : name = j
      · simp [put, get?_cons, hj, hn]
      · simp [put, get?_cons, hj, hn, ih]

end Members

namespace Json

/-- The empty values count as false: null, false, zeros, and empty texts, lists and objects. -/
def truthy : Json → Bool
  | .null => false
  | .bool b => b
  | .num n => !n.isZero
  | .str s => s != ""
  | .arr items => !items.isEmpty
  | .obj members => !members.isEmpty

/-- The first value if it counts as true, else the second. -/
def orElse (a b : Json) : Json := if a.truthy then a else b

def isNull : Json → Bool
  | .null => true
  | _ => false

def members? : Json → Option Members
  | .obj ms => some ms
  | _ => none

/-- The name of a value's kind, as reports show it. -/
def kind : Json → String
  | .null => "NoneType"
  | .bool _ => "bool"
  | .num (.int _) => "int"
  | .num (.double _) => "float"
  | .str _ => "str"
  | .arr _ => "list"
  | .obj _ => "dict"

/-- The number that a value stands for in comparisons: a truth value counts as one or zero. -/
def number? : Json → Option Number
  | .bool b => some (.int (if b then 1 else 0))
  | .num n => some n
  | _ => none

mutual

/-- Equality of values: numbers by value, truth values as numbers, objects without regard to
order. -/
def same : Json → Json → Bool
  | .arr xs, .arr ys => sameItems xs ys
  | .obj ms, .obj ns => ms.length == ns.length && sameMembers ms ns
  | .null, .null => true
  | .str s, .str t => s == t
  | x, y => match x.number?, y.number? with
    | some m, some n => m.same n
    | _, _ => false

/-- Equality of lists, place by place. -/
def sameItems : List Json → List Json → Bool
  | [], [] => true
  | x :: xs, y :: ys => same x y && sameItems xs ys
  | _, _ => false

def sameMembers : List (String × Json) → List (String × Json) → Bool
  | [], _ => true
  | (k, v) :: rest, ns => (match Members.get? ns k with
    | some w => same v w
    | none => false) && sameMembers rest ns

end

end Json
end Parley
