import Parley.Conversation.Session
import Parley.Proofs.Dialogue.Weight

/-!
# Recitals: conversations depth first

What a player goes through, told on the tree of a document and not on a list of lines that grows: a
line is shown; if one of its choices is taken it is shown as answered, and all that the choice leads
to is gone through; then the lines after it follow. The recital of lines that are joined is the
recital of the first, followed by that of the second (`recite_append`), which is why a flat list
that is spliced in place shows the same.
-/

namespace Parley

/-- What a player does: goes on, or names a choice while an inventory is known. -/
inductive Move where
  | advance
  | select (id : String) (inventory : Snapshot)

/-- What is shown and gained on the way through some lines, and the moves that are left after them;
no moves if they ended before the lines did. -/
structure Recital where
  shown : List Line
  actions : List Action
  left : Option (List Move)

namespace Recital

def done (moves : List Move) : Recital := ⟨[], [], some moves⟩

def abandoned : Recital := ⟨[], [], none⟩

/-- Whether the moves led past the last line. -/
def finished (r : Recital) : Bool := r.left.isSome

def andThen (r : Recital) (next : List Move → Recital) : Recital :=
  match r.left with
  | none => r
  | some moves => ⟨r.shown ++ (next moves).shown, r.actions ++ (next moves).actions,
      (next moves).left⟩

def after (l : Line) (r : Recital) : Recital := { r with shown := l :: r.shown }

def gaining (actions : List Action) (r : Recital) : Recital :=
  { r with actions := actions ++ r.actions }

end Recital

/-- The first move that has an effect on a line, with what it selects, and the moves after it. -/
def Line.heed (l : Line) : List Move → Option (Option (Choice × Snapshot) × List Move)
  | [] => none
  | .advance :: moves => some (none, moves)
  | .select id inventory :: moves => match (l.options.getD []).find? (·.id == id) with
    | some choice => some (some (choice, inventory), moves)
    | none => l.heed moves

theorem Line.mem_of_heed {l : Line} {moves rest : List Move} {choice : Choice}
    {inventory : Snapshot} (h : l.heed moves = some (some (choice, inventory), rest)) :
    choice ∈ l.options.getD [] := by
  induction moves with
  | nil => cases h
  | cons move moves ih =>
    cases move with
    | advance => cases h
    | select id known =>
      unfold Line.heed at h
      split at h
      · rename_i hfind
        cases h
        exact List.mem_of_find?_eq_some hfind
      · exact ih h

theorem Line.weight_resolveOn_lt {l : Line} {moves rest : List Move} {choice : Choice}
    {inventory : Snapshot} (h : l.heed moves = some (some (choice, inventory), rest)) :
    Line.weightList (choice.resolveOn (some inventory)).lines < l.weight :=
  Nat.lt_trans (choice.weight_resolveOn_lt _) (Line.weight_choice_lt (Line.mem_of_heed h))

/-- Goes through lines, where `text` is what a choice is answered with: each line is shown; a choice
that is selected shows it again as answered, and after the next advance leads through what the
choice resolves to; then come the lines after it. -/
def recite (text : Choice → String) : List Line → List Move → Recital
  | [], moves => .done moves
  | l :: rest, moves =>
    let scene : Recital := match _h : l.heed moves with
      | none => .abandoned
      | some (none, moves) => .done moves
      | some (some (choice, inventory), moves) =>
        let answer := l.answered (text choice)
        let follow : Recital := match answer.heed moves with
          | none => .abandoned
          | some (_, moves) => recite text (choice.resolveOn (some inventory)).lines moves
        (follow.gaining (choice.resolveOn (some inventory)).actions).after answer
    (scene.after l).andThen fun moves => recite text rest moves
termination_by lines => Line.weightList lines
decreasing_by
  · have hlighter := Line.weight_resolveOn_lt _h
    rw [Line.weightList_cons]
    omega
  · have hpos := l.weight_pos
    rw [Line.weightList_cons]
    omega

namespace Recital

@[simp] theorem done_andThen (moves : List Move) (next : List Move → Recital) :
    (done moves).andThen next = next moves := by
  simp [done, andThen]

@[simp] theorem abandoned_andThen (next : List Move → Recital) :
    abandoned.andThen next = abandoned := rfl

theorem andThen_assoc (r : Recital) (next last : List Move → Recital) :
    (r.andThen next).andThen last = r.andThen fun moves => (next moves).andThen last := by
  obtain ⟨shown, actions, left⟩ := r
  cases left with
  | none => rfl
  | some moves =>
    cases h : (next moves).left with
    | none => simp only [andThen, h]
    | some moves => simp only [andThen, h, List.append_assoc]

@[simp] theorem after_andThen (l : Line) (r : Recital) (next : List Move → Recital) :
    (r.after l).andThen next = (r.andThen next).after l := by
  obtain ⟨shown, actions, left⟩ := r
  cases left <;> rfl

@[simp] theorem gaining_andThen (gained : List Action) (r : Recital) (next : List Move → Recital) :
    (r.gaining gained).andThen next = (r.andThen next).gaining gained := by
  obtain ⟨shown, actions, left⟩ := r
  cases left with
  | none => rfl
  | some moves => simp [andThen, gaining, List.append_assoc]

end Recital

variable (text : Choice → String)

@[simp] theorem recite_nil (moves : List Move) : recite text [] moves = .done moves := by
  rw [recite]

theorem recite_append (ls rest : List Line) (moves : List Move) :
    recite text (ls ++ rest) moves = (recite text ls moves).andThen (recite text rest) := by
  induction ls generalizing moves with
  | nil => simp
  | cons l ls ih =>
    rw [List.cons_append, recite, recite, Recital.andThen_assoc]
    congr 1
    funext moves
    exact ih moves

/-- What one line leads through once it is shown, with the choice that is taken on it. -/
def scene (l : Line) (moves : List Move) : Recital :=
  match l.heed moves with
  | none => .abandoned
  | some (none, moves) => .done moves
  | some (some (choice, inventory), moves) =>
    let answer := l.answered (text choice)
    let follow : Recital := match answer.heed moves with
      | none => .abandoned
      | some (_, moves) => recite text (choice.resolveOn (some inventory)).lines moves
    (follow.gaining (choice.resolveOn (some inventory)).actions).after answer

/-- What comes once a line is shown: what it leads through, and then the lines after it. -/
def onward (l : Line) (rest : List Line) (moves : List Move) : Recital :=
  (scene text l moves).andThen (recite text rest)

theorem recite_cons (l : Line) (rest : List Line) (moves : List Move) :
    recite text (l :: rest) moves = (onward text l rest moves).after l := by
  rw [recite, Recital.after_andThen]
  unfold onward scene
  dsimp only
  congr 2
  split <;> rename_i h <;> rw [h]

theorem onward_advance (l : Line) (rest : List Line) (moves : List Move) :
    onward text l rest (.advance :: moves) = recite text rest moves := by
  simp [onward, scene, Line.heed]

theorem onward_of_not_offered {l : Line} {id : String}
    (h : (l.options.getD []).find? (·.id == id) = none) (rest : List Line) (inventory : Snapshot)
    (moves : List Move) :
    onward text l rest (.select id inventory :: moves) = onward text l rest moves := by
  have hheed : l.heed (.select id inventory :: moves) = l.heed moves := by
    rw [Line.heed, h]
  unfold onward scene
  rw [hheed]

theorem Line.heed_answered (l : Line) (answer : String) (moves : List Move) :
    (l.answered answer).heed moves = none ∨
      ∃ rest, (l.answered answer).heed moves = some (none, rest) := by
  induction moves with
  | nil => exact .inl rfl
  | cons move moves ih =>
    cases move with
    | advance => exact .inr ⟨moves, rfl⟩
    | select id inventory => exact ih

/-- A choice that is taken is answered, and what it resolves to is spliced in before the lines
after it. -/
theorem onward_of_offered {l : Line} {id : String} {choice : Choice}
    (h : (l.options.getD []).find? (·.id == id) = some choice) (rest : List Line)
    (inventory : Snapshot) (moves : List Move) :
    onward text l rest (.select id inventory :: moves) =
      (recite text (l.answered (text choice) ::
        ((choice.resolveOn (some inventory)).lines ++ rest)) moves).gaining
          (choice.resolveOn (some inventory)).actions := by
  have hheed : l.heed (.select id inventory :: moves) = some (some (choice, inventory), moves) := by
    rw [Line.heed, h]
  rw [recite_cons]
  unfold onward scene
  rw [hheed]
  dsimp only
  obtain hmoves | ⟨left, hmoves⟩ := l.heed_answered (text choice) moves
  · simp only [hmoves, Recital.after_andThen, Recital.gaining_andThen, Recital.abandoned_andThen]
    rfl
  · simp only [hmoves, Recital.after_andThen, Recital.gaining_andThen, Recital.done_andThen,
      recite_append]
    rfl

end Parley
