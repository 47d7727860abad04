import Parley.Proofs.Bus.Nesting

/-!
# What a publication does

A publication calls exactly the handlers that its topic has when it begins, in their order and each
to its end before the next, whatever they do: return or raise, change the registrations or publish
themselves. All that it does to the registrations is what the handlers do to them. That
publications may only nest so deep has no influence where they nest less deep.
-/

namespace Parley.Bus

variable {τ η κ ω : Type}

/-- The handlers that are called when so many publications have to finish first. -/
def callsAt : Nat → List (Incident τ η κ) → List η
  | _, [] => []
  | 0, .calls h :: rest => h :: callsAt 0 rest
  | level, .begins _ :: rest => callsAt (level + 1) rest
  | level, .finishes _ :: rest => callsAt (level - 1) rest
  | level, _ :: rest => callsAt level rest

/-- The handlers that a publication calls itself, not those that publications within it call. -/
def directCalls (log : List (Incident τ η κ)) : List η := callsAt 0 log

def Phase.due : Phase η → List η
  | .acting => []
  | .calling hs => hs

section

variable [BEq τ] [BEq η]

/-- What an incident does to the registrations: who subscribes comes to their end, and who is taken
away is missing from where it was first. -/
def Incident.apply (rs : List (τ × η)) : Incident τ η κ → List (τ × η)
  | .subscribes topic h => rs ++ [(topic, h)]
  | .unsubscribes topic h => rs.erase (topic, h)
  | _ => rs

def replay (rs : List (τ × η)) (log : List (Incident τ η κ)) : List (τ × η) :=
  log.foldl Incident.apply rs

@[simp] theorem replay_nil (rs : List (τ × η)) : replay rs ([] : List (Incident τ η κ)) = rs := rfl

@[simp] theorem replay_cons (rs : List (τ × η)) (i : Incident τ η κ)
    (log : List (Incident τ η κ)) : replay rs (i :: log) = replay (i.apply rs) log := rfl

theorem replay_append (rs : List (τ × η)) (log log' : List (Incident τ η κ)) :
    replay rs (log ++ log') = replay (replay rs log) log' := List.foldl_append

end

section

variable [BEq τ] [BEq η] {topicOf : κ → τ} {phase : Phase η} {rs rs' : List (τ × η)}
  {log : List (Incident τ η κ)}

namespace Unfolds

theorem replay_eq (h : Unfolds topicOf phase rs log rs') : replay rs log = rs' := by
  induction h with
  | idle => rfl
  | subscribes _ ih => exact ih
  | unsubscribes _ ih => exact ih
  | refuses _ ih => exact ih
  | publishes _ _ ihw ihr => simp only [replay_cons, replay_append, Incident.apply, ihw, ihr]
  | done => rfl
  | calls _ _ ihw ihr => simp only [replay_cons, replay_append, Incident.apply, ihw, ihr]

/-- Whatever publications it is within, a phase does not count among their calls, and it has the
calls of its own that are due. -/
theorem callsAt_append (h : Unfolds topicOf phase rs log rs') :
    (∀ level rest, callsAt (level + 1) (log ++ rest) = callsAt (level + 1) rest) ∧
      ∀ rest, callsAt 0 (log ++ rest) = phase.due ++ callsAt 0 rest := by
  induction h with
  | idle => exact ⟨fun _ _ => rfl, fun _ => rfl⟩
  | subscribes _ ih => exact ih
  | unsubscribes _ ih => exact ih
  | refuses _ ih => exact ih
  | publishes _ _ ihw ihr =>
    constructor
    · intro level rest
      simp only [List.cons_append, List.append_assoc, callsAt, ihw.1, Nat.add_sub_cancel, ihr.1]
    · intro rest
      simp only [List.cons_append, List.append_assoc, callsAt, ihw.1, Nat.add_sub_cancel, ihr.2]
  | done => exact ⟨fun _ _ => rfl, fun _ => rfl⟩
  | calls _ _ ihw ihr =>
    constructor
    · intro level rest
      simp only [List.cons_append, List.append_assoc, callsAt, ihw.1, ihr.1]
    · intro rest
      simp only [List.cons_append, List.append_assoc, callsAt, ihw.2, ihr.2]
      rfl

theorem directCalls_eq (h : Unfolds topicOf phase rs log rs') : directCalls log = phase.due := by
  have hcalls := h.callsAt_append.2 []
  rwa [List.append_nil, callsAt, List.append_nil] at hcalls

end Unfolds

/-- Every publication that is told of calls the handlers registered for its topic when it begins. -/
def Faithful (topicOf : κ → τ) (rs : List (τ × η)) (log : List (Incident τ η κ)) : Prop :=
  ∀ before cue rest, log = before ++ .begins cue :: rest →
    ∃ inner after, rest = inner ++ .finishes cue :: after ∧
      directCalls inner = registeredFor (topicOf cue) (replay rs before) ∧
      Unfolds topicOf (.calling (registeredFor (topicOf cue) (replay rs before)))
        (replay rs before) inner (replay rs (before ++ .begins cue :: inner))

theorem append_cons_eq_append_cons {α : Type} {xs ys before rest : List α} {m a : α}
    (h : xs ++ m :: ys = before ++ a :: rest) (hne : m ≠ a) :
    (∃ t, xs = before ++ a :: t ∧ rest = t ++ m :: ys) ∨
      ∃ t, before = xs ++ m :: t ∧ ys = t ++ a :: rest := by
  rcases List.append_eq_append_iff.mp h with ⟨t, rfl, ht⟩ | ⟨t, rfl, ht⟩
  · cases t with
    | nil => exact absurd (List.cons.inj ht).1 hne
    | cons x t =>
      obtain ⟨rfl, rfl⟩ := List.cons.inj ht
      exact .inr ⟨t, rfl, rfl⟩
  · cases t with
    | nil => exact absurd (List.cons.inj ht).1.symm hne
    | cons x t =>
      obtain ⟨rfl, rfl⟩ := List.cons.inj ht
      exact .inl ⟨t, rfl, rfl⟩

namespace Faithful

theorem nil : Faithful topicOf rs ([] : List (Incident τ η κ)) := by
  intro before cue rest hlog
  cases before <;> cases hlog

theorem cons {i : Incident τ η κ} (hi : ∀ cue, i ≠ .begins cue)
    (h : Faithful topicOf (i.apply rs) log) : Faithful topicOf rs (i :: log) := by
  intro before cue rest hlog
  cases before with
  | nil => exact absurd (List.cons.inj hlog).1 (hi cue)
  | cons j before =>
    obtain ⟨rfl, htail⟩ := List.cons.inj hlog
    exact h before cue rest htail

theorem append {inner : List (Incident τ η κ)} {i : Incident τ η κ} (hi : ∀ cue, i ≠ .begins cue)
    (hinner : Faithful topicOf rs inner)
    (h : Faithful topicOf (i.apply (replay rs inner)) log) :
    Faithful topicOf rs (inner ++ i :: log) := by
  intro before cue rest hlog
  rcases append_cons_eq_append_cons hlog (hi cue) with ⟨t, hbefore, rfl⟩ | ⟨t, rfl, hrest⟩
  · obtain ⟨within, after, rfl, hwithin⟩ := hinner before cue t hbefore
    exact ⟨within, after ++ i :: log, by rw [List.append_assoc, List.cons_append], hwithin⟩
  · obtain ⟨within, after, rfl, hwithin⟩ := h t cue rest hrest
    refine ⟨within, after, rfl, ?_⟩
    simp only [List.append_assoc, replay_append, List.cons_append, replay_cons] at hwithin ⊢
    exact hwithin

theorem begins {inner : List (Incident τ η κ)} {cue : κ}
    (hwithin : Unfolds topicOf (.calling (registeredFor (topicOf cue) rs)) rs inner rs')
    (h : Faithful topicOf rs (inner ++ .finishes cue :: log)) :
    Faithful topicOf rs (.begins cue :: (inner ++ .finishes cue :: log)) := by
  intro before cue' rest hlog
  cases before with
  | nil =>
    cases hlog
    refine ⟨inner, log, rfl, hwithin.directCalls_eq, ?_⟩
    rw [List.nil_append, replay_cons, Incident.apply, hwithin.replay_eq]
    · exact hwithin
    all_goals rintro _ _ ⟨⟩
  | cons i before =>
    obtain ⟨rfl, htail⟩ := List.cons.inj hlog
    exact h before cue' rest htail

end Faithful

theorem Unfolds.faithful (h : Unfolds topicOf phase rs log rs') : Faithful topicOf rs log := by
  induction h with
  | idle => exact .nil
  | subscribes _ ih => exact .cons (by rintro cue ⟨⟩) ih
  | unsubscribes _ ih => exact .cons (by rintro cue ⟨⟩) ih
  | refuses _ ih => exact .cons (by rintro cue ⟨⟩) ih
  | publishes within _ ihw ihr =>
    refine .begins within (.append (by rintro cue ⟨⟩) ihw ?_)
    rw [within.replay_eq]
    exact ihr
  | done => exact .nil
  | calls within _ ihw ihr =>
    refine .cons (by rintro cue ⟨⟩) (.append (by rintro cue ⟨⟩) ihw ?_)
    rw [show replay (Incident.apply _ (.calls _)) _ = _ from within.replay_eq]
    exact ihr

variable (topicOf)

/-- Whatever handlers do, a publication comes to its end, having called the handlers that were
registered for its topic when it began, as often as they were and in their order, each to its end
before the next; and so has every publication within it. The registrations afterwards are those
before, changed as the handlers changed them one after another. If no publication was refused,
nothing would differ if publications could nest deeper. -/
theorem stagePublish_faithful (script : η → κ → Script τ η κ ω) (depth : Nat) (cue : κ)
    (s : Stage τ η κ ω) :
    ∃ log, (stagePublish topicOf script depth cue s).log = s.log ++ log ∧
      directCalls log = (s.bus.registrations.filter (·.1 == topicOf cue)).map (·.2) ∧
      Unfolds topicOf (.calling (registeredFor (topicOf cue) s.bus.registrations))
        s.bus.registrations log (stagePublish topicOf script depth cue s).bus.registrations ∧
      (stagePublish topicOf script depth cue s).bus.registrations =
        replay s.bus.registrations log ∧
      Faithful topicOf s.bus.registrations log ∧
      ((∀ cue', .refuses cue' ∉ log) → ∀ more,
        stagePublish topicOf script (depth + more) cue s =
          stagePublish topicOf script depth cue s) := by
  obtain ⟨log, hlog, hunfolds⟩ := goes_stagePublish topicOf script depth cue s
  refine ⟨log, hlog, hunfolds.directCalls_eq, hunfolds, hunfolds.replay_eq.symm,
    hunfolds.faithful, ?_⟩
  intro hnone
  exact stagePublish_add script depth cue s ⟨log, hlog, hnone⟩

end

/-- The first handler takes the second one away, registers a third, publishes and raises. -/
def meddling : Char → Nat → Script Nat Char Nat Unit
  | 'a', _ => .unsubscribes 0 'b' (.subscribes 0 'c' (.publishes 1 fun _ =>
      .ends (.error (.unknownName "a"))))
  | _, _ => .ends (.ok ())

def crowded : Stage Nat Char Nat Unit := ⟨⟨[(0, 'a'), (0, 'b'), (1, 'd')]⟩, (), []⟩

/-- The second handler is called although it was taken away, and the third is not; and since no
publication is refused, it would be the same if publications could nest deeper. -/
theorem stagePublish_meddling :
    ∃ log, (stagePublish id meddling 1 0 crowded).log = log ∧ directCalls log = ['a', 'b'] ∧
      replay crowded.bus.registrations log = [(0, 'a'), (1, 'd'), (0, 'c')] ∧
      ∀ more, stagePublish id meddling (1 + more) 0 crowded =
        stagePublish id meddling 1 0 crowded := by
  obtain ⟨log, hlog, hcalls, -, hreplay, -, hdeeper⟩ :=
    stagePublish_faithful id meddling 1 0 crowded
  have hregistrations : (stagePublish id meddling 1 0 crowded).bus.registrations =
    [(0, 'a'), (1, 'd'), (0, 'c')] := rfl
  have htold : (stagePublish id meddling 1 0 crowded).log =
    [.calls 'a', .unsubscribes 0 'b', .subscribes 0 'c', .begins 1, .calls 'd',
      .leaves 'd' (.ok ()), .finishes 1, .leaves 'a' (.error (.unknownName "a")), .calls 'b',
      .leaves 'b' (.ok ())] := rfl
  have hlog' : (stagePublish id meddling 1 0 crowded).log = log := hlog
  refine ⟨log, hlog', hcalls, ?_, hdeeper ?_⟩
  · rw [← hreplay, hregistrations]
  · intro cue hrefused
    rw [← hlog', htold] at hrefused
    simp at hrefused

end Parley.Bus
