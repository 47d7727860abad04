import Parley.Bus
import Parley.Fault

/-!
# Handlers as scripts

A handler may do on the bus whatever it likes: subscribe and take away, publish and wait for the end,
return or raise, all of it depending on what it has seen. A script says what a handler does, and a
stage is the bus with all that handlers can see besides and a log of what happens. A handler is run
by `Bus.publish` as every other one is.
-/

namespace Parley.Bus

/-- What a handler does with an event until it returns or raises. What it hands back to be waited for
is part of it. -/
inductive Script (τ η κ ω : Type) where
  | ends (outcome : Except Fault Unit)
  /-- Looks at the bus and the world, and changes the world. -/
  | consults (change : Bus τ η → ω → ω) (next : Bus τ η → ω → Script τ η κ ω)
  | subscribes (topic : τ) (h : η) (next : Script τ η κ ω)
  | unsubscribes (topic : τ) (h : η) (next : Script τ η κ ω)
  /-- Publishes and waits for the end. Publications that nest too deep are refused, and the handler
  learns of it. -/
  | publishes (cue : κ) (next : Bool → Script τ η κ ω)

/-- What happens on a bus. -/
inductive Incident (τ η κ : Type) where
  | begins (cue : κ)
  | calls (h : η)
  | subscribes (topic : τ) (h : η)
  | unsubscribes (topic : τ) (h : η)
  | refuses (cue : κ)
  | leaves (h : η) (outcome : Except Fault Unit)
  | finishes (cue : κ)

/-- A bus, what handlers see besides, and what has happened. -/
structure Stage (τ η κ ω : Type) where
  bus : Bus τ η
  world : ω
  log : List (Incident τ η κ)

def Stage.note {τ η κ ω : Type} (s : Stage τ η κ ω) (i : Incident τ η κ) : Stage τ η κ ω :=
  { s with log := s.log ++ [i] }

@[simp] theorem Stage.bus_note {τ η κ ω : Type} (s : Stage τ η κ ω) (i : Incident τ η κ) :
    (s.note i).bus = s.bus := rfl

@[simp] theorem Stage.log_note {τ η κ ω : Type} (s : Stage τ η κ ω) (i : Incident τ η κ) :
    (s.note i).log = s.log ++ [i] := rfl

variable {τ η κ ω : Type} [BEq τ] [BEq η]

/-- Runs a script, given how it publishes if it may. -/
def perform (nested : Option (κ → Stage τ η κ ω → Stage τ η κ ω)) :
    Script τ η κ ω → Stage τ η κ ω → Except Fault Unit × Stage τ η κ ω
  | .ends outcome, s => (outcome, s)
  | .consults change next, s =>
    perform nested (next s.bus s.world) { s with world := change s.bus s.world }
  | .subscribes topic h next, s =>
    perform nested next
      ({ s with bus := s.bus.subscribe topic h }.note (.subscribes topic h))
  | .unsubscribes topic h next, s =>
    perform nested next
      ({ s with bus := s.bus.unsubscribe topic h }.note (.unsubscribes topic h))
  | .publishes cue next, s => match nested with
    | none => perform nested (next false) (s.note (.refuses cue))
    | some publish => perform nested (next true) (publish cue s)

section

variable (topicOf : κ → τ) (script : η → κ → Script τ η κ ω)

def call (nested : Option (κ → Stage τ η κ ω → Stage τ η κ ω)) (cue : κ) (h : η)
    (s : Stage τ η κ ω) : Except Fault Unit × Stage τ η κ ω :=
  let r := perform nested (script h cue) (s.note (.calls h))
  (r.1, r.2.note (.leaves h r.1))

def publishWithin (run : κ → η → Stage τ η κ ω → Except Fault Unit × Stage τ η κ ω) (cue : κ)
    (s : Stage τ η κ ω) : Stage τ η κ ω :=
  (publish Stage.bus (run cue) (topicOf cue) (s.note (.begins cue))).note (.finishes cue)

/-- Calls a handler, with publications nested at most so deep. -/
def handle : Nat → κ → η → Stage τ η κ ω → Except Fault Unit × Stage τ η κ ω
  | 0 => call script none
  | depth + 1 => call script (some (publishWithin topicOf (handle depth)))

def stagePublish (depth : Nat) (cue : κ) (s : Stage τ η κ ω) : Stage τ η κ ω :=
  publish Stage.bus (handle topicOf script depth cue) (topicOf cue) s

end

/-- What is going on: a handler acts, or handlers have still to be called. -/
inductive Phase (η : Type) where
  | acting
  | calling (hs : List η)

def registeredFor (topic : τ) (rs : List (τ × η)) : List η := (rs.filter (·.1 == topic)).map (·.2)

omit [BEq η] in
theorem handlers_eq_registeredFor (b : Bus τ η) (topic : τ) :
    b.handlers topic = registeredFor topic b.registrations := rfl

/-- What happens in a phase, and what becomes of the registrations: a handler that subscribes is put
at their end, and one that is taken away is missing from where it was first. A handler is left before
the next one is called, and a publication calls those registered for its topic when it begins. -/
inductive Unfolds (topicOf : κ → τ) :
    Phase η → List (τ × η) → List (Incident τ η κ) → List (τ × η) → Prop where
  | idle {rs : List (τ × η)} : Unfolds topicOf .acting rs [] rs
  | subscribes {rs rs' : List (τ × η)} {topic : τ} {h : η} {log : List (Incident τ η κ)}
      (rest : Unfolds topicOf .acting (rs ++ [(topic, h)]) log rs') :
      Unfolds topicOf .acting rs (.subscribes topic h :: log) rs'
  | unsubscribes {rs rs' : List (τ × η)} {topic : τ} {h : η} {log : List (Incident τ η κ)}
      (rest : Unfolds topicOf .acting (rs.erase (topic, h)) log rs') :
      Unfolds topicOf .acting rs (.unsubscribes topic h :: log) rs'
  | refuses {rs rs' : List (τ × η)} {cue : κ} {log : List (Incident τ η κ)}
      (rest : Unfolds topicOf .acting rs log rs') :
      Unfolds topicOf .acting rs (.refuses cue :: log) rs'
  | publishes {rs rs₁ rs' : List (τ × η)} {cue : κ} {inner log : List (Incident τ η κ)}
      (within : Unfolds topicOf (.calling (registeredFor (topicOf cue) rs)) rs inner rs₁)
      (rest : Unfolds topicOf .acting rs₁ log rs') :
      Unfolds topicOf .acting rs (.begins cue :: (inner ++ .finishes cue :: log)) rs'
  | done {rs : List (τ × η)} : Unfolds topicOf (.calling []) rs [] rs
  | calls {rs rs₁ rs' : List (τ × η)} {h : η} {hs : List η} {outcome : Except Fault Unit}
      {inner log : List (Incident τ η κ)} (within : Unfolds topicOf .acting rs inner rs₁)
      (rest : Unfolds topicOf (.calling hs) rs₁ log rs') :
      Unfolds topicOf (.calling (h :: hs)) rs (.calls h :: (inner ++ .leaves h outcome :: log)) rs'

def Stage.Goes (topicOf : κ → τ) (phase : Phase η) (s s' : Stage τ η κ ω) : Prop :=
  ∃ log, s'.log = s.log ++ log ∧
    Unfolds topicOf phase s.bus.registrations log s'.bus.registrations

/-- A call begins and ends with the handler, and the handler acts in between. -/
def OrderlyCall (topicOf : κ → τ) (run : η → Stage τ η κ ω → Except Fault Unit × Stage τ η κ ω) :
    Prop :=
  ∀ h s, ∃ log outcome, (run h s).2.log = s.log ++ .calls h :: (log ++ [.leaves h outcome]) ∧
    Unfolds topicOf .acting s.bus.registrations log (run h s).2.bus.registrations

/-- A publication begins and finishes, and in between it calls the handlers of its topic. -/
def OrderlyPublication (topicOf : κ → τ) (publish : κ → Stage τ η κ ω → Stage τ η κ ω) : Prop :=
  ∀ cue s, ∃ log, (publish cue s).log = s.log ++ .begins cue :: (log ++ [.finishes cue]) ∧
    Unfolds topicOf (.calling (registeredFor (topicOf cue) s.bus.registrations))
      s.bus.registrations log (publish cue s).bus.registrations

section

variable {topicOf : κ → τ}

theorem goes_perform {nested : Option (κ → Stage τ η κ ω → Stage τ η κ ω)}
    (h : ∀ publish ∈ nested, OrderlyPublication topicOf publish) (script : Script τ η κ ω)
    (s : Stage τ η κ ω) : s.Goes topicOf .acting (perform nested script s).2 := by
  induction script generalizing s with
  | ends outcome => exact ⟨[], (List.append_nil _).symm, .idle⟩
  | consults change next ih =>
    exact ih s.bus s.world { s with world := change s.bus s.world }
  | subscribes topic g next ih =>
    obtain ⟨log, hlog, hrest⟩ := ih
      ({ s with bus := s.bus.subscribe topic g }.note (.subscribes topic g))
    refine ⟨.subscribes topic g :: log, ?_, .subscribes hrest⟩
    rw [perform, hlog, Stage.log_note, List.append_assoc, List.singleton_append]
  | unsubscribes topic g next ih =>
    obtain ⟨log, hlog, hrest⟩ := ih
      ({ s with bus := s.bus.unsubscribe topic g }.note (.unsubscribes topic g))
    refine ⟨.unsubscribes topic g :: log, ?_, .unsubscribes hrest⟩
    rw [perform, hlog, Stage.log_note, List.append_assoc, List.singleton_append]
  | publishes cue next ih =>
    cases nested with
    | none =>
      obtain ⟨log, hlog, hrest⟩ := ih false (s.note (.refuses cue))
      refine ⟨.refuses cue :: log, ?_, .refuses hrest⟩
      rw [perform, hlog, Stage.log_note, List.append_assoc, List.singleton_append]
    | some publish =>
      obtain ⟨inner, hinner, hwithin⟩ := h publish rfl cue s
      obtain ⟨log, hlog, hrest⟩ := ih true (publish cue s)
      refine ⟨.begins cue :: (inner ++ .finishes cue :: log), ?_, .publishes hwithin hrest⟩
      rw [perform, hlog, hinner]
      simp

theorem goes_dispatch {run : η → Stage τ η κ ω → Except Fault Unit × Stage τ η κ ω}
    (h : OrderlyCall topicOf run) (hs : List η) (s : Stage τ η κ ω) :
    s.Goes topicOf (.calling hs) (dispatch run hs s) := by
  induction hs generalizing s with
  | nil => exact ⟨[], (List.append_nil _).symm, .done⟩
  | cons g hs ih =>
    obtain ⟨inner, outcome, hinner, hwithin⟩ := h g s
    obtain ⟨log, hlog, hrest⟩ := ih (run g s).2
    refine ⟨.calls g :: (inner ++ .leaves g outcome :: log), ?_, .calls hwithin hrest⟩
    rw [dispatch, List.foldl_cons, ← dispatch, hlog, hinner]
    simp

theorem orderly_publishWithin
    {run : κ → η → Stage τ η κ ω → Except Fault Unit × Stage τ η κ ω}
    (h : ∀ cue, OrderlyCall topicOf (run cue)) :
    OrderlyPublication topicOf (publishWithin topicOf run) := by
  intro cue s
  obtain ⟨log, hlog, hunfolds⟩ := goes_dispatch (h cue)
    (registeredFor (topicOf cue) s.bus.registrations) (s.note (.begins cue))
  refine ⟨log, ?_, hunfolds⟩
  rw [publishWithin, publish, Stage.log_note, Stage.bus_note, handlers_eq_registeredFor, hlog,
    Stage.log_note]
  simp

variable (script : η → κ → Script τ η κ ω)

theorem orderly_call {nested : Option (κ → Stage τ η κ ω → Stage τ η κ ω)}
    (h : ∀ publish ∈ nested, OrderlyPublication topicOf publish) (cue : κ) :
    OrderlyCall topicOf (call script nested cue) := by
  intro g s
  obtain ⟨log, hlog, hunfolds⟩ := goes_perform h (script g cue) (s.note (.calls g))
  refine ⟨log, (perform nested (script g cue) (s.note (.calls g))).1, ?_, hunfolds⟩
  rw [call, Stage.log_note, hlog, Stage.log_note]
  simp

/-- Every call is orderly, however deep publications may nest. -/
theorem orderly_handle (depth : Nat) (cue : κ) :
    OrderlyCall topicOf (handle topicOf script depth cue) := by
  induction depth generalizing cue with
  | zero => exact orderly_call script (by rintro publish ⟨⟩) cue
  | succ depth ih =>
    refine orderly_call script ?_ cue
    rintro publish ⟨⟩
    exact orderly_publishWithin ih

variable (topicOf) in
theorem goes_stagePublish (depth : Nat) (cue : κ) (s : Stage τ η κ ω) :
    s.Goes topicOf (.calling (registeredFor (topicOf cue) s.bus.registrations))
      (stagePublish topicOf script depth cue s) := by
  rw [stagePublish, publish, handlers_eq_registeredFor]
  exact goes_dispatch (orderly_handle script depth cue) _ s

end

end Parley.Bus
