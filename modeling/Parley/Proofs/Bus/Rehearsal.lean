import Parley.Bus.Rehearsal
import Parley.Proofs.Bus.Publication

/-!
# Rehearsed handlers as scripts

The handlers of a rehearsal are scripts: they see the handlers and the subscriptions that have names
and the notes taken. A rehearsal publishes as a stage does on which they perform.
-/

namespace Parley

/-- What the handlers of a rehearsal see besides the bus. -/
structure Backstage where
  handlers : List (String × Handler)
  subscriptions : List (String × Subscription)
  notes : List Note

namespace Backstage

def note (w : Backstage) (h : Handler) (cue : Cue) : Backstage :=
  { w with notes := w.notes ++ [⟨h.name, cue.text⟩] }

def keep (w : Backstage) (name : String) (s : Subscription) : Backstage :=
  { w with subscriptions := Rehearsal.keep w.subscriptions name s }

end Backstage

namespace Bus

def Script.sees {τ η κ ω : Type} (next : ω → Script τ η κ ω) : Script τ η κ ω :=
  .consults (fun _ w => w) fun _ w => next w

def Script.leaves {τ η κ ω : Type} (change : ω → ω) (outcome : Except Fault Unit) :
    Script τ η κ ω :=
  .consults (fun _ w => change w) fun _ _ => .ends outcome

def Stage.rehearsal (s : Stage Topic Handler Cue Backstage) : Rehearsal :=
  ⟨s.bus, s.world.handlers, s.world.subscriptions, s.world.notes⟩

/-- Handlers that do the same to what a function keeps of a state are called alike. -/
theorem dispatch_map {η σ σ' ε ε' : Type} {run : η → σ → ε × σ} {run' : η → σ' → ε' × σ'}
    {f : σ → σ'} (h : ∀ g s, (run' g (f s)).2 = f (run g s).2) (hs : List η) (s : σ) :
    dispatch run' hs (f s) = f (dispatch run hs s) := by
  induction hs generalizing s with
  | nil => rfl
  | cons g hs ih =>
    rw [dispatch, List.foldl_cons, ← dispatch, h]
    exact ih (run g s).2

end Bus

namespace Handler

open Bus

/-- Cancels the subscription of a name; a second time changes nothing. -/
def cancelling (name : String) : Script Topic Handler Cue Backstage :=
  .sees fun w => match w.subscriptions.lookup name with
  | none => .ends (.error (.unknownName name))
  | some s =>
    if s.active then
      .unsubscribes s.topic s.handler
        (.leaves (Backstage.keep · name { s with active := false }) (.ok ()))
    else .ends (.ok ())

/-- Subscribes the handler of a name and keeps the subscription under it. -/
def subscribing (topic : Topic) (name : String) : Script Topic Handler Cue Backstage :=
  .sees fun w => match w.handlers.lookup name with
  | none => .ends (.error (.unknownName name))
  | some g => .subscribes topic g (.leaves (Backstage.keep · name ⟨topic, g, true⟩) (.ok ()))

/-- What a handler does with an event after it has noted the call. -/
def deed (h : Handler) (cue : Cue) : Script Topic Handler Cue Backstage :=
  match h.behaviour with
  | .quiet => .ends (.ok ())
  | .fails => .ends (.error (.unknownName h.name))
  | .cancels name => cancelling name
  | .subscribes name => subscribing cue.topic name
  | .publishes => .publishes Cue.inventory fun published =>
    .ends (if published then .ok () else .error (.unknownName h.name))

def script (h : Handler) (cue : Cue) : Script Topic Handler Cue Backstage :=
  .consults (fun _ w => w.note h cue) fun _ _ => h.deed cue

end Handler

namespace Rehearsal

open Bus

def stage (r : Rehearsal) : Stage Topic Handler Cue Backstage :=
  ⟨r.bus, ⟨r.handlers, r.subscriptions, r.notes⟩, []⟩

/-- An operation does to a rehearsal what a stage comes to. -/
def Enacts (op : Rehearsal → Except Fault Unit × Rehearsal)
    (perf : Stage Topic Handler Cue Backstage →
      Except Fault Unit × Stage Topic Handler Cue Backstage) : Prop :=
  ∀ s, op s.rehearsal = ((perf s).1, (perf s).2.rehearsal)

section

variable (nested : Option (Cue → Stage Topic Handler Cue Backstage →
  Stage Topic Handler Cue Backstage))

theorem enacts_cancel (name : String) :
    Enacts (cancel · name) (perform nested (Handler.cancelling name)) := by
  intro s
  rw [Handler.cancelling, Script.sees, perform]
  cases hs : s.world.subscriptions.lookup name with
  | none => simp only [cancel, Stage.rehearsal, hs, perform]
  | some t =>
    by_cases ht : t.active = true
    · simp only [cancel, Stage.rehearsal, hs, ht, if_true, Script.leaves, perform]
      rfl
    · simp only [cancel, Stage.rehearsal, hs, if_neg ht, perform]

theorem enacts_subscribe (topic : Topic) (name : String) :
    Enacts (subscribe · topic name name) (perform nested (Handler.subscribing topic name)) := by
  intro s
  rw [Handler.subscribing, Script.sees, perform]
  cases hs : s.world.handlers.lookup name with
  | none => simp only [subscribe, handler?, Stage.rehearsal, hs, perform]
  | some g =>
    simp only [subscribe, handler?, Stage.rehearsal, hs, Script.leaves, perform]
    rfl

theorem enacts_call {op : Rehearsal → Except Fault Unit × Rehearsal} {cue : Cue} {h : Handler}
    (hop : Enacts op (perform nested (h.deed cue))) :
    Enacts (fun r => op { r with notes := r.notes ++ [⟨h.name, cue.text⟩] })
      (call Handler.script nested cue h) := by
  intro s
  exact hop ⟨s.bus, s.world.note h cue, s.log ++ [.calls h]⟩

/-- A handler that publishes nothing does the same whatever it might publish. -/
theorem enacts_run_of_silent {h : Handler} (hsilent : h.behaviour ≠ .publishes) (depth : Nat)
    (cue : Cue) : Enacts (run depth cue h) (call Handler.script nested cue h) := by
  intro s
  unfold run
  cases hb : h.behaviour with
  | quiet =>
    have hdeed : Enacts (fun r => (.ok (), r)) (perform nested (h.deed cue)) := by
      rw [Handler.deed, hb]
      exact fun s => rfl
    exact enacts_call nested hdeed s
  | fails =>
    have hdeed : Enacts (fun r => (.error (.unknownName h.name), r))
        (perform nested (h.deed cue)) := by
      rw [Handler.deed, hb]
      exact fun s => rfl
    exact enacts_call nested hdeed s
  | cancels name =>
    have hdeed : Enacts (cancel · name) (perform nested (h.deed cue)) := by
      rw [Handler.deed, hb]
      exact enacts_cancel nested name
    exact enacts_call nested hdeed s
  | subscribes name =>
    have hdeed : Enacts (subscribe · cue.topic name name) (perform nested (h.deed cue)) := by
      rw [Handler.deed, hb]
      exact enacts_subscribe nested cue.topic name
    exact enacts_call nested hdeed s
  | publishes => exact absurd hb hsilent

end

theorem publish_rehearsal {run' : Cue → Handler → Stage Topic Handler Cue Backstage →
      Except Fault Unit × Stage Topic Handler Cue Backstage} {depth : Nat} {cue : Cue}
    (h : ∀ g, Enacts (run depth cue g) (run' cue g)) (s : Stage Topic Handler Cue Backstage) :
    Bus.publish Rehearsal.bus (run depth cue) cue.topic s.rehearsal =
      (Bus.publish Stage.bus (run' cue) cue.topic s).rehearsal := by
  refine dispatch_map ?_ _ s
  intro g s
  rw [h g s]

theorem enacts_run (depth : Nat) (cue : Cue) (h : Handler) :
    Enacts (run depth cue h) (handle Cue.topic Handler.script depth cue h) := by
  induction depth generalizing cue h with
  | zero =>
    by_cases hb : h.behaviour = .publishes
    · intro s
      unfold run
      rw [hb]
      have hdeed : Enacts (fun r => (.error (.unknownName h.name), r))
          (perform none (h.deed cue)) := by
        rw [Handler.deed, hb]
        exact fun s => rfl
      exact enacts_call none hdeed s
    · exact enacts_run_of_silent none hb 0 cue
  | succ depth ih =>
    by_cases hb : h.behaviour = .publishes
    · intro s
      unfold run
      rw [hb]
      have hdeed : Enacts
          (fun r => (.ok (), Bus.publish Rehearsal.bus (run depth Cue.inventory) .inventory r))
          (perform (some (publishWithin Cue.topic (handle Cue.topic Handler.script depth)))
            (h.deed cue)) := by
        rw [Handler.deed, hb]
        intro s
        exact congrArg (Prod.mk (Except.ok ()))
          (publish_rehearsal (ih Cue.inventory) (s.note (.begins Cue.inventory)))
      exact enacts_call _ hdeed s
    · exact enacts_run_of_silent _ hb (depth + 1) cue

theorem publish_eq (r : Rehearsal) (cue : Cue) :
    r.publish cue =
      (stagePublish Cue.topic Handler.script nestingLimit cue r.stage).rehearsal :=
  publish_rehearsal (enacts_run nestingLimit cue) r.stage

/-- A rehearsed publication calls the handlers that its topic had when it began, and the
registrations are afterwards as they have changed them. -/
theorem publish_bus (r : Rehearsal) (cue : Cue) :
    ∃ log : List (Incident Topic Handler Cue),
      directCalls log = registeredFor cue.topic r.bus.registrations ∧
      Faithful Cue.topic r.bus.registrations log ∧
      (r.publish cue).bus.registrations = replay r.bus.registrations log := by
  obtain ⟨log, -, hunfolds⟩ :=
    goes_stagePublish Cue.topic Handler.script nestingLimit cue r.stage
  refine ⟨log, hunfolds.directCalls_eq, hunfolds.faithful, ?_⟩
  rw [publish_eq]
  exact hunfolds.replay_eq.symm

end Rehearsal
end Parley
