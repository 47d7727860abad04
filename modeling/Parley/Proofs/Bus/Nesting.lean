import Parley.Proofs.Bus.Script

/-!
# How deep publications may nest

Where no publication is refused, it makes no difference whether publications might have nested
deeper.
-/

namespace Parley.Bus

variable {τ η κ ω : Type}

def Stage.Unrefused (s s' : Stage τ η κ ω) : Prop :=
  ∃ log, s'.log = s.log ++ log ∧ ∀ cue, Incident.refuses cue ∉ log

theorem Stage.Unrefused.split {s m s' : Stage τ η κ ω} (h : s.Unrefused s') (hm : s.log <+: m.log)
    (hs : m.log <+: s'.log) : s.Unrefused m ∧ m.Unrefused s' := by
  obtain ⟨log, hlog, hnone⟩ := h
  obtain ⟨first, hfirst⟩ := hm
  obtain ⟨second, hsecond⟩ := hs
  have hparts : log = first ++ second := by
    rw [← hsecond, ← hfirst, List.append_assoc] at hlog
    exact (List.append_cancel_left hlog).symm
  subst hparts
  exact ⟨⟨first, hfirst.symm, fun cue hc => hnone cue (List.mem_append_left _ hc)⟩,
    ⟨second, hsecond.symm, fun cue hc => hnone cue (List.mem_append_right _ hc)⟩⟩

theorem Stage.not_unrefused_refuses (s : Stage τ η κ ω) (cue : κ) :
    ¬s.Unrefused (s.note (.refuses cue)) := by
  rintro ⟨log, hlog, hnone⟩
  obtain rfl := List.append_cancel_left hlog
  exact hnone cue List.mem_cons_self

theorem Stage.log_grows_note (s : Stage τ η κ ω) (i : Incident τ η κ) :
    s.log <+: (s.note i).log := List.prefix_append _ _

variable [BEq τ] [BEq η] {topicOf : κ → τ}

theorem Stage.Goes.log_grows {phase : Phase η} {s s' : Stage τ η κ ω}
    (h : s.Goes topicOf phase s') : s.log <+: s'.log := by
  obtain ⟨log, hlog, -⟩ := h
  exact ⟨log, hlog.symm⟩

theorem OrderlyCall.log_grows {run : η → Stage τ η κ ω → Except Fault Unit × Stage τ η κ ω}
    (h : OrderlyCall topicOf run) (g : η) (s : Stage τ η κ ω) : s.log <+: (run g s).2.log := by
  obtain ⟨log, outcome, hlog, -⟩ := h g s
  exact ⟨_, hlog.symm⟩

theorem OrderlyPublication.log_grows {publish : κ → Stage τ η κ ω → Stage τ η κ ω}
    (h : OrderlyPublication topicOf publish) (cue : κ) (s : Stage τ η κ ω) :
    s.log <+: (publish cue s).log := by
  obtain ⟨log, hlog, -⟩ := h cue s
  exact ⟨_, hlog.symm⟩

section

variable {nested nested' : Option (κ → Stage τ η κ ω → Stage τ η κ ω)}
  (horderly : ∀ publish ∈ nested, OrderlyPublication topicOf publish)
  (hagree : ∀ publish ∈ nested, ∃ publish' ∈ nested', ∀ cue s, s.Unrefused (publish cue s) →
    publish' cue s = publish cue s)

include horderly hagree

theorem perform_agree (script : Script τ η κ ω) (s : Stage τ η κ ω)
    (h : s.Unrefused (perform nested script s).2) :
    perform nested' script s = perform nested script s := by
  induction script generalizing s with
  | ends outcome => rfl
  | consults change next ih => exact ih s.bus s.world { s with world := change s.bus s.world } h
  | subscribes topic g next ih =>
    have hnoted := Stage.log_grows_note { s with bus := s.bus.subscribe topic g }
      (.subscribes topic g)
    exact ih _ (h.split hnoted (goes_perform horderly next _).log_grows).2
  | unsubscribes topic g next ih =>
    have hnoted := Stage.log_grows_note { s with bus := s.bus.unsubscribe topic g }
      (.unsubscribes topic g)
    exact ih _ (h.split hnoted (goes_perform horderly next _).log_grows).2
  | publishes cue next ih =>
    cases nested with
    | none =>
      have hrefused := h.split (s.log_grows_note (.refuses cue))
        (goes_perform horderly (next false) _).log_grows
      exact absurd hrefused.1 (s.not_unrefused_refuses cue)
    | some publish =>
      obtain ⟨publish', rfl, hsame⟩ := hagree publish rfl
      have hparts := h.split ((horderly publish rfl).log_grows cue s)
        (goes_perform horderly (next true) _).log_grows
      rw [perform, perform, hsame cue s hparts.1]
      exact ih true _ hparts.2

variable (topicOf) in
theorem call_agree (script : η → κ → Script τ η κ ω) (cue : κ) (g : η) (s : Stage τ η κ ω)
    (h : s.Unrefused (call script nested cue g s).2) :
    call script nested' cue g s = call script nested cue g s := by
  have hperform := (goes_perform horderly (script g cue) (s.note (.calls g))).log_grows
  have hafter := (h.split (s.log_grows_note (.calls g))
    (hperform.trans (Stage.log_grows_note _ _))).2
  rw [call, call, perform_agree horderly hagree (script g cue) (s.note (.calls g))
    (hafter.split hperform (Stage.log_grows_note _ _)).1]

end

theorem dispatch_agree {run run' : η → Stage τ η κ ω → Except Fault Unit × Stage τ η κ ω}
    (horderly : OrderlyCall topicOf run)
    (hagree : ∀ g s, s.Unrefused (run g s).2 → run' g s = run g s) (hs : List η)
    (s : Stage τ η κ ω) (h : s.Unrefused (dispatch run hs s)) :
    dispatch run' hs s = dispatch run hs s := by
  induction hs generalizing s with
  | nil => rfl
  | cons g hs ih =>
    have hparts := h.split (horderly.log_grows g s)
      (goes_dispatch horderly hs (run g s).2).log_grows
    rw [dispatch, List.foldl_cons, ← dispatch, hagree g s hparts.1]
    exact ih _ hparts.2

theorem publishWithin_agree {run run' : κ → η → Stage τ η κ ω → Except Fault Unit × Stage τ η κ ω}
    (horderly : ∀ cue, OrderlyCall topicOf (run cue))
    (hagree : ∀ cue g s, s.Unrefused (run cue g s).2 → run' cue g s = run cue g s) (cue : κ)
    (s : Stage τ η κ ω) (h : s.Unrefused (publishWithin topicOf run cue s)) :
    publishWithin topicOf run' cue s = publishWithin topicOf run cue s := by
  have hdispatch := (goes_dispatch (horderly cue) (s.bus.handlers (topicOf cue))
    (s.note (.begins cue))).log_grows
  have hafter := (h.split (s.log_grows_note (.begins cue))
    (hdispatch.trans (Stage.log_grows_note _ _))).2
  have hsame := dispatch_agree (horderly cue) (hagree cue) (s.bus.handlers (topicOf cue))
    (s.note (.begins cue)) (hafter.split hdispatch (Stage.log_grows_note _ _)).1
  rw [publishWithin, publishWithin, publish, publish, Stage.bus_note, hsame]

variable (script : η → κ → Script τ η κ ω)

/-- A call without a refusal is the same where publications may nest one deeper. -/
theorem handle_succ (depth : Nat) (cue : κ) (g : η) (s : Stage τ η κ ω)
    (h : s.Unrefused (handle topicOf script depth cue g s).2) :
    handle topicOf script (depth + 1) cue g s = handle topicOf script depth cue g s := by
  induction depth generalizing cue g s with
  | zero =>
    refine call_agree topicOf ?_ ?_ script cue g s h
    · rintro publish ⟨⟩
    · rintro publish ⟨⟩
  | succ depth ih =>
    refine call_agree topicOf ?_ ?_ script cue g s h
    · rintro publish ⟨⟩
      exact orderly_publishWithin (orderly_handle script depth)
    · rintro publish ⟨⟩
      exact ⟨_, rfl, publishWithin_agree (orderly_handle script depth) ih⟩

theorem stagePublish_succ (depth : Nat) (cue : κ) (s : Stage τ η κ ω)
    (h : s.Unrefused (stagePublish topicOf script depth cue s)) :
    stagePublish topicOf script (depth + 1) cue s = stagePublish topicOf script depth cue s :=
  dispatch_agree (orderly_handle script depth cue) (handle_succ script depth cue) _ s h

/-- A publication without a refusal is the same however deep publications might have nested. -/
theorem stagePublish_add (depth : Nat) (cue : κ) (s : Stage τ η κ ω)
    (h : s.Unrefused (stagePublish topicOf script depth cue s)) (more : Nat) :
    stagePublish topicOf script (depth + more) cue s = stagePublish topicOf script depth cue s := by
  induction more with
  | zero => rfl
  | succ more ih =>
    rw [← ih] at h
    rw [← Nat.add_assoc, stagePublish_succ script (depth + more) cue s h, ih]

end Parley.Bus
