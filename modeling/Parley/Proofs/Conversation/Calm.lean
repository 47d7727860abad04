import Parley.Proofs.Conversation.Steps

/-!
# Views that fail at lines

Showing a line is the last thing that an operation does. So where the view fails at nothing else, an
operation leaves the engine as it would if the view took every call, and only its outcome tells
whether the line was shown.
-/

namespace Parley

variable {τ : Type}

/-- The view takes every call but perhaps that to show a line. -/
def Surroundings.FailsAtLines (w : Surroundings τ) : Prop :=
  ∀ c : ViewCall, c.rendered? = none → w.viewFault c = none

/-- The same surroundings with a view that takes every call. -/
def Surroundings.calm (w : Surroundings τ) : Surroundings τ :=
  { w with viewFault := fun _ => none }

theorem Surroundings.viewWorks_calm (w : Surroundings τ) : w.calm.ViewWorks := fun _ => rfl

namespace Engine

def outcomeAt (w : Surroundings τ) (shown : RenderLine) : Except Fault Unit :=
  match w.viewFault (.render shown) with
  | some fault => .error fault
  | none => .ok ()

variable {w : Surroundings τ}

theorem call_render (shown : RenderLine) (e : Engine) :
    call w (.render shown) e = (outcomeAt w shown, e.record (.view (.render shown))) := by
  unfold call outcomeAt
  cases w.viewFault (.render shown) <;> rfl

theorem call_calm (h : w.FailsAtLines) {c : ViewCall} (hc : c.rendered? = none) :
    call w c = call w.calm c := by
  funext e
  rw [call_eq w.viewWorks_calm, call, h c hc]

theorem teardown_calm (h : w.FailsAtLines) : teardown w = teardown w.calm := by
  rw [teardown, call_calm h rfl, call_calm h rfl]
  rfl

theorem conclude_calm (h : w.FailsAtLines) (execute : List Action → Play Unit)
    (actions : List Action) : conclude execute w actions = conclude execute w.calm actions := by
  rw [conclude, call_calm h rfl, teardown_calm h]
  rfl

variable [Translation τ]

theorem renderCurrent_of_failsAtLines (h : w.FailsAtLines) (e : Engine) :
    renderCurrent w e = match e.session.current? with
      | none => (.ok (), e)
      | some line => match renderLine w e.session line with
        | .error fault => (.error fault, e)
        | .ok shown => (outcomeAt w shown, e.showing shown) := by
  have hcue (e : Engine) : call w .advanceCue e = (.ok (), e.record (.view .advanceCue)) := by
    rw [call_calm h rfl, call_eq w.viewWorks_calm]
  simp only [renderCurrent, Play.bind_apply, Play.get_apply]
  cases e.session.current? with
  | none => rfl
  | some line =>
    simp only [Play.bind_apply, Play.lift_apply]
    cases renderLine w e.session line with
    | error fault => rfl
    | ok shown =>
      cases hshown : e.session.shown <;>
        simp [Play.bind_apply, hcue, call_render, showing, record, hshown]

theorem present_of_failsAtLines (h : w.FailsAtLines) (e : Engine) :
    present w e = match focus w e.session with
      | .error fault => (.error fault, e)
      | .ok point => renderCurrent w (e.record (.view (.enter point))) := by
  have henter (point : Option Position) (e : Engine) :
      call w (.enter point) e = (.ok (), e.record (.view (.enter point))) := by
    rw [call_calm h rfl, call_eq w.viewWorks_calm]
  simp only [present, Play.bind_apply, Play.get_apply, Play.lift_apply]
  cases focus w e.session with
  | error fault => rfl
  | ok point => simp only [henter]

end Engine
end Parley
