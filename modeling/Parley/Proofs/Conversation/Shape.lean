import Parley.Proofs.Conversation.Calls

/-!
# The two shapes of an engine

Between calls an engine is idle, with nothing left of the conversations it had, or it plays the
conversation that was opened last. This holds in whatever order it is called and whichever
documents, translations and writes fail: each effect of a call leads from one of the two shapes to
one of them.
-/

namespace Parley

/-- A conversation with someone, whose place is in its lines. -/
structure Session.Playing (who : String × Json) (s : Session) : Prop where
  running : s.Running
  npcId : s.npcId = some who.1
  npcName : s.npcName = who.2

namespace Engine

/-- An engine without a conversation, as a new one is. -/
structure Fresh (e : Engine) : Prop where
  session : e.session = .idle
  starting : e.starting = false

theorem fresh_start (service : Service) : (start service).Fresh := ⟨rfl, rfl⟩

/-- Idle, or playing with the one whom the last conversation was opened with. -/
inductive Shape (who : Option (String × Json)) (e : Engine) : Prop where
  | idle (starting : e.starting = false) (session : e.session = .idle)
  | playing {p : String × Json} (starting : e.starting = false) (last : who = some p)
      (session : e.session.Playing p)

namespace Shape

variable {who : Option (String × Json)} {e : Engine}

theorem starting (h : Shape who e) : e.starting = false := by
  cases h with
  | idle starting _ => exact starting
  | playing starting _ _ => exact starting

theorem sound (h : Shape who e) : e.session.Sound := by
  cases h with
  | idle _ session => exact .inl session
  | playing _ _ session => exact .inr session.running

end Shape

variable {τ : Type} [Translation τ]

/-- The engine after calls, each in surroundings of its own. -/
def run (steps : List (Surroundings τ × Call)) (e : Engine) : Engine :=
  steps.foldl (fun e step => step.2.perform step.1 e) e

/-- Whom the last conversation was opened with, where `who` tells of those before the calls. -/
def lastOpened : List (Surroundings τ × Call) → Engine → Option (String × Json) →
    Option (String × Json)
  | [], _, who => who
  | (w, c) :: steps, e, who =>
    let e' := c.perform w e
    lastOpened steps e' (if !e.session.active && e'.session.active then c.who? else who)

variable {w : Surroundings τ}

theorem Shape.step {who : Option (String × Json)} {e e' : Engine} {c : Call} (h : Shape who e)
    (hacts : Acts (Effect w c.who? e.session) e e') :
    Shape (if !e.session.active && e'.session.active then c.who? else who) e' := by
  obtain ⟨calls, heffect, -, hstarting⟩ := hacts
  have hfree := hstarting.trans h.starting
  have hsame : e'.session = e.session →
      Shape (if !e.session.active && e'.session.active then c.who? else who) e' := by
    intro hsession
    rw [hsession, Bool.not_and_self, if_neg Bool.false_ne_true]
    cases h with
    | idle _ session => exact .idle hfree (hsession.trans session)
    | playing _ last session => exact .playing hfree last (hsession ▸ session)
  generalize hs : e'.session = s' at heffect
  cases heffect with
  | kept => exact hs ▸ hsame hs
  | opening hwho opens =>
    rcases opens.session_eq with rfl | ⟨r, shown, hidle, hlines, rfl⟩
    · exact hs ▸ hsame hs
    · change Shape (if (!e.session.active && true) = true then c.who? else who) e'
      rw [hidle, Bool.not_false, Bool.true_and, if_pos rfl]
      refine .playing hfree hwho ?_
      rw [hs]
      exact ⟨(Session.running_opened _ _ hlines).withShown shown, rfl, rfl⟩
  | going active running npcId npcName shown renders =>
    obtain ⟨shown, rfl⟩ := renders.session_eq
    rw [active, Bool.not_true, Bool.false_and, if_neg Bool.false_ne_true]
    cases h with
    | idle _ session => rw [session] at active; cases active
    | playing _ last session =>
      refine .playing hfree last ?_
      rw [hs]
      exact ⟨running.withShown shown, npcId.trans session.npcId, npcName.trans session.npcName⟩
  | ended active =>
    rw [active, Bool.not_true, Bool.false_and, if_neg Bool.false_ne_true]
    exact .idle hfree hs

theorem Shape.run {who : Option (String × Json)} {e : Engine} (h : Shape who e)
    (steps : List (Surroundings τ × Call)) (hview : ∀ step ∈ steps, step.1.ViewWorks) :
    Shape (lastOpened steps e who) (run steps e) := by
  induction steps generalizing e who with
  | nil => exact h
  | cons step steps ih =>
    obtain ⟨w, c⟩ := step
    have hw := hview (w, c) List.mem_cons_self
    apply ih (h.step (acts_perform hw h.sound h.starting c))
    intro step hstep
    exact hview step (List.mem_cons_of_mem _ hstep)

/-- A step on one engine and on another has the same outcome, leads to the same session and is the
same for the view. -/
structure SameShow (e e' : Engine) (x x' : Except Fault Unit × Engine) : Prop where
  outcome : x.1 = x'.1
  session : x.2.session = x'.2.session
  calls : ∃ calls, x.2.viewCalls = e.viewCalls ++ calls ∧ x'.2.viewCalls = e'.viewCalls ++ calls

section

variable {e e' : Engine}

theorem SameShow.unseen {r : Except Fault Unit} {x x' : Engine} (hsession : x.session = x'.session)
    (hcalls : x.viewCalls = e.viewCalls) (hcalls' : x'.viewCalls = e'.viewCalls) :
    SameShow e e' (r, x) (r, x') :=
  ⟨rfl, hsession, [], by simp [hcalls], by simp [hcalls']⟩

theorem sameShow_renderCurrent (hw : w.ViewWorks) (e e' : Engine) (h : e.session = e'.session) :
    SameShow e e' (renderCurrent w e) (renderCurrent w e') := by
  rw [renderCurrent_eq hw, renderCurrent_eq hw, h]
  cases e'.session.current? with
  | none => exact .unseen h rfl rfl
  | some l =>
    dsimp only
    cases renderLine w e'.session l with
    | error fault => exact .unseen h rfl rfl
    | ok shown =>
      refine ⟨rfl, by simp [h],
        (if e'.session.shown then [.advanceCue] else []) ++ [.render shown], ?_, ?_⟩
      · rw [viewCalls_showing, h, List.append_assoc]
      · rw [viewCalls_showing, List.append_assoc]

theorem sameShow_present (hw : w.ViewWorks) (e e' : Engine) (h : e.session = e'.session) :
    SameShow e e' (present w e) (present w e') := by
  rw [present_eq hw, present_eq hw, h]
  cases focus w e'.session with
  | error fault => exact .unseen h rfl rfl
  | ok point =>
    obtain ⟨houtcome, hsession, calls, hcalls, hcalls'⟩ := sameShow_renderCurrent hw
      (e.record (.view (.enter point))) (e'.record (.view (.enter point))) h
    refine ⟨houtcome, hsession, .enter point :: calls, ?_, ?_⟩
    · rw [hcalls, viewCalls_record_view, List.append_assoc]
      rfl
    · rw [hcalls', viewCalls_record_view, List.append_assoc]
      rfl

theorem sameShow_converse (hw : w.ViewWorks) (h : e.Fresh) (h' : e'.Fresh)
    (hstock : e.stock = e'.stock) (npcId : String) (npcName : Json) :
    SameShow e e' (converse w npcId npcName e) (converse w npcId npcName e') := by
  have hsession : e.session = e'.session := h.session.trans h'.session.symm
  rw [converse_of_free (by rw [h.session]; rfl) h.starting,
    converse_of_free (by rw [h'.session]; rfl) h'.starting, hstock]
  cases w.document npcId with
  | error fault => exact .unseen hsession rfl rfl
  | ok document =>
    cases document with
    | none => exact .unseen hsession rfl rfl
    | some d =>
      dsimp only
      by_cases hlines : (d.resolve w.supply e'.stock).1.lines = []
      · rw [if_pos hlines, if_pos hlines]
        exact .unseen hsession rfl rfl
      · rw [if_neg hlines, if_neg hlines]
        obtain ⟨houtcome, hopened, calls, hcalls, hcalls'⟩ := sameShow_present hw
          { e.asked with
            stock := (d.resolve w.supply e'.stock).2
            session := .opened npcId npcName (d.resolve w.supply e'.stock).1 }
          { e'.asked with
            stock := (d.resolve w.supply e'.stock).2
            session := .opened npcId npcName (d.resolve w.supply e'.stock).1 } rfl
        exact ⟨houtcome, hopened, calls, hcalls, hcalls'⟩

end

/-- After any calls, whatever fails in them, an engine has one of the two shapes. So a conversation
that runs always has lines; and one that is started after others ended is the same as on a new
engine with the same inventory. -/
theorem shape_of_run {e₀ : Engine} (h : e₀.Fresh) (steps : List (Surroundings τ × Call))
    (hview : ∀ step ∈ steps, step.1.ViewWorks) :
    let e := run steps e₀
    Shape (lastOpened steps e₀ none) e ∧
      (e.session.active = true → e.session.lines ≠ []) ∧
      (e.session.active = false → ∀ w : Surroundings τ, w.ViewWorks → ∀ npcId npcName,
        let new := { start e.stock.service with stock := e.stock }
        SameShow e new (converse w npcId npcName e) (converse w npcId npcName new)) := by
  have hshape : Shape (lastOpened steps e₀ none) (run steps e₀) :=
    Shape.run (.idle h.starting h.session) steps hview
  refine ⟨hshape, ?_, ?_⟩
  · intro hactive
    exact (hshape.sound.running hactive).lines_ne_nil
  · intro hidle w hw npcId npcName new
    have hended : (run steps e₀).Fresh := ⟨hshape.sound.idle hidle, hshape.starting⟩
    have hnew : new.Fresh := ⟨rfl, rfl⟩
    exact sameShow_converse hw hended hnew rfl npcId npcName

def gift : Document where
  id := "gate"
  lines := some [.said "Halt." none, .said "Take this." none]
  forks := none
  actions := some [.giveItem "key" none false]

/-- Two visits: one for which the documents cannot be reached, and one that ends with a gift that
cannot be written. -/
def visits : List (World × Call) :=
  [({ World.plain gift with document := fun _ => .error .repositoryDown }, .start "gate" .null),
    (.plain gift, .interact "gate" (.str "Ann")),
    (.plain gift, .turn .advance),
    ({ World.plain gift with supply := .constant .stored true }, .turn .advance)]

/-- The engine of a player with nothing but room. -/
def visitor : Engine := start (.ofItems [] 1 [])

theorem shape_of_visits :
    Shape (some ("gate", .str "Ann")) (run visits visitor) ∧
      (run visits visitor).session = .idle ∧
      ∀ npcId npcName,
        let new := { start (run visits visitor).stock.service with
          stock := (run visits visitor).stock }
        SameShow (run visits visitor) new
          (converse (World.plain gift) npcId npcName (run visits visitor))
          (converse (World.plain gift) npcId npcName new) := by
  have hview : ∀ step ∈ visits, step.1.ViewWorks := by
    intro step hstep
    simp only [visits, List.mem_cons, List.not_mem_nil, or_false] at hstep
    rcases hstep with rfl | rfl | rfl | rfl <;> exact fun _ => rfl
  have hfresh : visitor.Fresh := fresh_start _
  have hlast : lastOpened visits visitor none = some ("gate", .str "Ann") := rfl
  have hidle : (run visits visitor).session = .idle := rfl
  obtain ⟨hshape, -, hagain⟩ := shape_of_run hfresh visits hview
  refine ⟨hlast ▸ hshape, hidle, ?_⟩
  exact hagain (by rw [hidle]; rfl) (World.plain gift) (fun _ => rfl)

end Engine
end Parley
