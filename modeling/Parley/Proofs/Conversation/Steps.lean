import Parley.Conversation.Engine
import Parley.Proofs.Dialogue.Copy

/-!
# The steps of an engine in closed form

What a view sees of an engine, what happens where no view sees it, and for each operation the state
that it leads to while the view works. Proofs about conversations use these equations and never open
the operations.
-/

namespace Parley

def Event.viewCall? : Event → Option ViewCall
  | .view c => some c
  | _ => none

def ViewCall.rendered? : ViewCall → Option RenderLine
  | .render l => some l
  | _ => none

namespace Engine

def viewCalls (e : Engine) : List ViewCall := e.events.filterMap Event.viewCall?

/-- The lines that the view has shown so far. -/
def rendered (e : Engine) : List RenderLine := e.viewCalls.filterMap ViewCall.rendered?

@[simp] theorem viewCalls_record_view (c : ViewCall) (e : Engine) :
    (e.record (.view c)).viewCalls = e.viewCalls ++ [c] := by
  simp [viewCalls, record, List.filterMap_append, Event.viewCall?]

/-- The second engine is the first after something that neither its session nor a view notices. -/
structure Offstage (e e' : Engine) : Prop where
  session : e'.session = e.session
  starting : e'.starting = e.starting
  bus : e'.bus = e.bus
  viewCalls : e'.viewCalls = e.viewCalls

namespace Offstage

theorem refl (e : Engine) : Offstage e e := ⟨rfl, rfl, rfl, rfl⟩

theorem trans {e e' e'' : Engine} (h : Offstage e e') (h' : Offstage e' e'') : Offstage e e'' :=
  ⟨h'.session.trans h.session, h'.starting.trans h.starting, h'.bus.trans h.bus,
    h'.viewCalls.trans h.viewCalls⟩

theorem rendered {e e' : Engine} (h : Offstage e e') : e'.rendered = e.rendered := by
  unfold Engine.rendered
  rw [h.viewCalls]

theorem setStock (e : Engine) (stock : Stock) : Offstage e { e with stock } := ⟨rfl, rfl, rfl, rfl⟩

theorem record {event : Event} (h : event.viewCall? = none) (e : Engine) :
    Offstage e (e.record event) := by
  refine ⟨rfl, rfl, rfl, ?_⟩
  simp [Engine.viewCalls, Engine.record, List.filterMap_append, h]

end Offstage
end Engine

theorem Bus.dispatch_rel {η σ ε : Type} {R : σ → σ → Prop} (refl : ∀ s, R s s)
    (trans : ∀ {s s' s''}, R s s' → R s' s'' → R s s'') {run : η → σ → ε × σ}
    (step : ∀ h s, R s (run h s).2) (hs : List η) (s : σ) : R s (Bus.dispatch run hs s) := by
  induction hs generalizing s with
  | nil => exact refl s
  | cons h rest ih => exact trans (step h s) (ih (run h s).2)

/-- What changes of the stock and notices keep, a grant keeps. -/
theorem GrantSite.give_rel {σ : Type} (site : GrantSite σ) {R : σ → σ → Prop}
    (trans : ∀ {s s' s''}, R s s' → R s' s'' → R s s'')
    (setStock : ∀ s stock, R s (site.setStock s stock))
    (notify : ∀ event s, R s (site.notify event s)) (supply : Supply) (item : String)
    (amount : Option Number) (ifMissing : Bool) (s : σ) :
    R s (site.give supply item amount ifMissing s).2 := by
  unfold GrantSite.give
  dsimp only
  have hget := setStock s ((site.stock s).get supply).2
  generalize site.setStock s ((site.stock s).get supply).2 = s₁ at hget
  cases ((site.stock s).get supply).1 with
  | none => exact hget
  | some inventory =>
    dsimp only
    have htold := trans hget (notify (.broadcast inventory) s₁)
    generalize site.notify (.broadcast inventory) s₁ = s₂ at htold
    split
    · exact htold
    · split
      · exact htold
      · split
        · exact htold
        · split
          · exact htold
          · split
            · exact trans htold (setStock _ _)
            · exact trans (trans (trans htold (trans (setStock _ _) (notify _ _))) (setStock _ _))
                (notify _ _)

theorem GrantSite.execute_rel {σ : Type} (site : GrantSite σ) {R : σ → σ → Prop}
    (refl : ∀ s, R s s) (trans : ∀ {s s' s''}, R s s' → R s' s'' → R s s'')
    (setStock : ∀ s stock, R s (site.setStock s stock))
    (notify : ∀ event s, R s (site.notify event s)) (supply : Supply) (actions : List Action)
    (s : σ) : R s (site.execute supply actions s).2 := by
  induction actions generalizing s with
  | nil => exact refl s
  | cons action rest ih =>
    cases action with
    | unknown => exact ih s
    | giveItem item amount ifMissing =>
      have hgive := site.give_rel (R := R) trans setStock notify supply item amount ifMissing s
      unfold GrantSite.execute
      split
      · rename_i h
        rwa [h] at hgive
      · rename_i h
        rw [h] at hgive
        exact trans hgive (ih _)

namespace Engine

theorem offstage_receive (inventory : Option Snapshot) (l : Listener) (e : Engine) :
    Offstage e (receive inventory l e).2 := by
  cases l with
  | manager => exact .setStock e _
  | recorder => exact .record rfl e
  | relay news => exact .refl e

theorem offstage_hear (inventory : Option Snapshot) (l : Listener) (e : Engine) :
    Offstage e (hear inventory l e).2 := by
  cases l with
  | manager => exact offstage_receive inventory .manager e
  | recorder => exact offstage_receive inventory .recorder e
  | relay news => exact Bus.dispatch_rel .refl .trans (offstage_receive (some news)) _ e

theorem offstage_publishInventory (inventory : Option Snapshot) (e : Engine) :
    Offstage e (publishInventory inventory e) :=
  Bus.dispatch_rel .refl .trans (offstage_hear inventory) _ e

theorem offstage_executeActions (supply : Supply) (actions : List Action) (e : Engine) :
    Offstage e (executeActions supply actions e).2 := by
  apply GrantSite.execute_rel site Offstage.refl Offstage.trans
  · exact Offstage.setStock
  · intro event e
    cases event with
    | broadcast inventory => exact offstage_publishInventory (some inventory) e
    | write slots => exact .record rfl e

end Engine

variable {τ : Type}

def Surroundings.ViewWorks (w : Surroundings τ) : Prop := ∀ c, w.viewFault c = none

/-- A stage on which everything works: each character has the same document, nothing is translated
and nobody has a position. -/
def World.plain (d : Document) : World where
  document _ := .ok (some d)
  translator := .none
  positions := none
  settings := .default
  supply := .working
  viewFault _ := none

def Line.said (text : String) (choices : Option (List Choice)) : Line :=
  ⟨.str "npc", text, .null, .null, .null, .null, choices, .null⟩

namespace Engine

variable {w : Surroundings τ}

/-- The engine after its session was torn down. -/
def closed (cooldown : Json) (e : Engine) : Engine :=
  { e with session := .idle, events := e.events ++ [.view .exit, .view (.cooldown cooldown)] }

@[simp] theorem viewCalls_closed (cooldown : Json) (e : Engine) :
    (e.closed cooldown).viewCalls = e.viewCalls ++ [.exit, .cooldown cooldown] := by
  simp [closed, viewCalls, List.filterMap_append, Event.viewCall?]

theorem call_eq (hw : w.ViewWorks) (c : ViewCall) (e : Engine) :
    call w c e = (.ok (), e.record (.view c)) := by
  simp only [call, hw c]

theorem teardown_eq (hw : w.ViewWorks) (e : Engine) :
    teardown w e = (.ok (), e.closed w.settings.interactionCooldown) := by
  simp [teardown, Play.bind_apply, call_eq hw, closed, record]

/-- Whatever the executor does, the session is torn down after it. -/
theorem conclude_eq (hw : w.ViewWorks) (execute : List Action → Play Unit) (actions : List Action)
    (e : Engine) :
    conclude execute w actions e =
      ((execute actions (e.record (.view .endCue))).1,
        (execute actions (e.record (.view .endCue))).2.closed w.settings.interactionCooldown) := by
  simp [conclude, Play.bind_apply, Play.followedBy, call_eq hw, teardown_eq hw]

theorem session_conclude (hw : w.ViewWorks) (execute : List Action → Play Unit)
    (actions : List Action) (e : Engine) : (conclude execute w actions e).2.session = .idle := by
  rw [conclude_eq hw]
  rfl

/-- Executing actions is between the end cue and the teardown, where the view sees nothing of it. -/
theorem viewCalls_conclude (hw : w.ViewWorks) (supply : Supply) (actions : List Action)
    (e : Engine) : (conclude (executeActions supply) w actions e).2.viewCalls =
      e.viewCalls ++ [.endCue, .exit, .cooldown w.settings.interactionCooldown] := by
  rw [conclude_eq hw]
  have hkept := offstage_executeActions supply actions (e.record (.view .endCue))
  rw [viewCalls_closed, hkept.viewCalls, viewCalls_record_view, List.append_assoc]
  rfl

theorem focus_withShown (s : Session) (shown : Bool) :
    focus w { s with shown } = focus w s := rfl

variable [Translation τ]

/-- The engine after its current line was shown. -/
def showing (shown : RenderLine) (e : Engine) : Engine :=
  { e with
    session := { e.session with shown := true }
    events := e.events ++ (if e.session.shown then [.view .advanceCue] else []) ++
      [.view (.render shown)] }

@[simp] theorem session_showing (shown : RenderLine) (e : Engine) :
    (e.showing shown).session = { e.session with shown := true } := rfl

theorem viewCalls_showing (shown : RenderLine) (e : Engine) :
    (e.showing shown).viewCalls = e.viewCalls ++
      (if e.session.shown then [.advanceCue] else []) ++ [.render shown] := by
  cases h : e.session.shown <;>
    simp [showing, viewCalls, h, List.filterMap_append, Event.viewCall?]

theorem renderCurrent_eq (hw : w.ViewWorks) (e : Engine) :
    renderCurrent w e = match e.session.current? with
      | none => (.ok (), e)
      | some line => match renderLine w e.session line with
        | .error fault => (.error fault, e)
        | .ok shown => (.ok (), e.showing shown) := by
  simp only [renderCurrent, Play.bind_apply, Play.get_apply]
  cases e.session.current? with
  | none => rfl
  | some line =>
    simp only [Play.bind_apply, Play.lift_apply]
    cases renderLine w e.session line with
    | error fault => rfl
    | ok shown =>
      cases h : e.session.shown <;>
        simp [Play.bind_apply, call_eq hw, showing, record, h]

def next (e : Engine) : Engine :=
  { e with session := { e.session with index := e.session.index + 1 } }

theorem advanceWith_of_idle {execute : List Action → Play Unit} {e : Engine}
    (h : e.session.active = false) : advanceWith execute w e = (.ok (), e) := by
  simp [advanceWith, Play.bind_apply, h]

theorem advanceWith_of_not_isLast {execute : List Action → Play Unit} {e : Engine}
    (hactive : e.session.active = true) (hlines : e.session.lines ≠ [])
    (hlast : e.session.isLast = false) : advanceWith execute w e = renderCurrent w e.next := by
  simp [advanceWith, Play.bind_apply, hactive, hlines, hlast, next]

theorem advanceWith_of_isLast {execute : List Action → Play Unit} {e : Engine}
    (hactive : e.session.active = true) (hlines : e.session.lines ≠ [])
    (hlast : e.session.isLast = true) :
    advanceWith execute w e = conclude execute w e.session.pending e := by
  simp [advanceWith, Play.bind_apply, hactive, hlines, hlast]

/-- The choice of an id on the line on screen. -/
def offered (e : Engine) (id : String) : Option (Line × Choice) := do
  let line ← if e.session.active then e.session.current? else none
  let choice ← (line.options.getD []).find? (·.id == id)
  return (line, choice)

/-- The engine after a choice was taken: the line became the answer, and what the choice resolves to
follows it. -/
def answered (supply : Supply) (line : Line) (choice : Choice) (text : String) (e : Engine) :
    Engine :=
  let place := e.session.index.toNat
  let resolved := choice.resolve supply e.stock
  { e with
    stock := resolved.2
    session := { e.session with
      lines := spliceAfter place resolved.1.lines (e.session.lines.set place (line.answered text))
      pending := e.session.pending ++ resolved.1.actions } }

theorem select_of_not_offered {id : String} {e : Engine} (h : e.offered id = none) :
    select w id e = (.ok (), e) := by
  unfold offered at h
  simp only [select, Play.bind_apply, Play.get_apply]
  cases hactive : e.session.active with
  | false => rfl
  | true =>
    simp only [Bool.not_true, Bool.false_eq_true, if_false]
    rw [hactive, if_pos rfl] at h
    cases hline : e.session.current? with
    | none => rfl
    | some line =>
      cases hchoice : (line.options.getD []).find? (·.id == id) with
      | none => simp only [hchoice, Play.pure_apply]
      | some choice => simp [hline, hchoice] at h

theorem of_offered {id : String} {e : Engine} {line : Line} {choice : Choice}
    (h : e.offered id = some (line, choice)) :
    e.session.active = true ∧ e.session.current? = some line ∧
      (line.options.getD []).find? (·.id == id) = some choice := by
  unfold offered at h
  split at h
  · rename_i hactive
    obtain ⟨l, hline, h⟩ := Option.bind_eq_some_iff.mp h
    obtain ⟨c, hchoice, h⟩ := Option.bind_eq_some_iff.mp h
    cases h
    exact ⟨hactive, hline, hchoice⟩
  · cases h

theorem select_of_offered {id : String} {e : Engine} {line : Line} {choice : Choice}
    (h : e.offered id = some (line, choice)) :
    select w id e = match localize w choice.textKey choice.text with
      | .error fault => (.error fault, e)
      | .ok text => renderCurrent w (e.answered w.supply line choice text) := by
  obtain ⟨hactive, hline, hchoice⟩ := of_offered h
  simp only [select, Play.bind_apply, Play.get_apply, hactive, hline, hchoice]
  cases localize w choice.textKey choice.text with
  | error fault => rfl
  | ok text => simp [Play.bind_apply, answered, Line.copyList_eq]

/-- The engine after a start has passed the guard. -/
def begun (e : Engine) : Engine := { e with starting := true, requests := e.requests + 1 }

theorem begin_of_free {e : Engine} (hactive : e.session.active = false)
    (hstarting : e.starting = false) : e.begin = (true, e.begun) := by
  simp [begin, hactive, hstarting, begun]

theorem begin_of_busy {e : Engine} (h : e.session.active = true ∨ e.starting = true) :
    e.begin = (false, e) := by
  unfold begin
  rw [if_pos (by simpa using h)]

def asked (e : Engine) : Engine := { e with requests := e.requests + 1 }

theorem present_eq (hw : w.ViewWorks) (e : Engine) :
    present w e = match focus w e.session with
      | .error fault => (.error fault, e)
      | .ok point => renderCurrent w (e.record (.view (.enter point))) := by
  simp only [present, Play.bind_apply, Play.get_apply, Play.lift_apply]
  cases focus w e.session with
  | error fault => rfl
  | ok point => simp [call_eq hw]

theorem converse_of_busy {npcId : String} {npcName : Json} {e : Engine}
    (h : e.session.active = true ∨ e.starting = true) :
    converse w npcId npcName e = (.ok (), e) := by
  simp only [converse, begin_of_busy h]

/-- A start that passes the guard opens a session on what the character's document resolves to, if
that has lines. -/
theorem converse_of_free {npcId : String} {npcName : Json} {e : Engine}
    (hactive : e.session.active = false) (hstarting : e.starting = false) :
    converse w npcId npcName e = match w.document npcId with
      | .error fault => (.error fault, e.asked)
      | .ok none => (.ok (), e.asked)
      | .ok (some d) =>
        let resolved := d.resolve w.supply e.stock
        if resolved.1.lines = [] then (.ok (), { e.asked with stock := resolved.2 })
        else present w { e.asked with
          stock := resolved.2
          session := .opened npcId npcName resolved.1 } := by
  obtain ⟨session, starting, stock, bus, requests, events⟩ := e
  dsimp only at hactive hstarting
  subst hstarting
  simp only [converse, begin, hactive, finish, Play.bind_apply, Play.followedBy, openSession, asked]
  cases w.document npcId with
  | error fault => rfl
  | ok document =>
    cases document with
    | none => rfl
    | some d => by_cases hlines : (d.resolve w.supply stock).1.lines = [] <;> simp [hlines]

/-- One more start at the guard, after those that have passed it. -/
def pass (acc : List String × Engine) (npcId : String) : List String × Engine :=
  match acc.2.begin with
  | (true, e) => (acc.1 ++ [npcId], e)
  | (false, e) => (acc.1, e)

/-- One more start goes on, after others with their outcome. -/
def goOn (w : Surroundings τ) (acc : Except Fault Unit × Engine) (npcId : String) :
    Except Fault Unit × Engine :=
  match finish w npcId .null acc.2 with
  | (.error fault, e) => (acc.1.bind fun _ => .error fault, e)
  | (.ok (), e) => (acc.1, e)

/-- Of starts made at once those that pass the guard go on afterwards. -/
theorem converseAll_eq (npcs : List String) (e : Engine) :
    converseAll w npcs e = (npcs.foldl pass ([], e)).1.foldl (goOn w)
      (.ok (), (npcs.foldl pass ([], e)).2) := rfl

/-- Once a conversation runs or a start has passed the guard, no start passes it. -/
theorem foldl_pass_of_busy {e : Engine} (h : e.session.active = true ∨ e.starting = true)
    (begun npcs : List String) : npcs.foldl pass (begun, e) = (begun, e) := by
  refine npcs.foldlRecOn (motive := (· = (begun, e))) pass rfl ?_
  rintro acc rfl npcId -
  rw [pass, begin_of_busy h]

theorem converseAll_of_busy {e : Engine} (h : e.session.active = true ∨ e.starting = true)
    (npcs : List String) : converseAll w npcs e = (.ok (), e) := by
  rw [converseAll_eq, foldl_pass_of_busy h]
  rfl

/-- Of starts made at once on a free engine only the first does anything. -/
theorem converseAll_of_free {e : Engine} (hactive : e.session.active = false)
    (hstarting : e.starting = false) (npcId : String) (rest : List String) :
    converseAll w (npcId :: rest) e = converse w npcId .null e := by
  have hpass : pass ([], e) npcId = ([npcId], e.begun) := by
    rw [pass, begin_of_free hactive hstarting]
    rfl
  rw [converseAll_eq, List.foldl_cons, hpass, foldl_pass_of_busy (.inr rfl), converse,
    begin_of_free hactive hstarting]
  simp only [List.foldl_cons, List.foldl_nil, goOn]
  cases finish w npcId .null e.begun with
  | mk r e' => cases r <;> rfl

end Engine
end Parley
