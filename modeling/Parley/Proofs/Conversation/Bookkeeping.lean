import Parley.Proofs.Conversation.Calls
import Parley.Proofs.Conversation.Keeping
import Parley.Proofs.Dialogue.ActionsWithin
import Parley.Proofs.Inventory.Ledger

/-!
# The ledger of an engine

Whatever happens to an engine, and whatever fails meanwhile, its ledger moves by the steps of
resolving and executing actions, as long as nobody else publishes inventories. The actions that it
may execute are those within the documents that it was given: they are within the lines of its
session or wait there.
-/

namespace Parley

def Event.written? : Event → Option (List Slot)
  | .write slots => some slots
  | _ => none

/-- All actions of the session, those within its lines and those that wait, are as `P` tells. -/
structure Session.Within (P : Action → Prop) (s : Session) : Prop where
  lines : ∀ a ∈ Line.allWithin s.lines, P a
  pending : ∀ a ∈ s.pending, P a

/-- All actions within the documents are as `P` tells. -/
def Surroundings.Within {τ : Type} (P : Action → Prop) (w : Surroundings τ) : Prop :=
  ∀ npcId d, w.document npcId = .ok (some d) → ∀ a ∈ d.actionsWithin, P a

theorem Session.within_idle {P : Action → Prop} : Session.idle.Within P := ⟨nofun, nofun⟩

namespace Engine

def written (e : Engine) : List (List Slot) := e.events.filterMap Event.written?

def ledger (e : Engine) : Ledger := ⟨e.stock, e.written⟩

def Quiet (e : Engine) : Prop := ∀ r ∈ e.bus.registrations, ∀ news, r.2 ≠ .relay news

theorem ledger_record {event : Event} (h : event.written? = none) (e : Engine) :
    (e.record event).ledger = e.ledger := by
  simp [ledger, written, record, List.filterMap_append, h]

/-- On quiet listeners the inventory that the engine knows makes no impression. -/
theorem dispatch_known {hs : List Listener} (hquiet : ∀ l ∈ hs, ∀ news, l ≠ .relay news)
    {inventory : Snapshot} {e : Engine} (hknown : e.stock.cache = some inventory) :
    (Bus.dispatch (hear (some inventory)) hs e).bus = e.bus ∧
      (Bus.dispatch (hear (some inventory)) hs e).ledger = e.ledger := by
  induction hs generalizing e with
  | nil => exact ⟨rfl, rfl⟩
  | cons l rest ih =>
    have hrest : ∀ l ∈ rest, ∀ news, l ≠ .relay news :=
      fun l hl => hquiet l (List.mem_cons_of_mem _ hl)
    cases l with
    | manager =>
      have hsame : (hear (some inventory) .manager e).2 = e := by
        obtain ⟨session, starting, ⟨service, cache⟩, bus, requests, events⟩ := e
        cases hknown
        rfl
      have hboth := ih hrest hknown
      rw [← hsame] at hboth
      exact hsame ▸ hboth
    | recorder =>
      have hheard : (hear (some inventory) .recorder e).2 =
        e.record (.broadcast (some inventory)) := rfl
      obtain ⟨hbus, hledger⟩ := ih (e := e.record (.broadcast (some inventory))) hrest hknown
      exact ⟨hbus, hledger.trans (ledger_record rfl e)⟩
    | relay news => exact absurd rfl (hquiet _ List.mem_cons_self news)

theorem site_keeps : site.Keeps Quiet ledger where
  stock _ := rfl
  setStock _ _ hquiet := ⟨hquiet, rfl⟩
  write e slots hquiet := by
    refine ⟨hquiet, ?_⟩
    simp [site, ledger, written, record, List.filterMap_append, Event.written?]
  broadcast e inventory hquiet hknown := by
    have hhandlers : ∀ l ∈ e.bus.handlers .inventory, ∀ news, l ≠ .relay news := by
      intro l hl
      obtain ⟨r, hr, rfl⟩ := List.mem_map.mp hl
      exact hquiet r (List.mem_filter.mp hr).1
    obtain ⟨hbus, hledger⟩ := dispatch_known hhandlers hknown
    refine ⟨?_, hledger⟩
    intro r hr
    exact hquiet r (hbus ▸ hr)

variable {P : Action → Prop}

/-- From a quiet engine with actions as `P` tells, the second engine is such an engine again, and
the ledger has moved by steps with such actions. -/
def Follows (P : Action → Prop) (e e' : Engine) : Prop :=
  e.Quiet → e.session.Within P →
    e'.Quiet ∧ e'.session.Within P ∧ Ledger.Steps P e.ledger e'.ledger

namespace Follows

theorem refl (e : Engine) : Follows P e e := fun hquiet hwithin => ⟨hquiet, hwithin, .refl⟩

theorem trans {e e' e'' : Engine} (h : Follows P e e') (h' : Follows P e' e'') :
    Follows P e e'' := by
  intro hquiet hwithin
  obtain ⟨hquiet', hwithin', hsteps⟩ := h hquiet hwithin
  obtain ⟨hquiet'', hwithin'', hsteps'⟩ := h' hquiet' hwithin'
  exact ⟨hquiet'', hwithin'', hsteps.trans hsteps'⟩

theorem of_ledger_eq {e e' : Engine} (hbus : e'.bus = e.bus) (hledger : e'.ledger = e.ledger)
    (hwithin : e.session.Within P → e'.session.Within P) : Follows P e e' := by
  intro hquiet hbefore
  refine ⟨?_, hwithin hbefore, hledger ▸ .refl⟩
  intro r hr
  exact hquiet r (hbus ▸ hr)

end Follows

instance : IsPreorder Engine (Follows P) where
  refl := Follows.refl
  trans _ _ _ := Follows.trans

variable {τ : Type} {w : Surroundings τ}

theorem rel_call (c : ViewCall) : Play.Rel (Follows P) (call w c) := by
  intro e
  have hrecorded : Follows P e (e.record (.view c)) := .of_ledger_eq rfl (ledger_record rfl e) id
  unfold call
  dsimp only
  split <;> exact hrecorded

theorem rel_teardown : Play.Rel (Follows P) (teardown w) :=
  .teardown (rel_call _) (fun _ => rel_call _) fun _ =>
    .of_ledger_eq rfl rfl fun _ => Session.within_idle

theorem rel_executeActions {supply : Supply} {actions : List Action} (hP : ∀ a ∈ actions, P a) :
    Play.Rel (Follows P) (executeActions supply actions) := by
  intro e hquiet hwithin
  obtain ⟨hquiet', hsteps⟩ := site_keeps.execute supply hP hquiet
  have hkept := offstage_executeActions supply actions e
  exact ⟨hquiet', hkept.session ▸ hwithin, hsteps⟩

theorem rel_conclude {actions : List Action} (hP : ∀ a ∈ actions, P a) :
    Play.Rel (Follows P) (conclude (executeActions w.supply) w actions) :=
  .bind (rel_call _) fun _ =>
    .followedBy (rel_executeActions hP) rel_teardown

theorem rel_openSession (hw : w.Within P) (npcId : String) (npcName : Json) :
    Play.Rel (Follows P) (openSession w npcId npcName) := by
  intro e
  unfold openSession
  split
  · exact .refl e
  · exact .refl e
  · rename_i d hd
    have hresolved := d.steps_resolve (P := P) w.supply e.stock e.written
    dsimp only
    split
    · exact fun hquiet hwithin => ⟨hquiet, hwithin, hresolved⟩
    · intro hquiet _
      have hwithin : ∀ a ∈ (d.resolve w.supply e.stock).1.actionsWithin, P a :=
        fun a ha => hw npcId d hd a (Document.mem_of_resolve ha)
      refine ⟨hquiet, ⟨?_, ?_⟩, hresolved⟩
      · intro a ha
        rw [Session.opened, Line.copyList_eq] at ha
        exact hwithin a (List.mem_append_right _ ha)
      · intro a ha
        exact hwithin a (List.mem_append_left _ ha)

variable [Translation τ]

theorem rel_renderCurrent : Play.Rel (Follows P) (renderCurrent w) :=
  .renderCurrent (rel_call _) (fun _ => rel_call _) fun _ =>
    .of_ledger_eq rfl rfl fun h => ⟨h.lines, h.pending⟩

theorem rel_present : Play.Rel (Follows P) (present w) :=
  .present (fun _ => rel_call _) rel_renderCurrent

theorem rel_finish (hw : w.Within P) (npcId : String) (npcName : Json) :
    Play.Rel (Follows P) (finish w npcId npcName) := by
  have hfree : Play.Rel (Follows P) (Play.modify fun e => { e with starting := false }) :=
    fun e => .of_ledger_eq rfl rfl id
  refine .bind (.followedBy (rel_openSession hw npcId npcName) hfree)
    fun opened => ?_
  split
  · exact rel_present
  · exact .pure _

theorem follows_begin (e : Engine) : Follows P e e.begin.2 := by
  unfold begin
  split
  · exact .refl e
  · exact .of_ledger_eq rfl rfl id

theorem rel_converse (hw : w.Within P) (npcId : String) (npcName : Json) :
    Play.Rel (Follows P) (converse w npcId npcName) := by
  intro e
  have hbegun := follows_begin (P := P) e
  unfold converse
  split
  · rename_i h
    rwa [h] at hbegun
  · rename_i h
    rw [h] at hbegun
    exact hbegun.trans (rel_finish hw npcId npcName _)

theorem rel_advance : Play.Rel (Follows P) (advance w) := by
  refine .advance ?_ rel_renderCurrent rel_teardown ?_
  · exact fun e _ _ => .of_ledger_eq rfl rfl fun h => ⟨h.lines, h.pending⟩
  · exact fun e hquiet hwithin => rel_conclude hwithin.pending e hquiet hwithin

/-- The choice of an id on the line on screen is a choice of a line of the session. -/
theorem mem_of_offered {e : Engine} {id : String} {l : Line} {choice : Choice}
    (h : e.offered id = some (l, choice)) :
    l ∈ e.session.lines ∧ choice ∈ l.options.getD [] := by
  obtain ⟨-, hl, hchoice⟩ := of_offered h
  refine ⟨?_, List.mem_of_find?_eq_some hchoice⟩
  unfold Session.current? at hl
  split at hl
  · exact List.mem_of_getElem? hl
  · cases hl

/-- A line behind a choice that was taken was there before, or it is the answer, or the choice
resolves to it. -/
theorem mem_lines_answered {supply : Supply} {e : Engine} {l l' : Line} {choice : Choice}
    {text : String} (h : l' ∈ (e.answered supply l choice text).session.lines) :
    l' ∈ e.session.lines ∨ l' = l.answered text ∨
      l' ∈ (choice.resolve supply e.stock).1.lines := by
  simp only [answered, spliceAfter, List.mem_append] at h
  rcases h with (h | h) | h
  · exact (List.mem_or_eq_of_mem_set (List.mem_of_mem_take h)).imp_right .inl
  · exact .inr (.inr h)
  · exact (List.mem_or_eq_of_mem_set (List.mem_of_mem_drop h)).imp_right .inl

theorem follows_answered {supply : Supply} {e : Engine} {id : String} {l : Line} {choice : Choice}
    (h : e.offered id = some (l, choice)) (text : String) :
    Follows P e (e.answered supply l choice text) := by
  intro hquiet hwithin
  obtain ⟨hl, hchoice⟩ := mem_of_offered h
  have hlines := hwithin.lines
  simp only [Line.allWithin_eq_flatMap, List.mem_flatMap] at hlines
  have hresolved : ∀ a ∈ (choice.resolve supply e.stock).1.actionsWithin, P a := by
    intro a ha
    refine hlines a ⟨l, hl, ?_⟩
    rw [l.actionsWithin_eq, Choice.allWithin_eq_flatMap]
    exact List.mem_flatMap.mpr ⟨choice, hchoice, Choice.mem_of_resolve ha⟩
  refine ⟨hquiet, ⟨?_, ?_⟩, choice.steps_resolve supply e.stock e.written⟩
  · intro a ha
    rw [Line.allWithin_eq_flatMap] at ha
    obtain ⟨l', hl', ha⟩ := List.mem_flatMap.mp ha
    rcases mem_lines_answered hl' with hl' | rfl | hl'
    · exact hlines a ⟨l', hl', ha⟩
    · -- The answer itself has no choices, so no actions are within it.
      rw [Line.actionsWithin_eq] at ha
      cases ha
    · apply hresolved
      rw [Resolution.actionsWithin, Line.allWithin_eq_flatMap]
      exact List.mem_append_right _ (List.mem_flatMap.mpr ⟨l', hl', ha⟩)
  · intro a ha
    rcases List.mem_append.mp ha with ha | ha
    · exact hwithin.pending a ha
    · exact hresolved a (List.mem_append_left _ ha)

theorem rel_select (id : String) : Play.Rel (Follows P) (select w id) :=
  .select (fun _ _ _ text hoffered => follows_answered hoffered text) rel_renderCurrent

theorem follows_interact (hw : w.Within P) (npcId : String) (npcName : Json) (e : Engine) :
    Follows P e (interact w npcId npcName e) := by
  refine Bus.dispatch_rel .refl .trans ?_ _ e
  intro l e
  cases l with
  | manager =>
    simp only [hearInteraction]
    split
    · exact .refl e
    · exact rel_converse hw npcId npcName e
  | recorder => exact .refl e
  | relay news => exact .refl e

theorem follows_destroy (e : Engine) : Follows P e e.destroy := by
  intro hquiet hwithin
  refine ⟨?_, hwithin, .refl⟩
  intro r hr
  exact hquiet r (List.mem_filter.mp hr).1

theorem follows_pass (acc : List String × Engine) (npcId : String) :
    Follows P acc.2 (pass acc npcId).2 := by
  have hbegun := follows_begin (P := P) acc.2
  unfold pass
  split <;> rename_i h <;> rwa [h] at hbegun

theorem follows_goOn (hw : w.Within P) (acc : Except Fault Unit × Engine) (npcId : String) :
    Follows P acc.2 (goOn w acc npcId).2 := by
  have hfinished := rel_finish hw npcId .null acc.2
  unfold goOn
  split <;> rename_i h <;> rwa [h] at hfinished

/-- Several starts at once: some pass the guard, and then those go on. -/
theorem rel_converseAll (hw : w.Within P) (npcs : List String) :
    Play.Rel (Follows P) (converseAll w npcs) := by
  intro e
  have hpassed : Follows P e (npcs.foldl pass ([], e)).2 :=
    npcs.foldlRecOn (motive := fun acc => Follows P e acc.2) pass (.refl e)
      fun acc h npcId _ => h.trans (follows_pass acc npcId)
  rw [converseAll_eq]
  refine List.foldlRecOn (motive := fun acc => Follows P e acc.2) _ (goOn w) ?_ ?_
  · exact hpassed
  · exact fun acc h npcId _ => h.trans (follows_goOn hw acc npcId)

theorem follows_perform (hw : w.Within P) {c : Call}
    (hnews : ∀ inventory, c ≠ .turn (.news inventory)) (e : Engine) : Follows P e (c.perform w e) := by
  cases c with
  | start npcId npcName => exact rel_converse hw npcId npcName e
  | turn t =>
    cases t with
    | advance => exact rel_advance e
    | select id => exact rel_select id e
    | news inventory => exact absurd rfl (hnews inventory)
  | interact npcId npcName => exact follows_interact hw npcId npcName e
  | destroy => exact follows_destroy e

end Engine

/-- What may happen to an engine and to the inventory service beside it: a call, several starts at
once, somebody who notes inventories begins to listen, or the player equips an item. -/
inductive Deed where
  | call (c : Call)
  | together (npcs : List String)
  | listen
  | equip (name : String) (item : Json)

namespace Deed

/-- Somebody else publishes an inventory. -/
def IsNews (d : Deed) : Prop := ∃ inventory, d = .call (.turn (.news inventory))

def IsEquip (d : Deed) : Prop := ∃ name item, d = .equip name item

variable {τ : Type} [Translation τ]

/-- The engine after a deed, whatever the outcome of the deed. -/
def perform (w : Surroundings τ) (e : Engine) : Deed → Engine
  | .call c => c.perform w e
  | .together npcs => (Engine.converseAll w npcs e).2
  | .listen => e.addListener .recorder
  | .equip name item =>
    { e with stock := { e.stock with service := e.stock.service.equip name item } }

end Deed

namespace Engine

variable {τ : Type} [Translation τ]

def afterDeeds (steps : List (Surroundings τ × Deed)) (e : Engine) : Engine :=
  steps.foldl (fun e step => step.2.perform step.1 e) e

theorem quiet_start (service : Service) : (start service).Quiet := by
  intro r hr
  simp only [start, Bus.subscribe, Bus.empty, List.nil_append, List.mem_append,
    List.mem_singleton] at hr
  rcases hr with rfl | rfl <;> exact nofun

theorem quiet_addListener {e : Engine} (h : e.Quiet) : (e.addListener .recorder).Quiet := by
  intro r hr
  rcases List.mem_append.mp hr with hr | hr
  · exact h r hr
  · obtain rfl := List.mem_singleton.mp hr
    exact nofun

theorem follows_deed {P : Action → Prop} {w : Surroundings τ} (hw : w.Within P) {d : Deed}
    (hnews : ¬ d.IsNews) (hequip : ¬ d.IsEquip) (e : Engine) : Follows P e (d.perform w e) := by
  cases d with
  | call c => exact follows_perform hw (fun inventory h => hnews ⟨inventory, h ▸ rfl⟩) e
  | together npcs => exact rel_converseAll hw npcs e
  | listen => exact fun hquiet hwithin => ⟨quiet_addListener hquiet, hwithin, .refl⟩
  | equip name item => exact absurd ⟨name, item, rfl⟩ hequip

end Engine
end Parley
