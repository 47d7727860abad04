import Parley.Proofs.Conversation.Ending
import Parley.Proofs.Conversation.Keys
import Parley.Proofs.Conversation.Repertoire
import Parley.Proofs.Inventory.Granting
import Parley.Validation.Report

/-!
# Operations without faults

While the view takes every call and inventories can be written, nothing that was loaded makes an
operation of an engine fail but what it comes to show: a line that the translator fails at, or a
character that the view cannot be told the place of. For a catalogue this comes down to the keys of
the lines on screen.
-/

namespace Parley

/-- What may be asked of an engine. -/
inductive Operation where
  | start (npcId : String) (npcName : Json)
  | advance
  | select (id : String)

variable {τ : Type} [Translation τ]

def Operation.play (w : Surroundings τ) : Operation → Play Unit
  | .start npcId npcName => Engine.converse w npcId npcName
  | .advance => Engine.advance w
  | .select id => Engine.select w id

def Operation.call : Operation → Call
  | .start npcId npcName => .start npcId npcName
  | .advance => .turn .advance
  | .select id => .turn (.select id)

theorem Operation.perform_call (w : Surroundings τ) (op : Operation) (e : Engine) :
    op.call.perform w e = (op.play w e).2 := by
  cases op <;> rfl

/-- Operations one after another: the outcome of each and the engine after it. -/
def Engine.attempts (w : Surroundings τ) :
    List Operation → Engine → List (Except Fault Unit × Engine)
  | [], _ => []
  | op :: ops, e => op.play w e :: attempts w ops (op.play w e).2

/-- The view can be told where to look, and the line on screen can be translated. -/
structure Session.Clear (w : Surroundings τ) (s : Session) : Prop where
  seen : s.active = true → ∃ point, Engine.focus w s = .ok point
  told : w.Answers s

theorem Session.clear_idle (w : Surroundings τ) : Session.idle.Clear w := ⟨nofun, nofun⟩

namespace Engine

variable {w : Surroundings τ} {e : Engine}

theorem answers_withShown (s : Session) (shown : Bool) :
    w.Answers { s with shown } ↔ w.Answers s := by
  have hsame : renderLine w { s with shown } = renderLine w s := renderLine_congr rfl rfl
  unfold Surroundings.Answers
  rw [hsame]
  rfl

/-- Where the view can be told to look, a line is shown without a fault if and only if it leaves the
session clear. -/
theorem renderCurrent_ok_iff (hw : w.ViewWorks) (h : e.session.Running)
    (hseen : ∃ point, focus w e.session = .ok point) :
    (renderCurrent w e).1 = .ok () ↔ (renderCurrent w e).2.session.Clear w := by
  obtain ⟨l, hcurrent⟩ := h.current
  obtain ⟨⟨shown, hshown⟩, -⟩ := renderCurrent_keeps hw e
  have hclear : (renderCurrent w e).2.session.Clear w ↔ w.Answers e.session := by
    rw [hshown]
    constructor
    · exact fun hclear => (answers_withShown _ _).mp hclear.told
    · exact fun hanswers => ⟨fun _ => hseen, (answers_withShown _ _).mpr hanswers⟩
  rw [hclear, renderCurrent_eq hw, hcurrent]
  dsimp only
  constructor
  · intro hok l' hcurrent'
    obtain rfl := Option.some.inj (hcurrent.symm.trans hcurrent')
    cases hrendered : renderLine w e.session l with
    | error fault => rw [hrendered] at hok; cases hok
    | ok r => exact ⟨r, rfl⟩
  · intro hanswers
    obtain ⟨r, hr⟩ := hanswers l hcurrent
    rw [hr]

/-- An engine between operations, all of whose actions can be executed. -/
structure Ready (e : Engine) : Prop where
  shape : ∃ who, Shape who e
  quiet : e.Quiet
  grantable : e.session.Within Action.Grantable

theorem ready_start (service : Service) : (start service).Ready :=
  ⟨⟨none, .idle rfl rfl⟩, quiet_start service, Session.within_idle⟩

/-- Operations keep an engine ready, whatever their outcome. -/
theorem Ready.attempt (hw : w.ViewWorks) (hgrantable : w.Within Action.Grantable) (h : e.Ready)
    (op : Operation) : (op.play w e).2.Ready := by
  obtain ⟨who, hshape⟩ := h.shape
  have hnews : ∀ inventory, op.call ≠ .turn (.news inventory) := by
    cases op <;> exact fun _ => nofun
  have hnext := hshape.step (acts_perform hw hshape.sound hshape.starting op.call)
  obtain ⟨hquiet, hwithin, -⟩ := follows_perform hgrantable hnews e h.quiet h.grantable
  rw [op.perform_call] at hnext hquiet hwithin
  exact ⟨⟨_, hnext⟩, hquiet, hwithin⟩

theorem converse_ok_iff (hw : w.ViewWorks) (hdocuments : ∀ npcId, ∃ d, w.document npcId = .ok d)
    (h : e.Ready) (hclear : e.session.Clear w) (npcId : String) (npcName : Json) :
    (converse w npcId npcName e).1 = .ok () ↔ (converse w npcId npcName e).2.session.Clear w := by
  obtain ⟨who, hshape⟩ := h.shape
  cases hactive : e.session.active with
  | true =>
    rw [converse_of_busy (.inl hactive)]
    exact iff_of_true rfl hclear
  | false =>
    obtain ⟨document, hdocument⟩ := hdocuments npcId
    rw [converse_of_free hactive hshape.starting, hdocument]
    cases document with
    | none => exact iff_of_true rfl hclear
    | some d =>
      dsimp only
      by_cases hlines : (d.resolve w.supply e.stock).1.lines = []
      · rw [if_pos hlines]
        exact iff_of_true rfl hclear
      · rw [if_neg hlines, present_eq hw]
        dsimp only
        cases hfocus : focus w (.opened npcId npcName (d.resolve w.supply e.stock).1) with
        | error fault =>
          refine iff_of_false nofun fun hopened => ?_
          obtain ⟨point, hpoint⟩ := hopened.seen rfl
          rw [hfocus] at hpoint
          cases hpoint
        | ok point =>
          exact renderCurrent_ok_iff hw (Session.running_opened npcId npcName hlines)
            ⟨point, hfocus⟩

theorem advance_ok_iff (hw : w.ViewWorks) (hwrites : ∀ n, w.supply.writeFails n = false)
    (h : e.Ready) (hclear : e.session.Clear w) :
    (advance w e).1 = .ok () ↔ (advance w e).2.session.Clear w := by
  obtain ⟨who, hshape⟩ := h.shape
  cases hactive : e.session.active with
  | false =>
    rw [advance, advanceWith_of_idle hactive]
    exact iff_of_true rfl hclear
  | true =>
    have hrunning := hshape.sound.running hactive
    cases hlast : e.session.isLast with
    | false =>
      rw [advance, advanceWith_of_not_isLast hactive hrunning.lines_ne_nil hlast]
      exact renderCurrent_ok_iff hw (hrunning.next hlast) (hclear.seen hactive)
    | true =>
      rw [advance, advanceWith_of_isLast hactive hrunning.lines_ne_nil hlast]
      refine iff_of_true ?_ (session_conclude hw _ _ e ▸ Session.clear_idle w)
      rw [conclude_eq hw]
      exact site.execute_ok hwrites h.grantable.pending _

/-- The text of a choice is told while the line that offers it is, so a selection fails only at the
answer. -/
theorem select_ok_iff (hw : w.ViewWorks) (h : e.Ready) (hclear : e.session.Clear w) (id : String) :
    (select w id e).1 = .ok () ↔ (select w id e).2.session.Clear w := by
  obtain ⟨who, hshape⟩ := h.shape
  cases hoffered : e.offered id with
  | none =>
    rw [select_of_not_offered hoffered]
    exact iff_of_true rfl hclear
  | some p =>
    obtain ⟨l, choice⟩ := p
    obtain ⟨hactive, hcurrent, hfind⟩ := of_offered hoffered
    obtain ⟨shown, hshown⟩ := hclear.told l hcurrent
    rw [select_of_offered hoffered, localize_of_renderLine hshown (List.mem_of_find?_eq_some hfind)]
    exact renderCurrent_ok_iff hw
      (running_answered w.supply l choice _ (hshape.sound.running hactive)) (hclear.seen hactive)

/-- From a session that is clear, an operation has no fault if and only if it leads to one. -/
theorem attempt_ok_iff (hw : w.ViewWorks) (hwrites : ∀ n, w.supply.writeFails n = false)
    (hdocuments : ∀ npcId, ∃ d, w.document npcId = .ok d) (h : e.Ready)
    (hclear : e.session.Clear w) (op : Operation) :
    (op.play w e).1 = .ok () ↔ (op.play w e).2.session.Clear w := by
  cases op with
  | start npcId npcName => exact converse_ok_iff hw hdocuments h hclear npcId npcName
  | advance => exact advance_ok_iff hw hwrites h hclear
  | select id => exact select_ok_iff hw h hclear id

/-- No operation of a run has a fault if and only if every operation leaves the session clear. -/
theorem attempts_ok_iff (hw : w.ViewWorks) (hwrites : ∀ n, w.supply.writeFails n = false)
    (hdocuments : ∀ npcId, ∃ d, w.document npcId = .ok d) (hgrantable : w.Within Action.Grantable)
    (h : e.Ready) (hclear : e.session.Clear w) (ops : List Operation) :
    (∀ x ∈ attempts w ops e, x.1 = .ok ()) ↔ ∀ x ∈ attempts w ops e, x.2.session.Clear w := by
  induction ops generalizing e with
  | nil => simp [attempts]
  | cons op ops ih =>
    have hfirst := attempt_ok_iff hw hwrites hdocuments h hclear op
    rw [attempts, List.forall_mem_cons, List.forall_mem_cons, hfirst]
    exact and_congr_right fun hnext => ih (h.attempt hw hgrantable op) hnext

theorem Ready.throughout_attempt (hw : w.ViewWorks) {P : Line → Prop}
    (hP : ∀ l text, P l → P (l.answered text))
    (hlines : ∀ npcId d, w.document npcId = .ok (some d) → ∀ l ∈ d.linesWithin, P l)
    (hready : e.Ready) (h : e.session.Throughout P) (op : Operation) :
    (op.play w e).2.session.Throughout P := by
  obtain ⟨who, hshape⟩ := hready.shape
  -- Showing a line leaves the lines as they are.
  have hrendered : ∀ e' : Engine, e'.session.Throughout P →
      (renderCurrent w e').2.session.Throughout P := by
    intro e' h'
    obtain ⟨⟨shown, hshown⟩, -⟩ := renderCurrent_keeps hw e'
    exact hshown ▸ h'
  cases op with
  | start npcId npcName =>
    change (converse w npcId npcName e).2.session.Throughout P
    cases hactive : e.session.active with
    | true =>
      rw [converse_of_busy (.inl hactive)]
      exact h
    | false =>
      rw [converse_of_free hactive hshape.starting]
      split
      · exact h
      · exact h
      · rename_i d hd
        dsimp only
        split
        · exact h
        · obtain ⟨⟨shown, hshown⟩, -⟩ := present_keeps hw { e.asked with
            stock := (d.resolve w.supply e.stock).2
            session := .opened npcId npcName (d.resolve w.supply e.stock).1 }
          rw [hshown]
          exact Session.throughout_opened (hlines npcId d hd) npcId npcName w.supply e.stock
  | advance =>
    change (advance w e).2.session.Throughout P
    cases hactive : e.session.active with
    | false =>
      rw [advance, advanceWith_of_idle hactive]
      exact h
    | true =>
      have hsome := (hshape.sound.running hactive).lines_ne_nil
      cases hlast : e.session.isLast with
      | false =>
        rw [advance, advanceWith_of_not_isLast hactive hsome hlast]
        exact hrendered e.next h
      | true =>
        rw [advance, advanceWith_of_isLast hactive hsome hlast, session_conclude hw]
        exact Session.throughout_idle
  | select id =>
    change (select w id e).2.session.Throughout P
    cases hoffered : e.offered id with
    | none =>
      rw [select_of_not_offered hoffered]
      exact h
    | some p =>
      rw [select_of_offered hoffered]
      split
      · exact h
      · exact hrendered _ (throughout_answered hP hoffered h _)

/-- What is true of all lines within the documents is true of every line that comes on screen. -/
theorem Ready.current_of_attempts (hw : w.ViewWorks) (hgrantable : w.Within Action.Grantable)
    {P : Line → Prop} (hP : ∀ l text, P l → P (l.answered text))
    (hlines : ∀ npcId d, w.document npcId = .ok (some d) → ∀ l ∈ d.linesWithin, P l)
    (hready : e.Ready) (h : e.session.Throughout P) (ops : List Operation) :
    ∀ x ∈ attempts w ops e, ∀ l, x.2.session.current? = some l → P l := by
  induction ops generalizing e with
  | nil => simp [attempts]
  | cons op ops ih =>
    have hnext := hready.throughout_attempt hw hP hlines h op
    rw [attempts, List.forall_mem_cons]
    exact ⟨fun l hl => hnext.of_current hl, ih (hready.attempt hw hgrantable op) hnext⟩

/-- While inventories can be written, documents that were loaded make an operation fail only where
it opens a conversation that the view cannot be told the place of, or where it brings a line on
screen that has a key which is no text, with messages to look it up in. If all lines within the
documents have texts for keys, and the view can be told where everybody is, no operation fails. -/
theorem operations_ok_iff {w : World} {c : Catalogue} (htranslator : w.translator = .catalogue c)
    (hnamed : c.Named) (hw : w.ViewWorks) (hwrites : ∀ n, w.supply.writeFails n = false)
    (hdocuments : ∀ npcId, ∃ d, w.document npcId = .ok d)
    (hloaded : ∀ npcId d, w.document npcId = .ok (some d) → d.IsLoaded) (service : Service)
    (ops : List Operation) :
    let ran := attempts w ops (start service)
    ((∀ x ∈ ran, x.1 = .ok ()) ↔ ∀ x ∈ ran,
      (x.2.session.active = true → ∃ point, focus w x.2.session = .ok point) ∧
        ∀ l, x.2.session.current? = some l → c.Bare ∨ l.Keyed) ∧
    ((∀ s, ∃ point, focus w s = .ok point) →
      (∀ npcId d, w.document npcId = .ok (some d) → ∀ l ∈ d.linesWithin, c.Bare ∨ l.Keyed) →
      ∀ x ∈ ran, x.1 = .ok ()) := by
  intro ran
  have hgrantable : w.Within Action.Grantable := fun npcId d hd a ha =>
    ((hloaded npcId d hd).canonical.actionsWithin a ha).grantable
  have hclear : ∀ s : Session, s.Clear w ↔
      (s.active = true → ∃ point, focus w s = .ok point) ∧
        ∀ l, s.current? = some l → c.Bare ∨ l.Keyed := by
    intro s
    constructor
    · exact fun h => ⟨h.seen, fun l hl =>
        (renderLine_ok_iff htranslator hnamed s l).mp (h.told l hl)⟩
    · exact fun h => ⟨h.1, fun l hl =>
        (renderLine_ok_iff htranslator hnamed s l).mpr (h.2 l hl)⟩
  have hiff := attempts_ok_iff hw hwrites hdocuments hgrantable (ready_start service)
    (Session.clear_idle w) ops
  simp only [hclear] at hiff
  refine ⟨hiff, fun hfocus hkeyed => hiff.mpr fun x hx => ⟨fun _ => hfocus _, ?_⟩⟩
  exact (ready_start service).current_of_attempts hw hgrantable
    (fun l text h => h.imp_right (·.answered text)) hkeyed Session.throughout_idle ops x hx

def ferryText : Json :=
  .obj [("id", .str "ferry"),
    ("lines", .arr [.obj [("text", .str "Cross?"), ("textKey", .str "ferry.ask"),
      ("options", .arr [.obj [("id", .str "yes"), ("text", .str "Yes."),
        ("textKey", .str "ferry.yes")]])]]),
    ("actions", .arr [.obj [("type", .str "giveItem"), ("itemId", .str "ticket"),
      ("amount", .num 2)]])]

def ferry : Document where
  id := "ferry"
  lines := some [⟨.str "npc", "Cross?", .str "ferry.ask", .null, .null, .null,
    some [⟨"yes", "Yes.", .str "ferry.yes", none, none, none⟩], .null⟩]
  forks := none
  actions := some [.giveItem "ticket" (some 2) true]

/-- Some messages in one locale, and none in the one to fall back to. -/
def signs : Catalogue :=
  ⟨[("en", .obj [("ferry", .obj [("ask", .str "Shall we cross?")])])], .str "en", .str "fr"⟩

def harbour : World := { World.plain ferry with translator := .catalogue signs }

/-- The player crosses, and asks for more after the end. -/
def crossing : List Operation :=
  [.start "ferry" .null, .start "ferry" .null, .select "no", .select "yes", .advance, .advance]

theorem operations_crossing :
    (attempts harbour crossing (start (.ofItems [] 1 []))).map (·.1) =
      List.replicate 6 (.ok ()) := by
  have hnamed : signs.Named := ⟨⟨"en", rfl⟩, ⟨"fr", rfl⟩⟩
  have hloaded : ferry.IsLoaded := ⟨ferryText, "ferry", _, rfl, rfl⟩
  have hferry : ∀ npcId d, harbour.document npcId = .ok (some d) → d = ferry := by
    rintro npcId d ⟨⟩
    rfl
  have hkeyed : ∀ l ∈ ferry.linesWithin, signs.Bare ∨ l.Keyed := by
    intro l hl
    have hlines : ferry.linesWithin = ferry.lines.getD [] := rfl
    rw [hlines, ferry, Option.getD_some, List.mem_singleton] at hl
    subst hl
    refine .inr ⟨fun _ => ⟨_, rfl⟩, nofun, ?_⟩
    intro choice hchoice
    obtain rfl := List.mem_singleton.mp hchoice
    exact fun _ => ⟨_, rfl⟩
  obtain ⟨-, hok⟩ := operations_ok_iff (w := harbour) rfl hnamed (fun _ => rfl) (fun _ => rfl)
    (fun _ => ⟨_, rfl⟩) (fun npcId d hd => hferry npcId d hd ▸ hloaded) (.ofItems [] 1 []) crossing
  exact List.map_eq_replicate_iff.mpr
    (hok (fun _ => ⟨none, rfl⟩) fun npcId d hd => hferry npcId d hd ▸ hkeyed)

def numberedText : Json :=
  .obj [("id", .str "gate"),
    ("lines", .arr [.obj [("speaker", .str "npc"), ("text", .str "Halt."),
      ("options", .arr [.obj [("id", .str "go"), ("text", .str "Go on."), ("textKey", .num 5),
        ("lines", .arr [.obj [("text", .str "Pass.")]])]])]])]

/-- Validation finds nothing wrong with a number for a key, but the line cannot be shown. -/
theorem valid_numbered_and_converse_fails :
    (∃ v, Validation.ofValue numberedText "gate" = .ok v ∧ v.valid = true ∧
        v.warnings.isEmpty = true ∧ v.document = some numbered) ∧
      (converse outpost "gate" .null (start (.ofItems [] 1 []))).1 =
        .error (.noMember "int" "split") :=
  ⟨⟨_, rfl, rfl, rfl, rfl⟩, rfl⟩

end Engine
end Parley
