import Parley.Proofs.Conversation.Keeping
import Parley.Proofs.Conversation.Shape
import Parley.Proofs.Dialogue.Resolution
import Parley.Web.Handlers

/-!
# Previews of conversations

A preview resolves a document by itself, without an engine. It shows the lines that a conversation
on the same inventory is opened with, and the actions that wait in it. If it shows no lines, there is
no conversation, and nothing waits: then the actions that a preview shows are never queued.
-/

namespace Parley

variable {τ : Type} [Translation τ] {w : Surroundings τ}

theorem Document.preview_eq (d : Document) (inventory : Option Snapshot) :
    d.preview inventory = d.resolveOn inventory := by
  have hoffers : (Stock.ofService ⟨inventory.getD ⟨[], []⟩, 0, 0, 0⟩).Offers
      (.constant (if inventory.isSome then .stored else .nothing) false) inventory := by
    cases inventory <;> exact fun _ => rfl
  exact (d.resolve_eq hoffers).1

namespace Engine

/-- The second engine has the session of the first, but a line of it may have been shown since. -/
def Shows (e e' : Engine) : Prop := ∃ shown, e'.session = { e.session with shown }

instance : IsPreorder Engine Shows where
  refl e := ⟨e.session.shown, rfl⟩
  trans := by
    rintro e e' e'' ⟨shown, h⟩ ⟨shown', h'⟩
    exact ⟨shown', by rw [h', h]⟩

omit [Translation τ] in
theorem shows_call (c : ViewCall) : Play.Rel Shows (call w c) := by
  intro e
  refine ⟨e.session.shown, ?_⟩
  unfold call
  dsimp only
  split <;> rfl

/-- However the view takes it, a session stays as it was opened. -/
theorem shows_present : Play.Rel Shows (present w) :=
  .present (fun _ => shows_call _)
    (.renderCurrent (shows_call _) (fun _ => shows_call _) fun _ => ⟨true, rfl⟩)

/-- A start on a document opens a session on what the document resolves to, whatever fails after
that; without lines it leaves all but the stock as it was. -/
theorem session_converse {e : Engine} (h : e.Fresh) {npcId : String} {d : Document}
    (hdocument : w.document npcId = .ok (some d)) (npcName : Json) :
    ((d.resolve w.supply e.stock).1.lines = [] →
      (converse w npcId npcName e).2.session = .idle ∧
        (converse w npcId npcName e).2.viewCalls = e.viewCalls) ∧
    ((d.resolve w.supply e.stock).1.lines ≠ [] → ∃ shown,
      (converse w npcId npcName e).2.session =
        { Session.opened npcId npcName (d.resolve w.supply e.stock).1 with shown }) := by
  rw [converse_of_free (by rw [h.session]; rfl) h.starting, hdocument]
  dsimp only
  constructor
  · intro hlines
    rw [if_pos hlines]
    exact ⟨h.session, rfl⟩
  · intro hlines
    rw [if_neg hlines]
    exact shows_present _

/-- A preview of a document with an inventory shows the lines of the session that a start on the
document leaves behind, where every fetch brings that inventory; if it shows any, it shows the
actions that wait there, and if not, none wait. It shows no lines exactly if the start leaves the
engine idle and the view sees nothing of it. -/
theorem preview_shows_session {npcId : String} {d : Document}
    (hdocument : w.document npcId = .ok (some d)) {payload : Json} {inventory : Option Snapshot}
    (hpayload : Snapshot.ofJson payload = .ok inventory) {e : Engine} (hfresh : e.Fresh)
    (hempty : e.stock.cache = none)
    (hservice : ∀ n, inventory = if w.supply.fetch n = .stored then some e.stock.service.stored
      else none) (npcName : Json) :
    let e' := (converse w npcId npcName e).2
    ∃ lines actions,
      (Snapshot.ofJson payload).map (Web.previewJson d) =
        .ok (.obj [("id", .str d.id), ("lines", .arr lines), ("actions", .arr actions)]) ∧
      lines = e'.session.lines.map Line.toJson ∧
      (lines ≠ [] → actions = e'.session.pending.map Action.toJson) ∧
      (lines = [] → e'.session.pending = []) ∧
      (lines = [] ↔ e'.session = .idle ∧ e'.viewCalls = e.viewCalls) := by
  intro e'
  have hoffers : e.stock.Offers w.supply inventory := by
    unfold Stock.Offers
    rw [hempty]
    exact hservice
  have hresolve : (d.resolve w.supply e.stock).1 = d.preview inventory :=
    (d.resolve_eq hoffers).1.trans (d.preview_eq inventory).symm
  obtain ⟨hsilent, hopens⟩ := session_converse hfresh hdocument npcName
  rw [hresolve] at hsilent hopens
  refine ⟨(d.preview inventory).lines.map Line.toJson,
    (d.preview inventory).actions.map Action.toJson, by rw [hpayload]; rfl, ?_⟩
  rw [Ne, List.map_eq_nil_iff]
  by_cases hlines : (d.preview inventory).lines = []
  · obtain ⟨hidle, hcalls⟩ := hsilent hlines
    have hsession : e'.session = .idle := hidle
    rw [hsession, hlines]
    exact ⟨rfl, fun h => absurd rfl h, fun _ => rfl, iff_of_true rfl ⟨rfl, hcalls⟩⟩
  · obtain ⟨shown, hopened⟩ := hopens hlines
    have hsession : e'.session =
      { Session.opened npcId npcName (d.preview inventory) with shown } := hopened
    rw [hsession]
    refine ⟨?_, fun _ => rfl, fun h => absurd h hlines, iff_of_false hlines ?_⟩
    · simp only [Session.opened, Line.copyList_eq]
    · rintro ⟨hidle, -⟩
      exact Bool.false_ne_true (congrArg Session.active hidle).symm

/-- A gate that opens for a key, and takes no more notice of who has passed it. -/
def keyGate : Document where
  id := "gate"
  lines := some [.said "Halt." none]
  forks := some [
    ⟨[.hasItem "pass" false], [], some [.giveItem "blessing" none true]⟩,
    ⟨[.hasItem "key" false], [.said "Go on." none], none⟩]
  actions := some [.giveItem "map" none true]

def pocket (item : String) : Json :=
  .obj [("slots", .arr [.obj [("itemId", .str item), ("count", .num 1)]])]

/-- An engine over a service with one item. -/
def bearer (item : String) : Engine := start ⟨⟨[⟨.str item, 1⟩], []⟩, 0, 0, 0⟩

theorem preview_keyGate :
    let e := (converse (World.plain keyGate) "gate" .null (bearer "key")).2
    (Snapshot.ofJson (pocket "key")).map (Web.previewJson keyGate) =
        .ok (.obj [("id", .str "gate"), ("lines", .arr (e.session.lines.map Line.toJson)),
          ("actions", .arr (e.session.pending.map Action.toJson))]) ∧
      e.session ≠ .idle := by
  intro e
  have hfresh : (bearer "key").Fresh := fresh_start _
  have hdocument : (World.plain keyGate).document "gate" = .ok (some keyGate) := rfl
  have hpayload : Snapshot.ofJson (pocket "key") =
      .ok (some (bearer "key").stock.service.stored) := rfl
  obtain ⟨lines, actions, hpreview, hlines, hactions, -, hidle⟩ :=
    preview_shows_session hdocument hpayload hfresh rfl (fun _ => rfl) .null
  have hsome : lines ≠ [] := by
    rw [hlines]
    exact List.cons_ne_nil _ _
  constructor
  · rw [hpreview, hactions hsome, hlines]
    rfl
  · intro hnone
    exact hsome (hidle.mpr ⟨hnone, absurd (congrArg Session.active hnone) (by decide)⟩)

/-- Who has passed the gate already finds nobody there. The preview shows the gift of the fork that
was chosen, but it waits in no session. -/
theorem preview_gift_of_silence :
    (∃ gift, (Snapshot.ofJson (pocket "pass")).map (Web.previewJson keyGate) =
        .ok (.obj [("id", .str "gate"), ("lines", .arr []), ("actions", .arr [gift])])) ∧
      (converse (World.plain keyGate) "gate" .null (bearer "pass")).2.session.pending = [] :=
  ⟨⟨_, rfl⟩, rfl⟩

end Engine
end Parley
