import Parley.Conversation.Engine

/-!
# Lines as they are shown

How a line is shown depends on the session only through its character. It fails only where the
translator fails: a translator that answers the keys of a line, and every text as a key, lets the
line be shown, and one that answers every key lets every line be shown.
-/

namespace Parley

variable {τ : Type} [Translation τ]

/-- The translator never fails. -/
structure Surroundings.Translates (w : Surroundings τ) : Prop where
  value : ∀ key v, ∃ m, Translation.translate w.translator key v = .ok m
  text : ∀ key t, ∃ m, Translation.translateText w.translator key t = .ok m

/-- The translator does not fail at a key. -/
structure Surroundings.Tells (w : Surroundings τ) (key : Json) : Prop where
  value : ∀ v, ∃ m, Translation.translate w.translator key v = .ok m
  text : ∀ t, ∃ m, Translation.translateText w.translator key t = .ok m

theorem Surroundings.Translates.tells {w : Surroundings τ} (h : w.Translates) (key : Json) :
    w.Tells key := ⟨h.value key, h.text key⟩

/-- The translator does not fail at a key of the line: that of its text, that of its name, and those
of its choices. -/
structure Surroundings.TellsLine (w : Surroundings τ) (l : Line) : Prop where
  text : l.textKey.truthy = true → w.Tells l.textKey
  name : l.nameKey.truthy = true → w.Tells l.nameKey
  choices : ∀ c ∈ l.options.getD [], c.textKey.truthy = true → w.Tells c.textKey

theorem Surroundings.Translates.tellsLine {w : Surroundings τ} (h : w.Translates) (l : Line) :
    w.TellsLine l := ⟨fun _ => h.tells _, fun _ => h.tells _, fun _ _ _ => h.tells _⟩

def Surroundings.Answers (w : Surroundings τ) (s : Session) : Prop :=
  ∀ l, s.current? = some l → ∃ shown, Engine.renderLine w s l = .ok shown

theorem World.translates_of_none {w : World} (h : w.translator = .none) : w.Translates := by
  constructor
  · intro key v
    rw [h]
    exact ⟨_, rfl⟩
  · intro key t
    rw [h]
    exact ⟨_, rfl⟩

namespace Engine

variable {w : Surroundings τ}

def replyText (w : Surroundings τ) (c : Choice) : String :=
  match localize w c.textKey c.text with
  | .ok text => text
  | .error _ => c.text

theorem renderLine_congr {s s' : Session} (hid : s'.npcId = s.npcId)
    (hname : s'.npcName = s.npcName) : renderLine w s' = renderLine w s := by
  have hposition : npcPosition w s' = npcPosition w s := by
    unfold npcPosition
    rw [hid]
  have hnpc : npcName w s' = npcName w s := by
    unfold npcName
    rw [hposition, hid, hname]
  funext l
  unfold renderLine speakerName
  rw [hnpc, hid]

theorem localize_of_renderOptions {cs : List Choice} {shown : List RenderOption}
    (h : renderOptions w cs = .ok shown) {c : Choice} (hc : c ∈ cs) :
    localize w c.textKey c.text = .ok (replyText w c) := by
  induction cs generalizing shown with
  | nil => cases hc
  | cons c' cs ih =>
    unfold renderOptions at h
    obtain ⟨text, htext, h⟩ := exists_of_bind_eq_ok h
    obtain ⟨others, hothers, -⟩ := exists_of_bind_eq_ok h
    rcases List.mem_cons.mp hc with rfl | hc
    · simp only [replyText, htext]
    · exact ih hothers hc

theorem localize_of_renderLine {s : Session} {l : Line} {shown : RenderLine}
    (h : renderLine w s l = .ok shown) {c : Choice} (hc : c ∈ l.options.getD []) :
    localize w c.textKey c.text = .ok (replyText w c) := by
  cases hoptions : l.options with
  | none => rw [hoptions] at hc; cases hc
  | some cs =>
    rw [hoptions] at hc
    cases hshown : renderOptions w cs with
    | error fault =>
      unfold renderLine at h
      rw [hoptions] at h
      simp only [hshown] at h
      cases h
    | ok others => exact localize_of_renderOptions hshown hc

/-- A line that is shown was told by the translator: its text, its name and its choices. -/
theorem of_renderLine {s : Session} {l : Line} {shown : RenderLine}
    (h : renderLine w s l = .ok shown) :
    (∃ text, localize w l.textKey l.text = .ok text) ∧
      (∃ name, speakerName w s l = .ok name) ∧
      ∀ c ∈ l.options.getD [], ∃ text, localize w c.textKey c.text = .ok text := by
  have hchoices : ∀ c ∈ l.options.getD [], ∃ text, localize w c.textKey c.text = .ok text :=
    fun c hc => ⟨_, localize_of_renderLine h hc⟩
  unfold renderLine at h
  dsimp only at h
  split at h
  all_goals
    obtain ⟨options, -, h⟩ := exists_of_bind_eq_ok h
    obtain ⟨name, hname, h⟩ := exists_of_bind_eq_ok h
    obtain ⟨text, htext, -⟩ := exists_of_bind_eq_ok h
    exact ⟨⟨text, htext⟩, ⟨name, hname⟩, hchoices⟩

theorem parts_of_renderLine {s : Session} {l : Line} {shown : RenderLine}
    (h : renderLine w s l = .ok shown) :
    speakerName w s l = .ok shown.name ∧ localize w l.textKey l.text = .ok shown.text ∧
      (match l.options with
        | some cs => (renderOptions w cs).map some
        | none => .ok none) = .ok shown.options := by
  unfold renderLine at h
  dsimp only at h
  cases hl : l.options with
  | none =>
    rw [hl] at h
    obtain ⟨options, hoptions, h⟩ := exists_of_bind_eq_ok h
    obtain ⟨name, hname, h⟩ := exists_of_bind_eq_ok h
    obtain ⟨text, htext, h⟩ := exists_of_bind_eq_ok h
    cases h
    exact ⟨hname, htext, hoptions⟩
  | some cs =>
    rw [hl] at h
    obtain ⟨options, hoptions, h⟩ := exists_of_bind_eq_ok h
    obtain ⟨name, hname, h⟩ := exists_of_bind_eq_ok h
    obtain ⟨text, htext, h⟩ := exists_of_bind_eq_ok h
    cases h
    exact ⟨hname, htext, hoptions⟩

theorem eq_map_of_renderOptions {cs : List Choice} {shown : List RenderOption}
    (h : renderOptions w cs = .ok shown) : shown = cs.map fun c => ⟨c.id, replyText w c⟩ := by
  induction cs generalizing shown with
  | nil =>
    cases h
    rfl
  | cons c cs ih =>
    have hreply := localize_of_renderOptions h List.mem_cons_self
    unfold renderOptions at h
    obtain ⟨text, htext, h⟩ := exists_of_bind_eq_ok h
    obtain ⟨others, hothers, h⟩ := exists_of_bind_eq_ok h
    obtain rfl := Except.ok.inj (htext.symm.trans hreply)
    cases h
    rw [List.map_cons, ih hothers]

/-- The choices of a line are shown with their ids and the texts that they are answered with. -/
theorem options_of_renderLine {s : Session} {l : Line} {shown : RenderLine}
    (h : renderLine w s l = .ok shown) :
    shown.options.getD [] = (l.options.getD []).map fun c => ⟨c.id, replyText w c⟩ := by
  obtain ⟨-, -, hoptions⟩ := parts_of_renderLine h
  cases hl : l.options with
  | none =>
    rw [hl] at hoptions
    rw [← Except.ok.inj hoptions]
    rfl
  | some cs =>
    rw [hl] at hoptions
    dsimp only at hoptions
    cases hcs : renderOptions w cs with
    | error fault =>
      rw [hcs] at hoptions
      cases hoptions
    | ok rendered =>
      rw [hcs] at hoptions
      rw [← Except.ok.inj hoptions]
      exact eq_map_of_renderOptions hcs

theorem exists_localize {key : Json} (h : key.truthy = true → w.Tells key) (text : String) :
    ∃ shown, localize w key text = .ok shown := by
  unfold localize
  split
  · rename_i hkey
    exact (h hkey).text text
  · exact ⟨text, rfl⟩

theorem exists_renderOptions {cs : List Choice}
    (h : ∀ c ∈ cs, c.textKey.truthy = true → w.Tells c.textKey) :
    ∃ shown, renderOptions w cs = .ok shown := by
  induction cs with
  | nil => exact ⟨[], rfl⟩
  | cons c cs ih =>
    obtain ⟨text, htext⟩ := exists_localize (h c List.mem_cons_self) c.text
    obtain ⟨others, hothers⟩ := ih fun c hc => h c (List.mem_cons_of_mem _ hc)
    exact ⟨⟨c.id, text⟩ :: others, by rw [renderOptions, htext, hothers]; rfl⟩

theorem exists_npcName (h : ∀ s : String, w.Tells (.str s)) (s : Session) :
    ∃ name, npcName w s = .ok name := by
  unfold npcName
  dsimp only
  generalize s.npcName.orElse _ = given
  have hrest : ∀ (id : String) (name : Json), ∃ m, (if id == "" then pure name
      else Translation.translate w.translator (.str ("npc." ++ id ++ ".name")) name :
        Except Fault Json) = .ok m := by
    intro id name
    split
    · exact ⟨name, rfl⟩
    · exact (h _).value _
  cases s.npcId with
  | none =>
    split
    · exact ⟨given, rfl⟩
    · exact exists_ok_bind ((h _).value _) fun name => ⟨name, rfl⟩
  | some id =>
    split
    · exact hrest id given
    · exact exists_ok_bind ((h _).value _) (hrest id)

theorem exists_speakerName (h : ∀ s : String, w.Tells (.str s)) (s : Session) {l : Line}
    (hname : l.nameKey.truthy = true → w.Tells l.nameKey) :
    ∃ name, speakerName w s l = .ok name := by
  have hrest : ∀ usual : Json, ∃ m, (if l.nameKey.truthy then
      Translation.translate w.translator l.nameKey (l.name.orElse usual)
      else pure (l.name.orElse usual) : Except Fault Json) = .ok m := by
    intro usual
    split
    · rename_i hkey
      exact (hname hkey).value _
    · exact ⟨_, rfl⟩
  unfold speakerName
  dsimp only
  split
  · exact exists_ok_bind (exists_npcName h s) hrest
  · exact exists_ok_bind ((h _).value _) hrest

/-- A translator that answers every text and the keys of a line lets the line be shown. -/
theorem exists_renderLine (h : ∀ s : String, w.Tells (.str s)) (s : Session) {l : Line}
    (hl : w.TellsLine l) : ∃ shown, renderLine w s l = .ok shown := by
  obtain ⟨name, hname⟩ := exists_speakerName h s hl.name
  obtain ⟨text, htext⟩ := exists_localize hl.text l.text
  have hchoices := hl.choices
  unfold renderLine
  cases hoptions : l.options with
  | none => exact ⟨_, by simp only [hname, htext]; rfl⟩
  | some cs =>
    rw [hoptions, Option.getD_some] at hchoices
    obtain ⟨shown, hshown⟩ := exists_renderOptions hchoices
    exact ⟨_, by simp only [hname, htext, hshown]; rfl⟩

end Engine

theorem Surroundings.Translates.answers {w : Surroundings τ} (h : w.Translates) (s : Session) :
    w.Answers s := fun l _ => Engine.exists_renderLine (fun _ => h.tells _) s (h.tellsLine l)

end Parley
