import Parley.Proofs.Conversation.Keys
import Parley.Proofs.Repository
import Parley.Proofs.Terminal.Prompts
import Parley.Proofs.Validation.Verdict
import Parley.Validation.Report

/-!
# Playing a valid document

A document that validation accepts has different ids for the choices of each of its lines, and so has
every line that a conversation on it comes to. If its keys are texts, a player shows every line that
it comes to, and the numbers on screen stand for the choices of that line.
-/

namespace Parley

mutual

theorem Line.Selectable.nodup_within {l : Line} :
    l.Selectable → ∀ l' ∈ l.linesWithin, ((l'.options.getD []).map Choice.id).Nodup
  | .intro ids choices, l', hl' => by
    rw [l.linesWithin_eq, List.mem_cons, Choice.allLines_eq_flatMap, List.mem_flatMap] at hl'
    rcases hl' with rfl | ⟨c, hc, hl'⟩
    · exact ids
    · exact (choices c hc).nodup_within l' hl'

theorem Choice.Selectable.nodup_within {c : Choice} :
    c.Selectable → ∀ l' ∈ c.linesWithin, ((l'.options.getD []).map Choice.id).Nodup
  | .intro lines branches, l', hl' => by
    rw [c.linesWithin_eq, List.mem_append, Line.allLines_eq_flatMap, Branch.allLines_eq_flatMap,
      List.mem_flatMap, List.mem_flatMap] at hl'
    rcases hl' with ⟨l, hl, hl'⟩ | ⟨b, hb, hl'⟩
    · exact (lines l hl).nodup_within l' hl'
    · exact (branches b hb).nodup_within l' hl'

theorem Branch.Selectable.nodup_within {b : Branch} :
    b.Selectable → ∀ l' ∈ b.linesWithin, ((l'.options.getD []).map Choice.id).Nodup
  | .intro lines, l', hl' => by
    rw [b.linesWithin_eq, Line.allLines_eq_flatMap, List.mem_flatMap] at hl'
    obtain ⟨l, hl, hl'⟩ := hl'
    exact (lines l hl).nodup_within l' hl'

end

theorem Document.Selectable.nodup_within {d : Document} (h : d.Selectable) :
    ∀ l ∈ d.linesWithin, ((l.options.getD []).map Choice.id).Nodup := by
  intro l hl
  unfold Document.linesWithin at hl
  rw [List.mem_append, Line.allLines_eq_flatMap, List.mem_flatMap, List.mem_flatMap] at hl
  rcases hl with ⟨l', hl', hl⟩ | ⟨f, hf, hl⟩
  · exact (h.lines l' hl').nodup_within l hl
  · rw [Line.allLines_eq_flatMap, List.mem_flatMap] at hl
    obtain ⟨l', hl', hl⟩ := hl
    exact (h.forks f hf l' hl').nodup_within l hl

theorem Validation.ofFile_of_loadFile {t : FileTree} {p : FilePath} {l : Loaded} {d : Document}
    (hthere : t.pathExists p = .ok true) (hload : Document.loadFile t p = .ok l)
    (hdocument : l.document = some d) : Validation.ofFile t p = .ok (Validation.ofLoaded l) := by
  unfold Document.loadFile at hload
  unfold Validation.ofFile
  rw [hthere]
  dsimp only
  cases htext : t.readText p with
  | error fault =>
    rw [htext] at hload
    cases fault with
    | unreadable e =>
      cases hload
      cases hdocument
    | _ => cases hload
  | ok text =>
    rw [htext] at hload
    dsimp only at hload ⊢
    unfold Validation.ofText
    cases hv : Json.read text with
    | error problem =>
      rw [hv] at hload
      cases problem with
      | malformed e =>
        cases hload
        cases hdocument
      | _ => cases hload
    | ok v =>
      rw [hv] at hload
      dsimp only at hload ⊢
      rw [Validation.ofValue, hload]
      rfl

/-- A repository plays the document that validation finds in the same file, and validation accepts
no document but one whose choices can all be selected. -/
theorem Repository.validated_of_load {t : FileTree} {root : FilePath} {id : String} {d : Document}
    {v : Validation} (hload : ((ofRoot root).load t id).1 = .ok (some d))
    (hvalidation : Validation.ofFile t (root.child (fileName id)) = .ok v) :
    v.document = some d ∧ (v.valid = true → d.Selectable) := by
  rw [(load_of_not_cached rfl).1] at hload
  obtain ⟨path, l, hpath, hthere, hfile, hdocument, -⟩ := exists_of_fetch hload
  unfold pathFor at hpath
  split at hpath
  · cases hpath
    have hsame := Validation.ofFile_of_loadFile hthere hfile hdocument
    obtain rfl := Except.ok.inj (hvalidation.symm.trans hsame)
    refine ⟨hdocument, fun hvalid => ?_⟩
    have hharmless := ((Validation.valid_ofLoaded l).mp hvalid).2 d hdocument
    exact (d.harmless_flaws.mp hharmless).2
  · cases hpath

def Translator.Named : Translator → Prop
  | .none => True
  | .catalogue c => c.Named

theorem Translator.Named.tells {w : World} (h : w.translator.Named) (s : String) :
    w.Tells (.str s) := by
  cases htranslator : w.translator with
  | none => exact (World.translates_of_none htranslator).tells _
  | catalogue c =>
    rw [htranslator] at h
    obtain ⟨v, hv⟩ := (c.find_ok_iff h (.str s)).mpr (.inl ⟨s, rfl⟩)
    exact Engine.tells_of_find htranslator hv

theorem Line.Keyed.presents {τ : Type} [Translation τ] {w : Surroundings τ} {l : Line}
    (h : l.Keyed) (htexts : ∀ s : String, w.Tells (.str s))
    (hids : ((l.options.getD []).map Choice.id).Nodup) : w.Presents l := by
  have htells : ∀ key : Json, key.IsKey → key.truthy = true → w.Tells key := by
    intro key hkey htruthy
    obtain ⟨s, rfl⟩ := hkey htruthy
    exact htexts s
  exact ⟨⟨htells _ h.text, htells _ h.name, fun c hc => htells _ (h.choices c hc)⟩, hids⟩

namespace Engine

theorem exists_showing_of_converse {τ : Type} [Translation τ] {w : Surroundings τ} {e : Engine}
    {npcId : String} {npcName : Json} (hview : w.FailsAtLines)
    (htexts : ∀ s : String, w.Tells (.str s)) (hpositions : w.positions = none) (hfresh : e.Fresh)
    (hlines : ∀ d, w.document npcId = .ok (some d) → ∀ l ∈ d.linesWithin, w.Presents l)
    (hactive : (converse w npcId npcName e).2.session.active = true) :
    ∃ e₁ l shown, (converse w npcId npcName e).2 = showing shown e₁ ∧ e₁.session.Running ∧
      e₁.session.Throughout w.Presents ∧ e₁.session.current? = some l ∧
      renderLine w e₁.session l = .ok shown := by
  have hidle : e.session.active = false := by
    rw [hfresh.session]
    rfl
  rw [converse_of_free hidle hfresh.starting] at hactive ⊢
  cases hdocument : w.document npcId with
  | error fault =>
    rw [hdocument] at hactive
    exact absurd (hidle.symm.trans hactive) Bool.false_ne_true
  | ok document =>
    rw [hdocument] at hactive
    cases document with
    | none => exact absurd (hidle.symm.trans hactive) Bool.false_ne_true
    | some d =>
      dsimp only at hactive ⊢
      by_cases hsilent : (d.resolve w.supply e.stock).1.lines = []
      · rw [if_pos hsilent] at hactive
        exact absurd (hidle.symm.trans hactive) Bool.false_ne_true
      · have hfocus (s : Session) : focus w s = .ok none := by
          unfold focus
          rw [hpositions]
        rw [if_neg hsilent, present_of_failsAtLines hview, hfocus]
        dsimp only
        obtain ⟨l, shown, hl, hshown, hcurrent⟩ := exists_showing hview htexts
          (Session.running_opened npcId npcName hsilent)
          (Session.throughout_opened (hlines d hdocument) npcId npcName w.supply e.stock)
          (e := record (.view (.enter none)) { e.asked with
            stock := (d.resolve w.supply e.stock).2
            session := .opened npcId npcName (d.resolve w.supply e.stock).1 })
        rw [hcurrent]
        exact ⟨_, l, shown, rfl, Session.running_opened npcId npcName hsilent,
          Session.throughout_opened (hlines d hdocument) npcId npcName w.supply e.stock, hl, hshown⟩

end Engine

namespace Terminal.Player

theorem onScreen_begin {p : Player} {npcId : String} {npcName : Json}
    (hview : p.world.FailsAtLines) (htexts : ∀ s : String, p.world.Tells (.str s))
    (hpositions : p.world.positions = none) (hfresh : p.engine.Fresh)
    (hbus : p.engine.bus.handlers .interaction = [.manager])
    (hlines : ∀ d, p.world.document npcId = .ok (some d) → ∀ l ∈ d.linesWithin, p.world.Presents l)
    (hactive : (p.begin npcId npcName).2.engine.session.active = true) :
    (p.begin npcId npcName).2.OnScreen := by
  have hinteract : p.engine.interact p.world npcId npcName = if npcId == "" then p.engine
      else (Engine.converse p.world npcId npcName p.engine).2 := by
    unfold Engine.interact Bus.publish
    rw [hbus, Bus.dispatch, List.foldl_cons, List.foldl_nil, Engine.hearInteraction]
    split <;> rfl
  obtain ⟨rows, hrows⟩ :=
    showEvents_eq { p with engine := p.engine.interact p.world npcId npcName }
  unfold begin at hactive ⊢
  dsimp only at hactive ⊢
  generalize { p with engine := p.engine.interact p.world npcId npcName }.showEvents = q at *
  cases hplays : q.engine.session.active with
  | false =>
    rw [hplays] at hactive
    exact absurd (hplays.symm.trans hactive) Bool.false_ne_true
  | true =>
    rw [if_pos rfl]
    have hsession : q.engine.session = (p.engine.interact p.world npcId npcName).session := by
      rw [hrows]
    have hscreen : q.screen =
        (p.engine.interact p.world npcId npcName).viewCalls.foldl Screen.after p.screen := by
      rw [hrows]
    have hworld : q.world = p.world := by rw [hrows]
    rw [hsession, hinteract] at hplays
    rw [hinteract] at hsession hscreen
    split at hplays
    · rw [hfresh.session] at hplays
      cases hplays
    · rename_i hid
      rw [if_neg hid] at hsession hscreen
      obtain ⟨e₁, l, shown, hshows, hrunning, hthroughout, hl, hshown⟩ :=
        Engine.exists_showing_of_converse hview htexts hpositions hfresh hlines hplays
      rw [hshows] at hsession hscreen
      rw [← hworld] at hview htexts hthroughout hshown
      refine onScreen_of_showing hview htexts hrunning hthroughout hl hshown hsession ?_
      rw [hscreen]
      exact current_after_showing e₁ shown p.screen

/-- A player runs a conversation on a document that validation accepts, whose keys are texts. What
appears are the prompts of the conversation, and at each of them the screen shows the line that the
session has come to. On a line with choices, what is entered changes nothing of the engine or the
screen unless it is the number of a choice, and then the choice is taken as it is on screen. No line
is left behind for an earlier one, none is answered twice, and a line with choices that the
conversation has left was answered. -/
theorem run_follows_screen {files : FileTree} {root : FilePath} {npcId : String} {v : Validation}
    (hvalidation : Validation.ofFile files (root.child (Repository.fileName npcId)) = .ok v)
    (hvalid : v.valid = true)
    (hkeys : ∀ d, v.document = some d → ∀ l ∈ d.linesWithin, l.Keyed)
    {t : Translator} (htranslator : t.Named) (items : List (String × Int))
    (equipped : Members) (settings : Settings) (columns : Int) (stream : Stream) (npcName : Json)
    (inputs : List Input) :
    let p := make files root items equipped t settings columns stream
    let all := (p.begin npcId npcName).2.prompts inputs
    let final := (p.run npcId npcName inputs).2
    promptTexts final.outputs = all.map (·.1.promptText) ∧
    (∀ x ∈ all, x.1.world = p.world ∧ x.1.ShowsCurrent) ∧
    (∀ x ∈ all, x.1.options ≠ [] → ∀ s, picks x.1.options s = false →
      (x.1.step (some (.text s))).2.engine = x.1.engine ∧
        (x.1.step (some (.text s))).2.screen = x.1.screen) ∧
    (∀ x ∈ all, ∀ s (n : Nat) o, Text.readInteger (wordOf s) = .ok (n + 1) →
      x.1.options[n]? = some o → x.1.Took n o (x.1.step (some (.text s)))) ∧
    (all.map placeAt).Pairwise (· ≤ ·) ∧
    (∀ place, takenAt place all ≤ 1) ∧
    ∀ x ∈ all, x.1.options ≠ [] →
      ((∃ y ∈ all, placeAt x < placeAt y) ∨ final.engine.session.active = false ∨
        placeAt x < final.engine.session.index) → takenAt (placeAt x) all = 1 := by
  intro p all final
  obtain ⟨hprompts, hsession⟩ := p.run_eq npcId npcName inputs rfl
  obtain ⟨hworld, -, -⟩ := p.begin_cases npcId npcName
  have htexts : ∀ s : String, p.world.Tells (.str s) := htranslator.tells
  have hlines : ∀ d, p.world.document npcId = .ok (some d) →
      ∀ l ∈ d.linesWithin, p.world.Presents l := by
    intro d hd l hl
    obtain ⟨hdocument, hselectable⟩ := Repository.validated_of_load hd hvalidation
    exact (hkeys d hdocument l hl).presents htexts ((hselectable hvalid).nodup_within l hl)
  have hworlds : ∀ x ∈ all, x.1.world = p.world := fun x hx =>
    (world_of_mem_prompts inputs x hx).trans hworld
  refine ⟨hprompts, ?_⟩
  cases hactive : (p.begin npcId npcName).2.engine.session.active with
  | false =>
    have hnone : all = [] := prompts_of_ended hactive inputs
    rw [hnone]
    exact ⟨List.forall_mem_nil _, List.forall_mem_nil _, List.forall_mem_nil _,
      List.Pairwise.nil, fun _ => Nat.zero_le 1, List.forall_mem_nil _⟩
  | true =>
    have hscreen : (p.begin npcId npcName).2.OnScreen :=
      onScreen_begin (fun c hc => viewFault_eq_none columns stream hc) htexts rfl
        (Engine.fresh_start _) rfl hlines hactive
    have hcourse := course_prompts hscreen inputs
    have honScreen := hcourse.onScreen_of_mem
    refine ⟨fun x hx => ⟨hworlds x hx, (honScreen x hx).current⟩, ?_, ?_,
      hcourse.pairwise_placeAt, hcourse.takenAt_le_one, ?_⟩
    · intro x hx hoptions s hpicks
      exact (honScreen x hx).unmoved hoptions hpicks
    · intro x hx s n o hn ho
      exact (honScreen x hx).took hn ho
    · intro x hx hoptions hleft
      rw [hsession] at hleft
      exact hcourse.takenAt_of_left x hx hoptions hleft

/-- A document with a line of two choices, the second of which leads to a line. -/
def tollText : String :=
  "\x7b\"lines\":[\x7b\"text\":\"?\",\"options\":[\x7b\"id\":\"a\"\x7d," ++
    "\x7b\"id\":\"b\",\"lines\":[\x7b\"text\":\"!\"\x7d]\x7d]\x7d]\x7d"

def tollFiles : FileTree :=
  ⟨[(["toll.json"], .file (tollText.toList.map fun c => UInt8.ofNat c.toNat))]⟩

def tollPath : FilePath := FilePath.child ⟨"", []⟩ (Repository.fileName "toll")

def isKeyless (l : Line) : Bool :=
  l.textKey.isNull && l.nameKey.isNull && (l.options.getD []).all (·.textKey.isNull)

theorem keyed_of_isKeyless {l : Line} (h : isKeyless l = true) : l.Keyed := by
  have hkey : ∀ key : Json, key.isNull = true → key.IsKey := by
    intro key hnull htruthy
    cases key <;> cases hnull
    cases htruthy
  simp only [isKeyless, Bool.and_eq_true, List.all_eq_true] at h
  obtain ⟨⟨htext, hname⟩, hchoices⟩ := h
  exact ⟨hkey _ htext, hkey _ hname, fun c hc => hkey _ (hchoices c hc)⟩

def toll : Player := make tollFiles ⟨"", []⟩ [] [] .none .default 80 .characters

/-- Of what is entered at the first line only the number of a choice answers it. -/
theorem run_follows_screen_toll :
    let all := (toll.begin "toll" .null).2.prompts
      [.text "state", .text "3", .text " 2 ", .text "", .text ""]
    all.map (fun x => (placeAt x, x.1.options.length)) =
        [(0, 2), (0, 2), (0, 2), (0, 0), (1, 0)] ∧
      takenAt 0 all = 1 := by
  intro all
  have hplaces : all.map (fun x => (placeAt x, x.1.options.length)) =
      [(0, 2), (0, 2), (0, 2), (0, 0), (1, 0)] := by decide +kernel
  refine ⟨hplaces, ?_⟩
  have haccepted : (Validation.ofFile tollFiles tollPath).toOption.any (fun v =>
      v.valid && v.document.all fun d => d.linesWithin.all isKeyless) = true := by decide +kernel
  cases hvalidation : Validation.ofFile tollFiles tollPath with
  | error fault =>
    rw [hvalidation] at haccepted
    cases haccepted
  | ok v =>
    rw [hvalidation] at haccepted
    obtain ⟨hvalid, hkeyless⟩ := Bool.and_eq_true_iff.mp haccepted
    have hkeys : ∀ d, v.document = some d → ∀ l ∈ d.linesWithin, l.Keyed := by
      intro d hd l hl
      rw [hd] at hkeyless
      exact keyed_of_isKeyless (List.all_eq_true.mp hkeyless l hl)
    have honce := (run_follows_screen hvalidation hvalid hkeys (t := .none) trivial [] [] .default
      80 .characters .null [.text "state", .text "3", .text " 2 ", .text "", .text ""]).2.2.2.2.2.2
    -- The first prompt is at the first line, which offers two choices, and the last is at the next.
    have hfirst : ((0 : Int), 2) ∈ all.map fun x => (placeAt x, x.1.options.length) := by
      rw [hplaces]
      decide
    have hlast : ((1 : Int), 0) ∈ all.map fun x => (placeAt x, x.1.options.length) := by
      rw [hplaces]
      decide
    obtain ⟨x, hx, hfirst⟩ := List.mem_map.mp hfirst
    obtain ⟨y, hy, hlast⟩ := List.mem_map.mp hlast
    obtain ⟨hplace, hlength⟩ := Prod.mk.inj hfirst
    have hoptions : x.1.options ≠ [] := by
      intro hnone
      rw [hnone] at hlength
      cases hlength
    have hlater : placeAt x < placeAt y := by
      rw [hplace, (Prod.mk.inj hlast).1]
      decide
    rw [← hplace]
    exact honce x hx hoptions (.inl ⟨y, hy, hlater⟩)

end Terminal.Player
end Parley
