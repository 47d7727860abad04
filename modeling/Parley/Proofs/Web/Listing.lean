import Parley.Proofs.Repository.Ids
import Parley.Proofs.Validation.Breakdown
import Parley.Proofs.Web.Requests

/-!
# What is listed and what is served

The list of documents is made from the files alone, while a document is served by the repository,
which has no use for one without lines. A document that is listed as valid is served exactly if the
list counts lines in it.
-/

namespace Parley

theorem Line.lines_tallyList_eq_zero_iff {ls : List Line} :
    (Line.tallyList ls).lines = 0 ↔ ls = [] := by
  cases ls with
  | nil => exact ⟨fun _ => rfl, fun _ => rfl⟩
  | cons l ls =>
    have hl : l.tally.lines ≠ 0 := by
      obtain ⟨_, _, _, _, _, _, options, _⟩ := l
      cases options <;> simp [tally]
    simp [tallyList, hl]

theorem Fork.lines_tallyList_eq_zero_iff {fs : List Fork} :
    (Fork.tallyList fs).lines = 0 ↔ ∀ f ∈ fs, f.lines = [] := by
  induction fs with
  | nil => exact ⟨fun _ => List.forall_mem_nil _, fun _ => rfl⟩
  | cons f fs ih =>
    have hchecks : (Check.tally f.checks).lines = 0 := rfl
    have hactions : (Action.tally f.actions).lines = 0 := rfl
    simp [tallyList, tally, hchecks, hactions, Line.lines_tallyList_eq_zero_iff, ih]

theorem Document.lines_tally_eq_zero_iff (d : Document) :
    d.tally.lines = 0 ↔ d.hasAnyLines = false := by
  have hactions : (Action.tally d.actions).lines = 0 := rfl
  simp [tally, hactions, Line.lines_tallyList_eq_zero_iff, Fork.lines_tallyList_eq_zero_iff,
    hasAnyLines]

theorem FileTree.pathExists_of_loadFile {t : FileTree} {p : FilePath} {l : Loaded} {d : Document}
    (h : Document.loadFile t p = .ok l) (hd : l.document = some d) : t.pathExists p = .ok true := by
  cases hfind : t.find p with
  | ok e => exact pathExists_eq_ok_iff.mpr ⟨by simp [hfind], by simp [hfind]⟩
  | error problem =>
    -- What cannot be found cannot be read, and no document comes of that.
    exfalso
    rw [Document.loadFile, readText, readBytes, hfind] at h
    cases hcheck : checkPathText p.toString with
    | ok u =>
      rw [hcheck] at h
      cases h
      cases hd
    | error fault =>
      rw [hcheck] at h
      cases fault <;> cases h
      exact checkPathText_ne_unreadable hcheck

namespace Repository

variable {r : Repository} {t : FileTree} {id : String}

theorem fetch_of_loadFile {l : Loaded} {d : Document} (hid : AdmittedId id)
    (h : Document.loadFile t (r.root.child (fileName id)) = .ok l) (hd : l.document = some d) :
    (r.fetch t id).1 = .ok (if d.hasAnyLines then some d else none) := by
  rw [fetch, pathFor_eq_some_iff.mpr ⟨hid, rfl⟩]
  simp only [FileTree.pathExists_of_loadFile h hd, h, hd]
  split <;> rfl

/-- A repository has kept only what it would find in the files. -/
def Fresh (r : Repository) (t : FileTree) : Prop :=
  ∀ id d, r.cache.lookup id = some d → (r.fetch t id).1 = .ok (some d)

theorem Fresh.load (h : r.Fresh t) (id : String) : (r.load t id).1 = (r.fetch t id).1 := by
  cases hcached : r.cache.lookup id with
  | none => exact (load_of_not_cached hcached).1
  | some d => rw [load_of_cached hcached, h id d hcached]

theorem Fresh.after (h : r.Fresh t) (id : String) : (r.load t id).2.2.Fresh t := by
  intro id' d hd
  have hfetch : (r.load t id).2.2.fetch t id' = r.fetch t id' := by
    rw [fetch, fetch, pathFor, pathFor, root_load]
  rw [hfetch]
  obtain hd | ⟨rfl, hd⟩ := lookup_load_iff.mp hd
  · exact h id' d hd
  · rwa [← h.load]

end Repository

theorem Archive.fresh_run {a : Archive} (h : a.repository.Fresh a.files) (asked : List String) :
    (a.run (asked.map .asks)).repository.Fresh a.files := by
  induction asked generalizing a with
  | nil => exact h
  | cons id asked ih => exact ih (h.after id)

theorem AdmittedId.nameId {id : String} (h : AdmittedId id) : Web.NameId id :=
  ⟨h.ne_empty, h.ascii, h.not_mem (by decide) (by decide)⟩

namespace Web

variable {t : FileTree} {r : Repository} {id : String}

theorem mem_listEntries_iff {ids : List String} {entries : List Json} {entry : Json}
    (h : listEntries t r ids = .ok entries) : entry ∈ entries ↔
      ∃ id ∈ ids, ∃ l, Document.loadFile t (r.root.child (Repository.fileName id)) = .ok l ∧
        entry = listEntry id l := by
  induction ids generalizing entries with
  | nil =>
    cases h
    simp
  | cons id ids ih =>
    rw [listEntries] at h
    cases hload : Document.loadFile t (r.root.child (Repository.fileName id)) with
    | error fault =>
      rw [hload] at h
      cases h
    | ok l =>
      rw [hload] at h
      cases hrest : listEntries t r ids with
      | error fault =>
        rw [hrest] at h
        cases h
      | ok rest =>
        rw [hrest] at h
        cases h
        simp [ih hrest, hload]

theorem exists_members_listEntry (id : String) (l : Loaded) : ∃ ms, listEntry id l = .obj ms ∧
    Members.get ms "id" = .str id ∧
    Members.get ms "valid" = .bool (l.document.isSome && l.errors.isEmpty) ∧
    ∀ d, l.document = some d → Members.get ms "stats" =
      .obj (d.statistics l.errors.length l.warnings.length).toMembers := by
  refine ⟨_, rfl, ?_, ?_, fun d hd => ?_⟩
  · simp [Members.get, Members.get?]
  · simp [Members.get, Members.get?, List.lookup_cons]
  · simp [Members.get, Members.get?, List.lookup_cons, hd]

variable {ε : Type} {F : Framework ε}

def Framework.listed (F : Framework ε) (t : FileTree) (root : FilePath) : List Json :=
  match (F.respond t (.ofRoot root) listRequest).1 with
  | .ok ⟨_, some (.obj [("dialogues", .arr entries)])⟩ => entries
  | _ => []

theorem mem_listed_iff (hF : F.Serves) {root : FilePath} {entry : Json} :
    entry ∈ F.listed t root ↔
      ∃ ids entries, (Repository.ofRoot root).availableIds t = .ok ids ∧
        listEntries t (.ofRoot root) ids = .ok entries ∧ entry ∈ entries := by
  rw [Framework.listed, hF.list.respond, serve]
  -- The equation of the list is slow to make, and one unfolding is all that is needed.
  delta serveList
  cases (Repository.ofRoot root).availableIds t with
  | error fault =>
    refine iff_of_false List.not_mem_nil ?_
    rintro ⟨_, _, hids, -⟩
    cases hids
  | ok ids =>
    simp only [bind, Except.bind, Except.ok.injEq, exists_and_left, exists_eq_left']
    cases listEntries t (.ofRoot root) ids with
    | error fault =>
      refine iff_of_false List.not_mem_nil ?_
      rintro ⟨_, hentries, -⟩
      cases hentries
    | ok entries =>
      simp only [Except.ok.injEq, exists_eq_left']
      rfl

def Framework.ListsValid (F : Framework ε) (t : FileTree) (root : FilePath) (id : String)
    (statistics : Json) : Prop :=
  ∃ ms, .obj ms ∈ F.listed t root ∧ Members.get ms "id" = .str id ∧
    Members.get ms "valid" = .bool true ∧ Members.get ms "stats" = statistics

theorem Framework.ListsValid.exists_loaded (hF : F.Serves) {root : FilePath} {statistics : Json}
    (h : F.ListsValid t root id statistics) :
    AdmittedId id ∧ ∃ l d, Document.loadFile t (root.child (Repository.fileName id)) = .ok l ∧
      l.document = some d ∧
      statistics = .obj (d.statistics 0 l.warnings.length).toMembers := by
  obtain ⟨ms, hmem, hid, hvalid, rfl⟩ := h
  obtain ⟨ids, entries, hids, hentries, hentry⟩ := (mem_listed_iff hF).mp hmem
  obtain ⟨id', hid', l, hload, hentry⟩ := (mem_listEntries_iff hentries).mp hentry
  obtain ⟨ms', hms, hsame, hloaded, hstatistics⟩ := exists_members_listEntry id' l
  obtain rfl := Json.obj.inj (hentry.trans hms)
  obtain rfl := Json.str.inj (hsame.symm.trans hid)
  obtain ⟨hsome, herrors⟩ := Bool.and_eq_true_iff.mp (Json.bool.inj (hloaded.symm.trans hvalid))
  obtain ⟨d, hd⟩ := Option.isSome_iff_exists.mp hsome
  rw [List.isEmpty_iff.mp herrors] at hstatistics
  obtain ⟨hadmitted, -⟩ := (Repository.mem_availableIds_iff hids).mp hid'
  exact ⟨hadmitted, l, d, hload, hd, hstatistics d hd⟩

theorem listsValid_of_sole (hF : F.Serves) {root : FilePath} {l : Loaded} {d : Document}
    (hexists : t.pathExists root = .ok true)
    (hsole : (((t.names root).filter Repository.isDocumentFile).map FilePath.stemOf).filter
      isSafeId = [id])
    (hload : Document.loadFile t (root.child (Repository.fileName id)) = .ok l)
    (hd : l.document = some d) (herrors : l.errors = []) :
    F.ListsValid t root id (.obj (d.statistics 0 l.warnings.length).toMembers) := by
  have hids : (Repository.ofRoot root).availableIds t = .ok [id] := by
    simp [Repository.availableIds, Repository.ofRoot, hexists, hsole, sortedTexts]
  have hentries : listEntries t (.ofRoot root) [id] = .ok [listEntry id l] := by
    rw [listEntries, Repository.ofRoot, hload]
    rfl
  obtain ⟨ms, hms, hid, hvalid, hstatistics⟩ := exists_members_listEntry id l
  rw [hd, herrors] at hvalid
  rw [herrors] at hstatistics
  refine ⟨ms, (mem_listed_iff hF).mpr ⟨_, _, hids, hentries, ?_⟩, hid, hvalid, hstatistics d hd⟩
  rw [hms]
  exact List.mem_singleton_self _

/-- What is replied for the result of a load is sent, and so is a preview of it. -/
theorem respond_document (hF : F.Serves) (hid : NameId id) {quoted : List Char}
    (hquote : Percent.quote [] id.toList = .ok quoted) :
    (F.respond t r (documentRequest quoted)).1 =
      .ok (responseTo (replyLoaded (r.load t id).1 fun d => .json d.toJson)) := by
  rw [(hF.document hid hquote).respond, serve, serveDocument]

theorem respond_resolve (hF : F.Serves) {content : Content} {body : Members}
    (hcontent : F.body content = .ok (.ok (some (.obj body))))
    (hbody : body.get "npcId" = .str id) (hid : id ≠ "") :
    (F.respond t r (resolveRequest content)).1 =
      .ok (responseTo (replyLoaded (r.load t id).1 fun d =>
        replyPreview d (body.get "inventory"))) := by
  have htruthy : (Json.str id).truthy = true := bne_iff_ne.mpr hid
  rw [(hF.resolve hcontent).respond, serve, membersOf_obj]
  simp only [servePreview, hbody, htruthy, Repository.loadValue]
  rfl

theorem status_replyPreview (d : Document) (inventory : Json) :
    (replyPreview d inventory).status = 200 ∨ (replyPreview d inventory).status = 500 := by
  rw [replyPreview]
  split
  · exact .inr rfl
  · exact .inl rfl

/-- A document that is listed as valid is served, with its preview, exactly if the list counts lines
in it; otherwise neither is found. It makes no difference which documents were asked for before. -/
theorem served_of_listed (hF : F.Serves) {root : FilePath} {statistics : Json}
    (h : F.ListsValid t root id statistics) (asked : List String) :
    let r := ((Archive.new root t).run (asked.map .asks)).repository
    ∃ l d quoted, Document.loadFile t (root.child (Repository.fileName id)) = .ok l ∧
      l.document = some d ∧
      statistics = .obj (d.statistics 0 l.warnings.length).toMembers ∧
      Percent.quote [] id.toList = .ok quoted ∧
      ((d.statistics 0 l.warnings.length).lines ≠ 0 →
        (F.respond t r (documentRequest quoted)).1 = .ok ⟨200, some d.toJson⟩ ∧
        ∀ content (body : Members), F.body content = .ok (.ok (some (.obj body))) →
          body.get "npcId" = .str id →
          ∃ response, (F.respond t r (resolveRequest content)).1 = .ok response ∧
            (response.status = 200 ∨ response.status = 500)) ∧
      ((d.statistics 0 l.warnings.length).lines = 0 →
        (F.respond t r (documentRequest quoted)).1 = .ok Reply.noDocument.response ∧
        ∀ content (body : Members), F.body content = .ok (.ok (some (.obj body))) →
          body.get "npcId" = .str id →
          (F.respond t r (resolveRequest content)).1 = .ok Reply.noDocument.response) := by
  intro r
  obtain ⟨hid, l, d, hload, hd, hstatistics⟩ := h.exists_loaded hF
  have hquote : Percent.quote [] id.toList = .ok _ := Percent.quote_of_ascii hid.ascii
  have hroot : r.root = root := Archive.root_run _ _
  have hfresh : r.Fresh t := Archive.fresh_run (a := .new root t) nofun asked
  have hanswer : (r.load t id).1 = .ok (if d.hasAnyLines then some d else none) := by
    rw [hfresh.load]
    exact Repository.fetch_of_loadFile hid (hroot ▸ hload) hd
  have hlines : (d.statistics 0 l.warnings.length).lines = 0 ↔ d.hasAnyLines = false :=
    d.lines_tally_eq_zero_iff
  refine ⟨l, d, _, hload, hd, hstatistics, hquote, fun hsome => ?_, fun hnone => ?_⟩
  · have hany : d.hasAnyLines = true := by simpa [hlines] using hsome
    rw [hany, if_pos rfl] at hanswer
    rw [respond_document hF hid.nameId hquote, hanswer]
    refine ⟨rfl, fun content body hcontent hbody => ?_⟩
    rw [respond_resolve hF hcontent hbody hid.ne_empty, hanswer]
    exact ⟨_, rfl, status_replyPreview d _⟩
  · rw [hlines.mp hnone, if_neg Bool.false_ne_true] at hanswer
    rw [respond_document hF hid.nameId hquote, hanswer]
    refine ⟨rfl, fun content body hcontent hbody => ?_⟩
    rw [respond_resolve hF hcontent hbody hid.ne_empty, hanswer]
    rfl

def shelf (text : String) : FileTree :=
  ⟨[(["d", "gate.json"], .file (Text.asciiBytes text.toList))]⟩

def shelfRoot : FilePath := ⟨"", ["d"]⟩

def lineText : String := "\x7b\"lines\":[\x7b\"text\":\"Halt.\"\x7d]\x7d"

def bareText : String := "\x7b\"id\":\"gate\"\x7d"

theorem exists_of_loadFile_any (t : FileTree) (p : FilePath) (check : Document → Bool)
    (h : (Document.loadFile t p).toOption.any
      (fun l => l.errors.isEmpty && l.document.any check) = true) :
    ∃ l d, Document.loadFile t p = .ok l ∧ l.document = some d ∧ l.errors = [] ∧ check d = true := by
  cases hload : Document.loadFile t p with
  | error fault =>
    rw [hload] at h
    cases h
  | ok l =>
    rw [hload] at h
    obtain ⟨herrors, hdocument⟩ := Bool.and_eq_true_iff.mp h
    cases hd : l.document with
    | none =>
      rw [hd] at hdocument
      cases hdocument
    | some d =>
      rw [hd] at hdocument
      exact ⟨l, d, rfl, hd, List.isEmpty_iff.mp herrors, hdocument⟩

theorem served_of_listed_gate : ∃ (d : Document) (statistics : Json),
    http.ListsValid (shelf lineText) shelfRoot "gate" statistics ∧ d.hasAnyLines = true ∧
      (http.respond (shelf lineText) (.ofRoot shelfRoot) (documentRequest "gate".toList)).1 =
        .ok ⟨200, some d.toJson⟩ := by
  obtain ⟨l, d, hload, hd, herrors, hlines⟩ := exists_of_loadFile_any (shelf lineText)
    (shelfRoot.child (Repository.fileName "gate")) Document.hasAnyLines (by decide +kernel)
  have hlists := listsValid_of_sole http_serves (by decide +kernel) (by decide +kernel) hload hd
    herrors
  obtain ⟨l', d', quoted, hload', hd', -, hquote, hserved, -⟩ :=
    served_of_listed http_serves hlists []
  rw [hload, Except.ok.injEq] at hload'
  subst hload'
  obtain rfl := Option.some.inj (hd.symm.trans hd')
  have hgate : Percent.quote [] "gate".toList = .ok "gate".toList := by decide +kernel
  rw [hgate, Except.ok.injEq] at hquote
  subst hquote
  have hcount : (d.statistics 0 l.warnings.length).lines ≠ 0 := by
    rw [Document.statistics, ne_eq, Document.lines_tally_eq_zero_iff, hlines]
    decide
  exact ⟨d, _, hlists, hlines, (hserved hcount).1⟩

/-- A document without lines is listed as valid and is not found. -/
theorem not_served_bare : ¬∀ (t : FileTree) (root : FilePath) (id : String) (statistics : Json),
    http.ListsValid t root id statistics →
      ∃ quoted response, Percent.quote [] id.toList = .ok quoted ∧
        (http.respond t (.ofRoot root) (documentRequest quoted)).1 = .ok response ∧
        response.status = 200 := by
  intro h
  obtain ⟨l, d, hload, hd, herrors, hlines⟩ := exists_of_loadFile_any (shelf bareText)
    (shelfRoot.child (Repository.fileName "gate")) (!·.hasAnyLines) (by decide +kernel)
  have hlists := listsValid_of_sole http_serves (by decide +kernel) (by decide +kernel) hload hd
    herrors
  obtain ⟨quoted, response, hquote, hrespond, hstatus⟩ := h _ _ _ _ hlists
  obtain ⟨hgate, -⟩ := hlists.exists_loaded http_serves
  have hnone : ((Repository.ofRoot shelfRoot).load (shelf bareText) "gate").1 = .ok none := by
    have hfetched : ((Repository.ofRoot shelfRoot).fetch (shelf bareText) "gate").1 =
      .ok (if d.hasAnyLines then some d else none) := Repository.fetch_of_loadFile hgate hload hd
    have hbare : d.hasAnyLines = false := by simpa using hlines
    rw [(Repository.load_of_not_cached rfl).1, hfetched, hbare]
    rfl
  rw [respond_document http_serves hgate.nameId hquote, hnone] at hrespond
  cases hrespond
  cases hstatus

end Web
end Parley
