import Parley.Proofs.Repository.Ids
import Parley.Proofs.Validation.Breakdown
import Parley.Proofs.Web.Requests

/-!
# What is posted

Whatever is posted for a preview or a validation is answered by the route itself, with a result or
with an error and its reason, except on what is listed here: on that the route breaks down, and the
answer is one of the server that tells nothing.
-/

namespace Parley

namespace Repository

variable {r : Repository} {t : FileTree} {id : String} {fault : Fault}

/-- What a look for a file and its loading break down on. -/
def FetchFault (t : FileTree) (p : FilePath) (fault : Fault) : Prop :=
  (∃ e, t.pathExists p = .error e ∧ fault = .unreadable e) ∨
    t.pathExists p = .ok true ∧ FileFault t p fault

theorem fetch_eq_error_iff : (r.fetch t id).1 = .error fault ↔
    AdmittedId id ∧ FetchFault t (r.root.child (fileName id)) fault := by
  by_cases hid : AdmittedId id
  · rw [fetch, pathFor_eq_some_iff.mpr ⟨hid, rfl⟩, FetchFault, ← Document.loadFile_eq_error_iff]
    simp only [hid, true_and]
    split
    · rename_i e hexists
      simp [hexists, eq_comm]
    · rename_i hexists
      simp [hexists]
    · rename_i hexists
      split
      · rename_i hload
        simp [hexists, hload]
      · rename_i l hload
        simp only [hexists, hload]
        split
        · simp
        · split <;> simp
  · simp [fetch_of_not_admitted hid, hid]

theorem load_eq_error_iff : (r.load t id).1 = .error fault ↔ r.cache.lookup id = none ∧
    AdmittedId id ∧ FetchFault t (r.root.child (fileName id)) fault := by
  cases hcached : r.cache.lookup id with
  | some d => simp [load_of_cached hcached]
  | none => simp [(load_of_not_cached hcached).1, fetch_eq_error_iff]

theorem loadValue_of_no_text {v : Json} (htruthy : v.truthy = true) (hno : ∀ id, v ≠ .str id) :
    ∃ fault, r.loadValue t v = (.error fault, [], r) := by
  cases v with
  | str id => exact absurd rfl (hno id)
  | arr items => exact ⟨_, rfl⟩
  | obj ms => exact ⟨_, rfl⟩
  | null => cases htruthy
  | bool b => exact ⟨.noId (Json.bool b).kind, by simp [loadValue, htruthy]⟩
  | num n => exact ⟨.noId (Json.num n).kind, by simp [loadValue, htruthy]⟩

end Repository

namespace Web

variable {t : FileTree} {r : Repository} {ms : Members} {body : Except Fault (Option Json)}

/-- What the reading of a body breaks down on: it cannot be read, or it is a value that counts as
true and is no object. -/
inductive BodyFault (body : Except Fault (Option Json)) : Prop where
  | unread {fault : Fault} (h : body = .error fault)
  | noObject {v : Json} (h : body = .ok (some v)) (htruthy : v.truthy = true)
      (hno : ∀ ms, v ≠ .obj ms)

/-- What a preview breaks down on: an id that counts as true and is no text, or one of a document
that is not kept and whose file cannot be looked for or loaded. -/
inductive PreviewFault (t : FileTree) (r : Repository) (ms : Members) : Prop where
  | noText (htruthy : (ms.get "npcId").truthy = true) (hno : ∀ id, ms.get "npcId" ≠ .str id)
  | file {id : String} {fault : Fault} (h : ms.get "npcId" = .str id) (hid : AdmittedId id)
      (hnew : r.cache.lookup id = none)
      (below : Repository.FetchFault t (r.root.child (Repository.fileName id)) fault)

/-- What a validation breaks down on: content that is no text, or a text that cannot be loaded. -/
inductive ValidationFault (ms : Members) : Prop where
  | noText {v : Json} (h : ms.get? "content" = some v) (hno : ∀ text, v ≠ .str text)
  | text {text : String} {fault : Fault} (h : (ms.get? "content").getD (.str "") = .str text)
      (below : TextFault text fault)

/-- What the handler of previews breaks down on. -/
def ResolveFault (t : FileTree) (r : Repository) (body : Except Fault (Option Json)) : Prop :=
  BodyFault body ∨ ∃ ms, membersOf body = .ok ms ∧ PreviewFault t r ms

def ValidateFault (body : Except Fault (Option Json)) : Prop :=
  BodyFault body ∨ ∃ ms, membersOf body = .ok ms ∧ ValidationFault ms

/-- A reply that a route makes: a result, or an error with its reason. -/
inductive Reply.OfRoute : Reply → Prop
  | result (ms : Members) : OfRoute (.json (.obj ms))
  | refused {status : Nat} (h : status = 400 ∨ status = 404 ∨ status = 500) (reason : String) :
      OfRoute (.refusal status reason)

/-- A handler fails for the reason, or it replies as a route does. -/
inductive Handles (reason : Prop) : Except Fault Reply → Prop
  | fails (h : reason) (fault : Fault) : Handles reason (.error fault)
  | replies (h : ¬reason) {reply : Reply} (route : reply.OfRoute) : Handles reason (.ok reply)

theorem Handles.congr {reason reason' : Prop} {outcome : Except Fault Reply}
    (h : Handles reason outcome) (hreason : reason ↔ reason') : Handles reason' outcome := by
  rw [← propext hreason]
  exact h

theorem membersOf_cases (body : Except Fault (Option Json)) :
    (BodyFault body ∧ ∃ fault, membersOf body = .error fault) ∨
      (¬BodyFault body ∧ ∃ ms, membersOf body = .ok ms) := by
  cases body with
  | error fault => exact .inl ⟨.unread rfl, fault, rfl⟩
  | ok value =>
    cases value with
    | none =>
      refine .inr ⟨?_, [], rfl⟩
      rintro (⟨⟨⟩⟩ | ⟨⟨⟩, -, -⟩)
    | some v =>
      cases htruthy : v.truthy with
      | false =>
        refine .inr ⟨?_, [], ?_⟩
        · rintro (⟨⟨⟩⟩ | ⟨⟨⟩, h, -⟩)
          rw [htruthy] at h
          cases h
        · simp [membersOf, htruthy, bind, Except.bind, pure, Except.pure]
      | true =>
        by_cases hobject : ∃ ms, v = .obj ms
        · obtain ⟨ms, rfl⟩ := hobject
          refine .inr ⟨?_, ms, membersOf_obj ms⟩
          rintro (⟨⟨⟩⟩ | ⟨⟨⟩, -, hno⟩)
          exact hno ms rfl
        · have hno : ∀ ms, v ≠ .obj ms := fun ms h => hobject ⟨ms, h⟩
          refine .inl ⟨.noObject rfl htruthy hno, .noMember v.kind "get", ?_⟩
          simp only [membersOf, bind, Except.bind, Option.getD_some, htruthy, if_true]

theorem handles_of_members {fault : Members → Prop} {handle : Members → Except Fault Reply}
    (h : ∀ ms, Handles (fault ms) (handle ms)) (body : Except Fault (Option Json)) :
    Handles (BodyFault body ∨ ∃ ms, membersOf body = .ok ms ∧ fault ms)
      (membersOf body >>= handle) := by
  obtain ⟨hbody, e, hmembers⟩ | ⟨hbody, ms, hmembers⟩ := membersOf_cases body
  · rw [hmembers]
    exact .fails (.inl hbody) e
  · rw [hmembers]
    refine (h ms).congr ?_
    simp [hbody]

theorem replyPreview_ofRoute (d : Document) (inventory : Json) :
    (replyPreview d inventory).OfRoute := by
  rw [replyPreview]
  split
  · exact .refused (.inr (.inr rfl)) _
  · exact .result _

theorem replyLoaded_ofRoute (document : Option Document) (inventory : Json) :
    ((document.map (replyPreview · inventory)).getD .noDocument).OfRoute := by
  cases document with
  | none => exact .refused (.inr (.inl rfl)) _
  | some d => exact replyPreview_ofRoute d inventory

theorem previewFault_iff_of_text {id : String} (h : ms.get "npcId" = .str id) :
    PreviewFault t r ms ↔ ∃ fault, (r.load t id).1 = .error fault := by
  simp only [Repository.load_eq_error_iff]
  constructor
  · rintro (⟨-, hno⟩ | ⟨h', hid, hnew, below⟩)
    · exact absurd h (hno id)
    · obtain rfl := Json.str.inj (h.symm.trans h')
      exact ⟨_, hnew, hid, below⟩
  · rintro ⟨fault, hnew, hid, below⟩
    exact .file h hid hnew below

theorem servePreview_handles (t : FileTree) (r : Repository) (ms : Members) :
    Handles (PreviewFault t r ms) (servePreview t r ms).1 := by
  rw [servePreview]
  cases htruthy : (ms.get "npcId").truthy with
  | false =>
    refine .replies ?_ (.refused (.inl rfl) _)
    rintro (⟨h, -⟩ | ⟨h, hid, -, -⟩)
    · rw [htruthy] at h
      cases h
    · rw [h] at htruthy
      exact hid.ne_empty (bne_eq_false_iff_eq.mp htruthy)
  | true =>
    simp only [Bool.not_true, Bool.false_eq_true, if_false]
    by_cases htext : ∃ id, ms.get "npcId" = .str id
    · obtain ⟨id, hget⟩ := htext
      have hfault := previewFault_iff_of_text (t := t) (r := r) hget
      simp only [hget, Repository.loadValue]
      cases hload : (r.load t id).1 with
      | error fault => exact .fails (hfault.mpr ⟨fault, hload⟩) fault
      | ok document =>
        refine .replies ?_ (replyLoaded_ofRoute document _)
        rw [hfault, hload]
        rintro ⟨fault, ⟨⟩⟩
    · have hno : ∀ id, ms.get "npcId" ≠ .str id := fun id h => htext ⟨id, h⟩
      obtain ⟨fault, hload⟩ := Repository.loadValue_of_no_text (r := r) (t := t) htruthy hno
      rw [hload]
      exact .fails (.noText htruthy hno) fault

theorem serveValidation_handles (ms : Members) :
    Handles (ValidationFault ms) (serveValidation ms) := by
  by_cases htext : ∃ text, (ms.get? "content").getD (.str "") = .str text
  · obtain ⟨text, htext⟩ := htext
    simp only [serveValidation, htext]
    cases hvalidation : Validation.ofText text "" with
    | error fault =>
      exact .fails (.text htext (Validation.ofText_eq_error_iff.mp hvalidation)) fault
    | ok v =>
      refine .replies ?_ (.result _)
      rintro (⟨h, hno⟩ | ⟨h, below⟩)
      · rw [h] at htext
        exact hno text htext
      · obtain rfl := Json.str.inj (htext.symm.trans h)
        rw [Validation.ofText_eq_error_iff.mpr below] at hvalidation
        cases hvalidation
  · cases hcontent : ms.get? "content" with
    | none => exact absurd ⟨"", by rw [hcontent]; rfl⟩ htext
    | some v =>
      have hno : ∀ text, v ≠ .str text := fun text h => htext ⟨text, by rw [hcontent, h]; rfl⟩
      rw [serveValidation, hcontent, Option.getD_some]
      cases v with
      | str text => exact absurd rfl (hno text)
      | _ => exact .fails (.noText hcontent hno) _

theorem serve_resolve_handles (t : FileTree) (r : Repository) (body : Except Fault (Option Json)) :
    Handles (ResolveFault t r body) (serve t r (.resolve body)).1 := by
  have hserve : (serve t r (.resolve body)).1 =
      (membersOf body >>= fun ms => (servePreview t r ms).1) := by
    rw [serve]
    cases membersOf body <;> rfl
  rw [hserve]
  exact handles_of_members (servePreview_handles t r) body

theorem serve_validate_handles (t : FileTree) (r : Repository)
    (body : Except Fault (Option Json)) :
    Handles (ValidateFault body) (serve t r (.validate body)).1 :=
  handles_of_members serveValidation_handles body

section

variable {reason : Prop} {outcome : Except Fault Reply}

theorem Handles.error_iff (h : Handles reason outcome) :
    (∃ fault, outcome = .error fault) ↔ reason := by
  cases h with
  | fails h fault => exact iff_of_true ⟨fault, rfl⟩ h
  | replies h route => exact iff_of_false nofun h

theorem Handles.responseTo (h : Handles reason outcome) :
    (reason → responseTo outcome = .page 500) ∧
      (¬reason → ∃ reply : Reply, reply.OfRoute ∧ responseTo outcome = reply.response) := by
  cases h with
  | fails h fault => exact ⟨fun _ => rfl, fun hno => absurd h hno⟩
  | replies h route => exact ⟨fun h' => absurd h' h, fun _ => ⟨_, route, rfl⟩⟩

end

variable {ε : Type} {F : Framework ε}

/-- Whatever is sent and however it is read, an exception leaves a handler exactly where that is told
of its body here; then the framework answers and tells nothing. Otherwise the response is a reply of
the route, with a result or with an error and its reason. -/
theorem posts_answered_iff (hF : F.Serves) (t : FileTree) (r : Repository) {content : Content}
    (hcontent : F.body content = .ok body) :
    ((∃ fault, (serve t r (.resolve body)).1 = .error fault) ↔ ResolveFault t r body) ∧
    ((∃ fault, (serve t r (.validate body)).1 = .error fault) ↔ ValidateFault body) ∧
    (∃ response, (F.respond t r (resolveRequest content)).1 = .ok response ∧
      (ResolveFault t r body → response = .page 500) ∧
      (¬ResolveFault t r body → ∃ reply : Reply, reply.OfRoute ∧ response = reply.response)) ∧
    ∃ response, (F.respond t r (validateRequest content)).1 = .ok response ∧
      (ValidateFault body → response = .page 500) ∧
      (¬ValidateFault body → ∃ reply : Reply, reply.OfRoute ∧ response = reply.response) := by
  have hresolve := serve_resolve_handles t r body
  have hvalidate := serve_validate_handles t r body
  rw [(hF.resolve hcontent).respond, (hF.validate hcontent).respond]
  exact ⟨hresolve.error_iff, hvalidate.error_iff, ⟨_, rfl, hresolve.responseTo⟩,
    _, rfl, hvalidate.responseTo⟩

def bareRoot : FilePath := ⟨"", ["d"]⟩

theorem pathExists_bareRoot : FileTree.empty.pathExists bareRoot = .ok false := by decide +kernel

/-- The preview of a document that is missing is answered by the route. -/
theorem posts_answered_missing : ∃ reply : Reply, reply.OfRoute ∧
    (http.respond .empty (.ofRoot bareRoot)
      (resolveRequest (.json (.obj [("npcId", .str "gate")])))).1 = .ok reply.response := by
  have hcontent : http.body (.json (.obj [("npcId", .str "gate")])) =
      .ok (.ok (some (.obj [("npcId", .str "gate")]))) := rfl
  obtain ⟨-, -, ⟨response, hrespond, -, hroute⟩, -⟩ :=
    posts_answered_iff http_serves .empty (.ofRoot bareRoot) hcontent
  have hno : ¬ResolveFault .empty (.ofRoot bareRoot) (.ok (some (.obj [("npcId", .str "gate")]))) := by
    rintro ((⟨⟨⟩⟩ | ⟨⟨⟩, -, hno⟩) | ⟨ms, hms, hpreview⟩)
    · exact hno _ rfl
    · rw [membersOf_obj, Except.ok.injEq] at hms
      subst hms
      obtain ⟨-, hno⟩ | ⟨hid, -, -, below⟩ := hpreview
      · exact hno _ rfl
      · obtain rfl := Json.str.inj hid
        have hmissing : FileTree.empty.pathExists (bareRoot.child (Repository.fileName "gate")) =
            .ok false := by decide +kernel
        obtain ⟨e, hexists, -⟩ | ⟨hexists, -⟩ := below
        · rw [Repository.ofRoot, hmissing] at hexists
          cases hexists
        · rw [Repository.ofRoot, hmissing] at hexists
          cases hexists
  obtain ⟨reply, hreply, hresponse⟩ := hroute hno
  exact ⟨reply, hreply, hresponse ▸ hrespond⟩

/-- A list that is posted is not answered by the route, even where there are no files. -/
theorem not_answered_list : ¬∀ (t : FileTree) (root : FilePath) (v : Json),
    (∀ ids, (Repository.ofRoot root).availableIds t = .ok ids → ∀ id ∈ ids,
      ∃ l, Document.loadFile t (root.child (Repository.fileName id)) = .ok l) →
    ∃ reply : Reply, reply.OfRoute ∧
      (http.respond t (.ofRoot root) (resolveRequest (.json v))).1 = .ok reply.response := by
  intro h
  have hloads : ∀ ids, (Repository.ofRoot bareRoot).availableIds .empty = .ok ids → ∀ id ∈ ids,
      ∃ l, Document.loadFile .empty (bareRoot.child (Repository.fileName id)) = .ok l := by
    intro ids hids id hid
    obtain ⟨-, hholds⟩ := (Repository.mem_availableIds_iff hids).mp hid
    exact absurd pathExists_bareRoot hholds.pathExists_ne_false
  obtain ⟨reply, -, hrespond⟩ := h .empty bareRoot (.arr [.num (.int 1)]) hloads
  have hcontent : http.body (.json (.arr [.num (.int 1)])) =
      .ok (.ok (some (.arr [.num (.int 1)]))) := rfl
  have hbroken : (http.respond .empty (.ofRoot bareRoot)
      (resolveRequest (.json (.arr [.num (.int 1)])))).1 = .ok (.page 500) := by
    rw [(http_serves.resolve hcontent).respond]
    rfl
  rw [hbroken] at hrespond
  have hbody : none = some reply.body := congrArg Response.body (Except.ok.inj hrespond)
  cases hbody

end Web
end Parley
