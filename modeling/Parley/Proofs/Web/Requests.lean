import Parley.Proofs.Web.Target
import Parley.Web.Server

/-!
# Requests and where they lead

What the program relies on of a framework: that its addresses lead to its handlers, and that what
these reply is sent. The framework of the server keeps to it.
-/

namespace Parley.Web

def listRequest : Request := ⟨"GET", "/api/dialogues", .nothing⟩

def documentRequest (quoted : List Char) : Request := ⟨"GET", documentAddress quoted, .nothing⟩

def resolveRequest (content : Content) : Request := ⟨"POST", "/api/resolve", content⟩

def validateRequest (content : Content) : Request := ⟨"POST", "/api/validate", content⟩

/-- The response for what a handler comes to: its reply, or where it fails a page without JSON. -/
def responseTo : Except Fault Reply → Response
  | .ok reply => reply.response
  | .error _ => .page 500

namespace Framework

variable {ε : Type} {F : Framework ε} {request : Request} {i : Invocation}

/-- A request leads to the call of a handler, and what the handler comes to is sent. -/
structure Leads (F : Framework ε) (request : Request) (i : Invocation) : Prop where
  routed : F.route request = .ok (.handler i)
  sent : ∀ outcome, F.send request outcome = responseTo outcome

/-- The addresses lead to their handlers: that of a document to the handler of documents with the id
in the address, and those that are posted to with what the framework makes of the content. -/
structure Serves (F : Framework ε) : Prop where
  list : F.Leads listRequest .list
  document : ∀ {id : String} {quoted : List Char}, NameId id →
    Percent.quote [] id.toList = .ok quoted → F.Leads (documentRequest quoted) (.document id)
  resolve : ∀ {content : Content} {body : Except Fault (Option Json)}, F.body content = .ok body →
    F.Leads (resolveRequest content) (.resolve body)
  validate : ∀ {content : Content} {body : Except Fault (Option Json)}, F.body content = .ok body →
    F.Leads (validateRequest content) (.validate body)

theorem Leads.respond (h : F.Leads request i) (t : FileTree) (r : Repository) :
    F.respond t r request = (.ok (responseTo (serve t r i).1), (serve t r i).2) := by
  rw [Framework.respond, h.routed]
  simp only [h.sent]

end Framework

variable {content : Content}

theorem Target.read_of_no_percent {address : String} (h : IsPlainAddress address.toList)
    (hpercent : Percent.percentByte ∉ Text.asciiBytes address.toList)
    (hcheck : content.check = .ok ()) :
    read address content = .ok ⟨false, true, address.toList⟩ := by
  have hbytes : Percent.decode (Text.asciiBytes address.toList) = Text.asciiBytes address.toList :=
    Percent.decodeUnless_of_no_percent hpercent
  rw [read_plain h, pathOf_of_ascii h.ascii hbytes, hcheck]
  rfl

theorem Access.purpose?_get : Access.read.purpose? "GET" = some .answer := by
  have hcapitals : capitals "GET" = "GET" := by decide +kernel
  simp [purpose?, hcapitals]

theorem Access.purpose?_post : Access.post.purpose? "POST" = some .answer := by
  have hcapitals : capitals "POST" = "POST" := by decide +kernel
  simp [purpose?, hcapitals]

theorem http_leads {method address : String} {path : List Char} {endpoint : Endpoint}
    {i : Invocation} (hread : Target.read address content = .ok ⟨false, true, path⟩)
    (hpath : Endpoint.ofPath? path = some endpoint)
    (hpurpose : endpoint.access.purpose? method = some .answer)
    (hcall : endpoint.destination content = .handler i) (hmethod : method ≠ "HEAD") :
    http.Leads ⟨method, address, content⟩ i := by
  have hroute : Route.of method ⟨false, true, path⟩ = .found endpoint .answer := by
    simp [Route.of, hpath, hpurpose]
  constructor
  · simp only [http, hread, bind, Except.bind, hroute, Route.destination, hcall]
    rfl
  · rintro (fault | reply)
    · rfl
    · simp only [http, beq_iff_eq, hmethod, if_false]
      rfl

theorem http_serves : http.Serves := by
  -- What is sent with a request does not matter for where it leads, as long as it can be sent.
  have hbody : ∀ {content body}, http.body content = .ok body →
      content.check = .ok () ∧ content.json? = body := by
    intro content body h
    simp only [http, bind, Except.bind] at h
    cases hcheck : content.check with
    | error e =>
      rw [hcheck] at h
      cases h
    | ok u =>
      rw [hcheck] at h
      exact ⟨rfl, Except.ok.inj h⟩
  constructor
  · have hread : Target.read "/api/dialogues" .nothing =
        .ok ⟨false, true, "/api/dialogues".toList⟩ :=
      Target.read_of_no_percent (by decide) (by decide) rfl
    have hpath : Endpoint.ofPath? "/api/dialogues".toList = some .list := by decide +kernel
    exact http_leads hread hpath Access.purpose?_get rfl (by decide)
  · intro id quoted hid hquote
    obtain ⟨quoted', hquote', hread⟩ := hid.read_documentAddress
    obtain rfl := Except.ok.inj (hquote.symm.trans hquote')
    have hread : Target.read (documentAddress quoted) .nothing =
        .ok ⟨false, true, ("/dialogue/" ++ id ++ ".json").toList⟩ := (hread .nothing).trans rfl
    exact http_leads hread hid.ofPath? Access.purpose?_get rfl (by decide)
  · intro content body h
    obtain ⟨hcheck, rfl⟩ := hbody h
    have hread : Target.read "/api/resolve" content = .ok ⟨false, true, "/api/resolve".toList⟩ :=
      Target.read_of_no_percent (by decide) (by decide) hcheck
    have hpath : Endpoint.ofPath? "/api/resolve".toList = some .resolve := by decide +kernel
    exact http_leads hread hpath Access.purpose?_post rfl (by decide)
  · intro content body h
    obtain ⟨hcheck, rfl⟩ := hbody h
    have hread : Target.read "/api/validate" content = .ok ⟨false, true, "/api/validate".toList⟩ :=
      Target.read_of_no_percent (by decide) (by decide) hcheck
    have hpath : Endpoint.ofPath? "/api/validate".toList = some .validate := by decide +kernel
    exact http_leads hread hpath Access.purpose?_post rfl (by decide)

theorem membersOf_obj (ms : Members) : membersOf (.ok (some (.obj ms))) = .ok ms := by
  cases ms <;> rfl

end Parley.Web
