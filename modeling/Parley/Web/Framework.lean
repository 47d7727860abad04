import Parley.Web.Handlers

/-!
# Web frameworks

A framework leads requests to handlers, and sends what these reply or, where one fails, a page of its
own. How it reads addresses and bodies is its own affair, so it is taken as it comes.
-/

namespace Parley.Web

/-- What a request carries: a value as JSON, or a text with its content type. -/
inductive Content where
  | nothing
  | json (v : Json)
  | text (contentType body : String)

structure Request where
  method : String
  address : String
  content : Content

/-- A response. One that is no JSON is known by its status alone. -/
structure Response where
  status : Nat
  body : Option Json
deriving Repr

def Response.page (status : Nat) : Response := ⟨status, none⟩

def Reply.response (r : Reply) : Response := ⟨r.status, some r.body⟩

/-- Where a request leads: to a handler, or to a response of the framework's own. -/
inductive Destination where
  | handler (i : Invocation)
  | own (response : Response)

/-- A framework, with its reasons why a request cannot be sent. -/
structure Framework (ε : Type) where
  route : Request → Except ε Destination
  /-- What becomes of the content of a request when a handler reads it as JSON. -/
  body : Content → Except ε (Except Fault (Option Json))
  /-- What is sent for what a handler replies or fails with. -/
  send : Request → Except Fault Reply → Response

namespace Framework

variable {ε : Type}

/-- The response to a request, unless the request cannot be sent. -/
def respond (F : Framework ε) (t : FileTree) (r : Repository) (request : Request) :
    Except ε Response × Repository :=
  match F.route request with
  | .error e => (.error e, r)
  | .ok (.own response) => (.ok response, r)
  | .ok (.handler i) =>
    let (outcome, r) := serve t r i
    (.ok (F.send request outcome), r)

end Framework
end Parley.Web
