import Parley.Dialogue.Encode
import Parley.Dialogue.Resolution
import Parley.Repository
import Parley.Validation.Report

/-!
# The handlers of the web server

A handler replies with JSON: a document, the list of all documents, a preview of what one plays, or a
validation. It is called by a framework, which also takes its reply, or the fault that it fails with.
One repository serves all calls, so a document that was served once is kept.
-/

namespace Parley.Web

/-- What a handler is called with. The body of a request is what becomes of it when it is read as
JSON, which is nothing if it is none. -/
inductive Invocation where
  | document (id : String)
  | list
  | resolve (body : Except Fault (Option Json))
  | validate (body : Except Fault (Option Json))

structure Reply where
  status : Nat
  body : Json
deriving Repr

namespace Reply

def json (v : Json) : Reply := ⟨200, v⟩

def refusal (status : Nat) (reason : String) : Reply := ⟨status, .obj [("error", .str reason)]⟩

def noDocument : Reply := refusal 404 "Dialogue not found"

def noId : Reply := refusal 400 "No npcId specified"

end Reply

def replyLoaded (result : Except Fault (Option Document)) (reply : Document → Reply) :
    Except Fault Reply :=
  result.map fun document => (document.map reply).getD .noDocument

def serveDocument (t : FileTree) (r : Repository) (id : String) : Except Fault Reply × Repository :=
  let (result, _, r) := r.load t id
  (replyLoaded result fun d => .json d.toJson, r)

def listEntry (id : String) (l : Loaded) : Json :=
  .obj ([("id", .str id), ("valid", .bool (l.document.isSome && l.errors.isEmpty))] ++
    match l.document with
    | some d =>
      [("stats", .obj (d.statistics l.errors.length l.warnings.length).toMembers)]
    | none => [])

def listEntries (t : FileTree) (r : Repository) : List String → Except Fault (List Json)
  | [] => .ok []
  | id :: rest => do
    let l ← Document.loadFile t (r.root.child (Repository.fileName id))
    return listEntry id l :: (← listEntries t r rest)

def serveList (t : FileTree) (r : Repository) : Except Fault Reply := do
  let entries ← listEntries t r (← r.availableIds t)
  return .json (.obj [("dialogues", .arr entries)])

def previewJson (d : Document) (inventory : Option Snapshot) : Json :=
  let r := d.preview inventory
  .obj [("id", .str d.id), ("lines", .arr (r.lines.map Line.toJson)),
    ("actions", .arr (r.actions.map Action.toJson))]

def replyPreview (d : Document) (inventory : Json) : Reply :=
  match Snapshot.ofJson inventory with
  | .error fault => .refusal 500 fault.message
  | .ok inventory => .json (previewJson d inventory)

/-- The members of a body. What counts as false has none, and where anything else is no object they
cannot be looked up. -/
def membersOf (body : Except Fault (Option Json)) : Except Fault Members := do
  let v := (← body).getD .null
  if v.truthy then
    match v with
    | .obj ms => .ok ms
    | v => .error (.noMember v.kind "get")
  else return []

/-- A preview of the document that the members name, with the inventory among them. -/
def servePreview (t : FileTree) (r : Repository) (ms : Members) : Except Fault Reply × Repository :=
  let npc := ms.get "npcId"
  if !npc.truthy then (.ok .noId, r)
  else
    let (result, _, r) := r.loadValue t npc
    (replyLoaded result fun d => replyPreview d (ms.get "inventory"), r)

def validationJson (v : Validation) : Json :=
  .obj [("valid", .bool v.valid), ("errors", .arr (v.errors.map Issue.toJson)),
    ("warnings", .arr (v.warnings.map Issue.toJson)),
    ("stats", .obj (match v.statistics with
      | some s => s.toMembers
      | none => []))]

/-- The validation of the content among the members, which is empty if there is none. -/
def serveValidation (ms : Members) : Except Fault Reply :=
  match (ms.get? "content").getD (.str "") with
  | .str text => (Validation.ofText text "").map fun v => .json (validationJson v)
  | v => .error (.noText v.kind)

/-- The reply of a handler, or the fault that it fails with. -/
def serve (t : FileTree) (r : Repository) : Invocation → Except Fault Reply × Repository
  | .document id => serveDocument t r id
  | .list => (serveList t r, r)
  | .resolve body => match membersOf body with
    | .ok ms => servePreview t r ms
    | .error fault => (.error fault, r)
  | .validate body => (membersOf body >>= serveValidation, r)

end Parley.Web
