import Parley.Web.Target

/-!
# Routes

An endpoint is reached by one form of path and by certain methods. A path that would reach one if
doubled slashes were single is redirected there.
-/

namespace Parley.Web

inductive Endpoint where
  /-- The document of an id. -/
  | document (id : String)
  /-- The list of all documents. -/
  | list
  /-- A preview of what a document plays. -/
  | resolve
  /-- The validation of a text. -/
  | validate
  /-- A file to be served as it is, of which there is none. -/
  | asset
deriving DecidableEq, Repr

/-- What is done at an endpoint. -/
inductive Access where
  | read
  | post
deriving DecidableEq, Repr

namespace Endpoint

/-- The id in the name of a document's file, which must not be empty. -/
def documentId? (name : String) : Option String :=
  let cs := name.toList
  let suffix := ".json".toList
  if suffix.isSuffixOf cs && suffix.length < cs.length then
    some (String.ofList (cs.take (cs.length - suffix.length)))
  else none

/-- Whether a path leads to a file to be served: it has a name, and no line feed after its first
character. -/
def isAssetName (path : String) : Bool :=
  match path.toList with
  | c :: rest => c != '/' && !rest.contains '\n'
  | [] => false

def ofSegments? : List String → Option Endpoint
  | ["dialogue", name] => (documentId? name).map .document
  | ["api", "dialogues"] => some .list
  | ["api", "resolve"] => some .resolve
  | ["api", "validate"] => some .validate
  | "static" :: names => if isAssetName ("/".intercalate names) then some .asset else none
  | _ => none

def ofPath? (path : List Char) : Option Endpoint :=
  ofSegments? ((segments path).map String.ofList)

def access : Endpoint → Access
  | .resolve | .validate => .post
  | _ => .read

end Endpoint

/-- What a method asks for: an answer, or which methods there are. -/
inductive Purpose where
  | answer
  | methods
deriving DecidableEq, Repr

/-- The characters beyond ASCII that are ASCII in capitals, with these capitals. -/
def foreignCapitals : List (Char × List Char) :=
  [('ß', ['S', 'S']), ('ı', ['I']), ('ſ', ['S']), ('ﬀ', ['F', 'F']), ('ﬁ', ['F', 'I']),
    ('ﬂ', ['F', 'L']), ('ﬃ', ['F', 'F', 'I']), ('ﬄ', ['F', 'F', 'L']), ('ﬅ', ['S', 'T']),
    ('ﬆ', ['S', 'T'])]

def capitals (method : String) : String :=
  String.ofList (method.toList.flatMap fun c => (foreignCapitals.lookup c).getD [c.toUpper])

/-- What a method asks for at an endpoint, if it may be used there. -/
def Access.purpose? (a : Access) (method : String) : Option Purpose :=
  match a, capitals method with
  | .read, "GET" => some .answer
  | .read, "HEAD" => some .answer
  | .post, "POST" => some .answer
  | _, "OPTIONS" => some .methods
  | _, _ => none

/-- Where a request leads. -/
inductive Route where
  | found (endpoint : Endpoint) (purpose : Purpose)
  | moved
  /-- There is an endpoint, but none for web sockets. -/
  | noSocket
  | wrongMethod
  | nowhere
  /-- There can be no such server. -/
  | noServer
deriving DecidableEq, Repr

/-- The route of a method, in letters of any case, and a target. -/
def Route.of (method : String) (target : Target) : Route :=
  let reached (e : Endpoint) (r : Purpose → Route) : Route :=
    match e.access.purpose? method with
    | some p => if target.socket then .noSocket else r p
    | none => .wrongMethod
  if !target.reachable then .noServer
  else match Endpoint.ofPath? target.path with
    | some e => reached e fun p => .found e p
    | none => match Endpoint.ofPath? (mergeSlashes target.path) with
      | some e => reached e fun _ => .moved
      | none => .nowhere

theorem Endpoint.documentId?_append (id : String) (h : id ≠ "") :
    documentId? (id ++ ".json") = some id := by
  have hid : 0 < id.toList.length := by
    rw [List.length_pos_iff]
    intro e
    exact h (String.toList_inj.mp (by simpa using e))
  simp only [documentId?, String.toList_append]
  have hs : ".json".toList.isSuffixOf (id.toList ++ ".json".toList) = true :=
    List.isSuffixOf_iff_suffix.mpr ⟨id.toList, rfl⟩
  simp only [hs, Bool.true_and, List.length_append, Nat.add_sub_cancel, List.take_left]
  simp [hid]

end Parley.Web
