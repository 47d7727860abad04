import Parley.Dialogue.Reading
import Parley.Text.Order

/-!
# The repository of dialogues

Documents live in one directory, a file for each id. A document is loaded at its first use and kept
from then on; only one with something to play is kept. Every load says in a log what it found.
-/

namespace Parley

/-- A record of the repository's log. -/
inductive LogEntry where
  | rejected (id : Json)
  | missing (id : String)
  | failed (id : String) (errors : List Finding)
  | noted (id : String) (warning : Finding)
  | empty (id : String)
deriving Repr

namespace LogEntry

def level : LogEntry → String
  | .noted .. => "DEBUG"
  | _ => "WARNING"

def message : LogEntry → String
  | .rejected id => "Rejected dialogue id " ++ id.quoted
  | .missing id => "Missing dialogue: " ++ id
  | .failed id errors =>
    "Failed to load dialogue " ++ id ++ ": " ++ "; ".intercalate (errors.map Finding.message)
  | .noted id warning => id ++ ": " ++ warning.message
  | .empty id => "Empty dialogue: " ++ id

end LogEntry

def isSafeChar (c : Char) : Bool := c.isAlphanum || c == '_' || c == '-'

/-- Whether an id may name a file: letters and digits of ASCII, underscores and hyphens, at least
one of them; a line feed may end it. -/
def isSafeId (id : String) : Bool :=
  let cs := id.toList
  let cs := if cs.getLast? == some '\n' then cs.dropLast else cs
  !cs.isEmpty && cs.all isSafeChar

structure Repository where
  root : FilePath
  cache : List (String × Document)

namespace Repository

/-- A repository that has loaded nothing yet. -/
def ofRoot (root : FilePath) : Repository := ⟨root, []⟩

def fileName (id : String) : String := id ++ ".json"

def pathFor (r : Repository) (id : String) : Option FilePath :=
  if isSafeId id then some (r.root.child (fileName id)) else none

/-- The document of an id from the files as they are now, with what is logged. -/
def fetch (r : Repository) (t : FileTree) (id : String) :
    Except Fault (Option Document) × List LogEntry :=
  match r.pathFor id with
  | none => (.ok none, [.rejected (.str id)])
  | some path => match t.pathExists path with
    | .error e => (.error (.unreadable e), [])
    | .ok false => (.ok none, [.missing id])
    | .ok true => match Document.loadFile t path with
      | .error f => (.error f, [])
      | .ok l => match l.document with
        | none => (.ok none, [.failed id l.errors])
        | some d =>
          let notes := l.warnings.map (LogEntry.noted id)
          if d.hasAnyLines then (.ok (some d), notes) else (.ok none, notes ++ [.empty id])

/-- The document of an id: the one kept, else the one in the files, which is kept from now on. -/
def load (r : Repository) (t : FileTree) (id : String) :
    Except Fault (Option Document) × List LogEntry × Repository :=
  match r.cache.lookup id with
  | some d => (.ok (some d), [], r)
  | none => match r.fetch t id with
    | (.ok (some d), log) => (.ok (some d), log, { r with cache := r.cache ++ [(id, d)] })
    | (result, log) => (result, log, r)

/-- The document of an id that may be any value. What counts as false is rejected, and nothing else
but a text is an id. -/
def loadValue (r : Repository) (t : FileTree) (id : Json) :
    Except Fault (Option Document) × List LogEntry × Repository :=
  match id with
  | .str id => r.load t id
  | .arr _ | .obj _ => (.error (.notAKey id.kind), [], r)
  | id => if id.truthy then (.error (.noId id.kind), [], r) else (.ok none, [.rejected id], r)

def pathForValue (r : Repository) (id : Json) : Except Fault (Option FilePath) :=
  match id with
  | .str id => .ok (r.pathFor id)
  | id => if id.truthy then .error (.noId id.kind) else .ok none

/-- A document that is kept is loaded from no file, and nothing is logged. -/
theorem load_of_cached {r : Repository} {t : FileTree} {id : String} {d : Document}
    (h : r.cache.lookup id = some d) : r.load t id = (.ok (some d), [], r) := by
  simp [load, h]

def isDocumentFile (name : String) : Bool := ".json".toList.isSuffixOf name.toList

/-- The ids of all files that may hold a document, in order. -/
def availableIds (r : Repository) (t : FileTree) : Except Fault (List String) :=
  match t.pathExists r.root with
  | .error e => .error (.unreadable e)
  | .ok false => .ok []
  | .ok true =>
    .ok (sortedTexts ((((t.names r.root).filter isDocumentFile).map FilePath.stemOf).filter isSafeId))

end Repository
end Parley
