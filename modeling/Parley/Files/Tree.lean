import Parley.Files.Path
import Parley.Text.Bytes
import Parley.Text.Quoted

/-!
# A tree of files

Files by their places. A place is the list of names that leads to it from the working directory;
double points at its front lead above, and a slash in front is the root. Directories exist because
they were made, because a file is below them, or because the working directory is. Names are bytes:
texts with the same bytes are one name, and a text without bytes is none.
-/

namespace Parley

/-- What stands at a place of the tree. -/
inductive FileEntry where
  | file (bytes : List UInt8)
  | directory
deriving DecidableEq, Repr

/-- Why a path leads to no file that can be read or written. -/
inductive AccessProblem where
  | missing
  | alreadyThere
  | notDirectory
  | isDirectory
  | nameTooLong
deriving DecidableEq, Repr

/-- A refused access, with the path as it was given. -/
structure AccessError where
  problem : AccessProblem
  path : String
deriving DecidableEq, Repr

def AccessProblem.message : AccessProblem → String
  | .missing => "[Errno 2] No such file or directory"
  | .alreadyThere => "[Errno 17] File exists"
  | .notDirectory => "[Errno 20] Not a directory"
  | .isDirectory => "[Errno 21] Is a directory"
  | .nameTooLong => "[Errno 36] File name too long"

def AccessError.message (e : AccessError) : String :=
  e.problem.message ++ ": " ++ Text.quoted e.path

/-- Entries by their places. -/
structure FileTree where
  entries : List (List String × FileEntry)
deriving Repr

namespace FileTree

def empty : FileTree := ⟨[]⟩

def nameLimit : Nat := 255

def pathLimit : Nat := 4095

/-- Whether a place is the working directory, one above it, or the root. -/
def isAncestor (place : List String) : Bool := place.all (· == "..") || place == ["/"]

/-- The directory of a place. The root is its own. -/
def parent (place : List String) : List String :=
  if place == ["/"] then place
  else if place.all (· == "..") then place ++ [".."]
  else place.dropLast

def origin (p : FilePath) : List String := if p.root == "" then [] else ["/"]

def at? (t : FileTree) (place : List String) : Option FileEntry :=
  if isAncestor place then some .directory
  else match t.entries.lookup place with
    | some e => some e
    | none =>
      if t.entries.any fun e => place.isPrefixOf e.1 then some .directory else none

/-- The place that a name leads to from a directory. Double points lead back. -/
def enter (place : List String) (name : String) : Except AccessProblem (List String) :=
  match Text.toBytes? name with
  | none => .error .missing
  | some bytes =>
    if nameLimit < bytes.length then .error .nameTooLong
    else if name == ".." then .ok (parent place)
    else .ok (place ++ [Text.ofBytes bytes])

/-- Follows names from a place. Every name but the last must be a directory. -/
def walk (t : FileTree) : List String → List String → Except AccessProblem (List String)
  | place, [] => .ok place
  | place, name :: rest =>
    match t.at? place with
    | none => .error .missing
    | some (.file _) => .error .notDirectory
    | some .directory => match enter place name with
      | .error e => .error e
      | .ok place => t.walk place rest

/-- Whether bytes may be those of a path: there is no zero among them, and they are not too many. -/
def checkLength (bytes : List UInt8) : Except AccessProblem Unit :=
  if bytes.contains 0 then .error .missing
  else if pathLimit < bytes.length then .error .nameTooLong
  else .ok ()

def placeOf (t : FileTree) (p : FilePath) : Except AccessProblem (List String) :=
  match Text.toBytes? p.toString with
  | none => .error .missing
  | some bytes => match checkLength bytes with
    | .error e => .error e
    | .ok () => t.walk (origin p) p.names

def find (t : FileTree) (p : FilePath) : Except AccessProblem FileEntry :=
  match t.placeOf p with
  | .error e => .error e
  | .ok place => match t.at? place with
    | some e => .ok e
    | none => .error .missing

/-- Whether something is there; a name that is too long is an error here too. -/
def pathExists (t : FileTree) (p : FilePath) : Except AccessError Bool :=
  match t.find p with
  | .ok _ => .ok true
  | .error .nameTooLong => .error ⟨.nameTooLong, p.toString⟩
  | .error _ => .ok false

def isDirectory (t : FileTree) (p : FilePath) : Bool :=
  match t.find p with
  | .ok .directory => true
  | _ => false

def readBytes (t : FileTree) (p : FilePath) : Except AccessError (List UInt8) :=
  match t.find p with
  | .ok (.file bytes) => .ok bytes
  | .ok .directory => .error ⟨.isDirectory, p.toString⟩
  | .error e => .error ⟨e, p.toString⟩

def names (t : FileTree) (p : FilePath) : List String :=
  match t.placeOf p with
  | .error _ => []
  | .ok place =>
    if t.at? place != some .directory then []
    else
      let below := t.entries.filterMap fun e =>
        if place.isPrefixOf e.1 then (e.1.drop place.length).head? else none
      below.eraseDups.filter fun name => name != ".." && name != "/"

def put (t : FileTree) (place : List String) (e : FileEntry) : FileTree :=
  ⟨(t.entries.filter (·.1 != place)) ++ [(place, e)]⟩

/-- Makes the directories that names lead through, and tells the place of the last. -/
def makeDirectories (t : FileTree) :
    List String → List String → Except AccessProblem (FileTree × List String)
  | place, [] => .ok (t, place)
  | place, name :: rest => match enter place name with
    | .error e => .error e
    | .ok next => match t.at? next with
      | some .directory => t.makeDirectories next rest
      | some (.file _) => .error (if rest.isEmpty then .alreadyThere else .notDirectory)
      | none => (t.put next .directory).makeDirectories next rest

/-- Writes an entry at a path. The directories that are missing on the way are made. -/
def write (t : FileTree) (p : FilePath) (e : FileEntry) : Except AccessError FileTree :=
  match e, p.names.getLast? with
  | .file _, some name =>
    let directory : FilePath := { p with names := p.names.dropLast }
    match t.makeDirectories (origin p) directory.names with
    | .error problem => .error ⟨problem, directory.toString⟩
    | .ok (t, place) => match enter place name with
      | .error problem => .error ⟨problem, p.toString⟩
      | .ok place =>
        if t.at? place = some .directory then .error ⟨.isDirectory, p.toString⟩
        else .ok (t.put place e)
  | .file _, none => .error ⟨.isDirectory, p.toString⟩
  | .directory, _ => match t.makeDirectories (origin p) p.names with
    | .error problem => .error ⟨problem, p.toString⟩
    | .ok (t, _) => .ok t

/-- Removes the file at a path. Its directory stays. -/
def remove (t : FileTree) (p : FilePath) : Except AccessError FileTree :=
  match t.placeOf p with
  | .error e => .error ⟨e, p.toString⟩
  | .ok place => match t.at? place with
    | some (.file _) =>
      let directory := parent place
      .ok ⟨(t.entries.filter (·.1 != place)) ++
        (if isAncestor directory then [] else [(directory, .directory)])⟩
    | some .directory => .error ⟨.isDirectory, p.toString⟩
    | none => .error ⟨.missing, p.toString⟩

end FileTree
end Parley
