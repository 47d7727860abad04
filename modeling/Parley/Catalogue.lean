import Parley.Fault
import Parley.Json.Display
import Parley.Text.Order
import Parley.Text.Replace
import Parley.Text.Split

/-!
# Message catalogues

A catalogue holds a tree of messages for each locale. A dotted key leads through the tree of the
current locale, then through that of the fallback locale. A message may have places in braces,
which are filled from named values one after another.
-/

namespace Parley

/-- Messages by locale, with the locale in use and the one to fall back to. The names of these two
come from settings and may be any value. -/
structure Catalogue where
  locales : Members
  current : Json
  fallback : Json
deriving Repr

namespace Catalogue

/-- The value that segments of a key lead to, or null. -/
def descend : Json → List String → Json
  | v, [] => v
  | .obj ms, segment :: rest => match Members.get? ms segment with
    | some v => descend v rest
    | none => .null
  | _, _ :: _ => .null

/-- The tree of a locale, or null. A list or an object is no name to look up by. -/
def tree (c : Catalogue) : Json → Except Fault Json
  | .str name => .ok (c.locales.get name)
  | .arr items => .error (.notAKey (Json.arr items).kind)
  | .obj ms => .error (.notAKey (Json.obj ms).kind)
  | _ => .ok .null

def segments (key : String) : List String := (Text.pieces '.' key.toList).map String.ofList

/-- The value of a key in a locale, or null. The key has to be a text if the locale has a tree. -/
def lookup (c : Catalogue) (locale key : Json) : Except Fault Json := do
  let t ← c.tree locale
  if t.isNull then return .null
  match key with
  | .str k => return descend t (segments k)
  | v => .error (.noMember v.kind "split")

/-- The value of a key in the current locale, else in the fallback locale. -/
def find (c : Catalogue) (key : Json) : Except Fault Json := do
  let v ← c.lookup c.current key
  if v.isNull then c.lookup c.fallback key else return v

/-- The place in a message that a named value fills. -/
def placeholder (name : String) : List Char := '\x7b' :: name.toList ++ ['\x7d']

/-- Fills the places of a message, one named value after another. What is inserted is the display of
a value, which has to be one that can be written. -/
def fill (message : String) (params : Members) : String :=
  params.foldl (fun s p => String.ofList
    (Text.replaceAll (placeholder p.1) p.2.display.toList s.toList)) message

/-- What stands for a message that is not found: the caller's text, else the key. -/
def stopgap (key fallback : Json) : Json := if fallback.isNull then key else fallback

/-- The message of a key with its places filled. What is found but is no text counts as missing,
and what stands for a missing message is filled too if it is a text found in no tree. -/
def translate (c : Catalogue) (key : Json) (params : Members) (fallback : Json) :
    Except Fault Json := do
  let found ← c.find key
  let raw := if found.isNull then stopgap key fallback else found
  match raw with
  | .str s => return .str (fill s params)
  | _ => return stopgap key fallback

def names (c : Catalogue) : List String := sortedTexts (c.locales.map (·.1))

def isLocaleFile (name : String) : Bool := ".json".toList.isSuffixOf name.toList

/-- Reads files of a directory into trees by stem. A file that cannot be read or is no JSON is
skipped. -/
def readFiles (t : FileTree) (directory : FilePath) : List String → Except Fault Members
  | [] => .ok []
  | name :: rest => do
    let tree ← match t.readText (directory.child name) with
      | .error (.unreadable _) => .ok none
      | .error f => .error f
      | .ok text => match Json.read text with
        | .ok v => .ok (some v)
        | .error (.malformed _) => .ok none
        | .error e => .error (.ofReadError e)
    let others ← readFiles t directory rest
    return match tree with
      | some v => (FilePath.stemOf name, v) :: others
      | none => others

/-- The catalogue of a directory with one file for each locale. A directory that is missing has no
files. -/
def ofDirectory (t : FileTree) (directory : FilePath) (current fallback : Json) :
    Except Fault Catalogue := do
  if let .error e := t.pathExists directory then throw (.unreadable e)
  let files := sortedTexts ((t.names directory).filter isLocaleFile)
  return ⟨← readFiles t directory files, current, fallback⟩

end Catalogue

/-- How texts are translated: not at all, or by a catalogue. -/
inductive Translator where
  | none
  | catalogue (c : Catalogue)
deriving Repr

namespace Translator

def translate (t : Translator) (key fallback : Json) : Except Fault Json :=
  match t with
  | .none => .ok (Catalogue.stopgap key fallback)
  | .catalogue c => c.translate key [] fallback

/-- The message of a key if it is a text, else the given text. -/
def translateText (t : Translator) (key : Json) (text : String) : Except Fault String :=
  match t with
  | .none => .ok text
  | .catalogue c => do
    match ← c.find key with
    | .str s => return s
    | _ => return text

end Translator

end Parley
