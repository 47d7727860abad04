import Parley.Fault

/-!
# Settings

Settings come from a JSON object; a member that is missing keeps its default. Only the cooldown and
the two directories are converted, everything else keeps the value that is given.
-/

namespace Parley

structure Settings where
  /-- How long a character cannot be addressed after a conversation, in milliseconds. A file can only
  set an integer. -/
  interactionCooldown : Json
  defaultEmotion : Json
  unknownSpeakerName : Json
  playerName : Json
  dialoguesRoot : FilePath
  locale : Json
  fallbackLocale : Json
  localeRoot : Option FilePath
deriving Repr

namespace Settings

def default : Settings where
  interactionCooldown := .num 250
  defaultEmotion := .str "happy"
  unknownSpeakerName := .str "???"
  playerName := .str "You"
  dialoguesRoot := ⟨"", ["resources", "dialogue"]⟩
  locale := .str "en"
  fallbackLocale := .str "en"
  localeRoot := none

/-- The value that names lead to through objects. -/
def get? : Json → List String → Option Json
  | v, [] => some v
  | .obj ms, name :: rest => match Members.get? ms name with
    | some v => get? v rest
    | none => none
  | _, _ :: _ => none

def readPath : Json → Except Fault FilePath
  | .str s => .ok (FilePath.ofString s)
  | v => .error (.noPath v.kind)

/-- Settings from a value. What counts as false is an empty object. -/
def ofJson (v : Json) : Except Fault Settings := do
  let v := if v.truthy then v else .obj []
  let keep (names : List String) (d : Json) : Json := (get? v names).getD d
  let localeRoot := keep ["locale", "root"] .null
  let cooldown ← match get? v ["interaction_cooldown_ms"] with
    | some v => v.toInteger.map fun n => .num (.int n)
    | none => .ok default.interactionCooldown
  let dialogues ← match get? v ["dialogues_root"] with
    | some p => readPath p
    | none => .ok default.dialoguesRoot
  let root ← if localeRoot.truthy then (readPath localeRoot).map some else .ok none
  return {
    interactionCooldown := cooldown
    defaultEmotion := keep ["default_emotion"] default.defaultEmotion
    unknownSpeakerName := keep ["unknown_speaker_name"] default.unknownSpeakerName
    playerName := keep ["player_name"] default.playerName
    dialoguesRoot := dialogues
    locale := keep ["locale", "locale"] default.locale
    fallbackLocale := keep ["locale", "fallback_locale"] default.fallbackLocale
    localeRoot := root }

def ofText (text : String) : Except Fault Settings :=
  match Json.read text with
  | .ok v => ofJson v
  | .error e => .error (Fault.ofReadError e)

def ofFile (t : FileTree) (p : FilePath) : Except Fault Settings :=
  match t.readText p with
  | .ok text => ofText text
  | .error f => .error f

def toJson (s : Settings) : Json :=
  .obj [("interaction_cooldown_ms", s.interactionCooldown),
    ("default_emotion", s.defaultEmotion), ("unknown_speaker_name", s.unknownSpeakerName),
    ("player_name", s.playerName), ("dialogues_root", .str s.dialoguesRoot.toString),
    ("locale", .obj [("locale", s.locale), ("fallback_locale", s.fallbackLocale),
      ("root", match s.localeRoot with
        | some p => .str p.toString
        | none => .null)])]

end Settings
end Parley
