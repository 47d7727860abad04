import Parley.Dialogue.Reading
import Parley.Dialogue.Statistics
import Parley.Terminal.Stream
import Parley.Terminal.Style
import Parley.Validation.Issue

/-!
# Validation reports

A document is valid when validation reports no error. The report shows the errors, then the
warnings, then one line that sums them up. A validator writes it to a stream unless it is quiet, and
comes to no result if the stream refuses a row.
-/

namespace Parley

structure Validation where
  errors : List Issue
  warnings : List Issue
  document : Option Document
  statistics : Option Statistics

namespace Validation

def valid (v : Validation) : Bool := v.errors.isEmpty

/-- A validation that ended with one error before a document could be read. -/
def failed (location message : String) (suggestion : Option String) : Validation :=
  ⟨[⟨.error, location, message, suggestion⟩], [], none, none⟩

/-- The validation of a document that was loaded: first what the reading found, then the flaws. -/
def ofLoaded (l : Loaded) : Validation :=
  let flaws := match l.document with
    | some d => d.flaws.map Issue.ofFlaw
    | none => []
  ⟨l.errors.map (Issue.ofFinding .error) ++ flaws.filter (·.severity == .error),
    l.warnings.map (Issue.ofFinding .warning) ++ flaws.filter (·.severity == .warning),
    l.document,
    l.document.map fun d => d.statistics l.errors.length l.warnings.length⟩

def ofValue (v : Json) (defaultId : String) : Except Fault Validation :=
  (Document.load v defaultId).map ofLoaded

def ofText (text defaultId : String) : Except Fault Validation :=
  match Json.read text with
  | .ok v => ofValue v defaultId
  | .error (.malformed e) => .ok (failed ("line " ++ toString e.line)
      ("Invalid JSON: " ++ e.problem.message)
      (some "Check for trailing commas and unquoted keys"))
  | .error e => .error (.ofReadError e)

def ofFile (t : FileTree) (p : FilePath) : Except Fault Validation :=
  match t.pathExists p with
  | .error e => .error (.unreadable e)
  | .ok false => .ok (failed "file" ("File not found: " ++ p.toString) none)
  | .ok true => match t.readText p with
    | .error (.unreadable e) => .ok (failed "file" ("Cannot read file: " ++ e.message) none)
    | .error e => .error e
    | .ok text => ofText text p.stem

def ofNothing : Validation := failed "file" "File not found: None" none

def issueRows (style : Style) (i : Issue) : List String :=
  let label := match i.severity with
    | .error => "ERROR"
    | .warning => "WARNING"
  (style.apply label ++ " " ++ Style.brightCyan.apply i.location ++ ": " ++ i.message) ::
    match i.suggestion with
    | some s => ["    " ++ Style.brightBlue.apply ("💡 " ++ s)]
    | none => []

def summaryRow (v : Validation) : String :=
  if !v.errors.isEmpty then
    Style.brightRed.apply ("❌ " ++ toString v.errors.length ++ " error(s), " ++
      toString v.warnings.length ++ " warning(s)")
  else if !v.warnings.isEmpty then
    Style.brightYellow.apply ("⚠️  Passed with " ++ toString v.warnings.length ++ " warning(s)")
  else Style.brightGreen.apply "✅ No issues found"

def ruleWidth : Nat := 60

def report (v : Validation) (name : String) : List String :=
  ["\n" ++ Style.bold.apply ("Validating: " ++ name), doubleRule ruleWidth] ++
    v.errors.flatMap (issueRows .brightRed) ++
    v.warnings.flatMap (issueRows .brightYellow) ++
    ["\n" ++ v.summaryRow]

/-- The name of content that comes from no file. -/
def anonymous : String := "<content>"

end Validation

/-- A validator: the file that it is for, if it is for one, and the stream that it reports to, none if
it is quiet. -/
structure Validator where
  file : Option FilePath
  stream : Option Terminal.Stream

namespace Validator

def title (w : Validator) : String :=
  match w.file with
  | some p => p.name
  | none => Validation.anonymous

def report (w : Validator) (r : Except Fault Validation) : List String × Except Fault Validation :=
  match r, w.stream with
  | .ok v, some s => match s.write (v.report w.title) with
    | (rows, some fault) => (rows, .error fault)
    | (rows, none) => (rows, .ok v)
  | r, _ => ([], r)

def validateValue (w : Validator) (v : Json) (defaultId : String) :
    List String × Except Fault Validation :=
  w.report (Validation.ofValue v defaultId)

def validateText (w : Validator) (text defaultId : String) :
    List String × Except Fault Validation :=
  w.report (Validation.ofText text defaultId)

def validate (w : Validator) (t : FileTree) : List String × Except Fault Validation :=
  w.report (match w.file with
    | some p => Validation.ofFile t p
    | none => .ok Validation.ofNothing)

end Validator

def textOfRows (rows : List String) : String := String.join (rows.map (· ++ "\n"))

end Parley
