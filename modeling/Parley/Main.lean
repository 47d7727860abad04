import Parley.CommandLine.Run
import Parley.CommandLine.Usage

/-!
# The program

The files that a command names are read, then the command runs on them. A conversation is played
with the rows that are typed.
-/

namespace Parley

def readEntry (t : FileTree) (p : FilePath) : IO FileTree := do
  let place := (← IO.currentDir) / Text.shown p.toString
  let entry? ← if ← place.isDir then pure (some FileEntry.directory)
    else if ← place.pathExists then
      pure (some (.file (← IO.FS.readBinFile place).toList))
    else pure none
  return match entry?.map (t.write p) with
    | some (.ok t) => t
    | _ => t

/-- Puts what is at a path into a tree, with the directories on the way. Of a directory the files
in it are read too. -/
def readPath (t : FileTree) (p : FilePath) : IO FileTree := do
  let mut t := t
  for n in List.range p.names.length do
    t ← readEntry t { p with names := p.names.take (n + 1) }
  let place := (← IO.currentDir) / Text.shown p.toString
  if ← place.isDir then
    for entry in ← place.readDir do
      let name := Text.carried entry.fileName
      if Repository.isDocumentFile name then
        t ← readEntry t (p.child name)
  return t

def printRows (stream : IO.FS.Stream) (text : String) : IO Unit := do
  stream.putStr (Text.shown text)
  stream.flush

/-- Prints an outcome. A fault that ends the program is told last. -/
def report (o : CommandLine.Outcome) : IO UInt32 := do
  printRows (← IO.getStdout) o.stdout
  printRows (← IO.getStderr) (o.stderr ++ match o.fault with
    | some fault => fault.message ++ "\n"
    | none => "")
  return UInt32.ofNat o.code

/-- Prints what a player shows and keeps none of it. -/
def flushPlayer (p : Terminal.Player) : IO Terminal.Player := do
  printRows (← IO.getStdout) (String.join (p.outputs.map CommandLine.screenText))
  return { p with outputs := [] }

/-- The next row that is typed, or nothing at the end. -/
def readRow : IO (Option Terminal.Input) := do
  let row ← (← IO.getStdin).getLine
  if row.isEmpty then return none
  return some (.text (Text.carried (row.dropEndWhile fun c => c == '\n' || c == '\r').toString))

/-- Plays on up to the end of the conversation or of the input. -/
partial def playRows (p : Terminal.Player) : IO (Except Fault Unit × Terminal.Player) := do
  if !p.engine.session.active then return (.ok (), p)
  let p ← flushPlayer p.ask
  match p.reply (← readRow) with
  | (.error fault, p) => return (.error fault, p)
  | (.ok true, p) => playRows (← flushPlayer p)
  | (.ok false, p) => return (.ok (), p.abandon)

def reportFault (fault : Fault) : IO UInt32 :=
  report (.finished [] [CommandLine.faultRow fault] false)

def playConversation (t : FileTree) (columns : Int) (o : CommandLine.PlayOptions) : IO UInt32 := do
  match o.player t columns with
  | .error fault => report (.broken [] fault)
  | .ok p =>
    let (started, p) := p.begin o.npc o.shownName
    let p ← flushPlayer p
    match started with
    | .error fault => reportFault fault
    | .ok false => return 1
    | .ok true => match ← playRows p with
      | (.error fault, p) =>
        discard (flushPlayer p)
        reportFault fault
      | (.ok (), p) =>
        let (shown, p) := p.showInventory
        discard (flushPlayer p)
        match shown with
        | .error fault => reportFault fault
        | .ok () => return 0

/-- Reads the directories that the settings of a play name. -/
def readRoots (t : FileTree) (o : CommandLine.PlayOptions) : IO FileTree := do
  match o.settings t with
  | .error _ => return t
  | .ok s => s.localeRoot.toList.foldlM readPath (← readPath t s.dialoguesRoot)

def terminalColumns : IO Int := do
  return Terminal.columnsOf ((← IO.getEnv "COLUMNS").bind String.toInt?)

def runCommand (verb : CommandLine.Verb) (a : CommandLine.Arguments) : IO UInt32 := do
  let t ← ((verb.paths a).map fun p => FilePath.ofString p.2).foldlM readPath FileTree.empty
  let columns ← terminalColumns
  match verb.command t a with
  | .error (.misuse e) => report ⟨"", textOfRows (CommandLine.errorRows e), 2, none⟩
  | .error (.fault f) => report (.broken [] f)
  | .ok (.play o) => playConversation (← readRoots t o) columns o
  | .ok c => report (c.run t columns "")

end Parley

open Parley in
def main (args : List String) : IO UInt32 :=
  match CommandLine.Request.read (args.map Text.carried) with
  | .error e => report ⟨"", textOfRows (CommandLine.errorRows e), 2, none⟩
  | .ok (.help verb) => report (.finished (CommandLine.helpRows verb) [] true)
  | .ok (.run verb a) => runCommand verb a
