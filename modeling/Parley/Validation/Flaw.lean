import Parley.Dialogue.Document
import Parley.Dialogue.Location

/-!
# Flaws of documents

A document that reads well can still not play well. A flaw is found in the document itself, so its
location counts the entries that reading has kept.
-/

namespace Parley

inductive FlawKind where
  /-- There is nothing to play. -/
  | noLines
  /-- A line shows nothing. -/
  | silentLine
  /-- A choice has the id of an earlier one of its line. -/
  | duplicateChoice (id : String)
  /-- Selecting the choice changes nothing. -/
  | idleChoice
  /-- A fork that always matches stands before others. -/
  | shadowingFork
  /-- A branch that always matches stands before others. -/
  | shadowingBranch
  /-- The last fork always matches, so the base lines are never played. -/
  | unreachableBase
  /-- An amount below one counts as one. -/
  | smallAmount (amount : Number)
deriving DecidableEq, Repr

structure Flaw where
  location : Location
  kind : FlawKind
deriving Repr

namespace Action

def flaw? (here : Location) : Action → Option Flaw
  | .giveItem _ (some n) _ => if n.ltInt 1 then some ⟨here, .smallAmount n⟩ else none
  | _ => none

def flawsFrom (here : Location) : Nat → List Action → List Flaw
  | _, [] => []
  | i, a :: rest => (a.flaw? (here.item i)).toList ++ flawsFrom here (i + 1) rest

def flaws (here : Location) (actions : Option (List Action)) : List Flaw :=
  flawsFrom here 0 (actions.getD [])

end Action

def isBare (entries : Option (List α)) : Bool :=
  match entries with
  | some (_ :: _) => false
  | _ => true

mutual

def Line.flaws (here : Location) : Line → List Flaw
  | ⟨_, text, textKey, _, _, _, options, _⟩ =>
    (if text == "" && !textKey.truthy then [⟨here, .silentLine⟩] else []) ++
      match options with
      | some cs => Choice.flawsFrom (here.field "options") 0 [] cs
      | none => []

def Line.flawsFrom (here : Location) : Nat → List Line → List Flaw
  | _, [] => []
  | i, l :: rest => Line.flaws (here.item i) l ++ Line.flawsFrom here (i + 1) rest

/-- The flaws of one choice and of all below it, after choices with the ids in `seen`. -/
def Choice.flaws (here : Location) (seen : List String) : Choice → List Flaw
  | ⟨id, _, _, lines, actions, branches⟩ =>
    (if seen.contains id then [⟨here, .duplicateChoice id⟩] else []) ++
      (if lines.isNone && actions.isNone && isBare branches then [⟨here, .idleChoice⟩] else []) ++
      (match lines with
        | some ls => Line.flawsFrom (here.field "lines") 0 ls
        | none => []) ++
      Action.flaws (here.field "actions") actions ++
      (match branches with
        | some bs => Branch.flawsFrom (here.field "branches") 0 bs
        | none => [])

def Choice.flawsFrom (here : Location) : Nat → List String → List Choice → List Flaw
  | _, _, [] => []
  | i, seen, c :: rest =>
    Choice.flaws (here.item i) seen c ++ Choice.flawsFrom here (i + 1) (c.id :: seen) rest

/-- The flaws of one branch and of all below it; `last` tells whether no branch follows. -/
def Branch.flaws (here : Location) (last : Bool) : Branch → List Flaw
  | ⟨checks, lines, actions⟩ =>
    (match lines with
      | some ls => Line.flawsFrom (here.field "lines") 0 ls
      | none => []) ++
      Action.flaws (here.field "actions") actions ++
      if checks.isEmpty && !last then [⟨here, .shadowingBranch⟩] else []

def Branch.flawsFrom (here : Location) : Nat → List Branch → List Flaw
  | _, [] => []
  | i, b :: rest =>
    Branch.flaws (here.item i) rest.isEmpty b ++ Branch.flawsFrom here (i + 1) rest

end

def Line.sectionFlaws (here : Location) (lines : Option (List Line)) : List Flaw :=
  Line.flawsFrom here 0 (lines.getD [])

def Fork.flawsFrom (here : Location) : Nat → List Fork → List Flaw
  | _, [] => []
  | i, f :: rest =>
    Line.flawsFrom ((here.item i).field "lines") 0 f.lines ++
      Action.flaws ((here.item i).field "actions") f.actions ++
      (if f.checks.isEmpty && !rest.isEmpty then [⟨here.item i, .shadowingFork⟩] else []) ++
      Fork.flawsFrom here (i + 1) rest

def Document.flaws (d : Document) : List Flaw :=
  let forks := d.forks.getD []
  let lastAlwaysMatches := match forks.getLast? with
    | some f => f.checks.isEmpty
    | none => false
  (if d.hasAnyLines then [] else [⟨[], .noLines⟩]) ++
    Line.sectionFlaws [.field "lines"] d.lines ++
    Action.flaws [.field "actions"] d.actions ++
    Fork.flawsFrom [.field "forks"] 0 forks ++
    if lastAlwaysMatches && !isBare d.lines then [⟨[.field "lines"], .unreachableBase⟩] else []

end Parley
