import Parley.Dialogue.Document

/-!
# Working copies

A conversation edits and splices its lines, so it plays a copy that is built anew from every
node of the source, with absent sections absent and empty ones empty.
-/

namespace Parley

mutual

def Line.copy : Line → Line
  | ⟨speaker, text, textKey, emotion, name, nameKey, options, hide⟩ =>
    ⟨speaker, text, textKey, emotion, name, nameKey,
      match options with
        | some cs => some (Choice.copyList cs)
        | none => none,
      hide⟩

def Line.copyList : List Line → List Line
  | [] => []
  | l :: rest => l.copy :: Line.copyList rest

def Choice.copy : Choice → Choice
  | ⟨id, text, textKey, lines, actions, branches⟩ =>
    ⟨id, text, textKey,
      match lines with
        | some ls => some (Line.copyList ls)
        | none => none,
      actions,
      match branches with
        | some bs => some (Branch.copyList bs)
        | none => none⟩

def Choice.copyList : List Choice → List Choice
  | [] => []
  | c :: rest => c.copy :: Choice.copyList rest

def Branch.copy : Branch → Branch
  | ⟨checks, lines, actions⟩ =>
    ⟨checks,
      match lines with
        | some ls => some (Line.copyList ls)
        | none => none,
      actions⟩

def Branch.copyList : List Branch → List Branch
  | [] => []
  | b :: rest => b.copy :: Branch.copyList rest

end

def Line.copySection (lines : Option (List Line)) : List Line := Line.copyList (lines.getD [])

def Action.copySection (actions : Option (List Action)) : List Action := actions.getD []

end Parley
