import Parley.Json.Value

/-!
# Locations

A location leads through a JSON value by field names and indices. Its text joins fields by points
and puts indices in square brackets, as in `forks[0].lines[2]`.
-/

namespace Parley

inductive Step where
  | field (name : String)
  | item (index : Nat)
deriving DecidableEq, Repr

abbrev Location := List Step

namespace Location

def field (l : Location) (name : String) : Location := l ++ [.field name]

def item (l : Location) (index : Nat) : Location := l ++ [.item index]

def writeAfter : Location → String
  | [] => ""
  | .field name :: rest => "." ++ name ++ writeAfter rest
  | .item i :: rest => "[" ++ toString i ++ "]" ++ writeAfter rest

def write : Location → String
  | .field name :: rest => name ++ writeAfter rest
  | l => writeAfter l

end Location

def Json.follow : Json → Location → Option Json
  | v, [] => some v
  | .obj members, .field name :: rest =>
    match Members.get? members name with
    | some v => v.follow rest
    | none => none
  | .arr items, .item i :: rest =>
    match items[i]? with
    | some v => v.follow rest
    | none => none
  | _, _ :: _ => none

end Parley
