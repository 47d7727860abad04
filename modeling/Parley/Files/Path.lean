/-!
# File paths

A path is a root mark and names; empty names and single points are dropped when it is read, double
points are kept. Two slashes at the start are a root of their own.
-/

namespace Parley

structure FilePath where
  root : String
  names : List String
deriving DecidableEq, Repr, Inhabited

namespace FilePath

def ofString (s : String) : FilePath :=
  let cs := s.toList
  let slashes := (cs.takeWhile (· == '/')).length
  let root := if slashes = 0 then "" else if slashes = 2 then "//" else "/"
  ⟨root, (s.splitOn "/").filter fun name => name != "" && name != "."⟩

/-- Writes a path; the empty one is a single point. -/
def toString (p : FilePath) : String :=
  let s := p.root ++ "/".intercalate p.names
  if s == "" then "." else s

def name (p : FilePath) : String := p.names.getLast?.getD ""

/-- A name without its last extension. A point at either end of the name starts no extension. -/
def stemOf (name : String) : String :=
  let cs := name.toList
  let extension := cs.reverse.takeWhile (· != '.')
  let before := cs.take (cs.length - extension.length - 1)
  if extension.isEmpty || before.isEmpty || extension.length == cs.length then name
  else String.ofList before

def stem (p : FilePath) : String := stemOf p.name

def child (p : FilePath) (name : String) : FilePath := ⟨p.root, p.names ++ [name]⟩

end FilePath
end Parley
