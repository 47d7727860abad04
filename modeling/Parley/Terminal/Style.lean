/-!
# Terminal styles

Text is styled by control sequences. A style holds until the sequence that resets it.
-/

namespace Parley

inductive Style where
  | bold
  | dim
  | red
  | yellow
  | cyan
  | brightRed
  | brightGreen
  | brightYellow
  | brightBlue
  | brightMagenta
  | brightCyan
deriving DecidableEq, Repr

namespace Style

def code : Style → Nat
  | .bold => 1
  | .dim => 2
  | .red => 31
  | .yellow => 33
  | .cyan => 36
  | .brightRed => 91
  | .brightGreen => 92
  | .brightYellow => 93
  | .brightBlue => 94
  | .brightMagenta => 95
  | .brightCyan => 96

def start (s : Style) : String := "\x1b[" ++ toString s.code ++ "m"

def reset : String := "\x1b[0m"

def apply (s : Style) (text : String) : String := s.start ++ text ++ reset

end Style

def doubleRule (width : Nat) : String := String.ofList (List.replicate width '=')

end Parley
