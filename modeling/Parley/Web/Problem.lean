import Parley.Fault
import Parley.Web.Host

/-!
# Problems of requests

Why a request is not sent at all: its address leads nowhere, or a part of it cannot be written.
-/

namespace Parley.Web

inductive Problem where
  /-- A square bracket around a host without the other. -/
  | brackets
  /-- A host in brackets that begins as an address with a version but is none. -/
  | version
  /-- An address of four numbers in brackets. -/
  | fourNumbers
  /-- A host in brackets that is no numeric address. -/
  | notNumeric (host : String)
  /-- A character that is folded to one that ends an authority or a part of it. -/
  | delimiter (authority : String)
  /-- A port that is no number. -/
  | port (text : String)
  | portRange
  /-- A port of too many digits. -/
  | portDigits (count : Nat)
  /-- A host that has no name on the wire. -/
  | wireHost (e : Host.Problem)
  /-- A host that has no name to be shown. -/
  | shownHost (e : Host.Problem)
  /-- A line end in a header. -/
  | lineEnd
  /-- A part that cannot be written as bytes. -/
  | unwritable (e : Text.Unwritable)
deriving DecidableEq, Repr

namespace Problem

def message : Problem → String
  | .brackets => "Invalid IPv6 URL"
  | .version => "IPvFuture address is invalid"
  | .fourNumbers => "An IPv4 address cannot be in brackets"
  | .notNumeric host => Text.quoted host ++ " does not appear to be an IPv4 or IPv6 address"
  | .delimiter authority =>
    "netloc '" ++ authority ++ "' contains invalid characters under NFKC normalization"
  | .port text => "Port could not be cast to integer value as " ++ Text.quoted text
  | .portRange => "Port out of range 0-65535"
  | .portDigits count => (Fault.tooManyDigits count).message
  | .wireHost e => e.message "encoding"
  | .shownHost e => e.message "decoding"
  | .lineEnd => "Header values must not contain newline characters."
  | .unwritable e => e.message

end Problem
end Parley.Web
