import ModuleAtlas.Domain.Name
import ModuleAtlas.Url.Address
import ModuleAtlas.Url.Escape

/-!
# Hosts of URLs

A host is named or has a numeric address; long addresses stand in brackets.
The name in a special URL is a domain name, unless it has to be a short
address; in other URLs it is any text.
-/

namespace ModuleAtlas

/-- The host of a URL. -/
inductive Host where
  | named (name : String)
  | short (address : ShortAddress)
  | long (address : LongAddress)
deriving DecidableEq, Repr

namespace Host

/-- The text of a host. -/
def toText : Host → String
  | .named name => name
  | .short address => address.toText
  | .long address => "[" ++ address.toText ++ "]"

/-- A host without a name. -/
def isEmpty (host : Host) : Bool := host = .named ""

/-- The address between brackets. -/
def ofBrackets? (inner : List Char) : Option Host :=
  match inner.reverse with
  | ']' :: address => (LongAddress.ofText? address.reverse).map .long
  | _ => none

/-- Read the host of a special URL. -/
def ofDomain? : List Char → Option Host
  | '[' :: inner => ofBrackets? inner
  | text => do
    let name ← Domain.toAscii? (← Url.unescape? text)
    if ShortAddress.isExpected name then
      (ShortAddress.ofName? name).map .short
    else some (.named (String.ofList name))

/-- Characters that may not stand in any name. -/
def isForbidden (c : Char) : Bool :=
  c.toNat = 0
    || ['\t', '\n', '\r', ' ', '#', '/', ':', '<', '>', '?', '@', '[', '\\',
      ']', '^', '|'].contains c

/-- Read the host of a URL that is not special. -/
def ofAny? : List Char → Option Host
  | '[' :: inner => ofBrackets? inner
  | text =>
    if text.any isForbidden then none
    else some (.named (String.ofList (Url.escape [] text)))

end Host

end ModuleAtlas
