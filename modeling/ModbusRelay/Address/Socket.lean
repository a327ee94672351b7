import ModbusRelay.Address.Ip
import ModbusRelay.Error

/-!
Addresses with a port, and their text `host:port`, where an IPv6 host stands in brackets.

`joinHostPort` puts the text together from its parts, and `splitLastColon` finds the colon between
them.
-/

namespace ModbusRelay

/-- An address with a port. -/
structure SocketAddress where
  ip : IpAddress
  port : UInt16
  deriving DecidableEq, Repr

/-- Splits at the last colon; `none` if there is none. -/
def splitLastColon : List Char → Option (List Char × List Char)
  | [] => none
  | c :: cs =>
    match splitLastColon cs with
    | some (before, after) => some (c :: before, after)
    | none => if c = ':' then some ([], cs) else none

/-- `host:port` from its parts. A host that contains a colon and is not in brackets yet is put in
brackets. -/
def joinHostPort (host : String) (port : UInt16) : String :=
  if host.toList.contains ':' && host.toList.head? != some '[' then
    "[" ++ host ++ "]:" ++ toString port.toNat
  else
    host ++ ":" ++ toString port.toNat

namespace SocketAddress

/-- The text form of an address with its port. -/
def text (a : SocketAddress) : String :=
  match a.ip with
  | .v4 .. => a.ip.text ++ ":" ++ toString a.port.toNat
  | .v6 .. => "[" ++ a.ip.text ++ "]:" ++ toString a.port.toNat

/-- The port at the end of an address, after its colon; any number of leading zeros is fine. -/
def readPort (cs : List Char) : Option UInt16 := do
  let cs ← IpAddress.readChar ':' cs
  let (port, []) ← IpAddress.readDigits 10 maxPort none cs | none
  return port.toUInt16

/-- The text inside the brackets may name an interface by number, which has no use here. -/
def skipScope : List Char → Option (List Char)
  | '%' :: cs => (IpAddress.readDigits 10 maxWord32 none cs).map (·.2)
  | cs => some cs

/-- An IPv4 address and a port. -/
def parseV4 (cs : List Char) : Option SocketAddress := do
  let ((a, b, c, d), cs) ← IpAddress.readV4 cs
  return ⟨.v4 a b c d, ← readPort cs⟩

/-- An IPv6 address in brackets and a port. -/
def parseV6 (cs : List Char) : Option SocketAddress := do
  let cs ← IpAddress.readChar '[' cs
  let (ip, cs) ← IpAddress.readV6 cs
  let cs ← IpAddress.readChar ']' (← skipScope cs)
  return ⟨ip, ← readPort cs⟩

/-- An address in its standard text form. -/
def parse? (text : String) : Option SocketAddress :=
  parseV4 text.toList <|> parseV6 text.toList

end SocketAddress

end ModbusRelay
