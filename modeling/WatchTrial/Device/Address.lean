import WatchTrial.Text.Decimal
/-!
# Network addresses

A device id is a network address when it is a host, a colon and a port number; a host in brackets may
itself hold colons.
-/
namespace WatchTrial

def isBracket (c : Char) : Bool := c == '[' || c == ']'

/-- The host and the port of an address. -/
def hostAndPort? : List Char → Option (List Char × List Char)
  | '[' :: rest =>
    let host := rest.takeWhile (· != ']')
    match rest.dropWhile (· != ']') with
    | ']' :: ':' :: port =>
      if host.contains '[' || port.contains ':' || port.any isBracket then none else some (host, port)
    | _ => none
  | cs =>
    let host := cs.takeWhile (· != ':')
    match cs.dropWhile (· != ':') with
    | ':' :: port =>
      if port.contains ':' || host.any isBracket || port.any isBracket then none else some (host, port)
    | _ => none

def isNetworkAddress (id : String) : Bool :=
  match hostAndPort? id.toList with
  | none => false
  | some (host, port) => ! host.isEmpty && (Text.readInt64 port).isOk

end WatchTrial
