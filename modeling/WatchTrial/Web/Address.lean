import WatchTrial.Web.Number
/-!
# Web addresses

An address is read into its parts: a scheme, a user, a host, a path, a query and a fragment, all of which
may be missing. The path is kept both as it was written and with its escapes resolved, since what a
server sees is the resolved path, and what the user sees is the written one where it was well escaped.
-/
namespace WatchTrial.Web

structure Address where
  scheme : Bytes := []
  /-- What follows the scheme when that is not a path. -/
  rootless : Bytes := []
  /-- A user with a password, if there is one. -/
  user : Option (Bytes × Option Bytes) := none
  host : Bytes := []
  /-- Whether a path follows the scheme without a host. -/
  hostless : Bool := false
  path : Bytes := []
  writtenPath : Bytes := []
  query : Option Bytes := none
  fragment : Bytes := []
  writtenFragment : Bytes := []
deriving Repr, DecidableEq, Inhabited

/-- The bytes before the first occurrence of a byte, and those after it. -/
def cutFirst (sep : UInt8) (bytes : Bytes) : Bytes × Option Bytes :=
  match bytes.dropWhile (· != sep) with
  | [] => (bytes, none)
  | _ :: rest => (bytes.takeWhile (· != sep), some rest)

/-- The bytes before the last occurrence of a byte, and those after it. -/
def cutLast? (sep : UInt8) (bytes : Bytes) : Option (Bytes × Bytes) :=
  match cutFirst sep bytes.reverse with
  | (_, none) => none
  | (after, some before) => some (before.reverse, after.reverse)

/-- The scheme at the start of an address and what follows its colon. -/
def cutScheme (bytes : Bytes) : Except Flaw (Bytes × Bytes) :=
  let name := bytes.takeWhile fun b => isAlphanumeric b || isOneOf "+-." b
  match name, bytes.drop name.length with
  | [], b :: _ => if b = byte ':' then .error .missingScheme else .ok ([], bytes)
  | first :: _, b :: rest =>
    if b = byte ':' && ! Number.isDecimal first && ! isOneOf "+-." first then .ok (name, rest)
    else .ok ([], bytes)
  | _, [] => .ok ([], bytes)

/-- Whether bytes are nothing, or a colon with decimal digits. -/
def isOptionalPort : Bytes → Bool
  | [] => true
  | b :: rest => b == byte ':' && rest.all Number.isDecimal

/-- The bytes before the first escaped percent sign, after those in `before`, the latest first, and those
from it on. -/
def cutZone (before : Bytes) : Bytes → Bytes × Bytes
  | [] => (before.reverse, [])
  | b :: rest =>
    if (b :: rest).take 3 = bytesOf "%25" then (before.reverse, b :: rest)
    else cutZone (b :: before) rest

def readHost (bytes : Bytes) : Except Flaw Bytes :=
  match cutLast? (byte '[') bytes with
  | some (_ :: _, _) => .error .notNumber
  | some ([], after) =>
    match cutLast? (byte ']') after with
    | none => .error .unclosedHost
    | some (inside, port) => do
      if ! isOptionalPort port then throw (.badPort port)
      let (number, zone) := cutZone [] inside
      let number ← resolve .host number
      let zone ← resolve .zone zone
      Number.check (number ++ zone)
      return [byte '['] ++ number ++ zone ++ [byte ']'] ++ port
  | none =>
    match cutLast? (byte ':') bytes with
    | some (_, port) =>
      if isOptionalPort (byte ':' :: port) then resolve .host bytes
      else .error (.badPort (byte ':' :: port))
    | none => resolve .host bytes

def readUser (bytes : Bytes) : Except Flaw (Bytes × Option Bytes) :=
  if bytes.all fun b => isAlphanumeric b || isOneOf "-._:~!$&'()*+,;=%@" b then
    match cutFirst (byte ':') bytes with
    | (name, none) => (resolve .user name).map (·, none)
    | (name, some password) => do
      let name ← resolve .user name
      let password ← resolve .user password
      return (name, some password)
  else .error .badUser

/-- Drops the colon of an empty port. -/
def dropEmptyPort (host : Bytes) : Bytes :=
  if host.getLast? = some (byte ':') then host.dropLast else host

def Address.withAuthority (a : Address) (bytes : Bytes) : Except Flaw Address :=
  match cutLast? (byte '@') bytes with
  | none => do return { a with host := dropEmptyPort (← readHost bytes) }
  | some (user, host) => do
    let host ← readHost host
    return { a with user := some (← readUser user), host := dropEmptyPort host }

def Address.withPath (a : Address) (bytes : Bytes) : Except Flaw Address := do
  return { a with path := ← resolve .path bytes, writtenPath := bytes }

/-- Whether bytes start with those of a text. -/
def startsWith (s : String) (bytes : Bytes) : Bool :=
  (bytesOf s).isPrefixOf bytes

def lowerByte (b : UInt8) : UInt8 := if byte 'A' ≤ b ∧ b ≤ byte 'Z' then b + 32 else b

/-- Reads what follows the scheme, up to the query. -/
def Address.withRest (a : Address) (rest : Bytes) : Except Flaw Address :=
  if ! startsWith "/" rest && ! a.scheme.isEmpty then .ok { a with rootless := rest }
  else if ! startsWith "/" rest && (cutFirst (byte '/') rest).1.contains (byte ':') then
    .error .colonInFirstSegment
  else if (! a.scheme.isEmpty || ! startsWith "///" rest) && startsWith "//" rest then do
    let (authority, path) := cutFirst (byte '/') (rest.drop 2)
    let a ← a.withAuthority authority
    a.withPath ((path.map (byte '/' :: ·)).getD [])
  else { a with hostless := ! a.scheme.isEmpty && startsWith "/" rest }.withPath rest

/-- Reads an address without a fragment. -/
def readWhole (bytes : Bytes) : Except Flaw Address :=
  if bytes.any fun b => b < 0x20 || b == 0x7f then .error .control
  else if bytes = [byte '*'] then .ok { path := bytes, writtenPath := bytes }
  else do
    let (scheme, rest) ← cutScheme bytes
    let (rest, query) := cutFirst (byte '?') rest
    let a : Address := { scheme := scheme.map lowerByte, query }
    a.withRest rest

/-- Reads an address. A flaw comes with the text that has it. -/
def Address.read (text : String) : Except (String × Flaw) Address :=
  match cutFirst (byte '#') (bytesOf text) with
  | (whole, fragment) =>
    match readWhole whole with
    | .error flaw => .error (quoteBytes whole, flaw)
    | .ok a =>
      match resolve .fragment (fragment.getD []) with
      | .error flaw => .error (quoteBytes (bytesOf text), flaw)
      | .ok resolved => .ok { a with fragment := resolved, writtenFragment := fragment.getD [] }

namespace Address

/-- The user as it is shown, without the password. -/
def shownUser (a : Address) : Bytes :=
  match a.user with
  | none => []
  | some (name, none) => escape .user name ++ [byte '@']
  | some (name, some _) => name ++ bytesOf ":***@"

/-- The part of an address before its path. -/
def shownHost (a : Address) : Bytes :=
  if a.hostless || (a.scheme.isEmpty && a.host.isEmpty && a.user.isNone) then []
  else
    (if ! a.host.isEmpty || ! a.path.isEmpty || a.user.isSome then bytesOf "//" else []) ++
      a.shownUser ++ escape .host a.host

def shownScheme (a : Address) : Bytes :=
  if a.scheme.isEmpty then [] else a.scheme ++ [byte ':']

/-- The path as it is shown after `before`. Two slashes at its start are not to be taken for those of a
host, nor a colon in its first segment for that of a scheme. -/
def shownPath (a : Address) (before : Bytes) : Bytes :=
  let path := if a.path = [byte '*'] then a.path else shown .path a.writtenPath a.path
  if a.hostless && startsWith "//" path then bytesOf "%2F" ++ path.drop 1
  else if ! path.isEmpty && ! startsWith "/" path && ! a.host.isEmpty then byte '/' :: path
  else if before.isEmpty && (cutFirst (byte '/') path).1.contains (byte ':') then bytesOf "./" ++ path
  else path

/-- The address as it is shown, without a password. -/
def text (a : Address) : String :=
  let before := a.shownScheme ++ a.shownHost
  Text.ofBytes (
    (if a.rootless.isEmpty then before ++ a.shownPath before else a.shownScheme ++ a.rootless) ++
    ((a.query.map (byte '?' :: ·)).getD []) ++
    (if a.fragment.isEmpty then [] else byte '#' :: shown .fragment a.writtenFragment a.fragment))

/-- The path that a server sees. -/
def pathText (a : Address) : String := Text.ofBytes a.path

end Address
end WatchTrial.Web
