import WatchTrial.Json.Reader
import WatchTrial.Text.Quoted
import WatchTrial.Text.Utf8
/-!
# Escapes in addresses

A byte of an address is escaped as a percent sign and two hexadecimal digits. Which bytes may stand for
themselves depends on the part of the address.
-/
namespace WatchTrial.Web

/-- The bytes of an address or of a piece of it. -/
abbrev Bytes := List UInt8

/-- The bytes of a text. -/
def bytesOf (s : String) : Bytes := s.toUTF8.toList

/-- The byte of an ASCII character. -/
def byte (c : Char) : UInt8 := UInt8.ofNat c.toNat

/-- Whether a byte is one of the characters of a text. -/
def isOneOf (s : String) (b : UInt8) : Bool := s.toList.any fun c => byte c == b

/-- Whether a byte is an ASCII letter or digit. -/
def isAlphanumeric (b : UInt8) : Bool :=
  (byte 'a' ≤ b && b ≤ byte 'z') || (byte 'A' ≤ b && b ≤ byte 'Z') || (byte '0' ≤ b && b ≤ byte '9')

/-- The parts of an address that differ in what may stand for itself. -/
inductive Part where
  | user
  | host
  | zone
  | path
  | fragment
deriving Repr, DecidableEq, Inhabited

/-- The characters, apart from letters and digits, that stand for themselves. -/
def Part.plain : Part → String
  | user => "-_.~$&+,;="
  | host | zone => "-_.~!$&'()*+,;=:[]<>\""
  | path => "-_.~$&+,/:;=@"
  | fragment => "-_.~$&+,/:;=?@!()*"

/-- Whether a byte stands for itself. -/
def Part.keeps (part : Part) (b : UInt8) : Bool :=
  isAlphanumeric b || isOneOf part.plain b

inductive Flaw where
  | control
  | missingScheme
  | colonInFirstSegment
  | unclosedHost
  | badPort (port : Bytes)
  | badHostByte (b : UInt8)
  | badNumber (why : String)
  | notNumber
  | badUser
  | badEscape (bytes : Bytes)
deriving Repr, DecidableEq, Inhabited

/-- The quoted form of bytes without the quotes, after the pieces in `seen`, the latest first; bytes that are
no text are written in hexadecimal. -/
def quotedBody : (skip : Nat) → (seen : List (List Char)) → Bytes → List Char
  | _, seen, [] => seen.reverse.flatten
  | skip + 1, seen, _ :: rest => quotedBody skip seen rest
  | 0, seen, b :: rest =>
    match Text.firstChar? (b :: rest.take 3) with
    | some (c, width) => quotedBody (width - 1) (Text.quoteChar c :: seen) rest
    | none => quotedBody 0 (('\\' :: 'x' :: Text.hexDigits 2 b.toNat) :: seen) rest

/-- The quoted form of bytes. -/
def quoteBytes (bytes : Bytes) : String :=
  String.ofList ('"' :: quotedBody 0 [] bytes ++ ['"'])

def Flaw.message : Flaw → String
  | control => "net/url: invalid control character in URL"
  | missingScheme => "missing protocol scheme"
  | colonInFirstSegment => "first path segment in URL cannot contain colon"
  | unclosedHost => "missing ']' in host"
  | badPort port => "invalid port " ++ quoteBytes port ++ " after host"
  | badHostByte b => "invalid character " ++ quoteBytes [b] ++ " in host name"
  | badNumber why => "invalid host: " ++ why
  | notNumber => "invalid IP-literal"
  | badUser => "net/url: invalid userinfo"
  | badEscape bytes => "invalid URL escape " ++ quoteBytes bytes

def hexValue? (b : UInt8) : Option Nat := Json.hexValue? (Char.ofNat b.toNat)

/-- Whether an escape of a byte may stand in a part. -/
def Part.allowsEscape (part : Part) (b : UInt8) : Bool :=
  match part with
  | host => 0x80 ≤ b || b == byte '%'
  | zone => b == byte '%' || b == byte ' ' || host.keeps b
  | _ => true

/-- Whether a byte may stand in a part as it is. -/
def Part.allows (part : Part) (b : UInt8) : Bool :=
  match part with
  | host | zone => 0x80 ≤ b || part.keeps b
  | _ => true

/-- Resolves the escapes in a part, after the bytes in `seen`, the latest first. -/
def resolveAfter (part : Part) (seen : Bytes) : Bytes → Except Flaw Bytes
  | [] => .ok seen.reverse
  | b :: rest =>
    if b = byte '%' then
      match rest with
      | high :: low :: rest =>
        match hexValue? high, hexValue? low with
        | some h, some l =>
          let v := UInt8.ofNat (h * 16 + l)
          if part.allowsEscape v then resolveAfter part (v :: seen) rest
          else .error (.badEscape [b, high, low])
        | _, _ => .error (.badEscape [b, high, low])
      | rest => .error (.badEscape (b :: rest))
    else if part.allows b then resolveAfter part (b :: seen) rest
    else .error (.badHostByte b)

/-- Resolves the escapes in a part. -/
def resolve (part : Part) (bytes : Bytes) : Except Flaw Bytes := resolveAfter part [] bytes

def hexByte (n : Nat) : UInt8 := byte (Text.hexDigit n).toUpper

/-- Escapes the bytes that do not stand for themselves. -/
def escape (part : Part) (bytes : Bytes) : Bytes :=
  bytes.flatMap fun b =>
    if part.keeps b then [b] else [byte '%', hexByte (b.toNat / 16), hexByte (b.toNat % 16)]

/-- Whether bytes can be left as they were written. -/
def isWellEscaped (part : Part) (bytes : Bytes) : Bool :=
  bytes.all fun b => isOneOf "!$&'()*+,;=:@[]%" b || part.keeps b

/-- A piece as it is shown: as it was written, if that was well escaped. -/
def shown (part : Part) (written resolved : Bytes) : Bytes :=
  if isWellEscaped part written then written else escape part resolved

end WatchTrial.Web
