import WatchTrial.Storage.Files
import WatchTrial.Text.Decimal
import WatchTrial.Text.Utf8
/-!
# Tools

A tool is a small program of a host: it is called with arguments and input, and yields output, complaints
and a status. Tools work on bytes. A byte is written as the character with its number, so that the
functions on lists of characters serve for bytes too.
-/
namespace WatchTrial.Rehearsal

/-- Bytes, each as the character with its number. -/
abbrev Bytes := List Char

/-- The bytes of a text. -/
def bytesOf (s : String) : Bytes := s.toUTF8.toList.map fun b => Char.ofNat b.toNat

/-- The text of bytes. -/
def textOf (bytes : Bytes) : String := Text.ofBytes (bytes.map fun c => c.toNat.toUInt8)

/-- A call of a tool: the name it was called by, its arguments, its input, and the files it sees. -/
structure Call where
  name : Bytes
  args : List Bytes := []
  input : Bytes := []
  files : Files := .empty

/-- What a tool has written, and the status it ended with. -/
structure Yield where
  out : Bytes := []
  err : Bytes := []
  status : Nat := 0
deriving Inhabited

abbrev Tool := Call → Yield

def octal (width n : Nat) : Bytes :=
  let digits := Nat.toDigits 8 n
  List.replicate (width - digits.length) '0' ++ digits

/-- A byte that is not printed as it is, as it is shown. -/
def shownByte (c : Char) : Bytes :=
  match c with
  | '\x07' => ['\\', 'a']
  | '\x08' => ['\\', 'b']
  | '\x0c' => ['\\', 'f']
  | '\n' => ['\\', 'n']
  | '\r' => ['\\', 'r']
  | '\t' => ['\\', 't']
  | '\x0b' => ['\\', 'v']
  | c => '\\' :: octal 3 c.toNat

/-- Whether a byte is printed as it is. -/
def isPlainByte (c : Char) : Bool := ' ' ≤ c && c ≤ '~'

/-- Bytes between single quotes, for a complaint. -/
def inQuotes (bytes : Bytes) : Bytes :=
  '\'' :: bytes.flatMap (fun c =>
    if c = '\'' ∨ c = '\\' then ['\\', c] else if isPlainByte c then [c] else shownByte c) ++ ['\'']

/-- Bytes that a shell takes as they are, apart from the letters and digits. -/
def harmless : List Char := "%+,-./@_:]".toList

/-- Bytes in quotes where a shell would not take them as they are. -/
def quotedIfNeeded (harm : List Char) (bytes : Bytes) : Bytes :=
  let plain (c : Char) : Bool := (c.isAlphanum || harmless.contains c) && ! harm.contains c
  let plainInside (c : Char) : Bool := plain c || c == '#' || c == '~' || c == '{' || c == '}'
  let plainFirst (c : Char) : Bool := plain c || (1 < bytes.length && (c == '{' || c == '}'))
  if (bytes.head?.map plainFirst).getD false ∧ (bytes.drop 1).all plainInside then bytes
  else if bytes.contains '\'' ∧ bytes.all (fun c => isPlainByte c && ! "\"$\x60\\".toList.contains c) then
    '"' :: bytes ++ ['"']
  else
    let plainRun (run : Bytes) : Bytes :=
      '\'' :: run.flatMap (fun c => if c = '\'' then "'\\''".toList else [c]) ++ ['\'']
    let shownRun (run : Bytes) : Bytes := "$'".toList ++ run.flatMap shownByte ++ ['\'']
    let runs := bytes.splitBy fun a b => isPlainByte a == isPlainByte b
    (if (bytes.head?.map isPlainByte).getD false then [] else ['\'', '\'']) ++
      runs.flatMap fun run => if run.all isPlainByte then plainRun run else shownRun run

namespace Yield

def complaint (call : Call) (text : String) (status : Nat) : Yield :=
  { err := call.name ++ bytesOf (": " ++ text ++ "\n"), status }

def advice (call : Call) : Bytes :=
  bytesOf "Try '" ++ call.name ++ bytesOf " --help' for more information.\n"

/-- A complaint about how a tool was called, with the advice to look for help. -/
def misuse (call : Call) (text : Bytes) : Yield :=
  { err := call.name ++ bytesOf ": " ++ text ++ ['\n'] ++ advice call, status := 1 }

/-- One yield after the other, with the status of the later one. -/
def andThen (first later : Yield) : Yield :=
  { later with out := first.out ++ later.out, err := first.err ++ later.err }

end Yield
end WatchTrial.Rehearsal
