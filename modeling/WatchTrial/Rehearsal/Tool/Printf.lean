import WatchTrial.Rehearsal.Tool.Numeral
/-!
# Printing by a format

A format is text with escapes and directives. Each directive takes an argument, and a format is used again
as long as it takes arguments and some are left. A missing argument counts as empty. The tool and the command
of the shell differ in their escapes and in their complaints.
-/
namespace WatchTrial.Rehearsal

/-- How a command is built: as a tool of its own, or into the shell. -/
inductive Build where
  | tool
  | shell
deriving Repr, DecidableEq, Inhabited

/-- How many binary digits a number with a fraction keeps. -/
def Build.precision : Build → Nat
  | .tool => 64
  | .shell => 53

/-- Whether a number with a fraction is too large to be kept. -/
def Build.tooLarge (b : Build) (x : Fraction) : Bool :=
  let power := match b with
    | .tool => 16384
    | .shell => 1024
  x.den * Nat.pow 2 power ≤ x.num

/-- What an escape stands for: a byte, or the end of the output. -/
inductive Escaped where
  | bytes (bytes : Bytes) (rest : Bytes)
  | stop
  | fault (text : Bytes)

/-- The byte for a letter after a backslash. -/
def letterEscape? : Char → Option Char
  | 'a' => some '\x07'
  | 'b' => some '\x08'
  | 'e' => some '\x1b'
  | 'f' => some '\x0c'
  | 'n' => some '\n'
  | 'r' => some '\r'
  | 't' => some '\t'
  | 'v' => some '\x0b'
  | '\\' => some '\\'
  | _ => none

/-- The number of up to `most` digits, and what follows them. -/
def takeSome (base most : Nat) (bytes : Bytes) : Nat × Bytes :=
  let (n, rest) := takeDigits base (bytes.take most)
  (n, rest ++ bytes.drop most)

/-- The byte with a number. -/
def byte (n : Nat) : Char := Char.ofNat (n % 256)

/-- Whether bytes start with a digit of a base. -/
def startsDigit (base : Nat) (bytes : Bytes) : Bool := (bytes.head?.bind (digitIn? base)).isSome

/-- Resolves the escape for a character by its number, after the letter for it. -/
def unicodeEscape (letter : Char) (width : Nat) (bytes : Bytes) : Escaped :=
  let digits := bytes.take width
  if digits.length < width ∨ digits.any (fun c => (digitIn? 16 c).isNone) then
    .fault (bytesOf "missing hexadecimal number in escape")
  else
    let n := (takeDigits 16 digits).1
    let fill (upper : Bool) : Bytes :=
      let hex := (Nat.toDigits 16 n).map fun c => if upper then c.toUpper else c
      List.replicate (width - hex.length) '0' ++ hex
    if 0xd800 ≤ n ∧ n ≤ 0xdfff then
      .fault (bytesOf "invalid universal character name \\" ++ letter :: fill false)
    else if n < 0x80 then .bytes [Char.ofNat n] (bytes.drop width)
    else .bytes ('\\' :: letter :: fill true) (bytes.drop width)

/-- Resolves an escape after its backslash. In an argument, octal numbers may start with one more zero. -/
def Build.escape (p : Build) (inArgument : Bool) (bytes : Bytes) : Escaped :=
  match bytes with
  | [] => .bytes ['\\'] []
  | c :: rest =>
    if startsDigit 8 bytes then
      let (n, rest) := takeSome 8 3 (if inArgument ∧ c = '0' ∧ startsDigit 8 rest then rest else bytes)
      .bytes [byte n] rest
    else if c = 'c' ∧ (p = .tool ∨ inArgument) then .stop
    else
      match letterEscape? c with
      | some b => .bytes [b] rest
      | none =>
        match p, c with
        | .tool, 'x' =>
          if startsDigit 16 rest then
            let (n, rest) := takeSome 16 2 rest
            .bytes [byte n] rest
          else .fault (bytesOf "missing hexadecimal number in escape")
        | .tool, 'u' => unicodeEscape 'u' 4 rest
        | .tool, 'U' => unicodeEscape 'U' 8 rest
        | .tool, '"' => .bytes ['"'] rest
        | .tool, c => .bytes ['\\', c] rest
        | .shell, _ => .bytes ['\\'] bytes

/-- Resolves all escapes of an argument: what to print, whether the output ends there, and what is wrong. -/
def Build.unescape (p : Build) : (fuel : Nat) → (done : Bytes) → Bytes → Bytes × Bool × Option Bytes
  | 0, done, _ => (done.reverse, false, none)
  | _ + 1, done, [] => (done.reverse, false, none)
  | fuel + 1, done, '\\' :: rest =>
    match p.escape true rest with
    | .bytes b rest => p.unescape fuel (b.reverse ++ done) rest
    | .stop => (done.reverse, true, none)
    | .fault text => (done.reverse, true, some text)
  | fuel + 1, done, c :: rest => p.unescape fuel (c :: done) rest

structure Directive where
  left : Bool := false
  plus : Bool := false
  space : Bool := false
  alternate : Bool := false
  zero : Bool := false
  width : Nat := 0
  precision : Option Nat := none
deriving Repr, DecidableEq, Inhabited

namespace Directive

/-- Bytes filled up to the width with blanks. -/
def pad (d : Directive) (bytes : Bytes) : Bytes :=
  let fill := List.replicate (d.width - bytes.length) ' '
  if d.left then bytes ++ fill else fill ++ bytes

def sign (d : Directive) (negative : Bool) : Bytes :=
  if negative then ['-'] else if d.plus then ['+'] else if d.space then [' '] else []

/-- A number with its sign or mark, filled up to the width. -/
def padNumber (d : Directive) (zeros : Bool) (mark digits : Bytes) : Bytes :=
  if zeros ∧ d.zero ∧ ¬ d.left then mark ++ List.replicate (d.width - mark.length - digits.length) '0' ++ digits
  else d.pad (mark ++ digits)

/-- The digits of a whole number, as many as the precision asks for at least. -/
def wholeDigits (d : Directive) (base n : Nat) : Bytes :=
  let digits := if n = 0 ∧ d.precision = some 0 then [] else Nat.toDigits base n
  List.replicate (d.precision.getD 1 - digits.length) '0' ++ digits

/-- A signed whole number. -/
def signed (d : Directive) (n : Int) : Bytes :=
  d.padNumber d.precision.isNone (d.sign (n < 0)) (d.wholeDigits 10 n.natAbs)

/-- An unsigned whole number in the base of a conversion. -/
def unsigned (d : Directive) (conversion : Char) (n : Nat) : Bytes :=
  match conversion with
  | 'o' =>
    let digits := d.wholeDigits 8 n
    d.padNumber d.precision.isNone [] (if d.alternate ∧ digits.head? ≠ some '0' then '0' :: digits else digits)
  | 'x' => d.padNumber d.precision.isNone (if d.alternate ∧ n ≠ 0 then ['0', 'x'] else []) (d.wholeDigits 16 n)
  | 'X' =>
    d.padNumber d.precision.isNone (if d.alternate ∧ n ≠ 0 then ['0', 'X'] else [])
      ((d.wholeDigits 16 n).map Char.toUpper)
  | _ => d.padNumber d.precision.isNone [] (d.wholeDigits 10 n)

def fraction (d : Directive) (conversion : Char) (x : Fraction) : Bytes :=
  let places := d.precision.getD 6
  d.padNumber true (d.sign x.negative) <|
    match conversion with
    | 'e' | 'E' => x.scientific places d.alternate conversion
    | 'g' => x.general places d.alternate 'e'
    | 'G' => x.general places d.alternate 'E'
    | _ => x.fixed places d.alternate

/-- A text, no longer than the precision. -/
def text (d : Directive) (bytes : Bytes) : Bytes :=
  d.pad (match d.precision with
    | some n => bytes.take n
    | none => bytes)

end Directive

/-- Printing by a format so far. -/
structure Printing where
  /-- What was printed, the latest first. -/
  out : Bytes := []
  err : List Bytes := []
  args : List Bytes := []
  status : Nat := 0
  stopped : Bool := false
deriving Inhabited

namespace Printing

/-- Prints bytes. -/
def put (s : Printing) (bytes : Bytes) : Printing := { s with out := bytes.reverse ++ s.out }

/-- Complains and goes on. -/
def warn (s : Printing) (text : Bytes) : Printing := { s with err := text :: s.err, status := 1 }

/-- Complains and prints nothing more. -/
def fail (s : Printing) (text : Bytes) (status : Nat) : Printing :=
  { s with err := text :: s.err, status, stopped := true }

/-- Prints nothing more because the text asks for it; the tool then forgets that it complained. -/
def halt (s : Printing) (p : Build) : Printing :=
  { s with stopped := true, status := if p = .tool then 0 else s.status }

/-- Takes the next argument. -/
def next (s : Printing) : Bytes × Printing := (s.args.headD [], { s with args := s.args.drop 1 })

/-- The status after a complaint that ends the printing. -/
def failure : Build → Nat
  | .tool => 1
  | .shell => 2

/-- Complains about a number that was not read to its end or does not fit. -/
def checkNumber (s : Printing) (p : Build) (arg rest : Bytes) (fits : Bool) : Printing :=
  let shown := match p with
    | .tool => inQuotes arg
    | .shell => arg
  if ! fits then s.warn (shown ++ bytesOf ": Numerical result out of range")
  else if rest.isEmpty then s
  else
    s.warn <| shown ++ bytesOf (": " ++
      match p, rest.length == arg.length with
      | .tool, true => "expected a numeric value"
      | .shell, true => "expected numeric value"
      | .tool, false => "value not completely converted"
      | .shell, false => "not completely converted")

/-- The byte after a quote at the start of an argument. -/
def quotedByte? : Bytes → Option (Char × Bytes)
  | q :: c :: rest => if q = '"' ∨ q = '\'' then some (c, rest) else none
  | _ => none

/-- Complains about bytes after a quoted one. -/
def checkQuoted (s : Printing) (p : Build) (rest : Bytes) : Printing :=
  if p = .shell ∨ rest.isEmpty then s
  else
    { s with
      err := (bytesOf "warning: " ++ rest ++
        bytesOf ": character(s) following character constant have been ignored") :: s.err }

/-- The signed number of an argument. -/
def signedOf (s : Printing) (p : Build) (arg : Bytes) : Int × Printing :=
  match quotedByte? arg with
  | some (c, rest) => (c.toNat, s.checkQuoted p rest)
  | none =>
    let n := Numeral.read arg
    (n.signed.1, s.checkNumber p arg n.rest n.signed.2)

/-- The unsigned number of an argument. -/
def unsignedOf (s : Printing) (p : Build) (arg : Bytes) : Nat × Printing :=
  match quotedByte? arg with
  | some (c, rest) => (c.toNat, s.checkQuoted p rest)
  | none =>
    let n := Numeral.read arg
    (n.unsigned.1, s.checkNumber p arg n.rest n.unsigned.2)

def fractionOf (s : Printing) (p : Build) (arg : Bytes) : Fraction × Printing :=
  match quotedByte? arg with
  | some (c, rest) => ({ num := c.toNat }, s.checkQuoted p rest)
  | none =>
    let (x, rest) := match Fraction.read? arg with
      | some (x, _, rest) => (x, rest)
      | none => ({}, arg)
    let x := x.round (p.precision)
    (x, s.checkNumber p arg rest (! p.tooLarge x))

/-- The most bytes that a directive prints. -/
def mostBytes : Nat := 100000000

/-- Prints bytes of a directive, unless they would be too many. -/
def putWithin (s : Printing) (p : Build) (d : Directive) (bytes : Unit → Bytes) : Printing :=
  if mostBytes < d.width ∨ mostBytes < d.precision.getD 0 then
    match p with
    | .tool => s.fail (bytesOf "write error") 1
    | .shell => s.fail (bytesOf "xvsnprintf failed") 2
  else s.put (bytes ())

/-- Prints the next argument as a directive asks for. -/
def convert (s : Printing) (p : Build) (d : Directive) (conversion : Char) : Printing :=
  let (arg, s) := s.next
  match conversion with
  | 's' => s.putWithin p d fun _ => d.text arg
  | 'c' => s.putWithin p d fun _ => d.pad [arg.headD '\x00']
  | 'd' | 'i' =>
    let (n, s) := s.signedOf p arg
    s.putWithin p d fun _ => d.signed n
  | 'o' | 'u' | 'x' | 'X' =>
    let (n, s) := s.unsignedOf p arg
    s.putWithin p d fun _ => d.unsigned conversion n
  | _ =>
    let (x, s) := s.fractionOf p arg
    if p.tooLarge x then
      s.putWithin p d fun _ => d.pad (d.sign x.negative ++ (if conversion.isUpper then "INF" else "inf").toList)
    else s.putWithin p d fun _ => d.fraction conversion x

/-- The number that stands for a star: that of the next argument. The tool refuses one that is too large, and
the shell drops its higher bits. -/
def readStar (s : Printing) (p : Build) (what : String) : Int × Printing :=
  let (arg, s) := s.next
  let (n, s) := s.signedOf p arg
  match p with
  | .shell => (n.bmod (Nat.pow 2 32), s)
  | .tool =>
    if n < Nat.pow 2 31 ∧ (-Nat.pow 2 31 ≤ n ∨ what = "precision") then (n, s)
    else (0, s.fail (bytesOf ("invalid " ++ what ++ ": ") ++ inQuotes arg) 1)

/-- The flags, width and precision of a directive, and what follows them. A star takes its number from the
next argument; a width that cannot be had ends the reading. -/
def readDirective (s : Printing) (p : Build) (bytes : Bytes) : Directive × Bytes × Printing :=
  let flags := bytes.takeWhile fun c => "-+ #0'".toList.contains c
  let rest := bytes.drop flags.length
  let d : Directive :=
    { left := flags.contains '-', plus := flags.contains '+', space := flags.contains ' '
      alternate := flags.contains '#', zero := flags.contains '0' }
  let (d, rest, s) :=
    match rest with
    | '*' :: rest =>
      let (n, s) := s.readStar p "field width"
      ({ d with width := n.natAbs, left := d.left || decide (n < 0) }, rest, s)
    | rest =>
      let (width, rest) := takeDigits 10 rest
      ({ d with width }, rest, s)
  if s.stopped then (d, rest, s)
  else match rest with
  | '.' :: '*' :: rest =>
    let (n, s) := s.readStar p "precision"
    ({ d with precision := if n < 0 then none else some n.natAbs }, rest, s)
  | '.' :: rest =>
    let (precision, rest) := takeDigits 10 rest
    ({ d with precision := some precision }, rest, s)
  | rest => (d, rest, s)

def putUnescaped (s : Printing) (p : Build) (d : Directive) : Printing :=
  let (arg, s) := s.next
  let (bytes, stopped, fault) := p.unescape (arg.length + 1) [] arg
  let s := s.putWithin p d fun _ => d.text bytes
  let s := if stopped then s.halt p else s
  match fault with
  | some text => s.fail text (failure p)
  | none => s

/-- The conversions of numbers, texts and bytes. -/
def conversions : List Char := "aAcdeEfFgGiosuxX".toList

/-- Whether flags and a conversion may stand together. -/
def fits (flags : Bytes) (precise : Bool) (conversion : Char) : Bool :=
  conversions.contains conversion &&
    ! (flags.contains '\'' && "aAceEosxX".toList.contains conversion) &&
    ! (flags.contains '#' && "cdisu".toList.contains conversion) &&
    ! (flags.contains '0' && "cs".toList.contains conversion) && ! (precise && conversion == 'c')

/-- Prints by the directive after a percent sign; `bytes` is the format after that sign. -/
def direct (s : Printing) (p : Build) (bytes : Bytes) : Printing × Bytes :=
  let (d, after, s) := s.readDirective p bytes
  let after := match p with
    | .tool => after.dropWhile fun c => "lLhjtz".toList.contains c
    | .shell => after
  if s.stopped then (s, [])
  else
    match after with
    | [] =>
      match p with
      | .tool => (s.fail ('%' :: bytes ++ bytesOf ": invalid conversion specification") 1, [])
      | .shell => (s.fail (bytesOf "missing format character") 2, [])
    | c :: rest =>
      let start := '%' :: bytes.take (bytes.length - rest.length)
      match p with
      | .tool =>
        if c = 'b' ∧ start = ['%', 'b'] then (s.putUnescaped p {}, rest)
        else if c = 'q' ∧ start = ['%', 'q'] then
          (if s.args.isEmpty then s else s.next.2.put (quotedIfNeeded [] s.next.1), rest)
        else if fits (bytes.takeWhile fun c => "-+ #0'".toList.contains c) d.precision.isSome c then
          (s.convert p d c, rest)
        else (s.fail (start ++ bytesOf ": invalid conversion specification") 1, rest)
      | .shell =>
        if c = 'b' then (s.putUnescaped p d, rest)
        else if conversions.contains c then (s.convert p d c, rest)
        else (s.fail (start ++ bytesOf ": invalid directive") 2, rest)

/-- Prints a format once. -/
def pass (p : Build) : (fuel : Nat) → Printing → Bytes → Printing
  | 0, s, _ => s
  | _ + 1, s, [] => s
  | fuel + 1, s, c :: rest =>
    if s.stopped then s
    else
      match c, rest with
      | '%', '%' :: rest => pass p fuel (s.put ['%']) rest
      | '%', rest =>
        let (s, rest) := s.direct p rest
        pass p fuel s rest
      | '\\', rest =>
        match p.escape false rest with
        | .bytes b rest => pass p fuel (s.put b) rest
        | .stop => s.halt p
        | .fault text => s.fail text (failure p)
      | c, rest => pass p fuel (s.put [c]) rest

/-- Prints a format again as long as it takes arguments and some are left. -/
def passes (p : Build) (format : Bytes) : (fuel : Nat) → Printing → Printing
  | 0, s => s
  | fuel + 1, s =>
    let after := pass p (format.length + 1) s format
    if after.stopped ∨ after.args.isEmpty ∨ after.args.length = s.args.length then after
    else passes p format fuel after

end Printing

/-- What printing by a format leads to; each complaint gets its start. -/
def Build.print (p : Build) (start : Bytes) (format : Bytes) (args : List Bytes) : Yield :=
  let s := Printing.passes p format (args.length + 1) { args }
  let s :=
    match p, s.stopped, s.args with
    | .tool, false, arg :: _ =>
      { s with err := (bytesOf "warning: ignoring excess arguments, starting with " ++ inQuotes arg) :: s.err }
    | _, _, _ => s
  { out := s.out.reverse, err := s.err.reverse.flatMap fun text => start ++ text ++ ['\n'], status := s.status }

def Tool.printf : Tool := fun call =>
  let args := match call.args with
    | ['-', '-'] :: rest => rest
    | args => args
  match args with
  | [] => .misuse call (bytesOf "missing operand")
  | format :: args => Build.tool.print (call.name ++ bytesOf ": ") format args

end WatchTrial.Rehearsal
