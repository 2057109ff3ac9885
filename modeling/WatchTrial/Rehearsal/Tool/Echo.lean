import WatchTrial.Rehearsal.Tool.Printf
/-!
# Printing arguments

The tool prints its arguments with blanks between them and resolves escapes only if it is asked to; the shell
itself always does.
-/
namespace WatchTrial.Rehearsal

/-- How arguments are printed. -/
structure EchoStyle where
  endsLine : Bool := true
  escapes : Bool := false
deriving Repr, DecidableEq, Inhabited

def isEchoOption : Bytes → Bool
  | '-' :: c :: rest => (c :: rest).all fun c => c == 'n' || c == 'e' || c == 'E'
  | _ => false

def EchoStyle.change (s : EchoStyle) : Char → EchoStyle
  | 'n' => { s with endsLine := false }
  | 'e' => { s with escapes := true }
  | 'E' => { s with escapes := false }
  | _ => s

/-- Resolves escapes as the tool does: what to print, and whether the output ends there. -/
def unescapeEcho : (fuel : Nat) → (done : Bytes) → Bytes → Bytes × Bool
  | 0, done, _ => (done.reverse, false)
  | _ + 1, done, [] => (done.reverse, false)
  | fuel + 1, done, '\\' :: c :: rest =>
    match c with
    | 'c' => (done.reverse, true)
    | 'x' =>
      if startsDigit 16 rest then
        let (n, rest) := takeSome 16 2 rest
        unescapeEcho fuel (byte n :: done) rest
      else unescapeEcho fuel ('x' :: '\\' :: done) rest
    | c =>
      if startsDigit 8 (c :: rest) then
        let (n, rest) := takeSome 8 3 (if c = '0' then rest else c :: rest)
        unescapeEcho fuel (byte n :: done) rest
      else
        match letterEscape? c with
        | some b => unescapeEcho fuel (b :: done) rest
        | none => unescapeEcho fuel (c :: '\\' :: done) rest
  | fuel + 1, done, c :: rest => unescapeEcho fuel (c :: done) rest

def Tool.echo : Tool := fun call =>
  let options := call.args.takeWhile isEchoOption
  let style := (options.flatMap (·.drop 1)).foldl EchoStyle.change {}
  let line := [' '].intercalate (call.args.drop options.length)
  let ending := if style.endsLine then ['\n'] else []
  if style.escapes then
    let (line, stopped) := unescapeEcho (line.length + 1) [] line
    { out := line ++ if stopped then [] else ending }
  else { out := line ++ ending }

def shellEcho (args : List Bytes) : Bytes :=
  let (ending, args) := match args with
    | ['-', 'n'] :: rest => ([], rest)
    | args => (['\n'], args)
  let line := [' '].intercalate args
  let (line, stopped, _) := Build.shell.unescape (line.length + 1) [] line
  line ++ if stopped then [] else ending

end WatchTrial.Rehearsal
