import WatchTrial.Rehearsal.Shell.Tree
/-!
# Reading shell lines

A shell reads one line at a time, or several if a command goes on over them, and runs it before it reads the
next one. So what stands before a mistake has been run, unless it stands on the same line.
-/
namespace WatchTrial.Rehearsal.Shell

structure Mistake where
  line : Nat
  message : String
deriving Repr, Inhabited

inductive Token where
  | word (pieces : List Piece)
  | sign (text : String)
  | redirect (number : Option Nat) (text : String)
  | newline
  | finish

instance : Inhabited Token := ⟨.finish⟩

/-- What is left to read, and a token that was read ahead. -/
structure Source where
  rest : Bytes
  line : Nat := 1
  ahead : Option Token := none

abbrev Reader (α : Type) := StateT Source (Except Mistake) α

namespace Reader

def fail {α : Type} (message : String) : Reader α := fun s => .error ⟨s.line, "Syntax error: " ++ message⟩

/-- The bytes that are left. -/
def rest : Reader Bytes := return (← get).rest

/-- Goes on with other bytes. -/
def goOn (bytes : Bytes) : Reader Unit := modify fun s => { s with rest := bytes }

/-- Skips a number of bytes, counting lines. -/
def skip (n : Nat) : Reader Unit :=
  modify fun s => { s with rest := s.rest.drop n, line := s.line + (s.rest.take n).count '\n' }

/-- Takes bytes as long as a condition holds. -/
def takeWhile (p : Char → Bool) : Reader Bytes := do
  let bytes := (← rest).takeWhile p
  skip bytes.length
  return bytes

end Reader

open Reader

/-- Whether a byte may start a name. -/
def startsName (c : Char) : Bool := c.isAlpha || c == '_'

/-- Whether a byte may stand in a name. -/
def inName (c : Char) : Bool := c.isAlphanum || c == '_'

/-- Whether bytes are a name. -/
def isName (bytes : Bytes) : Bool := (bytes.head?.map startsName).getD false && bytes.all inName

/-- Whether a byte is a parameter of its own. -/
def isSpecial (c : Char) : Bool := "@*#?-$!".toList.contains c || c.isDigit

/-- Whether a byte ends a word. -/
def endsWord (c : Char) : Bool := " \t\n;&|<>()".toList.contains c

/-- Where a word is read: on its own, between double quotes, between braces, or in a text of several lines. -/
inductive Mode where
  | plain
  | quotes
  | braces (quoted : Bool)
  | text
deriving Repr, DecidableEq, Inhabited

/-- Whether what is read counts as quoted. -/
def Mode.quoted : Mode → Bool
  | plain => false
  | braces quoted => quoted
  | quotes | text => true

/-- Whether a byte stands for itself where a word is read. -/
def Mode.isOrdinary (mode : Mode) (c : Char) : Bool :=
  ! "\\$\x60".toList.contains c &&
    match mode with
    | plain => c != '\'' && c != '"' && ! endsWord c
    | quotes => c != '"'
    | braces true => c != '"' && c != '}'
    | braces false => c != '"' && c != '}' && c != '\''
    | text => true

/-- Skips blanks, comments and line ends after a backslash. -/
def skipBlanks : (fuel : Nat) → Reader Unit
  | 0 => return
  | fuel + 1 => do
    match ← rest with
    | ' ' :: _ | '\t' :: _ => do skip 1; skipBlanks fuel
    | '\\' :: '\n' :: _ => do skip 2; skipBlanks fuel
    | '#' :: _ => do let _ ← Reader.takeWhile (· != '\n')
    | _ => return

/-- The signs of a shell line, longer ones first. -/
def signs : List String := [";;", "&&", "||", ";", "&", "|", "(", ")"]

/-- The signs for redirections, longer ones first. -/
def redirectSigns : List String := ["<<-", "<<", "<&", "<>", "<", ">>", ">&", ">|", ">"]

/-- The text inside a sum, up to its closing parentheses. -/
def sumText : (depth : Nat) → (done : Bytes) → Bytes → Option Bytes
  | _, _, [] => none
  | 0, done, ')' :: ')' :: _ => some done.reverse
  | depth, done, '(' :: rest => sumText (depth + 1) ('(' :: done) rest
  | depth, done, ')' :: rest => sumText (depth - 1) (')' :: done) rest
  | depth, done, c :: rest => sumText depth (c :: done) rest

/-- The text between backquotes, with the backslashes that protect its signs taken away, and how many bytes
it takes. -/
def backquoted : (count : Nat) → (done : Bytes) → Bytes → Option (Bytes × Nat)
  | _, _, [] => none
  | count, done, '\\' :: c :: rest =>
    if "$\\\x60".toList.contains c then backquoted (count + 2) (c :: done) rest
    else backquoted (count + 2) (c :: '\\' :: done) rest
  | count, done, c :: rest =>
    if c = '\x60' then some (done.reverse, count) else backquoted (count + 1) (c :: done) rest

/-- The lines of a text up to the line that ends it, and what follows that line. -/
def hereText (stop : Bytes) (tabs : Bool) : (fuel : Nat) → (done : Bytes) → Bytes → Bytes × Bytes
  | 0, done, rest => (done, rest)
  | _ + 1, done, [] => (done, [])
  | fuel + 1, done, rest =>
    let line := rest.takeWhile (· != '\n')
    let after := rest.drop (line.length + 1)
    let line := if tabs then line.dropWhile (· == '\t') else line
    if line = stop then (done, after) else hereText stop tabs fuel (done ++ line ++ ['\n']) after

/-- A word as bytes, where it is nothing but text, and whether part of it is quoted. -/
def literal (pieces : List Piece) : Bytes × Bool :=
  pieces.foldl (fun (bytes, quoted) piece =>
    match piece with
    | .text q more => (bytes ++ more, quoted || q)
    | _ => (bytes, quoted)) ([], false)

/-- The word of a token that has a meaning of its own where a command starts. -/
def keyword? : Token → Option String
  | .word [.text false bytes] =>
    ["!", "case", "do", "done", "elif", "else", "esac", "fi", "for", "if", "in", "then", "until", "while", "\x7b",
      "\x7d"].find? fun word => word.toList == bytes
  | _ => none

/-- How a token is called in a complaint. -/
def Token.name (keywords : Bool) : Token → String
  | sign text => "\"" ++ text ++ "\""
  | redirect _ _ => "redirection"
  | newline => "newline"
  | finish => "end of file"
  | word pieces =>
    match keywords, keyword? (.word pieces) with
    | true, some w => "\"" ++ w ++ "\""
    | _, _ => "word"

/-- Whether a token ends a list of commands inside another command. -/
def endsList (t : Token) : Bool :=
  match t with
  | .finish => true
  | .sign text => text == ")" || text == ";;"
  | t => (keyword? t).any fun w => ["do", "done", "elif", "else", "esac", "fi", "then", "\x7d"].contains w

/-- An unexpected token, and the one that was expected, if it is known. -/
def unexpected {α : Type} (t : Token) (keywords : Bool) (expected : String := "") : Reader α :=
  fail (t.name keywords ++ " unexpected" ++
    if expected = "" then ""
    else if expected = "word" then " (expecting word)"
    else " (expecting \"" ++ expected ++ "\")")

/-- An assignment at the start of a command: the name and the value. -/
def assignment? : List Piece → Option (Bytes × List Piece)
  | .text false bytes :: rest =>
    let name := bytes.takeWhile (· != '=')
    if isName name ∧ name.length < bytes.length then
      let value := bytes.drop (name.length + 1)
      some (name, if value.isEmpty then rest else .text false value :: rest)
    else none
  | _ => none

/-- The use of a parameter that stands after its name between braces. -/
inductive Use where
  | plain
  | missing (how : Missing) (emptyToo : Bool)
  | cut (cut : Cut)
  | malformed

def readUse : Reader Use := do
  let missing (c : Char) (emptyToo : Bool) : Option Use :=
    match c with
    | '-' => some (.missing .useWord emptyToo)
    | '=' => some (.missing .assign emptyToo)
    | '?' => some (.missing .complain emptyToo)
    | '+' => some (.missing .invert emptyToo)
    | _ => none
  match ← rest with
  | '}' :: _ => return .plain
  | '%' :: '%' :: _ => do skip 2; return .cut .longEnd
  | '%' :: _ => do skip 1; return .cut .shortEnd
  | '#' :: '#' :: _ => do skip 2; return .cut .longStart
  | '#' :: _ => do skip 1; return .cut .shortStart
  | ':' :: c :: _ =>
    match missing c true with
    | some use => do skip 2; return use
    | none => return .malformed
  | c :: _ =>
    match missing c false with
    | some use => do skip 1; return use
    | none => return .malformed
  | [] => return .malformed

def readParameterName : Reader Bytes := do
  match ← rest with
  | c :: _ =>
    if c.isDigit then Reader.takeWhile Char.isDigit
    else if startsName c then Reader.takeWhile inName
    else if isSpecial c then do skip 1; return [c]
    else return []
  | [] => return []

mutual

/-- Reads the pieces of a word up to its end, with those read so far, the latest first. -/
def readPieces : (fuel : Nat) → Mode → (done : List Piece) → Reader (List Piece)
  | 0, _, done => return done.reverse
  | fuel + 1, mode, done => do
    match ← rest with
    | [] =>
      match mode with
      | .plain | .text => return done.reverse
      | .quotes => fail "Unterminated quoted string"
      | .braces quoted => fail (if quoted then "Unterminated quoted string" else "Missing '\x7d'")
    | '\\' :: '\n' :: _ => do skip 2; readPieces fuel mode done
    | '\\' :: c :: _ =>
      if mode.quoted ∧ ¬ "$\x60\\".toList.contains c ∧ ¬ (c = '"' ∧ mode ≠ .text) ∧
          ¬ (c = '}' ∧ mode = .braces true) then do
        skip 1; readPieces fuel mode (.text true ['\\'] :: done)
      else do skip 2; readPieces fuel mode (.text true [c] :: done)
    | '$' :: _ => do
      skip 1
      let piece ← readDollar fuel mode.quoted
      readPieces fuel mode (piece :: done)
    | c :: after =>
      if c = '\x60' then
        match backquoted 0 [] after with
        | none => do skip (after.length + 1); fail "EOF in backquote substitution"
        | some (text, count) => do
          skip (count + 2)
          let saved ← get
          set { rest := text : Source }
          let body ← readInner fuel
          set saved
          readPieces fuel mode (.output mode.quoted body :: done)
      else if c = '\'' ∧ (mode = .plain ∨ mode = .braces false) then
        let inside := after.takeWhile (· != '\'')
        if inside.length = after.length then do skip (after.length + 1); fail "Unterminated quoted string"
        else do skip (inside.length + 2); readPieces fuel mode (.text true inside :: done)
      else if c = '"' ∧ mode = .quotes then do skip 1; return done.reverse
      else if c = '"' ∧ mode ≠ .text then do
        skip 1
        let inside ← readPieces fuel .quotes []
        readPieces fuel mode (inside.reverse ++ .text true [] :: done)
      else if c = '}' ∧ (mode = .braces true ∨ mode = .braces false) then do skip 1; return done.reverse
      else if mode = .plain ∧ endsWord c then return done.reverse
      else do
        let run := after.takeWhile mode.isOrdinary
        skip (run.length + 1)
        readPieces fuel mode (.text mode.quoted (c :: run) :: done)

/-- Reads what stands after a dollar sign. -/
def readDollar : (fuel : Nat) → (quoted : Bool) → Reader Piece
  | 0, quoted => return .text quoted ['$']
  | fuel + 1, quoted => do
    match ← rest with
    | '(' :: '(' :: after =>
      match sumText 0 [] after with
      | none => do skip (after.length + 2); fail "Missing '))'"
      | some text => do
        skip (text.length + 4)
        let saved ← get
        set { saved with rest := text, ahead := none }
        let body ← readPieces fuel .text []
        set saved
        return .sum quoted body
    | '(' :: _ => do
      skip 1
      let ahead := (← get).ahead
      modify fun s => { s with ahead := none }
      let body ← readInner fuel
      match ← readToken fuel with
      | .sign ")" => do
        modify fun s => { s with ahead }
        return .output quoted body
      | t => unexpected t true ")"
    | '{' :: '#' :: '}' :: _ => do skip 3; return .value quoted ['#']
    | '{' :: '#' :: _ => do
      skip 2
      let name ← readParameterName
      match ← rest with
      | '}' :: _ => do skip 1; return if name.isEmpty then .malformed else .length name
      | [] => fail (if quoted then "Unterminated quoted string" else "Missing '\x7d'")
      | _ => do
        let _ ← Reader.takeWhile (· != '}')
        skip 1
        return .malformed
    | '{' :: _ => do
      skip 1
      let name ← readParameterName
      let use ← if name.isEmpty then pure .malformed else readUse
      let word ← readPieces fuel (.braces quoted) []
      match use with
      | .plain => return .value quoted name
      | .missing how emptyToo => return .fallback quoted name how emptyToo word
      | .cut cut => return .trimmed quoted name cut word
      | .malformed => return .malformed
    | c :: _ =>
      if startsName c then return .value quoted (← Reader.takeWhile inName)
      else if isSpecial c then do skip 1; return .value quoted [c]
      else return .text quoted ['$']
    | [] => return .text quoted ['$']

/-- Reads the next token. -/
def readToken : (fuel : Nat) → Reader Token
  | 0 => return .finish
  | fuel + 1 => do
    match (← get).ahead with
    | some t => do
      modify fun s => { s with ahead := none }
      return t
    | none => do
      skipBlanks ((← rest).length + 1)
      let bytes ← rest
      let starting (words : List String) : Option String := words.find? fun w => w.toList.isPrefixOf bytes
      match bytes with
      | [] => return .finish
      | '\n' :: _ => do skip 1; return .newline
      | _ =>
        let digits := bytes.takeWhile Char.isDigit
        let after := bytes.drop digits.length
        match redirectSigns.find? fun w => w.toList.isPrefixOf after with
        | some w => do
          skip (digits.length + w.length)
          let number := digits.foldl (fun n c => n * 10 + (c.toNat - 48)) 0
          return .redirect (if digits.isEmpty then none else some number) w
        | none =>
          match starting signs with
          | some w => do skip w.length; return .sign w
          | none => return .word (← readPieces fuel .plain [])

/-- Reads the next token after line ends. -/
def readPast : (fuel : Nat) → Reader Token
  | 0 => return .finish
  | fuel + 1 => do
    match ← readToken fuel with
    | .newline => readPast fuel
    | t => return t

def readRedirect : (fuel : Nat) → (number : Option Nat) → (sign : String) → Reader Redirect
  | 0, _, _ => fail "redirection unexpected"
  | fuel + 1, number, sign => do
    match ← readToken fuel with
    | .word pieces =>
      let output := number.getD 1
      let input := number.getD 0
      match sign with
      | ">" | ">|" => return .mk output .write pieces
      | ">>" => return .mk output .append pieces
      | ">&" => return .mk output .copy pieces
      | "<&" => return .mk input .copy pieces
      | "<" | "<>" => return .mk input .read pieces
      | _ => do
        let (stop, quoted) := literal pieces
        let bytes ← rest
        let line := bytes.takeWhile (· != '\n')
        let (text, after) := hereText stop (sign == "<<-") (bytes.length + 1) [] (bytes.drop (line.length + 1))
        goOn (line ++ '\n' :: after)
        if quoted then return .mk input .here [.text true text]
        let saved ← get
        set { saved with rest := text, ahead := none }
        let body ← readPieces fuel .text []
        set saved
        return .mk input .here body
    | t => unexpected t false

/-- Reads the redirections after a command. -/
def readRedirects : (fuel : Nat) → Reader (List Redirect)
  | 0 => return []
  | fuel + 1 => do
    match ← readToken fuel with
    | .redirect number sign => do
      let r ← readRedirect fuel number sign
      return r :: (← readRedirects fuel)
    | t => do
      modify fun s => { s with ahead := some t }
      return []

/-- Reads a command of words; what was read of it so far comes with the latest first. -/
def readSimple : (fuel : Nat) → (line : Nat) → (assignments : List (Bytes × List Piece)) →
    (words : List (List Piece)) → (redirects : List Redirect) → Reader Tree
  | 0, _, _, _, _ => return .nothing
  | fuel + 1, line, assignments, words, redirects => do
    match ← readToken fuel with
    | .word pieces =>
      match words, assignment? pieces with
      | [], some a => readSimple fuel line (a :: assignments) [] redirects
      | _, _ => readSimple fuel line assignments (pieces :: words) redirects
    | .redirect number sign => do
      let r ← readRedirect fuel number sign
      readSimple fuel line assignments words (r :: redirects)
    | t =>
      match t, assignments, words, redirects with
      | .sign "(", [], [name], [] => do
        match ← readToken fuel with
        | .sign ")" => pure ()
        | t => unexpected t false ")"
        let (name, quoted) := literal name
        if quoted ∨ ¬ isName name then fail "Bad function name"
        let first ← readPast fuel
        return .define name (← readCommand fuel first)
      | t, _, _, _ => do
        modify fun s => { s with ahead := some t }
        return .simple line assignments.reverse words.reverse redirects.reverse

/-- Reads the word that has to come next, past line ends. -/
def expect : (fuel : Nat) → (word : String) → Reader Unit
  | 0, _ => return
  | fuel + 1, word => do
    let t ← readPast fuel
    match t with
    | .sign text => if text = word then return else unexpected t true word
    | t => if keyword? t = some word then return else unexpected t true word

/-- Reads the rest of a branch after its first word. -/
def readBranch : (fuel : Nat) → Reader Tree
  | 0 => return .nothing
  | fuel + 1 => do
    let condition ← readList fuel true .nothing
    expect fuel "then"
    let yes ← readList fuel true .nothing
    let t ← readPast fuel
    match keyword? t with
    | some "elif" => return .branch condition yes (← readBranch fuel)
    | some "else" => do
      let no ← readList fuel true .nothing
      expect fuel "fi"
      return .branch condition yes no
    | some "fi" => return .branch condition yes .nothing
    | _ => unexpected t true "fi"

def readPatterns : (fuel : Nat) → (first : Token) → Reader (List (List Piece))
  | 0, _ => return []
  | fuel + 1, first => do
    let pieces := match first with
      | .word pieces => pieces
      | _ => []
    match ← readToken fuel with
    | .sign "|" => do
      let next ← readToken fuel
      return pieces :: (← readPatterns fuel next)
    | .sign ")" => return [pieces]
    | t => unexpected t false ")"

def readCases : (fuel : Nat) → Reader (List (List (List Piece) × Tree))
  | 0 => return []
  | fuel + 1 => do
    let t ← readPast fuel
    if keyword? t = some "esac" then return []
    let first ← match t with
      | .sign "(" => readToken fuel
      | t => pure t
    let patterns ← readPatterns fuel first
    let next ← readPast fuel
    modify fun s => { s with ahead := some next }
    let body ← if endsList next then pure .nothing else readList fuel true .nothing
    let t ← readPast fuel
    match t with
    | .sign ";;" => return (patterns, body) :: (← readCases fuel)
    | t => if keyword? t = some "esac" then return [(patterns, body)] else unexpected t true ";;"

/-- Reads the words of a loop up to the end of the line or a semicolon. -/
def readLoopWords : (fuel : Nat) → Reader (List (List Piece))
  | 0 => return []
  | fuel + 1 => do
    match ← readToken fuel with
    | .word pieces => return pieces :: (← readLoopWords fuel)
    | .newline | .sign ";" => return []
    | t => unexpected t false

def readCommand : (fuel : Nat) → Token → Reader Tree
  | 0, _ => return .nothing
  | fuel + 1, t => do
    let line := (← get).line
    let wrapped (body : Tree) : Reader Tree := do
      match ← readRedirects fuel with
      | [] => return body
      | redirects => return .redirected line body redirects
    match t, keyword? t with
    | _, some "if" => do wrapped (← readBranch fuel)
    | _, some "while" | _, some "until" => do
      let condition ← readList fuel true .nothing
      expect fuel "do"
      let body ← readList fuel true .nothing
      expect fuel "done"
      wrapped (.loop (keyword? t == some "until") condition body)
    | _, some "for" => do
      let name ← match ← readToken fuel with
        | .word pieces =>
          let (name, quoted) := literal pieces
          if quoted ∨ ¬ isName name then fail "Bad for loop variable" else pure name
        | _ => fail "Bad for loop variable"
      let next ← readPast fuel
      let words ← if keyword? next = some "in" then some <$> readLoopWords fuel
        else do
          match next with
          | .sign ";" => pure ()
          | next => modify fun s => { s with ahead := some next }
          pure none
      expect fuel "do"
      let body ← readList fuel true .nothing
      expect fuel "done"
      wrapped (.each line name words body)
    | _, some "case" => do
      match ← readToken fuel with
      | .word pieces => do
        expect fuel "in"
        wrapped (.choice line pieces (← readCases fuel))
      | t => unexpected t false "word"
    | .sign "(", _ => do
      let body ← readList fuel true .nothing
      expect fuel ")"
      wrapped (.inner body)
    | _, some "\x7b" => do
      let body ← readList fuel true .nothing
      expect fuel "\x7d"
      wrapped body
    | .word _, none | .redirect _ _, none => do
      modify fun s => { s with ahead := some t }
      readSimple fuel line [] [] []
    | t, _ => unexpected t true

/-- Reads commands with pipes between them, of which the first may be negated. -/
def readNegated : (fuel : Nat) → Token → Reader Tree
  | 0, _ => return .nothing
  | fuel + 1, t => do
    if keyword? t = some "!" then
      let next ← readToken fuel
      return .negation (← readPipe fuel next)
    else readPipe fuel t

def readPipe : (fuel : Nat) → Token → Reader Tree
  | 0, _ => return .nothing
  | fuel + 1, t => do
    let first ← readCommand fuel t
    match ← readToken fuel with
    | .sign "|" => do
      let next ← readPast fuel
      return .pipe first (← readPipe fuel next)
    | t => do
      modify fun s => { s with ahead := some t }
      return first

/-- Reads commands that run after success or failure of the one before. -/
def readAndOr : (fuel : Nat) → (before : Tree → Tree) → Token → Reader Tree
  | 0, _, _ => return .nothing
  | fuel + 1, before, t => do
    let tree := before (← readNegated fuel t)
    match ← readToken fuel with
    | .sign "&&" => do
      let next ← readPast fuel
      readAndOr fuel (.both tree) next
    | .sign "||" => do
      let next ← readPast fuel
      readAndOr fuel (.either tree) next
    | t => do
      modify fun s => { s with ahead := some t }
      return tree

/-- Reads the commands of a substitution, of which there may be none. What stands behind them is left. -/
def readInner : (fuel : Nat) → Reader Tree
  | 0 => return .nothing
  | fuel + 1 => do
    let t ← readPast fuel
    modify fun s => { s with ahead := some t }
    if endsList t then return .nothing
    else readList fuel true .nothing

/-- Reads a list of commands: inside another command up to the word that ends it, otherwise up to the end of
the line. `done` is what was read of it so far. -/
def readList : (fuel : Nat) → (nested : Bool) → (done : Tree) → Reader Tree
  | 0, _, done => return done
  | fuel + 1, nested, done => do
    let first : Bool := match done with
      | .nothing => true
      | _ => false
    let join (next : Tree) : Tree := if first then next else .sequence done next
    let t ← if nested then readPast fuel else readToken fuel
    match t with
    | .newline => return done
    | .finish => do
      modify fun s => { s with ahead := some t }
      return done
    | t =>
      if nested ∧ ¬ first ∧ endsList t then do
        modify fun s => { s with ahead := some t }
        return done
      else do
        let tree ← readAndOr fuel id t
        match ← readToken fuel with
        | .sign "&" => readList fuel nested (join (.background tree))
        | .sign ";" => readList fuel nested (join tree)
        | .newline => do
          modify fun s => { s with ahead := some .newline }
          readList fuel nested (join tree)
        | .finish => do
          modify fun s => { s with ahead := some .finish }
          return join tree
        | t =>
          if nested then do
            modify fun s => { s with ahead := some t }
            return join tree
          else unexpected t true

end

/-- Whether nothing is left to read. -/
def Source.isEmpty (s : Source) : Bool :=
  match s.ahead with
  | some .finish => true
  | some _ => false
  | none => s.rest.isEmpty

/-- Reads the next line, and gives what is left. -/
def readLine (s : Source) : Except Mistake (Tree × Source) :=
  (readList (8 * s.rest.length + 64) false .nothing).run s

end WatchTrial.Rehearsal.Shell
