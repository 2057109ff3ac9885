import WatchTrial.Rehearsal.Shell.Machine
import WatchTrial.Rehearsal.Shell.Pattern
import WatchTrial.Rehearsal.Shell.Reader
import WatchTrial.Rehearsal.Shell.Sum
/-!
# Running shell lines

The words of a command are expanded to fields: values and outputs are put in, and what came in without
quotes is divided at blanks. Then the command runs: a command of the shell itself, a function, or a tool.
-/
namespace WatchTrial.Rehearsal.Shell

/-- Whether a shell is still going on. -/
def Machine.goes (m : Machine) : Bool := m.flow == .on

/-- An expanded byte, or a mark between bytes. -/
inductive Mark where
  /-- A byte: whether it may divide fields, and whether it is quoted. -/
  | byte (c : Char) (divides quoted : Bool)
  /-- There is a field here even if it is empty. -/
  | field
  /-- A field ends here. -/
  | cut
  /-- There were no parameters to put in. -/
  | absent
deriving Repr, DecidableEq, Inhabited

/-- The marks of bytes. -/
def marks (divides quoted : Bool) (bytes : Bytes) : List Mark := bytes.map fun c => .byte c divides quoted

/-- The bytes of marks as one field. -/
def joined (ms : List Mark) : Bytes :=
  ms.filterMap fun
    | .byte c _ _ => some c
    | .cut => some ' '
    | _ => none

def patternOf (ms : List Mark) : List Matcher :=
  let bytes := ms.filterMap fun
    | .byte c _ quoted => some (c, quoted)
    | _ => none
  Matcher.ofBytes (bytes.length + 1) bytes

/-- Divides marks into fields; `open_` is the field at hand and `done` those before, both with the latest
first. -/
def fields (dividers : Bytes) : (open_ : Option Bytes) → (done : List Bytes) → List Mark → List Bytes
  | open_, done, [] => (match open_ with
    | some bytes => bytes.reverse :: done
    | none => done).reverse
  | open_, done, mark :: rest =>
    match mark with
    | .field => fields dividers (some (open_.getD [])) done rest
    | .absent => fields dividers (open_.filter (! ·.isEmpty)) done rest
    | .cut =>
      match open_ with
      | some bytes => fields dividers none (bytes.reverse :: done) rest
      | none => fields dividers none done rest
    | .byte c divides _ =>
      if divides ∧ dividers.contains c then
        match open_, isBlankByte c with
        | some bytes, _ => fields dividers none (bytes.reverse :: done) rest
        | none, true => fields dividers none done rest
        | none, false => fields dividers none ([] :: done) rest
      else fields dividers (some (c :: open_.getD [])) done rest

def allParams (m : Machine) (star quoted : Bool) : List Mark :=
  if m.params.isEmpty then [.absent]
  else if quoted ∧ star then
    .field :: marks false true ((match m.dividers with
      | [] => []
      | c :: _ => [c]).intercalate m.params)
  else
    let each := m.params.map fun param => (if quoted then [Mark.field] else []) ++ marks (! quoted) quoted param
    [Mark.cut].intercalate each

/-- A value as marks, or a complaint if it has to be set and is not. -/
def valueMarks (m : Machine) (quoted : Bool) (name : Bytes) : List Mark × Machine :=
  if name = ['@'] ∨ name = ['*'] then (allParams m (name == ['*']) quoted, m)
  else
    match m.value? name with
    | some bytes => (marks (! quoted) quoted bytes, m)
    | none => if m.strict then ([], m.abort (name ++ bytesOf ": parameter not set")) else ([], m)

/-- The commands of the shell whose mistakes end it. -/
def specials : List String :=
  [".", ":", "break", "continue", "eval", "exec", "exit", "export", "readonly", "return", "set", "shift",
    "times", "trap",
    "unset"]

/-- The other commands of the shell itself. -/
def builtins : List String :=
  ["[", "cd", "command", "echo", "false", "kill", "local", "printf", "read", "test", "true", "type", "umask", "wait"]

def countOf? (arg : Bytes) : Option Nat :=
  let n := (takeDigits 10 arg).1
  if arg.isEmpty ∨ ¬ arg.all Char.isDigit ∨ Nat.pow 2 31 ≤ n then none else some n

def notNumber (command : String) (arg : Bytes) : Bytes := bytesOf (command ++ ": Illegal number: ") ++ arg

/-- Signals that end no process. -/
def harmlessSignals : List String := ["0", "17", "18", "23", "28", "CHLD", "CONT", "URG", "WINCH"]

def kill (m : Machine) (args : List Bytes) : Machine :=
  let (signal, targets) := match args with
    | ['-', 's'] :: name :: rest => (name, rest)
    | ('-' :: c :: name) :: rest => (c :: name, rest)
    | args => ("TERM".toList, args)
  if targets.contains ownNumber then
    if harmlessSignals.contains (textOf signal) then { m with status := 0 }
    else { m with killed := true, flow := .exit }
  else if targets.isEmpty then
    m.fail (bytesOf ("kill: Usage: kill [-s sigspec | -signum | -sigspec] [pid | job]... or\n" ++
      "kill -l [exitstatus]")) 2
  else m.fail (bytesOf "kill: No such process") 1

/-- Takes a line of the input into variables; the last one gets the rest of the line. -/
def readVars (m : Machine) (args : List Bytes) : Machine :=
  let names := args.filter (· != ['-', 'r'])
  let line := m.input.takeWhile (· != '\n')
  let after := m.input.drop line.length
  let isGap (c : Char) : Bool := m.dividers.contains c
  let rec fill (m : Machine) : List Bytes → Bytes → Machine
    | [], _ => m
    | [name], bytes => m.assign name ((bytes.dropWhile isGap).reverse.dropWhile isGap).reverse
    | name :: rest, bytes =>
      let bytes := bytes.dropWhile isGap
      let word := bytes.takeWhile (! isGap ·)
      fill (m.assign name word) rest (bytes.drop word.length)
  { fill m names line with input := after.drop 1, status := if after.isEmpty then 1 else 0 }

def setLetter (on : Bool) (m : Machine) : Char → Machine
  | 'e' => { m with endsAtFailure := on }
  | 'u' => { m with strict := on }
  | 'x' => { m with traced := on }
  | _ => m

def setOptions (m : Machine) : List Bytes → Machine
  | [] => { m with status := 0 }
  | ['-', '-'] :: params => { m with params, status := 0 }
  | (sign :: c :: letters) :: rest =>
    if sign = '-' ∨ sign = '+' then
      match (c :: letters).find? fun c => ! "abCefhImnsuvVx".toList.contains c with
      | some c => m.abort (bytesOf "set: Illegal option " ++ [sign, c])
      | none => setOptions ((c :: letters).foldl (setLetter (sign == '-')) m) rest
    else { m with params := (sign :: c :: letters) :: rest, status := 0 }
  | params => { m with params, status := 0 }

def setLongOption (m : Machine) (on : Bool) (name : Bytes) : Machine :=
  match textOf name with
  | "errexit" => { m with endsAtFailure := on }
  | "nounset" => { m with strict := on }
  | "xtrace" => { m with traced := on }
  | _ => m

/-- Reads the options that a shell is called with: the shell, whether a line is given among its arguments,
and the other arguments. What is wrong is given as a complaint. -/
def shellOptions (m : Machine) (withLine : Bool) : List Bytes → Except Bytes (Machine × Bool × List Bytes)
  | [] => .ok (m, withLine, [])
  | ['-'] :: rest | ['-', '-'] :: rest => .ok (m, withLine, rest)
  | arg :: rest =>
    match arg with
    | sign :: letters =>
      if sign ≠ '-' ∧ sign ≠ '+' then .ok (m, withLine, arg :: rest)
      else
        match letters.find? fun c => ! "abcCefhilmnosuvVx".toList.contains c with
        | some c => .error (bytesOf "Illegal option " ++ [sign, c])
        | none =>
          let m := letters.foldl (setLetter (sign == '-')) m
          let withLine := withLine || letters.contains 'c'
          if letters.contains 'o' then
            match rest with
            | name :: rest => shellOptions (setLongOption m (sign == '-') name) withLine rest
            | [] => .ok (m, withLine, [])
          else shellOptions m withLine rest
    | [] => .ok (m, withLine, arg :: rest)

/-- Sets variables that are given with their values, and gives the names. -/
def assignAll (m : Machine) (args : List Bytes) : Machine × List Bytes :=
  args.foldl (fun (m, names) arg =>
    let name := arg.takeWhile (· != '=')
    ((if name.length < arg.length then m.assign name (arg.drop (name.length + 1)) else m), name :: names)) (m, [])

def builtin (m : Machine) (name : String) (args : List Bytes) : Machine :=
  match name with
  | "true" | ":" | "wait" | "times" => { m with status := 0 }
  | "false" => { m with status := 1 }
  | "echo" => m.take { out := shellEcho args }
  | "printf" =>
    let args := match args with
      | ['-', '-'] :: rest => rest
      | args => args
    match args with
    | [] => m.fail (bytesOf "printf: usage: printf format [arg ...]") 2
    | ('-' :: c :: rest) :: _ => m.fail (bytesOf "printf: Illegal option -" ++ (c :: rest).take 1) 2
    | format :: args =>
      m.take (Build.shell.print (m.name ++ bytesOf ": " ++ showNat m.line ++ bytesOf ": printf: ") format args)
  | "test" | "[" =>
    match Condition.answer .shell (bytesOf name) m.files args with
    | .ok holds => { m with status := if holds then 0 else 1 }
    | .error why => m.fail (bytesOf (name ++ ": ") ++ why) 2
  | "exit" | "return" =>
    let flow : Flow := if name = "exit" then .exit else .giveBack
    match args with
    | [] => { m with flow }
    | arg :: _ =>
      match countOf? arg with
      | some n => { m with status := n % 256, flow }
      | none => m.abort (notNumber name arg)
  | "break" | "continue" =>
    let go (n : Nat) : Machine :=
      let n := min n m.loops
      { m with status := 0, flow := if n = 0 then .on else if name = "break" then .leave n else .again n }
    match args with
    | [] => go 1
    | arg :: _ =>
      match countOf? arg with
      | some (n + 1) => go (n + 1)
      | _ => m.abort (notNumber name arg)
  | "shift" =>
    match args.head?.map countOf? with
    | some none => m.abort (notNumber name (args.headD []))
    | some (some n) =>
      if m.params.length < n then m.abort (bytesOf "shift: can't shift that many")
      else { m with params := m.params.drop n, status := 0 }
    | none =>
      if m.params.isEmpty then m.abort (bytesOf "shift: can't shift that many")
      else { m with params := m.params.drop 1, status := 0 }
  | "export" | "readonly" | "local" =>
    match args.find? fun arg => ! isName (arg.takeWhile (· != '=')) with
    | some arg => m.abort (bytesOf (name ++ ": ") ++ arg ++ bytesOf ": bad variable name")
    | none =>
      let (m, names) := assignAll m args
      if ! m.goes then m
      else
        { m with
          exported := (if name = "export" then names else []) ++ m.exported
          fixed := (if name = "readonly" then names else []) ++ m.fixed
          status := 0 }
  | "unset" =>
    match args.find? (! isName ·), args.find? m.fixed.contains with
    | some arg, _ => m.abort (bytesOf "unset: " ++ arg ++ bytesOf ": bad variable name")
    | none, some arg => m.abort (bytesOf "unset: " ++ arg ++ bytesOf ": is read only")
    | none, none =>
      { m with
        vars := m.vars.filter fun (n, _) => ! args.contains n
        functions := m.functions.filter fun (n, _) => ! args.contains n
        status := 0 }
  | "set" => setOptions m args
  | "read" => if args.isEmpty then m.fail (bytesOf "read: arg count") 2 else readVars m args
  | "kill" => kill m args
  | "trap" =>
    match args with
    | action :: signals =>
      if signals.any fun s => s = ['0'] ∨ s = "EXIT".toList then
        { m with atExit := if action = ['-'] then [] else action, status := 0 }
      else { m with status := 0 }
    | [] => { m with status := 0 }
  | "cd" =>
    match args with
    | path :: _ =>
      if m.files.isDirectory (textOf path) then { m with status := 0 }
      else m.fail (bytesOf "cd: can't cd to " ++ path) 2
    | [] => { m with status := 0 }
  | "umask" => m.take { out := bytesOf "0022\n" }
  | _ => { m with status := 0 }

/-- Where a tool stands. -/
def toolPath (name : Bytes) : Bytes := bytesOf "/usr/bin/" ++ name

def isTool (name : Bytes) : Bool := textOf name == "sh" || (tool? (textOf name)).isSome

/-- The name of the tool that a word calls, by its name or by its path. -/
def calledTool? (word : Bytes) : Option Bytes :=
  let name := (word.reverse.takeWhile (· != '/')).reverse
  if word.contains '/' then
    if (word = toolPath name ∨ word = bytesOf "/bin/" ++ name) ∧ isTool name then some name else none
  else if isTool word then some word
  else none

def describe (m : Machine) (short : Bool) (names : List Bytes) : Machine :=
  names.foldl (fun m name =>
    let say (bytes : Bytes) : Machine := m.write 1 (bytes ++ ['\n'])
    if (m.functions.lookup name).isSome then say (if short then name else name ++ bytesOf " is a shell function")
    else if specials.contains (textOf name) then
      say (if short then name else name ++ bytesOf " is a special shell builtin")
    else if builtins.contains (textOf name) then say (if short then name else name ++ bytesOf " is a shell builtin")
    else if isTool name then say (if short then toolPath name else name ++ bytesOf " is " ++ toolPath name)
    else { (if short then m else say (name ++ bytesOf ": not found")) with status := 127 }) { m with status := 0 }

/-- The tools that take all of their input. -/
def consumers : List String := ["cat", "head", "tail", "wc", "tr", "sort"]

/-- Sends an open file elsewhere, given where it goes. -/
def openFile (m : Machine) (number : Nat) (channel : Channel) (target : Bytes) : Except Bytes Machine :=
  let path := textOf target
  match channel with
  | .here => .ok { m with input := target }
  | .copy =>
    if target = ['-'] then .ok { m with sinks := (number, .nowhere) :: m.sinks }
    else
      match countOf? target with
      | some n =>
        match m.sinks.lookup n with
        | some sink => .ok { m with sinks := (number, sink) :: m.sinks }
        | none => if number = 0 ∨ n = 0 then .ok m else .error (target ++ bytesOf ": Bad file descriptor")
      | none => .error (bytesOf "Syntax error: Bad fd number")
  | .read =>
    let call : Call := { name := [], files := m.files }
    match call.content (if target = ['-'] then "./-".toList else target) with
    | .ok input => .ok { m with input }
    | .error .isDirectory => .ok { m with input := [] }
    | .error _ => .error (bytesOf "cannot open " ++ target ++ bytesOf ": No such file")
  | .write | .append =>
    if path = nullFile then .ok { m with sinks := (number, .nowhere) :: m.sinks }
    else if path = "/dev/stdout" then .ok { m with sinks := (number, (m.sinks.lookup 1).getD .nowhere) :: m.sinks }
    else if path = "/dev/stderr" then .ok { m with sinks := (number, (m.sinks.lookup 2).getD .nowhere) :: m.sinks }
    else
      let exists_ := m.files.existsAt path
      match if channel = .append ∧ exists_ then .ok m.files else m.files.write path .empty with
      | .ok files =>
        if files.isDirectory path then .error (bytesOf "cannot create " ++ target ++ bytesOf ": Is a directory")
        else .ok { m with files, sinks := (number, .file path) :: m.sinks }
      | .error _ =>
        .error (bytesOf "cannot create " ++ target ++
          bytesOf (if m.files.isDirectory path then ": Is a directory" else ": Directory nonexistent"))

/-- How many functions may run inside each other. -/
def mostFunctions : Nat := 1000

/-- What a loop does after its body: whether it ends, and the shell after it. -/
def afterBody (m : Machine) : Bool × Machine :=
  match m.flow with
  | .on => (false, m)
  | .leave n => (true, { m with flow := if n ≤ 1 then .on else .leave (n - 1) })
  | .again n => if n ≤ 1 then (false, { m with flow := .on }) else (true, { m with flow := .again (n - 1) })
  | _ => (true, m)

mutual

def expand : (fuel : Nat) → Machine → List Piece → List Mark × Machine
  | 0, m, _ => ([], m)
  | _ + 1, m, [] => ([], m)
  | fuel + 1, m, piece :: rest =>
    let (first, m) := expandPiece fuel m piece
    if m.goes then
      let (more, m) := expand fuel m rest
      (first ++ more, m)
    else (first, m)

def expandPiece : (fuel : Nat) → Machine → Piece → List Mark × Machine
  | 0, m, _ => ([], m)
  | fuel + 1, m, piece =>
    match piece with
    | .text quoted bytes => ((if quoted then [.field] else []) ++ marks false quoted bytes, m)
    | .value quoted name => valueMarks m quoted name
    | .length name =>
      match m.value? name with
      | some bytes => (marks true false (showNat bytes.length), m)
      | none => if m.strict then valueMarks m false name else (marks true false ['0'], m)
    | .fallback quoted name how emptyToo word =>
      let value := m.value? name
      let there := match value with
        | some bytes => ! (emptyToo && bytes.isEmpty)
        | none => false
      match how, there with
      | .invert, true => expand fuel m word
      | .invert, false => ([], m)
      | _, true => valueMarks m quoted name
      | .useWord, false => expand fuel m word
      | .assign, false =>
        let (ms, m) := expand fuel m word
        (marks (! quoted) quoted (joined ms), m.assign name (joined ms))
      | .complain, false =>
        let (ms, m) := expand fuel m word
        let text :=
          if word.isEmpty then bytesOf ("parameter not set" ++ if emptyToo then " or null" else "")
          else joined ms
        ([], m.abort (name ++ bytesOf ": " ++ text))
    | .trimmed quoted name cut word =>
      let (ms, m) := expand fuel m word
      let pattern := patternOf ms
      let bytes := (m.value? name).getD []
      (marks (! quoted) quoted (match cut with
        | .shortStart => Matcher.dropStart pattern false bytes
        | .longStart => Matcher.dropStart pattern true bytes
        | .shortEnd => Matcher.dropEnd pattern false bytes
        | .longEnd => Matcher.dropEnd pattern true bytes), m)
    | .output quoted body =>
      let inner := run fuel m.capture body
      let bytes := (inner.captured.reverse.dropWhile (· == '\n')).reverse.filter (· != '\x00')
      let after := m.resume { inner with buffers := inner.buffers.dropLast }
      (marks (! quoted) quoted bytes, { after with status := m.status, outputStatus := some after.status })
    | .sum quoted body =>
      let (ms, m) := expand fuel m body
      let text := joined ms
      match sumValue (fun name => (m.var? name).getD []) text with
      | .ok (n, changed) =>
        let m := changed.reverse.foldl (fun m (name, n) => m.assign name (toString n).toList) m
        (marks (! quoted) quoted (toString n).toList, m)
      | .error why => ([], m.abort (why.message text))
    | .malformed => ([], m.abort (bytesOf "Bad substitution"))

def expandAll : (fuel : Nat) → Machine → List (List Piece) → List Bytes × Machine
  | 0, m, _ => ([], m)
  | _ + 1, m, [] => ([], m)
  | fuel + 1, m, word :: rest =>
    let (ms, m) := expand fuel m word
    if m.goes then
      let (more, m) := expandAll fuel m rest
      (fields m.dividers none [] ms ++ more, m)
    else ([], m)

/-- Sends open files elsewhere. A mistake is given with the shell that made it. -/
def redirect : (fuel : Nat) → Machine → List Redirect → Except (Bytes × Machine) Machine
  | 0, m, _ => .ok m
  | _ + 1, m, [] => .ok m
  | fuel + 1, m, .mk number channel target :: rest =>
    let (ms, m) := expand fuel m target
    match openFile m number channel (joined ms) with
    | .ok m => redirect fuel m rest
    | .error why => .error (why, m)

/-- Sets variables before a command. -/
def assignWords : (fuel : Nat) → Machine → List (Bytes × List Piece) → Machine
  | 0, m, _ => m
  | _ + 1, m, [] => m
  | fuel + 1, m, (name, word) :: rest =>
    let (ms, m) := expand fuel m word
    if m.goes then assignWords fuel (m.assign name (joined ms)) rest else m

def runText : (fuel : Nat) → Machine → Source → Machine
  | 0, m, _ => m
  | fuel + 1, m, source =>
    if source.isEmpty ∨ ¬ m.goes then m
    else
      match readLine source with
      | .error mistake => { m with line := mistake.line }.abort (bytesOf mistake.message)
      | .ok (tree, source) => runText fuel (run fuel m tree) source

def runShell : (fuel : Nat) → Machine → (args : List Bytes) → Machine
  | 0, m, _ => m
  | fuel + 1, m, args =>
    match shellOptions m false args with
    | .error why => m.abortEarly why
    | .ok (m, true, []) => m.abortEarly (bytesOf "-c requires an argument")
    | .ok (m, true, text :: params) =>
      finish fuel (runText fuel { m with name := params.headD m.name, params := params.drop 1 } { rest := text })
    | .ok (m, false, []) => finish fuel (runText fuel m { rest := m.input })
    | .ok (m, false, args) => runFile fuel m args

/-- Runs the lines of a file as a shell of its own. -/
def runFile : (fuel : Nat) → Machine → (args : List Bytes) → Machine
  | 0, m, _ => m
  | fuel + 1, m, args =>
    let path := args.headD []
    let call : Call := { name := [], files := m.files }
    match call.content path with
    | .ok text => finish fuel (runText fuel { m with name := path, params := args.drop 1 } { rest := text })
    | .error _ => m.abortEarly (bytesOf "cannot open " ++ path ++ bytesOf ": No such file")

/-- Runs what was kept for the end of a shell. -/
def finish : (fuel : Nat) → Machine → Machine
  | 0, m => m
  | fuel + 1, m =>
    if m.killed ∨ m.atExit.isEmpty then m
    else
      let last := runText fuel { m with flow := .on, atExit := [] } { rest := m.atExit }
      if last.flow = .exit then last else { last with status := m.status, flow := m.flow }

def call : (fuel : Nat) → Machine → (name : Bytes) → (args : List Bytes) → Machine
  | 0, m, _, _ => m
  | fuel + 1, m, name, args =>
    match m.functions.lookup name with
    | some body =>
      if mostFunctions ≤ m.depth then
        m.abort (bytesOf "Maximum function recursion depth (" ++ showNat mostFunctions ++ bytesOf ") reached")
      else
        let after := run fuel { m with params := args, loops := 0, depth := m.depth + 1 } body
        { after with
          params := m.params, loops := m.loops, depth := m.depth
          flow := if after.flow = .giveBack then .on else after.flow }
    | none => callOwn fuel m name args

def callOwn : (fuel : Nat) → Machine → (name : Bytes) → (args : List Bytes) → Machine
  | 0, m, _, _ => m
  | fuel + 1, m, name, args =>
    let within (context : Bytes) (f : Machine → Machine) : Machine :=
      { f { m with context } with context := m.context }
    match textOf name with
    | "eval" =>
      if args.isEmpty then { m with status := 0 }
      else within (bytesOf "eval: ") fun m => runText fuel { m with status := 0 } { rest := [' '].intercalate args }
    | "exec" =>
      match args with
      | [] => { m with status := 0 }
      | name :: args => { within (bytesOf "exec: ") fun m => runTool fuel m name args with flow := .exit }
    | "." =>
      match args with
      | path :: _ =>
        let call : Call := { name := [], files := m.files }
        match call.content path with
        | .ok text => within (path ++ bytesOf ": ") fun m => runText fuel m { rest := text }
        | .error _ => m.abort (bytesOf ".: cannot open " ++ path ++ bytesOf ": No such file")
      | [] => { m with status := 0 }
    | "command" =>
      match args with
      | ['-', 'v'] :: names => describe m true (names.take 1)
      | ['-', 'V'] :: names => describe m false (names.take 1)
      | name :: args =>
        let after := callOwn fuel m name args
        if specials.contains (textOf name) ∧ ¬ ["exit", "exec", "eval", "."].contains (textOf name) ∧
            after.flow = .exit ∧ ¬ after.killed then
          { after with flow := .on }
        else after
      | [] => { m with status := 0 }
    | "type" => describe m false args
    | word =>
      if specials.contains word ∨ builtins.contains word then within [] fun m => builtin m word args
      else runTool fuel m name args

def runTool : (fuel : Nat) → Machine → (name : Bytes) → (args : List Bytes) → Machine
  | 0, m, _, _ => m
  | fuel + 1, m, name, args =>
    match calledTool? name with
    | none =>
      if name.contains '/' ∧ m.files.existsAt (textOf name) then m.fail (name ++ bytesOf ": Permission denied") 126
      else m.fail (name ++ bytesOf ": not found") 127
    | some called =>
      if textOf called = "sh" then
        let inner : Machine :=
          { name, line := m.line, vars := m.environment, exported := m.exported, buffers := m.buffers, sinks := m.sinks
            input := m.input, files := m.files }
        let after := runShell fuel inner args
        { m.resume { after with killed := false } with status := if after.killed then 137 else after.status }
      else
        match tool? (textOf called) with
        | some tool =>
          let m := m.take (tool { name, args, input := m.input, files := m.files })
          if consumers.contains (textOf called) then { m with input := [] } else m
        | none => m

def runLoop : (fuel : Nat) → Machine → (until_ : Bool) → (condition body : Tree) → (status : Nat) → Machine
  | 0, m, _, _, _, _ => m
  | fuel + 1, m, until_, condition, body, status =>
    let m := ask fuel m condition
    let (ended, m) := afterBody m
    if ended then m
    else if (m.status == 0) == until_ then { m with status }
    else
      let (ended, m) := afterBody (run fuel m body)
      if ended then m else runLoop fuel m until_ condition body m.status

/-- Runs a body for each of some fields; a loop that never ran succeeds. -/
def runEach : (fuel : Nat) → Machine → (name : Bytes) → (words : List Bytes) → (body : Tree) → (first : Bool) →
    Machine
  | 0, m, _, _, _, _ => m
  | _ + 1, m, _, [], _, first => if first then { m with status := 0 } else m
  | fuel + 1, m, name, word :: rest, body, _ =>
    let (ended, m) := afterBody (run fuel (m.assign name word) body)
    if ended then m else runEach fuel m name rest body false

/-- Runs the first case with a pattern for a word. -/
def runChoice : (fuel : Nat) → Machine → (word : Bytes) → List (List (List Piece) × Tree) → Machine
  | 0, m, _, _ => m
  | _ + 1, m, _, [] => { m with status := 0 }
  | fuel + 1, m, word, (patterns, body) :: rest =>
    let (found, m) := matchesAny fuel m word patterns
    if ! m.goes then m
    else if found then runOr fuel m body
    else runChoice fuel m word rest

/-- Runs a command; nothing at all succeeds. -/
def runOr : (fuel : Nat) → Machine → Tree → Machine
  | 0, m, _ => m
  | fuel + 1, m, tree =>
    match tree with
    | .nothing => { m with status := 0 }
    | tree => run fuel m tree

def matchesAny : (fuel : Nat) → Machine → (word : Bytes) → List (List Piece) → Bool × Machine
  | 0, m, _, _ => (false, m)
  | _ + 1, m, _, [] => (false, m)
  | fuel + 1, m, word, pattern :: rest =>
    let (ms, m) := expand fuel m pattern
    if Matcher.matchesAll (patternOf ms) word then (true, m) else matchesAny fuel m word rest

def runSimple : (fuel : Nat) → Machine → (assignments : List (Bytes × List Piece)) → (words : List (List Piece)) →
    (redirects : List Redirect) → Machine
  | 0, m, _, _, _ => m
  | fuel + 1, m, assignments, words, redirects =>
    let (args, m) := expandAll fuel { m with outputStatus := none } words
    if ! m.goes then m
    else
      let special := specials.contains (textOf (args.headD []))
      match redirect fuel m redirects with
      | .error (why, after) =>
        let after := { after with sinks := m.sinks, input := m.input }
        if special ∧ ¬ args.isEmpty then after.abort why else after.fail why 2
      | .ok opened =>
        let assigned := assignWords fuel opened assignments
        let traced := fun (ready : Machine) =>
          if ready.traced then
            let settings := assignments.map fun (a : Bytes × List Piece) => a.1 ++ '=' :: (assigned.var? a.1).getD []
            let line := bytesOf "+ " ++ [' '].intercalate (settings ++ args) ++ ['\n']
            { { ready with sinks := m.sinks }.write 2 line with sinks := ready.sinks }
          else ready
        let close (after : Machine) : Machine :=
          { after with sinks := m.sinks, input := if redirects.isEmpty then after.input else m.input }
        if ! assigned.goes then close assigned
        else
          match args with
          | [] => close { traced assigned with status := assigned.outputStatus.getD 0 }
          | name :: args =>
            let ready :=
              if special ∨ assignments.isEmpty then traced assigned
              else { traced assigned with exported := assignments.map (·.1) ++ m.exported }
            let after := call fuel ready name args
            let after := close after
            if special ∨ assignments.isEmpty then after
            else
              assignments.foldl (fun after (name, _) => after.restore m name) { after with exported := m.exported }

/-- Runs a command whose outcome is asked for. -/
def ask : (fuel : Nat) → Machine → Tree → Machine
  | 0, m, _ => m
  | fuel + 1, m, tree => { run fuel { m with asked := true } tree with asked := m.asked }

def run : (fuel : Nat) → Machine → Tree → Machine
  | 0, m, _ => m
  | fuel + 1, m, tree =>
    let watch (m : Machine) : Machine :=
      if m.endsAtFailure ∧ ¬ m.asked ∧ m.status ≠ 0 ∧ m.goes then { m with flow := .exit } else m
    if ! m.goes then m
    else
      match tree with
      | .nothing => m
      | .simple line assignments words redirects => watch (runSimple fuel { m with line } assignments words redirects)
      | .pipe first second =>
        let left := run fuel m.capture first
        let m := m.resume { left with buffers := left.buffers.dropLast, status := m.status }
        if ! m.goes then m
        else
          let right := run fuel { m with input := left.captured, loops := 0, asked := false } second
          watch (m.resume right)
      | .negation body =>
        let m := ask fuel m body
        if m.goes then { m with status := if m.status = 0 then 1 else 0 } else m
      | .both first second =>
        let m := ask fuel m first
        if m.goes ∧ m.status = 0 then run fuel m second else m
      | .either first second =>
        let m := ask fuel m first
        if m.goes ∧ m.status ≠ 0 then run fuel m second else m
      | .sequence first second => run fuel (run fuel m first) second
      | .background body =>
        { m.resume (run fuel { m with input := [], loops := 0, asked := false } body) with status := 0 }
      | .inner body => watch (m.resume (finish fuel (run fuel { m with atExit := [], loops := 0 } body)))
      | .redirected line body redirects =>
        match redirect fuel { m with line } redirects with
        | .error (why, after) => watch ({ after with sinks := m.sinks, input := m.input }.fail why 2)
        | .ok opened =>
          let after := run fuel opened body
          { after with sinks := m.sinks, input := m.input }
      | .branch condition yes no =>
        let m := ask fuel m condition
        if ! m.goes then m
        else if m.status = 0 then run fuel m yes
        else
          match no with
          | .nothing => { m with status := 0 }
          | no => run fuel m no
      | .loop until_ condition body =>
        { runLoop fuel { m with loops := m.loops + 1 } until_ condition body 0 with loops := m.loops }
      | .each line name words body =>
        match words with
        | none => { runEach fuel { m with loops := m.loops + 1 } name m.params body true with loops := m.loops }
        | some words =>
          let (fields, m) := expandAll fuel { m with line } words
          if m.goes then
            { runEach fuel { m with loops := m.loops + 1 } name fields body true with loops := m.loops }
          else m
      | .choice line word cases =>
        let (ms, m) := expand fuel { m with line } word
        if m.goes then runChoice fuel m (joined ms) cases else m
      | .define name body => { m with functions := (name, body) :: m.functions, status := 0 }

end

/-- How many steps a shell takes at most. -/
def patience : Nat := 100000

def start (name : Bytes) (args : List Bytes) (files : Files) : Machine :=
  runShell patience { name, files } args

end WatchTrial.Rehearsal.Shell
