import WatchTrial.Rehearsal.Tool.Printf
/-!
# Conditions

A condition compares texts and numbers, or asks about a file. Its status is zero if it holds, one if it does
not, and two if it cannot be read.
-/
namespace WatchTrial.Rehearsal

inductive ConditionFault where
  | notNumber (arg : Bytes)
  | unexpected (arg : Bytes)
  | needsArgument (arg : Bytes)
  | notUnary (arg : Bytes)
  | notBinary (arg : Bytes)
  | unclosed
  /-- The bracket around the whole condition is not closed. -/
  | openBracket

def ConditionFault.message : Build → ConditionFault → Bytes
  | .shell, fault =>
    let named (arg : Bytes) (text : String) : Bytes :=
      if arg.isEmpty then bytesOf text else arg ++ bytesOf (": " ++ text)
    match fault with
    | notNumber arg => bytesOf "Illegal number: " ++ arg
    | unexpected arg | notUnary arg | notBinary arg => named arg "unexpected operator"
    | needsArgument arg => named arg "argument expected"
    | unclosed => bytesOf "closing paren expected"
    | openBracket => bytesOf "missing ]"
  | .tool, fault =>
    match fault with
    | notNumber arg => bytesOf "invalid integer " ++ inQuotes arg
    | unexpected arg => bytesOf "extra argument " ++ inQuotes arg
    | needsArgument arg => bytesOf "missing argument after " ++ inQuotes arg
    | notUnary arg => inQuotes arg ++ bytesOf ": unary operator expected"
    | notBinary arg => inQuotes arg ++ bytesOf ": binary operator expected"
    | unclosed => bytesOf "')' expected"
    | openBracket => bytesOf "missing ']'"

namespace Condition

def number (arg : Bytes) : Except ConditionFault Int :=
  let trimmed := (arg.dropWhile isBlankByte).reverse.dropWhile isBlankByte |>.reverse
  let (negative, digits) := Text.splitSign trimmed
  if digits.isEmpty ∨ ¬ digits.all Char.isDigit then .error (.notNumber arg)
  else
    let n := (takeDigits 10 digits).1
    .ok (if negative then -(n : Int) else n)

def unary? (files : Files) (op arg : Bytes) : Option Bool :=
  let entry := (files.find (textOf arg)).toOption
  match textOf op with
  | "-n" => some (! arg.isEmpty)
  | "-z" => some arg.isEmpty
  | "-e" | "-r" | "-w" => some entry.isSome
  | "-f" => some (match entry with
    | some (_, .file _) => true
    | _ => false)
  | "-d" | "-x" => some (match entry with
    | some (_, .directory) => true
    | _ => false)
  | "-s" => some (match entry with
    | some (_, .file content) => content.size != 0
    | some (_, .directory) => true
    | none => false)
  | "-h" | "-L" | "-p" | "-S" | "-b" | "-c" | "-t" | "-g" | "-u" | "-k" => some false
  | _ => none

def isBinary (op : Bytes) : Bool :=
  ["=", "!=", "==", "<", ">", "-eq", "-ne", "-lt", "-le", "-gt", "-ge"].contains (textOf op)

def binary (op a b : Bytes) : Except ConditionFault Bool := do
  match textOf op with
  | "=" | "==" => return a == b
  | "!=" => return a != b
  | "<" => return decide (a < b)
  | ">" => return decide (b < a)
  | "-eq" => return (← number a) == (← number b)
  | "-ne" => return (← number a) != (← number b)
  | "-lt" => return decide ((← number a) < (← number b))
  | "-le" => return decide ((← number a) ≤ (← number b))
  | "-gt" => return decide ((← number b) < (← number a))
  | _ => return decide ((← number b) ≤ (← number a))

/-- A condition of a rank: alternatives, then parts that hold together, then single questions. -/
def eval (files : Files) : (fuel : Nat) → (rank : Nat) → List Bytes → Except ConditionFault (Bool × List Bytes)
  | 0, _, args => .ok (false, args)
  | fuel + 1, 0, args => do
    let (a, rest) ← eval files fuel 1 args
    match rest with
    | ['-', 'o'] :: rest => do
      let (b, rest) ← eval files fuel 0 rest
      return (a || b, rest)
    | rest => return (a, rest)
  | fuel + 1, 1, args => do
    let (a, rest) ← eval files fuel 2 args
    match rest with
    | ['-', 'a'] :: rest => do
      let (b, rest) ← eval files fuel 1 rest
      return (a && b, rest)
    | rest => return (a, rest)
  | fuel + 1, _, args =>
    match args with
    | [] => .error (.needsArgument [])
    | [a] => .ok (! a.isEmpty, [])
    | a :: op :: rest =>
      match rest with
      | b :: rest =>
        if isBinary op then return (← binary op a b, rest)
        else if a = ['!'] then do
          let (x, rest) ← eval files fuel 2 (op :: b :: rest)
          return (! x, rest)
        else if a = ['('] then do
          let (x, rest) ← eval files fuel 0 (op :: b :: rest)
          match rest with
          | [')'] :: rest => return (x, rest)
          | _ => .error .unclosed
        else
          match unary? files a op with
          | some x => .ok (x, b :: rest)
          | none => .ok (! a.isEmpty, op :: b :: rest)
      | [] =>
        if a = ['!'] then .ok (op.isEmpty, [])
        else
          match unary? files a op with
          | some x => .ok (x, [])
          | none => if isBinary op then .error (.needsArgument op) else .ok (! a.isEmpty, [op])

def miscount? (files : Files) : List Bytes → Option ConditionFault
  | [a, b] =>
    if a = ['!'] ∨ (unary? files a b).isSome then none
    else if a.head? = some '-' ∧ a.length = 2 then some (.notUnary a)
    else some (.needsArgument b)
  | [a, op, b] =>
    if isBinary op ∨ a = ['!'] ∨ (a = ['('] ∧ b = [')']) ∨ op = ['-', 'a'] ∨ op = ['-', 'o'] then none
    else some (.notBinary op)
  | _ => none

def holds (files : Files) (args : List Bytes) : Except ConditionFault Bool :=
  if args.isEmpty then .ok false
  else
    match miscount? files args with
    | some fault => .error fault
    | none =>
      match eval files (3 * args.length + 3) 0 args with
      | .error fault => .error fault
      | .ok (x, []) => .ok x
      | .ok (_, arg :: _) => .error (.unexpected arg)

inductive Seen where
  | finish
  | operand
  | unary
  | binary
  | negation
  | conjunction
  | disjunction
  | opening
  | closing
deriving Repr, DecidableEq

def meaning? (arg : Bytes) : Option Seen :=
  match textOf arg with
  | "!" => some .negation
  | "-a" => some .conjunction
  | "-o" => some .disjunction
  | "(" => some .opening
  | ")" => some .closing
  | "==" => none
  | text =>
    if ["-nt", "-ot", "-ef"].contains text ∨ isBinary arg then some .binary
    else if ["-O", "-G"].contains text ∨ (unary? .empty arg []).isSome then some .unary
    else none

/-- What the shell sees at the start of arguments. A unary sign that could not be used as one is an operand. -/
def look : List Bytes → Seen
  | [] => .finish
  | arg :: rest =>
    match meaning? arg, rest with
    | some .unary, [] => .operand
    | some .unary, b :: _ :: _ => if meaning? b = some .binary then .operand else .unary
    | some .opening, [] => .operand
    | some seen, _ => seen
    | none, _ => .operand

/-- Whether the alternatives at the start of arguments hold, for the shell, and the arguments from the last
one that was used. -/
def evalIn (files : Files) : (fuel : Nat) → (rank : Nat) → Seen → List Bytes →
    Except ConditionFault (Bool × List Bytes)
  | 0, _, _, args => .ok (false, args)
  | fuel + 1, 0, seen, args => do
    let (a, args) ← evalIn files fuel 1 seen args
    if look (args.drop 1) = .disjunction then
      let (b, args) ← evalIn files fuel 0 (look (args.drop 2)) (args.drop 2)
      return (a || b, args)
    return (a, args)
  | fuel + 1, 1, seen, args => do
    let (a, args) ← evalIn files fuel 2 seen args
    if look (args.drop 1) = .conjunction then
      let (b, args) ← evalIn files fuel 1 (look (args.drop 2)) (args.drop 2)
      return (a && b, args)
    return (a, args)
  | fuel + 1, _, seen, args =>
    match seen, args with
    | .negation, args => do
      let next := look (args.drop 1)
      let (a, args) ← evalIn files fuel 2 next (if next = .finish then args else args.drop 1)
      return (! a, args)
    | .finish, args => .ok (false, args)
    | .opening, args => do
      let args := args.drop 1
      if look args = .closing then return (false, args)
      let (a, args) ← evalIn files fuel 0 (look args) args
      if look (args.drop 1) = .closing then return (a, args.drop 1)
      throw .unclosed
    | .unary, op :: arg :: rest => .ok ((unary? files op arg).getD false, arg :: rest)
    | .unary, args => .error (.needsArgument (args.headD []))
    | _, a :: rest =>
      if look rest = .binary then
        match rest with
        | op :: b :: rest => return (← binary op a b, b :: rest)
        | rest => .error (.needsArgument (rest.headD []))
      else .ok (! a.isEmpty, a :: rest)
    | _, [] => .ok (false, [])

/-- Whether a condition holds, for the shell. Three or four arguments are first seen as a whole. -/
def holdsIn (files : Files) (args : List Bytes) : Except ConditionFault Bool := do
  let whole (seen : Seen) (args : List Bytes) : Except ConditionFault Bool := do
    let (x, rest) ← evalIn files (3 * args.length + 6) 0 seen args
    match rest with
    | a :: _ :: _ => throw (.unexpected a)
    | _ => return x
  match args with
  | [] => return false
  | [a, op, b] =>
    if meaning? op = some .binary then whole .operand args
    else if a = ['('] ∧ b = [')'] then whole (look [op]) [op]
    else if a = ['!'] then return ! (← whole (look [op, b]) [op, b])
    else whole (look args) args
  | [a, b, c, d] =>
    if a = ['('] ∧ d = [')'] then whole (look [b, c]) [b, c]
    else if a = ['!'] then
      if meaning? c = some .binary then return ! (← whole .operand [b, c, d])
      else if b = ['('] ∧ d = [')'] then return ! (← whole (look [c]) [c])
      else if b = ['!'] then return ! (← whole (look [c, d]) [c, d])
      else return ! (← whole (look [b, c, d]) [b, c, d])
    else whole (look args) args
  | args => whole (look args) args

/-- The answer of a command for conditions, called by its name or by an opening bracket. -/
def answer (b : Build) (name : Bytes) (files : Files) (args : List Bytes) : Except Bytes Bool :=
  let told (args : List Bytes) : Except Bytes Bool :=
    (match b with
      | .tool => holds files args
      | .shell => holdsIn files args).mapError (ConditionFault.message b)
  if name.getLast? ≠ some '[' then told args
  else if args.getLast? = some [']'] then told args.dropLast
  else .error (ConditionFault.openBracket.message b)

end Condition

def Tool.test : Tool := fun call =>
  match Condition.answer .tool call.name call.files call.args with
  | .ok true => {}
  | .ok false => { status := 1 }
  | .error why => { err := call.name ++ bytesOf ": " ++ why ++ ['\n'], status := 2 }

end WatchTrial.Rehearsal
