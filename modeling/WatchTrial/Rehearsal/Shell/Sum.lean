import WatchTrial.Rehearsal.Tool.Numeral
/-!
# Sums of the shell

A sum is made of numbers of 64 bits, names of variables, signs and parentheses. What stands for yes is one,
and what stands for no is zero.
-/
namespace WatchTrial.Rehearsal.Shell

inductive SumToken where
  | number (n : Int)
  | name (bytes : Bytes)
  | sign (text : String)
deriving Repr, DecidableEq, Inhabited

/-- The signs of sums, longer ones first. -/
def sumSigns : List String :=
  ["<<=", ">>=", "<<", ">>", "<=", ">=", "==", "!=", "&&", "||", "+=", "-=", "*=", "/=", "%=", "&=", "|=", "^=", "+",
    "-", "*", "/", "%", "<", ">", "&", "|", "^", "!", "~", "?", ":", "=", "(", ")"]

/-- A number brought into 64 bits. -/
def wrapped (n : Int) : Int := n.bmod (Nat.pow 2 64)

/-- The tokens of a sum, up to a byte that belongs to none. -/
def sumTokens : (fuel : Nat) → Bytes → List SumToken
  | 0, _ => []
  | _ + 1, [] => []
  | fuel + 1, c :: rest =>
    if isBlankByte c then sumTokens fuel rest
    else if c.isDigit then
      let n := Numeral.read (c :: rest)
      .number n.signed.1 :: sumTokens fuel n.rest
    else if c.isAlpha ∨ c = '_' then
      let name := (c :: rest).takeWhile fun c => c.isAlphanum || c == '_'
      .name name :: sumTokens fuel ((c :: rest).drop name.length)
    else
      match sumSigns.find? fun w => w.toList.isPrefixOf (c :: rest) with
      | some w => .sign w :: sumTokens fuel ((c :: rest).drop w.length)
      | none => [.sign (String.singleton c)]

inductive SumFault where
  | malformed (why : String)
  /-- The value of a variable is no number. -/
  | notNumber (bytes : Bytes)

def SumFault.message (text : Bytes) : SumFault → Bytes
  | malformed why => bytesOf ("arithmetic expression: " ++ why ++ ": \"") ++ text ++ ['"']
  | notNumber bytes => bytesOf "Illegal number: " ++ bytes

/-- The number that a variable holds. Blanks alone count as zero. -/
def numberOf (bytes : Bytes) : Except SumFault Int :=
  let n := Numeral.read bytes
  if n.rest.all isBlankByte ∧ n.signed.2 then .ok n.signed.1 else .error (.notNumber bytes)

/-- One for yes, zero for no. -/
def truth (b : Bool) : Int := if b then 1 else 0

def combine (sign : String) (a b : Int) : Except SumFault Int :=
  match sign with
  | "+" => .ok (wrapped (a + b))
  | "-" => .ok (wrapped (a - b))
  | "*" => .ok (wrapped (a * b))
  | "/" => if b = 0 then .error (.malformed "division by zero") else .ok (wrapped (a.tdiv b))
  | "%" => if b = 0 then .error (.malformed "division by zero") else .ok (a.tmod b)
  | "<<" => .ok (wrapped (a * Nat.pow 2 (b % 64).toNat))
  | ">>" => .ok (a >>> (b % 64).toNat)
  | "<" => .ok (truth (a < b))
  | ">" => .ok (truth (b < a))
  | "<=" => .ok (truth (a ≤ b))
  | ">=" => .ok (truth (b ≤ a))
  | "==" => .ok (truth (a == b))
  | "!=" => .ok (truth (a != b))
  | "&" => .ok (Int64.ofInt a &&& Int64.ofInt b).toInt
  | "^" => .ok (Int64.ofInt a ^^^ Int64.ofInt b).toInt
  | "|" => .ok (Int64.ofInt a ||| Int64.ofInt b).toInt
  | "&&" => .ok (truth (a != 0 && b != 0))
  | _ => .ok (truth (a != 0 || b != 0))

/-- The signs between numbers, from those that bind least to those that bind most. -/
def ranks : List (List String) :=
  [["||"], ["&&"], ["|"], ["^"], ["&"], ["==", "!="], ["<=", ">=", "<", ">"], ["<<", ">>"], ["+", "-"], ["*", "/", "%"]]

/-- The variables that a sum has set, the latest first. -/
abbrev SumVars := List (Bytes × Int)

/-- A value with what follows it and the variables after it. -/
abbrev SumResult := Except SumFault (Int × List SumToken × SumVars)

section Values

variable (outer : Bytes → Bytes)

/-- The value of a variable: one that the sum has set, or one that was set before. -/
def sumVar (vars : SumVars) (name : Bytes) : Except SumFault Int :=
  match vars.lookup name with
  | some n => .ok n
  | none => numberOf (outer name)

mutual

def evalSum : (fuel : Nat) → SumVars → List SumToken → SumResult
  | 0, _, _ => .error (.malformed "expecting primary")
  | fuel + 1, vars, tokens =>
    match tokens with
    | .name name :: .sign sign :: rest =>
      if sign ∈ ["=", "+=", "-=", "*=", "/=", "%=", "<<=", ">>=", "&=", "|=", "^="] then do
        let (b, rest, vars) ← evalSum fuel vars rest
        let n ← if sign = "=" then .ok b
          else combine (String.ofList sign.toList.dropLast) (← sumVar outer vars name) b
        return (n, rest, (name, n) :: vars)
      else evalChoice fuel vars tokens
    | tokens => evalChoice fuel vars tokens

def evalChoice : (fuel : Nat) → SumVars → List SumToken → SumResult
  | 0, _, _ => .error (.malformed "expecting primary")
  | fuel + 1, vars, tokens => do
    let (a, rest, vars) ← evalRank fuel ranks vars tokens
    match rest with
    | .sign "?" :: rest => do
      let (yes, rest, vars) ← evalSum fuel vars rest
      match rest with
      | .sign ":" :: rest => do
        let (no, rest, vars) ← evalChoice fuel vars rest
        return (if a ≠ 0 then yes else no, rest, vars)
      | _ => .error (.malformed "expecting ':'")
    | rest => return (a, rest, vars)

/-- The value of what binds at least as much as the first rank. -/
def evalRank : (fuel : Nat) → List (List String) → SumVars → List SumToken → SumResult
  | 0, _, _, _ => .error (.malformed "expecting primary")
  | fuel + 1, [], vars, tokens => evalUnary fuel vars tokens
  | fuel + 1, signs :: higher, vars, tokens => do
    let (a, rest, vars) ← evalRank fuel higher vars tokens
    evalRest fuel signs higher a vars rest

/-- Goes on from a value with signs of the same rank. -/
def evalRest : (fuel : Nat) → List String → List (List String) → Int → SumVars → List SumToken → SumResult
  | 0, _, _, _, _, _ => .error (.malformed "expecting primary")
  | fuel + 1, signs, higher, a, vars, tokens =>
    match tokens with
    | .sign sign :: rest =>
      if signs.contains sign then do
        let (b, rest, vars) ← evalRank fuel higher vars rest
        evalRest fuel signs higher (← combine sign a b) vars rest
      else .ok (a, tokens, vars)
    | tokens => .ok (a, tokens, vars)

/-- The value of a number, a variable, or a sum in parentheses, with signs before it. -/
def evalUnary : (fuel : Nat) → SumVars → List SumToken → SumResult
  | 0, _, _ => .error (.malformed "expecting primary")
  | fuel + 1, vars, tokens =>
    match tokens with
    | .number n :: rest => .ok (n, rest, vars)
    | .name name :: rest => return (← sumVar outer vars name, rest, vars)
    | .sign "-" :: rest => do
      let (a, rest, vars) ← evalUnary fuel vars rest
      return (wrapped (-a), rest, vars)
    | .sign "+" :: rest => evalUnary fuel vars rest
    | .sign "!" :: rest => do
      let (a, rest, vars) ← evalUnary fuel vars rest
      return (truth (a == 0), rest, vars)
    | .sign "~" :: rest => do
      let (a, rest, vars) ← evalUnary fuel vars rest
      return (-a - 1, rest, vars)
    | .sign "(" :: rest => do
      let (a, rest, vars) ← evalSum fuel vars rest
      match rest with
      | .sign ")" :: rest => return (a, rest, vars)
      | _ => .error (.malformed "expecting ')'")
    | _ => .error (.malformed "expecting primary")

end

/-- The value of a sum, and the variables it has set, the latest first. -/
def sumValue (text : Bytes) : Except SumFault (Int × SumVars) :=
  match evalSum outer (16 * text.length + 16) [] (sumTokens (text.length + 1) text) with
  | .error why => .error why
  | .ok (n, [], vars) => .ok (n, vars)
  | .ok (_, _, _) => .error (.malformed "expecting EOF")

end Values
end WatchTrial.Rehearsal.Shell
