import WatchTrial.Rehearsal.Tool.Numeral
/-!
# Options of tools

Options are letters after a hyphen. Some letters take a value, which is the rest of the argument or the next
argument. Two hyphens end the options.
-/
namespace WatchTrial.Rehearsal

structure Parsed where
  /-- The letters with their values, the latest first. -/
  options : List (Char × Bytes) := []
  operands : List Bytes := []
deriving Inhabited

namespace Parsed

def has (p : Parsed) (c : Char) : Bool := p.options.any (·.1 == c)

/-- The latest value of a letter. -/
def value? (p : Parsed) (c : Char) : Option Bytes := (p.options.find? (·.1 == c)).map (·.2)

/-- Reads the letters of an argument. What is wrong is given as a complaint; a letter that needs the next
argument is given as such. -/
def letters (plain valued : List Char) : List (Char × Bytes) → Bytes →
    Except Bytes (List (Char × Bytes) × Option Char)
  | done, [] => .ok (done, none)
  | done, c :: rest =>
    if valued.contains c then if rest.isEmpty then .ok (done, some c) else .ok ((c, rest) :: done, none)
    else if plain.contains c then letters plain valued ((c, []) :: done) rest
    else .error (bytesOf "invalid option -- " ++ inQuotes [c])

/-- Reads arguments. Operands may stand before options, unless an argument ends them. -/
def read (plain valued : List Char) (ends : Bytes → Bool) : Parsed → List Bytes → Except Bytes Parsed
  | p, [] => .ok { p with operands := p.operands.reverse }
  | p, arg :: rest =>
    if ends arg then .ok { p with operands := p.operands.reverse ++ arg :: rest }
    else
      match arg with
      | ['-', '-'] => .ok { p with operands := p.operands.reverse ++ rest }
      | '-' :: '-' :: _ => .error (bytesOf "unrecognized option " ++ inQuotes arg)
      | '-' :: c :: more =>
        match letters plain valued p.options (c :: more) with
        | .error why => .error why
        | .ok (options, none) => read plain valued ends { p with options } rest
        | .ok (options, some c) =>
          match rest with
          | value :: rest => read plain valued ends { p with options := (c, value) :: options } rest
          | [] => .error (bytesOf "option requires an argument -- " ++ inQuotes [c])
      | arg => read plain valued ends { p with operands := arg :: p.operands } rest

/-- Goes on with the options and operands of a call, or complains about them. -/
def forCall (call : Call) (plain valued : String) (go : Parsed → Yield) : Yield :=
  match read plain.toList valued.toList (fun _ => false) {} call.args with
  | .error why => .misuse call why
  | .ok p => go p

end Parsed
end WatchTrial.Rehearsal
