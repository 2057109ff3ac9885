import WatchTrial.Text.Blank
/-!
# Stencils

A stencil is a text with names in braces that are filled in. A name without a value is left out, and a
brace that is never closed stands for itself together with what follows it.
-/
namespace WatchTrial.Text.Stencil

/-- Fills in a stencil; `value` gives the text for a name. -/
def fillChars (value : List Char → List Char) (cs : List Char) : List Char :=
  match _h : cut '{' cs with
  | (before, none) => before
  | (before, some rest) =>
    match _h' : cut '}' rest with
    | (_, none) => before ++ '{' :: rest
    | (name, some after) => before ++ value name ++ fillChars value after
termination_by cs.length
decreasing_by exact Nat.lt_trans (length_lt_of_cut _h') (length_lt_of_cut _h)

def fill (pattern : String) (values : List (String × String)) : String :=
  String.ofList (fillChars (fun name => ((values.lookup (String.ofList name)).getD "").toList) pattern.toList)

end WatchTrial.Text.Stencil
