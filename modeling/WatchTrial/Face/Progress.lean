import WatchTrial.Fault
import WatchTrial.Storage.Glob
import WatchTrial.Text.Blank
/-!
# Progress of a campaign

A package is completed when a file named after it with a fixed ending stands in the screenshot
directory. The packages still to do are those of the list that are not completed.
-/
namespace WatchTrial.Progress

/-- The packages with a file of the given ending in a directory, in ascending order. -/
def completed (files : Files) (dir ending : String) : Except Fault (List String) :=
  match Glob.expand files (Path.join dir ("*" ++ ending)) with
  | none => .error (.context ("scan " ++ dir) (.plain "syntax error in pattern"))
  | some found =>
    .ok <| Text.sort <| (found.map fun path =>
      String.ofList (Text.dropEnding ending.toList (Path.baseChars path.toList))).filter (· != "")

/-- The packages that are not among the completed ones, in their order. -/
def pending (pkgs completed : List String) : List String :=
  pkgs.filter (! completed.contains ·)

end WatchTrial.Progress
