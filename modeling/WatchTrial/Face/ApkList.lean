import WatchTrial.Fault
import WatchTrial.Storage.Files
import WatchTrial.Text.Blank
import WatchTrial.Text.Lines
import WatchTrial.Text.Utf8
/-!
# Package lists

A list file names one package file per line, perhaps followed by other words. The package is the base
name of the file without its ending. Blank lines and comments count for nothing.
-/
namespace WatchTrial.ApkList

/-- The file of a package in a directory. -/
def pathOf (dir pkg : String) : String :=
  Path.join dir (pkg ++ ".apk")

def package? (raw : List Char) : Option String :=
  match Text.trimChars raw with
  | [] | '#' :: _ => none
  | line =>
    let pkg := Text.dropEnding ".apk".toList (Path.baseChars (Text.cut ' ' line).1)
    if pkg = [] ∨ pkg = ['.'] ∨ pkg = ['/'] then none else some (String.ofList pkg)

/-- The packages of a list in ascending order, each once. -/
def read (text : String) : Except Fault (List String) :=
  let scan := Text.scanLines text.toList
  if scan.overflow then .error (.context "read apk list" (.plain "bufio.Scanner: token too long"))
  else .ok (Text.ascending (scan.lines.filterMap package?))

def load (files : Files) (path : String) : Except Fault (List String) :=
  match files.find path with
  | .error fault => .error (.context "open apk list" (.plain ("open " ++ path ++ ": " ++ fault.message)))
  | .ok (_, .directory) =>
    .error (.context "read apk list" (.plain ("read " ++ path ++ ": " ++ FileFault.isDirectory.message)))
  | .ok (_, .file content) => read (Text.ofBytes content.toList)

end WatchTrial.ApkList
