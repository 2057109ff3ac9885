import WatchTrial.Fault
import WatchTrial.Storage.Files
import WatchTrial.Text.Blank
import WatchTrial.Text.Record
import WatchTrial.Text.Utf8
/-!
# Watch-face labels

The label table says under which label the companion app shows the watch face of a package. It is read
from records of package, internal name and label; the last row for a package counts.
-/
namespace WatchTrial

/-- Labels by package, later rows first. -/
structure Labels where
  rows : List (String × String)
deriving Repr, DecidableEq, Inhabited

namespace Labels

/-- The row of a record: records of less than three fields or without a package have none. -/
def row? : List String → Option (String × String)
  | pkg :: _ :: label :: _ => if Text.trim pkg = "" then none else some (Text.trim pkg, label)
  | _ => none

def read (text : String) : Labels :=
  ⟨((Text.Record.lenientRecords text).filterMap row?).reverse⟩

/-- Reads a label table whose reading may be refused; the fault counts the records read before. -/
def parse (text : String) : Except Fault Labels :=
  let reading := Text.Record.readAll true text.toList
  match reading.refusal with
  | some why =>
    .error (.context ("read labels line " ++ toString (reading.records.length + 1)) (.plain why.message))
  | none => .ok (read text)

/-- The label of a package, when it has one. -/
def find? (labels : Labels) (pkg : String) : Option String :=
  labels.rows.lookup pkg

def lookup (labels : Labels) (pkg : String) : Except Fault String :=
  match labels.find? pkg with
  | some label => .ok label
  | none => .error (.plain ("no watch face label for " ++ pkg))

/-- Packages and labels, ascending by package. -/
def toList (labels : Labels) : List (String × String) :=
  (Text.ascending (labels.rows.map (·.1))).filterMap fun pkg =>
    (labels.find? pkg).map fun label => (pkg, label)

def load (files : Files) (path : String) : Except Fault Labels :=
  match files.find path with
  | .error fault => .error (.context "open labels" (.plain ("open " ++ path ++ ": " ++ fault.message)))
  | .ok (_, .directory) =>
    .error (.context "read labels line 1" (.plain ("read " ++ path ++ ": " ++ FileFault.isDirectory.message)))
  | .ok (_, .file content) => parse (Text.ofBytes content.toList)

end Labels
end WatchTrial
