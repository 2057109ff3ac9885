import WatchTrial.Sensor.Filter
import WatchTrial.Sensor.Snapshot
import WatchTrial.Text.Blank
import WatchTrial.Text.Lines
/-!
# Sensor dumps

A dump lists connection blocks. A block starts with a marker line, may have a preamble without
columns, then names its listener in the first column of a line and one sensor type per row. A blank
line or the next marker ends it. Lines that fit none of these shapes are counted, not reported.
-/
namespace WatchTrial.Dump

/-- How a block starts. -/
def marker : List Char := "Connection Number:".toList

/-- Where in a block the reading is. -/
inductive Phase where
  /-- Outside every block. -/
  | outside
  /-- After a marker, before the listener line. -/
  | preamble
  /-- After the listener line, before the first sensor row. -/
  | listed (listener : List Char)
  /-- After a sensor row. -/
  | rows (listener : List Char)
deriving Repr, DecidableEq

inductive LineKind where
  | marker
  | blank
  | content
deriving Repr, DecidableEq

def kindOf (line : List Char) : LineKind :=
  if marker.isPrefixOf (Text.trimChars line) then .marker
  else if (Text.trimChars line).isEmpty then .blank
  else .content

/-- The trimmed text before the first column bar, or the whole line when there is none. -/
def firstColumn (line : List Char) : List Char :=
  Text.trimChars (Text.cut '|' line).1

/-- A reading in progress: the phase, what was found, and how many faults were passed over. -/
structure Reading where
  phase : Phase
  found : List Registration
  degraded : Nat
deriving Repr, DecidableEq

namespace Reading

/-- The reading before the first line. -/
def start : Reading := ⟨.outside, [], 0⟩

/-- The faults of leaving a phase: a block that never got as far as a sensor row. -/
def leaving : Phase → Nat
  | .outside | .rows _ => 0
  | .preamble | .listed _ => 1

def row (filter : ListenerFilter) (r : Reading) (listener line : List Char) : Reading :=
  match firstColumn line with
  | [] => { r with degraded := r.degraded + 1 }
  | sensorType =>
    let name := String.ofList listener
    let found := if filter.ignores name then r.found else ⟨String.ofList sensorType, name⟩ :: r.found
    { r with phase := .rows listener, found }

/-- Reads a line inside or outside a block that is neither marker nor blank. -/
def content (filter : ListenerFilter) (r : Reading) (line : List Char) : Reading :=
  match r.phase with
  | .outside => r
  | .preamble =>
    if line.contains '|' then
      let listener := firstColumn line
      { r with phase := .listed listener, degraded := r.degraded + if listener.isEmpty then 1 else 0 }
    else r
  | .listed listener | .rows listener => r.row filter listener line

def step (filter : ListenerFilter) (r : Reading) (raw : List Char) : Reading :=
  let line := Text.dropEndWhile (· == '\r') raw
  match kindOf line with
  | .marker => { r with phase := .preamble, degraded := r.degraded + leaving r.phase }
  | .blank => { r with phase := .outside, degraded := r.degraded + leaving r.phase }
  | .content => r.content filter line

end Reading

/-- Reads a dump: the registrations of third parties, and how many faults were passed over. -/
def read (filter : ListenerFilter) (text : String) : Snapshot × Nat :=
  let last := (Text.lines text.toList).foldl (Reading.step filter) .start
  (Snapshot.ofList last.found, last.degraded + Reading.leaving last.phase)

end WatchTrial.Dump
