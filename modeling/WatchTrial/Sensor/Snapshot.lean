import WatchTrial.Ascending
import WatchTrial.Sensor.Registration
/-!
# Snapshots

A snapshot is a finite set of registrations. It is kept as its strictly ascending list of elements,
so equal sets are equal values and the list is the order in which a snapshot is shown.
-/
namespace WatchTrial

/-- A set of registrations, as a strictly ascending list. -/
structure Snapshot where
  elements : List Registration
  ascending : elements.Pairwise Registration.Before
deriving DecidableEq

namespace Snapshot

/-- The snapshot without elements. -/
def empty : Snapshot := ⟨[], .nil⟩

instance : Inhabited Snapshot := ⟨empty⟩

def ofList (rs : List Registration) : Snapshot where
  elements := Ascending.ofList Registration.Before rs
  ascending := Ascending.pairwise_ofList (fun _ _ _ => .trans) (fun _ _ => .total) rs

def size (s : Snapshot) : Nat := s.elements.length

def contains (s : Snapshot) (r : Registration) : Bool := s.elements.contains r

/-- The elements of `s` that are not in `other`. -/
def difference (s other : Snapshot) : Snapshot where
  elements := s.elements.filter (! other.contains ·)
  ascending := s.ascending.filter _

/-- Whether two snapshots are equal, by their sizes and a one-sided difference. -/
def same (s other : Snapshot) : Bool :=
  s.size == other.size && (s.difference other).size == 0

end Snapshot
end WatchTrial
