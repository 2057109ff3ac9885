/-!
# Instants

A point in time is a number of seconds since the start of 1970 in universal time and a number of
nanoseconds. Its text is a date and a time of day with as many decimals of a second as it needs.
-/
namespace WatchTrial

/-- A point in time; the nanoseconds may be any number. -/
structure Instant where
  seconds : Int
  nanoseconds : Int
deriving Repr, DecidableEq, Inhabited

namespace Instant

/-- The first instant of the year one. -/
def yearOne : Instant := ⟨-62135596800, 0⟩

/-- Year, month and day of a day counted from the start of 1970. The count is moved to the first of
March of year zero, so that leap days end a cycle of four hundred years. -/
def civil (day : Int) : Int × Int × Int :=
  let shifted := day + 719468
  let era := shifted.fdiv 146097
  let dayOfEra := shifted - era * 146097
  let yearOfEra := (dayOfEra - dayOfEra / 1460 + dayOfEra / 36524 - dayOfEra / 146096) / 365
  let dayOfYear := dayOfEra - (365 * yearOfEra + yearOfEra / 4 - yearOfEra / 100)
  let shiftedMonth := (5 * dayOfYear + 2) / 153
  let dayOfMonth := dayOfYear - (153 * shiftedMonth + 2) / 5 + 1
  let month := if shiftedMonth < 10 then shiftedMonth + 3 else shiftedMonth - 9
  let year := yearOfEra + era * 400 + if month ≤ 2 then 1 else 0
  (year, month, dayOfMonth)

def padded (width : Nat) (n : Int) : String :=
  let digits := (toString n.toNat).toList
  String.ofList (List.replicate (width - digits.length) '0' ++ digits)

/-- The decimals of a second, without zeros at the end. -/
def decimals (nanoseconds : Int) : String :=
  if nanoseconds = 0 then ""
  else "." ++ String.ofList ((padded 9 nanoseconds).toList.reverse.dropWhile (· == '0')).reverse

/-- The text of an instant; years of more than four digits and before year zero have none. -/
def text? (instant : Instant) : Option String :=
  let seconds := instant.seconds + instant.nanoseconds.fdiv 1000000000
  let nanoseconds := instant.nanoseconds.fmod 1000000000
  let day := seconds.fdiv 86400
  let time := seconds.fmod 86400
  let (year, month, dayOfMonth) := civil day
  if year < 0 ∨ 9999 < year then none
  else
    some (padded 4 year ++ "-" ++ padded 2 month ++ "-" ++ padded 2 dayOfMonth ++ "T" ++
      padded 2 (time / 3600) ++ ":" ++ padded 2 (time / 60 % 60) ++ ":" ++ padded 2 (time % 60) ++
      decimals nanoseconds ++ "Z")

end Instant
end WatchTrial
