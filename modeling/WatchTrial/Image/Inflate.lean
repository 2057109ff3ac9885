import WatchTrial.Image.Chunk
/-!
# Compressed pixels

Compressed data is a row of blocks: stored bytes, or symbols of a prefix code, fixed or described in front
of the block. A symbol is a byte, the end of the block, or a copy of earlier output. What was decompressed
before a fault is kept.
-/
namespace WatchTrial.Png

structure Inflating where
  pixels : Pixels
  /-- Bits that were read and not used, the lowest first. -/
  bits : Nat := 0
  /-- How many of them there are. -/
  count : Nat := 0
  /-- How many bytes were read. -/
  offset : Nat := 0
  output : ByteArray := .empty
  /-- How much of the output was handed over by an empty block. -/
  handed : Nat := 0
deriving Inhabited

/-- Decompresses; a fault leaves what was decompressed before. -/
abbrev Inflate (α : Type) := ExceptT ImageFault (StateM Inflating) α

/-- Reads one byte. -/
def readByte : Inflate UInt8 := fun s =>
  match s.pixels.next with
  | .error fault => (.error fault, s)
  | .ok (b, pixels) => (.ok b, { s with pixels, offset := s.offset + 1 })

/-- Fails because the data has no meaning. -/
def corrupt {α : Type} : Inflate α := fun s => (.error (.corrupt s.offset), s)

/-- Reads bytes until `n` bits are there. -/
def need : (fuel : Nat) → (n : Nat) → Inflate Unit
  | 0, _ => pure ()
  | fuel + 1, n => do
    let s ← get
    if n ≤ s.count then return ()
    let b ← readByte
    modify fun s => { s with bits := s.bits + b.toNat * Nat.pow 2 s.count, count := s.count + 8 }
    need fuel n

/-- Uses up `n` bits that are there. -/
def drop (n : Nat) : Inflate Unit :=
  modify fun s => { s with bits := s.bits / Nat.pow 2 n, count := s.count - n }

/-- Reads a number of `n` bits. -/
def readBits (n : Nat) : Inflate Nat := do
  need 4 n
  let value := (← get).bits % Nat.pow 2 n
  drop n
  return value

/-- A prefix code: for each length, the first code of that length and the symbols that have it. -/
structure PrefixCode where
  /-- How many bits are read before the first look. -/
  least : Nat
  levels : List (Nat × List Nat)
deriving Repr, Inhabited

namespace PrefixCode

def symbolsOf (lengths : List Nat) (n : Nat) : List Nat :=
  (lengths.zipIdx.filter (·.1 = n)).map (·.2)

/-- The levels of a code from a length on, where `code` is the first free code of that length; with the
number of codes that are used up at the end. -/
def levelsFrom (lengths : List Nat) : (count : Nat) → (n : Nat) → (code : Nat) → List (Nat × List Nat) × Nat
  | 0, _, code => ([], code)
  | count + 1, n, code =>
    let symbols := symbolsOf lengths n
    let used := code + symbols.length
    let (rest, total) := levelsFrom lengths count (n + 1) (if count = 0 then used else used * 2)
    ((code, symbols) :: rest, total)

/-- The code with these lengths, zero meaning that a symbol does not occur. It has to use all codes, or be
empty, or have a single code of one bit. -/
def ofLengths? (lengths : List Nat) : Option PrefixCode :=
  let greatest := lengths.foldl max 0
  let used := lengths.filter (· ≠ 0)
  let least := used.foldl min greatest
  if greatest = 0 then some ⟨0, []⟩
  else
    let (levels, total) := levelsFrom lengths greatest 1 0
    if total = Nat.pow 2 greatest ∨ (total = 1 ∧ greatest = 1) then some ⟨least, levels⟩ else none

/-- The length and symbol that the lowest bits stand for. -/
def look : (levels : List (Nat × List Nat)) → (n : Nat) → (code : Nat) → (bits : Nat) → Option (Nat × Nat)
  | [], _, _, _ => none
  | (first, symbols) :: rest, n, code, bits =>
    let code := code * 2 + bits % 2
    if first ≤ code then
      match symbols[code - first]? with
      | some symbol => some (n + 1, symbol)
      | none => look rest (n + 1) code (bits / 2)
    else look rest (n + 1) code (bits / 2)

end PrefixCode

/-- Reads a symbol: the missing bits count as zero until they are known to matter. -/
def readSymbol (c : PrefixCode) : (fuel : Nat) → (n : Nat) → Inflate Nat
  | 0, _ => corrupt
  | fuel + 1, n => do
    need 4 n
    let s ← get
    match PrefixCode.look c.levels 0 0 s.bits with
    | none => corrupt
    | some (length, symbol) =>
      if length ≤ s.count then
        drop length
        return symbol
      else readSymbol c fuel length

def symbol (c : PrefixCode) : Inflate Nat := readSymbol c 20 c.least

/-- The fixed code of bytes and lengths. -/
def fixedCode : PrefixCode :=
  (PrefixCode.ofLengths? (List.replicate 144 8 ++ List.replicate 112 9 ++ List.replicate 24 7 ++
    List.replicate 8 8)).getD default

/-- The order in which the lengths of the code for lengths are written. -/
def lengthOrder : List Nat := [16, 17, 18, 0, 8, 7, 9, 6, 10, 5, 11, 4, 12, 3, 13, 2, 14, 1, 15]

/-- Reads code lengths, which are themselves coded and may repeat. The latest is first. -/
def readLengths (c : PrefixCode) (wanted : Nat) : (fuel : Nat) → List Nat → Inflate (List Nat)
  | 0, seen => return seen
  | fuel + 1, seen => do
    if wanted ≤ seen.length then return seen
    let s ← symbol c
    if s < 16 then readLengths c wanted fuel (s :: seen)
    else
      let (least, width, value) ← match s, seen with
        | 16, [] => corrupt
        | 16, previous :: _ => pure (3, 2, previous)
        | 17, _ => pure (3, 3, 0)
        | _, _ => pure (11, 7, 0)
      let times := least + (← readBits width)
      if wanted < seen.length + times then corrupt
      else readLengths c wanted fuel (List.replicate times value ++ seen)

def readCodes : Inflate (PrefixCode × PrefixCode) := do
  need 4 14
  let literals := (← get).bits % 32 + 257
  if literals > 286 then corrupt
  drop 5
  let distances := (← get).bits % 32 + 1
  if distances > 30 then corrupt
  drop 5
  let given := (← readBits 4) + 4
  let widths ← (lengthOrder.take given).mapM fun place => do return (place, ← readBits 3)
  let lengths := (List.range 19).map fun place => (widths.lookup place).getD 0
  let some c := PrefixCode.ofLengths? lengths | corrupt
  let all := (← readLengths c (literals + distances) (literals + distances) []).reverse
  let some literal := PrefixCode.ofLengths? (all.take literals) | corrupt
  let some distance := PrefixCode.ofLengths? (all.drop literals) | corrupt
  let closing := (all[256]?).getD 0
  return ({ literal with least := max literal.least closing }, distance)

/-- The length of a copy: its least value and how many bits are added, by symbol. -/
def lengthOf? (s : Nat) : Option (Nat × Nat) :=
  if s < 265 then some (s - 254, 0)
  else if s < 269 then some (s * 2 - 519, 1)
  else if s < 273 then some (s * 4 - 1057, 2)
  else if s < 277 then some (s * 8 - 2149, 3)
  else if s < 281 then some (s * 16 - 4365, 4)
  else if s < 285 then some (s * 32 - 8861, 5)
  else if s < 286 then some (258, 0)
  else none

/-- Reverses five bits. -/
def reverse5 (n : Nat) : Nat :=
  n % 2 * 16 + n / 2 % 2 * 8 + n / 4 % 2 * 4 + n / 8 % 2 * 2 + n / 16 % 2

def readDistance (c : Option PrefixCode) : Inflate Nat := do
  let d ← match c with
    | some c => symbol c
    | none => reverse5 <$> readBits 5
  if d < 4 then return d + 1
  if 30 ≤ d then corrupt
  let width := (d - 2) / 2
  let low ← readBits width
  return Nat.pow 2 (width + 1) + 1 + d % 2 * Nat.pow 2 width + low

/-- Appends a copy of earlier output. -/
def copyBack (distance : Nat) : (length : Nat) → ByteArray → ByteArray
  | 0, output => output
  | length + 1, output => copyBack distance length (output.push ((output[output.size - distance]?).getD 0))

/-- How far back a copy can reach. -/
def windowSize : Nat := 32768

def inflateSymbols (literal : PrefixCode) (distance : Option PrefixCode) : (fuel : Nat) → Inflate Unit
  | 0 => corrupt
  | fuel + 1 => do
    let s ← symbol literal
    if s < 256 then
      modify fun st => { st with output := st.output.push (UInt8.ofNat s) }
      inflateSymbols literal distance fuel
    else if s = 256 then return ()
    else
      match lengthOf? s with
      | none => corrupt
      | some (least, width) =>
        let length := least + (← readBits width)
        let back ← readDistance distance
        if min (← get).output.size windowSize < back then corrupt
        modify fun st => { st with output := copyBack back length st.output }
        inflateSymbols literal distance fuel

/-- Copies stored bytes. -/
def copyStored : (n : Nat) → Inflate Unit
  | 0 => return ()
  | n + 1 => do
    let b ← readByte
    modify fun st => { st with output := st.output.push b }
    copyStored n

/-- Decompresses a stored block: its length is written twice, the second time inverted. An empty one that is
not the last hands over the output so far. -/
def inflateStored (last : Bool) : Inflate Unit := do
  modify fun st => { st with bits := 0, count := 0 }
  let a ← readByte
  let b ← readByte
  let c ← readByte
  let d ← readByte
  let length := a.toNat + 256 * b.toNat
  if c.toNat + 256 * d.toNat ≠ 65535 - length then corrupt
  if length = 0 ∧ ! last then modify fun st => { st with handed := st.output.size }
  copyStored length

/-- Decompresses blocks up to the last. -/
def inflateBlocks (size : Nat) : (fuel : Nat) → Inflate Unit
  | 0 => corrupt
  | fuel + 1 => do
    let header ← readBits 3
    match header / 2 with
    | 0 => inflateStored (header % 2 = 1)
    | 1 => inflateSymbols fixedCode none size
    | 2 =>
      let (literal, distance) ← readCodes
      inflateSymbols literal (some distance) size
    | _ => corrupt
    if header % 2 = 1 then return () else inflateBlocks size fuel

/-- How much of the output was handed over before the data ended: up to the latest full window or the latest
empty block. -/
def Inflating.handedOver (s : Inflating) : Nat :=
  max s.handed (s.output.size / windowSize * windowSize)

/-- How compressed data ended. -/
inductive Ending where
  | complete
  | broken (fault : ImageFault)
deriving Repr, DecidableEq, Inhabited

/-- Reads four bytes as a number, the highest first. -/
def readWord : Inflate UInt32 := do
  let a ← readByte
  let b ← readByte
  let c ← readByte
  let d ← readByte
  return UInt32.ofNat (((a.toNat * 256 + b.toNat) * 256 + c.toNat) * 256 + d.toNat)

/-- Decompresses everything and compares the checksum at the end. -/
def inflateAll (size : Nat) : Inflate Unit := do
  inflateBlocks size size
  let expected ← readWord
  if expected ≠ Checksum.running (← get).output then throw .badChecksum

def readHeader : Inflate Unit := do
  let a ← readByte
  let b ← readByte
  if a.toNat % 16 ≠ 8 ∨ 7 < a.toNat / 16 ∨ (a.toNat * 256 + b.toNat) % 31 ≠ 0 then throw .badHeader
  if b.toNat / 32 % 2 ≠ 0 then
    if (← readWord) ≠ 1 then throw .badDictionary

end WatchTrial.Png
