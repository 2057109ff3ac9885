import WatchTrial.Image.Checksum
/-!
# Chunks of an image file

An image file is a row of chunks: a length, a type, the data and a checksum over type and data. The
compressed pixels are the data of consecutive `IDAT` chunks. They are taken from the file in blocks, so
when the compressed data ends, some of what follows it in its chunk may have been taken as well.
-/
namespace WatchTrial

inductive ImageFault where
  | unknownFormat
  | unexpectedEnd
  | invalid (what : String)
  | unsupported (what : String)
  | badHeader
  | badDictionary
  | badChecksum
  | corrupt (offset : Nat)
deriving Repr, DecidableEq, Inhabited

def ImageFault.message : ImageFault → String
  | unknownFormat => "image: unknown format"
  | unexpectedEnd => "unexpected EOF"
  | invalid what => "png: invalid format: " ++ what
  | unsupported what => "png: unsupported feature: " ++ what
  | badHeader => "zlib: invalid header"
  | badDictionary => "zlib: invalid dictionary"
  | badChecksum => "zlib: invalid checksum"
  | corrupt offset => "flate: corrupt input before offset " ++ toString offset

namespace Png

/-- How many bytes are taken from a file at once. -/
def blockSize : Nat := 4096

structure Reader where
  data : ByteArray
  at_ : Nat := 0
  /-- How many bytes from there on have been fetched already. -/
  fetched : Nat := 0
deriving Inhabited

namespace Reader

/-- Moves over up to `n` bytes, which is fewer at the end of a fetched block; none at the end. -/
def some? (r : Reader) (n : Nat) : Option (Nat × Reader) :=
  let remaining := r.data.size - r.at_
  if r.fetched = 0 then
    if remaining = 0 then none
    else if blockSize ≤ n then
      let taken := min n remaining
      some (taken, { r with at_ := r.at_ + taken })
    else
      let fetched := min blockSize remaining
      let taken := min n fetched
      some (taken, { r with at_ := r.at_ + taken, fetched := fetched - taken })
  else
    let taken := min n r.fetched
    some (taken, { r with at_ := r.at_ + taken, fetched := r.fetched - taken })

/-- Moves over exactly `n` bytes, block by block. -/
def skipFrom : (fuel : Nat) → (n : Nat) → Reader → Except ImageFault Reader
  | _, 0, r => .ok r
  | 0, _ + 1, _ => .error .unexpectedEnd
  | fuel + 1, n, r =>
    match r.some? n with
    | none => .error .unexpectedEnd
    | some (taken, r) => skipFrom fuel (n - taken) r

/-- Moves over exactly `n` bytes. -/
def skip (r : Reader) (n : Nat) : Except ImageFault Reader :=
  if r.data.size - r.at_ < n then .error .unexpectedEnd else skipFrom n n r

/-- The byte at a place, zero past the end. -/
def byte (r : Reader) (i : Nat) : UInt8 := (r.data[i]?).getD 0

/-- The number of four bytes at a place, the highest first. -/
def word (r : Reader) (i : Nat) : Nat :=
  (((r.byte i).toNat * 256 + (r.byte (i + 1)).toNat) * 256 + (r.byte (i + 2)).toNat) * 256 +
    (r.byte (i + 3)).toNat

def letters (r : Reader) (i : Nat) : String :=
  String.ofList ((List.range 4).map fun k => Char.ofNat (r.byte (i + k)).toNat)

/-- Reads the checksum of the chunk whose type stands at `start`, and compares it. -/
def verify (r : Reader) (start : Nat) : Except ImageFault Reader := do
  let next ← r.skip 4
  if UInt32.ofNat (r.word r.at_) ≠ Checksum.cyclic r.data start r.at_ then throw (.invalid "invalid checksum")
  return next

end Reader

structure Pixels where
  reader : Reader
  /-- Where the type of the current chunk stands. -/
  chunk : Nat
  /-- How much of the current chunk has not been taken from the file. -/
  left : Nat
  /-- How many bytes have been taken and not been used. -/
  ready : Nat := 0
deriving Inhabited

namespace Pixels

/-- Moves to the next chunk of pixels that is not empty. -/
def nextChunk : (fuel : Nat) → Pixels → Except ImageFault Pixels
  | 0, p => .ok p
  | fuel + 1, p =>
    if p.left ≠ 0 then .ok p
    else
      match p.reader.verify p.chunk with
      | .error fault => .error fault
      | .ok r =>
        match r.skip 8 with
        | .error fault => .error fault
        | .ok next =>
          if r.letters (r.at_ + 4) ≠ "IDAT" then .error (.invalid "not enough pixel data")
          else nextChunk fuel { p with reader := next, chunk := r.at_ + 4, left := r.word r.at_ }

/-- The next byte. -/
def next (p : Pixels) : Except ImageFault (UInt8 × Pixels) :=
  if p.ready ≠ 0 then .ok (p.reader.byte (p.reader.at_ - p.ready), { p with ready := p.ready - 1 })
  else
    match nextChunk (p.reader.data.size + 1) p with
    | .error fault => .error fault
    | .ok p =>
      match p.reader.some? (min blockSize p.left) with
      | none => .error .unexpectedEnd
      | some (taken, r) =>
        .ok (r.byte (r.at_ - taken), { p with reader := r, left := p.left - taken, ready := taken - 1 })

end Pixels

end Png

end WatchTrial
