import WatchTrial.Device.DisplaySize
import WatchTrial.Image.Inflate
/-!
# Image files

Of an image file only the size is wanted, but a file whose pixels cannot be read has none. Chunks have to
come in order: the header, perhaps a palette and transparency, the pixels, the end. All other chunks are
skipped once their checksum has been compared.
-/
namespace WatchTrial.Png

inductive Color where
  | gray
  | trueColor
  | palette
  | grayAlpha
  | trueColorAlpha
deriving Repr, DecidableEq, Inhabited

/-- The colour and how many bits one sample has, if the pair is known. -/
def color? (depth kind : UInt8) : Option Color :=
  let small := depth = 1 ∨ depth = 2 ∨ depth = 4 ∨ depth = 8
  if kind = 0 ∧ (small ∨ depth = 16) then some .gray
  else if kind = 3 ∧ small then some .palette
  else if depth = 8 ∨ depth = 16 then
    if kind = 2 then some .trueColor
    else if kind = 4 then some .grayAlpha
    else if kind = 6 then some .trueColorAlpha
    else none
  else none

/-- How many samples a pixel has. -/
def Color.samples : Color → Nat
  | gray | palette => 1
  | grayAlpha => 2
  | trueColor => 3
  | trueColorAlpha => 4

structure Header where
  width : Nat
  height : Nat
  depth : Nat
  color : Color
  interlaced : Bool
deriving Repr, DecidableEq, Inhabited

/-- How far the chunks of a file have been read. -/
inductive Progress where
  | start
  | header
  | palette
  | transparency
  | pixels
  | finished
deriving Repr, DecidableEq, Inhabited

structure Reading where
  reader : Reader
  progress : Progress := .start
  header : Option Header := none
deriving Inhabited

def outOfOrder : ImageFault := .invalid "chunk out of order"

/-- Reads the header chunk, whose data starts at the reader. -/
def readHeaderChunk (r : Reader) (chunk length : Nat) : Except ImageFault (Header × Reader) := do
  if length ≠ 13 then throw (.invalid "bad IHDR length")
  let start := r.at_
  let next ← r.skip 13
  let depth := r.byte (start + 8)
  let kind := r.byte (start + 9)
  if r.byte (start + 10) ≠ 0 then throw (.unsupported "compression method")
  if r.byte (start + 11) ≠ 0 then throw (.unsupported "filter method")
  let interlace := r.byte (start + 12)
  if interlace ≠ 0 ∧ interlace ≠ 1 then throw (.invalid "invalid interlace method")
  let width := r.word start
  let height := r.word (start + 4)
  if width = 0 ∨ height = 0 ∨ Nat.pow 2 31 ≤ width ∨ Nat.pow 2 31 ≤ height then throw (.invalid "non-positive dimension")
  if Nat.pow 2 60 ≤ width * height then throw (.unsupported "dimension overflow")
  match color? depth kind with
  | none =>
    throw (.unsupported ("bit depth " ++ toString depth.toNat ++ ", color type " ++ toString kind.toNat))
  | some color =>
    let next ← next.verify chunk
    return (⟨width, height, depth.toNat, color, interlace = 1⟩, next)

def readPalette (h : Header) (r : Reader) (chunk length : Nat) : Except ImageFault Reader := do
  let entries := length / 3
  if length % 3 ≠ 0 ∨ entries = 0 ∨ 256 < entries ∨ Nat.pow 2 h.depth < entries then
    throw (.invalid "bad PLTE length")
  let next ← r.skip length
  if h.color = .gray ∨ h.color = .grayAlpha then throw (.invalid "PLTE, color type mismatch")
  next.verify chunk

def readTransparency (h : Header) (r : Reader) (chunk length : Nat) : Except ImageFault Reader := do
  let fits ← match h.color with
    | .gray => pure (length == 2)
    | .trueColor => pure (length == 6)
    | .palette => pure (decide (length ≤ 256))
    | _ => throw (.invalid "tRNS, color type mismatch")
  if ! fits then throw (.invalid "bad tRNS length")
  let next ← r.skip length
  next.verify chunk

/-- Where the columns and rows of an interlaced pass start, and how far they are apart. -/
def passes : List (Nat × Nat × Nat × Nat) :=
  [(8, 8, 0, 0), (8, 8, 4, 0), (4, 8, 0, 4), (4, 4, 2, 0), (2, 4, 0, 2), (2, 2, 1, 0), (1, 2, 0, 1)]

/-- The rows of an image in the order in which they are stored: for each part, how many rows and how many
bytes a row has, its filter included. -/
def rows (h : Header) : List (Nat × Nat) :=
  let part (width height : Nat) : Nat × Nat :=
    if width = 0 ∨ height = 0 then (0, 0) else (height, 1 + (h.depth * h.color.samples * width + 7) / 8)
  if h.interlaced then
    passes.map fun (dx, dy, x, y) =>
      part ((h.width + dx - 1 - x) / dx) ((h.height + dy - 1 - y) / dy)
  else [part h.width h.height]

/-- What rows come to when the data ends too early. -/
def tooShort : Ending → ImageFault
  | .complete | .broken .unexpectedEnd => .invalid "not enough pixel data"
  | .broken fault => fault

/-- Checks the rows of one part; gives the place after them. -/
def checkRows (output : ByteArray) (ending : Ending) (size : Nat) : (count : Nat) → (place : Nat) →
    Except ImageFault Nat
  | 0, place => .ok place
  | count + 1, place =>
    if output.size < place + size then .error (tooShort ending)
    else if 4 < (output[place]?).getD 0 then .error (.invalid "bad filter type")
    else checkRows output ending size count (place + size)

/-- Checks the rows of all parts; gives the place after them. -/
def checkParts (output : ByteArray) (ending : Ending) : List (Nat × Nat) → (place : Nat) → Except ImageFault Nat
  | [], place => .ok place
  | (count, size) :: rest, place =>
    match checkRows output ending size count place with
    | .error fault => .error fault
    | .ok place => checkParts output ending rest place

/-- Reads the pixels, whose first chunk starts at the reader. A byte too many is noticed before a fault of the
data behind it, except when it is the last that came together with the fault. -/
def readPixels (h : Header) (r : Reader) (chunk length : Nat) : Except ImageFault Reader := do
  let size := 8 * r.data.size + 16
  let (opened, s) := (readHeader.run { pixels := { reader := r, chunk, left := length } })
  opened
  let (outcome, s) := (inflateAll size).run { s with offset := 0 }
  let ending : Ending := match outcome with
    | .ok _ => .complete
    | .error fault => .broken fault
  let used ← checkParts s.output ending (rows h) 0
  let extra := s.output.size - used
  match ending with
  | .broken fault =>
    if extra = 0 ∨ (extra = 1 ∧ s.handedOver < s.output.size) then throw (.invalid fault.message)
  | .complete => pure ()
  if extra ≠ 0 ∨ s.pixels.left ≠ 0 then throw (.invalid "too much pixel data")
  s.pixels.reader.verify s.pixels.chunk

def readChunk (p : Reading) : Except ImageFault Reading := do
  let r ← p.reader.skip 8
  let length := p.reader.word p.reader.at_
  let chunk := p.reader.at_ + 4
  let skipped : Except ImageFault Reading := do
    if 0x7fffffff < length then throw (.invalid ("Bad chunk length: " ++ toString length))
    return { p with reader := ← (← r.skip length).verify chunk }
  match p.reader.letters chunk, p.header with
  | "IHDR", _ =>
    if p.progress ≠ .start then throw outOfOrder
    let (header, reader) ← readHeaderChunk r chunk length
    return ⟨reader, .header, some header⟩
  | "PLTE", some h =>
    if p.progress ≠ .header then throw outOfOrder
    return { p with reader := ← readPalette h r chunk length, progress := .palette }
  | "tRNS", some h =>
    let placed := match h.color with
      | .palette => p.progress == .palette
      | .trueColor => p.progress == .header || p.progress == .palette
      | _ => p.progress == .header
    if ! placed then throw outOfOrder
    return { p with reader := ← readTransparency h r chunk length, progress := .transparency }
  | "IDAT", some h =>
    match p.progress with
    | .pixels => skipped
    | .start | .finished => throw outOfOrder
    | progress =>
      if progress = .header ∧ h.color = .palette then throw outOfOrder
      return { p with reader := ← readPixels h r chunk length, progress := .pixels }
  | "IEND", _ =>
    if p.progress ≠ .pixels then throw outOfOrder
    if length ≠ 0 then throw (.invalid "bad IEND length")
    return { p with reader := ← r.verify chunk, progress := .finished }
  | "PLTE", none | "tRNS", none | "IDAT", none => throw outOfOrder
  | _, _ => skipped

/-- Reads chunks up to the last. -/
def readChunks : (fuel : Nat) → Reading → Except ImageFault Reading
  | 0, p => .ok p
  | fuel + 1, p =>
    if p.progress = .finished then .ok p
    else
      match readChunk p with
      | .error fault => .error fault
      | .ok p => readChunks fuel p

/-- The bytes that every file starts with. -/
def signature : List UInt8 := [0x89, 0x50, 0x4e, 0x47, 0x0d, 0x0a, 0x1a, 0x0a]

def size (data : ByteArray) : Except ImageFault DisplaySize := do
  if (data.extract 0 8).toList ≠ signature then throw .unknownFormat
  let reader ← Reader.skip { data } 8
  let p ← readChunks (data.size + 1) { reader }
  match p.header with
  | some h => return ⟨Int64.ofNat h.width, Int64.ofNat h.height⟩
  | none => throw .unexpectedEnd

end WatchTrial.Png
