/-!
# Checksums of bytes

The cyclic checksum of chunks and the running sums of compressed data.
-/
namespace WatchTrial.Checksum

def cyclicBit (c : UInt32) : UInt32 :=
  if c &&& 1 = 1 then (c >>> 1) ^^^ 0xedb88320 else c >>> 1

/-- One byte of the cyclic checksum. -/
def cyclicByte (c : UInt32) (b : UInt8) : UInt32 :=
  (List.range 8).foldl (fun c _ => cyclicBit c) (c ^^^ b.toUInt32)

/-- The cyclic checksum of the bytes from one place up to another. -/
def cyclic (data : ByteArray) (start stop : Nat) : UInt32 :=
  data.foldl cyclicByte 0xffffffff start stop ^^^ 0xffffffff

/-- The two running sums of bytes, modulo 65521, in one word. -/
def running (data : ByteArray) : UInt32 :=
  let (a, b) := data.foldl (fun (a, b) byte =>
    let a := (a + byte.toNat) % 65521
    (a, (b + a) % 65521)) (1, 0)
  UInt32.ofNat (b * 65536 + a)

end WatchTrial.Checksum
