import Chip8.Picture

/-!
# Pictures as PNG files

A picture is written in the Portable Network Graphics format: a header, the rows of
the picture as one stream of stored blocks, and an end mark, each with a check
sum.

* `Png.crc32`, `Png.adler32` — the two check sums of the format
* `Png.stored` — bytes as a stream that is not compressed
* `Png.encode` — the bytes of the whole file
-/

namespace Chip8.Png

/-- A number as four bytes, the most significant first. -/
def fourBytes (n : UInt32) : List UInt8 :=
  [(n >>> 24).toUInt8, (n >>> 16).toUInt8, (n >>> 8).toUInt8, n.toUInt8]

/-- A number as two bytes, the least significant first. -/
def twoBytes (n : UInt16) : List UInt8 := [n.toUInt8, (n >>> 8).toUInt8]

/-- The remainder of a byte in the cyclic redundancy check, after `n` of its bits. -/
def crcBits : Nat → UInt32 → UInt32
  | 0, r => r
  | n + 1, r => crcBits n (if r &&& 1 = 1 then (r >>> 1) ^^^ 0xEDB88320 else r >>> 1)

/-- The cyclic redundancy check of 32 bits. -/
def crc32 (bytes : ByteArray) : UInt32 :=
  bytes.foldl (fun r b => crcBits 8 ((r ^^^ b.toUInt32) &&& 0xFF) ^^^ (r >>> 8)) 0xFFFFFFFF
    ^^^ 0xFFFFFFFF

/-- The sum of all bytes and the sum of those sums, both modulo 65521. -/
def adler32 (bytes : ByteArray) : UInt32 :=
  let (low, high) := bytes.foldl (fun (low, high) b =>
    let low := (low + b.toUInt32) % 65521
    (low, (high + low) % 65521)) ((1 : UInt32), (0 : UInt32))
  (high <<< 16) ||| low

/-- The most bytes in a stored block. -/
def blockSize : Nat := 65535

/-- One stored block. -/
def block (last : Bool) (bytes : ByteArray) : ByteArray :=
  let size := UInt16.ofNat bytes.size
  ⟨((if last then 1 else 0) :: twoBytes size ++ twoBytes (~~~size)).toArray⟩ ++ bytes

/-- The stored blocks of the bytes from `start` on, at most `count` of them. -/
def blocks (bytes : ByteArray) (start : Nat) : Nat → ByteArray
  | 0 => block true (bytes.extract start bytes.size)
  | count + 1 =>
    if bytes.size ≤ start + blockSize then block true (bytes.extract start bytes.size)
    else block false (bytes.extract start (start + blockSize)) ++
      blocks bytes (start + blockSize) count

/-- Bytes as a stream that is not compressed, with its check sum. -/
def stored (bytes : ByteArray) : ByteArray :=
  ⟨#[0x78, 0x01]⟩ ++ blocks bytes 0 (bytes.size / blockSize) ++
    ⟨(fourBytes (adler32 bytes)).toArray⟩

/-- A chunk of the file: its length, its name, its bytes and their check sum. -/
def chunk (name : String) (bytes : ByteArray) : ByteArray :=
  let named := name.toUTF8 ++ bytes
  ⟨(fourBytes (UInt32.ofNat bytes.size)).toArray⟩ ++ named ++
    ⟨(fourBytes (crc32 named)).toArray⟩

/-- The bytes of one row: no filter, and three bytes for each pixel. -/
def rowBytes (row : Runs Colour) : ByteArray :=
  row.foldl (fun bytes (count, c) =>
    count.fold (fun _ _ bytes => ((bytes.push c.red).push c.green).push c.blue) bytes) ⟨#[0]⟩

/-- The bytes of all rows. -/
def allBytes (p : Picture) : ByteArray :=
  p.rows.foldl (fun bytes (count, row) =>
    let one := rowBytes row
    count.fold (fun _ _ bytes => bytes ++ one) bytes) .empty

/-- The bytes of the file of a picture: eight bits for each component, and full colours. -/
def encode (p : Picture) : ByteArray :=
  let size := fourBytes (UInt32.ofNat p.width) ++ fourBytes (UInt32.ofNat p.height)
  ⟨#[0x89, 0x50, 0x4E, 0x47, 0x0D, 0x0A, 0x1A, 0x0A]⟩ ++
    chunk "IHDR" ⟨(size ++ [8, 2, 0, 0, 0]).toArray⟩ ++
    chunk "IDAT" (stored (allBytes p)) ++
    chunk "IEND" .empty

end Chip8.Png
