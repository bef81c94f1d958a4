/-!
# The XXH3 digest

The 64-bit XXH3 digest of a sequence of bytes under a seed. Inputs are treated by length: up to 16
bytes, up to 128, up to 240, and beyond; the long ones are read in stripes of 64 bytes into eight
lanes. All arithmetic is that of 64-bit words.

## Main definitions

* `Digest.xxh3` — the digest.
-/

namespace HashJoin.Digest

/-! ### Constants -/

/-- The first prime of 32 bits. -/
def prime32A : UInt64 := 0x9E3779B1

/-- The second prime of 32 bits. -/
def prime32B : UInt64 := 0x85EBCA77

/-- The third prime of 32 bits. -/
def prime32C : UInt64 := 0xC2B2AE3D

/-- The first prime of 64 bits. -/
def prime64A : UInt64 := 0x9E3779B185EBCA87

/-- The second prime of 64 bits. -/
def prime64B : UInt64 := 0xC2B2AE3D27D4EB4F

/-- The third prime of 64 bits. -/
def prime64C : UInt64 := 0x165667B19E3779F9

/-- The fourth prime of 64 bits. -/
def prime64D : UInt64 := 0x85EBCA77C2B2AE63

/-- The fifth prime of 64 bits. -/
def prime64E : UInt64 := 0x27D4EB2F165667C5

/-- The multiplier of the plain avalanche. -/
def mixerA : UInt64 := 0x165667919E3779F9

/-- The multiplier of the avalanche for four to eight bytes. -/
def mixerB : UInt64 := 0x9FB21C651E98DF25

/-- The bytes that inputs are mixed with. -/
def secret : ByteArray := ⟨#[
  0xb8, 0xfe, 0x6c, 0x39, 0x23, 0xa4, 0x4b, 0xbe, 0x7c, 0x01, 0x81, 0x2c, 0xf7, 0x21, 0xad, 0x1c,
  0xde, 0xd4, 0x6d, 0xe9, 0x83, 0x90, 0x97, 0xdb, 0x72, 0x40, 0xa4, 0xa4, 0xb7, 0xb3, 0x67, 0x1f,
  0xcb, 0x79, 0xe6, 0x4e, 0xcc, 0xc0, 0xe5, 0x78, 0x82, 0x5a, 0xd0, 0x7d, 0xcc, 0xff, 0x72, 0x21,
  0xb8, 0x08, 0x46, 0x74, 0xf7, 0x43, 0x24, 0x8e, 0xe0, 0x35, 0x90, 0xe6, 0x81, 0x3a, 0x26, 0x4c,
  0x3c, 0x28, 0x52, 0xbb, 0x91, 0xc3, 0x00, 0xcb, 0x88, 0xd0, 0x65, 0x8b, 0x1b, 0x53, 0x2e, 0xa3,
  0x71, 0x64, 0x48, 0x97, 0xa2, 0x0d, 0xf9, 0x4e, 0x38, 0x19, 0xef, 0x46, 0xa9, 0xde, 0xac, 0xd8,
  0xa8, 0xfa, 0x76, 0x3f, 0xe3, 0x9c, 0x34, 0x3f, 0xf9, 0xdc, 0xbb, 0xc7, 0xc7, 0x0b, 0x4f, 0x1d,
  0x8a, 0x51, 0xe0, 0x4b, 0xcd, 0xb4, 0x59, 0x31, 0xc8, 0x9f, 0x7e, 0xc9, 0xd9, 0x78, 0x73, 0x64,
  0xea, 0xc5, 0xac, 0x83, 0x34, 0xd3, 0xeb, 0xc3, 0xc5, 0x81, 0xa0, 0xff, 0xfa, 0x13, 0x63, 0xeb,
  0x17, 0x0d, 0xdd, 0x51, 0xb7, 0xf0, 0xda, 0x49, 0xd3, 0x16, 0x55, 0x26, 0x29, 0xd4, 0x68, 0x9e,
  0x2b, 0x16, 0xbe, 0x58, 0x7d, 0x47, 0xa1, 0xfc, 0x8f, 0xf8, 0xb8, 0xd1, 0x7a, 0xd0, 0x31, 0xce,
  0x45, 0xcb, 0x3a, 0x8f, 0x95, 0x16, 0x04, 0x28, 0xaf, 0xd7, 0xfb, 0xca, 0xbb, 0x4b, 0x40, 0x7e]⟩

/-! ### Words -/

/-- The byte at a place, as a word; zero past the end. -/
def byteAt (bytes : ByteArray) (i : Nat) : UInt64 :=
  if h : i < bytes.size then bytes[i].toUInt64 else 0

/-- The number that `n` bytes from a place on stand for, the lowest byte first. -/
def littleEndian (bytes : ByteArray) (i : Nat) : Nat → UInt64
  | 0 => 0
  | n + 1 => byteAt bytes i ||| littleEndian bytes (i + 1) n <<< 8

/-- The number of four bytes. -/
def word32 (bytes : ByteArray) (i : Nat) : UInt64 := littleEndian bytes i 4

/-- The number of eight bytes. -/
def word64 (bytes : ByteArray) (i : Nat) : UInt64 := littleEndian bytes i 8

/-- The `n` low bytes of a number, in the other order. -/
def swapBytes (x : UInt64) : Nat → UInt64
  | 0 => 0
  | n + 1 => (x &&& 0xFF) <<< UInt64.ofNat (8 * n) ||| swapBytes (x >>> 8) n

/-- The number turned left by some bits. -/
def rotateLeft (x bits : UInt64) : UInt64 := x <<< bits ||| x >>> (64 - bits)

/-- The low and the high word of a product, put together. -/
def foldProduct (x y : UInt64) : UInt64 :=
  let product := x.toNat * y.toNat
  UInt64.ofNat product ^^^ UInt64.ofNat (product >>> 64)

/-! ### Avalanches -/

/-- The avalanche of most lengths. -/
def avalanche (x : UInt64) : UInt64 :=
  let x := x ^^^ x >>> 37
  let x := x * mixerA
  x ^^^ x >>> 32

/-- The avalanche of the shortest inputs. -/
def avalancheShort (x : UInt64) : UInt64 :=
  let x := x ^^^ x >>> 33
  let x := x * prime64B
  let x := x ^^^ x >>> 29
  let x := x * prime64C
  x ^^^ x >>> 32

/-- The avalanche of four to eight bytes. -/
def avalancheMiddle (x length : UInt64) : UInt64 :=
  let x := x ^^^ rotateLeft x 49 ^^^ rotateLeft x 24
  let x := x * mixerB
  let x := x ^^^ (x >>> 35 + length)
  let x := x * mixerB
  x ^^^ x >>> 28

/-! ### Short inputs -/

/-- The digest of nothing. -/
def digestEmpty (seed : UInt64) : UInt64 :=
  avalancheShort (seed ^^^ word64 secret 56 ^^^ word64 secret 64)

/-- The digest of one to three bytes. -/
def digest3 (bytes : ByteArray) (seed : UInt64) : UInt64 :=
  let n := bytes.size
  let combined := byteAt bytes 0 <<< 16 ||| byteAt bytes (n / 2) <<< 24 ||| byteAt bytes (n - 1) |||
    UInt64.ofNat n <<< 8
  let flip := (word32 secret 0 ^^^ word32 secret 4) + seed
  avalancheShort (combined ^^^ flip)

/-- The digest of four to eight bytes. -/
def digest8 (bytes : ByteArray) (seed : UInt64) : UInt64 :=
  let n := bytes.size
  let seed := seed ^^^ swapBytes seed 4 <<< 32
  let flip := (word64 secret 8 ^^^ word64 secret 16) - seed
  let input := word32 bytes (n - 4) + word32 bytes 0 <<< 32
  avalancheMiddle (input ^^^ flip) (UInt64.ofNat n)

/-- The digest of nine to sixteen bytes. -/
def digest16 (bytes : ByteArray) (seed : UInt64) : UInt64 :=
  let n := bytes.size
  let flipLow := (word64 secret 24 ^^^ word64 secret 32) + seed
  let flipHigh := (word64 secret 40 ^^^ word64 secret 48) - seed
  let low := word64 bytes 0 ^^^ flipLow
  let high := word64 bytes (n - 8) ^^^ flipHigh
  avalanche (UInt64.ofNat n + swapBytes low 8 + high + foldProduct low high)

/-! ### Inputs up to 240 bytes -/

/-- Sixteen bytes, mixed with sixteen of the secret. -/
def mix16 (bytes : ByteArray) (i j : Nat) (seed : UInt64) : UInt64 :=
  foldProduct (word64 bytes i ^^^ (word64 secret j + seed))
    (word64 bytes (i + 8) ^^^ (word64 secret (j + 8) - seed))

/-- The digest of seventeen to 128 bytes: pairs of pieces from both ends, the innermost first. -/
def digest128 (bytes : ByteArray) (seed : UInt64) : UInt64 :=
  let n := bytes.size
  let pairs := (List.range ((n - 1) / 32 + 1)).reverse
  avalanche <| pairs.foldl (fun acc i =>
    acc + mix16 bytes (16 * i) (32 * i) seed + mix16 bytes (n - 16 * (i + 1)) (32 * i + 16) seed)
    (UInt64.ofNat n * prime64A)

/-- The digest of 129 to 240 bytes: eight pieces, the further ones against a shifted secret, and the
last sixteen bytes. -/
def digest240 (bytes : ByteArray) (seed : UInt64) : UInt64 :=
  let n := bytes.size
  let first := (List.range 8).foldl (fun acc i => acc + mix16 bytes (16 * i) (16 * i) seed)
    (UInt64.ofNat n * prime64A)
  let further := (List.range (n / 16 - 8)).foldl (fun acc i =>
    acc + mix16 bytes (16 * (i + 8)) (16 * i + 3) seed) (avalanche first)
  avalanche (further + mix16 bytes (n - 16) 119 seed)

/-! ### Long inputs -/

/-- The lanes before the first stripe. -/
def startLanes : List UInt64 :=
  [prime32C, prime64A, prime64B, prime64C, prime64D, prime32B, prime64E, prime32A]

/-- The eight bytes of a number, the lowest first. -/
def bytesOf (x : UInt64) : List UInt8 :=
  (List.range 8).map fun i => (x >>> UInt64.ofNat (8 * i)).toUInt8

/-- The secret of a seed: words are raised and lowered by it in turn. -/
def seededSecret (seed : UInt64) : ByteArray :=
  ⟨((List.range 12).flatMap fun i =>
    bytesOf (word64 secret (16 * i) + seed) ++ bytesOf (word64 secret (16 * i + 8) - seed)).toArray⟩

/-- The lanes after the stripe of 64 bytes at `i`, under the key at `j`. A lane takes its own word as
a product of its keyed halves, and that of its neighbour as it is. -/
def addStripe (bytes key : ByteArray) (i j : Nat) (lanes : List UInt64) : List UInt64 :=
  lanes.zipIdx.map fun (lane, n) =>
    let keyed := word64 bytes (i + 8 * n) ^^^ word64 key (j + 8 * n)
    let neighbour := if n % 2 = 0 then n + 1 else n - 1
    lane + word64 bytes (i + 8 * neighbour) + (keyed &&& (0xFFFFFFFF : UInt64)) * (keyed >>> 32)

/-- The lanes after a number of stripes in a row, each under a key eight bytes further on. -/
def addStripes (bytes key : ByteArray) (start count : Nat) (lanes : List UInt64) : List UInt64 :=
  (List.range count).foldl (fun lanes n => addStripe bytes key (start + 64 * n) (8 * n) lanes) lanes

/-- The lanes after a full block. -/
def scramble (key : ByteArray) (lanes : List UInt64) : List UInt64 :=
  lanes.zipIdx.map fun (lane, n) =>
    ((lane ^^^ lane >>> 47) ^^^ word64 key (key.size - 64 + 8 * n)) * prime32A

/-- The digest of the lanes: they are multiplied in pairs. -/
def merge (key : ByteArray) (start : UInt64) (lanes : List UInt64) : UInt64 :=
  let products := (List.range 4).map fun n =>
    foldProduct (lanes.getD (2 * n) 0 ^^^ word64 key (11 + 16 * n))
      (lanes.getD (2 * n + 1) 0 ^^^ word64 key (19 + 16 * n))
  avalanche (products.foldl (· + ·) start)

/-- The digest of more than 240 bytes. Sixteen stripes make a block; the last stripe always ends
with the input. -/
def digestLong (bytes : ByteArray) (seed : UInt64) : UInt64 :=
  let n := bytes.size
  let key := seededSecret seed
  let blocks := (n - 1) / 1024
  let lanes := (List.range blocks).foldl (fun lanes b =>
    scramble key (addStripes bytes key (1024 * b) 16 lanes)) startLanes
  let lanes := addStripes bytes key (1024 * blocks) ((n - 1) % 1024 / 64) lanes
  let lanes := addStripe bytes key (n - 64) (key.size - 71) lanes
  merge key (UInt64.ofNat n * prime64A) lanes

/-- The 64-bit XXH3 digest under a seed. -/
def xxh3 (seed : UInt64) (bytes : ByteArray) : UInt64 :=
  let n := bytes.size
  if n = 0 then digestEmpty seed
  else if n ≤ 3 then digest3 bytes seed
  else if n ≤ 8 then digest8 bytes seed
  else if n ≤ 16 then digest16 bytes seed
  else if n ≤ 128 then digest128 bytes seed
  else if n ≤ 240 then digest240 bytes seed
  else digestLong bytes seed

end HashJoin.Digest
