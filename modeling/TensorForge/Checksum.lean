/-!
# CRC-32

The reflected polynomial `edb88320`, a byte at a time from a table of 256 words.
-/

namespace TensorForge.Checksum

open List

def step (c : UInt32) : UInt32 := if c &&& 1 == 1 then (c >>> 1) ^^^ 0xedb88320 else c >>> 1

def table : Array UInt32 :=
  (Array.range 256).map fun n =>
    let s := step
    s (s (s (s (s (s (s (s n.toUInt32)))))))

def update (c : UInt32) (b : UInt8) : UInt32 := (table.getD ((c ^^^ b.toUInt32) &&& 255).toNat 0) ^^^ (c >>> 8)
variable (bytes : ByteArray)

def crc32 : UInt32 := bytes.foldl update 0xffffffff ^^^ 0xffffffff

/-!
## SHA-256

Blocks of 64 octets are folded into eight words by 64 rounds.
-/

def rotateRight (x n : UInt32) : UInt32 := (x >>> n) ||| (x <<< (32 - n))

/-- First bits of the fractional parts of cube roots of primes. -/
def roundConstants : Array UInt32 := #[ 0x428a2f98, 0x71374491, 0xb5c0fbcf, 0xe9b5dba5, 0x3956c25b, 0x59f111f1,
  0x923f82a4, 0xab1c5ed5, 0xd807aa98, 0x12835b01, 0x243185be, 0x550c7dc3, 0x72be5d74, 0x80deb1fe, 0x9bdc06a7,
  0xc19bf174, 0xe49b69c1, 0xefbe4786, 0x0fc19dc6, 0x240ca1cc, 0x2de92c6f, 0x4a7484aa, 0x5cb0a9dc, 0x76f988da,
  0x983e5152, 0xa831c66d, 0xb00327c8, 0xbf597fc7, 0xc6e00bf3, 0xd5a79147, 0x06ca6351, 0x14292967, 0x27b70a85,
  0x2e1b2138, 0x4d2c6dfc, 0x53380d13, 0x650a7354, 0x766a0abb, 0x81c2c92e, 0x92722c85, 0xa2bfe8a1, 0xa81a664b,
  0xc24b8b70, 0xc76c51a3, 0xd192e819, 0xd6990624, 0xf40e3585, 0x106aa070, 0x19a4c116, 0x1e376c08, 0x2748774c,
  0x34b0bcb5, 0x391c0cb3, 0x4ed8aa4a, 0x5b9cca4f, 0x682e6ff3, 0x748f82ee, 0x78a5636f, 0x84c87814, 0x8cc70208,
  0x90befffa, 0xa4506ceb, 0xbef9a3f7, 0xc67178f2]

/-- First bits of the fractional parts of square roots of primes. -/
def initWords : List UInt32 :=
  [0x6a09e667, 0xbb67ae85, 0x3c6ef372, 0xa54ff53a, 0x510e527f, 0x9b05688c, 0x1f83d9ab, 0x5be0cd19]

def bigEndian (count n : Nat) : List UInt8 := (range count).reverse.map fun i => (n / Nat.pow 256 i).toUInt8

/-- Whole blocks, with the length at the end. -/
def paddedMsg (bytes : List UInt8) : List UInt8 :=
  bytes ++ [0x80] ++ .replicate ((119 - bytes.length % 64) % 64) 0 ++ bigEndian 8 (bytes.length * 8)

def wordsOf : List UInt8 -> List UInt32
  | a :: b :: c :: d :: rest =>
    ((a.toUInt32 <<< 24) ||| (b.toUInt32 <<< 16) ||| (c.toUInt32 <<< 8) ||| d.toUInt32) :: wordsOf rest
  | _ => []

def msgSchedule (block : List UInt32) : Array UInt32 :=
  (range 48).foldl (fun w i =>
    let at15 := w.getD (i + 1) 0
    let at2 := w.getD (i + 14) 0
    let s0 := rotateRight at15 7 ^^^ rotateRight at15 18 ^^^ (at15 >>> 3)
    let s1 := rotateRight at2 17 ^^^ rotateRight at2 19 ^^^ (at2 >>> 10)
    w.push (w.getD i 0 + s0 + w.getD (i + 9) 0 + s1)) block.toArray

def hashRound (w : Array UInt32) : List UInt32 -> Nat -> List UInt32
  | [a, b, c, d, e, f, g, h], i =>
    let s1 := rotateRight e 6 ^^^ rotateRight e 11 ^^^ rotateRight e 25
    let t1 := h + s1 + ((e &&& f) ^^^ (~~~e &&& g)) + roundConstants.getD i 0 + w.getD i 0
    let s0 := rotateRight a 2 ^^^ rotateRight a 13 ^^^ rotateRight a 22
    [t1 + s0 + ((a &&& b) ^^^ (a &&& c) ^^^ (b &&& c)), a, b, c, d + t1, e, f, g]
  | words, _ => words

def hashBlock (words block : List UInt32) : List UInt32 :=
  zipWith (· + ·) words ((range 64).foldl (hashRound (msgSchedule block)) words)

/-- The number of blocks bounds the recursion. -/
def hashBlocks : Nat -> List UInt32 -> List UInt32 -> List UInt32
  | 0, words, _ => words
  | n + 1, words, rest => hashBlocks n (hashBlock words (rest.take 16)) (rest.drop 16)

def sha256 : List UInt8 :=
  let msg := paddedMsg bytes.toList
  (hashBlocks (msg.length / 64) initWords (wordsOf msg)).flatMap (bigEndian 4 ·.toNat)

end TensorForge.Checksum
