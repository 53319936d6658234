/-!
# SHA-256 and keyed digests

The hash of FIPS 180-4 over byte strings, and the keyed digest that RFC 2104 builds from it.

## Main definitions

* `sha256`: the 32 bytes of the hash.
* `hmac`: the keyed digest.
-/

namespace PurgeGateway.Digest

/-! ### Constants -/

/-- The constants of the 64 rounds. -/
def roundConstants : Array UInt32 := #[
  0x428a2f98, 0x71374491, 0xb5c0fbcf, 0xe9b5dba5, 0x3956c25b, 0x59f111f1, 0x923f82a4, 0xab1c5ed5,
  0xd807aa98, 0x12835b01, 0x243185be, 0x550c7dc3, 0x72be5d74, 0x80deb1fe, 0x9bdc06a7, 0xc19bf174,
  0xe49b69c1, 0xefbe4786, 0x0fc19dc6, 0x240ca1cc, 0x2de92c6f, 0x4a7484aa, 0x5cb0a9dc, 0x76f988da,
  0x983e5152, 0xa831c66d, 0xb00327c8, 0xbf597fc7, 0xc6e00bf3, 0xd5a79147, 0x06ca6351, 0x14292967,
  0x27b70a85, 0x2e1b2138, 0x4d2c6dfc, 0x53380d13, 0x650a7354, 0x766a0abb, 0x81c2c92e, 0x92722c85,
  0xa2bfe8a1, 0xa81a664b, 0xc24b8b70, 0xc76c51a3, 0xd192e819, 0xd6990624, 0xf40e3585, 0x106aa070,
  0x19a4c116, 0x1e376c08, 0x2748774c, 0x34b0bcb5, 0x391c0cb3, 0x4ed8aa4a, 0x5b9cca4f, 0x682e6ff3,
  0x748f82ee, 0x78a5636f, 0x84c87814, 0x8cc70208, 0x90befffa, 0xa4506ceb, 0xbef9a3f7, 0xc67178f2]

/-- The eight words of the running hash. -/
structure Words where
  a : UInt32
  b : UInt32
  c : UInt32
  d : UInt32
  e : UInt32
  f : UInt32
  g : UInt32
  h : UInt32

/-- The running hash before the first block. -/
def Words.initial : Words where
  a := 0x6a09e667
  b := 0xbb67ae85
  c := 0x3c6ef372
  d := 0xa54ff53a
  e := 0x510e527f
  f := 0x9b05688c
  g := 0x1f83d9ab
  h := 0x5be0cd19

/-- The running hash as a list, first word first. -/
def Words.toList (w : Words) : List UInt32 :=
  [w.a, w.b, w.c, w.d, w.e, w.f, w.g, w.h]

/-- The words added one by one. -/
def Words.add (x y : Words) : Words :=
  ⟨x.a + y.a, x.b + y.b, x.c + y.c, x.d + y.d, x.e + y.e, x.f + y.f, x.g + y.g, x.h + y.h⟩

/-! ### One block -/

/-- The word turned right by `n` places. -/
def rotateRight (x : UInt32) (n : UInt32) : UInt32 :=
  (x >>> n) ||| (x <<< (32 - n))

/-- The number that bytes write in big-endian order. -/
def bigEndian (bytes : List UInt8) : UInt32 :=
  bytes.foldl (fun acc b => (acc <<< 8) ||| b.toUInt32) 0

/-- The first sixteen words of the schedule, straight from the block. -/
def blockWords : List UInt8 → Array UInt32 → Array UInt32
  | a :: b :: c :: d :: rest, done => blockWords rest (done.push (bigEndian [a, b, c, d]))
  | _, done => done

/-- One more word of the schedule, from four earlier ones. -/
def scheduleStep (w : Array UInt32) : Array UInt32 :=
  let n := w.size
  let x := w.getD (n - 15) 0
  let y := w.getD (n - 2) 0
  let s0 := rotateRight x 7 ^^^ rotateRight x 18 ^^^ (x >>> 3)
  let s1 := rotateRight y 17 ^^^ rotateRight y 19 ^^^ (y >>> 10)
  w.push (w.getD (n - 16) 0 + s0 + w.getD (n - 7) 0 + s1)

/-- The 64 words of the schedule of a block. -/
def schedule (block : List UInt8) : Array UInt32 :=
  (List.range 48).foldl (fun w _ => scheduleStep w) (blockWords block (Array.mkEmpty 64))

/-- One round. -/
def round (w : Array UInt32) (s : Words) (i : Nat) : Words :=
  let s1 := rotateRight s.e 6 ^^^ rotateRight s.e 11 ^^^ rotateRight s.e 25
  let choice := (s.e &&& s.f) ^^^ (~~~ s.e &&& s.g)
  let t1 := s.h + s1 + choice + roundConstants.getD i 0 + w.getD i 0
  let s0 := rotateRight s.a 2 ^^^ rotateRight s.a 13 ^^^ rotateRight s.a 22
  let majority := (s.a &&& s.b) ^^^ (s.a &&& s.c) ^^^ (s.b &&& s.c)
  ⟨t1 + (s0 + majority), s.a, s.b, s.c, s.d + t1, s.e, s.f, s.g⟩

/-- The running hash after one more block. -/
def compress (s : Words) (block : List UInt8) : Words :=
  let w := schedule block
  s.add ((List.range 64).foldl (round w) s)

/-! ### Whole messages -/

/-- The 64 bits of a number, in big-endian order. -/
def eightBytes (n : Nat) : List UInt8 :=
  [56, 48, 40, 32, 24, 16, 8, 0].map fun shift => UInt8.ofNat (n >>> shift)

/-- The message filled up to full blocks: a one bit, zeros, and its length in bits. -/
def padded (message : List UInt8) : List UInt8 :=
  let n := message.length
  message ++ 0x80 :: List.replicate ((119 - n % 64) % 64) 0 ++ eightBytes (8 * n)

/-- The running hash after `blocks` blocks of a padded message. -/
def hashBlocks : Nat → Words → List UInt8 → Words
  | 0, s, _ => s
  | blocks + 1, s, bytes => hashBlocks blocks (compress s (bytes.take 64)) (bytes.drop 64)

/-- The four bytes of a word, in big-endian order. -/
def fourBytes (x : UInt32) : List UInt8 :=
  [(x >>> 24).toUInt8, (x >>> 16).toUInt8, (x >>> 8).toUInt8, x.toUInt8]

/-- The hash of a message, as 32 bytes. -/
def sha256 (message : List UInt8) : List UInt8 :=
  let bytes := padded message
  (hashBlocks (bytes.length / 64) Words.initial bytes).toList.flatMap fourBytes

/-! ### Keyed digests -/

/-- The key brought to the length of a block. -/
def blockKey (key : List UInt8) : List UInt8 :=
  let short := if key.length > 64 then sha256 key else key
  short ++ List.replicate (64 - short.length) 0

/-- The digest of a message under a key. -/
def hmac (key message : List UInt8) : List UInt8 :=
  let k := blockKey key
  sha256 (k.map (· ^^^ 0x5c) ++ sha256 (k.map (· ^^^ 0x36) ++ message))

end PurgeGateway.Digest
