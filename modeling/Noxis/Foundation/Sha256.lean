import Noxis.Foundation.Hashing

namespace Foundation
namespace Fips180

/-!
# SHA-256

The hash function of FIPS 180-4, computed on 32-bit words held as natural
numbers.  Results about hashed data are stated for an arbitrary digest
function; this one is the function a program really calls, so a result about a
particular input can be evaluated.
-/

/-- A message block or the schedule derived from it. -/
abbrev Words : Type := List Nat

/-- The eight working variables. -/
structure Working where
  a : Nat
  b : Nat
  c : Nat
  d : Nat
  e : Nat
  f : Nat
  g : Nat
  h : Nat

def add (left right : Nat) : Nat := (left + right) % 2 ^ 32

def rotateRight (word amount : Nat) : Nat :=
  (word >>> amount) ||| ((word <<< (32 - amount)) % 2 ^ 32)

def complement (word : Nat) : Nat := 2 ^ 32 - 1 - word

def choose (x y z : Nat) : Nat := (x &&& y) ^^^ (complement x &&& z)

def majority (x y z : Nat) : Nat := ((x &&& y) ^^^ (x &&& z)) ^^^ (y &&& z)

def bigSigma0 (x : Nat) : Nat := (rotateRight x 2 ^^^ rotateRight x 13) ^^^ rotateRight x 22

def bigSigma1 (x : Nat) : Nat := (rotateRight x 6 ^^^ rotateRight x 11) ^^^ rotateRight x 25

def smallSigma0 (x : Nat) : Nat := (rotateRight x 7 ^^^ rotateRight x 18) ^^^ (x >>> 3)

def smallSigma1 (x : Nat) : Nat := (rotateRight x 17 ^^^ rotateRight x 19) ^^^ (x >>> 10)

def roundConstants : Words := [
    0x428a2f98, 0x71374491, 0xb5c0fbcf, 0xe9b5dba5, 0x3956c25b, 0x59f111f1,
    0x923f82a4, 0xab1c5ed5, 0xd807aa98, 0x12835b01, 0x243185be, 0x550c7dc3,
    0x72be5d74, 0x80deb1fe, 0x9bdc06a7, 0xc19bf174, 0xe49b69c1, 0xefbe4786,
    0x0fc19dc6, 0x240ca1cc, 0x2de92c6f, 0x4a7484aa, 0x5cb0a9dc, 0x76f988da,
    0x983e5152, 0xa831c66d, 0xb00327c8, 0xbf597fc7, 0xc6e00bf3, 0xd5a79147,
    0x06ca6351, 0x14292967, 0x27b70a85, 0x2e1b2138, 0x4d2c6dfc, 0x53380d13,
    0x650a7354, 0x766a0abb, 0x81c2c92e, 0x92722c85, 0xa2bfe8a1, 0xa81a664b,
    0xc24b8b70, 0xc76c51a3, 0xd192e819, 0xd6990624, 0xf40e3585, 0x106aa070,
    0x19a4c116, 0x1e376c08, 0x2748774c, 0x34b0bcb5, 0x391c0cb3, 0x4ed8aa4a,
    0x5b9cca4f, 0x682e6ff3, 0x748f82ee, 0x78a5636f, 0x84c87814, 0x8cc70208,
    0x90befffa, 0xa4506ceb, 0xbef9a3f7, 0xc67178f2]

def initial : Working := ⟨
    0x6a09e667, 0xbb67ae85, 0x3c6ef372, 0xa54ff53a, 0x510e527f, 0x9b05688c,
    0x1f83d9ab, 0x5be0cd19⟩

/-- Extend a schedule held newest word first, one word at a time. -/
def extendSchedule : Nat -> Words -> Words
  | 0, newestFirst => newestFirst
  | count + 1, newestFirst =>
    let word := add (add (smallSigma1 (newestFirst.getD 1 0)) (newestFirst.getD 6 0))
      (add (smallSigma0 (newestFirst.getD 14 0)) (newestFirst.getD 15 0))
    extendSchedule count (word :: newestFirst)

def schedule (block : Words) : Words :=
  (extendSchedule 48 block.reverse).reverse

def round (work : Working) (input : Nat × Nat) : Working :=
  let first := add (add (add work.h (bigSigma1 work.e)) (choose work.e work.f work.g))
    (add input.1 input.2)
  let second := add (bigSigma0 work.a) (majority work.a work.b work.c)
  ⟨add first second, work.a, work.b, work.c, add work.d first, work.e, work.f, work.g⟩

def compress (chain : Working) (block : Words) : Working :=
  let last := (roundConstants.zip (schedule block)).foldl round chain
  ⟨add chain.a last.a, add chain.b last.b, add chain.c last.c, add chain.d last.d,
    add chain.e last.e, add chain.f last.f, add chain.g last.g, add chain.h last.h⟩

/-- The message, a one bit, zeros up to eight bytes below a block boundary,
and the bit length. -/
def padding (message : List UInt8) : List UInt8 :=
  message ++ (0x80 :: List.replicate ((119 - message.length % 64) % 64) 0 ++
    bigEndian 8 (8 * message.length))

/-- Cut a byte string into words of four bytes. -/
def words : List UInt8 -> Words
  | first :: second :: third :: fourth :: rest =>
    ofBigEndian [first, second, third, fourth] :: words rest
  | _ => []

/-- Compress `count` blocks of sixteen words. -/
def compressBlocks : Nat -> Working -> Words -> Working
  | 0, chain, _ => chain
  | count + 1, chain, message =>
    compressBlocks count (compress chain (message.take 16)) (message.drop 16)

def digestWords (work : Working) : Words :=
  [work.a, work.b, work.c, work.d, work.e, work.f, work.g, work.h]

def sha256 (message : List UInt8) : Bytes 32 :=
  let padded := padding message
  let last := compressBlocks (padded.length / 64) initial (words padded)
  ⟨(digestWords last).flatMap (bigEndian 4), by
    simp only [digestWords, List.flatMap_cons, List.flatMap_nil, List.length_append,
      length_bigEndian, List.length_nil]⟩

example : (sha256 (utf8 "abc")).toList =
    [0xba, 0x78, 0x16, 0xbf, 0x8f, 0x01, 0xcf, 0xea, 0x41, 0x41, 0x40, 0xde, 0x5d, 0xae, 0x22, 0x23,
      0xb0, 0x03, 0x61, 0xa3, 0x96, 0x17, 0x7a, 0x9c, 0xb4, 0x10, 0xff, 0x61, 0xf2, 0x00, 0x15,
      0xad] := by decide +kernel

/-- The standard function as the digest function of a development. -/
scoped instance standardSha256 : Sha256 := ⟨sha256⟩

end Fips180
end Foundation
