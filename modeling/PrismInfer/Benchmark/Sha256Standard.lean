import PrismInfer.Lib.Blocks

/-!
# SHA-256 as FIPS 180-4 defines it

The standard hashes a string of bits. It appends a one, zeros, and the length in 64 bits, cuts
the result into blocks of 512 bits, and runs the compression function over the blocks
(sections 4.1.2, 4.2.2, 5.1.1, 5.2.1, 5.3.3 and 6.2.2). Bits of bytes and of words stand with
the most significant bit first.

The standard prints its constants and says what they are: the round constants are the first 32
bits of the fractional parts of the cube roots of the first 64 primes, and the initial hash value
likewise with the square roots of the first eight. They are defined so here.
-/

namespace PrismInfer.Benchmark

open PrismInfer.Lib

abbrev Byte := BitVec 8

abbrev Word := BitVec 32

/-- Eight words: the hash value, and the working variables. -/
structure Words where
  (a b c d e f g h : Word)
  deriving DecidableEq, Repr

namespace Fips180

/-! ## Functions -/

def rotr (n : ℕ) (x : Word) : Word := x.rotateRight n

def shr (n : ℕ) (x : Word) : Word := x >>> n

def ch (x y z : Word) : Word := (x &&& y) ^^^ (~~~x &&& z)

def maj (x y z : Word) : Word := (x &&& y) ^^^ (x &&& z) ^^^ (y &&& z)

def bigSigma0 (x : Word) : Word := rotr 2 x ^^^ rotr 13 x ^^^ rotr 22 x

def bigSigma1 (x : Word) : Word := rotr 6 x ^^^ rotr 11 x ^^^ rotr 25 x

def smallSigma0 (x : Word) : Word := rotr 7 x ^^^ rotr 18 x ^^^ shr 3 x

def smallSigma1 (x : Word) : Word := rotr 17 x ^^^ rotr 19 x ^^^ shr 10 x

/-! ## Constants -/

/-- The first 64 primes. A number below 18² that is not prime has a divisor below 18. -/
def primes : List ℕ :=
  (List.range 312).filter fun p => 2 ≤ p ∧ ∀ d ∈ List.range 18, 2 ≤ d ∧ d < p → ¬d ∣ p

/-- The first 32 bits of the fractional part of the `k`-th root of `p`. -/
def rootFraction (k p : ℕ) : Word :=
  -- the root times 2^32, rounded down, from its highest bit on
  BitVec.ofNat 32 ((List.range 40).foldr
    (fun i root => if (root + 2 ^ i) ^ k ≤ p * 2 ^ (32 * k) then root + 2 ^ i else root) 0)

def roundConstants : List Word := primes.map (rootFraction 3)

def initialHash : Words where
  a := rootFraction 2 2
  b := rootFraction 2 3
  c := rootFraction 2 5
  d := rootFraction 2 7
  e := rootFraction 2 11
  f := rootFraction 2 13
  g := rootFraction 2 17
  h := rootFraction 2 19

/-! ## Bits -/

/-- The `w` low bits of a number, the most significant one first. -/
def bitsOf (w n : ℕ) : List Bool :=
  (List.range w).map fun i => n.testBit (w - 1 - i)

/-- The number that bits stand for. -/
def value (bits : List Bool) : ℕ :=
  bits.foldl (fun n bit => 2 * n + bit.toNat) 0

def byteBits (byte : Byte) : List Bool :=
  bitsOf 8 byte.toNat

/-! ## Padding and parsing -/

/-- The number of zeros: the least one that brings the length to 448 modulo 512. -/
def zeroBits (length : ℕ) : ℕ :=
  (448 + 512 - (length + 1) % 512) % 512

theorem zeroBits_spec (length : ℕ) : (length + 1 + zeroBits length) % 512 = 448 ∧
    ∀ k, (length + 1 + k) % 512 = 448 → zeroBits length ≤ k := by
  rw [zeroBits]
  constructor
  · omega
  · intro k hk
    omega

def pad (message : List Bool) : List Bool :=
  message ++ true :: (List.replicate (zeroBits message.length) false ++
    bitsOf 64 message.length)

/-- The word `t` of a block. -/
def messageWord (block : List Bool) (t : ℕ) : Word :=
  BitVec.ofNat 32 (value ((block.drop (32 * t)).take 32))

/-! ## Hash computation -/

/-- The message schedule. -/
def schedule (block : List Bool) (t : ℕ) : Word :=
  if t < 16 then messageWord block t
  else smallSigma1 (schedule block (t - 2)) + schedule block (t - 7) +
    smallSigma0 (schedule block (t - 15)) + schedule block (t - 16)

/-- One step of the computation. -/
def step (k w : Word) (v : Words) : Words :=
  let t1 := v.h + bigSigma1 v.e + ch v.e v.f v.g + k + w
  let t2 := bigSigma0 v.a + maj v.a v.b v.c
  { a := t1 + t2, b := v.a, c := v.b, d := v.c, e := v.d + t1, f := v.e, g := v.f, h := v.g }

/-- The hash value after a block. -/
def compress (hash : Words) (block : List Bool) : Words :=
  let v := (List.range 64).foldl
    (fun v t => step (roundConstants.getD t 0) (schedule block t) v) hash
  { a := v.a + hash.a, b := v.b + hash.b, c := v.c + hash.c, d := v.d + hash.d,
    e := v.e + hash.e, f := v.f + hash.f, g := v.g + hash.g, h := v.h + hash.h }

/-- The hash value of a message. -/
def hash (message : List Bool) : Words :=
  (blocks 512 (pad message)).foldl compress initialHash

/-- The digest, the eight words one after the other. -/
def digest (message : List Bool) : BitVec 256 :=
  let v := hash message
  v.a ++ v.b ++ v.c ++ v.d ++ v.e ++ v.f ++ v.g ++ v.h

/-- So many hexadecimal digits of a number, in lower case. -/
def hexDigits : ℕ → ℕ → List Char
  | 0, _ => []
  | count + 1, n => hexDigits count (n / 16) ++ [Nat.digitChar (n % 16)]

theorem mem_hexDigits {count n : ℕ} {c : Char} (h : c ∈ hexDigits count n) :
    ∃ k < 16, c = Nat.digitChar k := by
  induction count generalizing n with
  | zero => cases h
  | succ count ih =>
    rcases List.mem_append.1 h with h | h
    · exact ih h
    · exact ⟨n % 16, Nat.mod_lt _ (by decide), List.mem_singleton.1 h⟩

theorem length_hexDigits (count n : ℕ) : (hexDigits count n).length = count := by
  induction count generalizing n with
  | zero => rfl
  | succ count ih => rw [hexDigits, List.length_append, ih, List.length_singleton]

/-- The hexadecimal digest of a message of bytes. -/
def sha256 (message : List Byte) : List Char :=
  hexDigits 64 (digest (message.flatMap byteBits)).toNat

end Fips180

end PrismInfer.Benchmark
