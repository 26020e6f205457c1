import PrismInfer.Benchmark.Sha256Standard

/-!
# The hash of the evidence

`sha256.cpp` hashes a message in pieces. A stream keeps the eight words of the hash value, a
block of 64 bytes with the bytes that do not fill a block yet, and the number of bytes so far.
`sha256_update` fills the block, takes whole blocks directly from the data, and keeps the rest;
`sha256_finish` pads and prints.
-/

namespace PrismInfer.Benchmark

/-! ## The compression function -/

def kRoundConstants : List Word :=
  [0x428a2f98, 0x71374491, 0xb5c0fbcf, 0xe9b5dba5, 0x3956c25b, 0x59f111f1, 0x923f82a4, 0xab1c5ed5,
   0xd807aa98, 0x12835b01, 0x243185be, 0x550c7dc3, 0x72be5d74, 0x80deb1fe, 0x9bdc06a7, 0xc19bf174,
   0xe49b69c1, 0xefbe4786, 0x0fc19dc6, 0x240ca1cc, 0x2de92c6f, 0x4a7484aa, 0x5cb0a9dc, 0x76f988da,
   0x983e5152, 0xa831c66d, 0xb00327c8, 0xbf597fc7, 0xc6e00bf3, 0xd5a79147, 0x06ca6351, 0x14292967,
   0x27b70a85, 0x2e1b2138, 0x4d2c6dfc, 0x53380d13, 0x650a7354, 0x766a0abb, 0x81c2c92e, 0x92722c85,
   0xa2bfe8a1, 0xa81a664b, 0xc24b8b70, 0xc76c51a3, 0xd192e819, 0xd6990624, 0xf40e3585, 0x106aa070,
   0x19a4c116, 0x1e376c08, 0x2748774c, 0x34b0bcb5, 0x391c0cb3, 0x4ed8aa4a, 0x5b9cca4f, 0x682e6ff3,
   0x748f82ee, 0x78a5636f, 0x84c87814, 0x8cc70208, 0x90befffa, 0xa4506ceb, 0xbef9a3f7, 0xc67178f2]

/-- `rotate_right`. -/
def rotateRight (value : Word) (bits : ℕ) : Word :=
  (value >>> bits) ||| (value <<< (32 - bits))

variable (block : List Byte)

/-- A word of four bytes of a block. -/
def wordAt (i : ℕ) : Word :=
  ((block.getD (4 * i) 0).setWidth 32 <<< 24) |||
    ((block.getD (4 * i + 1) 0).setWidth 32 <<< 16) |||
    ((block.getD (4 * i + 2) 0).setWidth 32 <<< 8) ||| (block.getD (4 * i + 3) 0).setWidth 32

/-- The next word of the schedule, at the end of those so far. -/
def extendWords (words : List Word) : List Word :=
  let i := words.length
  let w15 := words.getD (i - 15) 0
  let w2 := words.getD (i - 2) 0
  let s0 := rotateRight w15 7 ^^^ rotateRight w15 18 ^^^ (w15 >>> 3)
  let s1 := rotateRight w2 17 ^^^ rotateRight w2 19 ^^^ (w2 >>> 10)
  words ++ [words.getD (i - 16) 0 + s0 + words.getD (i - 7) 0 + s1]

/-- The schedule: sixteen words of the block, and forty-eight more. -/
def scheduleWords : List Word :=
  extendWords^[48] ((List.range 16).map (wordAt block))

/-- A round. -/
def round (constant word : Word) (v : Words) : Words :=
  let s1 := rotateRight v.e 6 ^^^ rotateRight v.e 11 ^^^ rotateRight v.e 25
  let choose := (v.e &&& v.f) ^^^ (~~~v.e &&& v.g)
  let t1 := v.h + s1 + choose + constant + word
  let s0 := rotateRight v.a 2 ^^^ rotateRight v.a 13 ^^^ rotateRight v.a 22
  let majority := (v.a &&& v.b) ^^^ (v.a &&& v.c) ^^^ (v.b &&& v.c)
  let t2 := s0 + majority
  { h := v.g, g := v.f, f := v.e, e := v.d + t1, d := v.c, c := v.b, b := v.a, a := t1 + t2 }

/-- `process_block`. -/
def processBlock (state : Words) (block : List Byte) : Words :=
  let words := scheduleWords block
  let v := (List.range 64).foldl
    (fun v i => round (kRoundConstants.getD i 0) (words.getD i 0) v) state
  { a := state.a + v.a, b := state.b + v.b, c := state.c + v.c, d := state.d + v.d,
    e := state.e + v.e, f := state.f + v.f, g := state.g + v.g, h := state.h + v.h }

/-! ## The stream -/

/-- Copies bytes into a block at an offset. -/
def overwrite (offset : ℕ) (bytes : List Byte) : List Byte :=
  block.take offset ++ (bytes ++ block.drop (offset + bytes.length))

theorem length_overwrite {block bytes : List Byte} {offset : ℕ}
    (h : offset + bytes.length ≤ block.length) :
    (overwrite block offset bytes).length = block.length := by
  simp only [overwrite, List.length_append, List.length_take, List.length_drop]
  omega

/-- `Sha256Stream`. The block is never full between calls. -/
structure Sha256Stream where
  state : Words := ⟨0x6a09e667, 0xbb67ae85, 0x3c6ef372, 0xa54ff53a, 0x510e527f, 0x9b05688c,
    0x1f83d9ab, 0x5be0cd19⟩
  block : List Byte := List.replicate 64 0
  buffered : ℕ := 0
  totalBytes : ℕ := 0
  length_block : block.length = 64 := by rfl
  buffered_lt : buffered < 64 := by decide

/-- What a call of `sha256_update` works on: the state, the block, its filled bytes and the data
that is left. -/
structure Pending where
  state : Words
  block : List Byte
  buffered : ℕ
  data : List Byte

variable (stream : Sha256Stream)

/-- The first step fills a block that holds bytes already. -/
def fillBlock (data : List Byte) : Pending :=
  if stream.buffered ≠ 0 then
    let copied := min data.length (64 - stream.buffered)
    let block := overwrite stream.block stream.buffered (data.take copied)
    if stream.buffered + copied = 64 then
      ⟨processBlock stream.state block, block, 0, data.drop copied⟩
    else ⟨stream.state, block, stream.buffered + copied, data.drop copied⟩
  else ⟨stream.state, stream.block, 0, data⟩

/-- The loop over whole blocks of the data. -/
def processWhole : ℕ → Words → List Byte → Words × List Byte
  | 0, state, data => (state, data)
  | fuel + 1, state, data =>
    if 64 ≤ data.length then
      processWhole fuel (processBlock state (data.take 64)) (data.drop 64)
    else (state, data)

/-- The loop ends with less than a block. -/
theorem length_processWhole (fuel : ℕ) (state : Words) (data : List Byte)
    (h : data.length ≤ fuel) : (processWhole fuel state data).2.length < 64 := by
  induction fuel generalizing state data with
  | zero =>
    show data.length < 64
    omega
  | succ fuel ih =>
    rw [processWhole]
    split
    · exact ih _ _ (by rw [List.length_drop]; omega)
    · show data.length < 64
      omega

theorem length_fillBlock (data : List Byte) :
    (fillBlock stream data).block.length = 64 ∧ (fillBlock stream data).buffered < 64 := by
  have hlength := stream.length_block
  have hbuffered := stream.buffered_lt
  have hoverwrite : (overwrite stream.block stream.buffered
      (data.take (min data.length (64 - stream.buffered)))).length = 64 := by
    rw [length_overwrite, hlength]
    rw [hlength, List.length_take]
    omega
  unfold fillBlock
  split
  · dsimp only
    split
    · exact ⟨hoverwrite, Nat.zero_lt_succ 63⟩
    · refine ⟨hoverwrite, ?_⟩
      show stream.buffered + min data.length (64 - stream.buffered) < 64
      omega
  · exact ⟨hlength, Nat.zero_lt_succ 63⟩

/-- The last step keeps the rest of the data: the block and its filled bytes. -/
def keepRest (filled : Pending) (rest : List Byte) : List Byte × ℕ :=
  if rest ≠ [] then (overwrite filled.block 0 rest, rest.length)
  else (filled.block, filled.buffered)

theorem length_keepRest {filled : Pending} {rest : List Byte}
    (hfilled : filled.block.length = 64 ∧ filled.buffered < 64) (hrest : rest.length < 64) :
    (keepRest filled rest).1.length = 64 ∧ (keepRest filled rest).2 < 64 := by
  unfold keepRest
  split
  · refine ⟨?_, hrest⟩
    show (overwrite filled.block 0 rest).length = 64
    rw [length_overwrite (by omega), hfilled.1]
  · exact hfilled

/-- `sha256_update`; `none` is the answer `false`, which leaves the stream as it was. -/
def sha256Update (data : List Byte) : Option Sha256Stream :=
  if 2 ^ 64 - 1 - stream.totalBytes < data.length then none
  else
    let filled := fillBlock stream data
    let whole := processWhole filled.data.length filled.state filled.data
    have hkept := length_keepRest (length_fillBlock stream data)
      (length_processWhole filled.data.length filled.state filled.data (Nat.le_refl _))
    some
      { state := whole.1
        block := (keepRest filled whole.2).1
        buffered := (keepRest filled whole.2).2
        totalBytes := stream.totalBytes + data.length
        length_block := hkept.1
        buffered_lt := hkept.2 }

/-- Calls of `sha256_update`, one after the other. -/
def sha256Updates : Sha256Stream → List (List Byte) → Option Sha256Stream
  | stream, [] => some stream
  | stream, chunk :: chunks => (sha256Update stream chunk).bind (sha256Updates · chunks)

/-- Fills a block with zeros from a position on. -/
def zeroFrom (position : ℕ) : List Byte :=
  block.take position ++ List.replicate (64 - position) 0

/-- The loop that writes the number of bits to the end of a block. -/
def writeLength (bitCount : ℕ) (block : List Byte) : List Byte :=
  (List.range 8).foldl
    (fun block i => block.set (63 - i) (BitVec.ofNat 8 (bitCount >>> (8 * i)))) block

/-- A word as `std::hex` prints it, with zeros up to eight digits. -/
def hexWord (word : Word) : List Char :=
  (Nat.toDigits 16 word.toNat).leftpad 8 '0'

/-- `sha256_finish`; `none` is the answer `false`. -/
def sha256Finish : Option (List Char) :=
  if (2 ^ 64 - 1) / 8 < stream.totalBytes then none
  else
    let marked := overwrite stream.block stream.buffered [0x80]
    let buffered := stream.buffered + 1
    -- a block without room for the length is processed first
    let (state, block) :=
      if 56 < buffered then
        (processBlock stream.state (zeroFrom marked buffered), zeroFrom marked 0)
      else (stream.state, zeroFrom marked buffered)
    let bitCount := stream.totalBytes * 8 % 2 ^ 64
    let state := processBlock state (writeLength bitCount block)
    some (hexWord state.a ++ hexWord state.b ++ hexWord state.c ++ hexWord state.d ++
      hexWord state.e ++ hexWord state.f ++ hexWord state.g ++ hexWord state.h)

/-- `sha256_text`. -/
def sha256Text (bytes : List Byte) : Option (List Char) :=
  (sha256Update {} bytes).bind sha256Finish

/-- The bytes of a text whose characters are bytes. -/
def textBytes (text : List Char) : List Byte :=
  text.map fun c => BitVec.ofNat 8 c.toNat

end PrismInfer.Benchmark
