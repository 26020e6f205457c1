import Mathlib.Data.List.GetD
import PrismInfer.Benchmark.Sha256

/-!
# The hash of the evidence is SHA-256

The code works on bytes and in pieces, the standard on bits and on whole messages.

1. A block of 64 bytes is a block of 512 bits, and `process_block` is the compression function
   on it (`processBlock_eq`). The schedule of the code is a list that grows by one word at a
   time; its words are those of the standard's recurrence (`getD_extendWords`).
2. The padding of the standard, in bytes, is a marker, zeros and the length (`pad_bytes`).
3. A stream that was fed a message holds the hash value of its whole blocks and keeps what they
   leave over (`Holds`). Every piece keeps this (`Holds.update`), and `sha256_finish` appends
   the padding (`Holds.finish`).
4. Eight words of eight hexadecimal digits are the 64 digits of the digest
   (`hexWords_eq`).
-/

namespace PrismInfer.Benchmark

open PrismInfer.Lib Fips180

/-! ## Bits -/

theorem length_bitsOf (w n : ℕ) : (bitsOf w n).length = w := by
  simp [bitsOf]

theorem length_byteBits (byte : Byte) : (byteBits byte).length = 8 :=
  length_bitsOf 8 _

/-- The high bits and the low bits. -/
theorem bitsOf_add (v w n : ℕ) : bitsOf (v + w) n = bitsOf v (n >>> w) ++ bitsOf w n := by
  rw [bitsOf, List.range_add, List.map_append, List.map_map, bitsOf, bitsOf]
  congr 1
  · refine List.map_congr_left fun i hi => ?_
    rw [List.mem_range] at hi
    rw [Nat.testBit_shiftRight]
    congr 1
    omega
  · refine List.map_congr_left fun i hi => ?_
    rw [List.mem_range] at hi
    show n.testBit (v + w - 1 - (v + i)) = n.testBit (w - 1 - i)
    congr 1
    omega

/-- Higher bits make no difference. -/
theorem bitsOf_mod (w n : ℕ) : bitsOf w (n % 2 ^ w) = bitsOf w n := by
  refine List.map_congr_left fun i hi => ?_
  rw [List.mem_range] at hi
  rw [Nat.testBit_mod_two_pow, decide_eq_true (by omega), Bool.true_and]

theorem byteBits_ofNat (n : ℕ) : byteBits (BitVec.ofNat 8 n) = bitsOf 8 n := by
  rw [byteBits, BitVec.toNat_ofNat, bitsOf_mod]

theorem value_foldl (bits : List Bool) (n : ℕ) :
    bits.foldl (fun n bit => 2 * n + bit.toNat) n = n * 2 ^ bits.length + value bits := by
  induction bits generalizing n with
  | nil => simp [value]
  | cons bit bits ih =>
    have hvalue : value (bit :: bits) = bit.toNat * 2 ^ bits.length + value bits := by
      rw [value, List.foldl_cons, ih, Nat.mul_zero, Nat.zero_add]
    rw [List.foldl_cons, ih, hvalue, List.length_cons, Nat.pow_succ]
    ring

theorem value_append (bits bits' : List Bool) :
    value (bits ++ bits') = value bits * 2 ^ bits'.length + value bits' := by
  rw [value, List.foldl_append, value_foldl]
  rfl

theorem value_bitsOf (w n : ℕ) : value (bitsOf w n) = n % 2 ^ w := by
  induction w generalizing n with
  | zero => simp [bitsOf, value, Nat.mod_one]
  | succ w ih =>
    have hbit : value (bitsOf 1 n) = n % 2 := by
      rw [show bitsOf 1 n = [n.testBit 0] from rfl]
      simp [value, Nat.testBit_zero]
      rcases Nat.mod_two_eq_zero_or_one n with h | h <;> simp [h]
    rw [bitsOf_add w 1, value_append, length_bitsOf, ih, hbit, Nat.shiftRight_eq_div_pow,
      Nat.pow_one, Nat.pow_succ', Nat.mod_mul]
    omega

theorem value_byteBits (byte : Byte) : value (byteBits byte) = byte.toNat := by
  rw [byteBits, value_bitsOf]
  exact Nat.mod_eq_of_lt byte.isLt

/-! ## Words -/

/-- Four bytes side by side, as the code puts them together. -/
theorem word_of_bytes (b₀ b₁ b₂ b₃ : Byte) :
    ((b₀.setWidth 32 <<< 24) ||| (b₁.setWidth 32 <<< 16) ||| (b₂.setWidth 32 <<< 8) |||
      b₃.setWidth 32 : Word) = BitVec.ofNat 32 (value ([b₀, b₁, b₂, b₃].flatMap byteBits)) := by
  have hvalue : value ([b₀, b₁, b₂, b₃].flatMap byteBits) =
      ((b₀.toNat * 2 ^ 8 + b₁.toNat) * 2 ^ 8 + b₂.toNat) * 2 ^ 8 + b₃.toNat := by
    rw [show [b₀, b₁, b₂, b₃].flatMap byteBits =
      byteBits b₀ ++ byteBits b₁ ++ byteBits b₂ ++ byteBits b₃ by simp]
    simp only [value_append, value_byteBits, length_byteBits]
  have h₀ := b₀.isLt
  have h₁ := b₁.isLt
  have h₂ := b₂.isLt
  have h₃ := b₃.isLt
  apply BitVec.eq_of_toNat_eq
  rw [hvalue, BitVec.toNat_ofNat, Nat.mod_eq_of_lt (by omega)]
  simp only [BitVec.toNat_or, BitVec.toNat_shiftLeft, BitVec.toNat_setWidth]
  rw [Nat.mod_eq_of_lt (show b₀.toNat < 2 ^ 32 by omega),
    Nat.mod_eq_of_lt (show b₁.toNat < 2 ^ 32 by omega),
    Nat.mod_eq_of_lt (show b₂.toNat < 2 ^ 32 by omega),
    Nat.mod_eq_of_lt (show b₃.toNat < 2 ^ 32 by omega),
    Nat.mod_eq_of_lt (by rw [Nat.shiftLeft_eq]; omega),
    Nat.mod_eq_of_lt (by rw [Nat.shiftLeft_eq]; omega),
    Nat.mod_eq_of_lt (by rw [Nat.shiftLeft_eq]; omega)]
  -- the shifted bytes do not overlap
  calc b₀.toNat <<< 24 ||| b₁.toNat <<< 16 ||| b₂.toNat <<< 8 ||| b₃.toNat
      = ((b₀.toNat <<< 8 ||| b₁.toNat) <<< 8 ||| b₂.toNat) <<< 8 ||| b₃.toNat := by
        simp only [Nat.shiftLeft_or_distrib, ← Nat.shiftLeft_add]
    _ = ((b₀.toNat <<< 8 + b₁.toNat) <<< 8 + b₂.toNat) <<< 8 + b₃.toNat := by
        rw [Nat.shiftLeft_add_eq_or_of_lt h₃, Nat.shiftLeft_add_eq_or_of_lt h₂,
          Nat.shiftLeft_add_eq_or_of_lt h₁]
    _ = _ := by
        simp only [Nat.shiftLeft_eq]

variable {block message : List Byte} {stream : Sha256Stream}

theorem take_four {i : ℕ} (h : i + 4 ≤ block.length) : (block.drop i).take 4 =
      [block.getD i 0, block.getD (i + 1) 0, block.getD (i + 2) 0, block.getD (i + 3) 0] := by
  rw [List.drop_eq_getElem_cons (by omega), List.drop_eq_getElem_cons (by omega),
    List.drop_eq_getElem_cons (by omega), List.drop_eq_getElem_cons (by omega),
    List.getD_eq_getElem _ _ (by omega), List.getD_eq_getElem _ _ (by omega),
    List.getD_eq_getElem _ _ (by omega), List.getD_eq_getElem _ _ (by omega)]
  rfl

theorem messageWord_bits (hblock : block.length = 64) {t : ℕ} (ht : t < 16) :
    messageWord (block.flatMap byteBits) t = wordAt block t := by
  have hbytes : ((block.flatMap byteBits).drop (8 * (4 * t))).take (8 * 4) =
      ((block.drop (4 * t)).take 4).flatMap byteBits := by
    rw [drop_flatMap_of_length length_byteBits, take_flatMap_of_length length_byteBits]
  rw [take_four (by omega)] at hbytes
  rw [messageWord, show 32 * t = 8 * (4 * t) by ring, hbytes]
  exact (word_of_bytes _ _ _ _).symm

/-! ## The compression function -/

/-- The words of the schedule, as far as it has grown. -/
theorem getD_extendWords (hblock : block.length = 64) (k : ℕ) :
    (extendWords^[k] ((List.range 16).map (wordAt block))).length = 16 + k ∧
      ∀ t < 16 + k, (extendWords^[k] ((List.range 16).map (wordAt block))).getD t 0 =
        schedule (block.flatMap byteBits) t := by
  induction k with
  | zero =>
    refine ⟨by simp, fun t ht => ?_⟩
    rw [schedule, if_pos ht, messageWord_bits hblock ht]
    simp [List.getD_eq_getElem?_getD, ht]
  | succ k ih =>
    obtain ⟨hlength, hwords⟩ := ih
    rw [Function.iterate_succ_apply']
    generalize extendWords^[k] ((List.range 16).map (wordAt block)) = words at *
    refine ⟨by simp [extendWords, hlength, Nat.add_assoc], fun t ht => ?_⟩
    by_cases hold : t < 16 + k
    · rw [extendWords, List.getD_append _ _ _ _ (by omega), hwords t hold]
    · -- the new word, by the recurrence on four old ones
      obtain rfl : t = 16 + k := by omega
      rw [schedule, if_neg (by omega), ← hwords _ (by omega), ← hwords _ (by omega),
        ← hwords _ (by omega), ← hwords _ (by omega), extendWords,
        List.getD_append_right _ _ _ _ (by omega), hlength, Nat.sub_self]
      show words.getD (16 + k - 16) 0 + smallSigma0 _ + words.getD (16 + k - 7) 0 +
        smallSigma1 _ = _
      ac_rfl

theorem kRoundConstants_eq : kRoundConstants = roundConstants := by
  decide +kernel

/-- **`process_block` is the compression function.** -/
theorem processBlock_eq (hblock : block.length = 64) (state : Words) :
    processBlock state block = compress state (block.flatMap byteBits) := by
  have hrounds : (List.range 64).foldl
      (fun v i => round (kRoundConstants.getD i 0) ((scheduleWords block).getD i 0) v) state =
      (List.range 64).foldl (fun v t =>
        step (roundConstants.getD t 0) (schedule (block.flatMap byteBits) t) v) state := by
    refine List.foldl_ext _ _ _ fun v t ht => ?_
    rw [List.mem_range] at ht
    rw [scheduleWords, (getD_extendWords hblock 48).2 t ht, kRoundConstants_eq]
    rfl
  simp only [processBlock, compress, hrounds, BitVec.add_comm]

/-! ## The padding in bytes -/

/-- The number of zero bytes after the marker. -/
def zeroBytes (length : ℕ) : ℕ :=
  (55 + 64 - length % 64) % 64

/-- A number of bits in eight bytes. -/
def lengthBytes (bitCount : ℕ) : List Byte :=
  [56, 48, 40, 32, 24, 16, 8, 0].map fun shift => BitVec.ofNat 8 (bitCount >>> shift)

/-- What the standard appends to a message of so many bytes. -/
def paddingBytes (length : ℕ) : List Byte :=
  0x80 :: (List.replicate (zeroBytes length) 0 ++ lengthBytes (8 * length))

theorem bits_lengthBytes (bitCount : ℕ) :
    (lengthBytes bitCount).flatMap byteBits = bitsOf 64 bitCount := by
  rw [show (64 : ℕ) = 8 + (8 + (8 + (8 + (8 + (8 + (8 + 8)))))) from rfl]
  simp only [bitsOf_add 8, lengthBytes, List.map_cons, List.map_nil, List.flatMap_cons,
    List.flatMap_nil, byteBits_ofNat, List.append_nil]
  rfl

theorem bits_replicate_zero (count : ℕ) :
    (List.replicate count (0 : Byte)).flatMap byteBits = List.replicate (8 * count) false := by
  rw [List.flatMap_replicate, show byteBits 0 = List.replicate 8 false by decide,
    List.flatten_replicate_replicate, Nat.mul_comm]

theorem zeroBits_bytes (length : ℕ) : zeroBits (8 * length) = 7 + 8 * zeroBytes length := by
  rw [zeroBits, zeroBytes]
  omega

theorem pad_bytes (message : List Byte) : pad (message.flatMap byteBits) =
      (message ++ paddingBytes message.length).flatMap byteBits := by
  have hmarker : byteBits 0x80 = true :: List.replicate 7 false := by decide
  rw [pad, length_flatMap_of_length length_byteBits, zeroBits_bytes, List.flatMap_append,
    paddingBytes, List.flatMap_cons, List.flatMap_append, bits_lengthBytes, bits_replicate_zero,
    hmarker, List.replicate_add]
  simp

/-! ## A stream that was fed a message -/

/-- The stream was fed the message. -/
structure Holds (stream : Sha256Stream) (message : List Byte) : Prop where
  state : stream.state = absorb 64 processBlock initialHash message
  rest : stream.block.take stream.buffered = leftover 64 message
  total : stream.totalBytes = message.length

theorem holds_init : Holds {} [] where
  state := by decide +kernel
  rest := rfl
  total := rfl

theorem processWhole_eq (fuel : ℕ) (state : Words) (data : List Byte) (h : data.length ≤ fuel) :
    processWhole fuel state data = (absorb 64 processBlock state data, leftover 64 data) := by
  induction fuel generalizing state data with
  | zero =>
    obtain rfl : data = [] := List.length_eq_zero_iff.1 (by omega)
    rfl
  | succ fuel ih =>
    rw [processWhole]
    split
    · have hfirst : (data.take 64).length = 64 := by rw [List.length_take]; omega
      rw [ih _ _ (by rw [List.length_drop]; omega), ← absorb_append_block (by decide) hfirst,
        ← leftover_append_block (by decide) hfirst, List.take_append_drop]
    · rw [absorb_of_lt (by omega), leftover_of_lt (by omega)]

theorem take_overwrite {bytes : List Byte} {offset : ℕ} (h : offset ≤ block.length) :
    (overwrite block offset bytes).take (offset + bytes.length) = block.take offset ++ bytes := by
  rw [overwrite, ← List.append_assoc]
  refine List.take_left' ?_
  rw [List.length_append, List.length_take, Nat.min_eq_left h]

/-- After the first step the stream and the data are in the same place as before, and the data
is used up or the block is empty. -/
theorem fillBlock_spec (stream : Sha256Stream) (data : List Byte) :
    let filled := fillBlock stream data
    absorb 64 processBlock stream.state (stream.block.take stream.buffered ++ data) =
        absorb 64 processBlock filled.state (filled.block.take filled.buffered ++ filled.data) ∧
      leftover 64 (stream.block.take stream.buffered ++ data) =
        leftover 64 (filled.block.take filled.buffered ++ filled.data) ∧
      (filled.buffered = 0 ∨ filled.data = []) := by
  have hlength := stream.length_block
  have hbuffered := stream.buffered_lt
  unfold fillBlock
  by_cases hempty : stream.buffered ≠ 0
  · rw [if_pos hempty]
    dsimp only
    generalize hcopied : min data.length (64 - stream.buffered) = copied
    have hcount : (data.take copied).length = copied := by
      rw [List.length_take]
      omega
    have htake : (overwrite stream.block stream.buffered (data.take copied)).take
        (stream.buffered + copied) = stream.block.take stream.buffered ++ data.take copied := by
      have := @take_overwrite stream.block (data.take copied) stream.buffered (by omega)
      rwa [hcount] at this
    by_cases hfull : stream.buffered + copied = 64
    · -- a full block is processed
      rw [if_pos hfull]
      have hwhole : (overwrite stream.block stream.buffered (data.take copied)).length = 64 := by
        rw [length_overwrite (by omega), hlength]
      rw [hfull, List.take_of_length_le (by omega)] at htake
      have hsplit : stream.block.take stream.buffered ++ data =
          overwrite stream.block stream.buffered (data.take copied) ++ data.drop copied := by
        rw [htake, List.append_assoc, List.take_append_drop]
      rw [hsplit]
      exact ⟨absorb_append_block (by decide) hwhole _,
        leftover_append_block (by decide) hwhole _, .inl rfl⟩
    · -- the data ended before the block was full
      rw [if_neg hfull]
      have hall : data.take copied = data := List.take_of_length_le (by omega)
      have hnone : data.drop copied = [] := List.drop_of_length_le (by omega)
      dsimp only
      rw [htake, hall, hnone, List.append_nil]
      exact ⟨rfl, rfl, .inr rfl⟩
  · rw [if_neg hempty]
    rw [not_not.1 hempty]
    exact ⟨rfl, rfl, .inl rfl⟩

/-- The stream after a piece: the whole blocks are taken, what they leave over is kept. -/
theorem sha256Update_spec {stream' : Sha256Stream} {data : List Byte}
    (h : sha256Update stream data = some stream') :
    stream'.state = absorb 64 processBlock stream.state
        (stream.block.take stream.buffered ++ data) ∧
      stream'.block.take stream'.buffered =
        leftover 64 (stream.block.take stream.buffered ++ data) ∧
      stream'.totalBytes = stream.totalBytes + data.length := by
  obtain ⟨hstate, hrest, hcases⟩ := fillBlock_spec stream data
  obtain ⟨hblock, hbuffered⟩ := length_fillBlock stream data
  rw [sha256Update] at h
  split at h
  · cases h
  obtain rfl := Option.some.inj h
  rw [hstate, hrest]
  dsimp only
  rw [processWhole_eq _ _ _ (Nat.le_refl _)]
  clear h
  generalize fillBlock stream data = filled at *
  refine ⟨?_, ?_, rfl⟩
  · rcases hcases with hempty | hnone
    · rw [hempty, List.take_zero, List.nil_append]
    · rw [hnone, List.append_nil, absorb_of_lt (by decide), absorb_of_lt]
      rw [List.length_take]
      omega
  · rw [keepRest]
    split
    · -- there is data left over, so the block was empty
      rename_i hne
      have hempty : filled.buffered = 0 := by
        refine hcases.resolve_right fun hnone => hne ?_
        rw [hnone]
        rfl
      rw [hempty, List.take_zero, List.nil_append]
      simpa using @take_overwrite filled.block (leftover 64 filled.data) 0 (Nat.zero_le _)
    · rename_i hne
      rw [not_not] at hne
      rcases hcases with hempty | hnone
      · rw [hempty, List.take_zero, List.nil_append]
        exact hne.symm
      · rw [hnone, List.append_nil, leftover_of_lt]
        rw [List.length_take]
        omega

/-- Every piece keeps the invariant, as long as the bytes can be counted. -/
theorem Holds.update (h : Holds stream message) (data : List Byte)
    (hsize : (message ++ data).length < 2 ^ 64) :
    ∃ stream', sha256Update stream data = some stream' ∧ Holds stream' (message ++ data) := by
  have hroom : ¬2 ^ 64 - 1 - stream.totalBytes < data.length := by
    rw [h.total]
    rw [List.length_append] at hsize
    omega
  obtain ⟨stream', hupdate⟩ : ∃ stream', sha256Update stream data = some stream' := by
    rw [sha256Update, if_neg hroom]
    exact ⟨_, rfl⟩
  obtain ⟨hstate, hrest, htotal⟩ := sha256Update_spec hupdate
  refine ⟨stream', hupdate, ?_, ?_, ?_⟩
  · rw [hstate, h.rest, h.state, ← absorb_append (by decide)]
  · rw [hrest, h.rest, ← leftover_append (by decide)]
  · rw [htotal, h.total, List.length_append]

theorem Holds.updates (h : Holds stream message) (chunks : List (List Byte))
    (hsize : (message ++ chunks.flatten).length < 2 ^ 64) :
    ∃ stream', sha256Updates stream chunks = some stream' ∧
      Holds stream' (message ++ chunks.flatten) := by
  induction chunks generalizing stream message with
  | nil => exact ⟨stream, rfl, by simpa using h⟩
  | cons chunk chunks ih =>
    rw [List.flatten_cons, ← List.append_assoc] at hsize ⊢
    have hfirst : (message ++ chunk).length < 2 ^ 64 := by
      rw [List.length_append] at hsize
      omega
    obtain ⟨next, hupdate, hnext⟩ := h.update chunk hfirst
    obtain ⟨stream', hupdates, hholds⟩ := ih hnext hsize
    exact ⟨stream', by rw [sha256Updates, hupdate, Option.bind_some, hupdates], hholds⟩

/-! ## The end of a message -/

theorem Holds.buffered (h : Holds stream message) : stream.buffered = message.length % 64 := by
  have hlength := congrArg List.length h.rest
  rw [List.length_take, stream.length_block, Nat.min_eq_left stream.buffered_lt.le, leftover,
    List.length_drop] at hlength
  rw [hlength, ← Nat.mod_add_div message.length 64]
  omega

/-- The loop writes the length into the last eight bytes. -/
theorem writeLength_append {front : List Byte} (hfront : front.length = 56) (bitCount : ℕ) :
    writeLength bitCount (front ++ List.replicate 8 0) = front ++ lengthBytes bitCount := by
  simp only [writeLength, List.range_eq_range', List.range', List.foldl_cons, List.foldl_nil]
  simp [List.set_append_right, hfront, lengthBytes, List.replicate]

/-- The block of the end, from the leftover bytes, the marker and zeros. -/
theorem zeroFrom_overwrite {buffered : ℕ} (hblock : block.length = 64) (hbuffered : buffered < 64)
    (marker : Byte) : zeroFrom (overwrite block buffered [marker]) (buffered + 1) =
      block.take buffered ++ marker :: List.replicate (63 - buffered) 0 := by
  have htake := @take_overwrite block [marker] buffered (by omega)
  rw [List.length_singleton] at htake
  rw [zeroFrom, htake, List.append_assoc, show 64 - (buffered + 1) = 63 - buffered by omega]
  rfl

/-- The last block when there is room for the length. -/
theorem lastBlock {rest : List Byte} (hrest : rest.length < 56) (bitCount : ℕ) :
    writeLength bitCount (rest ++ 0x80 :: List.replicate (63 - rest.length) 0) =
      rest ++ 0x80 :: (List.replicate (55 - rest.length) 0 ++ lengthBytes bitCount) := by
  have hzeros : List.replicate (63 - rest.length) (0 : Byte) =
      List.replicate (55 - rest.length) 0 ++ List.replicate 8 0 := by
    rw [← List.replicate_add]
    congr 1
    omega
  have hfront : (rest ++ 0x80 :: List.replicate (55 - rest.length) (0 : Byte)).length = 56 := by
    simp only [List.length_append, List.length_cons, List.length_replicate]
    omega
  have hwritten := writeLength_append hfront bitCount
  rw [hzeros]
  simpa using hwritten

/-- The last block after one that had no room. -/
theorem lengthBlock (bitCount : ℕ) : writeLength bitCount (List.replicate 64 0) =
      List.replicate 56 0 ++ lengthBytes bitCount :=
  @writeLength_append (List.replicate 56 0) (by decide) bitCount

/-- The state at the end, with one more block or two. -/
def endState (state : Words) (block : List Byte) (buffered bitCount : ℕ) : Words :=
  let marked := overwrite block buffered [0x80]
  if 56 < buffered + 1 then
    processBlock (processBlock state (zeroFrom marked (buffered + 1)))
      (writeLength bitCount (zeroFrom marked 0))
  else processBlock state (writeLength bitCount (zeroFrom marked (buffered + 1)))

theorem Holds.endState_eq (h : Holds stream message) :
    endState stream.state stream.block stream.buffered (8 * message.length) =
      absorb 64 processBlock initialHash (message ++ paddingBytes message.length) := by
  have hbuffered := h.buffered
  have hlt := stream.buffered_lt
  have hblock := stream.length_block
  have hlength : (stream.block.take stream.buffered).length = stream.buffered := by
    rw [List.length_take]
    omega
  rw [absorb_append (by decide), ← h.rest, ← h.state, endState,
    zeroFrom_overwrite hblock hlt, paddingBytes]
  generalize stream.block.take stream.buffered = rest at *
  by_cases hroom : 56 < stream.buffered + 1
  · rw [if_pos hroom]
    have hzeros : zeroBytes message.length = (63 - stream.buffered) + 56 := by
      rw [zeroBytes]
      omega
    have hfirst : (rest ++ 0x80 :: List.replicate (63 - stream.buffered) (0 : Byte)).length =
        64 := by
      simp only [List.length_append, List.length_cons, List.length_replicate]
      omega
    have hsplit : rest ++ 0x80 :: (List.replicate (zeroBytes message.length) 0 ++
        lengthBytes (8 * message.length)) =
        (rest ++ 0x80 :: List.replicate (63 - stream.buffered) 0) ++
          (List.replicate 56 0 ++ lengthBytes (8 * message.length)) := by
      rw [hzeros, List.replicate_add]
      simp
    rw [hsplit, absorb_append_block (by decide) hfirst, absorb_block (by decide) (by rfl)]
    rw [show zeroFrom (overwrite stream.block stream.buffered [0x80]) 0 = List.replicate 64 0
      from rfl, lengthBlock]
  · rw [if_neg hroom]
    have hzeros : zeroBytes message.length = 55 - rest.length := by
      rw [zeroBytes]
      omega
    rw [hzeros, ← hlength, lastBlock (by omega), absorb_block (by decide)]
    simp only [List.length_append, List.length_cons, List.length_replicate]
    show rest.length + (55 - rest.length + 8 + 1) = 64
    omega

/-! ## The hash value -/

/-- The hash value of the standard is that of the blocks of bytes. -/
theorem hash_bytes (message : List Byte) : Fips180.hash (message.flatMap byteBits) =
      absorb 64 processBlock initialHash (message ++ paddingBytes message.length) := by
  rw [Fips180.hash, pad_bytes, absorb, show 512 = 8 * 64 from rfl,
    blocks_flatMap (by decide) (by decide) length_byteBits, List.foldl_map]
  refine List.foldl_ext _ _ _ fun state block hblock => ?_
  exact (processBlock_eq (length_of_mem_blocks (by decide) hblock) state).symm

/-! ## Hexadecimal digits -/

theorem hexDigits_add (j k : ℕ) {a b : ℕ} (hb : b < 16 ^ k) :
    hexDigits (j + k) (a * 16 ^ k + b) = hexDigits j a ++ hexDigits k b := by
  induction k generalizing b with
  | zero =>
    obtain rfl : b = 0 := by simpa using hb
    simp [hexDigits]
  | succ k ih =>
    rw [Nat.pow_succ] at hb
    have hdiv : (a * 16 ^ (k + 1) + b) / 16 = a * 16 ^ k + b / 16 := by
      rw [Nat.pow_succ, ← Nat.mul_assoc]
      omega
    have hmod : (a * 16 ^ (k + 1) + b) % 16 = b % 16 := by
      rw [Nat.pow_succ, ← Nat.mul_assoc]
      omega
    rw [← Nat.add_assoc, hexDigits, hdiv, hmod, ih (by omega), List.append_assoc, hexDigits]

theorem leftpad_toDigits (k : ℕ) {n : ℕ} (hn : n < 16 ^ (k + 1)) :
    (Nat.toDigits 16 n).leftpad (k + 1) '0' = hexDigits (k + 1) n := by
  induction k generalizing n with
  | zero =>
    have hlt : n < 16 := by simpa using hn
    rw [Nat.toDigits_of_lt_base hlt, hexDigits, Nat.mod_eq_of_lt hlt]
    rfl
  | succ k ih =>
    rw [Nat.pow_succ] at hn
    have hleft := @ih (n / 16) (by omega)
    rw [hexDigits, ← hleft]
    by_cases hsmall : n < 16
    · rw [Nat.toDigits_of_lt_base hsmall, Nat.div_eq_of_lt hsmall, Nat.mod_eq_of_lt hsmall]
      show List.replicate (k + 1) '0' ++ [_] = List.replicate k '0' ++ ['0'] ++ [_]
      rw [← List.replicate_succ']
    · rw [Nat.toDigits_of_base_le (by decide) (by omega)]
      simp only [List.leftpad, List.length_append, List.length_singleton,
        Nat.add_sub_add_right, List.append_assoc]

theorem hexWord_eq (word : Word) : hexWord word = hexDigits 8 word.toNat :=
  leftpad_toDigits 7 word.isLt

/-- A word after other bits, in digits. -/
theorem hexDigits_append_word {w : ℕ} (j : ℕ) (x : BitVec w) (word : Word) :
    hexDigits (j + 8) (x ++ word).toNat = hexDigits j x.toNat ++ hexWord word := by
  have hlt : word.toNat < 2 ^ 32 := word.isLt
  rw [BitVec.toNat_append, ← Nat.shiftLeft_add_eq_or_of_lt hlt, Nat.shiftLeft_eq, hexWord_eq,
    show 2 ^ 32 = 16 ^ 8 by decide, hexDigits_add j 8 (by omega)]

/-- The digits of the digest are those of its words. -/
theorem hexWords_eq (v : Words) :
    hexDigits 64 (v.a ++ v.b ++ v.c ++ v.d ++ v.e ++ v.f ++ v.g ++ v.h).toNat =
      hexWord v.a ++ hexWord v.b ++ hexWord v.c ++ hexWord v.d ++ hexWord v.e ++ hexWord v.f ++
        hexWord v.g ++ hexWord v.h := by
  rw [hexWord_eq v.a]
  simp only [← hexDigits_append_word]

/-! ## The digest -/

/-- The end of a stream, as long as the bits can be counted. -/
theorem Holds.finish (h : Holds stream message) (hsize : message.length < 2 ^ 61) :
    sha256Finish stream = some (sha256 message) := by
  have hbits : stream.totalBytes * 8 % 2 ^ 64 = 8 * message.length := by
    rw [h.total]
    omega
  have hend : sha256Finish stream =
      let v := endState stream.state stream.block stream.buffered (8 * message.length)
      some (hexWord v.a ++ hexWord v.b ++ hexWord v.c ++ hexWord v.d ++ hexWord v.e ++
        hexWord v.f ++ hexWord v.g ++ hexWord v.h) := by
    rw [sha256Finish, if_neg (by rw [h.total]; omega), hbits, endState]
    by_cases hroom : 56 < stream.buffered + 1
    · simp only [if_pos hroom]
    · simp only [if_neg hroom]
  rw [hend, h.endState_eq, ← hash_bytes, sha256, digest, hexWords_eq]

/-- `sha256_text` answers for a text whose bits can be counted, with its digest. -/
theorem sha256Text_eq_ite (bytes : List Byte) :
    sha256Text bytes = if bytes.length < 2 ^ 61 then some (sha256 bytes) else none := by
  rw [sha256Text]
  by_cases hroom : bytes.length < 2 ^ 64
  · obtain ⟨stream, hupdate, hholds⟩ := holds_init.update bytes (by rwa [List.nil_append])
    rw [List.nil_append] at hholds
    rw [hupdate, Option.bind_some]
    split
    case isTrue hsize => exact hholds.finish hsize
    case isFalse hsize => rw [sha256Finish, if_pos (by rw [hholds.total]; omega)]
  · have htotal : ({} : Sha256Stream).totalBytes = 0 := rfl
    rw [sha256Update, if_pos (by omega), if_neg (by omega), Option.bind_none]

theorem sha256Text_eq {bytes : List Byte} {digest : List Char}
    (h : sha256Text bytes = some digest) : digest = sha256 bytes := by
  rw [sha256Text_eq_ite, Option.ite_none_right_eq_some] at h
  exact (Option.some.inj h.2).symm

/-- **The streaming hash is SHA-256**: for every message below 2^61 bytes and every way to cut it
into pieces, all updates succeed and the digest is that of the whole message. -/
theorem sha256_of_chunks (chunks : List (List Byte)) (hsize : chunks.flatten.length < 2 ^ 61) :
    (sha256Updates {} chunks).bind sha256Finish = some (sha256 chunks.flatten) := by
  obtain ⟨stream, hupdates, hholds⟩ :=
    holds_init.updates chunks (by rw [List.nil_append]; omega)
  rw [hupdates, Option.bind_some, hholds.finish (by rwa [List.nil_append])]
  rfl

/-- The example of the standard, in three pieces. -/
theorem sha256_of_chunks_on_abc :
    (sha256Updates {} [[0x61], [], [0x62, 0x63]]).bind sha256Finish =
      some (sha256 [0x61, 0x62, 0x63]) :=
  sha256_of_chunks [[0x61], [], [0x62, 0x63]] (by decide)

example : (sha256Updates {} [[0x61], [], [0x62, 0x63]]).bind sha256Finish =
    some "ba7816bf8f01cfea414140de5dae2223b00361a396177a9cb410ff61f20015ad".toList := by
  decide +kernel

end PrismInfer.Benchmark
