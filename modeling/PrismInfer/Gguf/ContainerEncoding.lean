import Mathlib.Data.Nat.Bitwise
import PrismInfer.Gguf.Container

/-!
# Encoded containers

The standard encoding of a GGUF header, and what `scan_container` makes of it: it answers
the header (`scan_encoded`), it reads nothing outside of the file, and it raises a
`ValueError` for every file that ends before the data.

Every part of the scanner decodes the encoding of its part of the header, from the reads
up to the whole; a cut anywhere makes the part that it falls into fail (`Decodes`).
-/

namespace PrismInfer.Gguf

open PrismInfer.Lib

/-! ## Headers -/

/-- The types of scalar values. -/
inductive ScalarKind
  | uint8 | int8 | uint16 | int16 | uint32 | int32 | float32 | bool | uint64 | int64 | float64

/-- The number of the type. -/
def ScalarKind.id : ScalarKind → ℕ
  | uint8 => 0 | int8 => 1 | uint16 => 2 | int16 => 3 | uint32 => 4 | int32 => 5 | float32 => 6
  | bool => 7 | uint64 => 10 | int64 => 11 | float64 => 12

/-- The number of bytes of a value. -/
def ScalarKind.size : ScalarKind → ℕ
  | uint8 | int8 | bool => 1
  | uint16 | int16 => 2
  | uint32 | int32 | float32 => 4
  | uint64 | int64 | float64 => 8

/-- A value of the metadata. A scalar is given by its bits. -/
inductive Value
  | scalar (kind : ScalarKind) (bits : BitVec (8 * kind.size))
  | string (s : Text)
  | scalarArray (kind : ScalarKind) (elements : List (BitVec (8 * kind.size)))
  | stringArray (elements : List Text)

/-- A key of the metadata and its value. -/
structure Entry where
  key : Text
  value : Value

/-- What the header of a file says. -/
structure Header where
  version : ℕ
  metadata : List Entry
  tensors : List TensorHeader

/-! ## The encoding -/

/-- A string is its length and its bytes. -/
def stringBytes (s : Text) : List Byte :=
  leBytes 8 (encodeUtf8 s).length ++ encodeUtf8 s

/-- The number of the type, as it stands before the value. -/
def Value.typeId : Value → ℕ
  | scalar kind _ => kind.id
  | string _ => 8
  | scalarArray _ _ => 9
  | stringArray _ => 9

def scalarBytes (kind : ScalarKind) (bits : BitVec (8 * kind.size)) : List Byte :=
  leBytes kind.size bits.toNat

def Value.bytes : Value → List Byte
  | scalar kind bits => scalarBytes kind bits
  | string s => stringBytes s
  | scalarArray kind elements =>
    leBytes 4 kind.id ++ (leBytes 8 elements.length ++ elements.flatMap (scalarBytes kind))
  | stringArray elements =>
    leBytes 4 8 ++ (leBytes 8 elements.length ++ elements.flatMap stringBytes)

/-- The key, the type and the value. -/
def Entry.bytes (e : Entry) : List Byte :=
  stringBytes e.key ++ (leBytes 4 e.value.typeId ++ e.value.bytes)

/-- The name, the rank, the shape, the type and the offset in the data. -/
def TensorHeader.bytes (t : TensorHeader) : List Byte :=
  stringBytes t.name ++ (leBytes 4 t.shape.length ++ (t.shape.flatMap (leBytes 8) ++
    (leBytes 4 t.typeId ++ leBytes 8 t.relativeOffset)))

namespace Header

variable (h : Header)

/-- The alignment: the value under its key, or 32. -/
def alignment : ℕ :=
  match (h.metadata.find? fun e => e.key = text "general.alignment").map Entry.value with
  | some (.scalar .uint32 bits) => bits.toNat
  | _ => 32

/-- The magic number, the version and the two counts. -/
def preamble : List Byte :=
  [0x47, 0x47, 0x55, 0x46] ++ (leBytes 4 h.version ++
    (leBytes 8 h.tensors.length ++ leBytes 8 h.metadata.length))

/-- The encoding up to the data. -/
def encode : List Byte :=
  h.preamble ++ (h.metadata.flatMap Entry.bytes ++ h.tensors.flatMap TensorHeader.bytes)

/-- The offset of the data: the first multiple of the alignment behind the header. -/
def dataOffset : ℕ :=
  (h.encode.length + h.alignment - 1) / h.alignment * h.alignment

/-- The encoding with its padding. -/
def encodePadded : List Byte :=
  h.encode ++ List.replicate (h.dataOffset - h.encode.length) 0

end Header

/-! ## The limits of the scanner -/

/-- A text that has an encoding of at most so many bytes. -/
structure TextWithin (maximum : ℕ) (s : Text) : Prop where
  scalar : ∀ c ∈ s, CodePoint.IsScalar c
  length : (encodeUtf8 s).length ≤ maximum

/-- What `skip_value` accepts. -/
def Value.WithinLimits : Value → Prop
  | scalar _ _ => True
  | string s => TextWithin maxStringBytes s
  | scalarArray _ elements => elements.length ≤ maxArrayElements
  | stringArray elements =>
    elements.length ≤ maxArrayElements ∧ ∀ s ∈ elements, TextWithin maxStringBytes s

/-- The limits of an entry. An alignment is a power of two up to 65536, in 32 bits. -/
structure Entry.WithinLimits (e : Entry) : Prop where
  key : TextWithin 1024 e.key
  value : e.value.WithinLimits
  alignment : e.key = text "general.alignment" →
    ∃ k ≤ 16, e.value = .scalar .uint32 (BitVec.ofNat _ (2 ^ k))

/-- What `scan_container` accepts of a tensor. -/
structure TensorHeader.WithinLimits (t : TensorHeader) : Prop where
  name : TextWithin 4096 t.name
  rank : 1 ≤ t.shape.length ∧ t.shape.length ≤ maxRank
  shape : ∀ dimension ∈ t.shape, 0 < dimension ∧ dimension < 2 ^ 64
  typeId : t.typeId < 40
  relativeOffset : t.relativeOffset < 2 ^ 64

/-- What `scan_container` accepts: the versions, the counts, the keys and the sizes. -/
structure Header.WithinLimits (h : Header) : Prop where
  version : h.version = 2 ∨ h.version = 3
  tensors_pos : 1 ≤ h.tensors.length
  tensors_le : h.tensors.length ≤ maxTensors
  metadata_le : h.metadata.length ≤ maxTensors
  keys : (h.metadata.map Entry.key).Nodup
  names : (h.tensors.map TensorHeader.name).Nodup
  entry : ∀ e ∈ h.metadata, e.WithinLimits
  tensor : ∀ t ∈ h.tensors, t.WithinLimits
  metadata_bytes : (h.metadata.flatMap Entry.bytes).length ≤ maxMetadataBytes
  tensor_bytes : (h.tensors.flatMap TensorHeader.bytes).length ≤ maxTensorInfoBytes

/-! ## Reads -/

section Reads

theorem returns_raiseIf {condition : Bool} {message : String} (h : condition = false) :
    Returns (raiseIf condition message) () := by
  rw [raiseIf, h]
  exact Returns.pure ()

theorem fails_raiseIf {condition : Bool} {message : String} (h : condition = true) :
    Fails IsValueError (raiseIf condition message) := by
  rw [raiseIf, h]
  exact Fails.throw ⟨message, rfl⟩

theorem returns_seekRead (handle : List Byte) (offset length : ℕ) :
    Returns (seekRead handle offset length) ((handle.drop offset).take length) :=
  fun _ => rfl

variable {start : ℕ}

/-- A read takes the bytes that stand there, and a cut leaves it too little room. -/
theorem decodes_readExact {bytes : List Byte} {length : ℕ} (hlength : bytes.length = length) :
    Decodes IsValueError (fun file => readExact file start length file.length) start
      bytes (bytes, start + length) where
  returns before after hbefore := by
    -- `readExact` checks the room, seeks, reads and checks what it got
    have hdrop : (before ++ (bytes ++ after)).drop start = bytes ++ after := by
      rw [← hbefore, List.drop_left]
    have htake : (bytes ++ after).take length = bytes := by
      rw [← hlength, List.take_left]
    unfold readExact
    refine (returns_raiseIf ?_).bind ((returns_seekRead _ _ _).bind ((returns_raiseIf ?_).bind ?_))
    · simp only [List.length_append, hbefore, hlength]
      simp
    · rw [hdrop, htake]
      simp [hlength]
    · rw [hdrop, htake]
      exact Returns.pure _
  fails before part hbefore hpart hne := by
    have hshort : part.length < length := by
      rw [← hlength]
      exact lt_of_le_of_ne hpart.length_le fun heq => hne (hpart.eq_of_length heq)
    refine (fails_raiseIf ?_).bind
    simp only [List.length_append, hbefore]
    simp
    omega

theorem decodes_readU32 {value : ℕ} (h : value < 2 ^ 32) :
    Decodes IsValueError (fun file => readU32 file start file.length) start
      (leBytes 4 value) (value, start + 4) := by
  refine (decodes_readExact (length_leBytes 4 value)).then fun file => ?_
  dsimp only
  rw [leValue_leBytes (by omega)]
  exact Returns.pure _

theorem decodes_readU64 {value : ℕ} (h : value < 2 ^ 64) :
    Decodes IsValueError (fun file => readU64 file start file.length) start
      (leBytes 8 value) (value, start + 8) := by
  refine (decodes_readExact (length_leBytes 8 value)).then fun file => ?_
  dsimp only
  rw [leValue_leBytes (by omega)]
  exact Returns.pure _

theorem length_stringBytes (s : Text) : (stringBytes s).length = 8 + (encodeUtf8 s).length := by
  rw [stringBytes, List.length_append, length_leBytes]

/-- A text comes back from its bytes. -/
theorem decodes_readString {maximum : ℕ} {s : Text} (h : TextWithin maximum s)
    (hmaximum : maximum < 2 ^ 64) :
    Decodes IsValueError (fun file => readString file start file.length maximum) start
      (stringBytes s) (s, start + (stringBytes s).length) := by
  have hlength := h.length
  rw [length_stringBytes, ← add_assoc]
  refine (decodes_readU64 (by omega)).bind ?_
  rw [length_leBytes]
  dsimp only
  refine Decodes.after (returns_raiseIf (by simpa using hlength)) ?_
  refine (decodes_readExact rfl).then fun file => ?_
  dsimp only
  rw [decodeUtf8_encodeUtf8 h.scalar]
  exact Returns.pure _

end Reads

/-! ## Metadata -/

section Metadata

variable {start limit : ℕ}

/-- The strings of an array one after the other. -/
theorem decodes_skipStrings {elements : List Text} (h : ∀ s ∈ elements, TextWithin maxStringBytes s)
    (hlimit : start + (elements.flatMap stringBytes).length ≤ limit) :
    Decodes IsValueError (fun file => skipStrings file file.length limit elements.length start)
      start (elements.flatMap stringBytes) (start + (elements.flatMap stringBytes).length) := by
  induction elements generalizing start with
  | nil => exact Decodes.of_returns fun file => Returns.pure _
  | cons s elements ih =>
    rw [List.flatMap_cons, List.length_append] at hlimit
    rw [List.flatMap_cons, List.length_append, ← add_assoc]
    refine (decodes_readString (h s List.mem_cons_self) (by decide)).bind ?_
    dsimp only
    refine Decodes.after (returns_raiseIf (by simp; omega)) ?_
    exact ih (fun s' hs' => h s' (List.mem_cons_of_mem s hs')) (by omega)

variable (kind : ScalarKind)

/-- The table of the scanner has the size of every scalar. -/
theorem lookup_scalarSizes : scalarSizes.lookup kind.id = some kind.size := by
  cases kind <;> rfl

theorem ScalarKind.id_lt : kind.id < 2 ^ 32 := by
  cases kind <;> decide

theorem length_scalarArray (elements : List (BitVec (8 * kind.size))) :
    (elements.flatMap (scalarBytes kind)).length = elements.length * kind.size := by
  induction elements with
  | nil => simp
  | cons bits elements ih =>
    rw [List.flatMap_cons, List.length_append, ih, scalarBytes, length_leBytes, List.length_cons]
    ring

/-- Strings of at least eight bytes each. -/
theorem length_strings (elements : List Text) :
    elements.length * 8 ≤ (elements.flatMap stringBytes).length := by
  induction elements with
  | nil => simp
  | cons s elements ih =>
    rw [List.flatMap_cons, List.length_append, List.length_cons, length_stringBytes]
    omega

/-- An array is its header and its elements. -/
theorem decodes_skipArray {elementType count : ℕ} {body : List Byte} (htype : elementType < 2 ^ 32)
    (hcount : count ≤ maxArrayElements)
    (hbody : Decodes IsValueError (fun file =>
      skipElements file file.length limit elementType count (start + 4 + 8)) (start + 4 + 8)
      body (start + 4 + 8 + body.length)) :
    Decodes IsValueError (fun file => skipArray file start file.length limit) start
      (leBytes 4 elementType ++ (leBytes 8 count ++ body)) (start + 4 + 8 + body.length) := by
  have hmax : maxArrayElements < 2 ^ 64 := by decide
  refine (decodes_readU32 htype).bind ?_
  rw [length_leBytes]
  refine (decodes_readU64 (by omega)).bind ?_
  rw [length_leBytes]
  exact Decodes.after (returns_raiseIf (by simpa using hcount)) hbody

/-- A value is passed over, whatever its type. -/
theorem decodes_skipValue {value : Value} (h : value.WithinLimits)
    (hlimit : start + value.bytes.length ≤ limit) :
    Decodes IsValueError (fun file => skipValue file start file.length value.typeId limit 0)
      start value.bytes (start + value.bytes.length) := by
  -- the depth is zero, so that the first check passes
  refine Decodes.after (returns_raiseIf rfl) ?_
  dsimp only
  cases value with
  | scalar kind bits =>
    have hlength : (scalarBytes kind bits).length = kind.size := length_leBytes _ _
    rw [Value.bytes, hlength] at hlimit ⊢
    rw [Value.typeId, lookup_scalarSizes]
    refine (decodes_readExact hlength).then fun file => ?_
    exact (returns_raiseIf (by simp; omega)).bind (Returns.pure _)
  | string s =>
    rw [Value.bytes] at hlimit ⊢
    refine (decodes_readString h (by decide)).then fun file => ?_
    exact (returns_raiseIf (by simp; omega)).bind (Returns.pure _)
  | scalarArray kind elements =>
    have hlength := length_scalarArray kind elements
    rw [Value.bytes, List.length_append, List.length_append, length_leBytes, length_leBytes,
      ← add_assoc, ← add_assoc] at hlimit ⊢
    refine Decodes.after (returns_raiseIf rfl) (decodes_skipArray kind.id_lt h ?_)
    unfold skipElements
    rw [lookup_scalarSizes]
    refine (decodes_readExact hlength).then fun file => ?_
    rw [hlength] at hlimit ⊢
    exact (returns_raiseIf (by simp; omega)).bind (Returns.pure _)
  | stringArray elements =>
    obtain ⟨hcount, htexts⟩ := h
    have hlength := length_strings elements
    rw [Value.bytes, List.length_append, List.length_append, length_leBytes, length_leBytes,
      ← add_assoc, ← add_assoc] at hlimit ⊢
    refine Decodes.after (returns_raiseIf rfl) (decodes_skipArray (by decide) hcount ?_)
    refine Decodes.after (returns_raiseIf rfl) ?_
    refine Decodes.after (returns_raiseIf (by simp; omega)) ?_
    exact decodes_skipStrings htexts hlimit

/-- The alignment that is known behind an entry. -/
def Entry.alignment (e : Entry) (alignment : ℕ) : ℕ :=
  match e.value with
  | .scalar .uint32 bits => if e.key = text "general.alignment" then bits.toNat else alignment
  | _ => alignment

/-- Only the entry under its key sets the alignment. -/
theorem Entry.alignment_of_ne {e : Entry} (h : e.key ≠ text "general.alignment") (alignment : ℕ) :
    e.alignment alignment = alignment := by
  unfold Entry.alignment
  split
  · rw [if_neg h]
  · rfl

/-- The value of the alignment is read, and any other is passed over. -/
theorem decodes_scanValue {e : Entry} (h : e.WithinLimits) (alignment : ℕ)
    (hlimit : start + e.value.bytes.length ≤ limit) : Decodes IsValueError (fun file =>
      scanValue file file.length limit e.key e.value.typeId alignment start) start e.value.bytes
      (e.alignment alignment, start + e.value.bytes.length) := by
  unfold scanValue
  by_cases hkey : e.key = text "general.alignment"
  · obtain ⟨k, hk, hvalue⟩ := h.alignment hkey
    have hbits : (BitVec.ofNat (8 * ScalarKind.uint32.size) (2 ^ k)).toNat < 2 ^ 32 :=
      (BitVec.ofNat _ _).isLt
    rw [Entry.alignment, hvalue]
    simp only [if_pos hkey]
    exact Decodes.after (returns_raiseIf rfl) (decodes_readU32 hbits)
  · rw [Entry.alignment_of_ne hkey]
    simp only [if_neg hkey]
    exact (decodes_skipValue h.value hlimit).then fun file => Returns.pure _

theorem Value.typeId_lt (value : Value) : value.typeId < 2 ^ 32 := by
  have harray : 9 < 2 ^ 32 := by decide
  cases value with
  | scalar kind bits => exact kind.id_lt
  | string s => exact lt_trans (by decide : 8 < 9) harray
  | scalarArray | stringArray => exact harray

/-- The entries one after the other. The keys that were there before are not among theirs. -/
theorem decodes_scanMetadata {entries : List Entry} (h : ∀ e ∈ entries, e.WithinLimits)
    {keys : List Text} (hkeys : (keys ++ entries.map Entry.key).Nodup) {alignment : ℕ}
    (hlimit : start + (entries.flatMap Entry.bytes).length ≤ limit) :
    Decodes IsValueError (fun file =>
      scanMetadata file file.length limit entries.length keys alignment start) start
      (entries.flatMap Entry.bytes)
      (entries.foldl (fun alignment e => e.alignment alignment) alignment,
        start + (entries.flatMap Entry.bytes).length) := by
  induction entries generalizing start keys alignment with
  | nil => exact Decodes.of_returns fun file => Returns.pure _
  | cons e entries ih =>
    have he := h e List.mem_cons_self
    have hnew : e.key ∉ keys := by
      intro hmem
      exact (List.nodup_append.1 hkeys).2.2 _ hmem _ List.mem_cons_self rfl
    have hlength : (Entry.bytes e).length =
        (stringBytes e.key).length + (4 + e.value.bytes.length) := by
      rw [Entry.bytes, List.length_append, List.length_append, length_leBytes]
    rw [List.flatMap_cons, List.length_append, hlength] at hlimit
    rw [List.flatMap_cons, List.length_append, hlength, Entry.bytes, List.append_assoc,
      List.append_assoc]
    refine (decodes_readString he.key (by decide)).bind ?_
    refine Decodes.after (returns_raiseIf (by simpa using hnew)) ?_
    refine (decodes_readU32 e.value.typeId_lt).bind ?_
    rw [length_leBytes]
    refine (decodes_scanValue he alignment (by omega)).bind ?_
    refine Decodes.after (returns_raiseIf (by simp; omega)) ?_
    -- the rest is scanned with this key among those seen
    have hrest := @ih (start + (stringBytes e.key).length + 4 + e.value.bytes.length)
      (fun e' he' => h e' (List.mem_cons_of_mem e he')) (e.key :: keys) ?_ (e.alignment alignment)
      (by omega)
    · rw [List.foldl_cons]
      convert hrest using 2
      omega
    · exact (List.perm_middle.nodup_iff).1 hkeys

end Metadata

/-! ## Tensors -/

section Tensors

variable {start tensorStart : ℕ}

/-- The dimensions are added to the shape so far. -/
theorem decodes_scanShape {dimensions : List ℕ} (h : ∀ dimension ∈ dimensions, dimension < 2 ^ 64)
    (shape : List ℕ) :
    Decodes IsValueError (fun file => scanShape file file.length dimensions.length shape start)
      start (dimensions.flatMap (leBytes 8))
      (shape ++ dimensions, start + (dimensions.flatMap (leBytes 8)).length) := by
  induction dimensions generalizing start shape with
  | nil =>
    rw [List.append_nil]
    exact Decodes.of_returns fun file => Returns.pure _
  | cons dimension dimensions ih =>
    rw [List.flatMap_cons, List.length_append, length_leBytes, ← add_assoc]
    refine (decodes_readU64 (h dimension List.mem_cons_self)).bind ?_
    rw [length_leBytes]
    have hrest := @ih (start + 8) (fun d hd => h d (List.mem_cons_of_mem dimension hd))
      (shape ++ [dimension])
    rw [List.append_assoc] at hrest
    exact hrest

/-- One tensor, with a new name. -/
theorem decodes_scanTensor {t : TensorHeader} (h : t.WithinLimits) {names : List Text}
    (hname : t.name ∉ names) (hlimit : start + t.bytes.length - tensorStart ≤ maxTensorInfoBytes) :
    Decodes IsValueError (fun file => scanTensor file file.length tensorStart names start) start
      t.bytes (t, start + t.bytes.length) := by
  have hlength : t.bytes.length =
      (stringBytes t.name).length + (4 + ((t.shape.flatMap (leBytes 8)).length + (4 + 8))) := by
    simp only [TensorHeader.bytes, List.length_append, length_leBytes]
  have hrank := h.rank
  have hmax : maxRank = 4 := rfl
  have htype := h.typeId
  rw [hlength] at hlimit ⊢
  rw [TensorHeader.bytes]
  refine (decodes_readString h.name (by decide)).bind ?_
  refine Decodes.after (returns_raiseIf (by simpa using hname)) ?_
  refine (decodes_readU32 (by omega)).bind ?_
  rw [length_leBytes]
  refine Decodes.after (returns_raiseIf (decide_eq_false (by omega))) ?_
  refine (decodes_scanShape (fun d hd => (h.shape d hd).2) []).bind ?_
  refine Decodes.after (returns_raiseIf ?_) ?_
  · rw [List.nil_append, List.any_eq_false]
    intro dimension hdimension
    have := (h.shape dimension hdimension).1
    simp
    omega
  refine (decodes_readU32 (by omega)).bind ?_
  rw [length_leBytes]
  refine Decodes.after (returns_raiseIf (decide_eq_false (by omega))) ?_
  refine (decodes_readU64 h.relativeOffset).then fun file => ?_
  refine (returns_raiseIf (decide_eq_false (by omega))).bind ?_
  rw [← add_assoc, ← add_assoc, ← add_assoc, ← add_assoc]
  exact Returns.pure _

/-- The tensors one after the other. -/
theorem decodes_scanTensors {tensors : List TensorHeader} (h : ∀ t ∈ tensors, t.WithinLimits)
    {names : List Text} (hnames : (names ++ tensors.map TensorHeader.name).Nodup)
    (hlimit : start + (tensors.flatMap TensorHeader.bytes).length - tensorStart ≤
      maxTensorInfoBytes)
    (headers : List TensorHeader) : Decodes IsValueError (fun file =>
      scanTensors file file.length tensorStart tensors.length names headers start) start
      (tensors.flatMap TensorHeader.bytes)
      (headers ++ tensors, start + (tensors.flatMap TensorHeader.bytes).length) := by
  induction tensors generalizing start names headers with
  | nil =>
    rw [List.append_nil]
    exact Decodes.of_returns fun file => Returns.pure _
  | cons t tensors ih =>
    have hnew : t.name ∉ names := by
      intro hmem
      exact (List.nodup_append.1 hnames).2.2 _ hmem _ List.mem_cons_self rfl
    rw [List.flatMap_cons, List.length_append] at hlimit
    rw [List.flatMap_cons, List.length_append, ← add_assoc]
    refine (decodes_scanTensor (h t List.mem_cons_self) hnew (by omega)).bind ?_
    have hrest := @ih (start + t.bytes.length) (fun t' ht' => h t' (List.mem_cons_of_mem t ht'))
      (t.name :: names) ((List.perm_middle.nodup_iff).1 hnames) (by omega) (headers ++ [t])
    rw [List.append_assoc] at hrest
    exact hrest

end Tensors

/-! ## The alignment -/

section Alignment

theorem foldl_alignment_of_notMem {entries : List Entry}
    (h : text "general.alignment" ∉ entries.map Entry.key) (alignment : ℕ) :
    entries.foldl (fun alignment e => e.alignment alignment) alignment = alignment := by
  induction entries with
  | nil => rfl
  | cons e entries ih =>
    rw [List.map_cons, List.mem_cons, not_or] at h
    rw [List.foldl_cons, Entry.alignment_of_ne (Ne.symm h.1)]
    exact ih h.2

/-- The last word of the metadata on the alignment is the only one. -/
theorem foldl_alignment {entries : List Entry} (h : ∀ e ∈ entries, e.WithinLimits)
    (hkeys : (entries.map Entry.key).Nodup) (alignment : ℕ) :
    entries.foldl (fun alignment e => e.alignment alignment) alignment =
      match (entries.find? fun e => e.key = text "general.alignment").map Entry.value with
      | some (.scalar .uint32 bits) => bits.toNat
      | _ => alignment := by
  induction entries with
  | nil => rfl
  | cons e entries ih =>
    rw [List.map_cons, List.nodup_cons] at hkeys
    by_cases hkey : e.key = text "general.alignment"
    · obtain ⟨k, -, hvalue⟩ := h e List.mem_cons_self |>.alignment hkey
      rw [List.foldl_cons, foldl_alignment_of_notMem (hkey ▸ hkeys.1),
        List.find?_cons_of_pos (by simpa using hkey), Option.map_some, Entry.alignment, hvalue]
      simp only [if_pos hkey]
    · rw [List.foldl_cons, Entry.alignment_of_ne hkey,
        List.find?_cons_of_neg (by simpa using hkey)]
      exact ih (fun e' he' => h e' (List.mem_cons_of_mem e he')) hkeys.2

/-- The alignment is a power of two. -/
theorem Header.WithinLimits.alignment {h : Header} (hlimits : h.WithinLimits) :
    ∃ k ≤ 16, h.alignment = 2 ^ k := by
  unfold Header.alignment
  cases hfind : h.metadata.find? fun e => e.key = text "general.alignment" with
  | none => exact ⟨5, by decide, rfl⟩
  | some e =>
    have hkey : e.key = text "general.alignment" := by simpa using List.find?_some hfind
    obtain ⟨k, hk, hvalue⟩ := (hlimits.entry e (List.mem_of_find?_eq_some hfind)).alignment hkey
    refine ⟨k, hk, ?_⟩
    rw [Option.map_some, hvalue]
    show (BitVec.ofNat (8 * 4) (2 ^ k)).toNat = 2 ^ k
    rw [BitVec.toNat_ofNat]
    exact Nat.mod_eq_of_lt (Nat.pow_lt_pow_right (by decide) (by omega))

/-- Clearing the low bits rounds down. -/
theorem ldiff_pred_two_pow (n k : ℕ) : Nat.ldiff n (2 ^ k - 1) = n / 2 ^ k * 2 ^ k := by
  refine Nat.eq_of_testBit_eq fun i => ?_
  rw [Nat.testBit_ldiff, Nat.testBit_two_pow_sub_one, Nat.testBit_mul_two_pow]
  by_cases hi : k ≤ i
  · rw [Nat.testBit_div_two_pow]
    simp [hi]
  · have hlow : i < k := by omega
    simp [hi, hlow]

end Alignment

/-! ## The container -/

theorem Header.length_preamble (h : Header) : h.preamble.length = 24 := by
  simp [Header.preamble]

/-- The three numbers of the preamble. -/
theorem returns_unpackPreamble {h : Header} (hlimits : h.WithinLimits) :
    Returns (unpackPreamble h.preamble) (h.version, h.tensors.length, h.metadata.length) := by
  have hversion := hlimits.version
  have htensors := hlimits.tensors_le
  have hmetadata := hlimits.metadata_le
  have hmax : maxTensors = 100000 := rfl
  have hfour : h.preamble.drop 4 = leBytes 4 h.version ++
      (leBytes 8 h.tensors.length ++ leBytes 8 h.metadata.length) := rfl
  have height : h.preamble.drop 8 = leBytes 8 h.tensors.length ++ leBytes 8 h.metadata.length := by
    rw [← List.drop_drop (i := 4) (j := 4), hfour]
    exact List.drop_left' (length_leBytes _ _)
  have hsixteen : h.preamble.drop 16 = leBytes 8 h.metadata.length := by
    rw [← List.drop_drop (i := 8) (j := 8), height]
    exact List.drop_left' (length_leBytes _ _)
  rw [unpackPreamble, if_neg (not_not.2 h.length_preamble), hfour, height, hsixteen,
    List.take_left' (length_leBytes _ _), List.take_left' (length_leBytes _ _),
    List.take_of_length_le (length_leBytes _ _).le, leValue_leBytes (by omega),
    leValue_leBytes (by omega), leValue_leBytes (by omega)]
  exact Returns.pure _

/-- The preamble passes all its checks. -/
theorem decodes_parsePreamble {h : Header} (hlimits : h.WithinLimits) :
    Decodes IsValueError (fun file => parsePreamble file file.length) 0 h.preamble
      (h.version, h.tensors.length, h.metadata.length) where
  returns before after hbefore := by
    obtain rfl := List.length_eq_zero_iff.1 hbefore
    have hlength := h.length_preamble
    have htensors := hlimits.tensors_le
    have htensors' := hlimits.tensors_pos
    have hmetadata := hlimits.metadata_le
    have hmax : maxTensors = 100000 := rfl
    have hversion := hlimits.version
    have hheader : (List.drop 0 ([] ++ (h.preamble ++ after))).take 24 = h.preamble := by
      rw [List.drop_zero, List.nil_append, ← hlength, List.take_left]
    unfold parsePreamble
    refine (returns_raiseIf (decide_eq_false ?_)).bind ((returns_seekRead _ _ _).bind ?_)
    · simp only [List.nil_append, List.length_append, hlength]
      omega
    rw [hheader]
    refine (returns_raiseIf (decide_eq_false (not_not.2 rfl))).bind ?_
    refine (returns_unpackPreamble hlimits).bind ?_
    refine (returns_raiseIf (decide_eq_false (by omega))).bind ?_
    refine (returns_raiseIf (decide_eq_false (by omega))).bind ?_
    exact (returns_raiseIf (decide_eq_false (by omega))).bind (Returns.pure _)
  fails before part hbefore hpart hne := by
    have hshort : part.length < 24 := by
      rw [← h.length_preamble]
      exact lt_of_le_of_ne hpart.length_le fun heq => hne (hpart.eq_of_length heq)
    refine (fails_raiseIf (decide_eq_true ?_)).bind
    rw [List.length_append, hbefore]
    omega

/-- What the scanner answers for a header. -/
def Header.container (h : Header) : Container where
  version := h.version
  tensorCount := h.tensors.length
  metadataCount := h.metadata.length
  alignment := h.alignment
  dataOffset := h.dataOffset
  headers := h.tensors

/-- The data does not start before the header ends. -/
theorem Header.length_encode_le (h : Header) (hlimits : h.WithinLimits) :
    h.encode.length ≤ h.dataOffset := by
  obtain ⟨k, -, hk⟩ := hlimits.alignment
  rw [Header.dataOffset, hk]
  have hpos : 0 < 2 ^ k := by positivity
  have := Nat.lt_div_mul_add (a := h.encode.length + 2 ^ k - 1) hpos
  omega

/-- The end of the scan looks for the padding. -/
theorem decodes_padding {ρ : Type} {start dataOffset : ℕ} (hle : start ≤ dataOffset) (r : ρ) :
    Decodes IsValueError (fun file => do
      raiseIf (dataOffset > file.length) "gguf_tensor_info_truncated"
      return r) start (List.replicate (dataOffset - start) 0) r where
  returns before after hbefore := by
    refine (returns_raiseIf (decide_eq_false ?_)).bind (Returns.pure r)
    rw [List.length_append, List.length_append, List.length_replicate, hbefore]
    omega
  fails before part hbefore hpart hne := by
    have hshort : part.length < dataOffset - start := by
      refine lt_of_le_of_ne ?_ fun heq => hne (hpart.eq_of_length ?_)
      · simpa using hpart.length_le
      · rw [heq, List.length_replicate]
    refine (fails_raiseIf (decide_eq_true ?_)).bind
    rw [List.length_append, hbefore]
    omega

/-- The whole file, part by part. -/
theorem decodes_scanContainer {h : Header} (hlimits : h.WithinLimits) :
    Decodes IsValueError (fun file => scanContainer file file.length) 0 h.encodePadded
      h.container := by
  obtain ⟨k, hk, halignment⟩ := hlimits.alignment
  have hfold : h.metadata.foldl (fun alignment e => e.alignment alignment) 32 = h.alignment :=
    foldl_alignment hlimits.entry hlimits.keys 32
  have hmetadata := hlimits.metadata_bytes
  have htensors := hlimits.tensors_le
  have hmax : maxTensors ≤ maxTensorInfoBytes / 32 := by decide
  have hone : 1 ≤ 2 ^ k := Nat.one_le_two_pow
  have hsmall : 2 ^ k ≤ 65536 := Nat.pow_le_pow_right (by decide) hk
  have hpower : 2 ^ k &&& (2 ^ k - 1) = 0 := by
    rw [Nat.and_two_pow_sub_one_eq_mod, Nat.mod_self]
  rw [Header.encodePadded, Header.encode, List.append_assoc, List.append_assoc]
  refine (decodes_parsePreamble hlimits).bind ?_
  rw [h.length_preamble, zero_add]
  refine (decodes_scanMetadata hlimits.entry hlimits.keys (by omega)).bind ?_
  dsimp only
  rw [hfold]
  refine Decodes.after (returns_raiseIf (decide_eq_false ?_)) ?_
  · rw [halignment, hpower]
    omega
  refine Decodes.after (returns_raiseIf (decide_eq_false (by omega))) ?_
  refine (decodes_scanTensors hlimits.tensor hlimits.names ?_ []).bind ?_
  · have hbytes := hlimits.tensor_bytes
    omega
  have hend : 24 + (h.metadata.flatMap Entry.bytes).length +
      (h.tensors.flatMap TensorHeader.bytes).length = h.encode.length := by
    rw [Header.encode, List.length_append, List.length_append, h.length_preamble, add_assoc]
  -- the code rounds up by clearing the low bits of the sum
  have hoffset : Nat.ldiff (h.encode.length + h.alignment - 1) (h.alignment - 1) =
      h.dataOffset := by
    rw [Header.dataOffset, halignment, ldiff_pred_two_pow]
  rw [hend]
  dsimp only
  rw [hoffset]
  exact decodes_padding (h.length_encode_le hlimits) h.container

/-! ## Reads stay in the file -/

section Inside

variable {size : ℕ} {handle : List Byte}

theorem inside_raiseIf (condition : Bool) (message : String) :
    Inside size (raiseIf condition message) := by
  unfold raiseIf
  split
  · exact Inside.throw _
  · exact Inside.pure _

/-- Behind a check the condition is known. -/
theorem not_of_answers_raiseIf {condition : Bool} {message : String}
    (h : Answers (raiseIf condition message) ()) : condition = false := by
  obtain ⟨log, hlog⟩ := h
  cases condition with
  | false => rfl
  | true => cases hlog

/-- A read in the file stays in the file. -/
theorem inside_seekRead {offset length : ℕ} (h : offset + length ≤ size) :
    Inside size (seekRead handle offset length) := by
  intro log hlog read hread
  have hread' : read ∈ log ++ [(offset, length)] := hread
  rcases List.mem_append.1 hread' with hold | hnew
  · exact hlog read hold
  · rw [List.mem_singleton.1 hnew]
    exact h

/-- Behind a check that says nothing about the reads. -/
theorem inside_guard {α : Type} {condition : Bool} {message : String} {rest : Unit → GgufScan α}
    (h : Inside size (rest ())) : Inside size (raiseIf condition message >>= rest) :=
  (inside_raiseIf _ _).bind fun _ _ => h

theorem inside_parsePreamble : Inside size (parsePreamble handle size) := by
  refine (inside_raiseIf _ _).bind fun _ hsize => ?_
  have hsize' : 24 ≤ size := by simpa using not_of_answers_raiseIf hsize
  refine (inside_seekRead (by omega)).bind fun header _ => ?_
  refine inside_guard ?_
  refine Inside.bind ?_ fun _ _ => ?_
  · unfold unpackPreamble
    split
    · exact Inside.throw _
    · exact Inside.pure _
  refine inside_guard ?_
  refine inside_guard ?_
  exact inside_guard (Inside.pure _)

/-- The room is checked before the read. -/
theorem inside_readExact (offset length : ℕ) :
    Inside size (readExact handle offset length size) := by
  refine (inside_raiseIf _ _).bind fun _ hroom => ?_
  have hroom' : (length : ℤ) ≤ size - offset := by simpa using not_of_answers_raiseIf hroom
  refine (inside_seekRead (by omega)).bind fun data _ => ?_
  exact inside_guard (Inside.pure _)

theorem inside_readU32 (offset : ℕ) : Inside size (readU32 handle offset size) :=
  (inside_readExact offset 4).bind fun _ _ => Inside.pure _

theorem inside_readU64 (offset : ℕ) : Inside size (readU64 handle offset size) :=
  (inside_readExact offset 8).bind fun _ _ => Inside.pure _

theorem inside_readString (offset maximum : ℕ) :
    Inside size (readString handle offset size maximum) := by
  refine (inside_readU64 offset).bind fun length _ => ?_
  refine inside_guard ?_
  refine (inside_readExact _ _).bind fun data _ => ?_
  dsimp only
  split
  · exact Inside.throw _
  · exact Inside.pure _

theorem inside_skipStrings (limit count offset : ℕ) :
    Inside size (skipStrings handle size limit count offset) := by
  induction count generalizing offset with
  | zero => exact Inside.pure _
  | succ count ih =>
    refine (inside_readString offset _).bind fun r _ => ?_
    exact inside_guard (ih r.2)

theorem inside_skipValue (offset valueType limit depth : ℕ) :
    Inside size (skipValue handle offset size valueType limit depth) := by
  refine inside_guard ?_
  split
  · refine (inside_readExact _ _).bind fun r _ => ?_
    exact inside_guard (Inside.pure _)
  split
  · refine (inside_readString _ _).bind fun r _ => ?_
    exact inside_guard (Inside.pure _)
  · refine inside_guard ?_
    refine (inside_readU32 _).bind fun elementType _ => ?_
    refine (inside_readU64 _).bind fun count _ => ?_
    refine inside_guard ?_
    unfold skipElements
    split
    · refine (inside_readExact _ _).bind fun r _ => ?_
      exact inside_guard (Inside.pure _)
    · refine inside_guard ?_
      exact inside_guard (inside_skipStrings _ _ _)

theorem inside_scanMetadata (limit count : ℕ) (keys : List Text) (alignment offset : ℕ) :
    Inside size (scanMetadata handle size limit count keys alignment offset) := by
  induction count generalizing keys alignment offset with
  | zero => exact Inside.pure _
  | succ count ih =>
    refine (inside_readString _ _).bind fun key _ => ?_
    refine inside_guard ?_
    refine (inside_readU32 _).bind fun valueType _ => ?_
    refine Inside.bind ?_ fun value _ => ?_
    · unfold scanValue
      split
      · exact inside_guard (inside_readU32 _)
      · exact (inside_skipValue _ _ _ _).bind fun _ _ => Inside.pure _
    exact inside_guard (ih _ _ _)

theorem inside_scanShape (rank : ℕ) (shape : List ℕ) (offset : ℕ) :
    Inside size (scanShape handle size rank shape offset) := by
  induction rank generalizing shape offset with
  | zero => exact Inside.pure _
  | succ rank ih => exact (inside_readU64 _).bind fun dimension _ => ih _ _

theorem inside_scanTensors (tensorStart count : ℕ) (names : List Text)
    (headers : List TensorHeader) (offset : ℕ) :
    Inside size (scanTensors handle size tensorStart count names headers offset) := by
  induction count generalizing names headers offset with
  | zero => exact Inside.pure _
  | succ count ih =>
    refine Inside.bind ?_ fun header _ => ih _ _ _
    refine (inside_readString _ _).bind fun name _ => ?_
    refine inside_guard ?_
    refine (inside_readU32 _).bind fun rank _ => ?_
    refine inside_guard ?_
    refine (inside_scanShape _ _ _).bind fun shape _ => ?_
    refine inside_guard ?_
    refine (inside_readU32 _).bind fun typeId _ => ?_
    refine inside_guard ?_
    refine (inside_readU64 _).bind fun relativeOffset _ => ?_
    exact inside_guard (Inside.pure _)

/-- The scanner reads nothing outside of the file, whatever the file is. -/
theorem inside_scanContainer : Inside size (scanContainer handle size) := by
  refine inside_parsePreamble.bind fun counts _ => ?_
  refine (inside_scanMetadata _ _ _ _ _).bind fun metadata _ => ?_
  refine inside_guard ?_
  refine inside_guard ?_
  refine (inside_scanTensors _ _ _ _ _).bind fun tensors _ => ?_
  exact inside_guard (Inside.pure _)

end Inside

/-! ## Encoded files -/

/-- **The scanner inverts the encoder.** On a file that starts with the padded encoding of a
header within its limits the scanner answers the header and has read only bytes of the
file, and on each part of the file that ends before the data it raises a `ValueError`. -/
theorem scan_encoded {h : Header} (hlimits : h.WithinLimits) {file : List Byte}
    (hfile : h.encodePadded <+: file) :
    ((scanContainer file file.length).run.run []).1 = .ok h.container ∧
    (∀ read ∈ ((scanContainer file file.length).run.run []).2, read.1 + read.2 ≤ file.length) ∧
    ∀ n < h.dataOffset, ∃ message,
      ((scanContainer (file.take n) (file.take n).length).run.run []).1 =
        .error (.valueError message) := by
  have hdecodes := decodes_scanContainer hlimits
  obtain ⟨rest, rfl⟩ := hfile
  refine ⟨hdecodes.returns [] rest rfl [], inside_scanContainer [] nofun, fun n hn => ?_⟩
  have hlength : h.encodePadded.length = h.dataOffset := by
    rw [Header.encodePadded, List.length_append, List.length_replicate]
    exact Nat.add_sub_cancel' (h.length_encode_le hlimits)
  have htake : (h.encodePadded ++ rest).take n = h.encodePadded.take n :=
    List.take_append_of_le_length (by omega)
  -- a cut before the data leaves a proper part of the padded encoding
  have hproper : h.encodePadded.take n ≠ h.encodePadded := by
    intro heq
    have := congrArg List.length heq
    rw [List.length_take] at this
    omega
  obtain ⟨e, he, message, rfl⟩ := hdecodes.fails [] _ rfl (List.take_prefix n _) hproper []
  exact ⟨message, by rw [htake]; exact he⟩

/-- Two tensors behind an alignment, an array of strings and an array of numbers. -/
def sampleHeader : Header where
  version := 3
  metadata :=
    [⟨text "general.alignment", .scalar .uint32 64#32⟩,
      ⟨text "tokens", .stringArray [text "a", text "é"]⟩,
      ⟨text "scores", .scalarArray .float32 [0#32, 1065353216#32]⟩]
  tensors :=
    [⟨text "w", [32, 2], 8, 0⟩, ⟨text "b", [2], 0, 128⟩]

theorem textWithin_of_all {maximum : ℕ} {s : Text}
    (h : (s.all fun c => decide (CodePoint.IsScalar c)) = true := by decide)
    (hlength : (encodeUtf8 s).length ≤ maximum := by decide) : TextWithin maximum s where
  scalar c hc := of_decide_eq_true (List.all_eq_true.1 h c hc)
  length := hlength

/-- The sample passes every limit. -/
theorem sampleHeader_within : sampleHeader.WithinLimits where
  version := .inr rfl
  tensors_pos := by decide
  tensors_le := by decide
  metadata_le := by decide
  keys := by decide
  names := by decide
  entry := by
    have hkey : text "tokens" ≠ text "general.alignment" ∧
        text "scores" ≠ text "general.alignment" := by decide
    have htext : ∀ s ∈ [text "a", text "é"], TextWithin maxStringBytes s := by
      simp only [List.forall_mem_cons]
      exact ⟨textWithin_of_all, textWithin_of_all, nofun⟩
    simp only [sampleHeader, List.forall_mem_cons]
    exact ⟨⟨textWithin_of_all, trivial, fun _ => ⟨6, by decide, rfl⟩⟩,
      ⟨textWithin_of_all, ⟨by decide, htext⟩, fun h => absurd h hkey.1⟩,
      ⟨textWithin_of_all, (by decide : 2 ≤ maxArrayElements), fun h => absurd h hkey.2⟩, nofun⟩
  tensor := by
    simp only [sampleHeader, List.forall_mem_cons]
    exact ⟨⟨textWithin_of_all, by decide, by decide, by decide, by decide⟩,
      ⟨textWithin_of_all, by decide, by decide, by decide, by decide⟩, nofun⟩
  metadata_bytes := by decide
  tensor_bytes := by decide

theorem scan_encoded_sample :
    ((scanContainer sampleHeader.encodePadded sampleHeader.encodePadded.length).run.run []).1 =
        .ok sampleHeader.container ∧
      ∃ message, ((scanContainer (sampleHeader.encodePadded.take 200)
        (sampleHeader.encodePadded.take 200).length).run.run []).1 =
          .error (.valueError message) := by
  obtain ⟨hwhole, -, hcut⟩ := scan_encoded sampleHeader_within (List.prefix_refl _)
  exact ⟨hwhole, hcut 200 (by decide +kernel)⟩

end PrismInfer.Gguf
