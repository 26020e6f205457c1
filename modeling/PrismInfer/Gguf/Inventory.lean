import PrismInfer.Gguf.ContainerEncoding
import PrismInfer.Gguf.Spans

/-!
# The inventory of the tensors

`main` (scripts/inventory-gguf.py:278–318) compares the tensors that the `gguf` package reads
with the scanned headers, computes their lengths again and hands their spans to
`validate_spans`. `inventory_places` says what is then known of a file, in exact arithmetic. The
package and its table of block sizes are parameters.
-/

namespace PrismInfer.Gguf

open PrismInfer.Lib

/-- A tensor as `gguf.GGUFReader` has it. -/
structure ReaderTensor where
  name : String
  shape : List ℕ
  (tensorType dataOffset bytes : ℕ)

structure Reader where
  tensors : List ReaderTensor
  alignment : ℕ

/-- `(offset, offset + length, tensor.name)`. -/
def ReaderTensor.span (tensor : ReaderTensor) : Span :=
  (tensor.dataOffset, tensor.dataOffset + tensor.bytes, tensor.name)

/-- The loop of `checked_tensor_length`. -/
def elementCount : ℕ → List ℕ → Except String ℕ
  | elements, [] => .ok elements
  | elements, dimension :: shape =>
    if elements = 0 then .error "ZeroDivisionError"
    else if dimension > (2 ^ 64 - 1) / elements then .error "tensor_element_count_overflow"
    else elementCount (elements * dimension) shape

/-- `checked_tensor_length`. -/
def checkedTensorLength (shape : List ℕ) (blockElements blockBytes : ℕ) : Except String ℕ := do
  let elements ← elementCount 1 shape
  if blockElements = 0 then .error "ZeroDivisionError"
  else if elements % blockElements ≠ 0 then .error "tensor_partial_quant_block"
  else if blockBytes = 0 then .error "ZeroDivisionError"
  else if elements / blockElements > (2 ^ 64 - 1) / blockBytes then
    .error "tensor_byte_count_overflow"
  else .ok (elements / blockElements * blockBytes)

/-- `gguf.GGML_QUANT_SIZES`: the elements and the bytes of a block of a type. -/
abbrev QuantSizes := ℕ → Option (ℕ × ℕ)

/-- One turn of the loop. `sha256_range` finds out if the file ends inside of the tensor. -/
def checkTensor (sizes : QuantSizes) (dataOffset fileSize : ℕ) (seen : List String)
    (tensor : ReaderTensor) (scanned : TensorHeader) : Except String Unit :=
  if tensor.name ∈ seen then .error ("tensor_name_duplicate:" ++ tensor.name)
  else if text tensor.name ≠ scanned.name ∨ tensor.shape ≠ scanned.shape ∨
      tensor.tensorType ≠ scanned.typeId ∨
      tensor.dataOffset ≠ dataOffset + scanned.relativeOffset then
    .error ("tensor_header_crosscheck_rejected:" ++ tensor.name)
  else if tensor.shape = [] ∨ tensor.shape.length > maxRank ∨ 0 ∈ tensor.shape then
    .error ("tensor_shape_rejected:" ++ tensor.name)
  else match sizes tensor.tensorType with
    | none => .error "KeyError"
    | some (blockElements, blockBytes) => do
      let length ← checkedTensorLength tensor.shape blockElements blockBytes
      if length ≠ tensor.bytes then .error ("tensor_length_rejected:" ++ tensor.name)
      else if (tensor.bytes : ℤ) > 2 ^ 64 - 1 - tensor.dataOffset then
        .error ("tensor_bounds_rejected:" ++ tensor.name)
      else if tensor.bytes ≠ 0 ∧ tensor.dataOffset + tensor.bytes > fileSize then
        .error "tensor_short_read"
      else .ok ()

/-- The loop, with `seen_names`. -/
def checkTensors (sizes : QuantSizes) (dataOffset fileSize : ℕ) :
    List String → List (ReaderTensor × TensorHeader) → Except String Unit
  | _, [] => .ok ()
  | seen, (tensor, scanned) :: rest => do
    checkTensor sizes dataOffset fileSize seen tensor scanned
    checkTensors sizes dataOffset fileSize (tensor.name :: seen) rest

/-- From the comparison with the scanned container to `validate_spans`; the spans. -/
def inventorySpans (sizes : QuantSizes) (container : Container) (reader : Reader)
    (fileSize : ℕ) : Except String (List Span) :=
  if reader.tensors.length ≠ container.tensorCount then .error "gguf_tensor_count_rejected"
  else if reader.alignment ≠ container.alignment then .error "gguf_alignment_crosscheck_rejected"
  else do
    let pairs := reader.tensors.zip container.headers
    checkTensors sizes container.dataOffset fileSize [] pairs
    let spans := pairs.map fun pair => pair.1.span
    validateSpans spans fileSize reader.alignment
    return spans

/-! ## What is accepted -/

theorem elementCount_sound {elements count : ℕ} {shape : List ℕ} (hlt : elements < 2 ^ 64)
    (h : elementCount elements shape = .ok count) :
    count = elements * shape.prod ∧ count < 2 ^ 64 := by
  induction shape generalizing elements with
  | nil =>
    cases h
    exact ⟨(mul_one _).symm, hlt⟩
  | cons dimension shape ih =>
    rw [elementCount, ite_error_eq_ok, ite_error_eq_ok, not_lt] at h
    obtain ⟨hpos, hle, h⟩ := h
    rw [Nat.le_div_iff_mul_le (Nat.pos_of_ne_zero hpos), mul_comm] at hle
    rw [List.prod_cons, ← mul_assoc]
    exact ih (by omega) h

theorem checkedTensorLength_sound {shape : List ℕ} {blockElements blockBytes length : ℕ}
    (h : checkedTensorLength shape blockElements blockBytes = .ok length) :
    shape.prod < 2 ^ 64 ∧
      ∃ blocks, shape.prod = blocks * blockElements ∧ length = blocks * blockBytes := by
  obtain ⟨elements, hcount, h⟩ := bind_eq_ok.1 h
  obtain ⟨rfl, hlt⟩ := elementCount_sound (by norm_num) hcount
  rw [one_mul] at hlt h
  simp only [ite_error_eq_ok, not_not] at h
  obtain ⟨-, hwhole, -, -, h⟩ := h
  cases h
  exact ⟨hlt, _, (Nat.div_mul_cancel (Nat.dvd_of_mod_eq_zero hwhole)).symm, rfl⟩

/-- The reader's tensor is the scanned one, and its bytes are those of whole blocks. -/
structure Agrees (sizes : QuantSizes) (dataOffset : ℕ) (tensor : ReaderTensor)
    (scanned : TensorHeader) : Prop where
  name : text tensor.name = scanned.name
  shape : tensor.shape = scanned.shape
  type : tensor.tensorType = scanned.typeId
  offset : tensor.dataOffset = dataOffset + scanned.relativeOffset
  elements : tensor.shape.prod < 2 ^ 64
  length : ∃ blockElements blockBytes, sizes tensor.tensorType = some (blockElements, blockBytes) ∧
    ∃ blocks, tensor.shape.prod = blocks * blockElements ∧ tensor.bytes = blocks * blockBytes

variable {sizes : QuantSizes} {dataOffset fileSize : ℕ} {seen : List String}

theorem checkTensor_sound {tensor : ReaderTensor} {scanned : TensorHeader}
    (h : checkTensor sizes dataOffset fileSize seen tensor scanned = .ok ()) :
    tensor.name ∉ seen ∧ Agrees sizes dataOffset tensor scanned := by
  rw [checkTensor, ite_error_eq_ok, ite_error_eq_ok, ite_error_eq_ok] at h
  obtain ⟨hfresh, hheader, -, h⟩ := h
  simp only [not_or, not_not] at hheader
  obtain ⟨hname, hshape, htype, hoffset⟩ := hheader
  split at h
  · cases h
  · rename_i blockElements blockBytes hsizes
    obtain ⟨length, hlength, h⟩ := bind_eq_ok.1 h
    obtain ⟨helements, hwhole⟩ := checkedTensorLength_sound hlength
    obtain rfl : length = tensor.bytes := not_not.1 (ite_error_eq_ok.1 h).1
    exact ⟨hfresh, hname, hshape, htype, hoffset, helements, _, _, hsizes, hwhole⟩

theorem checkTensors_sound {pairs : List (ReaderTensor × TensorHeader)}
    (h : checkTensors sizes dataOffset fileSize seen pairs = .ok ()) :
    (∀ pair ∈ pairs, Agrees sizes dataOffset pair.1 pair.2) ∧
      (pairs.map (·.1.name)).Nodup ∧ ∀ pair ∈ pairs, pair.1.name ∉ seen := by
  induction pairs generalizing seen with
  | nil => simp
  | cons pair rest ih =>
    obtain ⟨hpair, hrest⟩ := unit_bind.1 h
    obtain ⟨hfresh, hagrees⟩ := checkTensor_sound hpair
    obtain ⟨hall, hnodup, hnew⟩ := ih hrest
    simp only [List.mem_cons, not_or] at hnew
    simp only [List.forall_mem_cons, List.map_cons, List.nodup_cons, List.mem_map, not_exists]
    exact ⟨⟨hagrees, hall⟩, ⟨fun other hother => (hnew other hother.1).1 hother.2, hnodup⟩, hfresh,
      fun other hother => (hnew other hother).2⟩

theorem length_of_scanTensors {handle : List Byte} {size tensorStart count offset : ℕ}
    {names : List Text} {before : List TensorHeader} {result : List TensorHeader × ℕ}
    (h : Answers (scanTensors handle size tensorStart count names before offset) result) :
    result.1.length = before.length + count := by
  induction count generalizing names before offset with
  | zero =>
    obtain ⟨_, h⟩ := h
    cases h
    rfl
  | succ count ih =>
    obtain ⟨⟨header, offset⟩, -, h⟩ := h.of_bind
    rw [ih h, List.length_append, List.length_singleton, Nat.add_right_comm, Nat.add_assoc]

/-- What the inventory uses of a scanned container. -/
theorem scanned_of_answers {handle : List Byte} {size : ℕ} {container : Container}
    (h : Answers (scanContainer handle size) container) :
    0 < container.alignment ∧ container.headers.length = container.tensorCount := by
  obtain ⟨⟨version, tensorCount, metadataCount⟩, -, h⟩ := h.of_bind
  obtain ⟨⟨alignment, offset⟩, -, h⟩ := h.of_bind
  obtain ⟨_, halignment, h⟩ := h.of_bind
  obtain ⟨_, -, h⟩ := h.of_bind
  obtain ⟨⟨headers, behind⟩, hheaders, h⟩ := h.of_bind
  obtain ⟨_, -, _, h⟩ := h.of_bind
  cases h
  have hpositive := not_of_answers_raiseIf halignment
  simp only [decide_eq_false_iff_not, not_or, not_lt] at hpositive
  exact ⟨hpositive.1, (length_of_scanTensors hheaders).trans (Nat.zero_add _)⟩

/-- **The inventory of a file**: every scanned tensor is there with the length that its shape and
type give, in places of the file that no other tensor has. -/
theorem inventory_places (sizes : QuantSizes) (handle : List Byte) (container : Container)
    (reader : Reader) (spans : List Span)
    (hscan : Answers (scanContainer handle handle.length) container)
    (h : inventorySpans sizes container reader handle.length = .ok spans) :
    spans = reader.tensors.map (·.span) ∧
      List.Forall₂ (Agrees sizes container.dataOffset) reader.tensors container.headers ∧
      (reader.tensors.map (·.name)).Nodup ∧
      (∀ span ∈ spans, span.Fits handle.length container.alignment) ∧
      spans.Pairwise fun a b => Disjoint a.places b.places := by
  obtain ⟨halignment, hlength⟩ := scanned_of_answers hscan
  rw [inventorySpans, ite_error_eq_ok, ite_error_eq_ok, not_not, not_not] at h
  obtain ⟨hcount, hsame, h⟩ := h
  obtain ⟨htensors, h⟩ := unit_bind.1 h
  obtain ⟨hspans, h⟩ := unit_bind.1 h
  cases h
  have hfst : (reader.tensors.zip container.headers).map Prod.fst = reader.tensors :=
    List.map_fst_zip (by omega)
  have hzip {β : Type} (f : ReaderTensor → β) :
      (reader.tensors.zip container.headers).map (fun pair => f pair.1) = reader.tensors.map f := by
    rw [← congrArg (List.map f) hfst, List.map_map]
    rfl
  rw [hsame] at hspans
  obtain ⟨hagree, hnames, -⟩ := checkTensors_sound htensors
  obtain ⟨hfits, hdisjoint⟩ := (validateSpans_eq_ok_iff (by omega)).1 hspans
  rw [hzip] at hnames
  refine ⟨hzip _, List.forall₂_iff_zip.2 ⟨by omega, hagree _⟩, hnames, hfits, hdisjoint⟩

/-- The tensors of `sampleHeader` in a file with 136 bytes of data. -/
def sampleReader : Reader where
  tensors := [⟨"w", [32, 2], 8, 256, 68⟩, ⟨"b", [2], 0, 384, 8⟩]
  alignment := 64

/-- The blocks of F32 and Q8_0. -/
def sampleSizes : QuantSizes := ([(0, 1, 4), (8, 32, 34)].lookup ·)

theorem inventory_places_of_sample : ∃ spans,
    inventorySpans sampleSizes sampleHeader.container sampleReader 392 = .ok spans ∧
      spans.Pairwise fun a b => Disjoint a.places b.places := by
  have hsize : (sampleHeader.encodePadded ++ List.replicate 136 0).length = 392 := by decide +kernel
  have hoffset : sampleHeader.container.dataOffset = 256 := by decide +kernel
  have hscan := (decodes_scanContainer sampleHeader_within).returns [] (.replicate 136 0) rfl []
  have hvalid : validateSpans [(256, 324, "w"), (384, 392, "b")] 392 64 = .ok () := by
    refine (validateSpans_eq_ok_iff (by decide)).2 ⟨?_, ?_⟩
    · simp only [List.forall_mem_cons, List.not_mem_nil, false_imp_iff, implies_true, and_true]
      exact ⟨⟨by decide, by decide, by decide, by decide, by decide⟩,
        ⟨by decide, by decide, by decide, by decide, by decide⟩⟩
    · rw [List.pairwise_pair, Span.places, Span.places, Set.Ico_disjoint_Ico]
      decide
  have hok : inventorySpans sampleSizes sampleHeader.container sampleReader 392 =
      .ok [(256, 324, "w"), (384, 392, "b")] := by
    rw [inventorySpans, if_neg (by decide), if_neg (by decide), hoffset]
    refine unit_bind.2 ⟨?_, unit_bind.2 ⟨hvalid, rfl⟩⟩
    rfl
  rw [← hsize] at hok ⊢
  exact ⟨_, hok, (inventory_places _ _ _ _ _ ⟨[], hscan⟩ hok).2.2.2.2⟩

end PrismInfer.Gguf
