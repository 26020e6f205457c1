import PrismInfer.Lib.Scanner
import PrismInfer.Lib.Utf8

/-!
# The container of a GGUF file

`scan_container` of scripts/inventory-gguf.py with the functions it uses. A handle is the
list of the bytes of its file; a read that the file is too short for gives what is there.
The reads that a scan makes are recorded (`Scan`), and a scan that ends in an exception
names it.
-/

namespace PrismInfer.Gguf

open PrismInfer.Lib

abbrev Byte := BitVec 8

/-- The exceptions of the scanner. -/
inductive PyException
  | valueError (message : String)
  | structError

/-- The exception is a `ValueError`. -/
def IsValueError (exception : PyException) : Prop :=
  ∃ message, exception = .valueError message

abbrev GgufScan (α : Type) := Scan PyException α

/-- `if condition: raise ValueError(message)`. -/
def raiseIf (condition : Bool) (message : String) : GgufScan Unit :=
  if condition then throw (.valueError message) else pure ()

/-! ## Limits -/

/-- `MAX_TENSORS`. -/
def maxTensors : ℕ := 100000

/-- `MAX_RANK`. -/
def maxRank : ℕ := 4

/-- `MAX_METADATA_BYTES`. -/
def maxMetadataBytes : ℕ := 64 * 1024 * 1024

/-- `MAX_TENSOR_INFO_BYTES`. -/
def maxTensorInfoBytes : ℕ := 64 * 1024 * 1024

/-- `MAX_STRING_BYTES`. -/
def maxStringBytes : ℕ := 16 * 1024 * 1024

/-- `MAX_ARRAY_ELEMENTS`. -/
def maxArrayElements : ℕ := 300000

/-- `SCALAR_SIZES`. -/
def scalarSizes : List (ℕ × ℕ) :=
  [(0, 1), (1, 1), (2, 2), (3, 2), (4, 4), (5, 4), (6, 4), (7, 1), (10, 8), (11, 8), (12, 8)]

/-! ## Reading -/

variable (handle : List Byte)

/-- `handle.seek(offset); handle.read(length)`. -/
def seekRead (offset length : ℕ) : GgufScan (List Byte) := do
  modify (· ++ [(offset, length)])
  return (handle.drop offset).take length

/-- `struct.unpack("<IQQ", header[4:])`. -/
def unpackPreamble (header : List Byte) : GgufScan (ℕ × ℕ × ℕ) :=
  if header.length ≠ 24 then throw .structError
  else pure (leValue ((header.drop 4).take 4), leValue ((header.drop 8).take 8),
    leValue ((header.drop 16).take 8))

/-- `parse_preamble`. -/
def parsePreamble (fileSize : ℕ) : GgufScan (ℕ × ℕ × ℕ) := do
  raiseIf (fileSize < 24) "gguf_header_truncated"
  let header ← seekRead handle 0 24
  raiseIf (header.take 4 ≠ [0x47, 0x47, 0x55, 0x46]) "gguf_magic_rejected"
  let (version, tensorCount, metadataCount) ← unpackPreamble header
  raiseIf (version ≠ 2 ∧ version ≠ 3) "gguf_version_rejected"
  raiseIf (tensorCount = 0 ∨ tensorCount > maxTensors) "gguf_tensor_count_rejected"
  raiseIf (metadataCount > maxTensors) "gguf_metadata_count_rejected"
  return (version, tensorCount, metadataCount)

/-- `read_exact`. -/
def readExact (offset length fileSize : ℕ) : GgufScan (List Byte × ℕ) := do
  raiseIf ((length : ℤ) > fileSize - offset) "gguf_container_truncated"
  let data ← seekRead handle offset length
  raiseIf (data.length ≠ length) "gguf_container_short_read"
  return (data, offset + length)

/-- `read_u32`. -/
def readU32 (offset fileSize : ℕ) : GgufScan (ℕ × ℕ) := do
  let (data, offset) ← readExact handle offset 4 fileSize
  return (leValue data, offset)

/-- `read_u64`. -/
def readU64 (offset fileSize : ℕ) : GgufScan (ℕ × ℕ) := do
  let (data, offset) ← readExact handle offset 8 fileSize
  return (leValue data, offset)

/-- `read_string`. -/
def readString (offset fileSize maximum : ℕ) : GgufScan (Text × ℕ) := do
  let (length, offset) ← readU64 handle offset fileSize
  raiseIf (length > maximum) "gguf_string_length_rejected"
  let (data, offset) ← readExact handle offset length fileSize
  match decodeUtf8 data with
  | none => throw (.valueError "gguf_string_utf8_rejected")
  | some t => return (t, offset)

/-! ## Metadata -/

/-- The strings of an array (inventory-gguf.py:121–124). -/
def skipStrings (handle : List Byte) (fileSize limit : ℕ) : ℕ → ℕ → GgufScan ℕ
  | 0, offset => return offset
  | count + 1, offset => do
    let (_, offset) ← readString handle offset fileSize maxStringBytes
    raiseIf (offset > limit) "gguf_metadata_bytes_rejected"
    skipStrings handle fileSize limit count offset

/-- The elements of an array (inventory-gguf.py:114–124). -/
def skipElements (fileSize limit elementType count : ℕ) (offset : ℕ) :
    GgufScan ℕ := do
  match scalarSizes.lookup elementType with
  | some size =>
    let (_, result) ← readExact handle offset (count * size) fileSize
    raiseIf (result > limit) "gguf_metadata_bytes_rejected"
    return result
  | none =>
    raiseIf (elementType ≠ 8) "gguf_array_type_rejected"
    -- `max(0, limit - offset)` is the difference of natural numbers
    raiseIf (count > (limit - offset) / 8) "gguf_metadata_bytes_rejected"
    skipStrings handle fileSize limit count offset

/-- An array (inventory-gguf.py:111–124). -/
def skipArray (offset fileSize limit : ℕ) : GgufScan ℕ := do
  let (elementType, offset) ← readU32 handle offset fileSize
  let (count, offset) ← readU64 handle offset fileSize
  raiseIf (count > maxArrayElements) ("gguf_array_count_rejected:" ++ toString count)
  skipElements handle fileSize limit elementType count offset

/-- `skip_value`. -/
def skipValue (offset fileSize valueType limit depth : ℕ) : GgufScan ℕ := do
  raiseIf (depth > 1) "gguf_nested_array_rejected"
  match scalarSizes.lookup valueType with
  | some size =>
    let (_, result) ← readExact handle offset size fileSize
    raiseIf (result > limit) "gguf_metadata_bytes_rejected"
    return result
  | none =>
    if valueType = 8 then
      let (_, result) ← readString handle offset fileSize maxStringBytes
      raiseIf (result > limit) "gguf_metadata_bytes_rejected"
      return result
    else
      raiseIf (valueType ≠ 9) "gguf_metadata_type_rejected"
      skipArray handle offset fileSize limit

/-- The value under a key, with the alignment that is known after it
(inventory-gguf.py:135–139). -/
def scanValue (fileSize limit : ℕ) (key : Text) (valueType alignment : ℕ) (offset : ℕ) :
    GgufScan (ℕ × ℕ) := do
  if key = text "general.alignment" then
    raiseIf (valueType ≠ 4) "gguf_alignment_type_rejected"
    readU32 handle offset fileSize
  else
    let offset ← skipValue handle offset fileSize valueType limit 0
    return (alignment, offset)

/-- The metadata (inventory-gguf.py:130–140): the alignment and the offset behind. -/
def scanMetadata (handle : List Byte) (fileSize limit : ℕ) :
    ℕ → List Text → ℕ → ℕ → GgufScan (ℕ × ℕ)
  | 0, _, alignment, offset => return (alignment, offset)
  | count + 1, keys, alignment, offset => do
    let (key, offset) ← readString handle offset fileSize 1024
    raiseIf (keys.contains key) "gguf_metadata_key_duplicate"
    let (valueType, offset) ← readU32 handle offset fileSize
    let (alignment, offset) ← scanValue handle fileSize limit key valueType alignment offset
    raiseIf (offset > limit) "gguf_metadata_bytes_rejected"
    scanMetadata handle fileSize limit count (key :: keys) alignment offset

/-! ## Tensors -/

/-- The header of a tensor. -/
structure TensorHeader where
  name : Text
  shape : List ℕ
  typeId : ℕ
  relativeOffset : ℕ

/-- The dimensions (inventory-gguf.py:150–151). -/
def scanShape (handle : List Byte) (fileSize : ℕ) : ℕ → List ℕ → ℕ → GgufScan (List ℕ × ℕ)
  | 0, shape, offset => return (shape, offset)
  | rank + 1, shape, offset => do
    let (dimension, offset) ← readU64 handle offset fileSize
    scanShape handle fileSize rank (shape ++ [dimension]) offset

/-- One tensor (inventory-gguf.py:146–157). -/
def scanTensor (fileSize tensorStart : ℕ) (names : List Text) (offset : ℕ) :
    GgufScan (TensorHeader × ℕ) := do
  let (name, offset) ← readString handle offset fileSize 4096
  raiseIf (names.contains name) "tensor_name_duplicate"
  let (rank, offset) ← readU32 handle offset fileSize
  raiseIf (rank < 1 ∨ rank > maxRank) "tensor_rank_rejected"
  let (shape, offset) ← scanShape handle fileSize rank [] offset
  raiseIf (shape.any (· = 0)) "tensor_shape_rejected"
  let (typeId, offset) ← readU32 handle offset fileSize
  raiseIf (typeId ≥ 40) "tensor_type_id_rejected"
  let (relativeOffset, offset) ← readU64 handle offset fileSize
  raiseIf (offset - tensorStart > maxTensorInfoBytes) "gguf_tensor_info_bytes_rejected"
  return ({ name, shape, typeId, relativeOffset }, offset)

/-- The tensors (inventory-gguf.py:145–157). -/
def scanTensors (handle : List Byte) (fileSize tensorStart : ℕ) :
    ℕ → List Text → List TensorHeader → ℕ → GgufScan (List TensorHeader × ℕ)
  | 0, _, headers, offset => return (headers, offset)
  | count + 1, names, headers, offset => do
    let (header, offset) ← scanTensor handle fileSize tensorStart names offset
    scanTensors handle fileSize tensorStart count (header.name :: names) (headers ++ [header])
      offset

/-! ## The container -/

/-- What `scan_container` returns. -/
structure Container where
  (version tensorCount metadataCount alignment dataOffset : ℕ)
  headers : List TensorHeader

/-- `scan_container`. -/
def scanContainer (fileSize : ℕ) : GgufScan Container := do
  let (version, tensorCount, metadataCount) ← parsePreamble handle fileSize
  let limit := 24 + maxMetadataBytes
  let (alignment, offset) ← scanMetadata handle fileSize limit metadataCount [] 32 24
  raiseIf (alignment < 1 ∨ alignment > 65536 ∨ alignment &&& (alignment - 1) ≠ 0)
    "gguf_alignment_rejected"
  let tensorStart := offset
  raiseIf (tensorCount > maxTensorInfoBytes / 32) "gguf_tensor_info_bytes_rejected"
  let (headers, offset) ← scanTensors handle fileSize tensorStart tensorCount [] [] offset
  -- `(offset + alignment - 1) & ~(alignment - 1)`
  let dataOffset := Nat.ldiff (offset + alignment - 1) (alignment - 1)
  raiseIf (dataOffset > fileSize) "gguf_tensor_info_truncated"
  return { version, tensorCount, metadataCount, alignment, dataOffset, headers }

end PrismInfer.Gguf
