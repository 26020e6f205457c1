import PrismInfer.Benchmark.KernelManifest

/-!
# Manifests that are written and read again

The serialization of a manifest with fields is inverse to the parser
(`parsed_fields_survive`), so prism-emit-benchmark hashes a text that depends on the field
map alone.

A manifest without fields is printed member by member, and a member that is not printed is
read as its default (`discrete_of_read`). What `write_kernel_benchmark_manifest` leaves under
its path is a regular file with the serialized bytes (`regular_of_success`), which its own
validator has read.
-/

namespace PrismInfer.Benchmark

open PrismInfer.Lib PrismInfer.Validation

/-! ## Manifests with fields -/

section Fields

variable {D : DoubleLibrary} {m : KernelBenchmarkManifest D}

theorem serialize_of_fields (h : m.fields ≠ []) : serialize m = renderObject (fieldMap m.fields) :=
  if_pos h

variable {fields : FlatJsonFields}

/-- The members that a successful reader has assigned when it stores the fields. -/
theorem readMembers_eq_ok (h : readMembers D fields = .ok m) :
    ∃ m₀ m₁ m₂ m₃ m₄ : KernelBenchmarkManifest D,
      (ReadCall.nonEmptyString "manifest_version" ⟨(·.manifestVersion),
        fun m x => { m with manifestVersion := x }⟩).readRequired fields {} = .ok m₀ ∧
      (requiredCalls D).foldlM (ReadCall.readRequired fields) m₀ = .ok m₁ ∧
      (rawCalls D).foldlM (ReadCall.readOptional fields) m₁ = .ok m₂ ∧
      (ReadCall.string "failure_reason" ⟨(·.failureReason),
        fun m x => { m with failureReason := x }⟩).readOptional fields m₂ = .ok m₃ ∧
      (optionalCalls D).foldlM (ReadCall.readOptional fields) m₃ = .ok m₄ ∧
      m = { m₄ with fields := fields } := by
  obtain ⟨m₀, hversion, h⟩ := bind_eq_ok.1 h
  obtain ⟨-, h⟩ := unit_bind.1 h
  obtain ⟨m₁, hrequired, h⟩ := bind_eq_ok.1 h
  obtain ⟨-, h⟩ := unit_bind.1 h
  obtain ⟨-, h⟩ := unit_bind.1 h
  obtain ⟨m₂, hraw, h⟩ := bind_eq_ok.1 h
  obtain ⟨-, h⟩ := unit_bind.1 h
  obtain ⟨m₃, hreason, h⟩ := bind_eq_ok.1 h
  obtain ⟨-, h⟩ := unit_bind.1 h
  obtain ⟨-, h⟩ := unit_bind.1 h
  obtain ⟨-, h⟩ := unit_bind.1 h
  obtain ⟨m₄, hoptional, h⟩ := bind_eq_ok.1 h
  obtain ⟨-, h⟩ := unit_bind.1 h
  obtain ⟨-, h⟩ := unit_bind.1 h
  exact ⟨m₀, m₁, m₂, m₃, m₄, hversion, hrequired, hraw, hreason, hoptional,
    (Except.ok.inj h).symm⟩

variable {file : File}

/-- A successful reader has parsed the file and read its members. -/
theorem readKernelBenchmarkManifest_eq_ok (h : readKernelBenchmarkManifest D file = .ok m) :
    ∃ fields, readFlatJsonFile file kMaxKernelManifestBytes = .ok fields ∧
      readMembers D fields = .ok m := by
  obtain ⟨fields, hfields, h⟩ := bind_eq_ok.1 h
  obtain ⟨-, h⟩ := unit_bind.1 h
  obtain ⟨-, h⟩ := unit_bind.1 h
  exact ⟨fields, hfields, h⟩

theorem read_of_parts (hfields : readFlatJsonFile file kMaxKernelManifestBytes = .ok fields)
    (hkeys : checkKeys fields = .ok ()) (hschema : validateOptionalSchemaFields D fields = .ok ())
    (hmembers : readMembers D fields = .ok m) : readKernelBenchmarkManifest D file = .ok m := by
  rw [readKernelBenchmarkManifest, hfields, ok_bind, hkeys, ok_bind, hschema, ok_bind, hmembers]

/-- Keys are checked in the order of the map, which does not matter to a reader that
succeeds. -/
theorem checkKeys_eq_ok : checkKeys fields = .ok () ↔
      (fields.all fun field => kernelManifestAllowedKeys.contains field.1) = true ∧
      (kernelManifestRequiredKeys.all fun key => (fields.lookup key).isSome) = true := by
  have hensure (passes : Bool) (error : String) : ensure passes error = .ok () ↔ passes = true := by
    cases passes <;> simp [ensure]
  unfold checkKeys
  rw [unit_bind, forM_eq_ok, forM_eq_ok]
  simp only [hensure, List.all_eq_true, (fieldMap_perm fields).mem_iff]

/-- The reader keeps the fields that it has parsed. -/
theorem fields_of_read (hfields : readFlatJsonFile file kMaxKernelManifestBytes = .ok fields)
    (h : readKernelBenchmarkManifest D file = .ok m) : m.fields = fields := by
  obtain ⟨fields', hfields', hmembers⟩ := readKernelBenchmarkManifest_eq_ok h
  obtain rfl := Except.ok.inj (hfields.symm.trans hfields')
  obtain ⟨_, _, _, _, _, -, -, -, -, -, rfl⟩ := readMembers_eq_ok hmembers
  rfl

theorem parse_of_readFlatJsonFile {bound : ℕ} (h : readFlatJsonFile file bound = .ok fields) :
    parseFlatJsonObject (bytesText file.bytes) = .ok fields := by
  unfold readFlatJsonFile at h
  split at h
  · cases h
  · cases h
  · cases h
  · split at h
    · cases h
    · exact h

/-- The digest is that of the text of the field map. -/
theorem digest_of_fields (hne : fields ≠ [])
    (hfields : readFlatJsonFile file kMaxKernelManifestBytes = .ok fields) {input : EmitInput}
    (hinput : input.manifest = (readKernelBenchmarkManifest D file).map emitManifest)
    {m : EmitManifest} {digest : List Char} (h : prepare input = .ok (m, digest)) :
    digest = Fips180.sha256 (textBytes (renderObject (fieldMap fields))) := by
  have hmanifest := hinput.symm.trans (manifest_of_prepare h)
  cases hread : readKernelBenchmarkManifest D file with
  | error error =>
    rw [hread] at hmanifest
    cases hmanifest
  | ok kernel =>
    have hkernel : kernel.fields = fields := fields_of_read hfields hread
    rw [hread] at hmanifest
    rw [digest_of_prepare h, ← Except.ok.inj hmanifest, emitManifest,
      serialize_of_fields (hkernel ▸ hne), hkernel]

/-- **What was parsed survives serialization.** The text of a manifest with parsed fields is
parsed to the same map, from which the same text comes again, and the digest that
prism-emit-benchmark computes is the same for any two files with this map. -/
theorem parsed_fields_survive {text : List Char} {fields : FlatJsonFields}
    (hparse : parseFlatJsonObject text = .ok fields) (hne : fields ≠ []) :
    (∀ m : KernelBenchmarkManifest D, m.fields = fields →
      ∃ fields', parseFlatJsonObject (serialize m) = .ok fields' ∧ SameMap fields' fields ∧
        ∀ m' : KernelBenchmarkManifest D, m'.fields = fields' → serialize m' = serialize m) ∧
    ∀ (file file' : File) (fields' : FlatJsonFields),
      readFlatJsonFile file kMaxKernelManifestBytes = .ok fields →
      readFlatJsonFile file' kMaxKernelManifestBytes = .ok fields' → SameMap fields' fields →
      ∀ (input input' : EmitInput) (m m' : EmitManifest) (digest digest' : List Char),
        input.manifest = (readKernelBenchmarkManifest D file).map emitManifest →
        input'.manifest = (readKernelBenchmarkManifest D file').map emitManifest →
        prepare input = .ok (m, digest) → prepare input' = .ok (m', digest') →
        digest' = digest := by
  have hobject : IsObject fields := isObject_of_parse hparse
  constructor
  · rintro m rfl
    have hne' := fieldMap_ne_nil hne
    refine ⟨fieldMap m.fields, ?_, ?_, ?_⟩
    · rw [serialize_of_fields hne]
      exact parse_render_of_isObject hobject.fieldMap hne'
    · exact (hobject.fieldMap.sameMap_iff_perm hobject).2 (fieldMap_perm _)
    · intro m' hfields
      rw [serialize_of_fields (hfields ▸ hne'), serialize_of_fields hne, hfields, fieldMap_fieldMap]
  · intro file file' fields' hfile hfile' hsame input input' m m' digest digest' hinput hinput' h h'
    have hobject' : IsObject fields' := isObject_of_parse (parse_of_readFlatJsonFile hfile')
    have hne' : fields' ≠ [] := by
      rintro rfl
      exact hne (List.nil_perm.1 ((hobject'.sameMap_iff_perm hobject).1 hsame))
    rw [digest_of_fields hne hfile hinput h, digest_of_fields hne' hfile' hinput' h',
      hobject'.fieldMap_congr hobject hsame]

/-- An escaped line end and a number with an exponent, in an order that is not the map's. -/
theorem parsed_fields_survive_escape :
    ∃ fields fields',
      parseFlatJsonObject "\x7b\"b\": \"x\\ny\", \"a\":1e3\x7d".toList = .ok fields ∧
      parseFlatJsonObject (serialize (D := naturals) { fields := fields }) = .ok fields' ∧
      SameMap fields' fields := by
  have hparse : parseFlatJsonObject "\x7b\"b\": \"x\\ny\", \"a\":1e3\x7d".toList =
      .ok [("b", text "x\ny"), ("a", ⟨"1e3", .number⟩)] := by decide +kernel
  obtain ⟨hserialize, -⟩ := parsed_fields_survive (D := naturals) hparse (List.cons_ne_nil _ _)
  obtain ⟨fields', hagain, hsame, -⟩ := hserialize { fields := _ } rfl
  exact ⟨_, fields', hparse, hagain, hsame⟩

end Fields

/-! ## Printed members -/

section Members

variable {D : DoubleLibrary}

theorem parseU64_number (x : UInt64) : parseU64 (number x.toNat) = some x := by
  have hsigns :
      (number x.toNat).text.toList.any (['.', '-', '+', 'e', 'E'].contains ·) = false := by
    rw [List.any_eq_false]
    intro c hc
    have hdigit : c.isDigit = true :=
      Nat.isDigit_of_mem_toDigits (by decide) (by decide) (Nat.toList_repr ▸ hc)
    simp only [List.contains_eq_mem, List.mem_cons, decide_eq_true_eq]
    rintro (rfl | rfl | rfl | rfl | rfl | h)
    · exact absurd hdigit (by decide)
    · exact absurd hdigit (by decide)
    · exact absurd hdigit (by decide)
    · exact absurd hdigit (by decide)
    · exact absurd hdigit (by decide)
    · cases h
  have hparse : parseUnsigned 64 (number x.toNat) = some x.toNat :=
    parseUnsigned_toString x.toNat_lt
  rw [parseU64, hsigns, if_neg Bool.false_ne_true, hparse, Option.map_some, UInt64.ofNat_toNat]

theorem parseU32_number (x : UInt32) : parseU32 (number x.toNat) = some x := by
  have hwide : number x.toNat = number x.toUInt64.toNat := by rw [UInt32.toNat_toUInt64]
  have hbound : ¬x.toUInt64 > 4294967295 := by
    intro h
    have := UInt64.lt_iff_toNat_lt.1 h
    rw [UInt32.toNat_toUInt64] at this
    have := x.toNat_lt
    simp at *
    omega
  rw [parseU32, hwide, parseU64_number]
  dsimp only
  rw [if_neg hbound, UInt32.toUInt32_toUInt64]

namespace ReadCall

/-- The value that the writer prints for the member of a call. -/
def printed (m : KernelBenchmarkManifest D) : ReadCall D → FlatJsonValue
  | .nonEmptyString _ slot | .string _ slot => text (slot.get m)
  | .u64 _ slot => number (slot.get m).toNat
  | .u32 _ slot => number (slot.get m).toNat
  | .bool _ slot => flag (slot.get m)
  | .double _ slot => Benchmark.double (slot.get m)

/-- The member is copied; a `double` becomes what its print is read as. -/
def copy (m into : KernelBenchmarkManifest D) : ReadCall D → KernelBenchmarkManifest D
  | .nonEmptyString _ slot | .string _ slot => slot.set into (slot.get m)
  | .u64 _ slot => slot.set into (slot.get m)
  | .u32 _ slot => slot.set into (slot.get m)
  | .bool _ slot => slot.set into (slot.get m)
  | .double _ slot => slot.set into ((D.read (D.print (slot.get m))).getD D.zero)

/-- A printed member is read as the member. -/
theorem parse_printed {m into m' : KernelBenchmarkManifest D} {call : ReadCall D}
    (h : call.parse (call.printed m) into = some m') : m' = call.copy m into := by
  cases call with
  | nonEmptyString key slot =>
    obtain ⟨value, hvalue, rfl⟩ := Option.map_eq_some_iff.1 h
    rw [← Option.some.inj (Option.filter_eq_some_iff.1 hvalue).1]
    rfl
  | string key slot =>
    cases h
    rfl
  | u64 key slot =>
    rw [parse, printed, parseU64_number] at h
    cases h
    rfl
  | u32 key slot =>
    rw [parse, printed, parseU32_number] at h
    cases h
    rfl
  | bool key slot =>
    have hflag : parseBool (flag (slot.get m)) = some (slot.get m) := by
      cases slot.get m <;> rfl
    rw [parse, printed, hflag] at h
    cases h
    rfl
  | double key slot =>
    obtain ⟨value, hvalue, rfl⟩ := Option.map_eq_some_iff.1 h
    have hread : D.read (D.print (slot.get m)) = some value := by
      rw [← String.toList_ofList (l := D.print (slot.get m))]
      exact hvalue
    rw [copy, hread, Option.getD_some]

variable {fields : FlatJsonFields} {m into m' : KernelBenchmarkManifest D} {call : ReadCall D}

theorem readRequired_printed (hlookup : fields.lookup call.key = some (call.printed m))
    (h : call.readRequired fields into = .ok m') : m' = call.copy m into := by
  rw [readRequired, hlookup] at h
  dsimp only at h
  split at h
  · cases h
  · cases h
    exact parse_printed ‹_›

theorem readOptional_printed (hlookup : fields.lookup call.key = some (call.printed m))
    (h : call.readOptional fields into = .ok m') : m' = call.copy m into := by
  rw [readOptional, hlookup] at h
  dsimp only at h
  split at h
  · cases h
  · cases h
    exact parse_printed ‹_›

theorem readOptional_absent (hlookup : fields.lookup call.key = none)
    (h : call.readOptional fields into = .ok m') : m' = into := by
  rw [readOptional, hlookup] at h
  cases h
  rfl

end ReadCall

/-! ### The tables of the reader against the list of the writer -/

theorem lookup_required (m : KernelBenchmarkManifest D) :
    ∀ call ∈ requiredCalls D, (writtenFields m).lookup call.key = some (call.printed m) := by
  unfold requiredCalls
  simp only [List.forall_mem_cons]
  repeat' apply And.intro
  all_goals first | rfl | exact nofun

theorem lookup_raw (m : KernelBenchmarkManifest D) :
    ∀ call ∈ rawCalls D, (writtenFields m).lookup call.key = some (call.printed m) := by
  unfold rawCalls
  simp only [List.forall_mem_cons]
  exact ⟨rfl, rfl, rfl, nofun⟩

/-- None of the other optional members is printed. -/
theorem lookup_optional (m : KernelBenchmarkManifest D) :
    ∀ call ∈ optionalCalls D, (writtenFields m).lookup call.key = none := by
  unfold optionalCalls
  simp only [List.forall_mem_cons]
  repeat' apply And.intro
  all_goals first | rfl | exact nofun

/-! ### The members that are neither `double` nor fields -/

/-- The manifest without its `double`s and its fields. -/
def KernelBenchmarkManifest.discrete (m : KernelBenchmarkManifest D) : KernelBenchmarkManifest D :=
  { m with
    fields := []
    speedupRatio := D.zero
    ttftMs := D.zero
    prefillMs := D.zero
    decodeTokensPerSecond := D.zero
    requestTailMs := D.zero
    effectiveBitsPerValue := D.zero
    metadataBitsPerValue := D.zero
    compressionDecodeOverheadMs := D.zero
    attentionLogitErrorP95 := D.zero
    attentionLogitErrorP99 := D.zero
    attentionTopkOverlap := D.zero }

/-- The manifests have the same strings, integers and booleans. -/
def Agrees (m m' : KernelBenchmarkManifest D) : Prop :=
  m.discrete = m'.discrete

/-- The manifest with the defaults of the eight members that are read but not printed. -/
def KernelBenchmarkManifest.printedPart (m : KernelBenchmarkManifest D) :
    KernelBenchmarkManifest D :=
  { m with
    tdrStatus := ""
    applicationControlStatus := ""
    compressionProfileId := ""
    algorithmFamily := ""
    kvPayloadBytes := 0
    kvMetadataBytes := 0
    kvResidualOrSketchBytes := 0
    qualityResultPath := "" }

/-- **What is read of a written manifest.** -/
theorem discrete_of_read {m m' : KernelBenchmarkManifest D}
    (h : readMembers D (writtenFields m) = .ok m') : m'.discrete = m.printedPart.discrete := by
  obtain ⟨m₀, m₁, m₂, m₃, m₄, hversion, hrequired, hraw, hreason, hoptional, rfl⟩ :=
    readMembers_eq_ok h
  have h₀ := ReadCall.readRequired_printed (m := m) rfl hversion
  have h₁ := foldlM_eq_foldl (fun call hcall s t hread =>
    ReadCall.readRequired_printed (lookup_required m call hcall) hread) hrequired
  have h₂ := foldlM_eq_foldl (fun call hcall s t hread =>
    ReadCall.readOptional_printed (lookup_raw m call hcall) hread) hraw
  have h₃ := ReadCall.readOptional_printed (m := m) rfl hreason
  have h₄ := foldlM_eq_foldl (g := fun s _ => s) (fun call hcall s t hread =>
    ReadCall.readOptional_absent (lookup_optional m call hcall) hread) hoptional
  have hkeep : m₄ = m₃ := by
    rw [h₄]
    exact List.foldl_fixed _
  rw [hkeep, h₃, h₂, h₁, h₀]
  simp only [requiredCalls, rawCalls, List.foldl_cons, List.foldl_nil, ReadCall.copy,
    KernelBenchmarkManifest.discrete, KernelBenchmarkManifest.printedPart]

/-- The eight members have their defaults. -/
structure UnprintedUnset (m : KernelBenchmarkManifest D) : Prop where
  tdrStatus : m.tdrStatus = ""
  applicationControlStatus : m.applicationControlStatus = ""
  compressionProfileId : m.compressionProfileId = ""
  algorithmFamily : m.algorithmFamily = ""
  kvPayloadBytes : m.kvPayloadBytes = 0
  kvMetadataBytes : m.kvMetadataBytes = 0
  kvResidualOrSketchBytes : m.kvResidualOrSketchBytes = 0
  qualityResultPath : m.qualityResultPath = ""

variable {m : KernelBenchmarkManifest D}

theorem UnprintedUnset.printedPart_eq (h : UnprintedUnset m) : m.printedPart = m := by
  obtain ⟨⟩ := m
  obtain ⟨rfl, rfl, rfl, rfl, rfl, rfl, rfl, rfl⟩ := h
  rfl

theorem agrees_iff_of_read {m m' : KernelBenchmarkManifest D}
    (h : readMembers D (writtenFields m) = .ok m') : Agrees m m' ↔ UnprintedUnset m := by
  rw [Agrees, discrete_of_read h]
  constructor
  · intro hsame
    exact ⟨congrArg (·.tdrStatus) hsame, congrArg (·.applicationControlStatus) hsame,
      congrArg (·.compressionProfileId) hsame, congrArg (·.algorithmFamily) hsame,
      congrArg (·.kvPayloadBytes) hsame, congrArg (·.kvMetadataBytes) hsame,
      congrArg (·.kvResidualOrSketchBytes) hsame, congrArg (·.qualityResultPath) hsame⟩
  · intro hunset
    rw [hunset.printedPart_eq]

/-! ### The text of a manifest without fields -/

theorem settled_writtenFields (m : KernelBenchmarkManifest D) : Settled (writtenFields m) := by
  have htext : ∀ value : String, (text value).kind = .string := fun _ => rfl
  have hnumber : ∀ n : ℕ, ReadableValue (number n) := isToken_toString
  have hflag : ∀ b : Bool, ReadableValue (flag b) := by
    intro b
    cases b
    · exact .inr rfl
    · exact .inl rfl
  have hdouble : ∀ x : D.Double, ReadableValue (double x) := by
    intro x
    show IsToken (String.ofList (D.print x)).toList
    rw [String.toList_ofList]
    exact D.isToken_print x
  simp [Settled, writtenFields, htext, hnumber, hflag, hdouble]

theorem keys_writtenFields_nodup (m : KernelBenchmarkManifest D) :
    ((writtenFields m).map Prod.fst).Nodup := by
  have hkeys : (writtenFields m).map Prod.fst =
      (writtenFields (D := naturals) {}).map Prod.fst := rfl
  rw [hkeys]
  decide +kernel

/-- The text is a string of bytes. -/
def IsBytes (text : List Char) : Prop :=
  ∀ c ∈ text, c.toNat < 256

theorem bytesText_textBytes {text : List Char} (h : IsBytes text) :
    bytesText (textBytes text) = text := by
  rw [bytesText, textBytes, List.map_map]
  calc text.map _ = text.map id := by
        refine List.map_congr_left fun c hc => ?_
        rw [Function.comp_apply, BitVec.toNat_ofNat, Nat.mod_eq_of_lt (h c hc), Char.ofNat_toNat]
        rfl
    _ = text := List.map_id text

theorem serialize_of_no_fields (h : m.fields = []) : serialize m = renderObject (writtenFields m) :=
  if_neg (not_not.2 h)

/-- The text of a manifest without fields is read as its members, if it is read at all. -/
theorem writtenFields_of_parse (hm : m.fields = []) {fields : FlatJsonFields}
    (h : parseFlatJsonObject (serialize m) = .ok fields) : fields = writtenFields m := by
  rw [serialize_of_no_fields hm] at h
  rcases parseFlatJsonObject_render (settled_writtenFields m) (List.cons_ne_nil _ _)
    (keys_writtenFields_nodup m) with ⟨-, hparse⟩ | ⟨-, hparse⟩
  · exact Except.ok.inj (h.symm.trans hparse)
  · rw [hparse] at h
    cases h

end Members

/-! ## The file under the path of a call -/

/-- The call has seen a regular file under its path. -/
def WritePc.looking : WritePc → Bool
  | .existingLinkCount => true
  | .existingSize => true
  | .existingOpen => true
  | .existingRead => true
  | .existingValidator => true
  | _ => false

theorem WritePc.not_succeeding_of_free {pc : WritePc} (h : pc.free = true) :
    pc.succeeding = false := by
  unfold WritePc.free at h
  split at h
  · cases h
  · cases h
  · cases h
  · simpa using h

namespace Call

variable {ν ℓ : Type*}

/-- There is a regular file under the path. -/
def Regular (s : Store ν File) (call : Call ν) : Prop :=
  ∃ file, s.content call.arguments.path = some file ∧ file.kind = .regular

theorem Regular.of_extends {s t : Store ν File} {call : Call ν} (hext : Extends s t)
    (h : call.Regular s) : call.Regular t := by
  obtain ⟨file, hfile, hkind⟩ := h
  exact ⟨file, hext.content hfile, hkind⟩

/-- A call begins to look at the file only when the status says that it is regular. -/
theorem looking_of_next {w : World ν File ℓ} {staged : Staged} {call call' : Call ν}
    {answer : Answer} {e : Effect ν File} (h : call.next w staged answer = some (call', e))
    (hlooking : call'.pc.looking = true) : call.pc.looking = true ∨ call.Regular w.store := by
  have hgoto : ∀ pc, call.goto pc = some (call', e) → pc.looking = true := by
    intro pc hstep
    cases hstep
    exact hlooking
  unfold next at h
  split at h
  · split at h
    · cases h
    · cases hgoto _ h
  unfold act at h
  cases hpc : call.pc with
  | existingStatus =>
    simp only [hpc, check] at h
    split at h
    · split at h
      · rename_i hregular
        obtain ⟨file, hfile, hkind⟩ := (Option.any_eq_true _ _).1 hregular
        exact .inr ⟨file, hfile, of_decide_eq_true hkind⟩
      · cases hgoto _ h
    · cases hgoto _ h
    · cases h
  | existingLinkCount | existingSize | existingOpen | existingRead | existingValidator =>
    exact .inl rfl
  | temporaryWrite =>
    simp only [hpc] at h
    split at h
    · cases h
      rw [hpc] at hlooking
      cases hlooking
    · cases h
      split at hlooking <;> cases hlooking
    · cases hgoto _ h
    · cases h
  | _ =>
    -- what follows these steps is not a look at the file
    simp only [hpc, check, validate] at h
    repeat' split at h
    all_goals first
      | cases hgoto _ h
      | (cases h; cases hlooking)
      | cases h

/-- What a call has seen of its path, or has put there, is a regular file. -/
def SeesRegular (s : Store ν File) (call : Call ν) : Prop :=
  call.pc.looking = true ∨ call.pc.succeeding = true → call.Regular s

theorem seesRegular_of_next [DecidableEq ν] {w : World ν File ℓ} {staged staged' : Staged}
    {call call' : Call ν} {answer : Answer} {e : Effect ν File} {s' : Store ν File}
    (hnext : call.next w staged answer = some (call', e))
    (hperform : w.store.perform staged e = some (s', staged')) (hext : Extends w.store s')
    (hholds : call.Holds w.store staged) (h : call.SeesRegular w.store) : call'.SeesRegular s' := by
  have hsteps := steps_of_next hnext
  have hpath := hsteps.arguments_eq
  have hkeep : call.Regular w.store → call'.Regular s' := by
    rintro ⟨file, hfile, hkind⟩
    exact ⟨file, hext.content (hpath ▸ hfile), hkind⟩
  rintro (hlooking | hsuccess)
  · rcases looking_of_next hnext hlooking with hbefore | hregular
    · exact hkeep (h (.inl hbefore))
    · exact hkeep hregular
  · cases hsteps with
    | crash | create | accept => cases hsuccess
    | move pc hbefore hafter =>
      rw [WritePc.not_succeeding_of_free hafter] at hsuccess
      cases hsuccess
    | same hbefore | acceptExisting hbefore => exact hkeep (h (.inl (by rw [hbefore]; rfl)))
    | writePart hbefore count =>
      rw [hbefore] at hsuccess
      cases hsuccess
    | writeAll hbefore =>
      split at hsuccess <;> cases hsuccess
    | link hbefore =>
      exact ⟨_, Store.content_of_publish hperform (hholds.written (.inr hbefore)), rfl⟩
    | unlink result hbefore | finish result hbefore =>
      cases result with
      | success => exact hkeep (h (.inr (by rw [hbefore]; rfl)))
      | failure error => cases hsuccess

end Call

section Runs

variable {ν : Type*} [DecidableEq ν]

theorem writeNewOrSame_keeps_regular : (writeNewOrSame ν).Keeps fun s writer =>
      writer.state.Holds s writer.staged ∧ writer.state.SeesRegular s where
  stable s t writer hext hown h :=
    ⟨h.1.of_extends hext hown, fun hpc => (h.2 hpc).of_extends hext⟩
  start s x := by
    refine ⟨Call.holds_of_free rfl, ?_⟩
    rintro (hpc | hpc) <;> cases hpc
  step w i a e w' writer writer' hstep hsound hext h :=
    ⟨writeNewOrSame_keeps.step w i a e w' writer writer' hstep hsound hext h.1,
      Call.seesRegular_of_next hstep.next hstep.perform hext h.1 h.2⟩

/-- A call that has returned `true` leaves a regular file with its contents under its path. -/
theorem regular_of_success {s : Store ν File} {w : World ν File (Call ν)}
    {trace : List (Move (WriteArguments ν) Answer × Effect ν File)}
    (run : Run (writeNewOrSame ν).exec ⟨s, []⟩ trace w) {i : ℕ} {writer : Writer (Call ν)}
    (hat : w.writers[i]? = some writer) (hpc : writer.state.pc = .returned .success) :
    (∃ file, w.store.content writer.state.arguments.path = some file ∧
      file.bytes = writer.state.arguments.contents ∧ file.kind = .regular) ∧
    writer.state.Validated := by
  obtain ⟨hholds, hregular⟩ := writeNewOrSame_keeps_regular.run run (Protocol.sound_of_no_writers s)
    (World.all_of_no_writers _ s) i writer hat
  have hsuccess : writer.state.pc.succeeding = true := by
    rw [hpc]
    rfl
  obtain ⟨⟨file, hfile, hbytes⟩, hvalidated⟩ := hholds.succeeds hsuccess
  obtain ⟨file', hfile', hkind⟩ := hregular (.inr hsuccess)
  cases hfile.symm.trans hfile'
  exact ⟨⟨file, hfile, hbytes, hkind⟩, hvalidated⟩

/-- The reader sees the bytes of a regular file. -/
theorem read_of_regular {D : DoubleLibrary} {file : File} (h : file.kind = .regular) :
    readKernelBenchmarkManifest D file = readKernelBenchmarkManifest D { bytes := file.bytes } := by
  unfold readKernelBenchmarkManifest readFlatJsonFile
  rw [h]

/-- **Written manifests.** When `write_kernel_benchmark_manifest` returns `true` for a
manifest without fields, the file under the path is read, and the manifest that is read
agrees with the one that was written exactly when the members that the writer does not
print have their defaults. -/
theorem written_manifest_agrees_iff {D : DoubleLibrary} {s : Store ν File}
    {w : World ν File (Call ν)} {trace : List (Move (WriteArguments ν) Answer × Effect ν File)}
    (run : Run (writeNewOrSame ν).exec ⟨s, []⟩ trace w) {i : ℕ} {writer : Writer (Call ν)}
    (hat : w.writers[i]? = some writer) {path : ν} {m : KernelBenchmarkManifest D}
    (hcall : writer.state.arguments = writeKernelBenchmarkManifest path m)
    (hreturned : writer.state.pc = .returned .success)
    (hvalidator : ∀ bytes, writer.state.accepted = some bytes →
      ∃ m', readKernelBenchmarkManifest D { bytes := bytes } = .ok m')
    (hfields : m.fields = []) (hbytes : IsBytes (serialize m)) :
    ∃ file m', w.store.content path = some file ∧
      readKernelBenchmarkManifest D file = .ok m' ∧ (Agrees m m' ↔ UnprintedUnset m) := by
  obtain ⟨⟨file, hfile, hcontents, hkind⟩, hvalidated⟩ := regular_of_success run hat hreturned
  rw [Call.Validated, hcall] at hvalidated
  rw [hcall] at hfile hcontents
  obtain ⟨m', hread⟩ := hvalidator _ (hvalidated rfl)
  refine ⟨file, m', hfile, ?_, ?_⟩
  · rw [read_of_regular hkind, hcontents]
    exact hread
  · obtain ⟨fields, hparse, hmembers⟩ := readKernelBenchmarkManifest_eq_ok hread
    have htext := parse_of_readFlatJsonFile hparse
    have hprint : bytesText (writeKernelBenchmarkManifest path m).contents = serialize m :=
      bytesText_textBytes hbytes
    rw [hprint] at htext
    rw [writtenFields_of_parse hfields htext] at hmembers
    exact agrees_iff_of_read hmembers

end Runs

/-! ## A manifest -/

namespace Fixture

def digest : String :=
  String.ofList (List.replicate 64 'a')

/-- A completed run. -/
def manifest : KernelBenchmarkManifest naturals where
  cell :=
    { modelHash := digest, quantizationFormat := "q4_0", quantArtifactSha256 := digest,
      contextTokens := 4096, batchSize := 1, promptFixtureHash := digest, backend := "cuda",
      os := "linux", gpuName := "gpu", driverMode := "linux", cudaDriverVersion := 12040,
      cudaRuntimeVersion := 12040, vramTierGib := 8, hardCapBytes := 8589934592,
      opType := "matmul", sequencePhase := "decode", kernelBackend := "cuda",
      kernelName := "mmq", kernelVersion := "1" }
  manifestVersion := "0.1"
  validationCellId := "cell"
  baselineBackend := "cuda"
  baselineManifestHash := digest
  correctnessFixtureHash := digest
  qualityFixtureHash := digest
  qualityGateId := "none"
  runOutcome := "completed"
  supervisorStatus := "active"
  admissionStatus := "admitted"
  requestedExecutionPath := "fused"
  actualExecutionPath := "fused"
  rawTrialCount := 3
  rawTrialSha256 := digest
  claimStatus := "research-only"

/-- The same run on a machine whose driver recovers from timeouts. -/
def tdrManifest : KernelBenchmarkManifest naturals :=
  { manifest with tdrStatus := "enabled" }

/-- One call that finds its path free. -/
def calls (m : KernelBenchmarkManifest naturals) : List (Move (WriteArguments Unit) Answer) :=
  .enter (writeKernelBenchmarkManifest () m) :: List.replicate 10 (.step 0 .succeeds)

/-- The call has returned `true`, and the text of the manifest is read as its members. -/
def succeeded (m : KernelBenchmarkManifest naturals) (w : World Unit File (Call Unit)) : Bool :=
  (w.writers.map fun writer => (writer.state.arguments, writer.state.pc)) =
    [(writeKernelBenchmarkManifest () m, .returned .success)] &&
  (serialize m).all (·.toNat < 256) &&
  readFlatJsonFile { bytes := textBytes (serialize m) } kMaxKernelManifestBytes =
    .ok (writtenFields m)

theorem exists_write_manifest :
    ∃ trace w, Run (writeNewOrSame Unit).exec ⟨.empty Unit File, []⟩ trace w ∧
      succeeded manifest w = true :=
  Run.exists_of_runActions (calls manifest) (fun result => succeeded manifest result.2)
    (by decide +kernel)

theorem writtenFields_tdrManifest : writtenFields tdrManifest = writtenFields manifest := rfl

theorem serialize_tdrManifest : serialize tdrManifest = serialize manifest := by
  rw [serialize_of_no_fields rfl, serialize_of_no_fields rfl, writtenFields_tdrManifest]

theorem of_succeeded {m : KernelBenchmarkManifest naturals} {w : World Unit File (Call Unit)}
    (h : succeeded m w = true) : (∃ writer, w.writers[0]? = some writer ∧
      writer.state.arguments = writeKernelBenchmarkManifest () m ∧
      writer.state.pc = .returned .success) ∧ IsBytes (serialize m) ∧
    readFlatJsonFile { bytes := textBytes (serialize m) } kMaxKernelManifestBytes =
      .ok (writtenFields m) := by
  simp only [succeeded, Bool.and_eq_true, decide_eq_true_eq, List.all_eq_true] at h
  obtain ⟨⟨hwriters, hbytes⟩, hread⟩ := h
  refine ⟨?_, hbytes, hread⟩
  obtain ⟨writer, hlist, hstate⟩ := List.map_eq_singleton_iff.1 hwriters
  obtain ⟨hcall, hreturned⟩ := Prod.mk.inj hstate
  refine ⟨writer, ?_, hcall, hreturned⟩
  rw [hlist]
  rfl

/-- The reader accepts the members of the manifest. -/
theorem exists_read_manifest :
    ∃ m', readKernelBenchmarkManifest naturals { bytes := textBytes (serialize manifest) } =
        .ok m' ∧ readMembers naturals (writtenFields manifest) = .ok m' := by
  obtain ⟨trace, w, -, hsucceeded⟩ := exists_write_manifest
  obtain ⟨-, -, hfields⟩ := of_succeeded hsucceeded
  have hkeys : checkKeys (writtenFields manifest) = .ok () :=
    checkKeys_eq_ok.2 (by decide +kernel)
  have hschema : validateOptionalSchemaFields naturals (writtenFields manifest) = .ok () := by
    decide +kernel
  have hmembers : (readMembers naturals (writtenFields manifest)).isOk = true := by decide +kernel
  cases hm : readMembers naturals (writtenFields manifest) with
  | error error =>
    rw [hm] at hmembers
    cases hmembers
  | ok m' => exact ⟨m', read_of_parts hfields hkeys hschema hm, rfl⟩

end Fixture

open Fixture

/-- The call returns `true`, and the status of the timeout recovery is lost. -/
theorem tdr_status_lost :
    ∃ trace w writer file m', Run (writeNewOrSame Unit).exec ⟨.empty Unit File, []⟩ trace w ∧
      w.writers[0]? = some writer ∧
      writer.state.arguments = writeKernelBenchmarkManifest () tdrManifest ∧
      writer.state.pc = .returned .success ∧ w.store.content () = some file ∧
      readKernelBenchmarkManifest naturals file = .ok m' ∧ tdrManifest.fields = [] ∧
      tdrManifest.tdrStatus = "enabled" ∧ m'.tdrStatus = "" ∧ ¬Agrees tdrManifest m' := by
  obtain ⟨trace, w, hrun, hsucceeded⟩ := exists_write_manifest
  obtain ⟨⟨writer, hat, hcall, hreturned⟩, -⟩ := of_succeeded hsucceeded
  obtain ⟨⟨file, hfile, hcontents, hkind⟩, -⟩ := regular_of_success hrun hat hreturned
  obtain ⟨m', hread, hmembers⟩ := exists_read_manifest
  have hfile' : readKernelBenchmarkManifest naturals file = .ok m' := by
    rw [read_of_regular hkind, hcontents, hcall]
    exact hread
  have hsame : writeKernelBenchmarkManifest () manifest =
      writeKernelBenchmarkManifest () tdrManifest := by
    rw [writeKernelBenchmarkManifest, writeKernelBenchmarkManifest, serialize_tdrManifest]
  have hlost : m'.tdrStatus = "" := congrArg (·.tdrStatus) (discrete_of_read hmembers)
  refine ⟨trace, w, writer, file, m', hrun, hat, hcall.trans hsame, hreturned, hfile, hfile', rfl,
    rfl, hlost, ?_⟩
  intro hagrees
  have hstatus : "enabled" = m'.tdrStatus := congrArg (·.tdrStatus) hagrees
  rw [hlost] at hstatus
  exact absurd hstatus (by decide)

theorem written_manifest_agrees :
    ∃ trace w file m', Run (writeNewOrSame Unit).exec ⟨.empty Unit File, []⟩ trace w ∧
      w.store.content () = some file ∧ readKernelBenchmarkManifest naturals file = .ok m' ∧
      Agrees manifest m' := by
  obtain ⟨trace, w, hrun, hsucceeded⟩ := exists_write_manifest
  obtain ⟨⟨writer, hat, hcall, hreturned⟩, hbytes, -⟩ := of_succeeded hsucceeded
  obtain ⟨-, hvalidated⟩ := regular_of_success hrun hat hreturned
  rw [Call.Validated, hcall] at hvalidated
  have hvalidator : ∀ bytes, writer.state.accepted = some bytes →
      ∃ m', readKernelBenchmarkManifest naturals { bytes := bytes } = .ok m' := by
    intro bytes hsome
    cases (hvalidated rfl).symm.trans hsome
    obtain ⟨m', hread, -⟩ := exists_read_manifest
    exact ⟨m', hread⟩
  obtain ⟨file, m', hfile, hread, hiff⟩ :=
    written_manifest_agrees_iff hrun hat hcall hreturned hvalidator rfl hbytes
  exact ⟨trace, w, file, m', hrun, hfile, hread, hiff.2 ⟨rfl, rfl, rfl, rfl, rfl, rfl, rfl, rfl⟩⟩

end PrismInfer.Benchmark
