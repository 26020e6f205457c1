import PrismInfer.Lib.Delimited
import PrismInfer.Validation.ReceiptAcceptance

/-!
# The texts that are hashed

The two texts of `compute_c2_clearance_evidence_hashes` are values behind labels, with
bars between them. Three of the values are free: the case, the source of the process
sample and the reason of the failure, which may contain bars and labels. In a receipt
that passes the checks of the validator they still cannot be mistaken.

- The values behind the last free one are read off from the right.
- In the text of the last good sample two free values remain. The case has at most 64
  characters, and the parts between the two have more; the label `stage` stands at the
  start of these parts only.

So each text determines every field in it, and where the hash has no collision a receipt
whose fields are changed needs new digests.
-/

namespace PrismInfer.Validation

open PrismInfer.Lib

/-! ## Texts as parts -/

/-- A part of a text, without its bar. -/
def segment (part : String × String) : List Char :=
  part.1.toList ++ '=' :: part.2.toList

/-- The text of the code as parts that are joined. -/
theorem labelled_eq (start : String) (parts : List (String × String)) :
    labelled start parts = start.toList ++ joined '|' (parts.map segment) := by
  rw [labelled, joined, List.flatMap_map]
  rfl

/-- Parts under the same labels are told apart by their values. -/
theorem parts_of_segments {parts parts' : List (String × String)}
    (hlabels : parts.map Prod.fst = parts'.map Prod.fst)
    (h : parts.map segment = parts'.map segment) : parts = parts' := by
  induction parts generalizing parts' with
  | nil =>
    rw [List.map_nil] at h
    rw [List.map_eq_nil_iff.1 h.symm]
  | cons part parts ih =>
    cases parts' with
    | nil => cases h
    | cons part' parts' =>
      obtain ⟨label, value⟩ := part
      obtain ⟨label', value'⟩ := part'
      rw [List.map_cons, List.map_cons] at hlabels h
      obtain ⟨hlabel, hlabels'⟩ := List.cons.inj hlabels
      obtain ⟨hsegment, h'⟩ := List.cons.inj h
      obtain rfl : label = label' := hlabel
      have hvalue := (List.cons.inj (List.append_cancel_left hsegment)).2
      obtain rfl : value = value' := String.toList_inj.1 hvalue
      rw [ih hlabels' h']

/-- The parts between the two free values of the last good sample. -/
def middleParts (r : C2ClearanceReceipt) : List (String × String) :=
  ((lastGoodParts r).drop 2).take 6

/-- The parts behind the free values. -/
def sampleParts (r : C2ClearanceReceipt) : List (String × String) :=
  (lastGoodParts r).drop 9

/-- The parts behind the free value of the terminal evidence. -/
def cleanupParts (r : C2ClearanceReceipt) : List (String × String) :=
  (terminalParts r).drop 3

variable (r : C2ClearanceReceipt)

/-- The text of the last good sample around its two free values. -/
theorem lastGoodText_eq :
    lastGoodText r = ("c2-last-good-v1".toList ++ '|' :: ("case".toList ++ ['='])) ++
      (r.caseName.toList ++
        (joined '|' (segment ("stage", r.lastGoodStage) ::
            ((middleParts r).map segment ++ ["process_source".toList ++ ['=']])) ++
          r.processWddmSource.toList)) ++
      joined '|' ((sampleParts r).map segment) := by
  have hparts : lastGoodParts r = ("case", r.caseName) :: ("stage", r.lastGoodStage) ::
      (middleParts r ++ ("process_source", r.processWddmSource) :: sampleParts r) := rfl
  rw [lastGoodText, labelled_eq, hparts]
  simp only [List.map_cons, List.map_append, joined_cons, joined_append, joined_nil, segment,
    List.append_assoc, List.cons_append, List.nil_append, List.append_nil]

/-- The text of the terminal evidence around its free value. -/
theorem terminalText_eq : terminalText r = "c2-terminal-v1".toList ++
      (joined '|' [segment ("last_good", r.lastGoodSampleSha256), segment ("status", r.status)] ++
        '|' :: (("failure".toList ++ ['=']) ++ r.failureReason.toList)) ++
      joined '|' ((cleanupParts r).map segment) := by
  have hparts : terminalParts r = ("last_good", r.lastGoodSampleSha256) :: ("status", r.status) ::
      ("failure", r.failureReason) :: cleanupParts r := rfl
  rw [terminalText, labelled_eq, hparts]
  simp only [List.map_cons, joined_cons, joined_nil, segment, List.append_assoc,
    List.cons_append, List.nil_append, List.append_nil]

/-- The parts of a text are as many in every receipt. -/
theorem length_parts (r s : C2ClearanceReceipt) :
    ((middleParts r).map segment).length = ((middleParts s).map segment).length ∧
      ((sampleParts r).map segment).length = ((sampleParts s).map segment).length ∧
      ((cleanupParts r).map segment).length = ((cleanupParts s).map segment).length := by
  have hcount : ∀ t : C2ClearanceReceipt, (middleParts t).length = 6 ∧
      (sampleParts t).length = 16 ∧ (cleanupParts t).length = 13 := fun t => ⟨rfl, rfl, rfl⟩
  simp only [List.length_map, hcount, and_self]

/-! ## Values without bars -/

/-- The label of a part is a literal, and checked at every use. -/
theorem bar_segment {label : List Char} {value : String} (hvalue : '|' ∉ value.toList)
    (hlabel : (label.all (· != '|')) = true) : '|' ∉ segment (String.ofList label, value) := by
  intro hbar
  rw [segment, String.toList_ofList] at hbar
  rcases List.mem_append.1 hbar with hbar | hbar
  · have := List.all_eq_true.1 hlabel _ hbar
    exact absurd this (by decide)
  · rcases List.mem_cons.1 hbar with hbar | hbar
    · exact absurd hbar (by decide)
    · exact hvalue hbar

theorem bar_int (i : ℤ) : '|' ∉ (toString i).toList := by
  intro hbar
  exact absurd ((isNumberChar_toString i).2 _ hbar) (by decide)

theorem bar_nat (n : ℕ) : '|' ∉ (toString n).toList :=
  bar_int n

theorem bar_bit (value : Bool) : '|' ∉ (bit value).toList := by
  cases value <;> decide

variable {text : String}

theorem bar_lowerHex {length : ℕ} (h : lowerHex text length = true) : '|' ∉ text.toList := by
  intro hbar
  rw [lowerHex, Bool.and_eq_true] at h
  exact absurd (List.all_eq_true.1 h.2 _ hbar) (by decide)

theorem bar_stage (h : text ∈ ["pre-context", "post-context", "watchdog"]) :
    '|' ∉ text.toList := by
  revert text
  decide

theorem bar_status (h : text ∈ ["candidate-complete", "rejected", "aborted"]) :
    '|' ∉ text.toList := by
  revert text
  decide

theorem bar_cleanupStatus (h : text ∈ ["cleaned", "quarantined"]) : '|' ∉ text.toList := by
  revert text
  decide

theorem middleParts_separable : Separable '|' ((middleParts r).map segment) := by
  show ∀ part ∈ [_, _, _, _, _, _], _
  simp only [List.forall_mem_cons]
  exact ⟨bar_segment (bar_nat _) rfl, bar_segment (bar_int _) rfl, bar_segment (bar_nat _) rfl,
    bar_segment (bar_nat _) rfl, bar_segment (bar_nat _) rfl, bar_segment (bar_nat _) rfl,
    List.forall_mem_nil _⟩

theorem sampleParts_separable : Separable '|' ((sampleParts r).map segment) := by
  show ∀ part ∈ [_, _, _, _, _, _, _, _, _, _, _, _, _, _, _, _], _
  simp only [List.forall_mem_cons]
  exact ⟨bar_segment (bar_nat _) rfl, bar_segment (bar_nat _) rfl, bar_segment (bar_nat _) rfl,
    bar_segment (bar_nat _) rfl, bar_segment (bar_nat _) rfl, bar_segment (bar_nat _) rfl,
    bar_segment (bar_nat _) rfl, bar_segment (bar_int _) rfl, bar_segment (bar_int _) rfl,
    bar_segment (bar_bit _) rfl, bar_segment (bar_bit _) rfl, bar_segment (bar_bit _) rfl,
    bar_segment (bar_bit _) rfl, bar_segment (bar_bit _) rfl, bar_segment (bar_bit _) rfl,
    bar_segment (bar_nat _) rfl, List.forall_mem_nil _⟩

/-- The status and the digests have passed their checks, so that no bar is in them. -/
theorem cleanupParts_separable {r : C2ClearanceReceipt} (h : IdentityValid r) :
    Separable '|' ((cleanupParts r).map segment) := by
  show ∀ part ∈ [_, _, _, _, _, _, _, _, _, _, _, _, _], _
  simp only [List.forall_mem_cons]
  exact ⟨bar_segment (bar_cleanupStatus h.cleanupStatus) rfl,
    bar_segment (bar_lowerHex h.preCleanupEvidenceSha256) rfl,
    bar_segment (bar_lowerHex h.terminalTriggerSha256) rfl, bar_segment (bar_bit _) rfl,
    bar_segment (bar_bit _) rfl, bar_segment (bar_bit _) rfl, bar_segment (bar_bit _) rfl,
    bar_segment (bar_bit _) rfl, bar_segment (bar_bit _) rfl, bar_segment (bar_nat _) rfl,
    bar_segment (bar_nat _) rfl, bar_segment (bar_nat _) rfl, bar_segment (bar_nat _) rfl,
    List.forall_mem_nil _⟩

/-! ## What the texts determine -/

/-- The fields of the last good sample. -/
def lastGoodFields (r : C2ClearanceReceipt) :=
  (r.caseName, r.lastGoodStage, r.rootProcessId, r.adapterLuidHigh, r.adapterLuidLow,
    r.lastSampleMonotonicMilliseconds, r.lastSampleWddmLocalBudgetBytes,
    r.lastSampleWddmLocalUsageBytes, r.processWddmSource, r.processWddmSampleMonotonicMilliseconds,
    r.processWddmCurrentBytes, r.processWddmPeakBytes, r.lastHostSampleMonotonicMilliseconds,
    r.lastHostMemoryAvailableBytes, r.lastHostCommitAvailableBytes,
    r.lastThermalSampleMonotonicMilliseconds, r.lastGpuTemperatureCelsius,
    r.lastGpuSlowdownCelsius, r.lastGpuThermalThrottling, r.lastGpuPowerBrakeSlowdown,
    r.lastWddmAvailable, r.lastProcessWddmAvailable, r.lastHostAvailable, r.lastThermalAvailable,
    r.heartbeatCount)

/-- The receipts agree on the fields of the last good sample. -/
def SameLastGood (r s : C2ClearanceReceipt) : Prop :=
  lastGoodFields r = lastGoodFields s

/-- The fields of the terminal evidence. -/
def terminalFields (r : C2ClearanceReceipt) :=
  (r.lastGoodSampleSha256, r.status, r.failureReason, r.cleanupStatus, r.preCleanupEvidenceSha256,
    r.terminalTriggerSha256, r.workerExitObserved, r.jobTreeEmpty, r.jobAccountingReconciled,
    r.deviceResourcesReconciled, r.artifactHandlesClosed, r.temporaryFilesReconciled,
    r.preWddmLocalUsageBytes, r.finalWddmLocalUsageBytes, r.cleanupWddmPositiveDeltaBytes,
    r.cleanupWddmToleranceBytes)

/-- The receipts agree on the fields of the terminal evidence. -/
def SameTerminal (r s : C2ClearanceReceipt) : Prop :=
  terminalFields r = terminalFields s

/-- A number is read back from its digits. -/
theorem toString_int_inj {i j : ℤ} (h : toString i = toString j) : i = j := by
  rw [← (signedNumeral_toString i).2, h, (signedNumeral_toString j).2]

theorem uint32_inj {x y : UInt32} : toString x.toNat = toString y.toNat ↔ x = y :=
  ⟨fun h => UInt32.toNat_inj.1 (Int.ofNat_inj.1 (toString_int_inj h)), fun h => h ▸ rfl⟩

theorem uint64_inj {x y : UInt64} : toString x.toNat = toString y.toNat ↔ x = y :=
  ⟨fun h => UInt64.toNat_inj.1 (Int.ofNat_inj.1 (toString_int_inj h)), fun h => h ▸ rfl⟩

theorem int32_inj {x y : Int32} : toString x.toInt = toString y.toInt ↔ x = y :=
  ⟨fun h => Int32.toInt_inj.1 (toString_int_inj h), fun h => h ▸ rfl⟩

theorem bit_inj {x y : Bool} : bit x = bit y ↔ x = y := by
  revert x y
  decide

section Injective

variable {r s : C2ClearanceReceipt}

/-- The parts between the free values are longer than a case, and the label of the first
stands nowhere else. -/
theorem middle_marked (h : IdentityValid r) :
    Marked '|' ("stage".toList ++ ['=']) (segment ("stage", r.lastGoodStage))
      ((middleParts r).map segment ++ ["process_source".toList ++ ['=']]) ∧
    ∀ free : String, free.toList.length ≤ 64 →
      free.toList.length + ("stage".toList ++ ['=']).length <
        (joined '|' (segment ("stage", r.lastGoodStage) ::
          ((middleParts r).map segment ++ ["process_source".toList ++ ['=']]))).length := by
  refine ⟨⟨?_, ?_, ?_⟩, ?_⟩
  · refine List.forall_mem_cons.2 ⟨bar_segment (bar_stage h.lastGoodStage) rfl, ?_⟩
    refine List.forall_mem_append.2 ⟨middleParts_separable r, ?_⟩
    simp
  · rw [segment, List.prefix_append_right_inj, List.cons_prefix_cons]
    exact ⟨rfl, List.nil_prefix⟩
  · simp [middleParts, lastGoodParts, segment]
  · intro free hfree
    simp [middleParts, lastGoodParts, segment]
    omega

/-- **The text of the last good sample determines its fields.** -/
theorem sameLastGood_of_text (hr : IdentityValid r) (hs : IdentityValid s)
    (h : lastGoodText r = lastGoodText s) : SameLastGood r s := by
  rw [lastGoodText_eq, lastGoodText_eq] at h
  -- from the right, up to the source of the process sample
  obtain ⟨hfront, hsample⟩ :=
    joined_inj_right (sampleParts_separable r) (sampleParts_separable s) (length_parts r s).2.1 h
  obtain ⟨hmarked, hlong⟩ := middle_marked hr
  obtain ⟨hmarked', hlong'⟩ := middle_marked hs
  obtain ⟨hcase, hrest⟩ := free_inj (by decide) hmarked hmarked'
    (hlong _ (boundedText_iff.1 hs.caseName).2.1) (hlong' _ (boundedText_iff.1 hr.caseName).2.1)
    (List.append_cancel_left hfront)
  -- and the parts in between from the left
  have hsource : joined '|' (segment ("stage", r.lastGoodStage) :: (middleParts r).map segment) ++
        '|' :: (("process_source".toList ++ ['=']) ++ r.processWddmSource.toList) =
      joined '|' (segment ("stage", s.lastGoodStage) :: (middleParts s).map segment) ++
        '|' :: (("process_source".toList ++ ['=']) ++ s.processWddmSource.toList) := by
    simpa [joined_append] using hrest
  obtain ⟨hmiddle, hsource⟩ := joined_inj_left
    (List.forall_mem_cons.2
      ⟨bar_segment (bar_stage hr.lastGoodStage) rfl, middleParts_separable r⟩)
    (List.forall_mem_cons.2
      ⟨bar_segment (bar_stage hs.lastGoodStage) rfl, middleParts_separable s⟩)
    (congrArg Nat.succ (length_parts r s).1) hsource
  have hmiddle := @parts_of_segments (("stage", r.lastGoodStage) :: middleParts r)
    (("stage", s.lastGoodStage) :: middleParts s) rfl hmiddle
  have hsample := @parts_of_segments (sampleParts r) (sampleParts s) rfl hsample
  simp only [middleParts, sampleParts, lastGoodParts, List.drop_succ_cons, List.drop_zero,
    List.take_succ_cons, List.take_zero, List.cons.injEq, Prod.mk.injEq, true_and, and_true,
    uint32_inj, uint64_inj, int32_inj, bit_inj] at hmiddle hsample
  have hcase := String.toList_inj.1 hcase
  have hsource := String.toList_inj.1 (List.append_cancel_left hsource)
  simp only [SameLastGood, lastGoodFields, hcase, hmiddle, hsource, hsample]

/-- **The text of the terminal evidence determines its fields.** -/
theorem sameTerminal_of_text (hr : IdentityValid r) (hs : IdentityValid s)
    (h : terminalText r = terminalText s) : SameTerminal r s := by
  rw [terminalText_eq, terminalText_eq] at h
  obtain ⟨hfront, hcleanup⟩ :=
    joined_inj_right (cleanupParts_separable hr) (cleanupParts_separable hs)
      (length_parts r s).2.2 h
  have hseparable : ∀ {t : C2ClearanceReceipt}, IdentityValid t →
      Separable '|'
        [segment ("last_good", t.lastGoodSampleSha256), segment ("status", t.status)] := by
    intro t ht
    refine List.forall_mem_cons.2 ⟨bar_segment (bar_lowerHex ht.lastGoodSampleSha256) rfl, ?_⟩
    exact List.forall_mem_singleton.2 (bar_segment (bar_status ht.status) rfl)
  obtain ⟨hstart, hfailure⟩ :=
    joined_inj_left (hseparable hr) (hseparable hs) rfl (List.append_cancel_left hfront)
  have hstart := @parts_of_segments
    [("last_good", r.lastGoodSampleSha256), ("status", r.status)]
    [("last_good", s.lastGoodSampleSha256), ("status", s.status)] rfl hstart
  have hcleanup := @parts_of_segments (cleanupParts r) (cleanupParts s) rfl hcleanup
  simp only [cleanupParts, terminalParts, List.drop_succ_cons, List.drop_zero, List.cons.injEq,
    Prod.mk.injEq, true_and, and_true, uint64_inj, bit_inj] at hstart hcleanup
  have hfailure := String.toList_inj.1 (List.append_cancel_left hfailure)
  simp only [SameTerminal, terminalFields, hstart, hfailure, hcleanup]

end Injective

/-! ## What the digests determine -/

/-- The hash does not give the two texts one digest, unless they are one text. -/
def NoCollision (sha256 : List Char → Option String) (text text' : List Char) : Prop :=
  ∀ digest, sha256 text = some digest → sha256 text' = some digest → text = text'

section Digests

variable {sha256 : List Char → Option String} {r s : C2ClearanceReceipt}

/-- Under one digest, accepted receipts have one last good sample. -/
theorem sameLastGood_of_digest (hcollision : NoCollision sha256 (lastGoodText r) (lastGoodText s))
    (hr : validateC2ClearanceReceiptFile sha256 (serializeC2ClearanceReceipt r) = .ok ())
    (hs : validateC2ClearanceReceiptFile sha256 (serializeC2ClearanceReceipt s) = .ok ())
    (h : s.lastGoodSampleSha256 = r.lastGoodSampleSha256) : SameLastGood r s := by
  obtain ⟨hidr, -, hhashr⟩ := validate_serialize_iff.1 hr
  obtain ⟨hids, -, hhashs⟩ := validate_serialize_iff.1 hs
  refine sameLastGood_of_text hidr hids (hcollision _ (hashesMatch_iff.1 hhashr).2.1 ?_)
  rw [(hashesMatch_iff.1 hhashs).2.1, h]

/-- Under one digest, accepted receipts have one terminal evidence. -/
theorem sameTerminal_of_digest (hcollision : NoCollision sha256 (terminalText r) (terminalText s))
    (hr : validateC2ClearanceReceiptFile sha256 (serializeC2ClearanceReceipt r) = .ok ())
    (hs : validateC2ClearanceReceiptFile sha256 (serializeC2ClearanceReceipt s) = .ok ())
    (h : s.evidenceBundleSha256 = r.evidenceBundleSha256) : SameTerminal r s := by
  obtain ⟨hidr, -, hhashr⟩ := validate_serialize_iff.1 hr
  obtain ⟨hids, -, hhashs⟩ := validate_serialize_iff.1 hs
  refine sameTerminal_of_text hidr hids (hcollision _ (hashesMatch_iff.1 hhashr).2.2 ?_)
  rw [(hashesMatch_iff.1 hhashs).2.2, h]

end Digests

/-- **The hashed texts bind the fields in them.** Receipts that pass the checks have equal
texts only if they agree on every field in the text. So a receipt that differs from an
accepted one in such a field, and keeps the digest that covers it, is rejected: the digest
of the last good sample covers the fields of the sample, and the digest of the bundle
covers all fields of both texts. -/
theorem evidence_binds_fields (r s : C2ClearanceReceipt) :
    (IdentityValid r → IdentityValid s → lastGoodText r = lastGoodText s → SameLastGood r s) ∧
      (IdentityValid r → IdentityValid s → terminalText r = terminalText s →
        SameTerminal r s) ∧
      ∀ sha256, NoCollision sha256 (lastGoodText r) (lastGoodText s) →
        NoCollision sha256 (terminalText r) (terminalText s) →
        validateC2ClearanceReceiptFile sha256 (serializeC2ClearanceReceipt r) = .ok () →
        (s.lastGoodSampleSha256 = r.lastGoodSampleSha256 ∧ ¬SameLastGood r s ∨
          s.evidenceBundleSha256 = r.evidenceBundleSha256 ∧
            ¬(SameLastGood r s ∧ SameTerminal r s)) →
        validateC2ClearanceReceiptFile sha256 (serializeC2ClearanceReceipt s) ≠ .ok () := by
  refine ⟨sameLastGood_of_text, sameTerminal_of_text, ?_⟩
  intro sha256 hlastGood hterminal hr hchanged hs
  rcases hchanged with ⟨hdigest, hdiffers⟩ | ⟨hdigest, hdiffers⟩
  · exact hdiffers (sameLastGood_of_digest hlastGood hr hs hdigest)
  · -- the digest of the sample is itself a field of the terminal evidence
    have hsame := sameTerminal_of_digest hterminal hr hs hdigest
    have hsample := sameLastGood_of_digest hlastGood hr hs (congrArg Prod.fst hsame).symm
    exact hdiffers ⟨hsample, hsame⟩

namespace Fixture

/-- The receipt with another reason, and the same digests. -/
def forged : C2ClearanceReceipt :=
  { receipt with failureReason := "" }

theorem forged_bundle : sha256Text (terminalText forged) =
    some "217e2911579877a9de7760cb68d22934c7ccae6d0fd23e879e0005d2981f437f" := by
  decide +kernel

end Fixture

theorem evidence_binds_fields_on_fixture :
    validateC2ClearanceReceiptFile sha256Text (serializeC2ClearanceReceipt Fixture.receipt) =
        .ok () ∧
      validateC2ClearanceReceiptFile sha256Text (serializeC2ClearanceReceipt Fixture.forged) ≠
        .ok () := by
  refine ⟨Fixture.receipt_accepted, ?_⟩
  refine (evidence_binds_fields Fixture.receipt Fixture.forged).2.2 sha256Text
    (fun _ _ _ => rfl) ?_ Fixture.receipt_accepted (.inr ⟨rfl, ?_⟩)
  · intro digest hr hs
    rw [Fixture.receipt_bundle, ← hs, Fixture.forged_bundle] at hr
    exact absurd hr (by decide)
  · rintro ⟨-, hsame⟩
    exact absurd (congrArg (·.2.2.1) hsame) (by decide)

end PrismInfer.Validation
