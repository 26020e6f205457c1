import PrismInfer.Telemetry.Jsonl

/-!
# The claim gate of the probe

What `prism-probe` judges before it loads a model when claim validation is on: the simulated
plan of a 90B model must fit the cap, the evidence must support the label of the claim, and a
benchmark or deployable claim must be usable.

The plan is fixed but for the cap.
-/

namespace PrismInfer.Probe

open PrismInfer.Telemetry

/-! ## The plan -/

def kMaxGpuCapBytes : UInt64 := 17179869184

/-- `HybridPlan`: the fields that the check reads. -/
structure HybridPlan where
  hardVramCapBytes : UInt64 := 17179869184
  (residentWeightBytes weightMetadataBytes residentKvBytes workspaceBytes runtimeOverheadBytes
    safetyMarginBytes : UInt64 := 0)

structure HybridPlanResult where
  ok : Bool := false
  failureReason : String := ""
  residentGpuTotalBytes : UInt64 := 0
  deriving DecidableEq, Repr

/-- `add_u64`. -/
def addU64 (lhs rhs : UInt64) : Option UInt64 :=
  if 0xFFFFFFFFFFFFFFFF - lhs < rhs then none else some (lhs + rhs)

/-- The resident bytes of a plan, if they can be added. -/
def HybridPlan.total (plan : HybridPlan) : Option UInt64 :=
  [plan.residentWeightBytes, plan.weightMetadataBytes, plan.residentKvBytes,
   plan.workspaceBytes, plan.runtimeOverheadBytes, plan.safetyMarginBytes].foldlM addU64 0

/-- `validate_hybrid_plan`. -/
def validateHybridPlan (plan : HybridPlan) : HybridPlanResult :=
  if plan.hardVramCapBytes = 0 ∨ kMaxGpuCapBytes < plan.hardVramCapBytes then
    { failureReason := "hard_vram_cap_out_of_scope" }
  else
    match plan.total with
    | none => { failureReason := "resident_gpu_total_overflow" }
    | some total =>
      if plan.hardVramCapBytes < total then
        { failureReason := "resident_gpu_budget_exceeded", residentGpuTotalBytes := total }
      else { ok := true, residentGpuTotalBytes := total }

/-- `make_90b_simulated_plan`. -/
def make90bSimulatedPlan (hardVramCapBytes : UInt64) : HybridPlan where
  hardVramCapBytes := hardVramCapBytes
  residentWeightBytes := 8 * 1024 * 1024 * 1024
  weightMetadataBytes := 512 * 1024 * 1024
  residentKvBytes := 2 * 1024 * 1024 * 1024
  workspaceBytes := 1024 * 1024 * 1024
  runtimeOverheadBytes := 1024 * 1024 * 1024
  safetyMarginBytes := 512 * 1024 * 1024

/-! ## The claim -/

structure ClaimEvidence where
  claimLabel : String := "metadata-only"
  (validationCellId modelHash quantizationFormat quantArtifactSha256 : String := "")
  (simulatedEvidence measuredEvidence capPassed qualityPassed profitabilityPassed usabilityPassed
    repeatabilityPassed runbookPresent : Bool := false)

structure ClaimDecision where
  accepted : Bool := false
  status : String := "rejected"
  reason : String := ""
  deriving DecidableEq, Repr

def ClaimDecision.reject (reason : String) : ClaimDecision := ⟨false, "rejected", reason⟩

def ClaimDecision.accept : ClaimDecision := ⟨true, "accepted", ""⟩

/-- `valid_claim_label`. -/
def validClaimLabel (label : String) : Bool :=
  ["metadata-only", "simulated", "measured-offload", "validated-benchmark",
   "deployable-profile", "rejected"].contains label

/-- `validate_claim_evidence`. -/
def validateClaimEvidence (evidence : ClaimEvidence) : ClaimDecision :=
  if !validClaimLabel evidence.claimLabel then .reject "claim_label_invalid"
  else if evidence.claimLabel = "rejected" then ⟨true, "rejected", ""⟩
  else if evidence.validationCellId = "" then .reject "validation_cell_required"
  else if evidence.claimLabel = "metadata-only" then .accept
  else if evidence.claimLabel = "simulated" then
    if evidence.simulatedEvidence then .accept else .reject "simulated_evidence_required"
  else if evidence.modelHash = "" then .reject "model_hash_required"
  else if evidence.quantizationFormat = "" ∨ evidence.quantArtifactSha256 = "" then
    .reject "quantization_evidence_required"
  else if evidence.claimLabel = "measured-offload" then
    if evidence.measuredEvidence then .accept else .reject "measured_evidence_required"
  else if evidence.simulatedEvidence && !evidence.measuredEvidence then
    .reject "simulated_evidence_cannot_validate_claim"
  else if !evidence.capPassed then .reject "cap_evidence_required"
  else if !evidence.qualityPassed then .reject "quality_evidence_required"
  else if !evidence.profitabilityPassed then .reject "profitability_evidence_required"
  else if !evidence.usabilityPassed then .reject "usability_evidence_required"
  else if !evidence.repeatabilityPassed then .reject "repeatability_evidence_required"
  else if evidence.claimLabel = "deployable-profile" ∧ !evidence.runbookPresent then
    .reject "deployment_runbook_required"
  else .accept

/-! ## The gate -/

structure UsabilityResult where
  accepted : Bool := false
  status : String := "rejected"
  reason : String := ""

/-- What the gate found. -/
structure GateResult where
  hybridPlan : HybridPlanResult
  claim : ClaimDecision
  usability : UsabilityResult

/-- The judgements of `main` before it loads a model. The quality and the profitability are
those of the fresh records, which have passed. The policy on usability judges measured times;
its answer is given. -/
def judgeClaim (config : RuntimeConfig) (evaluateUsability : UsabilityResult) : GateResult :=
  let hybridPlan := validateHybridPlan (make90bSimulatedPlan config.hardCapBytes)
  { hybridPlan := hybridPlan
    claim := validateClaimEvidence
      { claimLabel := config.claimLabel
        validationCellId := config.validationCellId
        modelHash := ""
        quantizationFormat := config.quantizationFormat
        quantArtifactSha256 := config.quantArtifactSha256
        simulatedEvidence := config.simulatedEvidence
        measuredEvidence := config.measuredEvidence
        capPassed := hybridPlan.ok
        qualityPassed := true
        profitabilityPassed := true
        usabilityPassed := false
        repeatabilityPassed := config.repeatabilityPassed
        runbookPresent := config.deploymentRunbookPresent }
    usability :=
      if config.claimLabel = "validated-benchmark" ∨ config.claimLabel = "deployable-profile" then
        evaluateUsability
      else ⟨true, "skipped", ""⟩ }

/-- `phase4_ok`. -/
def GateResult.ok (gate : GateResult) : Bool :=
  gate.hybridPlan.ok && gate.claim.accepted && gate.usability.accepted

/-- `phase4_reason`. -/
def GateResult.reason (gate : GateResult) : String :=
  if !gate.hybridPlan.ok then gate.hybridPlan.failureReason
  else if !gate.claim.accepted then gate.claim.reason
  else gate.usability.reason

end PrismInfer.Probe
