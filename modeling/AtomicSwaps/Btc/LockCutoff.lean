import AtomicSwaps.Btc.RefundOrder

namespace AtomicSwaps.Btc

open AtomicSwaps.Core Fallible

/-- An agreement that passed validation, with the coordinator its signed body derives. -/
structure ExecutableAgreement where
  swapIdText : Bytes32 → String
  body : BtcAgreementBodyV1
  schedule : RecoverySchedule
  coordinator : SwapCoordinator
  recovered : reconstructRecovery body = .ok schedule
  derived : deriveInitialCoordinator swapIdText body schedule = .ok coordinator

namespace ExecutableAgreement

variable (agreement : ExecutableAgreement)

def makerChain : Chain := agreement.coordinator.fundedChain .maker

def cutoff : Nat := agreement.body.recovery.makerSecondLockCutoffUnixSeconds

end ExecutableAgreement

inductive ActorCommandError
  | agreementBindingInvalid | observationUnavailable

inductive CanonicalInclusionTimeV1
  | bitcoin (medianTimeUnixSeconds : Nat)
  | lez (timestampMs : Nat)
deriving DecidableEq

namespace CanonicalInclusionTimeV1

def chain : CanonicalInclusionTimeV1 → Chain
  | .bitcoin _ => .bitcoin
  | .lez _ => .lez

def isAtOrBeforeCutoff (cutoff : Nat) : CanonicalInclusionTimeV1 → Bool
  | .bitcoin median => decide (median ≤ cutoff)
  | .lez timestampMs => (checkedMul cutoff 1000).any (decide <| timestampMs ≤ ·)

def unixSeconds : CanonicalInclusionTimeV1 → Nat
  | .bitcoin median => median
  | .lez timestampMs => timestampMs / 1000

def native : CanonicalInclusionTimeV1 → Nat
  | .bitcoin median => median
  | .lez timestampMs => timestampMs

def nativeCutoff (cutoff : Nat) : CanonicalInclusionTimeV1 → Nat
  | .bitcoin _ => cutoff
  | .lez _ => cutoff * 1000

end CanonicalInclusionTimeV1

def canonicalMakerLockIsTimely (makerChain : Chain) (inclusion : CanonicalInclusionTimeV1) (cutoff : Nat) : Bool :=
  decide (inclusion.chain = makerChain) && inclusion.isAtOrBeforeCutoff cutoff

@[ext] structure DiscoveryWindow where
  (startHeight maxBlocks : Nat)
  nonempty : 0 < maxBlocks

instance : DecidableEq DiscoveryWindow := fun _ _ => decidable_of_iff' _ DiscoveryWindow.ext_iff

structure FundingRequest where
  context : Bytes32
  window : DiscoveryWindow
deriving DecidableEq

structure ChainClock where
  (height timestampMs : Nat)

structure FinalizedWitnessedFundingFacts where
  transactionId : Bytes32
  blockTimestampMs : Nat
  (metadataAccount custodyAccount : Bytes32)

inductive FinalizedWitnessedFundingPresence
  | found (context : Bytes32) (clock : ChainClock) (window : DiscoveryWindow)
      (funding : FinalizedWitnessedFundingFacts)
  | absent (context : Bytes32) (clock : ChainClock) (window : DiscoveryWindow)
  | uncertain

structure StableTip where
  blockHash : Bytes32
  (height medianTimeUnixSeconds : Nat)

inductive FundingObservation
  | absent (stableTip : StableTip)
  | pending
  | ready (transactionId : Bytes32) (confirmations blockMedianTimeUnixSeconds : Nat)
      (coreEvidence : Option (List UInt8))

/-- What a read found, as the record its evidence bytes encode. -/
inductive SafetyEvidence
  | late (readOrdinal : Nat) (transactionId : Bytes32) (inclusion : CanonicalInclusionTimeV1)
  | lezFound (readOrdinal : Nat) (request : FundingRequest) (clock : ChainClock) (window : DiscoveryWindow)
      (funding : FinalizedWitnessedFundingFacts)
  | lezAbsent (readOrdinal : Nat) (request : FundingRequest) (clock : ChainClock) (window : DiscoveryWindow)
  | bitcoinFound (readOrdinal : Nat) (coreEvidence : List UInt8)
  | bitcoinAbsent (readOrdinal : Nat) (stableTip : StableTip)

inductive FirstLockRecoverySafetyObservation
  | uncertain (makerChain : Chain)
  | makerLockReady (chain : Chain) (transactionId : Bytes32) (confirmations : Nat) (evidence : SafetyEvidence)
  | readyToRefund (makerChain : Chain) (cutoffUnixSeconds observedUnixSeconds : Nat) (evidence : SafetyEvidence)

structure MakerLockCutoffEvidenceV1 where
  makerChain : Chain
  cutoffUnixSeconds : Nat
  canonicalInclusionTime : CanonicalInclusionTimeV1
  chainEvidence : List UInt8

section Model

variable (agreement : ExecutableAgreement) (readOrdinal : Nat)

def isReadOrdinal : Prop := readOrdinal = 1 ∨ readOrdinal = 2

instance : Decidable (isReadOrdinal readOrdinal) := inferInstanceAs (Decidable (_ ∨ _))

def classifyLateMakerLock (makerChain : Chain) (inclusion : CanonicalInclusionTimeV1) (transactionId : Bytes32) :
    Except ActorCommandError (Option FirstLockRecoverySafetyObservation) :=
  if canonicalMakerLockIsTimely makerChain inclusion agreement.cutoff then .ok none
  else if ¬isReadOrdinal readOrdinal ∨ inclusion.chain ≠ makerChain then .error .agreementBindingInvalid
  else .ok (some (.readyToRefund makerChain agreement.cutoff inclusion.unixSeconds
    (.late readOrdinal transactionId inclusion)))

def encodeMakerLockCutoffEvidence (makerChain : Chain) (inclusion : CanonicalInclusionTimeV1)
    (chainEvidence : List UInt8) : Except ActorCommandError MakerLockCutoffEvidenceV1 := do
  ensure (makerChain = agreement.makerChain ∧
    canonicalMakerLockIsTimely makerChain inclusion agreement.cutoff = true ∧ chainEvidence ≠ [])
    .agreementBindingInvalid
  return ⟨makerChain, agreement.cutoff, inclusion, chainEvidence⟩

-- The deterministic funding request of the configured role for one read.
variable (requestFor : Nat → Except ActorCommandError FundingRequest)

def encodeLezMakerLockFoundEvidence (request : FundingRequest) (context : Bytes32) (clock : ChainClock)
    (window : DiscoveryWindow) (funding : FinalizedWitnessedFundingFacts) :
    Except ActorCommandError SafetyEvidence := do
  let windowEnd ← required (checkedAdd request.window.startHeight (request.window.maxBlocks - 1))
    .observationUnavailable
  let expected ← requestFor readOrdinal
  ensure (isReadOrdinal readOrdinal ∧ agreement.makerChain = .lez ∧ request = expected ∧
    context = request.context ∧ window = request.window ∧ windowEnd ≤ clock.height ∧
    funding.metadataAccount = agreement.body.lez.metadataAccount ∧
    funding.custodyAccount = agreement.body.lez.custodyAccount) .agreementBindingInvalid
  return .lezFound readOrdinal request clock window funding

def encodeLezMakerLockAbsenceEvidence (request : FundingRequest) (context : Bytes32) (clock : ChainClock)
    (window : DiscoveryWindow) : Except ActorCommandError SafetyEvidence := do
  let cutoffMs ← required (checkedMul agreement.cutoff 1000) .agreementBindingInvalid
  let windowEnd ← required (checkedAdd request.window.startHeight (request.window.maxBlocks - 1))
    .observationUnavailable
  let expected ← requestFor readOrdinal
  ensure (isReadOrdinal readOrdinal ∧ agreement.makerChain = .lez ∧ request = expected ∧
    context = request.context ∧ window = request.window ∧ windowEnd = clock.height ∧
    cutoffMs ≤ clock.timestampMs) .agreementBindingInvalid
  return .lezAbsent readOrdinal request clock window

/-- One read of `LiveLezMakerLockSafety`; no answer stands for a failed transport or classification. -/
def observeLez (presence : Option FinalizedWitnessedFundingPresence) :
    Except ActorCommandError FirstLockRecoverySafetyObservation := do
  ensure (agreement.makerChain = .lez) .agreementBindingInvalid
  let request ← requestFor readOrdinal
  match presence with
  | some (.found context clock window funding) =>
    match ← classifyLateMakerLock agreement readOrdinal agreement.makerChain (.lez funding.blockTimestampMs)
      funding.transactionId with
    | some late => return late
    | none =>
      let evidence ← encodeLezMakerLockFoundEvidence agreement readOrdinal requestFor request context clock
        window funding
      return .makerLockReady agreement.makerChain funding.transactionId finalizedLezConfirmationUnits evidence
  | some (.absent context clock window) =>
    if clock.timestampMs / 1000 < agreement.cutoff then return .uncertain agreement.makerChain
    else
      let evidence ← encodeLezMakerLockAbsenceEvidence agreement readOrdinal requestFor request context clock window
      return .readyToRefund agreement.makerChain agreement.cutoff (clock.timestampMs / 1000) evidence
  | some .uncertain | none => return .uncertain agreement.makerChain

def encodeBitcoinMakerLockFoundEvidence (coreEvidence : List UInt8) : Except ActorCommandError SafetyEvidence := do
  ensure (isReadOrdinal readOrdinal ∧ agreement.makerChain = .bitcoin ∧ coreEvidence ≠ [])
    .agreementBindingInvalid
  return .bitcoinFound readOrdinal coreEvidence

def encodeBitcoinMakerLockAbsenceEvidence (stableTip : StableTip) : Except ActorCommandError SafetyEvidence := do
  ensure (isReadOrdinal readOrdinal ∧ agreement.makerChain = .bitcoin ∧
    agreement.cutoff ≤ stableTip.medianTimeUnixSeconds) .agreementBindingInvalid
  return .bitcoinAbsent readOrdinal stableTip

def observeBitcoin (observation : Option FundingObservation) :
    Except ActorCommandError FirstLockRecoverySafetyObservation := do
  ensure (agreement.makerChain = .bitcoin) .agreementBindingInvalid
  match observation with
  | some (.ready transactionId confirmations median coreEvidence) =>
    match ← classifyLateMakerLock agreement readOrdinal agreement.makerChain (.bitcoin median) transactionId with
    | some late => return late
    | none =>
      let core ← required coreEvidence .observationUnavailable
      let evidence ← encodeBitcoinMakerLockFoundEvidence agreement readOrdinal core
      return .makerLockReady agreement.makerChain transactionId confirmations evidence
  | some (.absent stableTip) =>
    if stableTip.medianTimeUnixSeconds < agreement.cutoff then return .uncertain agreement.makerChain
    else
      let evidence ← encodeBitcoinMakerLockAbsenceEvidence agreement readOrdinal stableTip
      return .readyToRefund agreement.makerChain agreement.cutoff stableTip.medianTimeUnixSeconds evidence
  | some .pending | none => return .uncertain agreement.makerChain

inductive AbsenceRead
  | lez (context : Bytes32) (clock : ChainClock) (window : DiscoveryWindow)
  | bitcoin (stableTip : StableTip)

def AbsenceRead.tip : AbsenceRead → CanonicalInclusionTimeV1
  | .lez _ clock _ => .lez clock.timestampMs
  | .bitcoin stableTip => .bitcoin stableTip.medianTimeUnixSeconds

def AbsenceRead.observe : AbsenceRead → Except ActorCommandError FirstLockRecoverySafetyObservation
  | .lez context clock window =>
    observeLez agreement readOrdinal requestFor (some (.absent context clock window))
  | .bitcoin stableTip => observeBitcoin agreement readOrdinal (some (.absent stableTip))

end Model

/-- The canonical blocks of one chain, whose own clock never goes back. -/
structure CanonicalHistory (chain : Chain) where
  block : Nat → CanonicalInclusionTimeV1
  onChain : ∀ height, (block height).chain = chain
  ordered : ∀ low high, low ≤ high → (block low).native ≤ (block high).native

/-- The lock may be projected with this evidence; the recovery may run past this inclusion. -/
def Projects (agreement : ExecutableAgreement) (inclusion : CanonicalInclusionTimeV1)
    (evidence : List UInt8) : Prop :=
  ∃ proof, encodeMakerLockCutoffEvidence agreement agreement.makerChain inclusion evidence = .ok proof

def Recovers (agreement : ExecutableAgreement) (readOrdinal : Nat) (inclusion : CanonicalInclusionTimeV1)
    (transactionId : Bytes32) : Prop :=
  ∃ cutoff observed evidence,
    classifyLateMakerLock agreement readOrdinal agreement.makerChain inclusion transactionId =
      .ok (some (.readyToRefund agreement.makerChain cutoff observed evidence))

section Split

variable {agreement : ExecutableAgreement} {readOrdinal : Nat} {inclusion tip : CanonicalInclusionTimeV1}
  {cutoff : Nat}

theorem nativeCutoff_of_chain (same : inclusion.chain = tip.chain) :
    inclusion.nativeCutoff cutoff = tip.nativeCutoff cutoff := by
  cases inclusion <;> cases tip <;> first | rfl | cases same

theorem isAtOrBeforeCutoff_iff (fits : inclusion.nativeCutoff cutoff < u64Limit) :
    inclusion.isAtOrBeforeCutoff cutoff = true ↔ inclusion.native ≤ inclusion.nativeCutoff cutoff := by
  cases inclusion with
  | bitcoin median => exact decide_eq_true_iff
  | lez timestampMs =>
    have whole : checkedMul cutoff 1000 = some (cutoff * 1000) := if_pos fits
    simp only [CanonicalInclusionTimeV1.isAtOrBeforeCutoff, whole, Option.any_some, decide_eq_true_eq]
    exact Iff.rfl

theorem projects_iff {evidence : List UInt8} (onMakerChain : inclusion.chain = agreement.makerChain)
    (given : evidence ≠ []) :
    Projects agreement inclusion evidence ↔ inclusion.isAtOrBeforeCutoff agreement.cutoff = true := by
  simp only [Projects, encodeMakerLockCutoffEvidence, checked_ok, pure_ok, canonicalMakerLockIsTimely,
    onMakerChain, decide_true, Bool.true_and, true_and]
  constructor
  · rintro ⟨proof, ⟨timely, -⟩, -⟩
    exact timely
  · intro timely
    exact ⟨_, ⟨timely, given⟩, rfl⟩

theorem recovers_iff (ordinal : isReadOrdinal readOrdinal) (onMakerChain : inclusion.chain = agreement.makerChain)
    (transactionId : Bytes32) :
    Recovers agreement readOrdinal inclusion transactionId ↔
      ¬inclusion.isAtOrBeforeCutoff agreement.cutoff = true := by
  have timely : canonicalMakerLockIsTimely agreement.makerChain inclusion agreement.cutoff =
      inclusion.isAtOrBeforeCutoff agreement.cutoff := by
    simp only [canonicalMakerLockIsTimely, onMakerChain, decide_true, Bool.true_and]
  unfold Recovers classifyLateMakerLock
  rw [timely]
  by_cases early : inclusion.isAtOrBeforeCutoff agreement.cutoff = true
  · simp [early]
  · simp [early, ordinal, onMakerChain]

theorem observe_accepts {requestFor : Nat → Except ActorCommandError FundingRequest} {read : AbsenceRead}
    {chain : Chain} {observed : Nat} {evidence : SafetyEvidence}
    (accepted : read.observe agreement readOrdinal requestFor =
      .ok (.readyToRefund chain cutoff observed evidence)) :
    read.tip.chain = agreement.makerChain ∧ read.tip.nativeCutoff agreement.cutoff < u64Limit := by
  cases read with
  | lez context clock window =>
    simp only [AbsenceRead.observe, observeLez, checked_ok] at accepted
    obtain ⟨-, request, -, accepted⟩ := accepted
    split at accepted
    · cases accepted
    · simp only [encodeLezMakerLockAbsenceEvidence, checked_ok, required_ok_iff] at accepted
      obtain ⟨-, ⟨cutoffMs, whole, -, -, -, -, ⟨-, onLez, -, -, -, -, -⟩, -⟩, -⟩ := accepted
      simp only [checkedMul, Option.ite_none_right_eq_some, Option.some.injEq] at whole
      obtain ⟨fits, rfl⟩ := whole
      exact ⟨onLez.symm, fits⟩
  | bitcoin stableTip =>
    simp only [AbsenceRead.observe, observeBitcoin, checked_ok] at accepted
    obtain ⟨-, accepted⟩ := accepted
    split at accepted
    · cases accepted
    · simp only [encodeBitcoinMakerLockAbsenceEvidence, checked_ok] at accepted
      obtain ⟨-, ⟨⟨-, onBitcoin, -⟩, -⟩, -⟩ := accepted
      have signed := agreement.recovered
      simp only [reconstructRecovery, checked_ok] at signed
      have bound := signed.1.2.2.1
      exact ⟨onBitcoin.symm, Nat.lt_of_le_of_lt (Nat.le_add_right _ _) bound⟩

/-- The two answers part every canonical inclusion time; an accepted absence shuts out every later
    timely lock exactly when its tip is strictly past the cutoff, in the chain's own unit. -/
theorem cutoff_splits_history_iff (agreement : ExecutableAgreement) (readOrdinal : Nat) :
    (∀ (requestFor : Nat → Except ActorCommandError FundingRequest) (read : AbsenceRead) (chain : Chain)
        (cutoff observed : Nat) (absence : SafetyEvidence),
      read.observe agreement readOrdinal requestFor = .ok (.readyToRefund chain cutoff observed absence) →
        ((∀ (history : CanonicalHistory agreement.makerChain) (height : Nat), history.block height = read.tip →
            ∀ later, height < later → ∀ evidence, ¬Projects agreement (history.block later) evidence) ↔
          read.tip.nativeCutoff agreement.cutoff < read.tip.native)) ∧
    (isReadOrdinal readOrdinal →
      ∀ (inclusion : CanonicalInclusionTimeV1) (transactionId : Bytes32) (evidence : List UInt8),
        inclusion.chain = agreement.makerChain → evidence ≠ [] →
          (Projects agreement inclusion evidence ↔ ¬Recovers agreement readOrdinal inclusion transactionId)) := by
  constructor
  · intro requestFor read chain cutoff observed absence accepted
    obtain ⟨onMakerChain, fits⟩ := observe_accepts accepted
    constructor
    · intro shut
      -- A chain that stands still at the tip's time leaves room for a lock at the cutoff itself.
      have still := shut ⟨fun _ => read.tip, fun _ => onMakerChain, fun _ _ _ => Nat.le_refl _⟩ 0 rfl 1
        (by decide) [0]
      rw [projects_iff onMakerChain (by decide), isAtOrBeforeCutoff_iff fits] at still
      exact Nat.lt_of_not_le still
    · intro past history height atTip later after evidence projected
      have onChain := history.onChain later
      have sameCutoff : (history.block later).nativeCutoff agreement.cutoff =
          read.tip.nativeCutoff agreement.cutoff := nativeCutoff_of_chain (onChain.trans onMakerChain.symm)
      have given : evidence ≠ [] := by
        obtain ⟨proof, encoded⟩ := projected
        simp only [encodeMakerLockCutoffEvidence, checked_ok] at encoded
        exact encoded.1.2.2
      rw [projects_iff onChain given, isAtOrBeforeCutoff_iff (sameCutoff ▸ fits)] at projected
      have grows := history.ordered height later (Nat.le_of_lt after)
      rw [atTip] at grows
      omega
  · intro ordinal inclusion transactionId evidence onChain given
    rw [projects_iff onChain given, recovers_iff ordinal onChain, Classical.not_not]

end Split

section Samples

set_option maxRecDepth 4000

def sampleAgreement : ExecutableAgreement where
  swapIdText _ := "07"
  body := sampleBody (samplePlan 0)
  schedule := _
  coordinator := _
  recovered := ok_get rfl
  derived := ok_get rfl

def sampleRequest : FundingRequest := ⟨5, 100, 10, by decide⟩

/-- The finalized LEZ tip carries the given time; the signed cutoff is second 1010800. -/
def sampleAbsence (timestampMs : Nat) : AbsenceRead :=
  .lez 5 ⟨109, timestampMs⟩ sampleRequest.window

theorem cutoff_splits_history_iff_sample :
    (∃ observed absence, (sampleAbsence 1010801000).observe sampleAgreement 1 (fun _ => .ok sampleRequest) =
        .ok (.readyToRefund .lez 1010800 observed absence) ∧
      ∀ (history : CanonicalHistory sampleAgreement.makerChain) (height : Nat),
        history.block height = .lez 1010801000 → ∀ later, height < later →
          ∀ evidence, ¬Projects sampleAgreement (history.block later) evidence) ∧
    ¬Recovers sampleAgreement 1 (.lez 1010800000) 5 := by
  have splits := cutoff_splits_history_iff sampleAgreement 1
  constructor
  · refine ⟨_, _, rfl, ?_⟩
    exact (splits.1 (fun _ => .ok sampleRequest) (sampleAbsence 1010801000) .lez 1010800 _ _ rfl).mpr (by decide)
  · exact (splits.2 (by decide) (.lez 1010800000) 5 [1] rfl (by decide)).mp ⟨_, rfl⟩

/-- The absence is accepted at a tip whose time is the cutoff, and a lock in the next block, with the
    same time, is projected. -/
theorem lock_projected_after_accepted_absence :
    ∃ observed absence, ∃ history : CanonicalHistory sampleAgreement.makerChain,
      (sampleAbsence 1010800000).observe sampleAgreement 1 (fun _ => .ok sampleRequest) =
        .ok (.readyToRefund .lez 1010800 observed absence) ∧
      history.block 0 = (sampleAbsence 1010800000).tip ∧ Projects sampleAgreement (history.block 1) [1] :=
  ⟨_, _, ⟨fun _ => .lez 1010800000, fun _ => rfl, fun _ _ _ => Nat.le_refl _⟩, rfl, rfl, _, rfl⟩

end Samples

end AtomicSwaps.Btc
