import AtomicSwaps.Zec.Locks

namespace AtomicSwaps.Zec

open AtomicSwaps.Core AtomicSwaps.Escrow Fallible

inductive ClaimStepV1
  | revealingLez | followupZcash
deriving DecidableEq

namespace ClaimStepV1

def claimant (agreement : ZecAgreementV1) : ClaimStepV1 → Participant
  | .revealingLez => agreement.lezClaimant
  | .followupZcash => agreement.lezClaimant.other

def expectedPhase : ClaimStepV1 → Phase
  | .revealingLez => .bothLegsLocked
  | .followupZcash => .claimEvidenceAvailable

def observedLegFunder (agreement : ZecAgreementV1) : ClaimStepV1 → Participant
  | .revealingLez => agreement.lezDepositor
  | .followupZcash => agreement.lezClaimant

end ClaimStepV1

inductive ClaimError
  | emptyProtectedPayloadFingerprint
  | emptyExpectedIdentity (step : ClaimStepV1)
  | wrongRole (step : ClaimStepV1) (expected actual : Participant)
  | wrongPhase (step : ClaimStepV1) (expected actual : Phase)
  | stagedRevisionAhead (staged current : Nat)
  | contextMismatch
  | protectedPayloadMismatch
  | submissionIdentityMismatch
  | secretDigestMismatch
  | insufficientConfirmations (step : ClaimStepV1) (required actual : Nat)
  | core (error : Error)

def validatePreimage (primitives : Primitives) (agreement : ZecAgreementV1) (preimage : Bytes32) :
    Except ClaimError Unit :=
  ensure (primitives.secretDigest preimage = agreement.secretDigest) .secretDigestMismatch

variable (agreement : ZecAgreementV1)

def requireConfirmations (step : ClaimStepV1) (actual : Nat) : Except ClaimError Unit :=
  let required := agreement.coordinator.requiredConfirmations (step.observedLegFunder agreement)
  ensure (required ≤ actual) (.insufficientConfirmations step required actual)

variable (coordinator : SwapCoordinator)

/-- The role and phase in which a party may act on a claim: the claimant on its own claim, the other
    party on the claim it observes. -/
def validateClaimContext (step : ClaimStepV1) (expectedRole localParticipant : Participant) :
    Except ClaimError Unit := do
  ensure (coordinator.id = agreement.coordinator.id) .contextMismatch
  ensure (localParticipant = expectedRole) (.wrongRole step expectedRole localParticipant)
  ensure (coordinator.phase = step.expectedPhase)
    (.wrongPhase step step.expectedPhase coordinator.phase)

def validateActiveContext (step : ClaimStepV1) (localParticipant : Participant) : Except ClaimError Unit :=
  validateClaimContext agreement coordinator step (step.claimant agreement) localParticipant

def validateObserverContext (step : ClaimStepV1) (localParticipant : Participant) : Except ClaimError Unit :=
  validateClaimContext agreement coordinator step (step.claimant agreement).other localParticipant

/-- A staged claim. The bytes it submits are kept encrypted; only their fingerprint is in clear. -/
structure ClaimIntentV1 where
  context : SwapContext
  stagedRevision : Nat
  step : ClaimStepV1
  (expectedSubmissionId protectedPayloadFingerprint : Bytes32)
deriving DecidableEq

namespace ClaimIntentV1

def fromProtectedBinding (agreement : ZecAgreementV1) (coordinator : SwapCoordinator)
    (localParticipant : Participant) (stagedRevision : Nat) (step : ClaimStepV1)
    (expectedSubmissionId protectedPayloadFingerprint : Bytes32) : Except ClaimError ClaimIntentV1 := do
  validateActiveContext agreement coordinator step localParticipant
  ensure (expectedSubmissionId ≠ 0) (.emptyExpectedIdentity step)
  ensure (protectedPayloadFingerprint ≠ 0) .emptyProtectedPayloadFingerprint
  return { context := agreement.context localParticipant, stagedRevision, step
           expectedSubmissionId, protectedPayloadFingerprint }

def fromActive (agreement : ZecAgreementV1) (coordinator : SwapCoordinator) (localParticipant : Participant)
    (stagedRevision : Nat) (prepared : PreparedSubmission ClaimStepV1) (protectedPayloadFingerprint : Bytes32) :
    Except ClaimError ClaimIntentV1 :=
  fromProtectedBinding agreement coordinator localParticipant stagedRevision prepared.step
    prepared.expectedSubmissionId protectedPayloadFingerprint

variable (intent : ClaimIntentV1)

def validateForActive (agreement : ZecAgreementV1) (coordinator : SwapCoordinator)
    (currentRevision : Nat) : Except ClaimError Unit := do
  ensure (intent.stagedRevision ≤ currentRevision)
    (.stagedRevisionAhead intent.stagedRevision currentRevision)
  validateActiveContext agreement coordinator intent.step intent.context.localParticipant
  ensure (intent.context = agreement.context intent.context.localParticipant) .contextMismatch

/-- A durable claim intent is read back only in the phase its claim belongs to. -/
def revalidate (agreement : ZecAgreementV1) (localParticipant : Participant)
    (coordinator : SwapCoordinator) (currentRevision : Nat) : Except ClaimError Unit := do
  ensure (intent.context = agreement.context localParticipant) .contextMismatch
  ensure (intent.stagedRevision ≤ currentRevision)
    (.stagedRevisionAhead intent.stagedRevision currentRevision)
  let trusted ← fromProtectedBinding agreement coordinator localParticipant intent.stagedRevision
    intent.step intent.expectedSubmissionId intent.protectedPayloadFingerprint
  ensure (trusted = intent) .contextMismatch

end ClaimIntentV1

inductive LezClaimInstructionKindV1
  | native | token
deriving DecidableEq

/-- Everything a node says about an included LEZ claim but the preimage it published. -/
structure LezClaimReading where
  chain : LezChainIdentityV1
  tip : StableTip
  (reportedTransactionId canonicalTransactionHash : Bytes32)
  programId : ProgramId
  signer : AccountId
  accounts : List AccountId
  instructionKind : LezClaimInstructionKindV1
  instructionSwapId : Bytes32
  (isPublic signatureValid : Bool)
  inclusionHeight : Nat
  (inclusionBlockHash canonicalBlockHash : Bytes32)
  inclusionStatus : LezInclusionStatusV1
  metadataProgramOwner : ProgramId
  metadataAccount : AccountId
  metadata : LezEscrowMetadataSnapshotV1
  custodyAccount : AccountId
  custody : LezCustodySnapshotV1
deriving DecidableEq

structure LezClaimNodeSnapshotV1 where
  reading : LezClaimReading
  preimage : Bytes32

/-- The durable form of a claim snapshot keeps the digest in the place of the preimage. -/
structure CanonicalLezClaimSnapshotRecordV1 where
  reading : LezClaimReading
  preimageDigest : Bytes32
deriving DecidableEq

inductive LezClaimObservationError
  | chain (error : LezObservationError)
  | transactionIdentityMismatch
  | preparedIdentityMismatch
  | preparedStepMismatch
  | unstableInclusionStatus
  | transactionBindingMismatch
  | transactionAccountsMismatch
  | metadataBindingMismatch
  | custodyBindingMismatch
  | claim (error : ClaimError)

variable (primitives : Primitives)

def LezClaimNodeSnapshotV1.record (snapshot : LezClaimNodeSnapshotV1) : CanonicalLezClaimSnapshotRecordV1 :=
  { reading := snapshot.reading, preimageDigest := primitives.secretDigest snapshot.preimage }

def CanonicalLezClaimSnapshotRecordV1.reconstruct (record : CanonicalLezClaimSnapshotRecordV1) (preimage : Bytes32) :
    Except LezClaimObservationError LezClaimNodeSnapshotV1 := do
  ensure (primitives.secretDigest preimage = record.preimageDigest) (.claim .secretDigestMismatch)
  return { reading := record.reading, preimage }

def claimInclusionAccepted : LezEnvironmentV1 → LezInclusionStatusV1 → Bool
  | .publicTestnetV02, status => decide (status = .finalized)
  | _, _ => true

def claimInstructionKindMatches : LezAssetV1 → LezClaimInstructionKindV1 → Bool
  | .native _, .native | .fungibleToken _ _ _ _ _, .token => true
  | _, _ => false

variable (agreement : ZecAgreementV1)

def expectedClaimAccounts (expected : ExpectedAccountBinding) : List AccountId :=
  let terms := agreement.body.lez
  match terms.asset with
  | .native _ => [terms.metadataAccount, terms.custodyAccount, expected.claimant]
  | .fungibleToken _ _ _ _ _ =>
    [terms.metadataAccount, terms.custodyAccount, expected.claimant, expected.claimantAsset]

def validateLezClaimTransaction (snapshot : LezClaimNodeSnapshotV1) (expected : ExpectedAccountBinding) :
    Except LezClaimObservationError Unit := do
  let reading := snapshot.reading
  ensure (reading.isPublic ∧ reading.signatureValid ∧
    reading.programId = agreement.body.lez.escrowProgramId ∧ reading.signer = expected.claimant ∧
    claimInstructionKindMatches agreement.body.lez.asset reading.instructionKind ∧
    reading.instructionSwapId = agreement.onchainSwapId) .transactionBindingMismatch
  (validatePreimage primitives agreement snapshot.preimage).mapError .claim

def validateLezClaimAccounts (snapshot : LezClaimNodeSnapshotV1)
    (expected : ExpectedAccountBinding) : Except LezClaimObservationError Unit := do
  let reading := snapshot.reading
  ensure (reading.accounts = expectedClaimAccounts agreement expected) .transactionAccountsMismatch
  ensure (reading.metadataProgramOwner = agreement.body.lez.escrowProgramId ∧
    reading.metadataAccount = agreement.body.lez.metadataAccount ∧
    reading.metadata = expectedEscrowMetadata agreement expected .claimed) .metadataBindingMismatch
  ensure (custodyMatches agreement reading.custodyAccount reading.custody 0) .custodyBindingMismatch

/-- A LEZ claim proven included, with the preimage it published. -/
structure RevealingClaimEvidenceV1 where
  snapshot : LezClaimNodeSnapshotV1
  transactionId : Identifier
  named : transactionId.text = lezTransactionId snapshot.reading.canonicalTransactionHash
  identified : snapshot.reading.reportedTransactionId ≠ 0

namespace RevealingClaimEvidenceV1

variable (evidence : RevealingClaimEvidenceV1)

def observedSubmissionId : Bytes32 := evidence.snapshot.reading.reportedTransactionId

def confirmations : Nat :=
  depth evidence.snapshot.reading.tip.afterHeight evidence.snapshot.reading.inclusionHeight

def preimage : Bytes32 := evidence.snapshot.preimage

def proof : ChainProof := ⟨evidence.transactionId, evidence.confirmations⟩

def validateSnapshot (primitives : Primitives) (agreement : ZecAgreementV1)
    (expectedSubmissionId : Option Bytes32) (snapshot : LezClaimNodeSnapshotV1) :
    Except LezClaimObservationError RevealingClaimEvidenceV1 := do
  let reading := snapshot.reading
  (validateLezChainPositionParts agreement reading.chain reading.tip reading.inclusionHeight
    reading.inclusionBlockHash reading.canonicalBlockHash).mapError .chain
  ensure (reading.reportedTransactionId = reading.canonicalTransactionHash)
    .transactionIdentityMismatch
  ensure (expectedSubmissionId.all (· = reading.canonicalTransactionHash)) .preparedIdentityMismatch
  ensure (claimInclusionAccepted reading.chain.environment reading.inclusionStatus)
    .unstableInclusionStatus
  let expected := ExpectedAccountBinding.fromAgreement agreement
  validateLezClaimTransaction primitives agreement snapshot expected
  validateLezClaimAccounts agreement snapshot expected
  if identified : reading.reportedTransactionId ≠ 0 then
    match named : Identifier.new (lezTransactionId reading.canonicalTransactionHash) with
    | .error error => throw (.claim (.core error))
    | .ok transactionId =>
      (validatePreimage primitives agreement snapshot.preimage).mapError .claim
      (requireConfirmations agreement .revealingLez
        (depth reading.tip.afterHeight reading.inclusionHeight)).mapError .claim
      return { snapshot, transactionId, identified
               named := by
                 unfold Identifier.new at named
                 split at named <;> cases named
                 rfl }
  else throw (.claim (.emptyExpectedIdentity .revealingLez))

end RevealingClaimEvidenceV1

@[ext] structure FollowupClaimEvidenceV1 where
  observedSubmissionId : Bytes32
  transactionId : Identifier
  confirmations : Nat
  identified : observedSubmissionId ≠ 0

instance : DecidableEq FollowupClaimEvidenceV1 := fun _ _ => decidable_of_iff' _ FollowupClaimEvidenceV1.ext_iff

def FollowupClaimEvidenceV1.proof (evidence : FollowupClaimEvidenceV1) : ChainProof :=
  ⟨evidence.transactionId, evidence.confirmations⟩

inductive ClaimTransitionEvidence
  | revealing (evidence : RevealingClaimEvidenceV1)
  | followup (evidence : FollowupClaimEvidenceV1)

namespace ClaimTransitionEvidence

def step : ClaimTransitionEvidence → ClaimStepV1
  | .revealing _ => .revealingLez
  | .followup _ => .followupZcash

def observedSubmissionId : ClaimTransitionEvidence → Bytes32
  | .revealing evidence => evidence.observedSubmissionId
  | .followup evidence => evidence.observedSubmissionId

end ClaimTransitionEvidence

/-- One confirmed claim. With a staged revision it is the role's own `RevealingClaimTransitionV1` or
    `FollowupClaimTransitionV1`, without one an `ObservedRevealingClaimTransitionV1` or an
    `ObservedFollowupClaimTransitionV1`. -/
structure ClaimTransitionV1 where
  context : SwapContext
  predecessorRevision : Nat
  intentStagedRevision : Option Nat
  evidence : ClaimTransitionEvidence

namespace ClaimTransitionV1

variable (transition : ClaimTransitionV1)

def owned : Bool := transition.intentStagedRevision.isSome

def step : ClaimStepV1 := transition.evidence.step

variable (agreement : ZecAgreementV1) (coordinator : SwapCoordinator)

def fromOwned (intent : ClaimIntentV1) (predecessorRevision : Nat) (evidence : ClaimTransitionEvidence) :
    Except ClaimError ClaimTransitionV1 := do
  intent.validateForActive agreement coordinator predecessorRevision
  ensure (intent.step = evidence.step) .contextMismatch
  ensure (intent.expectedSubmissionId = evidence.observedSubmissionId) .submissionIdentityMismatch
  return { context := agreement.context (evidence.step.claimant agreement), predecessorRevision
           intentStagedRevision := some intent.stagedRevision, evidence }

def fromObserved (localParticipant : Participant) (predecessorRevision : Nat)
    (evidence : ClaimTransitionEvidence) : Except ClaimError ClaimTransitionV1 := do
  validateObserverContext agreement coordinator evidence.step localParticipant
  return { context := agreement.context localParticipant, predecessorRevision
           intentStagedRevision := none, evidence }

def validateTransitionHeader (revision staged : Nat) : Except ClaimError Unit := do
  ensure (transition.context = agreement.context (transition.step.claimant agreement) ∧
    transition.predecessorRevision = revision ∧ staged ≤ transition.predecessorRevision ∧
    coordinator.id = transition.context.swapId) .contextMismatch
  ensure (coordinator.phase = transition.step.expectedPhase)
    (.wrongPhase transition.step transition.step.expectedPhase coordinator.phase)

def validateObserverHeader (revision : Nat) : Except ClaimError Unit := do
  validateObserverContext agreement coordinator transition.step transition.context.localParticipant
  ensure (transition.context = agreement.context transition.context.localParticipant ∧
    transition.predecessorRevision = revision ∧ coordinator.id = transition.context.swapId)
    .contextMismatch

def validateHeader (revision : Nat) : Except ClaimError Unit :=
  match transition.intentStagedRevision with
  | some staged => transition.validateTransitionHeader agreement coordinator revision staged
  | none => transition.validateObserverHeader agreement coordinator revision

def observe (primitives : Primitives) (agreement : ZecAgreementV1) (coordinator : SwapCoordinator) :
    Except ClaimError SwapCoordinator :=
  match transition.evidence with
  | .revealing evidence => do
    validatePreimage primitives agreement evidence.preimage
    requireConfirmations agreement .revealingLez evidence.confirmations
    (coordinator.observeRevealingClaim agreement.lezClaimant evidence.proof
      (.new primitives.secretDigest evidence.preimage)).mapError .core
  | .followup evidence => do
    requireConfirmations agreement .followupZcash evidence.confirmations
    (coordinator.observeFollowupClaim agreement.lezClaimant.other evidence.proof).mapError .core

def applyTo (primitives : Primitives) (agreement : ZecAgreementV1) (coordinator : SwapCoordinator)
    (revision : Nat) : Except ClaimError SwapCoordinator := do
  transition.validateHeader agreement coordinator revision
  transition.observe primitives agreement coordinator

end ClaimTransitionV1

inductive ClaimEvidenceRecord
  | revealing (record : CanonicalLezClaimSnapshotRecordV1)
  | followup (evidence : FollowupClaimEvidenceV1)
deriving DecidableEq

/-- The durable form of a claim transition: the preimage stays with the encrypted claim material. -/
structure ClaimTransitionRecordV1 where
  context : SwapContext
  predecessorRevision : Nat
  intentStagedRevision : Option Nat
  evidence : ClaimEvidenceRecord
deriving DecidableEq

def ClaimTransitionEvidence.record (primitives : Primitives) : ClaimTransitionEvidence → ClaimEvidenceRecord
  | .revealing evidence => .revealing (evidence.snapshot.record primitives)
  | .followup evidence => .followup evidence

def ClaimTransitionV1.record (primitives : Primitives) (transition : ClaimTransitionV1) : ClaimTransitionRecordV1 :=
  { context := transition.context, predecessorRevision := transition.predecessorRevision
    intentStagedRevision := transition.intentStagedRevision
    evidence := transition.evidence.record primitives }

inductive ClaimRecordError
  | agreementContextMismatch
  | revisionMismatch
  | intentMismatch
  | transitionMismatch
  | claim (error : ClaimError)
  | lezClaim (error : LezClaimObservationError)

namespace ClaimTransitionRecordV1

variable (record : ClaimTransitionRecordV1)

def step : ClaimStepV1 :=
  match record.evidence with
  | .revealing _ => .revealingLez
  | .followup _ => .followupZcash

variable (primitives : Primitives) (agreement : ZecAgreementV1)

/-- The evidence a record stands for; a revealing claim needs the decrypted preimage. -/
def rebuildEvidence (expectedSubmissionId : Option Bytes32) (preimage : Option Bytes32) :
    Except ClaimRecordError ClaimTransitionEvidence :=
  match record.evidence, preimage with
  | .revealing snapshot, some preimage => do
    let rebuilt ← (snapshot.reconstruct primitives preimage).mapError .lezClaim
    let evidence ← (RevealingClaimEvidenceV1.validateSnapshot primitives agreement
      expectedSubmissionId rebuilt).mapError .lezClaim
    return .revealing evidence
  | .revealing _, none => .error .transitionMismatch
  | .followup evidence, _ => do
    (requireConfirmations agreement .followupZcash evidence.confirmations).mapError .claim
    return .followup evidence

/-- The transition a record stands for: an owned one is rebuilt from the intent it closed. -/
def rebuild (localParticipant : Participant) (coordinator : SwapCoordinator)
    (retainedIntent : Option ClaimIntentV1) (predecessorRevision : Nat) (preimage : Option Bytes32) :
    Except ClaimRecordError ClaimTransitionV1 :=
  match record.intentStagedRevision, retainedIntent with
  | some staged, some intent => do
    (intent.revalidate agreement localParticipant coordinator predecessorRevision).mapError .claim
    ensure (intent.stagedRevision = staged ∧ intent.step = record.step) .revisionMismatch
    let evidence ← record.rebuildEvidence primitives agreement (some intent.expectedSubmissionId)
      preimage
    (ClaimTransitionV1.fromOwned agreement coordinator intent predecessorRevision evidence).mapError
      .claim
  | some _, none => .error .revisionMismatch
  | none, _ => do
    let evidence ← record.rebuildEvidence primitives agreement none preimage
    (ClaimTransitionV1.fromObserved agreement coordinator localParticipant predecessorRevision
      evidence).mapError .claim

def revalidate (localParticipant : Participant) (coordinator : SwapCoordinator)
    (retainedIntent : Option ClaimIntentV1) (predecessorRevision : Nat)
    (preimage : Option Bytes32) : Except ClaimRecordError ClaimTransitionV1 := do
  ensure (record.predecessorRevision = predecessorRevision ∧
    record.intentStagedRevision.all (· ≤ predecessorRevision)) .revisionMismatch
  ensure (record.context = agreement.context localParticipant) .agreementContextMismatch
  let trusted ← record.rebuild primitives agreement localParticipant coordinator retainedIntent
    predecessorRevision preimage
  ensure (trusted.record primitives = record) .transitionMismatch
  return trusted

end ClaimTransitionRecordV1

end AtomicSwaps.Zec
