import AtomicSwaps.Zec.Claims

namespace AtomicSwaps.Zec

open AtomicSwaps.Core Fallible

inductive RefundStepV1
  | lez | zcash
deriving DecidableEq

inductive RefundError
  | emptyExpectedIdentity (step : RefundStepV1)
  | invalidTransactionId
  | insufficientConfirmations (step : RefundStepV1) (required actual : Nat)
  | wrongPhase (step : RefundStepV1) (phase : Phase)
  | wrongChain (step : RefundStepV1) (actual : Chain)
  | deadlineNotReached (step : RefundStepV1)
  | wrongRole (step : RefundStepV1) (expected actual : Participant)
  | wrongObserverRole (step : RefundStepV1) (owner : Participant)
  | stagedRevisionAhead (staged current : Nat)
  | contextMismatch
  | stepMismatch
  | submissionIdentityMismatch (step : RefundStepV1)
  | coordinator (error : Error)
  | missingIntent
  | unexpectedIntent

def lezRefundedPhase (agreement : ZecAgreementV1) : Phase :=
  if agreement.lezDepositor = .maker then .makerLegRefunded else .takerLegRefunded

namespace RefundStepV1

def chain : RefundStepV1 → Chain
  | .lez => .lez
  | .zcash => .zcash

variable (agreement : ZecAgreementV1)

def owner : RefundStepV1 → Participant
  | .lez => agreement.lezDepositor
  | .zcash => agreement.lezClaimant

def oneLegLezRefundIsValid (direction : SwapDirection) (phase : Phase) : Bool :=
  decide ((phase = .awaitingTakerConfirmations ∨ phase = .takerLockConfirmed ∨
    phase = .awaitingMakerConfirmations) ∧ direction = .takerSellsLez)

def ready (phase : Phase) : RefundStepV1 → Bool
  | .lez => decide (phase = .bothLegsLocked ∨ phase = .takerLockReorged ∨ phase = .makerLockReorged) ||
      oneLegLezRefundIsValid agreement.direction phase
  | .zcash => decide (phase = lezRefundedPhase agreement ∨
      (phase = .awaitingTakerConfirmations ∨ phase = .takerLockConfirmed) ∧
        agreement.direction = .takerSellsForeign)

def validateActivePhase (phase : Phase) (step : RefundStepV1) : Except RefundError Unit :=
  ensure (step.ready agreement phase) (.wrongPhase step phase)

def deadlineReached (position : ChainPosition) (step : RefundStepV1) : Except Error Bool :=
  let schedule := agreement.coordinator.recoverySchedule
  if step.owner agreement = .maker then schedule.makerDeadlineReached position
  else schedule.takerRefundReached position

def validateDeadline (position : ChainPosition) (step : RefundStepV1) : Except RefundError Unit := do
  ensure (position.chain = step.chain) (.wrongChain step position.chain)
  let reached ← (step.deadlineReached agreement position).mapError .coordinator
  ensure reached (.deadlineNotReached step)

end RefundStepV1

structure RefundIntentV1 where
  context : SwapContext
  stagedRevision : Nat
  prepared : PreparedSubmission RefundStepV1
deriving DecidableEq

namespace RefundIntentV1

def fromActive (agreement : ZecAgreementV1) (coordinator : SwapCoordinator) (localParticipant : Participant)
    (stagedRevision : Nat) (prepared : PreparedSubmission RefundStepV1) : Except RefundError RefundIntentV1 := do
  prepared.step.validateActivePhase agreement coordinator.phase
  let owner := prepared.step.owner agreement
  ensure (localParticipant = owner) (.wrongRole prepared.step owner localParticipant)
  return { context := agreement.context localParticipant, stagedRevision, prepared }

variable (intent : RefundIntentV1)

def validateForActive (agreement : ZecAgreementV1) (coordinator : SwapCoordinator)
    (currentRevision : Nat) : Except RefundError Unit := do
  ensure (intent.stagedRevision ≤ currentRevision)
    (.stagedRevisionAhead intent.stagedRevision currentRevision)
  let expected ← fromActive agreement coordinator intent.context.localParticipant
    intent.stagedRevision intent.prepared
  ensure (expected = intent) .contextMismatch

def revalidate (agreement : ZecAgreementV1) (localParticipant : Participant)
    (coordinator : SwapCoordinator) (currentRevision : Nat) : Except RefundError Unit := do
  ensure (intent.context = agreement.context localParticipant) .contextMismatch
  intent.validateForActive agreement coordinator currentRevision

end RefundIntentV1

@[ext] structure RefundEvidenceV1 where
  step : RefundStepV1
  observedSubmissionId : Bytes32
  transactionId : String
  position : ChainPosition
  confirmations : Nat
  identified : observedSubmissionId ≠ 0
  named : 0 < transactionId.utf8ByteSize ∧ transactionId.utf8ByteSize ≤ 256

instance : DecidableEq RefundEvidenceV1 := fun _ _ => decidable_of_iff' _ RefundEvidenceV1.ext_iff

def RefundEvidenceV1.validate (evidence : RefundEvidenceV1) (agreement : ZecAgreementV1) :
    Except RefundError Unit := do
  let required := agreement.coordinator.requiredConfirmations (evidence.step.owner agreement)
  ensure (required ≤ evidence.confirmations)
    (.insufficientConfirmations evidence.step required evidence.confirmations)
  evidence.step.validateDeadline agreement evidence.position

/-- One confirmed refund. `intent` is the staged revision and submission of the role's own refund. -/
structure RefundTransitionV1 where
  context : SwapContext
  predecessorRevision : Nat
  intent : Option (Nat × Bytes32)
  evidence : RefundEvidenceV1
deriving DecidableEq

namespace RefundTransitionV1

variable (transition : RefundTransitionV1)

def owned : Bool := transition.intent.isSome

variable (agreement : ZecAgreementV1) (coordinator : SwapCoordinator)

def fromOwned (intent : RefundIntentV1) (predecessorRevision : Nat) (evidence : RefundEvidenceV1) :
    Except RefundError RefundTransitionV1 := do
  intent.validateForActive agreement coordinator predecessorRevision
  ensure (intent.prepared.step = evidence.step) .stepMismatch
  ensure (intent.prepared.expectedSubmissionId = evidence.observedSubmissionId)
    (.submissionIdentityMismatch evidence.step)
  return { context := intent.context, predecessorRevision
           intent := some (intent.stagedRevision, intent.prepared.expectedSubmissionId), evidence }

variable (localParticipant : Participant)

def fromObserved (predecessorRevision : Nat) (evidence : RefundEvidenceV1) :
    Except RefundError RefundTransitionV1 := do
  evidence.step.validateActivePhase agreement coordinator.phase
  let owner := evidence.step.owner agreement
  ensure (localParticipant ≠ owner) (.wrongObserverRole evidence.step owner)
  return { context := agreement.context localParticipant, predecessorRevision, intent := none
           evidence }

/-- Who may record the refund: its owner with the staged intent, or the other party. -/
def validateParty (currentRevision : Nat) : Except RefundError Unit :=
  let step := transition.evidence.step
  let owner := step.owner agreement
  match transition.intent with
  | some (staged, expectedSubmissionId) => do
    ensure (staged ≤ currentRevision) (.stagedRevisionAhead staged currentRevision)
    ensure (expectedSubmissionId = transition.evidence.observedSubmissionId)
      (.submissionIdentityMismatch step)
    ensure (transition.context.localParticipant = owner)
      (.wrongRole step owner transition.context.localParticipant)
  | none => ensure (transition.context.localParticipant ≠ owner) (.wrongObserverRole step owner)

def applyTo (currentRevision : Nat) : Except RefundError SwapCoordinator := do
  let step := transition.evidence.step
  ensure (transition.context.swapId = agreement.coordinator.id ∧
    transition.context.agreementCommitment = agreement.agreementCommitment ∧
    transition.predecessorRevision = currentRevision) .contextMismatch
  step.validateActivePhase agreement coordinator.phase
  step.validateDeadline agreement transition.evidence.position
  transition.validateParty agreement currentRevision
  (if step.owner agreement = .maker then coordinator.refundMakerLeg transition.evidence.position
    else coordinator.refundTakerLeg transition.evidence.position).mapError .coordinator

/-- The transition a durable row stands for: an owned one is rebuilt from the intent it closed. -/
def rebuild (coordinator : SwapCoordinator) (predecessorRevision : Nat)
    (retainedIntent : Option RefundIntentV1) : Except RefundError RefundTransitionV1 :=
  match transition.owned, retainedIntent with
  | true, some intent => do
    intent.revalidate agreement localParticipant coordinator predecessorRevision
    fromOwned agreement coordinator intent predecessorRevision transition.evidence
  | true, none => .error .missingIntent
  | false, some _ => .error .unexpectedIntent
  | false, none =>
    fromObserved agreement coordinator localParticipant predecessorRevision transition.evidence

def revalidate (coordinator : SwapCoordinator) (predecessorRevision : Nat)
    (retainedIntent : Option RefundIntentV1) : Except RefundError Unit := do
  ensure (transition.context = agreement.context localParticipant ∧
    transition.predecessorRevision = predecessorRevision) .contextMismatch
  transition.evidence.validate agreement
  let trusted ← transition.rebuild agreement localParticipant coordinator predecessorRevision
    retainedIntent
  ensure (trusted = transition) .contextMismatch

end RefundTransitionV1

end AtomicSwaps.Zec
