import AtomicSwaps.Zec.Observation

namespace AtomicSwaps.Zec

open AtomicSwaps.Core Fallible

inductive FirstLockStepV1
  | zcashFund | lezInitialize | lezFund
deriving DecidableEq

/-- Exact bytes retained before any node call, with the identity their inclusion is known by. -/
structure PreparedSubmission (Step : Type) where
  step : Step
  expectedSubmissionId : Bytes32
  exactSubmission : Bytes
  present : exactSubmission ≠ []
  sized : exactSubmission.length ≤ 2000000
  identified : expectedSubmissionId ≠ 0
deriving DecidableEq

inductive FirstLockPlanV1
  | zcash (funding : PreparedSubmission FirstLockStepV1) (funds : funding.step = .zcashFund)
  | lez (initialization fund : PreparedSubmission FirstLockStepV1)
      (initializes : initialization.step = .lezInitialize) (funds : fund.step = .lezFund)
      (distinct : initialization.expectedSubmissionId ≠ fund.expectedSubmissionId)
deriving DecidableEq

namespace FirstLockPlanV1

def finalSubmission : FirstLockPlanV1 → PreparedSubmission FirstLockStepV1
  | .zcash funding _ => funding
  | .lez _ fund _ _ _ => fund

def fundsZcash : FirstLockPlanV1 → Bool
  | .zcash _ _ => true
  | .lez _ _ _ _ _ => false

end FirstLockPlanV1

/-- The swap, agreement and role every durable value of one role is bound to. -/
structure SwapContext where
  swapId : Identifier
  agreementCommitment : Bytes32
  localParticipant : Participant
deriving DecidableEq

def ZecAgreementV1.context (agreement : ZecAgreementV1) (localParticipant : Participant) : SwapContext :=
  { swapId := agreement.coordinator.id, agreementCommitment := agreement.agreementCommitment
    localParticipant }

@[simp] theorem ZecAgreementV1.context_localParticipant (agreement : ZecAgreementV1)
    (localParticipant : Participant) :
    (agreement.context localParticipant).localParticipant = localParticipant := rfl

inductive FirstLockIntentError
  | wrongRole (participant : Participant)
  | wrongPlanForDirection (direction : SwapDirection)
  | durableIntentMismatch

structure FirstLockIntentV1 where
  context : SwapContext
  predecessorRevision : Nat
  plan : FirstLockPlanV1
deriving DecidableEq

namespace FirstLockIntentV1

def fromActive (agreement : ZecAgreementV1) (localParticipant : Participant)
    (predecessorRevision : Nat) (plan : FirstLockPlanV1) : Except FirstLockIntentError FirstLockIntentV1 := do
  ensure (localParticipant = .taker) (.wrongRole localParticipant)
  ensure (plan.fundsZcash = decide (agreement.direction = .takerSellsForeign))
    (.wrongPlanForDirection agreement.direction)
  return { context := agreement.context localParticipant, predecessorRevision, plan }

def validateForActive (intent : FirstLockIntentV1) (agreement : ZecAgreementV1)
    (localParticipant : Participant) (predecessorRevision : Nat) : Except FirstLockIntentError Unit := do
  let expected ← fromActive agreement localParticipant predecessorRevision intent.plan
  ensure (expected = intent) .durableIntentMismatch

end FirstLockIntentV1

@[ext] structure FirstLockConfirmedEvidenceV1 where
  step : FirstLockStepV1
  expectedSubmissionId : Bytes32
  transactionId : Identifier
  confirmations : Nat
  identified : expectedSubmissionId ≠ 0
  confirmed : 0 < confirmations

instance : DecidableEq FirstLockConfirmedEvidenceV1 := fun _ _ =>
  decidable_of_iff' _ FirstLockConfirmedEvidenceV1.ext_iff

inductive FirstLockTransitionError
  | nonFinalStep (step : FirstLockStepV1)
  | intent (error : FirstLockIntentError)
  | wrongFinalStep (expected actual : FirstLockStepV1)
  | submissionIdentityMismatch
  | insufficientConfirmations (required actual : Nat)
  | contextMismatch
  | core (error : Error)

namespace FirstLockConfirmedEvidenceV1

variable (evidence : FirstLockConfirmedEvidenceV1)

def proof : ChainProof := ⟨evidence.transactionId, evidence.confirmations⟩

def validateForObservation (submission : PreparedSubmission FirstLockStepV1)
    (requiredConfirmations : Nat) : Except FirstLockTransitionError Unit := do
  ensure (evidence.step = submission.step) (.wrongFinalStep submission.step evidence.step)
  ensure (evidence.expectedSubmissionId = submission.expectedSubmissionId) .submissionIdentityMismatch
  ensure (requiredConfirmations ≤ evidence.confirmations)
    (.insufficientConfirmations requiredConfirmations evidence.confirmations)

end FirstLockConfirmedEvidenceV1

structure FirstLockTransitionV1 where
  context : SwapContext
  predecessorRevision : Nat
  evidence : FirstLockConfirmedEvidenceV1
deriving DecidableEq

namespace FirstLockTransitionV1

def fromActive (agreement : ZecAgreementV1) (intent : FirstLockIntentV1) (predecessorRevision : Nat)
    (evidence : FirstLockConfirmedEvidenceV1) : Except FirstLockTransitionError FirstLockTransitionV1 := do
  (intent.validateForActive agreement .taker predecessorRevision).mapError .intent
  evidence.validateForObservation intent.plan.finalSubmission
    (agreement.coordinator.requiredConfirmations .taker)
  return { context := agreement.context .taker, predecessorRevision, evidence }

variable (transition : FirstLockTransitionV1)

def applyTo (agreement : ZecAgreementV1) (coordinator : SwapCoordinator) (revision : Nat) :
    Except FirstLockTransitionError SwapCoordinator := do
  ensure (transition.context = agreement.context .taker ∧
    transition.predecessorRevision = revision ∧ coordinator.id = transition.context.swapId)
    .contextMismatch
  let required := coordinator.requiredConfirmations .taker
  ensure (required ≤ transition.evidence.confirmations)
    (.insufficientConfirmations required transition.evidence.confirmations)
  (coordinator.observeFunding .taker transition.evidence.proof).mapError .core

def revalidate (agreement : ZecAgreementV1) (localParticipant : Participant)
    (intent : FirstLockIntentV1) (predecessorRevision : Nat) : Except FirstLockTransitionError Unit := do
  ensure (transition.context = agreement.context localParticipant ∧
    transition.predecessorRevision = predecessorRevision) .contextMismatch
  (intent.validateForActive agreement localParticipant predecessorRevision).mapError .intent
  let trusted ← fromActive agreement intent predecessorRevision transition.evidence
  ensure (trusted = transition) .contextMismatch

end FirstLockTransitionV1

inductive MakerLockError
  | wrongRole (participant : Participant)
  | wrongPlanForDirection (direction : SwapDirection)
  | stagedRevisionAhead (staged current : Nat)
  | durableIntentMismatch
  | evidence (error : FirstLockTransitionError)
  | contextMismatch
  | core (error : Error)

structure MakerLockIntentV1 where
  context : SwapContext
  stagedRevision : Nat
  plan : FirstLockPlanV1
deriving DecidableEq

namespace MakerLockIntentV1

def fromActive (agreement : ZecAgreementV1) (localParticipant : Participant) (stagedRevision : Nat)
    (plan : FirstLockPlanV1) : Except MakerLockError MakerLockIntentV1 := do
  ensure (localParticipant = .maker) (.wrongRole localParticipant)
  ensure (plan.fundsZcash = decide (agreement.direction = .takerSellsLez))
    (.wrongPlanForDirection agreement.direction)
  return { context := agreement.context localParticipant, stagedRevision, plan }

def validateForActive (intent : MakerLockIntentV1) (agreement : ZecAgreementV1)
    (currentRevision : Nat) : Except MakerLockError Unit := do
  ensure (intent.stagedRevision ≤ currentRevision)
    (.stagedRevisionAhead intent.stagedRevision currentRevision)
  let expected ← fromActive agreement .maker intent.stagedRevision intent.plan
  ensure (expected = intent) .durableIntentMismatch

end MakerLockIntentV1

structure MakerLockTransitionV1 where
  context : SwapContext
  (predecessorRevision intentStagedRevision : Nat)
  evidence : FirstLockConfirmedEvidenceV1
deriving DecidableEq

namespace MakerLockTransitionV1

def fromActive (agreement : ZecAgreementV1) (intent : MakerLockIntentV1) (predecessorRevision : Nat)
    (evidence : FirstLockConfirmedEvidenceV1) : Except MakerLockError MakerLockTransitionV1 := do
  intent.validateForActive agreement predecessorRevision
  (evidence.validateForObservation intent.plan.finalSubmission
    (agreement.coordinator.requiredConfirmations .maker)).mapError .evidence
  return { context := agreement.context .maker, predecessorRevision
           intentStagedRevision := intent.stagedRevision, evidence }

variable (transition : MakerLockTransitionV1)

def applyTo (agreement : ZecAgreementV1) (coordinator : SwapCoordinator) (revision : Nat) :
    Except MakerLockError SwapCoordinator := do
  ensure (transition.context = agreement.context .maker ∧
    transition.predecessorRevision = revision ∧
    transition.intentStagedRevision ≤ transition.predecessorRevision ∧
    coordinator.id = transition.context.swapId) .contextMismatch
  let required := coordinator.requiredConfirmations .maker
  ensure (required ≤ transition.evidence.confirmations)
    (.evidence (.insufficientConfirmations required transition.evidence.confirmations))
  (coordinator.observeFunding .maker transition.evidence.proof).mapError .core

def revalidate (agreement : ZecAgreementV1) (localParticipant : Participant)
    (intent : MakerLockIntentV1) (predecessorRevision : Nat) : Except MakerLockError Unit := do
  ensure (localParticipant = .maker ∧ transition.context = agreement.context localParticipant ∧
    transition.predecessorRevision = predecessorRevision ∧
    intent.stagedRevision = transition.intentStagedRevision) .contextMismatch
  let trusted ← fromActive agreement intent predecessorRevision transition.evidence
  ensure (trusted = transition) .contextMismatch

end MakerLockTransitionV1

def makerFinalLockStep : SwapDirection → FirstLockStepV1
  | .takerSellsForeign => .lezFund
  | .takerSellsLez => .zcashFund

def takerFirstLockStep : SwapDirection → FirstLockStepV1
  | .takerSellsForeign => .zcashFund
  | .takerSellsLez => .lezFund

inductive ObservedMakerLockError
  | wrongRole (participant : Participant)
  | wrongFinalStep (expected actual : FirstLockStepV1)
  | insufficientConfirmations (required actual : Nat)
  | contextMismatch
  | core (error : Error)

structure ObservedMakerLockTransitionV1 where
  context : SwapContext
  predecessorRevision : Nat
  evidence : FirstLockConfirmedEvidenceV1
deriving DecidableEq

namespace ObservedMakerLockTransitionV1

def fromActive (agreement : ZecAgreementV1) (localParticipant : Participant)
    (predecessorRevision : Nat) (evidence : FirstLockConfirmedEvidenceV1) :
    Except ObservedMakerLockError ObservedMakerLockTransitionV1 := do
  ensure (localParticipant = .taker) (.wrongRole localParticipant)
  let expectedStep := makerFinalLockStep agreement.direction
  ensure (evidence.step = expectedStep) (.wrongFinalStep expectedStep evidence.step)
  let required := agreement.coordinator.requiredConfirmations .maker
  ensure (required ≤ evidence.confirmations)
    (.insufficientConfirmations required evidence.confirmations)
  return { context := agreement.context localParticipant, predecessorRevision, evidence }

variable (transition : ObservedMakerLockTransitionV1)

def applyTo (agreement : ZecAgreementV1) (coordinator : SwapCoordinator) (revision : Nat) :
    Except ObservedMakerLockError SwapCoordinator := do
  ensure (transition.context = agreement.context .taker ∧
    transition.predecessorRevision = revision ∧ coordinator.id = transition.context.swapId ∧
    transition.evidence.step = makerFinalLockStep agreement.direction) .contextMismatch
  let required := coordinator.requiredConfirmations .maker
  ensure (required ≤ transition.evidence.confirmations)
    (.insufficientConfirmations required transition.evidence.confirmations)
  (coordinator.observeFunding .maker transition.evidence.proof).mapError .core

def revalidate (agreement : ZecAgreementV1) (localParticipant : Participant)
    (predecessorRevision : Nat) : Except ObservedMakerLockError Unit := do
  ensure (localParticipant = .taker ∧ transition.context = agreement.context localParticipant ∧
    transition.predecessorRevision = predecessorRevision) .contextMismatch
  let trusted ← fromActive agreement localParticipant predecessorRevision transition.evidence
  ensure (trusted = transition) .contextMismatch

end ObservedMakerLockTransitionV1

/-- What the maker knows about the taker's lock: an adapter's word, or canonical chain evidence. -/
inductive ObservedTakerFirstLockEvidenceV1
  | adapterAssertion (step : FirstLockStepV1) (transactionId : Identifier) (confirmations : Nat)
      (final : step ≠ .lezInitialize) (confirmed : 0 < confirmations)
  | lez (event : LezObservationEventV1)
  | zcash (event : ZcashObservationEvent)

instance : DecidableEq ObservedTakerFirstLockEvidenceV1
  | .adapterAssertion step id count _ _, .adapterAssertion step' id' count' _ _ =>
    decidable_of_iff (step = step' ∧ id = id' ∧ count = count') (by simp)
  | .lez event, .lez event' => decidable_of_iff (event = event') (by simp)
  | .zcash event, .zcash event' => decidable_of_iff (event = event') (by simp)
  | .adapterAssertion .., .lez _ | .adapterAssertion .., .zcash _ | .lez _, .adapterAssertion ..
  | .lez _, .zcash _ | .zcash _, .adapterAssertion .. | .zcash _, .lez _ => isFalse (by simp)

inductive ObservedTakerFirstLockTransitionError
  | canonicalZcashRequired
  | canonicalLezRequired
  | canonicalLezBindingMismatch
  | unexpectedCanonicalZcash
  | unexpectedCanonicalLez
  | canonicalZcashBindingMismatch
  | canonicalZcashReplacementTipMismatch
  | canonicalLezReplacementTipMismatch
  | nonFinalStep (step : FirstLockStepV1)
  | wrongRole (participant : Participant)
  | wrongChain (expected actual : FirstLockStepV1)
  | contextMismatch
  | core (error : Error)

def ObservedTakerFirstLockEvidenceV1.step : ObservedTakerFirstLockEvidenceV1 → FirstLockStepV1
  | .adapterAssertion step _ _ _ _ => step
  | .lez _ => .lezFund
  | .zcash _ => .zcashFund

def validateCanonicalZcashBinding (hash160 : Bytes → PubkeyHash) (agreement : ZecAgreementV1)
    (canonical : CanonicalZcashOutputObservation) : Except ObservedTakerFirstLockTransitionError Unit :=
  ensure (canonical.boundTo hash160 agreement.binding.expectedOutput) .canonicalZcashBindingMismatch

def validateCanonicalLezBinding (agreement : ZecAgreementV1) (canonical : CanonicalLezEscrowObservationV1) :
    Except ObservedTakerFirstLockTransitionError Unit := do
  let rebound ← (CanonicalLezEscrowObservationV1.validate agreement canonical.snapshot).mapError
    fun _ => .canonicalLezBindingMismatch
  ensure (rebound = canonical) .canonicalLezBindingMismatch

def validateCanonicalLezRemovalBinding (agreement : ZecAgreementV1) (removed : CanonicalLezEscrowRemovalV1) :
    Except ObservedTakerFirstLockTransitionError Unit := do
  let previous ← (CanonicalLezEscrowObservationV1.validate agreement
    removed.previous.snapshot).mapError fun _ => .canonicalLezBindingMismatch
  let rebound ← (CanonicalLezEscrowRemovalV1.validate previous removed.snapshot).mapError
    fun _ => .canonicalLezBindingMismatch
  ensure (rebound = removed) .canonicalLezBindingMismatch

def validateObservedSource (hash160 : Bytes → PubkeyHash) (agreement : ZecAgreementV1) :
    FirstLockStepV1 → ObservedTakerFirstLockEvidenceV1 →
      Except ObservedTakerFirstLockTransitionError Unit
  | .zcashFund, .zcash (.canonical canonical) =>
    validateCanonicalZcashBinding hash160 agreement canonical
  | .zcashFund, .zcash (.removed removed) =>
    validateCanonicalZcashBinding hash160 agreement removed.previous
  | .zcashFund, .zcash (.replaced removed canonical) => do
    validateCanonicalZcashBinding hash160 agreement removed.previous
    validateCanonicalZcashBinding hash160 agreement canonical
    ensure (removed.tipBlockHash = canonical.tipBlockHash ∧ removed.tipHeight = canonical.tipHeight)
      .canonicalZcashReplacementTipMismatch
  | .zcashFund, .adapterAssertion _ _ _ _ _ => .error .canonicalZcashRequired
  | .zcashFund, .lez _ => .error .unexpectedCanonicalLez
  | .lezFund, .lez (.canonical canonical) => validateCanonicalLezBinding agreement canonical
  | .lezFund, .lez (.removed removed) => validateCanonicalLezRemovalBinding agreement removed
  | .lezFund, .lez (.replaced removed canonical) => do
    validateCanonicalLezRemovalBinding agreement removed
    validateCanonicalLezBinding agreement canonical
    ensure (removed.tipBlockHash = canonical.tipBlockHash ∧ removed.tipHeight = canonical.tipHeight)
      .canonicalLezReplacementTipMismatch
  | .lezFund, .adapterAssertion _ _ _ _ _ => .error .canonicalLezRequired
  | .lezFund, .zcash _ => .error .unexpectedCanonicalZcash
  | .lezInitialize, _ => .error (.nonFinalStep .lezInitialize)

structure ObservedTakerFirstLockTransitionV1 where
  context : SwapContext
  predecessorRevision : Nat
  evidence : ObservedTakerFirstLockEvidenceV1
deriving DecidableEq

variable (coordinator : SwapCoordinator)

def unpinTakerLock : Option String → Except Error SwapCoordinator
  | none => .ok coordinator
  | some text => do
    let transactionId ← Identifier.new text
    coordinator.observeFundingRemoved .taker transactionId

def pinTakerLock : Option (String × Nat) → Except Error SwapCoordinator
  | none => .ok coordinator
  | some (text, confirmations) => do
    let transactionId ← Identifier.new text
    coordinator.observeFunding .taker ⟨transactionId, confirmations⟩

/-- A removal unpins the previous transaction; a replacement then pins its successor. -/
def observeTakerEvent (removed : Option String)
    (canonical : Option (String × Nat)) : Except Error SwapCoordinator := do
  let unpinned ← unpinTakerLock coordinator removed
  pinTakerLock unpinned canonical

def ObservedTakerFirstLockEvidenceV1.observe : ObservedTakerFirstLockEvidenceV1 → Except Error SwapCoordinator
  | .adapterAssertion _ transactionId confirmations _ _ =>
    coordinator.observeFunding .taker ⟨transactionId, confirmations⟩
  | .lez (.canonical canonical) =>
    observeTakerEvent coordinator none
      (some (lezTransactionId canonical.transactionId, canonical.confirmations))
  | .lez (.removed removed) =>
    observeTakerEvent coordinator (some (lezTransactionId removed.previous.transactionId)) none
  | .lez (.replaced removed canonical) =>
    observeTakerEvent coordinator (some (lezTransactionId removed.previous.transactionId))
      (some (lezTransactionId canonical.transactionId, canonical.confirmations))
  | .zcash (.canonical canonical) =>
    observeTakerEvent coordinator none
      (some (zcashTransactionId canonical.transactionId, canonical.confirmations))
  | .zcash (.removed removed) =>
    observeTakerEvent coordinator (some (zcashTransactionId removed.previous.transactionId)) none
  | .zcash (.replaced removed canonical) =>
    observeTakerEvent coordinator (some (zcashTransactionId removed.previous.transactionId))
      (some (zcashTransactionId canonical.transactionId, canonical.confirmations))

namespace ObservedTakerFirstLockTransitionV1

def fromActive (hash160 : Bytes → PubkeyHash) (agreement : ZecAgreementV1) (localParticipant : Participant)
    (predecessorRevision : Nat) (evidence : ObservedTakerFirstLockEvidenceV1) :
    Except ObservedTakerFirstLockTransitionError ObservedTakerFirstLockTransitionV1 := do
  ensure (localParticipant = .maker) (.wrongRole localParticipant)
  let expectedStep := takerFirstLockStep agreement.direction
  ensure (evidence.step = expectedStep) (.wrongChain expectedStep evidence.step)
  validateObservedSource hash160 agreement expectedStep evidence
  return { context := agreement.context localParticipant, predecessorRevision, evidence }

variable (transition : ObservedTakerFirstLockTransitionV1)

def zcashObservationEvent : Option ZcashObservationEvent :=
  match transition.evidence with
  | .zcash event => some event
  | _ => none

def lezObservationEvent : Option LezObservationEventV1 :=
  match transition.evidence with
  | .lez event => some event
  | _ => none

def applyTo (agreement : ZecAgreementV1) (coordinator : SwapCoordinator) (revision : Nat) :
    Except ObservedTakerFirstLockTransitionError SwapCoordinator := do
  ensure (transition.context = agreement.context .maker ∧
    transition.predecessorRevision = revision ∧ coordinator.id = transition.context.swapId ∧
    transition.evidence.step = takerFirstLockStep agreement.direction) .contextMismatch
  (transition.evidence.observe coordinator).mapError .core

def revalidate (hash160 : Bytes → PubkeyHash) (agreement : ZecAgreementV1)
    (localParticipant : Participant) (predecessorRevision : Nat) :
    Except ObservedTakerFirstLockTransitionError Unit := do
  ensure (localParticipant = .maker ∧ transition.context = agreement.context localParticipant ∧
    transition.predecessorRevision = predecessorRevision) .contextMismatch
  let trusted ← fromActive hash160 agreement localParticipant predecessorRevision transition.evidence
  ensure (trusted = transition) .contextMismatch

end ObservedTakerFirstLockTransitionV1

end AtomicSwaps.Zec
