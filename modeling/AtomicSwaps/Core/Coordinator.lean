import AtomicSwaps.Core.Types

namespace AtomicSwaps.Core

structure SwapCoordinator where
  id : Identifier
  pair : Pair
  direction : SwapDirection
  (confirmationPolicy makerConfirmationPolicy : ConfirmationPolicy)
  recoverySchedule : RecoverySchedule
  phase : Phase
  (takerFundingConfirmed makerFundingConfirmed : Bool)
  (takerLockTransactionId makerLockTransactionId : Option Identifier)
  claimEvidence : Option ClaimEvidence
  (revealingClaimTransactionId followupClaimTransactionId takerRefundEventTransactionId : Option Identifier)
  makerRecoveryTransactionId : Option Identifier
deriving DecidableEq

namespace SwapCoordinator

variable (id : Identifier)

def newWithConfirmationPolicies (pair : Pair) (direction : SwapDirection)
    (takerConfirmationPolicy makerConfirmationPolicy : ConfirmationPolicy)
    (recoverySchedule : RecoverySchedule) : SwapCoordinator :=
  { id, pair, direction, confirmationPolicy := takerConfirmationPolicy, makerConfirmationPolicy
    recoverySchedule, phase := .offered, takerFundingConfirmed := false
    makerFundingConfirmed := false, takerLockTransactionId := none, makerLockTransactionId := none
    claimEvidence := none, revealingClaimTransactionId := none, followupClaimTransactionId := none
    takerRefundEventTransactionId := none, makerRecoveryTransactionId := none }

def newWithDirection (pair : Pair) (direction : SwapDirection)
    (confirmationPolicy : ConfirmationPolicy) (recoverySchedule : RecoverySchedule) : SwapCoordinator :=
  newWithConfirmationPolicies id pair direction confirmationPolicy defaultMakerConfirmationPolicy
    recoverySchedule

def new (pair : Pair) (confirmationPolicy : ConfirmationPolicy)
    (recoverySchedule : RecoverySchedule) : SwapCoordinator :=
  newWithDirection id pair .takerSellsForeign confirmationPolicy recoverySchedule

variable (coordinator : SwapCoordinator)

def fundedChain : Participant → Chain
  | .maker => (fundedChains coordinator.pair coordinator.direction).1
  | .taker => (fundedChains coordinator.pair coordinator.direction).2

def fundingTransactionId : Participant → Option Identifier
  | .maker => coordinator.makerLockTransactionId
  | .taker => coordinator.takerLockTransactionId

def requiredConfirmations : Participant → Nat
  | .maker => coordinator.makerConfirmationPolicy.required
  | .taker => coordinator.confirmationPolicy.required

/-- ZEC follows the chain (the LEZ recipient claims first), BTC and XMR follow the role. -/
def firstClaimant : Participant :=
  match coordinator.pair, coordinator.direction with
  | .bitcoin, _ | .zcash, .takerSellsForeign => .taker
  | .monero, _ | .zcash, .takerSellsLez => .maker

def takerLockPhase (hasEvidence : Bool) : Phase → Bool → Phase
  | .offered, true | .awaitingTakerConfirmations, true | .takerLockConfirmed, true =>
    .takerLockConfirmed
  | .offered, false | .awaitingTakerConfirmations, false | .takerLockConfirmed, false =>
    .awaitingTakerConfirmations
  | .bothLegsLocked, false | .claimEvidenceAvailable, false => .takerLockReorged
  | .takerLockReorged, true => if hasEvidence then .claimEvidenceAvailable else .bothLegsLocked
  | phase, _ => phase

def makerLockPhase (hasEvidence : Bool) : Phase → Bool → Phase
  | .awaitingMakerConfirmations, false => .awaitingMakerConfirmations
  | .bothLegsLocked, false | .claimEvidenceAvailable, false => .makerLockReorged
  | .makerLockReorged, true => if hasEvidence then .claimEvidenceAvailable else .bothLegsLocked
  | .awaitingMakerConfirmations, true => .bothLegsLocked
  | phase, _ => phase

variable (proof : ChainProof)

def observeTakerLock : Except Error SwapCoordinator :=
  if coordinator.takerLockTransactionId.any (· ≠ proof.transactionId) then
    .error .conflictingTakerLock
  else if coordinator.phase = .completed ∨ coordinator.phase = .refunded then .ok coordinator
  else
    let confirmed := decide (coordinator.confirmationPolicy.required ≤ proof.confirmations)
    .ok { coordinator with
      takerLockTransactionId := some proof.transactionId
      takerFundingConfirmed := confirmed
      phase := takerLockPhase coordinator.claimEvidence.isSome coordinator.phase confirmed }

def observeTakerLockRemoved (transactionId : Identifier) : Except Error SwapCoordinator :=
  if coordinator.takerLockTransactionId ≠ some transactionId then .error .conflictingTakerLock
  else
    let removed := { coordinator with takerFundingConfirmed := false }
    match coordinator.phase with
    | .awaitingTakerConfirmations | .takerLockConfirmed =>
      .ok { removed with takerLockTransactionId := none, phase := .offered }
    | .awaitingMakerConfirmations | .bothLegsLocked | .claimEvidenceAvailable =>
      .ok { removed with phase := .takerLockReorged }
    | _ => .ok removed

def observeMakerLock : Except Error SwapCoordinator :=
  let confirmed := decide (coordinator.makerConfirmationPolicy.required ≤ proof.confirmations)
  match coordinator.phase with
  | .awaitingMakerConfirmations | .bothLegsLocked | .makerLockReorged | .claimEvidenceAvailable =>
    if coordinator.makerLockTransactionId ≠ some proof.transactionId then
      .error .conflictingMakerLock
    else .ok { coordinator with
      makerFundingConfirmed := confirmed
      phase := makerLockPhase coordinator.claimEvidence.isSome coordinator.phase confirmed }
  | .takerLockConfirmed => .ok { coordinator with
      makerLockTransactionId := some proof.transactionId
      makerFundingConfirmed := confirmed
      phase := if confirmed then .bothLegsLocked else .awaitingMakerConfirmations }
  | _ => match coordinator.makerLockTransactionId with
    | some known =>
      if known = proof.transactionId then .ok coordinator else .error .conflictingMakerLock
    | none => .error .takerLockNotConfirmed

def observeMakerLockRemoved (transactionId : Identifier) : Except Error SwapCoordinator :=
  if coordinator.makerLockTransactionId ≠ some transactionId then .error .conflictingMakerLock
  else
    let removed := { coordinator with makerFundingConfirmed := false }
    match coordinator.phase with
    | .awaitingMakerConfirmations =>
      .ok { removed with makerLockTransactionId := none, phase := .takerLockConfirmed }
    | .bothLegsLocked | .claimEvidenceAvailable => .ok { removed with phase := .makerLockReorged }
    | _ => .ok removed

def observeFunding : Participant → ChainProof → Except Error SwapCoordinator
  | .maker => coordinator.observeMakerLock
  | .taker => coordinator.observeTakerLock

def observeFundingRemoved : Participant → Identifier → Except Error SwapCoordinator
  | .maker => coordinator.observeMakerLockRemoved
  | .taker => coordinator.observeTakerLockRemoved

def bothLegsFunded : Except Error Unit :=
  if !coordinator.takerFundingConfirmed || coordinator.takerLockTransactionId.isNone then
    .error .takerLockNotConfirmed
  else if !coordinator.makerFundingConfirmed || coordinator.makerLockTransactionId.isNone then
    .error .makerLockNotConfirmed
  else .ok ()

/-- The checks both claims share: the claimant, the reorg phases and the funding of both legs. -/
def claimAuthorized (expected claimant : Participant) : Except Error Unit :=
  if claimant ≠ expected then .error (.unexpectedClaimant expected claimant)
  else if coordinator.phase = .takerLockReorged then .error .takerLockNotConfirmed
  else if coordinator.phase = .makerLockReorged then .error .makerLockNotConfirmed
  else coordinator.bothLegsFunded

def observeRevealingClaim (claimant : Participant)
    (proof : ChainProof) (evidence : ClaimEvidence) : Except Error SwapCoordinator :=
  match coordinator.claimAuthorized coordinator.firstClaimant claimant with
  | .error error => .error error
  | .ok () =>
    if coordinator.phase ≠ .bothLegsLocked then
      match coordinator.revealingClaimTransactionId, coordinator.claimEvidence with
      | some knownId, some knownEvidence =>
        if knownId = proof.transactionId ∧ knownEvidence = evidence then .ok coordinator
        else .error .conflictingClaimEvidence
      | _, _ => .error (.invalidPhase .bothLegsLocked coordinator.phase)
    else .ok { coordinator with
      revealingClaimTransactionId := some proof.transactionId
      claimEvidence := some evidence
      phase := .claimEvidenceAvailable }

def observeFollowupClaim (claimant : Participant) (proof : ChainProof) : Except Error SwapCoordinator :=
  match coordinator.claimAuthorized coordinator.firstClaimant.other claimant with
  | .error error => .error error
  | .ok () =>
    if coordinator.phase ≠ .claimEvidenceAvailable then
      match coordinator.followupClaimTransactionId with
      | some known =>
        if known = proof.transactionId then .ok coordinator else .error .conflictingTakerClaim
      | none => .error (.invalidPhase .claimEvidenceAvailable coordinator.phase)
    else .ok { coordinator with
      followupClaimTransactionId := some proof.transactionId
      phase := .completed }

def refundMakerLeg (observed : ChainPosition) : Except Error SwapCoordinator :=
  match coordinator.phase with
  | .bothLegsLocked | .awaitingMakerConfirmations | .takerLockReorged | .makerLockReorged
  | .takerLegRefunded =>
    match coordinator.recoverySchedule.makerDeadlineReached observed with
    | .error error => .error error
    | .ok false => .error .timelockNotExpired
    | .ok true => .ok { coordinator with
        phase := if coordinator.phase = .takerLegRefunded then .refunded else .makerLegRefunded }
  | phase => .error (.invalidPhase .bothLegsLocked phase)

def observeTakerRefundForMakerRecovery (evidence : ChainEventProof) : Except Error SwapCoordinator :=
  match coordinator.recoverySchedule.makerTrigger with
  | .deadline _ => .error (.invalidPhase .takerLegRefunded coordinator.phase)
  | .canonicalTakerRefund chain requiredConfirmations =>
    if evidence.chain ≠ chain then .error (.wrongRecoveryEventChain chain evidence.chain)
    else if coordinator.takerRefundEventTransactionId.any (· ≠ evidence.proof.transactionId) then
      .error .conflictingTakerRefundEvent
    else if evidence.proof.confirmations < requiredConfirmations then
      -- An event that lost depth takes the maker's recovery authority back.
      if coordinator.phase = .makerRecoveryAvailable then
        .ok { coordinator with phase := .takerLegRefunded }
      else .error (.insufficientRecoveryEventConfirmations requiredConfirmations
        evidence.proof.confirmations)
    else if coordinator.phase = .makerRecoveryAvailable ∨ coordinator.phase = .refunded then
      .ok coordinator
    else if coordinator.phase ≠ .takerLegRefunded then
      .error (.invalidPhase .takerLegRefunded coordinator.phase)
    else .ok { coordinator with
      takerRefundEventTransactionId := some evidence.proof.transactionId
      phase := .makerRecoveryAvailable }

def observeMakerRecovery : Except Error SwapCoordinator :=
  if coordinator.makerRecoveryTransactionId.any (· ≠ proof.transactionId) then
    .error .conflictingMakerRecovery
  else if coordinator.phase = .refunded ∧ coordinator.makerRecoveryTransactionId.isSome then
    .ok coordinator
  else if coordinator.phase ≠ .makerRecoveryAvailable then
    .error (.invalidPhase .makerRecoveryAvailable coordinator.phase)
  else .ok { coordinator with
    makerRecoveryTransactionId := some proof.transactionId
    phase := .refunded }

def refundTakerLeg (observed : ChainPosition) : Except Error SwapCoordinator :=
  match coordinator.phase with
  | .awaitingTakerConfirmations | .takerLockConfirmed | .awaitingMakerConfirmations
  | .bothLegsLocked | .takerLockReorged | .makerLockReorged | .makerLegRefunded =>
    match coordinator.recoverySchedule.takerRefundReached observed with
    | .error error => .error error
    | .ok false => .error .timelockNotExpired
    | .ok true => .ok { coordinator with
        phase := match coordinator.phase with
          | .awaitingTakerConfirmations | .takerLockConfirmed | .makerLegRefunded => .refunded
          | _ => .takerLegRefunded }
  | phase => .error (.invalidPhase .takerLockConfirmed phase)

end SwapCoordinator

inductive Operation
  | observeTakerLock (proof : ChainProof)
  | observeTakerLockRemoved (transactionId : Identifier)
  | observeMakerLock (proof : ChainProof)
  | observeMakerLockRemoved (transactionId : Identifier)
  | observeRevealingClaim (claimant : Participant) (proof : ChainProof) (evidence : ClaimEvidence)
  | observeFollowupClaim (claimant : Participant) (proof : ChainProof)
  | refundMakerLeg (observed : ChainPosition)
  | observeTakerRefundForMakerRecovery (evidence : ChainEventProof)
  | observeMakerRecovery (proof : ChainProof)
  | refundTakerLeg (observed : ChainPosition)
deriving DecidableEq

def SwapCoordinator.perform (coordinator : SwapCoordinator) : Operation → Except Error SwapCoordinator
  | .observeTakerLock proof => coordinator.observeTakerLock proof
  | .observeTakerLockRemoved transactionId => coordinator.observeTakerLockRemoved transactionId
  | .observeMakerLock proof => coordinator.observeMakerLock proof
  | .observeMakerLockRemoved transactionId => coordinator.observeMakerLockRemoved transactionId
  | .observeRevealingClaim claimant proof evidence =>
    coordinator.observeRevealingClaim claimant proof evidence
  | .observeFollowupClaim claimant proof => coordinator.observeFollowupClaim claimant proof
  | .refundMakerLeg observed => coordinator.refundMakerLeg observed
  | .observeTakerRefundForMakerRecovery evidence =>
    coordinator.observeTakerRefundForMakerRecovery evidence
  | .observeMakerRecovery proof => coordinator.observeMakerRecovery proof
  | .refundTakerLeg observed => coordinator.refundTakerLeg observed

end AtomicSwaps.Core
