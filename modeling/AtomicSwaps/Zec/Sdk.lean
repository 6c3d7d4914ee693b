import AtomicSwaps.Transition.Program
import AtomicSwaps.Zec.Ports

namespace AtomicSwaps.Zec

open AtomicSwaps.Core Fallible Program ClaimTransitionV1

/-- `ActiveZecSwap` without its ports and its store. -/
structure ActiveZecSwap where
  agreement : ZecAgreementV1
  localParticipant : Participant
  coordinator : SwapCoordinator
  revision : Nat
  zcashTakerLockTracker : ZcashObservationTracker
  lezTakerLockTracker : LezObservationTrackerV1

def ActiveZecSwap.status (active : ActiveZecSwap) : Phase := active.coordinator.phase

def ActiveZecSwap.fresh (agreement : ZecAgreementV1) (localParticipant : Participant)
    (revision : Nat) : ActiveZecSwap :=
  { agreement, localParticipant, coordinator := agreement.coordinator, revision
    zcashTakerLockTracker := none, lezTakerLockTracker := none }

inductive ZecSdkError
  | persistence (error : StoreError)
  | port (error : PortError)
  | wrongRole (expected actual : Participant)
  | invalidActivationRevision (revision : Nat)
  | agreementConflict
  | firstLockNotOffered (phase : Phase)
  | firstLockConflict
  | missingFirstLockIntent
  | makerLockConflict
  | missingMakerLockIntent
  | makerLockObservationNotReady (phase : Phase)
  | claimNotReady (phase : Phase)
  | claimIntentConflict
  | missingClaimIntent
  | missingClaimMaterial
  | refundNotReady (phase : Phase)
  | refundIntentConflict
  | missingRefundIntent
  | invalidProjectionRevision (expected actual : Nat)
  | replayExhausted
  | firstLockIntent (error : FirstLockIntentError)
  | firstLock (error : FirstLockTransitionError)
  | makerLock (error : MakerLockError)
  | observedMakerLock (error : ObservedMakerLockError)
  | observedTakerLock (error : ObservedTakerFirstLockTransitionError)
  | zcashTracker (error : ObservationTrackerError)
  | lezTracker (error : LezObservationTrackerError)
  | claim (error : ClaimError)
  | claimContext (error : ZcashClaimContextError)
  | funding (error : ZcashFundingObservationError)
  | refund (error : RefundError)

inductive CommittedTransition
  | firstLock (transition : FirstLockTransitionV1)
  | observedTakerFirstLock (transition : ObservedTakerFirstLockTransitionV1)
  | makerLock (transition : MakerLockTransitionV1)
  | observedMakerLock (transition : ObservedMakerLockTransitionV1)
  | claim (transition : ClaimTransitionV1)
  | refund (transition : RefundTransitionV1)

inductive HandedSubmission
  | lock (prepared : PreparedSubmission FirstLockStepV1)
  | claim (prepared : PreparedSubmission ClaimStepV1)
  | refund (prepared : PreparedSubmission RefundStepV1)

/-- The durable rows, the swap in memory, and the record of what was committed and what was handed
    to a node. -/
structure World where
  store : Store
  active : ActiveZecSwap
  committed : List CommittedTransition
  handed : List HandedSubmission

abbrev Sdk (α : Type) := Program World ZecSdkError α

namespace Sdk

def persisted {α : Type} (call : Store → Except StoreError α) : Sdk α := do
  let world ← get
  lift ((call world.store).mapError .persistence)

/-- A store call that may write. A refused one leaves the rows as they were. -/
def persist {α : Type} (call : Store → Except StoreError (α × Store)) : Sdk α := fun world =>
  match call world.store with
  | .ok (value, store) => (.ok value, { world with store })
  | .error error => (.error (.persistence error), world)

def answered {α : Type} (answer : Answer α) : Sdk α := lift (answer.mapError .port)

def hand (submission : HandedSubmission) : Sdk Unit :=
  modify fun world => { world with handed := world.handed ++ [submission] }

def active : Sdk ActiveZecSwap := do
  let world ← get
  return world.active

def requireRole (expected : Participant) : Sdk Unit := do
  let active ← active
  lift (ensure (active.localParticipant = expected)
    (.wrongRole expected active.localParticipant))

/-- One durable transition is read back at the revision of the swap and applied to it. -/
def replayStep {Transition : Type} (load : Store → Nat → Except StoreError (Option Transition))
    (apply : Transition → ActiveZecSwap → Except ZecSdkError ActiveZecSwap) : Sdk Bool := do
  let active ← active
  match ← persisted fun store => load store active.revision with
  | none => return false
  | some transition =>
    let next ← lift (apply transition active)
    lift (ensure (active.revision + 1 < u64Limit)
      (.invalidProjectionRevision (u64Limit - 1) (u64Limit - 1)))
    modify fun world =>
      { world with active := { next with revision := active.revision + 1 } }
    return true

/-- The loops of the SDK stop where no transition is left; each turn reads one more row. -/
def replayLoop (step : Sdk Bool) : Nat → Sdk Unit
  | 0 => throw .replayExhausted
  | fuel + 1 => do
    if ← step then replayLoop step fuel else return ()

def replayAll (step : Sdk Bool) : Sdk Unit := do
  let world ← get
  replayLoop step (world.store.activeRevision + 1)

/-- Commits a transition and moves the swap onto it. A commit whose answer was an error is still
    taken where the store holds the very same transition. -/
def project (transition : CommittedTransition) (next : ActiveZecSwap)
    (commit : Store → Except StoreError (ProjectionCommit × Store))
    (probe : Store → Nat → Except StoreError Bool) : Sdk ProjectionCommit := do
  let world ← get
  let expected := world.active.revision + 1
  lift (ensure (expected < u64Limit)
    (.invalidProjectionRevision (u64Limit - 1) (u64Limit - 1)))
  match commit world.store with
  | .ok (outcome, store) =>
    modify fun world => { world with
      store
      committed := if outcome.wasReplay then world.committed else world.committed ++ [transition] }
    lift (ensure (outcome.revision = expected)
      (.invalidProjectionRevision expected outcome.revision))
    modify fun world => { world with active := { next with revision := expected } }
    return outcome
  | .error error =>
    if ← persisted fun store => probe store world.active.revision then
      modify fun world => { world with active := { next with revision := expected } }
      return { revision := expected, wasReplay := true }
    else throw (.persistence error)

end Sdk

namespace ActiveZecSwap

variable (active : ActiveZecSwap)

def applyFirstLock (transition : FirstLockTransitionV1) : Except ZecSdkError ActiveZecSwap := do
  let coordinator ← (transition.applyTo active.agreement active.coordinator active.revision).mapError
    .firstLock
  return { active with coordinator }

def applyMakerLock (transition : MakerLockTransitionV1) : Except ZecSdkError ActiveZecSwap := do
  let coordinator ← (transition.applyTo active.agreement active.coordinator active.revision).mapError
    .makerLock
  return { active with coordinator }

def applyObservedMakerLock (transition : ObservedMakerLockTransitionV1) : Except ZecSdkError ActiveZecSwap := do
  let coordinator ← (transition.applyTo active.agreement active.coordinator active.revision).mapError
    .observedMakerLock
  return { active with coordinator }

def applyClaim (primitives : StorePrimitives) (transition : ClaimTransitionV1) :
    Except ZecSdkError ActiveZecSwap := do
  let coordinator ← (transition.applyTo primitives.toPrimitives active.agreement active.coordinator
    active.revision).mapError .claim
  return { active with coordinator }

def applyRefund (transition : RefundTransitionV1) : Except ZecSdkError ActiveZecSwap := do
  let coordinator ← (transition.applyTo active.agreement active.coordinator active.revision).mapError
    .refund
  return { active with coordinator }

variable (transition : ObservedTakerFirstLockTransitionV1)

def applyCommittedZcashEvent : Except ZecSdkError ZcashObservationTracker :=
  match transition.zcashObservationEvent with
  | none => .ok active.zcashTakerLockTracker
  | some event =>
    (Tracker.applyCommitted zcashTracking active.zcashTakerLockTracker event).mapError .zcashTracker

def applyCommittedLezEvent : Except ZecSdkError LezObservationTrackerV1 :=
  match transition.lezObservationEvent with
  | none => .ok active.lezTakerLockTracker
  | some event =>
    (Tracker.applyCommitted lezTracking active.lezTakerLockTracker event).mapError .lezTracker

def applyObservedTakerFirstLock : Except ZecSdkError ActiveZecSwap := do
  let zcashTakerLockTracker ← active.applyCommittedZcashEvent transition
  let lezTakerLockTracker ← active.applyCommittedLezEvent transition
  let coordinator ← (transition.applyTo active.agreement active.coordinator active.revision).mapError
    .observedTakerLock
  return { active with coordinator, zcashTakerLockTracker, lezTakerLockTracker }

def proposesTakerLock : Except ZecSdkError Bool := do
  let zcash ← match transition.zcashObservationEvent with
    | none => pure true
    | some event =>
      ((Tracker.propose zcashTracking active.zcashTakerLockTracker event).mapError
        .zcashTracker).map Option.isSome
  if ¬ zcash then return false
  match transition.lezObservationEvent with
  | none => return true
  | some event =>
    ((Tracker.propose lezTracking active.lezTakerLockTracker event).mapError .lezTracker).map
      Option.isSome

end ActiveZecSwap

namespace Sdk

variable (primitives : StorePrimitives)

def replayObservedTakerFirstLockTransition : Sdk Unit :=
  replayAll (replayStep (fun store => store.loadObservedTakerFirstLockTransition primitives)
    fun transition active => active.applyObservedTakerFirstLock transition)

def replayMakerLockTransition : Sdk Bool :=
  replayStep (fun store => store.loadMakerLockTransition primitives)
    fun transition active => active.applyMakerLock transition

def replayObservedMakerLockTransition : Sdk Bool :=
  replayStep (fun store => store.loadObservedMakerLockTransition primitives)
    fun transition active => active.applyObservedMakerLock transition

def replayFirstLockTransition : Sdk Unit := do
  let active ← active
  if active.localParticipant = .maker then
    replayObservedTakerFirstLockTransition primitives
    let _ ← replayMakerLockTransition primitives
  else
    let _ ← replayStep (fun store => store.loadFirstLockTransition primitives)
      fun transition active => active.applyFirstLock transition
    let _ ← replayObservedMakerLockTransition primitives

def stageFirstLock (plan : FirstLockPlanV1) : Sdk CreateOutcome := do
  requireRole .taker
  let active ← active
  lift (ensure (active.status = .offered) (.firstLockNotOffered active.status))
  let intent ← lift ((FirstLockIntentV1.fromActive active.agreement active.localParticipant
    active.revision plan).mapError .firstLockIntent)
  let outcome ← persist fun store => store.createFirstLockIntent primitives intent
  if outcome = .conflict then throw .firstLockConflict else return outcome

def projectFirstLock (evidence : FirstLockConfirmedEvidenceV1) : Sdk ProjectionCommit := do
  let active ← active
  match ← persisted fun store => store.loadFirstLockIntent primitives with
  | none => throw .missingFirstLockIntent
  | some intent =>
    let transition ← lift ((FirstLockTransitionV1.fromActive active.agreement intent
      active.revision evidence).mapError .firstLock)
    let next ← lift (active.applyFirstLock transition)
    project (.firstLock transition) next
      (fun store => store.commitFirstLockTransition primitives transition)
      fun store revision => do
        let found ← store.loadFirstLockTransition primitives revision
        return found = some transition

def projectMakerLock (evidence : FirstLockConfirmedEvidenceV1) : Sdk ProjectionCommit := do
  requireRole .maker
  let active ← active
  match ← persisted fun store => store.loadMakerLockIntent primitives with
  | none => throw .missingMakerLockIntent
  | some intent =>
    let transition ← lift ((MakerLockTransitionV1.fromActive active.agreement intent
      active.revision evidence).mapError .makerLock)
    let next ← lift (active.applyMakerLock transition)
    project (.makerLock transition) next
      (fun store => store.commitMakerLockTransition primitives transition)
      fun store revision => do
        let found ← store.loadMakerLockTransition primitives revision
        return found = some transition

inductive ObserveMakerLockOutcome
  | awaitingStableObservation (step : FirstLockStepV1)
  | projected (commit : ProjectionCommit)
  | alreadyObserved (revision : Nat)

def observeMakerLock (answer : Answer (PortObservation FirstLockConfirmedEvidenceV1)) :
    Sdk ObserveMakerLockOutcome := do
  requireRole .taker
  replayFirstLockTransition primitives
  let active ← active
  if active.status = .bothLegsLocked then return .alreadyObserved active.revision
  lift (ensure (active.status = .takerLockConfirmed)
    (.makerLockObservationNotReady active.status))
  match ← answered answer with
  | .absent | .unstable =>
    return .awaitingStableObservation (makerFinalLockStep active.agreement.direction)
  | .confirmed evidence =>
    let transition ← lift ((ObservedMakerLockTransitionV1.fromActive active.agreement
      active.localParticipant active.revision evidence).mapError .observedMakerLock)
    let next ← lift (active.applyObservedMakerLock transition)
    let commit ← project (.observedMakerLock transition) next
      (fun store => store.commitObservedMakerLockTransition primitives transition)
      fun store revision => do
        let found ← store.loadObservedMakerLockTransition primitives revision
        return found = some transition
    return .projected commit

inductive ObserveTakerFirstLockOutcome
  | awaitingStableObservation (step : FirstLockStepV1)
  | unchanged (step : FirstLockStepV1)
  | projected (commit : ProjectionCommit)

def takerLockObservable : Phase → Bool
  | .offered | .awaitingTakerConfirmations | .takerLockConfirmed => true
  | _ => false

variable (answer : Answer (Option ObservedTakerFirstLockEvidenceV1))

/-- A reading without evidence is an absent or an unstable lock. -/
def observeTakerFirstLock : Sdk ObserveTakerFirstLockOutcome := do
  requireRole .maker
  replayObservedTakerFirstLockTransition primitives
  let active ← active
  lift (ensure (takerLockObservable active.status) (.firstLockNotOffered active.status))
  let step := takerFirstLockStep active.agreement.direction
  match ← answered answer with
  | none => return .awaitingStableObservation step
  | some evidence =>
    let transition ← lift ((ObservedTakerFirstLockTransitionV1.fromActive
      primitives.hash160 active.agreement active.localParticipant active.revision evidence).mapError
      .observedTakerLock)
    if ← lift (active.proposesTakerLock transition) then
      let next ← lift (active.applyObservedTakerFirstLock transition)
      let commit ← project (.observedTakerFirstLock transition) next
        (fun store => store.commitObservedTakerFirstLockTransition primitives transition)
        fun store revision => do
          let found ← store.loadObservedTakerFirstLockTransition primitives revision
          return found = some transition
      replayObservedTakerFirstLockTransition primitives
      return .projected commit
    else return .unchanged step

inductive MakerFundingEligibilityOutcome
  | eligible (revision : Nat)
  | awaitingStableObservation (step : FirstLockStepV1)
  | canonicalStateChanged (commit : ProjectionCommit)
  | awaitingConfirmations
  | awaitingLezFinality (status : LezInclusionStatusV1)

def classifyUnchangedMakerEligibility (status : Phase) (revision : Nat) : MakerFundingEligibilityOutcome :=
  if status = .takerLockConfirmed then .eligible revision else .awaitingConfirmations

def classifyUnchangedLezMakerEligibility (status : Phase) (revision requiredConfirmations : Nat)
    (environment : LezEnvironmentV1) (current : Option CanonicalLezEscrowObservationV1) :
    MakerFundingEligibilityOutcome :=
  match current with
  | none => .awaitingStableObservation .lezFund
  | some observation =>
    if status ≠ .takerLockConfirmed ∨ observation.confirmations < requiredConfirmations then
      .awaitingConfirmations
    else if environment = .publicTestnetV02 ∧ observation.inclusionStatus ≠ .finalized then
      .awaitingLezFinality observation.inclusionStatus
    else .eligible revision

def refreshMakerFundingEligibility : Sdk MakerFundingEligibilityOutcome := do
  requireRole .maker
  match ← observeTakerFirstLock primitives answer with
  | .unchanged _ =>
    let active ← active
    return match active.agreement.direction with
      | .takerSellsForeign => classifyUnchangedMakerEligibility active.status active.revision
      | .takerSellsLez => classifyUnchangedLezMakerEligibility active.status active.revision
          (active.coordinator.requiredConfirmations .taker)
          active.agreement.body.lez.chain.environment active.lezTakerLockTracker
  | .awaitingStableObservation step => return .awaitingStableObservation step
  | .projected commit => return .canonicalStateChanged commit

inductive FirstLockDriveOutcome
  | submitted (step : FirstLockStepV1)
  | awaitingStableObservation (step : FirstLockStepV1)
  | readyForFundingProjection (evidence : FirstLockConfirmedEvidenceV1)

variable (ports : LockPorts)

def driveLockStep (submission : PreparedSubmission FirstLockStepV1) : Sdk FirstLockDriveOutcome := do
  match ← answered (ports.observeFirstLock submission.step) with
  | .absent =>
    hand (.lock submission)
    answered ports.submitFirstLock
    return .submitted submission.step
  | .unstable => return .awaitingStableObservation submission.step
  | .confirmed evidence =>
    let active ← active
    lift ((evidence.validateForObservation submission
      (active.agreement.coordinator.requiredConfirmations active.localParticipant)).mapError
      .firstLock)
    return .readyForFundingProjection evidence

def driveLockPlan : FirstLockPlanV1 → Sdk FirstLockDriveOutcome
  | .zcash funding _ => driveLockStep ports funding
  | .lez initialization fund _ _ _ => do
    match ← driveLockStep ports initialization with
    | .readyForFundingProjection _ => driveLockStep ports fund
    | outcome => return outcome

def driveFirstLock : Sdk FirstLockDriveOutcome := do
  let active ← active
  match ← persisted fun store => store.loadFirstLockIntent primitives with
  | none => throw .missingFirstLockIntent
  | some intent =>
    lift ((intent.validateForActive active.agreement active.localParticipant
      active.revision).mapError .firstLockIntent)
    driveLockPlan ports intent.plan

inductive MakerLockDriveOutcome
  | alreadyLocked (revision : Nat)
  | awaitingEligibility (eligibility : MakerFundingEligibilityOutcome)
  | lock (outcome : FirstLockDriveOutcome)

/-- The retained maker-lock intent, or one staged now at the revision of the swap. -/
def makerLockIntent (plan : FirstLockPlanV1) : Sdk MakerLockIntentV1 := do
  let active ← active
  match ← persisted fun store => store.loadMakerLockIntent primitives with
  | some intent =>
    lift ((intent.validateForActive active.agreement active.revision).mapError .makerLock)
    if intent.plan = plan then return intent else throw .makerLockConflict
  | none =>
    let intent ← lift ((MakerLockIntentV1.fromActive active.agreement
      active.localParticipant active.revision plan).mapError .makerLock)
    let outcome ← persist fun store => store.createMakerLockIntent primitives intent
    if outcome = .conflict then throw .makerLockConflict else return intent

def driveMakerLock (plan : FirstLockPlanV1)
    (answer : Answer (Option ObservedTakerFirstLockEvidenceV1)) (ports : LockPorts) :
    Sdk MakerLockDriveOutcome := do
  requireRole .maker
  replayFirstLockTransition primitives
  let active ← active
  if active.status = .bothLegsLocked then return .alreadyLocked active.revision
  match ← refreshMakerFundingEligibility primitives answer with
  | .eligible _ =>
    let intent ← makerLockIntent primitives plan
    let outcome ← driveLockPlan ports intent.plan
    return .lock outcome
  | eligibility => return .awaitingEligibility eligibility

def claimAwaited (active : ActiveZecSwap) : Option (ClaimStepV1 × Bool) :=
  match active.status with
  | .bothLegsLocked =>
    some (.revealingLez, decide (active.localParticipant = active.agreement.lezClaimant))
  | .claimEvidenceAvailable =>
    some (.followupZcash, decide (active.localParticipant = active.agreement.lezClaimant.other))
  | _ => none

/-- One turn of `replay_claim_transitions`. -/
def replayClaimTransition : Sdk Bool := do
  let active ← active
  match claimAwaited active with
  | some (step, true) =>
    replayStep (fun store => store.loadOwnedClaimTransition primitives step)
      fun transition active => active.applyClaim primitives transition
  | some (step, false) =>
    replayStep (fun store => store.loadObservedClaimTransition primitives step)
      fun transition active => active.applyClaim primitives transition
  | none => return false

def replayClaimTransitions : Sdk Unit := replayAll (replayClaimTransition primitives)

inductive ClaimDriveOutcome
  | submitted (step : ClaimStepV1)
  | awaitingStableObservation (step : ClaimStepV1)
  | awaitingSafeZcashFunding (reason : ZcashFundingWaitReasonV1)
  | projected (step : ClaimStepV1) (revision : Nat)
  | completed (revision : Nat)

def loadClaimIntent : Sdk (Option (ClaimIntentV1 × ProtectedClaimPayloadEnvelope)) :=
  persisted fun store => store.loadClaimIntent primitives

def stageClaimIntent (prepared : PreparedSubmission ClaimStepV1) (nonce : BitVec 192) : Sdk Unit := do
  let active ← active
  let protectedPayload ← persisted fun store => store.protectClaimSubmission primitives active.agreement
    active.localParticipant active.revision prepared nonce
  let intent ← lift ((ClaimIntentV1.fromActive active.agreement active.coordinator
    active.localParticipant active.revision prepared
    (primitives.payloadFingerprint protectedPayload)).mapError .claim)
  let world ← get
  match world.store.createClaimIntent primitives intent protectedPayload with
  | .ok (.conflict, _) => throw .claimIntentConflict
  | .ok (_, store) => modify fun world => { world with store }
  | .error error =>
    if (← loadClaimIntent primitives) = some (intent, protectedPayload) then return ()
    else throw (.persistence error)

variable (ports : ClaimPorts)

/-- `revealing_claim_intent` and `followup_claim_intent`: the retained intent, or a new one around
    the bytes the port prepares now. -/
def claimIntent : Sdk (ClaimIntentV1 × ProtectedClaimPayloadEnvelope) := do
  match ← loadClaimIntent primitives with
  | some retained => return retained
  | none =>
    match ← persisted fun store => store.loadClaimMaterial primitives with
    | none => throw .missingClaimMaterial
    | some _ =>
      let prepared ← answered ports.prepareClaim
      stageClaimIntent primitives prepared ports.nonce
      match ← loadClaimIntent primitives with
      | some staged => return staged
      | none => throw .missingClaimIntent

def commitOwnedClaim (transition : ClaimTransitionV1) : Sdk ClaimDriveOutcome := do
  let active ← active
  let next ← lift (active.applyClaim primitives transition)
  let commit ← project (.claim transition) next
    (fun store => store.commitOwnedClaimTransition primitives transition)
    fun store revision => do
      let found ← store.loadOwnedClaimTransition primitives transition.step revision
      return found.map (record primitives.toPrimitives) =
        some (transition.record primitives.toPrimitives)
  return .projected transition.step commit.revision

def commitObservedClaim (transition : ClaimTransitionV1) (nonce : BitVec 192) : Sdk ClaimDriveOutcome := do
  let active ← active
  let next ← lift (active.applyClaim primitives transition)
  let commit ← project (.claim transition) next
    (fun store => store.commitObservedClaimTransition primitives transition nonce)
    fun store revision => do
      let found ← store.loadObservedClaimTransition primitives transition.step revision
      return found.map (record primitives.toPrimitives) =
        some (transition.record primitives.toPrimitives)
  return .projected transition.step commit.revision

/-- The pre-reveal look at the Zcash leg, and the hand-over of the claim that carries the secret. -/
def revealClaim (prepared : PreparedSubmission ClaimStepV1) : Sdk ClaimDriveOutcome := do
  let active ← active
  let context ← lift ((ZcashFundingContextV1.fromActive active.agreement
    active.coordinator).mapError .claimContext)
  match ← answered ports.observeFundingBeforeReveal with
  | .waiting reason => return .awaitingSafeZcashFunding reason
  | .confirmed canonical unspent =>
    lift ((validateConfirmedForReveal primitives.hash160 canonical unspent active.agreement
      active.coordinator context).mapError .funding)
    hand (.claim prepared)
    answered ports.submitClaim
    return .submitted .revealingLez

def driveOwnedRevealingClaim : Sdk ClaimDriveOutcome := do
  let (intent, protectedPayload) ← claimIntent primitives ports
  let active ← active
  let prepared ← persisted fun store =>
    store.openClaimSubmission primitives active.agreement intent protectedPayload
  match ← answered ports.observeRevealingClaim with
  | .absent => revealClaim primitives ports prepared
  | .unstable => return .awaitingStableObservation .revealingLez
  | .confirmed evidence =>
    let transition ← lift ((fromOwned active.agreement active.coordinator
      intent active.revision (.revealing evidence)).mapError .claim)
    commitOwnedClaim primitives transition

def observeRevealingClaim : Sdk ClaimDriveOutcome := do
  let active ← active
  match ← answered ports.observeRevealingClaim with
  | .confirmed evidence =>
    let transition ← lift ((fromObserved active.agreement
      active.coordinator active.localParticipant active.revision (.revealing evidence)).mapError
      .claim)
    commitObservedClaim primitives transition ports.nonce
  | .absent | .unstable => return .awaitingStableObservation .revealingLez

def driveOwnedFollowupClaim : Sdk ClaimDriveOutcome := do
  let active ← active
  let _ ← lift ((ZcashClaimContextV1.fromActive active.agreement
    active.coordinator).mapError .claimContext)
  let (intent, protectedPayload) ← claimIntent primitives ports
  let prepared ← persisted fun store =>
    store.openClaimSubmission primitives active.agreement intent protectedPayload
  match ← answered ports.observeFollowupClaim with
  | .absent =>
    hand (.claim prepared)
    answered ports.submitClaim
    return .submitted .followupZcash
  | .unstable => return .awaitingStableObservation .followupZcash
  | .confirmed evidence =>
    let transition ← lift ((fromOwned active.agreement active.coordinator
      intent active.revision (.followup evidence)).mapError .claim)
    commitOwnedClaim primitives transition

def observeFollowupClaim : Sdk ClaimDriveOutcome := do
  let active ← active
  let _ ← lift ((ZcashClaimContextV1.fromActive active.agreement
    active.coordinator).mapError .claimContext)
  match ← answered ports.observeFollowupClaim with
  | .confirmed evidence =>
    let transition ← lift ((fromObserved active.agreement
      active.coordinator active.localParticipant active.revision (.followup evidence)).mapError
      .claim)
    commitObservedClaim primitives transition ports.nonce
  | .absent | .unstable => return .awaitingStableObservation .followupZcash

def driveClaim : Sdk ClaimDriveOutcome := do
  replayClaimTransitions primitives
  let active ← active
  match claimAwaited active with
  | some (.revealingLez, true) => driveOwnedRevealingClaim primitives ports
  | some (.revealingLez, false) => observeRevealingClaim primitives ports
  | some (.followupZcash, true) => driveOwnedFollowupClaim primitives ports
  | some (.followupZcash, false) => observeFollowupClaim primitives ports
  | none =>
    if active.status = .completed then return .completed active.revision
    else throw (.claimNotReady active.status)

def replayRefundTransitions : Sdk Unit :=
  replayAll (replayStep (fun store => store.loadRefundTransition primitives)
    fun transition active => active.applyRefund transition)

/-- The agreement-ordered refund: LEZ before Zcash. While the maker's lock confirms, only the LEZ leg
    of a taker that sells LEZ is live. -/
def nextRefundStep (phase : Phase) (direction : SwapDirection) : Option RefundStepV1 :=
  match phase with
  | .bothLegsLocked | .takerLockReorged | .makerLockReorged => some .lez
  | .awaitingTakerConfirmations | .takerLockConfirmed => match direction with
    | .takerSellsForeign => some .zcash
    | .takerSellsLez => some .lez
  | .awaitingMakerConfirmations => if direction = .takerSellsLez then some .lez else none
  | _ => none

inductive RefundDriveOutcome
  | submitted (step : RefundStepV1)
  | awaitingStableObservation (step : RefundStepV1)
  | awaitingFunding (step : RefundStepV1) (reason : RefundFundingWaitReasonV1)
  | awaitingDeadline (step : RefundStepV1)
  | submissionRejected (step : RefundStepV1)
  | submissionOutcomeUnknown (step : RefundStepV1)
  | projected (step : RefundStepV1) (revision : Nat)
  | refunded (revision : Nat)

variable (step : RefundStepV1)

/-- Every Zcash request is made with the funding the swap has pinned. -/
def requireRefundContext : Sdk Unit := do
  match step with
  | .lez => return ()
  | .zcash =>
    let active ← active
    let _ ← lift ((ZcashFundingContextV1.fromActive active.agreement
      active.coordinator).mapError .claimContext)

def checkRefundEligibility (answer : Answer RefundEligibilityObservationV1) : Sdk (Option RefundDriveOutcome) := do
  requireRefundContext step
  match ← answered answer with
  | .unstable => return some (.awaitingStableObservation step)
  | .fundingUnavailable reason => return some (.awaitingFunding step reason)
  | .canonical position =>
    let active ← active
    match step.validateDeadline active.agreement position with
    | .ok () => return none
    | .error (.deadlineNotReached _) => return some (.awaitingDeadline step)
    | .error error => throw (.refund error)

def loadRefundIntent : Sdk (Option RefundIntentV1) :=
  persisted fun store => store.loadRefundIntent primitives

def stageRefundIntent (prepared : PreparedSubmission RefundStepV1) : Sdk Unit := do
  let active ← active
  let intent ← lift ((RefundIntentV1.fromActive active.agreement active.coordinator
    active.localParticipant active.revision prepared).mapError .refund)
  let world ← get
  match world.store.createRefundIntent primitives intent with
  | .ok (.conflict, _) => throw .refundIntentConflict
  | .ok (_, store) => modify fun world => { world with store }
  | .error error =>
    if (← loadRefundIntent primitives) = some intent then return ()
    else throw (.persistence error)

def commitRefundTransition (transition : RefundTransitionV1) : Sdk RefundDriveOutcome := do
  let active ← active
  let next ← lift (active.applyRefund transition)
  let commit ← project (.refund transition) next
    (fun store => store.commitRefundTransition primitives transition)
    fun store revision => do
      let found ← store.loadRefundTransition primitives revision
      return found = some transition
  return if next.status = .refunded then .refunded commit.revision
    else .projected transition.evidence.step commit.revision

/-- The retained refund, observed first and handed to the node only where it is absent and due. -/
def submitPreparedRefund (ports : RefundPorts) (intent : RefundIntentV1) : Sdk RefundDriveOutcome := do
  let active ← active
  lift ((intent.validateForActive active.agreement active.coordinator
    active.revision).mapError .refund)
  lift (ensure (intent.prepared.step = step) (.refund .stepMismatch))
  requireRefundContext step
  match ← answered ports.observePreparedRefund with
  | .unstable => return .awaitingStableObservation step
  | .confirmed evidence =>
    let transition ← lift ((RefundTransitionV1.fromOwned active.agreement active.coordinator
      intent active.revision evidence).mapError .refund)
    commitRefundTransition primitives transition
  | .absent =>
    match ← checkRefundEligibility step ports.eligibilityBeforeSubmit with
    | some wait => return wait
    | none =>
      requireRefundContext step
      hand (.refund intent.prepared)
      match ← answered ports.submitRefund with
      | .accepted => return .submitted step
      | .definitivelyRejected => return .submissionRejected step
      | .unknown => return .submissionOutcomeUnknown step

def driveOwnedRefund (ports : RefundPorts) : Sdk RefundDriveOutcome := do
  match ← loadRefundIntent primitives with
  | some intent => submitPreparedRefund primitives step ports intent
  | none =>
    match ← checkRefundEligibility step ports.eligibilityBeforePrepare with
    | some wait => return wait
    | none =>
      requireRefundContext step
      let prepared ← answered ports.prepareRefund
      stageRefundIntent primitives prepared
      match ← loadRefundIntent primitives with
      | some intent => submitPreparedRefund primitives step ports intent
      | none => throw .missingRefundIntent

def observeCounterpartyRefund (ports : RefundPorts) : Sdk RefundDriveOutcome := do
  requireRefundContext step
  let active ← active
  match ← answered ports.observeCounterpartyRefund with
  | .absent | .unstable => return .awaitingStableObservation step
  | .confirmed evidence =>
    let transition ← lift ((RefundTransitionV1.fromObserved active.agreement
      active.coordinator active.localParticipant active.revision evidence).mapError .refund)
    commitRefundTransition primitives transition

def refundAwaited (active : ActiveZecSwap) : Option RefundStepV1 :=
  if active.status = lezRefundedPhase active.agreement then some .zcash
  else nextRefundStep active.status active.agreement.direction

def driveRefund (ports : RefundPorts) : Sdk RefundDriveOutcome := do
  replayRefundTransitions primitives
  let active ← active
  if active.status = .refunded then return .refunded active.revision
  match refundAwaited active with
  | none => throw (.refundNotReady active.status)
  | some step =>
    if active.localParticipant = step.owner active.agreement then
      driveOwnedRefund primitives step ports
    else observeCounterpartyRefund primitives step ports

/-- Activating again starts from the initial coordinator, whatever the journal holds. -/
def activate : Sdk Unit := do
  let agreement ← persisted fun store => store.validatedAgreement primitives
  let world ← get
  lift (ensure (world.store.agreementRow.acceptedRevision = 0)
    (.invalidActivationRevision world.store.agreementRow.acceptedRevision))
  modify fun world =>
    { world with active := .fresh agreement world.store.localParticipant 0 }

def activateWithClaimPreimage (preimage : Bytes32) (nonce : BitVec 192) : Sdk Unit := do
  let agreement ← persisted fun store => store.validatedAgreement primitives
  let world ← get
  lift (ensure (world.store.agreementRow.acceptedRevision = 0)
    (.invalidActivationRevision world.store.agreementRow.acceptedRevision))
  let firstClaimant := agreement.coordinator.firstClaimant
  lift (ensure (world.store.localParticipant = firstClaimant)
    (.wrongRole firstClaimant world.store.localParticipant))
  lift ((validatePreimage primitives.toPrimitives agreement preimage).mapError .claim)
  let outcome ← persist fun store =>
    store.createAgreementWithLocalClaimMaterial primitives preimage nonce
  if outcome = .conflict then throw .agreementConflict
  modify fun world =>
    { world with active := .fresh agreement world.store.localParticipant 0 }

/-- `resume`, the replay of claims and the replay of refunds. -/
def resumeAllCapable : Sdk Unit := do
  let agreement ← persisted fun store => store.validatedAgreement primitives
  modify fun world => { world with
    active := .fresh agreement world.store.localParticipant
      world.store.agreementRow.acceptedRevision }
  replayFirstLockTransition primitives
  replayClaimTransitions primitives
  replayRefundTransitions primitives

end Sdk

/-- Every call the SDK offers on one swap, with the answers its ports give. -/
inductive SdkCall
  | activate
  | activateWithClaimPreimage (preimage : Bytes32) (nonce : BitVec 192)
  | resumeAllCapable
  | stageFirstLock (plan : FirstLockPlanV1)
  | driveFirstLock (ports : LockPorts)
  | projectFirstLock (evidence : FirstLockConfirmedEvidenceV1)
  | observeMakerLock (answer : Answer (PortObservation FirstLockConfirmedEvidenceV1))
  | observeTakerFirstLock (answer : Answer (Option ObservedTakerFirstLockEvidenceV1))
  | refreshMakerFundingEligibility (answer : Answer (Option ObservedTakerFirstLockEvidenceV1))
  | driveMakerLock (plan : FirstLockPlanV1)
      (answer : Answer (Option ObservedTakerFirstLockEvidenceV1)) (ports : LockPorts)
  | projectMakerLock (evidence : FirstLockConfirmedEvidenceV1)
  | driveClaim (ports : ClaimPorts)
  | driveRefund (ports : RefundPorts)

variable (primitives : StorePrimitives)

/-- The outcome of a call is read from the world it leaves. -/
def Sdk.call : SdkCall → Sdk Unit
  | .activate => activate primitives
  | .activateWithClaimPreimage preimage nonce => activateWithClaimPreimage primitives preimage nonce
  | .resumeAllCapable => resumeAllCapable primitives
  | .stageFirstLock plan => do let _ ← stageFirstLock primitives plan
  | .driveFirstLock ports => do let _ ← driveFirstLock primitives ports
  | .projectFirstLock evidence => do let _ ← projectFirstLock primitives evidence
  | .observeMakerLock answer => do let _ ← observeMakerLock primitives answer
  | .observeTakerFirstLock answer => do let _ ← observeTakerFirstLock primitives answer
  | .refreshMakerFundingEligibility answer => do
    let _ ← refreshMakerFundingEligibility primitives answer
  | .driveMakerLock plan answer ports => do let _ ← driveMakerLock primitives plan answer ports
  | .projectMakerLock evidence => do let _ ← projectMakerLock primitives evidence
  | .driveClaim ports => do let _ ← driveClaim primitives ports
  | .driveRefund ports => do let _ ← driveRefund primitives ports

def World.after (world : World) (call : SdkCall) : World :=
  (Sdk.call primitives call world).2

def World.activated (localParticipant : Participant)
    (claimKey : ProtectedClaimKey) (agreementWire : ZecAgreementRecordV1) (acceptedAt : Nat) :
    Except StoreError World := do
  let store ← Store.createAgreement primitives localParticipant claimKey agreementWire acceptedAt 0
  let agreement ← store.validatedAgreement primitives
  return { store, active := .fresh agreement localParticipant 0, committed := [], handed := [] }

end AtomicSwaps.Zec
