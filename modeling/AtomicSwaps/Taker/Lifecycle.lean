import AtomicSwaps.Taker.Registry
import AtomicSwaps.Transition.Durable

namespace AtomicSwaps.Taker

open AtomicSwaps.Core Fallible

inductive TakerTerminalActionV1
  | claim | refund
deriving DecidableEq

inductive TakerSwapStateV1
  | initiating
  | notActivated
  | awaitingFirstLock
  | awaitingSecondLock
  | bothLegsLocked
  | claimAvailable
  | refundAvailable
  | claimInProgress
  | refundInProgress
  | completed
  | refunded
  | attentionRequired
deriving DecidableEq

inductive TakerPrivacyGuidanceV1
  | shieldReceivedTransparentZecSeparately

inductive ActorNextActionV1
  | observeTakerFirstLock
  | observeMakerSecondLockOrRecoverTakerLeg
  | observeRevealingClaim
  | observeFollowupClaim
  | recoverTakerLeg
  | recoverMakerLeg
  | laterRevisionNotYetComposed
  | complete
deriving DecidableEq

inductive ZecLifecycleAction
  | wait | createAndFundLez | fundZcash | claimLez | claimZcash | refundZcash | complete
deriving DecidableEq

inductive ActorStatusProjectionV1 (NextAction : Type)
  | notActivated
  | active (phase : Phase) (revision : Nat) (nextAction : NextAction)

/-- The durable status of the role actor that runs one prepared swap, by its pair. -/
inductive RouteActor
  | btc (status : ActorStatusProjectionV1 ActorNextActionV1)
  | zec (status : ActorStatusProjectionV1 ZecLifecycleAction)

inductive LifecycleStatus
  | notActivated
  | active (phase : Phase) (revision : Nat) (state : TakerSwapStateV1)
      (availableAction : Option TakerTerminalActionV1) (guidance : Option TakerPrivacyGuidanceV1)

/-- The refund is offered once the actor routes to recovery, past the Maker's second-lock cutoff. -/
def btcActorProgress (phase : Phase) (nextAction : ActorNextActionV1) :
    TakerSwapStateV1 × Option TakerTerminalActionV1 :=
  match phase with
  | .offered | .awaitingTakerConfirmations => (.awaitingFirstLock, none)
  | .takerLockConfirmed | .awaitingMakerConfirmations =>
    if nextAction = .recoverTakerLeg then (.awaitingSecondLock, some .refund)
    else (.awaitingSecondLock, none)
  | .bothLegsLocked =>
    if nextAction = .recoverMakerLeg then (.bothLegsLocked, none) else (.claimAvailable, some .claim)
  | .claimEvidenceAvailable => (.claimInProgress, none)
  | .makerLegRefunded =>
    if nextAction = .recoverTakerLeg then (.refundAvailable, some .refund)
    else (.attentionRequired, none)
  | .takerLegRefunded => (.refundInProgress, none)
  | .completed => (.completed, none)
  | .refunded => (.refunded, none)
  | .takerLockReorged | .makerLockReorged | .makerRecoveryAvailable => (.attentionRequired, none)

def zecActorProgress (phase : Phase) (nextAction : ZecLifecycleAction) :
    TakerSwapStateV1 × Option TakerTerminalActionV1 × Option TakerPrivacyGuidanceV1 :=
  match phase with
  | .offered => (.awaitingFirstLock, none, none)
  | .awaitingTakerConfirmations | .takerLockConfirmed | .awaitingMakerConfirmations
  | .bothLegsLocked | .takerLockReorged | .makerLockReorged => (.refundAvailable, some .refund, none)
  | .claimEvidenceAvailable =>
    if nextAction = .claimZcash then (.claimAvailable, some .claim, none)
    else (.attentionRequired, none, none)
  | .completed => (.completed, none, some .shieldReceivedTransparentZecSeparately)
  | .refunded => (.refunded, none, none)
  | .makerLegRefunded | .takerLegRefunded | .makerRecoveryAvailable => (.attentionRequired, none, none)

def RouteActor.status : RouteActor → LifecycleStatus
  | .btc .notActivated | .zec .notActivated => .notActivated
  | .btc (.active phase revision nextAction) =>
    let progress := btcActorProgress phase nextAction
    .active phase revision progress.1 progress.2 none
  | .zec (.active phase revision nextAction) =>
    let progress := zecActorProgress phase nextAction
    .active phase revision progress.1 progress.2.1 progress.2.2

/-- What the catalog and the custody of one prepared swap hold. -/
structure PreparedTakerInitiationV1 where
  facts : TakerInitiationFactsV1
  authority : Bytes32
  receiptBound : Bool
  actor : RouteActor

/-- The Taker node: its registry, its prepared swaps, and the actor commands it has invoked. -/
structure TakerNode where
  registry : TakerFacadeRegistry
  prepared : SwapId → Option PreparedTakerInitiationV1
  commands : List (SwapId × TakerTerminalActionV1)

inductive ActionError
  | notFound | progressChanged | unavailable | conflict | dependencyUnavailable | registryUnavailable

structure TakerActionCommitV1 where
  swapId : SwapId
  action : TakerTerminalActionV1
  requestedAfterGeneration : Nat
  wasReplay : Bool

/-- How one invoked actor command ends: its answer, and the status the actor is left in. -/
structure ActorReply where
  accepted : Bool
  after : RouteActor

def facadeAction : TakerTerminalActionV1 → TakerFacadeActionV1
  | .claim => .claim
  | .refund => .refund

def actionCommit (admission : TakerActionAdmissionV1) : TakerActionCommitV1 where
  swapId := admission.swapId
  action := match admission.action with
    | .claim => .claim
    | .refund => .refund
  requestedAfterGeneration := admission.requestedAfterGeneration
  wasReplay := admission.wasReplay

def mapActionStoreError : TakerFacadeStoreError → ActionError
  | .requestConflict | .actionGenerationConflict => .conflict
  | .swapUnavailable => .notFound
  | .swapConflict | .corruptState | .storageUnavailable => .registryUnavailable

def replayActorEffectRequired (status : LifecycleStatus) (expectedGeneration : Nat)
    (action : TakerTerminalActionV1) : Except ActionError Bool :=
  match status with
  | .notActivated => .error .dependencyUnavailable
  | .active phase revision _ availableAction _ =>
    if expectedGeneration < revision then
      .ok (action = .refund ∧ (phase = .makerLegRefunded ∨ phase = .takerLegRefunded))
    else if revision < expectedGeneration then .error .progressChanged
    else if availableAction ≠ some action then .error .unavailable
    else .ok true

namespace TakerNode

variable (node : TakerNode)

def setRegistry (registry : TakerFacadeRegistry) : TakerNode :=
  { node with registry }

variable (swapId : SwapId)

def setActor (actor : RouteActor) : TakerNode :=
  { node with
    prepared := fun other =>
      if other = swapId then (node.prepared swapId).map ({ · with actor }) else node.prepared other }

def invoke (action : TakerTerminalActionV1) (after : RouteActor) : TakerNode :=
  { node.setActor swapId after with commands := node.commands ++ [(swapId, action)] }

def resolveActionAuthority : Except ActionError PreparedTakerInitiationV1 := do
  let some prepared := node.prepared swapId | throw .notFound
  let some facts ← (node.registry.lookupInitiationForMonitor swapId prepared.authority).mapError
    fun _ => ActionError.registryUnavailable | throw .notFound
  ensure (facts = prepared.facts) .registryUnavailable
  ensure (prepared.receiptBound = true) .dependencyUnavailable
  return prepared

def supersededAdmission (admitted : Option TakerActionAdmissionV1) (action : TakerTerminalActionV1)
    (expectedGeneration : Nat) : Except ActionError (Option TakerActionAdmissionV1) :=
  match admitted with
  | none => .ok none
  | some existing =>
    if existing.action ≠ facadeAction action ∧ existing.requestedAfterGeneration < expectedGeneration
    then .ok (some existing) else .error .conflict

def ensureOffered (status : LifecycleStatus) (action : TakerTerminalActionV1)
    (expectedGeneration : Nat) : Except ActionError Unit :=
  match status with
  | .notActivated => .error .unavailable
  | .active _ revision _ availableAction _ => do
    ensure (revision = expectedGeneration) .progressChanged
    ensure (availableAction = some action) .unavailable

open Durable

def retireSuperseded : Option TakerActionAdmissionV1 → Durable TakerNode ActionError Unit
  | none => return
  | some stale => do
    let node ← read
    let retired ← check ((node.registry.retireSupersededAction stale).mapError mapActionStoreError)
    commit (·.setRegistry retired.2)

def admitTerminalAction (requestId : RequestId) (swapId : SwapId) (action : TakerTerminalActionV1)
    (expectedGeneration : Nat) : Durable TakerNode ActionError TakerActionAdmissionV1 := do
  let node ← read
  let admitted ← check ((node.registry.admitAction requestId swapId (facadeAction action)
    expectedGeneration).mapError mapActionStoreError)
  commit (·.setRegistry admitted.2)
  return admitted.1

def executeTerminalActorCommand (action : TakerTerminalActionV1)
    (reply : ActorReply) : Durable TakerNode ActionError Unit := do
  commit (·.invoke swapId action reply.after)
  check (ensure (reply.accepted = true) .dependencyUnavailable)

/-- The exact replay comes before the actor's current progress, so that a repeated request can
    reconcile what its own earlier attempt left. -/
def terminalAction (requestId : RequestId) (swapId : SwapId) (expectedGeneration : Nat)
    (action : TakerTerminalActionV1) (reply : ActorReply) : Durable TakerNode ActionError TakerActionCommitV1 := do
  let node ← read
  let prepared ← check (node.resolveActionAuthority swapId)
  let replay ← check ((node.registry.lookupExactAction requestId swapId (facadeAction action)
    expectedGeneration).mapError mapActionStoreError)
  match replay with
  | some admission => do
    let required ← check (replayActorEffectRequired prepared.actor.status expectedGeneration action)
    if required then
      executeTerminalActorCommand swapId action reply
      return actionCommit admission
    else return actionCommit admission
  | none => do
    let admitted ← check ((node.registry.lookupActionForSwap swapId).mapError mapActionStoreError)
    let superseded ← check (supersededAdmission admitted action expectedGeneration)
    check (ensureOffered prepared.actor.status action expectedGeneration)
    retireSuperseded superseded
    let admission ← admitTerminalAction requestId swapId action expectedGeneration
    executeTerminalActorCommand swapId action reply
    return actionCommit admission

end TakerNode

inductive MonitoringError
  | notFound | dependencyUnavailable | registryUnavailable

structure TakerSwapViewV1 where
  facts : TakerInitiationFactsV1
  progressGeneration : Nat
  state : TakerSwapStateV1
  availableAction : Option TakerTerminalActionV1
  privacyGuidance : Option TakerPrivacyGuidanceV1

def viewFromActorStatus (facts : TakerInitiationFactsV1) : LifecycleStatus → TakerSwapViewV1
  | .notActivated =>
    { facts, progressGeneration := 0, state := .notActivated, availableAction := none
      privacyGuidance := none }
  | .active _ revision state availableAction guidance =>
    { facts, progressGeneration := revision, state, availableAction, privacyGuidance := guidance }

/-- An admitted action shows as in progress only while the actor still offers it at the generation
    it was requested after; afterwards the admission is history and the actor's own view rules. -/
def overlayAdmittedAction (view : TakerSwapViewV1) :
    Option TakerActionAdmissionV1 → Except MonitoringError TakerSwapViewV1
  | none => .ok view
  | some admission =>
    if view.progressGeneration < admission.requestedAfterGeneration then .error .dependencyUnavailable
    else if ¬(admission.requestedAfterGeneration = view.progressGeneration ∧
          view.availableAction.map facadeAction = some admission.action) ∨
        view.state = .completed ∨ view.state = .refunded then .ok view
    else .ok
      { view with
        state := match admission.action with
          | .claim => .claimInProgress
          | .refund => .refundInProgress
        availableAction := none
        privacyGuidance := none }

def TakerNode.projectSwap (node : TakerNode) (swapId : SwapId) : Except MonitoringError TakerSwapViewV1 := do
  let some prepared := node.prepared swapId | throw .notFound
  let some facts ← (node.registry.lookupInitiationForMonitor swapId prepared.authority).mapError
    fun _ => MonitoringError.registryUnavailable | throw .notFound
  ensure (facts = prepared.facts) .registryUnavailable
  if prepared.receiptBound then
    let admitted ← (node.registry.lookupActionForSwap swapId).mapError
      fun _ => MonitoringError.registryUnavailable
    overlayAdmittedAction (viewFromActorStatus facts prepared.actor.status) admitted
  else
    return { facts, progressGeneration := 0, state := .initiating, availableAction := none
             privacyGuidance := none }

end AtomicSwaps.Taker
