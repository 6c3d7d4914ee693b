import AtomicSwaps.Maker.Requests

namespace AtomicSwaps.Maker

open AtomicSwaps.Core Fallible Relational

section Records

structure MakerActorLeaseOwner where
  bytes : BitVec 128
  nonzero : bytes ≠ 0
deriving DecidableEq

inductive DesiredState
  | running | stopped
deriving DecidableEq

inductive MakerActorScheduleState
  | queued | leased | backoff | terminal | failed
deriving DecidableEq

/-- A row of `maker_actor_processes`. -/
structure MakerActorProcessRecordV1 where
  manifest : MakerActorManifestV1
  desiredState : DesiredState
  scheduleState : MakerActorScheduleState
  (nextAttemptAt leaseGeneration : Nat)
  leaseOwner : Option MakerActorLeaseOwner
  leasedAt : Option Nat
  childIdentity : Option (Nat × Nat)
  attemptCount : Nat
  lastFailureClass : Option String
  (createdAt updatedAt : Nat)
deriving DecidableEq

def MakerActorProcessRecordV1.swapId (record : MakerActorProcessRecordV1) : SwapId :=
  record.manifest.swapId

structure MakerActorLeaseV1 where
  record : MakerActorProcessRecordV1
  owner : MakerActorLeaseOwner
  generation : Nat
deriving DecidableEq

inductive MakerActorManualActionState
  | queued | leased | completed | failed
deriving DecidableEq

/-- A row of `maker_actor_manual_actions`; the order of the rows is its `sequence` column. -/
structure MakerActorManualActionSnapshot where
  requestId : RequestId
  swapId : SwapId
  action : MakerActorManualAction
  state : MakerActorManualActionState
  requestedAfterGeneration : Nat
  leaseOwner : Option MakerActorLeaseOwner
  leaseGeneration : Option Nat
  (createdAt updatedAt : Nat)

inductive MakerActorProgressObservationV1
  | notActivated
  | active (phase : String) (revision : Nat) (nextAction : String)

structure MakerActorProgressSnapshotV1 where
  swapId : SwapId
  actorKind : MakerActorKindV1
  sourceGeneration : Nat
  observation : MakerActorProgressObservationV1
  observedAt : Nat

inductive MakerActorAttemptResolution
  | requeue (notBefore : Nat)
  | backoff (notBefore : Nat) (failureClass : String)
  | terminal
  | manualActionCompleted
  | failed (failureClass : String)

structure MakerActorManualActionCommit where
  requestedAfterGeneration : Nat
  wasReplay : Bool

inductive MakerActorProcessError
  | missingSwap
  | pairMismatch
  | registrationConflict
  | leaseConflict
  | manualActionRequestConflict
  | manualActionGenerationConflict
  | manualActionPending
  | manualActionUnavailable
  | unsafeLock
  | lockUnavailable
  | lockMismatch
  | invalidSchedulingInput
  | corruptRecord
  | store
  | sqlite

abbrev ActorResult (α : Type) := Except MakerActorProcessError α

/-- Proof that this process owns one per-swap kernel lock: whose it is, whether its file still passes
    the ownership checks and whether the named file is still the locked one. -/
structure ActorHeldLock where
  swapId : SwapId
  stateDatabasePath : Path
  (safe sameInode : Bool)

def ActorHeldLock.validateFor (lock : ActorHeldLock) (record : MakerActorProcessRecordV1) : ActorResult Unit := do
  ensure lock.safe .unsafeLock
  ensure (lock.swapId = record.swapId ∧ lock.stateDatabasePath = record.manifest.stateDatabasePath ∧
    lock.sameInode) .lockMismatch

end Records

section Tables

/-- The table's `CHECK` of a schedule state against its lease columns. -/
def MakerActorProcessRecordV1.shaped (row : MakerActorProcessRecordV1) : Bool :=
  if row.scheduleState = .leased then row.leaseOwner.isSome && row.leasedAt.isSome
  else row.leaseOwner.isNone && row.leasedAt.isNone && row.childIdentity.isNone

def makerActorProcesses : Schema MakerActorProcessRecordV1 SwapId where
  key row := row.swapId
  check row :=
    row.nextAttemptAt ≤ i64Max && row.leaseGeneration ≤ i64Max && row.attemptCount ≤ i64Max &&
    row.leasedAt.all (· ≤ i64Max) && row.childIdentity.all (fun child => 0 < child.1 && 0 < child.2) &&
    row.createdAt ≤ row.updatedAt && row.shaped
  apart row other :=
    row.manifest.configPath ≠ other.manifest.configPath &&
    row.manifest.stateDatabasePath ≠ other.manifest.stateDatabasePath

def MakerActorManualActionSnapshot.isOpen (row : MakerActorManualActionSnapshot) : Bool :=
  row.state = .queued || row.state = .leased

-- The second part of `apart` is the partial unique index over the open actions of a swap.
def makerActorManualActions : Schema MakerActorManualActionSnapshot RequestId where
  key row := row.requestId
  check row :=
    row.leaseGeneration.all (0 < ·) && row.createdAt ≤ row.updatedAt &&
    if row.state = .leased then row.leaseOwner.isSome && row.leaseGeneration.isSome
    else row.leaseOwner.isNone && row.leaseGeneration.isNone
  apart row other := row.swapId ≠ other.swapId || !row.isOpen || !other.isOpen

def makerActorProgress : Schema MakerActorProgressSnapshotV1 SwapId where
  key row := row.swapId
  check row := 0 < row.sourceGeneration
  apart _ _ := true

/-- The tables of the maker database that its actor scheduler reads and writes. -/
structure ActorStore where
  swaps : Table swaps
  mutations : Table makerApplicationMutations
  processes : Table makerActorProcesses
  actions : Table makerActorManualActions
  progress : Table makerActorProgress

/-- An `UPDATE` that has to change one row. -/
def updateOne {Row Key : Type} [DecidableEq Key] {schema : Schema Row Key} (table : Table schema) (key : Key)
    (selected : Row → Bool) (change : Row → Row) (conflict : MakerActorProcessError) :
    ActorResult (Table schema) := do
  let (table, changed) ← required (table.updateWhere key selected change) .sqlite
  ensure (changed = 1) conflict
  return table

end Tables

section Decoding

def timeToSql (value : Nat) : Nat := min value i64Max

def generationToSql (value : Nat) : ActorResult Nat := do
  ensure (value ≤ i64Max) .corruptRecord
  return value

def validLabel (value : String) : Bool :=
  !value.isEmpty && value.utf8ByteSize ≤ 64 &&
  value.toList.all fun character => character.isLower || character.isDigit || character == '_'

def validateFailureClass (value : String) : ActorResult Unit :=
  ensure (validLabel value) .invalidSchedulingInput

def MakerActorProgressObservationV1.validate : MakerActorProgressObservationV1 → ActorResult Unit
  | .notActivated => .ok ()
  | .active phase _ nextAction => ensure (validLabel phase ∧ validLabel nextAction) .corruptRecord

def decodeRecord (row : MakerActorProcessRecordV1) : ActorResult MakerActorProcessRecordV1 := do
  ensure ((row.scheduleState = .leased ↔ row.leaseOwner.isSome ∧ row.leasedAt.isSome) ∧
    (row.scheduleState = .leased ∨ row.childIdentity.isNone)) .corruptRecord
  return row

def loadRecord (processes : Table makerActorProcesses) (swapId : SwapId) :
    ActorResult (Option MakerActorProcessRecordV1) :=
  match processes.find? swapId with
  | none => .ok none
  | some row => do
    let record ← decodeRecord row
    return some record

def decodeManualAction (row : MakerActorManualActionSnapshot) : ActorResult MakerActorManualActionSnapshot := do
  ensure (row.state = .leased ↔ row.leaseOwner.isSome ∧ row.leaseGeneration.isSome) .corruptRecord
  return row

variable (actions : Table makerActorManualActions)

def loadManualActionByRequest (requestId : RequestId) : ActorResult (Option MakerActorManualActionSnapshot) :=
  match actions.find? requestId with
  | none => .ok none
  | some row => do
    let action ← decodeManualAction row
    return some action

/-- `WHERE swap_id = … AND state IN ('queued', 'leased') ORDER BY sequence DESC LIMIT 1`. -/
def openManualAction (swapId : SwapId) : Option MakerActorManualActionSnapshot :=
  (actions.rows.filter fun row => row.swapId = swapId && row.isOpen).getLast?

def loadOpenManualAction (swapId : SwapId) : ActorResult (Option MakerActorManualActionSnapshot) :=
  match openManualAction actions swapId with
  | none => .ok none
  | some row => do
    let action ← decodeManualAction row
    return some action

def validateManifestSwap (swaps : Table swaps) (manifest : MakerActorManifestV1) : ActorResult Unit := do
  let swap ← required (swaps.find? manifest.swapId) .missingSwap
  ensure (swap.pair = manifest.kind.pair) .pairMismatch

end Decoding

section Registration

def registerMakerActorInTransaction (store : ActorStore) (manifest : MakerActorManifestV1) (now : Nat) :
    ActorResult (Bool × ActorStore) := do
  validateManifestSwap store.swaps manifest
  match ← loadRecord store.processes manifest.swapId with
  | some existing =>
    ensure (existing.manifest = manifest) .registrationConflict
    return (true, store)
  | none =>
    let processes ← required (store.processes.insert {
      manifest
      desiredState := .running
      scheduleState := .queued
      nextAttemptAt := timeToSql now
      leaseGeneration := 0
      leaseOwner := none
      leasedAt := none
      childIdentity := none
      attemptCount := 0
      lastFailureClass := none
      createdAt := timeToSql now
      updatedAt := timeToSql now }) .sqlite
    return (false, { store with processes })

end Registration

section OwnerRequests

variable (store : ActorStore) (requestId : RequestId)

def replayManualActionRequest (request : Request) : ActorResult (Option MakerActorManualActionCommit) :=
  match store.mutations.find? requestId with
  | none => .ok none
  | some prior => do
    ensure (prior.operation = .actorActionRequest ∧ prior.request = request) .manualActionRequestConflict
    match prior.result with
    | .manualAction requestedAfterGeneration =>
      ensure (← loadManualActionByRequest store.actions requestId).isSome .corruptRecord
      return some ⟨requestedAfterGeneration, true⟩
    | _ => throw .store

def MakerActorScheduleState.waits : MakerActorScheduleState → Bool
  | .queued | .backoff | .failed => true
  | .leased | .terminal => false

def MakerActorProcessRecordV1.requeue (row : MakerActorProcessRecordV1) (now : Nat) : MakerActorProcessRecordV1 :=
  { row with
    desiredState := .running
    scheduleState := .queued
    nextAttemptAt := now
    leaseOwner := none
    leasedAt := none
    childIdentity := none
    lastFailureClass := none
    updatedAt := now }

def MakerActorProcessRecordV1.repin (row : MakerActorProcessRecordV1) (programSha256 : Bytes32) (now : Nat) :
    MakerActorProcessRecordV1 :=
  { row with
    manifest := { row.manifest with programSha256 }
    scheduleState := .queued
    nextAttemptAt := now
    lastFailureClass := none
    updatedAt := now }

def queueMakerActorManualAction (swapId : SwapId)
    (action : MakerActorManualAction) (expectedGeneration now : Nat) :
    ActorResult (MakerActorManualActionCommit × ActorStore) := do
  let request := Request.manualAction swapId action expectedGeneration
  match ← replayManualActionRequest store requestId request with
  | some commit => return (commit, store)
  | none =>
    let record ← required (← loadRecord store.processes swapId) .manualActionUnavailable
    ensure (record.leaseGeneration = expectedGeneration) .manualActionGenerationConflict
    ensure (record.scheduleState ≠ .terminal) .manualActionUnavailable
    ensure (← loadOpenManualAction store.actions swapId).isNone .manualActionPending
    let now := timeToSql now
    let generation ← generationToSql expectedGeneration
    let actions ← required (store.actions.insert {
      requestId
      swapId
      action
      state := .queued
      requestedAfterGeneration := generation
      leaseOwner := none
      leaseGeneration := none
      createdAt := now
      updatedAt := now }) .sqlite
    -- A running attempt keeps its lease: the action waits for the next one.
    let processes ← (if record.scheduleState = .leased then .ok store.processes else
      updateOne store.processes swapId
        (fun row => row.scheduleState.waits && row.leaseGeneration = generation)
        (·.requeue now) .manualActionUnavailable)
    let mutations ← required (store.mutations.insert
      ⟨requestId, .actorActionRequest, request, .manualAction expectedGeneration⟩) .sqlite
    return (⟨expectedGeneration, false⟩, { store with mutations, processes, actions })

def repinMakerActorProgram (swapId : SwapId) (expectedGeneration : Nat) (programSha256 : Bytes32) (now : Nat) :
    ActorResult (MakerActorManualActionCommit × ActorStore) := do
  let request := Request.repin swapId expectedGeneration programSha256
  match store.mutations.find? requestId with
  | some prior =>
    ensure (prior.operation = .actorActionRequest ∧ prior.request = request) .manualActionRequestConflict
    return (⟨expectedGeneration, true⟩, store)
  | none =>
    let record ← required (← loadRecord store.processes swapId) .manualActionUnavailable
    ensure (record.leaseGeneration = expectedGeneration) .manualActionGenerationConflict
    let now := timeToSql now
    let processes ← updateOne store.processes swapId (·.scheduleState.waits)
      (·.repin programSha256 now) .manualActionUnavailable
    let mutations ← required (store.mutations.insert
      ⟨requestId, .actorActionRequest, request, .empty⟩) .sqlite
    return (⟨expectedGeneration, false⟩, { store with mutations, processes })

end OwnerRequests

section Leases

/-- `schedule_state = 'leased' AND lease_owner = … AND lease_generation = …`. -/
def MakerActorProcessRecordV1.heldBy (row : MakerActorProcessRecordV1) (owner : MakerActorLeaseOwner)
    (generation : Nat) : Bool :=
  row.scheduleState = .leased && row.leaseOwner = some owner && row.leaseGeneration = generation

variable (row : MakerActorManualActionSnapshot)

def MakerActorManualActionSnapshot.heldBy (owner : MakerActorLeaseOwner) (generation : Nat) : Bool :=
  row.state = .leased && row.leaseOwner = some owner && row.leaseGeneration = some generation

def MakerActorProcessRecordV1.lease (row : MakerActorProcessRecordV1) (owner : MakerActorLeaseOwner)
    (now : Nat) : MakerActorProcessRecordV1 :=
  { row with
    scheduleState := .leased
    leaseGeneration := row.leaseGeneration + 1
    leaseOwner := some owner
    leasedAt := some now
    childIdentity := none
    attemptCount := row.attemptCount + 1
    updatedAt := now }

def MakerActorProcessRecordV1.transfer (row : MakerActorProcessRecordV1) (newOwner : MakerActorLeaseOwner)
    (generation now : Nat) : MakerActorProcessRecordV1 :=
  { row with
    leaseGeneration := generation
    leaseOwner := some newOwner
    leasedAt := some now
    childIdentity := none
    lastFailureClass := some "coordinator_restarted"
    attemptCount := row.attemptCount + 1
    updatedAt := now }

def MakerActorManualActionSnapshot.attach (owner : MakerActorLeaseOwner) (generation : Nat) :
    MakerActorManualActionSnapshot :=
  { row with state := .leased, leaseOwner := some owner, leaseGeneration := some generation }

def MakerActorManualActionSnapshot.transfer (newOwner : MakerActorLeaseOwner) (generation now : Nat) :
    MakerActorManualActionSnapshot :=
  { row with leaseOwner := some newOwner, leaseGeneration := some generation, updatedAt := now }

variable (store : ActorStore)

def claimMakerActor (swapId : SwapId) (owner : MakerActorLeaseOwner) (now : Nat) :
    ActorResult (Option MakerActorLeaseV1 × ActorStore) := do
  let now := timeToSql now
  let (processes, changed) ← required (store.processes.updateWhere swapId
    (fun row => row.desiredState = .running &&
      (row.scheduleState = .queued || row.scheduleState = .backoff) && row.nextAttemptAt ≤ now)
    (·.lease owner now)) .sqlite
  if changed = 0 then return (none, store)
  else
    let record ← required (← loadRecord processes swapId) .corruptRecord
    ensure (record.leaseOwner = some owner ∧ record.scheduleState = .leased) .corruptRecord
    return (some ⟨record, owner, record.leaseGeneration⟩, { store with processes })

variable (lease : MakerActorLeaseV1)

def claimMakerActorManualAction : ActorResult (Option MakerActorManualActionSnapshot × ActorStore) := do
  let record ← required (← loadRecord store.processes lease.record.swapId) .leaseConflict
  ensure (record.heldBy lease.owner lease.generation) .leaseConflict
  match ← loadOpenManualAction store.actions lease.record.swapId with
  | none => return (none, store)
  | some action =>
    match action.state with
    | .queued =>
      ensure (action.requestedAfterGeneration ≤ lease.generation) .corruptRecord
      if lease.generation = action.requestedAfterGeneration then return (none, store)
      else
        let generation ← generationToSql lease.generation
        let actions ← updateOne store.actions action.requestId (fun row => row.state = .queued)
          (·.attach lease.owner generation) .leaseConflict
        let leased ← required (← loadManualActionByRequest actions action.requestId) .corruptRecord
        return (some leased, { store with actions })
    | _ =>
      ensure (action.heldBy lease.owner lease.generation) .leaseConflict
      let leased ← required (← loadManualActionByRequest store.actions action.requestId) .corruptRecord
      return (some leased, store)

def recordMakerActorChild (pid startTicks : Nat) : ActorResult ActorStore := do
  ensure (pid ≠ 0 ∧ startTicks ≠ 0) .invalidSchedulingInput
  let generation ← generationToSql lease.generation
  let processes ← updateOne store.processes lease.record.swapId
    (fun row => row.heldBy lease.owner generation && row.childIdentity.isNone)
    (fun row => { row with childIdentity := some (pid, timeToSql startTicks) }) .leaseConflict
  return { store with processes }

def clearMakerActorChild (pid startTicks : Nat) : ActorResult ActorStore := do
  ensure (pid ≠ 0 ∧ startTicks ≠ 0) .invalidSchedulingInput
  let generation ← generationToSql lease.generation
  let processes ← updateOne store.processes lease.record.swapId
    (fun row => row.heldBy lease.owner generation && row.childIdentity = some (pid, timeToSql startTicks))
    (fun row => { row with childIdentity := none }) .leaseConflict
  return { store with processes }

/-- A leased action follows its lease to the new owner; a queued one stays queued. -/
def transferManualAction (actions : Table makerActorManualActions) (lease : MakerActorLeaseV1)
    (newOwner : MakerActorLeaseOwner) (generation now : Nat) : ActorResult (Table makerActorManualActions) := do
  match ← loadOpenManualAction actions lease.record.swapId with
  | none => return actions
  | some action =>
    match action.state with
    | .queued => return actions
    | _ =>
      ensure (action.heldBy lease.owner lease.generation) .leaseConflict
      let held ← generationToSql lease.generation
      updateOne actions action.requestId (·.heldBy lease.owner held)
        (·.transfer newOwner generation now) .leaseConflict

def recoverAbandonedMakerActor (heldLock : ActorHeldLock)
    (newOwner : MakerActorLeaseOwner) (now : Nat) : ActorResult (MakerActorLeaseV1 × ActorStore) := do
  heldLock.validateFor lease.record
  ensure (lease.generation + 1 < u64Limit) .corruptRecord
  let now := timeToSql now
  let generation ← generationToSql (lease.generation + 1)
  let held ← generationToSql lease.generation
  let processes ← updateOne store.processes lease.record.swapId (·.heldBy lease.owner held)
    (·.transfer newOwner generation now) .leaseConflict
  let actions ← transferManualAction store.actions lease newOwner generation now
  let record ← required (← loadRecord processes lease.record.swapId) .corruptRecord
  ensure (record.heldBy newOwner generation) .corruptRecord
  return (⟨record, newOwner, generation⟩, { store with processes, actions })

end Leases

section Resolution

def MakerActorAttemptResolution.manualState : MakerActorAttemptResolution → MakerActorManualActionState
  | .requeue _ | .backoff _ _ => .queued
  | .manualActionCompleted => .completed
  | .terminal | .failed _ => .failed

def MakerActorProcessRecordV1.release (row : MakerActorProcessRecordV1) (state : MakerActorScheduleState)
    (next : Nat) (failure : Option String) (now : Nat) : MakerActorProcessRecordV1 :=
  { row with
    scheduleState := state
    nextAttemptAt := next
    leaseOwner := none
    leasedAt := none
    childIdentity := none
    lastFailureClass := failure
    updatedAt := now }

def MakerActorManualActionSnapshot.settle (row : MakerActorManualActionSnapshot)
    (state : MakerActorManualActionState) (now : Nat) : MakerActorManualActionSnapshot :=
  { row with state, leaseOwner := none, leaseGeneration := none, updatedAt := now }

def resolutionFields : MakerActorAttemptResolution → ActorResult (MakerActorScheduleState × Nat × Option String)
  | .requeue notBefore => .ok (.queued, notBefore, none)
  | .backoff notBefore failureClass => do
    validateFailureClass failureClass
    return (.backoff, notBefore, some failureClass)
  | .terminal | .manualActionCompleted => .ok (.terminal, 0, none)
  | .failed failureClass => do
    validateFailureClass failureClass
    return (.failed, 0, some failureClass)

/-- What resolving an attempt makes of the owner action that is open for its swap. -/
def settleManualAction (actions : Table makerActorManualActions) (lease : MakerActorLeaseV1)
    (manualState : MakerActorManualActionState) (now : Nat) : ActorResult (Table makerActorManualActions) := do
  match ← loadOpenManualAction actions lease.record.swapId with
  | none => return actions
  | some action =>
    match action.state with
    | .queued =>
      ensure (action.requestedAfterGeneration = lease.generation) .leaseConflict
      match manualState with
      | .queued => return actions
      | .failed =>
        updateOne actions action.requestId (fun row => row.state = .queued)
          (fun row => { row with state := .failed, updatedAt := now }) .leaseConflict
      | _ => throw .leaseConflict
    | _ =>
      ensure (action.heldBy lease.owner lease.generation) .leaseConflict
      let generation ← generationToSql lease.generation
      updateOne actions action.requestId (·.heldBy lease.owner generation)
        (·.settle manualState now) .leaseConflict

def upsertActorProgress (progress : Table makerActorProgress) (lease : MakerActorLeaseV1)
    (observation : MakerActorProgressObservationV1) (now : Nat) : ActorResult (Table makerActorProgress) := do
  let generation ← generationToSql lease.generation
  let row : MakerActorProgressSnapshotV1 :=
    ⟨lease.record.swapId, lease.record.manifest.kind, generation, observation, now⟩
  match progress.find? row.swapId with
  | none => required (progress.insert row) .sqlite
  | some old =>
    ensure (old.sourceGeneration ≤ generation) .leaseConflict
    required (progress.write row) .sqlite

variable (store : ActorStore) (lease : MakerActorLeaseV1) (resolution : MakerActorAttemptResolution)

def resolveMakerActorAttemptInner (progress : Option MakerActorProgressObservationV1)
    (now : Nat) : ActorResult ActorStore := do
  let (state, next, failure) ← resolutionFields resolution
  let generation ← generationToSql lease.generation
  let processes ← updateOne store.processes lease.record.swapId (·.heldBy lease.owner generation)
    (·.release state (timeToSql next) failure (timeToSql now)) .leaseConflict
  let actions ← settleManualAction store.actions lease resolution.manualState (timeToSql now)
  let progress ← (match progress with
    | none => .ok store.progress
    | some observation => upsertActorProgress store.progress lease observation (timeToSql now))
  return { store with processes, actions, progress }

def resolveMakerActorAttempt (now : Nat) : ActorResult ActorStore :=
  resolveMakerActorAttemptInner store lease resolution none now

def resolveMakerActorAttemptWithProgress (progress : MakerActorProgressObservationV1) (now : Nat) :
    ActorResult ActorStore := do
  progress.validate.mapError fun _ => MakerActorProcessError.invalidSchedulingInput
  resolveMakerActorAttemptInner store lease resolution (some progress) now

end Resolution

section Calls

inductive ActorCall
  | registerActor (manifest : MakerActorManifestV1)
  | queueManualAction (requestId : RequestId) (swapId : SwapId) (action : MakerActorManualAction)
      (expectedGeneration : Nat)
  | repinProgram (requestId : RequestId) (swapId : SwapId) (expectedGeneration : Nat)
      (programSha256 : Bytes32)
  | claimActor (swapId : SwapId) (owner : MakerActorLeaseOwner)
  | claimManualAction (lease : MakerActorLeaseV1)
  | recordChild (lease : MakerActorLeaseV1) (pid startTicks : Nat)
  | clearChild (lease : MakerActorLeaseV1) (pid startTicks : Nat)
  | resolveAttempt (lease : MakerActorLeaseV1) (resolution : MakerActorAttemptResolution)
  | resolveAttemptWithProgress (lease : MakerActorLeaseV1) (resolution : MakerActorAttemptResolution)
      (progress : MakerActorProgressObservationV1)
  | recoverAbandoned (lease : MakerActorLeaseV1) (heldLock : ActorHeldLock)
      (newOwner : MakerActorLeaseOwner)

inductive ActorReply
  | registered (wasReplay : Bool)
  | admitted (commit : MakerActorManualActionCommit)
  | claimed (lease : Option MakerActorLeaseV1)
  | manualAction (action : Option MakerActorManualActionSnapshot)
  | recovered (lease : MakerActorLeaseV1)
  | done

def ActorCall.perform (store : ActorStore) (now : Nat) : ActorCall → ActorResult (ActorReply × ActorStore)
  | .registerActor manifest => do
    let (wasReplay, store) ← registerMakerActorInTransaction store manifest now
    return (.registered wasReplay, store)
  | .queueManualAction requestId swapId action expectedGeneration => do
    let (commit, store) ← queueMakerActorManualAction store requestId swapId action expectedGeneration now
    return (.admitted commit, store)
  | .repinProgram requestId swapId expectedGeneration programSha256 => do
    let (commit, store) ← repinMakerActorProgram store requestId swapId expectedGeneration programSha256 now
    return (.admitted commit, store)
  | .claimActor swapId owner => do
    let (lease, store) ← claimMakerActor store swapId owner now
    return (.claimed lease, store)
  | .claimManualAction lease => do
    let (action, store) ← claimMakerActorManualAction store lease
    return (.manualAction action, store)
  | .recordChild lease pid startTicks => do
    let store ← recordMakerActorChild store lease pid startTicks
    return (.done, store)
  | .clearChild lease pid startTicks => do
    let store ← clearMakerActorChild store lease pid startTicks
    return (.done, store)
  | .resolveAttempt lease resolution => do
    let store ← resolveMakerActorAttempt store lease resolution now
    return (.done, store)
  | .resolveAttemptWithProgress lease resolution progress => do
    let store ← resolveMakerActorAttemptWithProgress store lease resolution progress now
    return (.done, store)
  | .recoverAbandoned lease heldLock newOwner => do
    let (lease, store) ← recoverAbandonedMakerActor store lease heldLock newOwner now
    return (.recovered lease, store)

end Calls

end AtomicSwaps.Maker
