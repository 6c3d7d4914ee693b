import AtomicSwaps.Store.PublicEffect
import AtomicSwaps.Zec.Contract

namespace AtomicSwaps.Store.MakerLock

open AtomicSwaps.Core (Bytes32 Identifier Participant)
open AtomicSwaps.Store.PublicEffect (Bytes i64Max isAsciiGraphic)
open AtomicSwaps.Zec (bigEndian)
open Fallible Relational

def maxPlanSteps : Nat := 32

def maxStepIdBytes : Nat := 96

def maxExpectedIdBytes : Nat := 512

def maxExactEffectBytes : Nat := 4 * 1024 * 1024

def maxPlanExactBytes : Nat := 8 * 1024 * 1024

def planCommitmentDomain : Bytes := "lez-swap-sdk-core/public-effect-plan/v1".toUTF8.toList

def exactPublicEffectPlanSchemaV1 : Nat := 1

inductive PublicEffectPlanError
  | invalidStepId
  | invalidExpectedPublicId
  | invalidExactBytes
  | emptyPlan
  | tooManySteps
  | duplicateStepId
  | planBytesTooLarge
deriving DecidableEq

def isAsciiLowercase (byte : UInt8) : Bool := 0x61 ≤ byte ∧ byte ≤ 0x7a

def isAsciiDigit (byte : UInt8) : Bool := 0x30 ≤ byte ∧ byte ≤ 0x39

variable (value : Bytes)

/-- Lowercase components separated by dots. -/
def validStepId : Bool :=
  (value.splitOn 0x2e).all fun component =>
    match component with
    | [] => false
    | first :: rest => isAsciiLowercase first &&
        rest.all fun byte => isAsciiLowercase byte || isAsciiDigit byte || byte == 0x5f

structure PublicEffectStepId where
  bytes : Bytes
  valid : bytes ≠ [] ∧ bytes.length ≤ maxStepIdBytes ∧ validStepId bytes = true
deriving DecidableEq

def PublicEffectStepId.new : Except PublicEffectPlanError PublicEffectStepId :=
  if valid : value ≠ [] ∧ value.length ≤ maxStepIdBytes ∧ validStepId value = true then .ok ⟨value, valid⟩
  else .error .invalidStepId

structure ExpectedPublicEffectId where
  bytes : Bytes
  valid : bytes ≠ [] ∧ bytes.length ≤ maxExpectedIdBytes ∧ bytes.all isAsciiGraphic = true
deriving DecidableEq

def ExpectedPublicEffectId.new : Except PublicEffectPlanError ExpectedPublicEffectId :=
  if valid : value ≠ [] ∧ value.length ≤ maxExpectedIdBytes ∧ value.all isAsciiGraphic = true then
    .ok ⟨value, valid⟩
  else .error .invalidExpectedPublicId

structure ExactPublicEffectBytes where
  bytes : Bytes
  valid : bytes ≠ [] ∧ bytes.length ≤ maxExactEffectBytes
deriving DecidableEq

def ExactPublicEffectBytes.new : Except PublicEffectPlanError ExactPublicEffectBytes :=
  if valid : value ≠ [] ∧ value.length ≤ maxExactEffectBytes then .ok ⟨value, valid⟩
  else .error .invalidExactBytes

structure PublicEffectStepV1 where
  step : PublicEffectStepId
  expectedPublicId : ExpectedPublicEffectId
  exactBytes : ExactPublicEffectBytes
deriving DecidableEq

/-- The order of the steps is the only allowed execution order. -/
structure ExactPublicEffectPlanV1 where
  schemaVersion : Nat
  steps : List PublicEffectStepV1
deriving DecidableEq

/-- One pass over the steps of a plan: no id twice, and not too many bytes in all. -/
def checkSteps (seen : List PublicEffectStepId) (totalBytes : Nat) :
    List PublicEffectStepV1 → Except PublicEffectPlanError Unit
  | [] => .ok ()
  | step :: rest => do
    ensure (step.step ∉ seen) .duplicateStepId
    let totalBytes := totalBytes + step.exactBytes.bytes.length
    ensure (totalBytes ≤ maxPlanExactBytes) .planBytesTooLarge
    checkSteps (step.step :: seen) totalBytes rest

def ExactPublicEffectPlanV1.new (steps : List PublicEffectStepV1) :
    Except PublicEffectPlanError ExactPublicEffectPlanV1 := do
  ensure (steps ≠ []) .emptyPlan
  ensure (steps.length ≤ maxPlanSteps) .tooManySteps
  checkSteps [] 0 steps
  return ⟨exactPublicEffectPlanSchemaV1, steps⟩

def lenPrefixed : Bytes := bigEndian 8 value.length ++ value

def PublicEffectStepV1.encoded (step : PublicEffectStepV1) : Bytes :=
  lenPrefixed step.step.bytes ++ lenPrefixed step.expectedPublicId.bytes ++ lenPrefixed step.exactBytes.bytes

def ExactPublicEffectPlanV1.transcript (plan : ExactPublicEffectPlanV1) : Bytes :=
  planCommitmentDomain ++ bigEndian 2 plan.schemaVersion ++ bigEndian 4 plan.steps.length ++
    plan.steps.flatMap PublicEffectStepV1.encoded

def ExactPublicEffectPlanV1.commitment (sha256 : Bytes → Bytes32) (plan : ExactPublicEffectPlanV1) : Bytes32 :=
  sha256 plan.transcript

def makerLockPredecessorRevision : Nat := 1

inductive StoreError
  | sqlite
  | invalidBtcMakerLockIntent
  | btcMakerLockConflict
  | missingBtcMakerLockIntent
  | corruptBtcMakerLockIntent

abbrev Result (α : Type) := Except StoreError α

structure BtcMakerLockIntentV1 where
  swapId : Identifier
  agreementCommitment : Bytes32
  localRole : Participant
  predecessorRevision : Nat
  plan : ExactPublicEffectPlanV1
deriving DecidableEq

def BtcMakerLockIntentV1.validate (intent : BtcMakerLockIntentV1) : Result Unit := do
  let reconstructed ← (ExactPublicEffectPlanV1.new intent.plan.steps).mapError fun _ => .invalidBtcMakerLockIntent
  ensure (intent.localRole = .maker ∧ intent.predecessorRevision = makerLockPredecessorRevision ∧
      intent.agreementCommitment ≠ 0 ∧ intent.predecessorRevision ≤ i64Max ∧ reconstructed = intent.plan)
    .invalidBtcMakerLockIntent

def BtcMakerLockIntentV1.new (swapId : Identifier) (agreementCommitment : Bytes32) (localRole : Participant)
    (predecessorRevision : Nat) (plan : ExactPublicEffectPlanV1) : Result BtcMakerLockIntentV1 := do
  let candidate : BtcMakerLockIntentV1 := ⟨swapId, agreementCommitment, localRole, predecessorRevision, plan⟩
  candidate.validate
  return candidate

inductive BtcMakerLockIntentCreateOutcome
  | created | existingSame | conflict

inductive BtcMakerLockStepState
  | prepared | started | unknown | accepted
deriving DecidableEq

inductive BtcMakerLockSubmissionResult
  | accepted (expectedId : Bytes)
  | unknown
deriving DecidableEq

/-- The `submission_result` column keeps only which result it was. -/
inductive SubmissionName
  | accepted | unknown
deriving DecidableEq

def BtcMakerLockSubmissionResult.name : BtcMakerLockSubmissionResult → SubmissionName
  | .accepted _ => .accepted
  | .unknown => .unknown

def BtcMakerLockSubmissionResult.parse (step : PublicEffectStepV1) : SubmissionName → BtcMakerLockSubmissionResult
  | .accepted => .accepted step.expectedPublicId.bytes
  | .unknown => .unknown

structure BtcMakerLockStepSnapshot where
  step : PublicEffectStepV1
  state : BtcMakerLockStepState
  (attemptCount revision : Nat)
  submissionResult : Option BtcMakerLockSubmissionResult
deriving DecidableEq

structure BtcMakerLockIntentSnapshot where
  intent : BtcMakerLockIntentV1
  steps : List BtcMakerLockStepSnapshot
  closedRevision : Option Nat

inductive BtcMakerLockStepObservation
  | presentExact (expectedPublicId exactPublicBytes : Bytes)
  | exactIdempotentSubmissionSafe (expectedPublicId exactPublicBytes : Bytes)
  | absent
  | uncertain
  | conflictingPresence

inductive BtcMakerLockStepDecision
  | submitOnce (step : BtcMakerLockStepSnapshot)
  | observeOnly (step : BtcMakerLockStepSnapshot)

structure BtcMakerLockStepCommit where
  snapshot : BtcMakerLockStepSnapshot
  wasReplay : Bool

/-- A row of `btc_maker_lock_intents`. -/
structure IntentRow where
  swapId : Identifier
  localRole : Participant
  predecessorRevision : Nat
  agreementCommitment : Bytes32
  planSchemaVersion : Nat
  planCommitment : Bytes32
  closedRevision : Option Nat

/-- A row of `btc_maker_lock_steps`. -/
structure StepRow where
  swapId : Identifier
  stepIndex : Nat
  (stepId expectedPublicId exactPublicBytes : Bytes)
  publicBytesSha256 : Bytes32
  submissionResult : Option SubmissionName
  state : BtcMakerLockStepState
  (attemptCount revision : Nat)

/-- The table's own `CHECK` of a step's state against its counters and result. -/
def StepRow.shaped (row : StepRow) : Bool :=
  (row.state = .prepared ∧ row.attemptCount = 0 ∧ row.revision = 0 ∧ row.submissionResult = none) ∨
  (row.state = .started ∧ row.attemptCount = 1 ∧ row.revision = 1 ∧ row.submissionResult = none) ∨
  (row.state = .unknown ∧ row.attemptCount = 1 ∧ row.revision = 2) ∨
  (row.state = .accepted ∧ ((row.attemptCount = 0 ∧ row.revision = 1) ∨
    (row.attemptCount = 1 ∧ (row.revision = 2 ∨ row.revision = 3))))

-- The role is part of both primary keys and can only be the maker's, so the swap id alone is the key.
def btcMakerLockIntents : Schema IntentRow Identifier where
  key := IntentRow.swapId
  check row := row.localRole = .maker ∧ row.predecessorRevision = 1 ∧ row.agreementCommitment ≠ 0 ∧
    row.planSchemaVersion = 1 ∧ (row.closedRevision = none ∨ row.closedRevision = some (row.predecessorRevision + 1))
  apart _ _ := true

def btcMakerLockSteps : Schema StepRow (Identifier × Nat) where
  key row := (row.swapId, row.stepIndex)
  check row := row.stepIndex ≤ 31 ∧ (1 ≤ row.stepId.length ∧ row.stepId.length ≤ 96) ∧
    (1 ≤ row.expectedPublicId.length ∧ row.expectedPublicId.length ≤ 512) ∧
    (1 ≤ row.exactPublicBytes.length ∧ row.exactPublicBytes.length ≤ 4194304) ∧
    (row.attemptCount = 0 ∨ row.attemptCount = 1) ∧ row.revision ≤ 3 ∧ row.shaped
  apart row other := row.swapId ≠ other.swapId ∨ row.stepId ≠ other.stepId

structure Journal where
  intents : Table btcMakerLockIntents
  steps : Table btcMakerLockSteps

def Journal.empty : Journal := ⟨Table.empty, Table.empty⟩

def revisionToSql (revision : Nat) : Result Unit := ensure (revision ≤ i64Max) .invalidBtcMakerLockIntent

def validateStepShape (step : BtcMakerLockStepSnapshot) : Result Unit :=
  let valid : Bool := match step.state with
    | .prepared => step.attemptCount = 0 ∧ step.revision = 0 ∧ step.submissionResult = none
    | .started => step.attemptCount = 1 ∧ step.revision = 1 ∧ step.submissionResult = none
    | .unknown => step.attemptCount = 1 ∧ step.revision = 2
    | .accepted => (step.attemptCount = 0 ∧ step.revision = 1 ∧ step.submissionResult = none) ∨
        (step.attemptCount = 1 ∧ step.revision = 2 ∧ step.submissionResult = none) ∨
        (step.attemptCount = 1 ∧ step.revision = 3)
  ensure valid .corruptBtcMakerLockIntent

section Methods

variable (sha256 : Bytes → Bytes32)

def corrupted {ε α : Type} (result : Except ε α) : Result α :=
  result.mapError fun _ => .corruptBtcMakerLockIntent

def decodeStep (expectedIndex : Nat) (row : StepRow) : Result BtcMakerLockStepSnapshot := do
  ensure (row.stepIndex = expectedIndex ∧ row.publicBytesSha256 = sha256 row.exactPublicBytes)
    .corruptBtcMakerLockIntent
  let step : PublicEffectStepV1 := ⟨← corrupted (PublicEffectStepId.new row.stepId),
    ← corrupted (ExpectedPublicEffectId.new row.expectedPublicId),
    ← corrupted (ExactPublicEffectBytes.new row.exactPublicBytes)⟩
  let snapshot : BtcMakerLockStepSnapshot := ⟨step, row.state, row.attemptCount, row.revision,
    row.submissionResult.map (BtcMakerLockSubmissionResult.parse step)⟩
  validateStepShape snapshot
  return snapshot

def decodeSteps (expectedIndex : Nat) : List StepRow → Result (List BtcMakerLockStepSnapshot)
  | [] => .ok []
  | row :: rest => do
    let snapshot ← decodeStep sha256 expectedIndex row
    return snapshot :: (← decodeSteps (expectedIndex + 1) rest)

variable (journal : Journal) (swapId : Identifier)

def loadExactStepPlan : Result (ExactPublicEffectPlanV1 × List BtcMakerLockStepSnapshot) := do
  let rows := orderBy StepRow.stepIndex (journal.steps.rows.filter (·.swapId = swapId))
  ensure (rows ≠ []) .corruptBtcMakerLockIntent
  let snapshots ← decodeSteps sha256 0 rows
  let plan ← corrupted (ExactPublicEffectPlanV1.new (snapshots.map (·.step)))
  return (plan, snapshots)

def loadIntentSnapshot : Result (Option BtcMakerLockIntentSnapshot) :=
  match journal.intents.find? swapId with
  | none => .ok none
  | some header => do
    ensure (header.localRole = .maker ∧ header.planSchemaVersion = exactPublicEffectPlanSchemaV1)
      .corruptBtcMakerLockIntent
    let (plan, snapshots) ← loadExactStepPlan sha256 journal swapId
    ensure (plan.commitment sha256 = header.planCommitment) .corruptBtcMakerLockIntent
    let intent ← corrupted (BtcMakerLockIntentV1.new swapId header.agreementCommitment .maker
      header.predecessorRevision plan)
    ensure (header.closedRevision = none ∨ (header.closedRevision = some (header.predecessorRevision + 1) ∧
      ∀ step ∈ snapshots, step.state = .accepted)) .corruptBtcMakerLockIntent
    return some ⟨intent, snapshots, header.closedRevision⟩

def preparedRow (index : Nat) (step : PublicEffectStepV1) : StepRow where
  swapId := swapId
  stepIndex := index
  stepId := step.step.bytes
  expectedPublicId := step.expectedPublicId.bytes
  exactPublicBytes := step.exactBytes.bytes
  publicBytesSha256 := sha256 step.exactBytes.bytes
  submissionResult := none
  state := .prepared
  attemptCount := 0
  revision := 0

/-- The steps name their intent by a foreign key. -/
def insertSteps (journal : Journal) (swapId : Identifier) (index : Nat) :
    List PublicEffectStepV1 → Result Journal
  | [] => .ok journal
  | step :: rest => do
    ensure (index ≤ i64Max) .invalidBtcMakerLockIntent
    ensure (journal.intents.find? swapId).isSome .sqlite
    let steps ← required (journal.steps.insert (preparedRow sha256 swapId index step)) .sqlite
    insertSteps { journal with steps } swapId (index + 1) rest

variable (intent : BtcMakerLockIntentV1)

def createIntent : Result (BtcMakerLockIntentCreateOutcome × Journal) := do
  intent.validate
  match ← loadIntentSnapshot sha256 journal intent.swapId with
  | some existing => return (if existing.intent = intent then .existingSame else .conflict, journal)
  | none =>
    revisionToSql intent.predecessorRevision
    let intents ← required (journal.intents.insert ⟨intent.swapId, .maker, intent.predecessorRevision,
      intent.agreementCommitment, intent.plan.schemaVersion, intent.plan.commitment sha256, none⟩) .sqlite
    let journal ← insertSteps sha256 { journal with intents } intent.swapId 0 intent.plan.steps
    let inserted ← required (← loadIntentSnapshot sha256 journal intent.swapId) .corruptBtcMakerLockIntent
    ensure (inserted.intent = intent ∧ inserted.closedRevision = none ∧ ∀ step ∈ inserted.steps,
      step.state = .prepared ∧ step.attemptCount = 0 ∧ step.revision = 0 ∧ step.submissionResult = none)
      .corruptBtcMakerLockIntent
    return (.created, journal)

def requireMatchingIntent : Result BtcMakerLockIntentSnapshot := do
  let durable ← required (← loadIntentSnapshot sha256 journal intent.swapId) .missingBtcMakerLockIntent
  ensure (durable.intent = intent) .btcMakerLockConflict
  return durable

variable (durable : BtcMakerLockIntentSnapshot)

def stepIndex (stepId : PublicEffectStepId) : Result Nat :=
  required (durable.steps.findIdx? (·.step.step = stepId)) .btcMakerLockConflict

variable (index : Nat)

def loadStepSnapshot : Result BtcMakerLockStepSnapshot := do
  let durable ← required (← loadIntentSnapshot sha256 journal intent.swapId) .missingBtcMakerLockIntent
  required durable.steps[index]? .corruptBtcMakerLockIntent

def updateStep (step next : BtcMakerLockStepSnapshot) : Result (BtcMakerLockStepSnapshot × Journal) := do
  ensure (index ≤ i64Max) .btcMakerLockConflict
  revisionToSql next.revision
  revisionToSql step.revision
  let (steps, updated) ← required (journal.steps.updateWhere (intent.swapId, index)
    (fun row => row.stepId = step.step.step.bytes ∧ row.state = step.state ∧
      row.attemptCount = step.attemptCount ∧ row.revision = step.revision ∧
      row.submissionResult = step.submissionResult.map (·.name))
    fun row => { row with
      state := next.state, attemptCount := next.attemptCount, revision := next.revision
      submissionResult := next.submissionResult.map (·.name) }) .sqlite
  ensure (updated = 1) .btcMakerLockConflict
  return (next, { journal with steps })

variable (step : BtcMakerLockStepSnapshot)

def beginStepOnce : Result (BtcMakerLockStepSnapshot × Journal) :=
  updateStep journal intent index step
    { step with state := .started, attemptCount := 1, revision := 1, submissionResult := none }

def burnStepAuthority : Result (BtcMakerLockStepSnapshot × Journal) :=
  updateStep journal intent index step
    { step with state := .unknown, attemptCount := 1, revision := 2, submissionResult := none }

def advanceStepToAccepted : Result (BtcMakerLockStepSnapshot × Journal) := do
  ensure (step.revision + 1 < 2 ^ 64) .corruptBtcMakerLockIntent
  updateStep journal intent index step { step with state := .accepted, revision := step.revision + 1 }

def setStartedResult (result : BtcMakerLockSubmissionResult) : Result (BtcMakerLockStepSnapshot × Journal) :=
  updateStep journal intent index step
    { step with state := .unknown, attemptCount := 1, revision := 2, submissionResult := some result }

def BtcMakerLockIntentSnapshot.predecessorsAccepted : Bool :=
  (durable.steps.take index).all (·.state = .accepted)

/-- A fresh step of an open intent may be sent once its predecessors stand. -/
def attemptStep : Result (Bool × BtcMakerLockStepSnapshot × Journal) :=
  if durable.closedRevision = none ∧ durable.predecessorsAccepted index ∧ step.state = .prepared then do
    return (true, ← beginStepOnce journal durable.intent index step)
  else return (false, step, journal)

def observeStep (observation : BtcMakerLockStepObservation) : Result (Bool × BtcMakerLockStepSnapshot × Journal) :=
  match observation with
  | .presentExact expectedPublicId exactPublicBytes => do
    ensure (expectedPublicId = step.step.expectedPublicId.bytes ∧ exactPublicBytes = step.step.exactBytes.bytes)
      .btcMakerLockConflict
    ensure (durable.predecessorsAccepted index) .btcMakerLockConflict
    if step.state = .accepted then return (false, step, journal)
    else return (false, ← advanceStepToAccepted journal durable.intent index step)
  | .absent => attemptStep journal durable index step
  | .exactIdempotentSubmissionSafe expectedPublicId exactPublicBytes => do
    ensure (expectedPublicId = step.step.expectedPublicId.bytes ∧ exactPublicBytes = step.step.exactBytes.bytes)
      .btcMakerLockConflict
    attemptStep journal durable index step
  | .uncertain => return (false, step, journal)
  | .conflictingPresence =>
    match step.state with
    | .prepared => do return (false, ← burnStepAuthority journal durable.intent index step)
    | .started | .unknown => return (false, step, journal)
    | .accepted => throw .btcMakerLockConflict

def confirmStep : Result Unit := do
  let post ← loadStepSnapshot sha256 journal intent index
  ensure (post = step) .corruptBtcMakerLockIntent

def reconcileStep (stepId : PublicEffectStepId)
    (observation : BtcMakerLockStepObservation) : Result (BtcMakerLockStepDecision × Journal) := do
  intent.validate
  let durable ← requireMatchingIntent sha256 journal intent
  let index ← stepIndex durable stepId
  let step ← required durable.steps[index]? .btcMakerLockConflict
  ensure (step.state = .accepted → durable.predecessorsAccepted index) .corruptBtcMakerLockIntent
  let (submitOnce, step, journal) ← observeStep journal durable index step observation
  confirmStep sha256 journal intent index step
  return (if submitOnce then .submitOnce step else .observeOnly step, journal)

def BtcMakerLockSubmissionResult.names (expectedPublicId : Bytes) : BtcMakerLockSubmissionResult → Bool
  | .accepted expectedId => expectedId = expectedPublicId
  | .unknown => true

def recordSubmissionResult (stepId : PublicEffectStepId)
    (result : BtcMakerLockSubmissionResult) : Result (BtcMakerLockStepCommit × Journal) := do
  intent.validate
  let durable ← requireMatchingIntent sha256 journal intent
  ensure (durable.closedRevision = none) .btcMakerLockConflict
  let index ← stepIndex durable stepId
  ensure (durable.predecessorsAccepted index) .btcMakerLockConflict
  let step ← required durable.steps[index]? .btcMakerLockConflict
  ensure (result.names step.step.expectedPublicId.bytes) .btcMakerLockConflict
  if step.state = .started then
    let (step, journal) ← setStartedResult journal intent index step result
    confirmStep sha256 journal intent index step
    return (⟨step, false⟩, journal)
  else
    ensure (step.state = .unknown ∧ step.attemptCount = 1 ∧ step.revision = 2 ∧
      step.submissionResult = some result) .btcMakerLockConflict
    confirmStep sha256 journal intent index step
    return (⟨step, true⟩, journal)

def closeReadyBtcMakerLockIntent (swapId : Identifier) (agreementCommitment : Bytes32)
    (predecessorRevision committedRevision : Nat) : Result (Bool × Journal) := do
  ensure (predecessorRevision = makerLockPredecessorRevision ∧ committedRevision = predecessorRevision + 1)
    .btcMakerLockConflict
  let durable ← required (← loadIntentSnapshot sha256 journal swapId) .missingBtcMakerLockIntent
  ensure (durable.intent.localRole = .maker ∧ durable.intent.agreementCommitment = agreementCommitment ∧
      durable.intent.predecessorRevision = predecessorRevision ∧ ∀ step ∈ durable.steps, step.state = .accepted)
    .btcMakerLockConflict
  if durable.closedRevision = some committedRevision then return (true, journal)
  else
    ensure (durable.closedRevision = none) .btcMakerLockConflict
    revisionToSql predecessorRevision
    revisionToSql committedRevision
    let (intents, updated) ← required (journal.intents.updateWhere swapId
      (fun row => row.predecessorRevision = predecessorRevision ∧ row.closedRevision = none)
      fun row => { row with closedRevision := some committedRevision }) .sqlite
    ensure (updated = 1) .btcMakerLockConflict
    return (false, { journal with intents })

inductive Call
  | createIntent (intent : BtcMakerLockIntentV1)
  | loadIntent (swapId : Identifier)
  | reconcileStep (intent : BtcMakerLockIntentV1) (stepId : PublicEffectStepId)
      (observation : BtcMakerLockStepObservation)
  | recordSubmissionResult (intent : BtcMakerLockIntentV1) (stepId : PublicEffectStepId)
      (result : BtcMakerLockSubmissionResult)
  | closeReady (swapId : Identifier) (agreementCommitment : Bytes32)
      (predecessorRevision committedRevision : Nat)

inductive Reply
  | outcome (outcome : BtcMakerLockIntentCreateOutcome)
  | snapshot (snapshot : Option BtcMakerLockIntentSnapshot)
  | decision (decision : BtcMakerLockStepDecision)
  | commit (commit : BtcMakerLockStepCommit)
  | closed (wasReplay : Bool)

def perform (call : Call) : Result (Reply × Journal) :=
  match call with
  | .createIntent intent => do
    let (outcome, journal) ← createIntent sha256 journal intent
    return (.outcome outcome, journal)
  | .loadIntent swapId => do
    return (.snapshot (← loadIntentSnapshot sha256 journal swapId), journal)
  | .reconcileStep intent stepId observation => do
    let (decision, journal) ← reconcileStep sha256 journal intent stepId observation
    return (.decision decision, journal)
  | .recordSubmissionResult intent stepId result => do
    let (commit, journal) ← recordSubmissionResult sha256 journal intent stepId result
    return (.commit commit, journal)
  | .closeReady swapId agreementCommitment predecessorRevision committedRevision => do
    let (wasReplay, journal) ← closeReadyBtcMakerLockIntent sha256 journal swapId agreementCommitment
      predecessorRevision committedRevision
    return (.closed wasReplay, journal)

end Methods

end AtomicSwaps.Store.MakerLock
