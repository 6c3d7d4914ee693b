import AtomicSwaps.Core.Types
import AtomicSwaps.Relational.Table
import AtomicSwaps.Transition.Fallible

namespace AtomicSwaps.Store.PublicEffect

open AtomicSwaps.Core (Bytes32 Identifier Participant)
open Fallible Relational

abbrev Bytes := List UInt8

def maxExpectedEffectIdBytes : Nat := 512

def maxExactPublicBytes : Nat := 4 * 1024 * 1024

def i64Max : Nat := 2 ^ 63 - 1

inductive PublicEffectChain
  | bitcoin | lez
deriving DecidableEq

inductive PublicEffectOperation
  | funding | claim | refund
deriving DecidableEq

structure PublicEffectKey where
  swapId : Identifier
  localRole : Participant
  chain : PublicEffectChain
  operation : PublicEffectOperation
  predecessorRevision : Nat
deriving DecidableEq

structure PreparedPublicEffect where
  key : PublicEffectKey
  agreementCommitment : Bytes32
  (expectedEffectId exactPublicBytes : Bytes)
  publicBytesSha256 : Bytes32
deriving DecidableEq

inductive PublicEffectState
  | prepared | started | accepted | rejected | unknown
deriving DecidableEq

/-- A row of `public_effect_journal`, and what a load makes of it. -/
structure PublicEffectSnapshot where
  effect : PreparedPublicEffect
  state : PublicEffectState
  (attemptCount revision : Nat)
deriving DecidableEq

inductive PublicEffectObservation
  | presentExact (bytes : Bytes)
  | exactIdempotentLezClaimSubmissionSafe (expectedEffectId exactPublicBytes : Bytes)
  | eligibleToAttempt
  | absent
  | uncertain
  | conflictingPresence

inductive PublicEffectDecision
  | submitOnce (snapshot : PublicEffectSnapshot)
  | observeOnly (snapshot : PublicEffectSnapshot)

inductive PublicEffectSubmissionResult
  | accepted (effectId : Bytes)
  | rejected
  | unknown

def PublicEffectSubmissionResult.state : PublicEffectSubmissionResult → PublicEffectState
  | .accepted _ => .accepted
  | .rejected => .rejected
  | .unknown => .unknown

/-- An acceptance has to name the expected effect. -/
def PublicEffectSubmissionResult.names (expectedEffectId : Bytes) : PublicEffectSubmissionResult → Bool
  | .accepted effectId => effectId = expectedEffectId
  | .rejected | .unknown => true

structure PublicEffectCommit where
  snapshot : PublicEffectSnapshot
  wasReplay : Bool

inductive StoreError
  | sqlite | invalidPublicEffect | publicEffectConflict | missingPublicEffect | corruptPublicEffectState

abbrev Result (α : Type) := Except StoreError α

def isAsciiGraphic (byte : UInt8) : Bool := 0x21 ≤ byte ∧ byte ≤ 0x7e

/-- The table's own `CHECK` of a state against its two counters. -/
def PublicEffectSnapshot.shaped (row : PublicEffectSnapshot) : Bool :=
  (row.state = .prepared ∧ row.attemptCount = 0 ∧ row.revision = 0) ∨
  (row.state = .started ∧ row.attemptCount = 1 ∧ row.revision = 1) ∨
  ((row.state = .rejected ∨ row.state = .unknown) ∧ row.attemptCount = 1 ∧ row.revision = 2) ∨
  (row.state = .accepted ∧ ((row.attemptCount = 0 ∧ row.revision = 1) ∨
    (row.attemptCount = 1 ∧ (row.revision = 2 ∨ row.revision = 3))))

-- `length` counts characters; what the journal writes is ASCII, so bytes and characters agree.
def publicEffectJournal : Schema PublicEffectSnapshot PublicEffectKey where
  key row := row.effect.key
  check row :=
    (1 ≤ row.effect.expectedEffectId.length ∧ row.effect.expectedEffectId.length ≤ 512) ∧
    (1 ≤ row.effect.exactPublicBytes.length ∧ row.effect.exactPublicBytes.length ≤ 4194304) ∧
    (row.attemptCount = 0 ∨ row.attemptCount = 1) ∧ row.revision ≤ 3 ∧
    row.shaped
  apart row other := row.effect.key.chain ≠ other.effect.key.chain ∨
    row.effect.expectedEffectId ≠ other.effect.expectedEffectId

abbrev Journal := Table publicEffectJournal

def validateTransitionShape (state : PublicEffectState) (attemptCount revision : Nat) : Result Unit :=
  let valid : Bool := match state with
    | .prepared => attemptCount = 0 ∧ revision = 0
    | .started => attemptCount = 1 ∧ revision = 1
    | .rejected | .unknown => attemptCount = 1 ∧ revision = 2
    | .accepted => (attemptCount = 0 ∧ revision = 1) ∨ (attemptCount = 1 ∧ (revision = 2 ∨ revision = 3))
  ensure valid .corruptPublicEffectState

def revisionToSql (revision : Nat) : Result Unit := ensure (revision ≤ i64Max) .invalidPublicEffect

section Methods

variable (sha256 : Bytes → Bytes32)

def PreparedPublicEffect.new (key : PublicEffectKey) (agreementCommitment : Bytes32)
    (expectedEffectId exactPublicBytes : Bytes) : Result PreparedPublicEffect := do
  ensure (agreementCommitment ≠ 0 ∧ expectedEffectId ≠ [] ∧
      expectedEffectId.length ≤ maxExpectedEffectIdBytes ∧ expectedEffectId.all isAsciiGraphic ∧
      exactPublicBytes ≠ [] ∧ exactPublicBytes.length ≤ maxExactPublicBytes ∧
      key.predecessorRevision ≤ i64Max)
    .invalidPublicEffect
  return ⟨key, agreementCommitment, expectedEffectId, exactPublicBytes, sha256 exactPublicBytes⟩

def decodeSnapshot (key : PublicEffectKey) (row : PublicEffectSnapshot) : Result PublicEffectSnapshot := do
  let effect ← (PreparedPublicEffect.new sha256 key row.effect.agreementCommitment row.effect.expectedEffectId
    row.effect.exactPublicBytes).mapError fun _ => .corruptPublicEffectState
  ensure (effect.publicBytesSha256 = row.effect.publicBytesSha256) .corruptPublicEffectState
  validateTransitionShape row.state row.attemptCount row.revision
  return ⟨effect, row.state, row.attemptCount, row.revision⟩

variable (journal : Journal) (key : PublicEffectKey)

def loadSnapshot : Result (Option PublicEffectSnapshot) := do
  revisionToSql key.predecessorRevision
  match journal.find? key with
  | none => return none
  | some row => return some (← decodeSnapshot sha256 key row)

def validatePrepared (effect : PreparedPublicEffect) : Result Unit := do
  let reconstructed ← PreparedPublicEffect.new sha256 effect.key effect.agreementCommitment
    effect.expectedEffectId effect.exactPublicBytes
  ensure (reconstructed = effect) .invalidPublicEffect

def recordPrepared (effect : PreparedPublicEffect) : Result (PublicEffectCommit × Journal) := do
  validatePrepared sha256 effect
  match ← loadSnapshot sha256 journal effect.key with
  | some existing =>
    ensure (existing.effect = effect) .publicEffectConflict
    return (⟨existing, true⟩, journal)
  | none =>
    let reusedEffectId := journal.rows.any fun row =>
      row.effect.key.chain = effect.key.chain ∧ row.effect.expectedEffectId = effect.expectedEffectId
    ensure (¬reusedEffectId) .publicEffectConflict
    revisionToSql effect.key.predecessorRevision
    let journal ← required (journal.insert ⟨effect, .prepared, 0, 0⟩) .sqlite
    let inserted ← required (← loadSnapshot sha256 journal effect.key) .corruptPublicEffectState
    ensure (inserted = ⟨effect, .prepared, 0, 0⟩) .corruptPublicEffectState
    return (⟨inserted, false⟩, journal)

/-- The guarded `UPDATE` of one row: what it must still show, and what it shows afterwards. -/
def moveRow (snapshot moved : PublicEffectSnapshot) : Result (PublicEffectSnapshot × Journal) := do
  revisionToSql snapshot.effect.key.predecessorRevision
  let (journal, updated) ← required (journal.updateWhere snapshot.effect.key
    (fun row => row.state = snapshot.state ∧ row.attemptCount = snapshot.attemptCount ∧
      row.revision = snapshot.revision)
    fun row => { row with
      state := moved.state, attemptCount := moved.attemptCount, revision := moved.revision }) .sqlite
  ensure (updated = 1) .publicEffectConflict
  return (moved, journal)

variable (snapshot : PublicEffectSnapshot)

def beginOnce : Result (PublicEffectSnapshot × Journal) :=
  moveRow journal { snapshot with state := .prepared, attemptCount := 0, revision := 0 }
    { snapshot with state := .started, attemptCount := 1, revision := 1 }

def burnAuthorityWithoutSend : Result (PublicEffectSnapshot × Journal) :=
  moveRow journal { snapshot with state := .prepared, attemptCount := 0, revision := 0 }
    { snapshot with state := .unknown, attemptCount := 1, revision := 2 }

def advanceToAccepted : Result (PublicEffectSnapshot × Journal) := do
  let nextRevision := snapshot.revision + 1
  ensure (nextRevision < 2 ^ 64) .corruptPublicEffectState
  revisionToSql nextRevision
  moveRow journal snapshot { snapshot with state := .accepted, revision := nextRevision }

/-- What one chain observation does to the loaded row, and whether its caller may send. -/
def observe (observation : PublicEffectObservation) : Result (Bool × PublicEffectSnapshot × Journal) :=
  match observation with
  | .presentExact bytes => do
    ensure (bytes = snapshot.effect.exactPublicBytes) .publicEffectConflict
    match snapshot.state with
    | .prepared | .started | .unknown => return (false, ← advanceToAccepted journal snapshot)
    | .accepted => return (false, snapshot, journal)
    | .rejected => throw .publicEffectConflict
  | .exactIdempotentLezClaimSubmissionSafe expectedEffectId exactPublicBytes => do
    ensure (key.chain = .lez ∧ key.operation = .claim) .invalidPublicEffect
    ensure (expectedEffectId = snapshot.effect.expectedEffectId ∧
      exactPublicBytes = snapshot.effect.exactPublicBytes) .publicEffectConflict
    if snapshot.state = .prepared then return (true, ← beginOnce journal snapshot)
    else return (false, snapshot, journal)
  | .eligibleToAttempt => do
    ensure (key.operation = .refund) .invalidPublicEffect
    if snapshot.state = .prepared then return (true, ← beginOnce journal snapshot)
    else return (false, snapshot, journal)
  | .absent => do
    ensure (key.operation ≠ .refund) .invalidPublicEffect
    if snapshot.state = .prepared then return (true, ← beginOnce journal snapshot)
    else return (false, snapshot, journal)
  | .uncertain => return (false, snapshot, journal)
  | .conflictingPresence =>
    match snapshot.state with
    | .prepared => do return (false, ← burnAuthorityWithoutSend journal snapshot)
    | .started | .unknown => return (false, snapshot, journal)
    | .accepted | .rejected => throw .publicEffectConflict

/-- Every transaction ends by reading back the row it promises. -/
def confirm : Result Unit := do
  let postcondition ← required (← loadSnapshot sha256 journal key) .corruptPublicEffectState
  ensure (postcondition = snapshot) .corruptPublicEffectState

def reconcile (observation : PublicEffectObservation) : Result (PublicEffectDecision × Journal) := do
  let snapshot ← required (← loadSnapshot sha256 journal key) .missingPublicEffect
  let (submitOnce, snapshot, journal) ← observe journal key snapshot observation
  confirm sha256 journal key snapshot
  return (if submitOnce then .submitOnce snapshot else .observeOnly snapshot, journal)

def recordSubmissionResult (result : PublicEffectSubmissionResult) : Result (PublicEffectCommit × Journal) := do
  let snapshot ← required (← loadSnapshot sha256 journal key) .missingPublicEffect
  ensure (result.names snapshot.effect.expectedEffectId) .publicEffectConflict
  let target := result.state
  if snapshot.state = .started then
    let (snapshot, journal) ← moveRow journal { snapshot with state := .started, attemptCount := 1, revision := 1 }
      { snapshot with state := target, revision := 2 }
    confirm sha256 journal key snapshot
    return (⟨snapshot, false⟩, journal)
  else
    ensure (snapshot.state = target ∧ snapshot.attemptCount = 1 ∧ snapshot.revision = 2) .publicEffectConflict
    confirm sha256 journal key snapshot
    return (⟨snapshot, true⟩, journal)

def current : Result (Option PublicEffectSnapshot) :=
  loadSnapshot sha256 journal key

inductive Call
  | recordPrepared (effect : PreparedPublicEffect)
  | reconcile (key : PublicEffectKey) (observation : PublicEffectObservation)
  | recordSubmissionResult (key : PublicEffectKey) (result : PublicEffectSubmissionResult)
  | current (key : PublicEffectKey)

inductive Reply
  | commit (commit : PublicEffectCommit)
  | decision (decision : PublicEffectDecision)
  | snapshot (snapshot : Option PublicEffectSnapshot)

def perform (call : Call) : Result (Reply × Journal) :=
  match call with
  | .recordPrepared effect => do
    let (commit, journal) ← recordPrepared sha256 journal effect
    return (.commit commit, journal)
  | .reconcile key observation => do
    let (decision, journal) ← reconcile sha256 journal key observation
    return (.decision decision, journal)
  | .recordSubmissionResult key result => do
    let (commit, journal) ← recordSubmissionResult sha256 journal key result
    return (.commit commit, journal)
  | .current key => do
    return (.snapshot (← current sha256 journal key), journal)

end Methods

end AtomicSwaps.Store.PublicEffect
