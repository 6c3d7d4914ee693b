import AtomicSwaps.Transition.Journal
import AtomicSwaps.Zec.Refunds

namespace AtomicSwaps.Zec

open AtomicSwaps.Core Fallible

structure ProtectedClaimKey where
  keyId : String
  material : Bytes32
deriving DecidableEq

inductive ClaimMaterialPurpose
  | localFirstClaim | observedFollowUpClaim | lezClaimSubmission | zcashClaimSubmission
deriving DecidableEq

structure ClaimMaterialContext where
  swap : SwapContext
  direction : SwapDirection
  purpose : ClaimMaterialPurpose
deriving DecidableEq

structure ClaimSubmissionContext where
  base : ClaimMaterialContext
  step : ClaimStepV1
  stagedRevision : Nat
  expectedSubmissionId : Bytes32
deriving DecidableEq

inductive ProtectedClaimError
  | keyIdMismatch | authentication

structure ProtectedEnvelope where
  keyId : String
  nonce : BitVec 192
  ciphertext : Bytes
deriving DecidableEq

abbrev ProtectedClaimEnvelope := ProtectedEnvelope

abbrev ProtectedClaimPayloadEnvelope := ProtectedEnvelope

/-- Authenticated encryption under a key derived for the context the payload belongs to. -/
structure Aead (Context Payload : Type) where
  encipher : ProtectedClaimKey → BitVec 192 → Context → Payload → Bytes
  decipher : ProtectedClaimKey → BitVec 192 → Context → Bytes → Option Payload
  roundTrip : ∀ key nonce context payload,
    decipher key nonce context (encipher key nonce context payload) = some payload

namespace Aead

variable {Context Payload : Type} (aead : Aead Context Payload) (key : ProtectedClaimKey) (context : Context)

def encrypt (nonce : BitVec 192) (payload : Payload) : ProtectedEnvelope :=
  ⟨key.keyId, nonce, aead.encipher key nonce context payload⟩

def decrypt (envelope : ProtectedEnvelope) : Except ProtectedClaimError Payload := do
  ensure (envelope.keyId = key.keyId) .keyIdMismatch
  required (aead.decipher key envelope.nonce context envelope.ciphertext) .authentication

theorem decrypt_encrypt (nonce : BitVec 192) (payload : Payload) :
    aead.decrypt key context (aead.encrypt key context nonce payload) = .ok payload := by
  simp only [decrypt, encrypt, aead.roundTrip, ensure_bind_ok_iff, required, true_and]

end Aead

structure StorePrimitives extends Primitives where
  material : Aead ClaimMaterialContext Bytes32
  submission : Aead ClaimSubmissionContext Bytes
  payloadFingerprint : ProtectedClaimPayloadEnvelope → Bytes32

inductive StoreError
  | revisionOverflow
  | zecRecoveryRoleMismatch
  | missingZecFirstLockIntent
  | missingZecClaimMaterial
  | missingZecClaimIntent
  | invalidZecRecoveryState
  | conflictingZecFirstLockTransition
  | conflictingZecClaimTransition
  | conflictingZecRefundTransition
  | payload
  | preparedSubmission
  | agreement (error : ZecAgreementV1Error)
  | firstLockIntent (error : FirstLockIntentError)
  | firstLock (error : FirstLockTransitionError)
  | makerLock (error : MakerLockError)
  | observedMakerLock (error : ObservedMakerLockError)
  | observedTakerLock (error : ObservedTakerFirstLockTransitionError)
  | claim (error : ClaimError)
  | claimRecord (error : ClaimRecordError)
  | refund (error : RefundError)
  | protection (error : ProtectedClaimError)

/-- Revisions are kept in signed 64-bit columns. -/
def sqlU64 (value : Nat) : Except StoreError Unit :=
  ensure (value < 2 ^ 63) .revisionOverflow

def PreparedSubmission.new {Step : Type} (step : Step) (expectedSubmissionId : Bytes32)
    (exactSubmission : Bytes) : Except StoreError (PreparedSubmission Step) :=
  if valid : exactSubmission ≠ [] ∧ exactSubmission.length ≤ 2000000 ∧ expectedSubmissionId ≠ 0 then
    .ok { step, expectedSubmissionId, exactSubmission
          present := valid.1, sized := valid.2.1, identified := valid.2.2 }
  else .error .preparedSubmission

structure AgreementRow where
  agreementWire : ZecAgreementRecordV1
  (acceptedAt acceptedRevision activeRevision : Nat)

structure FirstLockIntentRow where
  predecessorRevision : Nat
  intent : FirstLockIntentV1
  closedRevision : Option Nat
deriving DecidableEq

structure MakerLockIntentRow where
  stagedRevision : Nat
  intent : MakerLockIntentV1
  closedRevision : Option Nat
deriving DecidableEq

structure ClaimMaterialRow where
  purpose : ClaimMaterialPurpose
  createdRevision : Nat
  envelope : ProtectedClaimEnvelope

structure ClaimIntentRow where
  (stagedRevision materialCreatedRevision : Nat)
  intent : ClaimIntentV1
  protectedPayload : ProtectedClaimPayloadEnvelope
  closedRevision : Option Nat

structure RefundIntentRow where
  stagedRevision : Nat
  intent : RefundIntentV1
deriving DecidableEq

/-- The six transition tables. The taker's own first lock and the maker's observations of it share
    one. -/
inductive JournalTable
  | firstLock | makerLock | observedMakerLock | ownedClaim | observedClaim | refund
deriving DecidableEq

inductive JournalEntry
  | firstLock (transition : FirstLockTransitionV1)
  | observedTakerFirstLock (transition : ObservedTakerFirstLockTransitionV1)
  | makerLock (intentStagedRevision : Nat) (transition : MakerLockTransitionV1)
  | observedMakerLock (transition : ObservedMakerLockTransitionV1)
  | ownedClaim (intentStagedRevision : Nat) (record : ClaimTransitionRecordV1)
  | observedClaim (materialCreatedRevision : Option Nat) (record : ClaimTransitionRecordV1)
  | refund (retained : Option RefundIntentRow) (transition : RefundTransitionV1)
deriving DecidableEq

def JournalEntry.table : JournalEntry → JournalTable
  | .firstLock _ | .observedTakerFirstLock _ => .firstLock
  | .makerLock _ _ => .makerLock
  | .observedMakerLock _ => .observedMakerLock
  | .ownedClaim _ _ => .ownedClaim
  | .observedClaim _ _ => .observedClaim
  | .refund _ _ => .refund

structure JournalRow where
  (predecessorRevision committedRevision : Nat)
  entry : JournalEntry

/-- The rows one role keeps for one swap, with the key its claim envelopes are sealed under. The
    transition tables are one list in insertion order, each row marked with its table. -/
structure Store where
  localParticipant : Participant
  claimKey : ProtectedClaimKey
  agreementRow : AgreementRow
  firstLockIntent : Option FirstLockIntentRow
  makerLockIntent : Option MakerLockIntentRow
  claimMaterial : Option ClaimMaterialRow
  claimIntent : Option ClaimIntentRow
  refundIntent : Option RefundIntentRow
  journal : List JournalRow

/-- What a replay of the journal accumulates; a taker leaves the trackers empty. -/
structure JournalState where
  coordinator : SwapCoordinator
  zcash : ZcashObservationTracker
  lez : LezObservationTrackerV1

def ZecAgreementV1.initialState (agreement : ZecAgreementV1) : JournalState :=
  { coordinator := agreement.coordinator, zcash := none, lez := none }

namespace Store

variable (primitives : StorePrimitives) (store : Store)

def activeRevision : Nat := store.agreementRow.activeRevision

def row (table : JournalTable) (predecessor : Nat) : Option JournalRow :=
  store.journal.find? fun row => row.entry.table = table ∧ row.predecessorRevision = predecessor

def requireRole (actual : Participant) : Except StoreError Unit :=
  ensure (actual = store.localParticipant) .zecRecoveryRoleMismatch

def validatedAgreement : Except StoreError ZecAgreementV1 := do
  ensure (store.agreementRow.acceptedRevision ≤ store.agreementRow.activeRevision)
    .invalidZecRecoveryState
  (ZecAgreementV1.validateAt primitives.toPrimitives store.agreementRow.agreementWire
    store.agreementRow.acceptedAt).mapError .agreement

/-- The committed revisions of all tables together are exactly `1 .. active`. -/
def validateTransitionJournal (activeRevision : Nat) : Except StoreError Unit := do
  let predecessors := store.journal.map JournalRow.predecessorRevision
  sqlU64 activeRevision
  ensure (predecessors.length = activeRevision ∧ predecessors.Nodup ∧
    (∀ row ∈ store.journal, row.committedRevision = row.predecessorRevision + 1) ∧
    (activeRevision = 0 ∧ predecessors.min? = none ∧ predecessors.max? = none ∨
      0 < activeRevision ∧ predecessors.min? = some 0 ∧
        predecessors.max? = some (activeRevision - 1))) .invalidZecRecoveryState

end Store

/-- An observed taker lock moves the tracker of the chain it was read on. -/
def applySelectedObservationEvent (state : JournalState)
    (transition : ObservedTakerFirstLockTransitionV1) (allowInitialAdapterAssertion : Bool) :
    Except StoreError JournalState :=
  match transition.lezObservationEvent, transition.zcashObservationEvent with
  | some event, none => do
    let lez ← (Tracker.applyCommitted lezTracking state.lez event).mapError
      fun _ => .invalidZecRecoveryState
    return { state with lez }
  | none, some event => do
    let zcash ← (Tracker.applyCommitted zcashTracking state.zcash event).mapError
      fun _ => .invalidZecRecoveryState
    return { state with zcash }
  | none, none =>
    if allowInitialAdapterAssertion then .ok state else .error .invalidZecRecoveryState
  | some _, some _ => .error .invalidZecRecoveryState

variable (agreement : ZecAgreementV1)

def claimMaterialContext (localParticipant : Participant) (purpose : ClaimMaterialPurpose) : ClaimMaterialContext :=
  { swap := agreement.context localParticipant, direction := agreement.direction, purpose }

def ClaimStepV1.submissionPurpose : ClaimStepV1 → ClaimMaterialPurpose
  | .revealingLez => .lezClaimSubmission
  | .followupZcash => .zcashClaimSubmission

/-- The secret a role's own claim of this step is made with. -/
def ClaimStepV1.materialPurpose : ClaimStepV1 → ClaimMaterialPurpose
  | .revealingLez => .localFirstClaim
  | .followupZcash => .observedFollowUpClaim

def preparedClaimSubmissionContext (localParticipant : Participant)
    (stagedRevision : Nat) (step : ClaimStepV1) (expectedSubmissionId : Bytes32) : ClaimSubmissionContext :=
  { base := claimMaterialContext agreement localParticipant step.submissionPurpose
    step, stagedRevision, expectedSubmissionId }

def claimSubmissionContext (intent : ClaimIntentV1) : ClaimSubmissionContext :=
  preparedClaimSubmissionContext agreement intent.context.localParticipant intent.stagedRevision
    intent.step intent.expectedSubmissionId

namespace Store

variable (primitives : StorePrimitives) (store : Store) (agreement : ZecAgreementV1)

def decryptClaimMaterial (material : ClaimMaterialRow) : Except StoreError Bytes32 :=
  (primitives.material.decrypt store.claimKey
    (claimMaterialContext agreement store.localParticipant material.purpose)
    material.envelope).mapError .protection

def openClaimPayload (intent : ClaimIntentV1) (protectedPayload : ProtectedClaimPayloadEnvelope) :
    Except StoreError (PreparedSubmission ClaimStepV1) := do
  ensure (intent.protectedPayloadFingerprint = primitives.payloadFingerprint protectedPayload)
    (.claim .protectedPayloadMismatch)
  let exact ← (primitives.submission.decrypt store.claimKey (claimSubmissionContext agreement intent)
    protectedPayload).mapError .protection
  PreparedSubmission.new intent.step intent.expectedSubmissionId exact

variable (coordinator : SwapCoordinator)

def applyRefundJournalSlot (predecessor : Nat)
    (retained : Option RefundIntentRow) (transition : RefundTransitionV1) : Except StoreError SwapCoordinator := do
  ensure (retained.all fun row => row.intent.stagedRevision = row.stagedRevision)
    .invalidZecRecoveryState
  ensure (transition.owned = retained.isSome) .invalidZecRecoveryState
  (transition.revalidate agreement store.localParticipant coordinator predecessor
    (retained.map RefundIntentRow.intent)).mapError .refund
  (transition.applyTo agreement coordinator predecessor).mapError .refund

variable (predecessor committed : Nat)

/-- The role's own claim: its closed intent, the bytes that intent sealed and the secret behind it
    are all read again. -/
def applyOwnedClaimSlot (intentStagedRevision : Nat) (record : ClaimTransitionRecordV1) :
    Except StoreError SwapCoordinator := do
  match store.claimIntent with
  | none => throw .missingZecClaimIntent
  | some intentRow =>
    ensure (intentStagedRevision = intentRow.stagedRevision ∧
      intentRow.closedRevision = some committed) .invalidZecRecoveryState
    (intentRow.intent.revalidate agreement store.localParticipant coordinator predecessor).mapError
      .claim
    let _ ← store.openClaimPayload primitives agreement intentRow.intent intentRow.protectedPayload
    match store.claimMaterial with
    | none => throw .missingZecClaimMaterial
    | some material =>
      ensure (intentRow.materialCreatedRevision = material.createdRevision) .invalidZecRecoveryState
      ensure (material.purpose = record.step.materialPurpose) .invalidZecRecoveryState
      let preimage ← store.decryptClaimMaterial primitives agreement material
      let transition ← (record.revalidate primitives.toPrimitives agreement store.localParticipant
        coordinator (some intentRow.intent) predecessor (some preimage)).mapError .claimRecord
      (transition.applyTo primitives.toPrimitives agreement coordinator predecessor).mapError .claim

/-- The secret an observed claim was recorded with: a revealing claim stored it at the revision it
    committed, a follow-up claim stored none. -/
def observedClaimPreimage (committed : Nat) (materialCreatedRevision : Option Nat)
    (step : ClaimStepV1) : Except StoreError (Option Bytes32) :=
  match step with
  | .revealingLez => do
    ensure (materialCreatedRevision = some committed) .invalidZecRecoveryState
    match store.claimMaterial with
    | none => throw .missingZecClaimMaterial
    | some material =>
      ensure (material.createdRevision = committed ∧ material.purpose = .observedFollowUpClaim)
        .invalidZecRecoveryState
      let preimage ← store.decryptClaimMaterial primitives agreement material
      return some preimage
  | .followupZcash => do
    ensure (materialCreatedRevision = none) .invalidZecRecoveryState
    return none

def applyObservedClaimSlot (materialCreatedRevision : Option Nat) (record : ClaimTransitionRecordV1) :
    Except StoreError SwapCoordinator := do
  let preimage ← store.observedClaimPreimage primitives agreement committed materialCreatedRevision record.step
  let transition ← (record.revalidate primitives.toPrimitives agreement store.localParticipant
    coordinator none predecessor preimage).mapError .claimRecord
  (transition.applyTo primitives.toPrimitives agreement coordinator predecessor).mapError .claim

def applyTerminalJournalSlot : Except StoreError SwapCoordinator :=
  match store.row .ownedClaim predecessor, store.row .observedClaim predecessor,
      store.row .refund predecessor with
  | some row, none, none => do
    ensure (row.committedRevision = committed) .invalidZecRecoveryState
    match row.entry with
    | .ownedClaim staged record =>
      store.applyOwnedClaimSlot primitives agreement coordinator predecessor committed staged record
    | _ => throw .payload
  | none, some row, none => do
    ensure (row.committedRevision = committed) .invalidZecRecoveryState
    match row.entry with
    | .observedClaim created record =>
      store.applyObservedClaimSlot primitives agreement coordinator predecessor committed created
        record
    | _ => throw .payload
  | none, none, some row => do
    ensure (row.committedRevision = committed) .invalidZecRecoveryState
    match row.entry with
    | .refund retained transition =>
      store.applyRefundJournalSlot agreement coordinator predecessor retained transition
    | _ => throw .payload
  | _, _, _ => .error .invalidZecRecoveryState

/-- The observation a maker's journal holds at one revision. -/
def applyObservedTakerSlot (state : JournalState) (predecessor : Nat)
    (transition : ObservedTakerFirstLockTransitionV1) : Except StoreError JournalState := do
  (transition.revalidate primitives.hash160 agreement store.localParticipant predecessor).mapError
    .observedTakerLock
  let tracked ← applySelectedObservationEvent state transition (predecessor = 0)
  let coordinator ← (transition.applyTo agreement state.coordinator predecessor).mapError
    .observedTakerLock
  return { tracked with coordinator }

def applyMakerLockSlot (intentStagedRevision : Nat) (transition : MakerLockTransitionV1) :
    Except StoreError SwapCoordinator := do
  match store.makerLockIntent with
  | none => throw .missingZecFirstLockIntent
  | some intentRow =>
    ensure (intentStagedRevision = intentRow.stagedRevision ∧
      intentRow.closedRevision = some committed) .invalidZecRecoveryState
    (transition.revalidate agreement store.localParticipant intentRow.intent predecessor).mapError
      .makerLock
    (transition.applyTo agreement coordinator predecessor).mapError .makerLock

def applyFirstLockSlot (transition : FirstLockTransitionV1) : Except StoreError SwapCoordinator := do
  match store.firstLockIntent with
  | none => throw .missingZecFirstLockIntent
  | some intentRow =>
    ensure (intentRow.predecessorRevision = predecessor ∧ intentRow.closedRevision = some committed)
      .invalidZecRecoveryState
    (transition.revalidate agreement store.localParticipant intentRow.intent predecessor).mapError
      .firstLock
    (transition.applyTo agreement coordinator predecessor).mapError fun _ => .invalidZecRecoveryState

def applyObservedMakerSlot (predecessor : Nat)
    (transition : ObservedMakerLockTransitionV1) : Except StoreError SwapCoordinator := do
  (transition.revalidate agreement store.localParticipant predecessor).mapError .observedMakerLock
  (transition.applyTo agreement coordinator predecessor).mapError .observedMakerLock

/-- One turn of the loop in `replay_maker_journal`. -/
def makerSlot (predecessor : Nat) (state : JournalState) : Except StoreError JournalState := do
  let committed := predecessor + 1
  sqlU64 committed
  match store.row .firstLock predecessor, store.row .makerLock predecessor with
  | some row, none =>
    ensure (row.committedRevision = committed) .invalidZecRecoveryState
    match row.entry with
    | .observedTakerFirstLock transition =>
      store.applyObservedTakerSlot primitives agreement state predecessor transition
    | _ => throw .payload
  | none, some row =>
    ensure (row.committedRevision = committed) .invalidZecRecoveryState
    match row.entry with
    | .makerLock staged transition =>
      let coordinator ← store.applyMakerLockSlot agreement state.coordinator predecessor committed
        staged transition
      return { state with coordinator }
    | _ => throw .payload
  | none, none =>
    let coordinator ← store.applyTerminalJournalSlot primitives agreement state.coordinator
      predecessor committed
    return { state with coordinator }
  | some _, some _ => throw .invalidZecRecoveryState

/-- One turn of the loop in `replay_taker_journal`. -/
def takerSlot (predecessor : Nat) (state : JournalState) : Except StoreError JournalState := do
  let committed := predecessor + 1
  sqlU64 committed
  match store.row .firstLock predecessor, store.row .observedMakerLock predecessor with
  | some row, none =>
    ensure (row.committedRevision = committed) .invalidZecRecoveryState
    match row.entry with
    | .firstLock transition =>
      let coordinator ← store.applyFirstLockSlot agreement state.coordinator predecessor committed
        transition
      return { state with coordinator }
    | _ => throw .payload
  | none, some row =>
    ensure (row.committedRevision = committed) .invalidZecRecoveryState
    match row.entry with
    | .observedMakerLock transition =>
      let coordinator ← store.applyObservedMakerSlot agreement state.coordinator predecessor
        transition
      return { state with coordinator }
    | _ => throw .payload
  | none, none =>
    let coordinator ← store.applyTerminalJournalSlot primitives agreement state.coordinator
      predecessor committed
    return { state with coordinator }
  | some _, some _ => throw .invalidZecRecoveryState

def slot (predecessor : Nat) (state : JournalState) : Except StoreError JournalState :=
  match store.localParticipant with
  | .maker => store.makerSlot primitives agreement predecessor state
  | .taker => store.takerSlot primitives agreement predecessor state

/-- `replay_maker_journal` or `replay_taker_journal`, by the role of the store. -/
def replayJournal (revision : Nat) : Except StoreError JournalState :=
  Journal.replay (store.slot primitives agreement) agreement.initialState revision

/-- The secret a role was activated with, or the one a counterparty's claim published. -/
def validateClaimMaterialOrigin (material : ClaimMaterialRow) : Except StoreError Unit :=
  match material.purpose with
  | .localFirstClaim =>
    ensure (store.localParticipant = agreement.lezClaimant ∧ material.createdRevision = 0)
      .invalidZecRecoveryState
  | .observedFollowUpClaim => do
    ensure (store.localParticipant ≠ agreement.lezClaimant ∧ 0 < material.createdRevision)
      .invalidZecRecoveryState
    match store.row .observedClaim (material.createdRevision - 1) with
    | none => throw .invalidZecRecoveryState
    | some row => match row.entry with
      | .observedClaim created record =>
        ensure (record.step = .revealingLez ∧ row.committedRevision = material.createdRevision ∧
          created = some material.createdRevision) .invalidZecRecoveryState
      | _ => throw .payload
  | _ => .error .invalidZecRecoveryState

def validateClaimMaterial (material : ClaimMaterialRow) : Except StoreError Unit := do
  store.validateClaimMaterialOrigin agreement material
  let _ ← store.decryptClaimMaterial primitives agreement material

def validateClaimIntentMaterial (intentRow : ClaimIntentRow) : Except StoreError Unit :=
  match store.claimMaterial with
  | none => .error .missingZecClaimMaterial
  | some material =>
    ensure (intentRow.materialCreatedRevision = material.createdRevision) .invalidZecRecoveryState

variable (activeRevision : Nat)

/-- An open claim intent is checked against the head of the journal, a closed one against the
    revision its own transition was committed on. -/
def validateClaimIntentPosition (coordinator : SwapCoordinator)
    (intentRow : ClaimIntentRow) : Except StoreError Unit :=
  match intentRow.closedRevision with
  | none =>
    (intentRow.intent.revalidate agreement store.localParticipant coordinator activeRevision).mapError
      .claim
  | some committed => do
    ensure (0 < committed) .invalidZecRecoveryState
    match store.row .ownedClaim (committed - 1) with
    | none => throw .invalidZecRecoveryState
    | some row => match row.entry with
      | .ownedClaim staged _ =>
        ensure (row.committedRevision = committed ∧ staged = intentRow.stagedRevision)
          .invalidZecRecoveryState
        let predecessor ← store.replayJournal primitives agreement (committed - 1)
        (intentRow.intent.revalidate agreement store.localParticipant predecessor.coordinator
          (committed - 1)).mapError .claim
      | _ => throw .payload

def validateClaimIntent (coordinator : SwapCoordinator) (intentRow : ClaimIntentRow) : Except StoreError Unit := do
  store.validateClaimIntentMaterial intentRow
  store.validateClaimIntentPosition primitives agreement activeRevision coordinator intentRow
  let _ ← store.openClaimPayload primitives agreement intentRow.intent intentRow.protectedPayload

def validateClaimAuxiliaryState (coordinator : SwapCoordinator) : Except StoreError Unit := do
  store.claimMaterial.forM (store.validateClaimMaterial primitives agreement)
  store.claimIntent.forM
    (store.validateClaimIntent primitives agreement activeRevision coordinator)

structure JournalHead where
  agreement : ZecAgreementV1
  activeRevision : Nat
  state : JournalState

/-- `validated_maker_journal_head` or `validated_taker_journal_head`, by the role of the store. -/
def validatedJournalHead : Except StoreError JournalHead := do
  let agreement ← store.validatedAgreement primitives
  store.validateTransitionJournal store.activeRevision
  let state ← store.replayJournal primitives agreement store.activeRevision
  store.validateClaimAuxiliaryState primitives agreement store.activeRevision state.coordinator
  return { agreement, activeRevision := store.activeRevision, state }

/-- Opening the file again under `key` authenticates every claim envelope it holds. -/
def openClaimCapable (key : ProtectedClaimKey) : Except StoreError Store := do
  let opened := { store with claimKey := key }
  if store.claimMaterial.isSome ∨ store.claimIntent.isSome then
    let _ ← opened.validatedJournalHead primitives
  return opened

end Store

end AtomicSwaps.Zec
