import AtomicSwaps.Zec.Store

namespace AtomicSwaps.Zec

open AtomicSwaps.Core Fallible

inductive CreateOutcome
  | created | existingSame | conflict
deriving DecidableEq

/-- `FirstLockProjectionCommit`: the revision a transition is durable at. -/
structure ProjectionCommit where
  revision : Nat
  wasReplay : Bool

namespace Store

/-- An empty file of one role into which `create_agreement` inserts its row. -/
def createAgreement (primitives : StorePrimitives) (localParticipant : Participant) (claimKey : ProtectedClaimKey)
    (agreementWire : ZecAgreementRecordV1) (acceptedAt acceptedRevision : Nat) : Except StoreError Store := do
  let _ ← (ZecAgreementV1.validateAt primitives.toPrimitives agreementWire acceptedAt).mapError
    .agreement
  sqlU64 acceptedAt
  sqlU64 acceptedRevision
  return { localParticipant, claimKey
           agreementRow := { agreementWire, acceptedAt, acceptedRevision
                             activeRevision := acceptedRevision }
           firstLockIntent := none, makerLockIntent := none, claimMaterial := none
           claimIntent := none, refundIntent := none, journal := [] }

variable (primitives : StorePrimitives) (store : Store)

def commitRow (predecessor : Nat) (entry : JournalEntry) : Store :=
  { store with
    agreementRow := { store.agreementRow with activeRevision := predecessor + 1 }
    journal := store.journal ++
      [{ predecessorRevision := predecessor, committedRevision := predecessor + 1, entry }] }

def createAgreementWithLocalClaimMaterial (preimage : Bytes32) (nonce : BitVec 192) :
    Except StoreError (CreateOutcome × Store) := do
  let agreement ← store.validatedAgreement primitives
  ensure (store.agreementRow.acceptedRevision = 0 ∧
    store.localParticipant = agreement.lezClaimant) .invalidZecRecoveryState
  let context := claimMaterialContext agreement store.localParticipant .localFirstClaim
  if store.activeRevision ≠ 0 then return (.conflict, store)
  match store.claimMaterial with
  | none =>
    return (.created, { store with
      claimMaterial := some { purpose := .localFirstClaim, createdRevision := 0
                              envelope := primitives.material.encrypt store.claimKey context nonce
                                preimage } })
  | some material =>
    if material.createdRevision = 0 ∧ material.purpose = .localFirstClaim then
      let existing ← store.decryptClaimMaterial primitives agreement material
      return (if existing = preimage then .existingSame else .conflict, store)
    else return (.conflict, store)

def createFirstLockIntent (intent : FirstLockIntentV1) : Except StoreError (CreateOutcome × Store) := do
  store.requireRole intent.context.localParticipant
  sqlU64 intent.predecessorRevision
  let agreement ← store.validatedAgreement primitives
  (intent.validateForActive agreement store.localParticipant store.activeRevision).mapError
    .firstLockIntent
  let row : FirstLockIntentRow :=
    { predecessorRevision := intent.predecessorRevision, intent, closedRevision := none }
  match store.firstLockIntent with
  | none => return (.created, { store with firstLockIntent := some row })
  | some existing => return (if existing = row then .existingSame else .conflict, store)

def loadFirstLockIntent : Except StoreError (Option FirstLockIntentV1) :=
  match store.firstLockIntent with
  | none => .ok none
  | some row =>
    if row.closedRevision.isSome then .ok none
    else do
      let agreement ← store.validatedAgreement primitives
      (row.intent.validateForActive agreement store.localParticipant store.activeRevision).mapError
        .firstLockIntent
      return some row.intent

def commitFirstLockTransition (transition : FirstLockTransitionV1) :
    Except StoreError (ProjectionCommit × Store) := do
  let predecessor := transition.predecessorRevision
  let committed := predecessor + 1
  sqlU64 committed
  store.validateTransitionJournal store.activeRevision
  let agreement ← store.validatedAgreement primitives
  match store.firstLockIntent with
  | none => throw .missingZecFirstLockIntent
  | some intentRow =>
    (transition.revalidate agreement store.localParticipant intentRow.intent predecessor).mapError
      .firstLock
    match store.row .firstLock predecessor with
    | some existing =>
      ensure (existing.committedRevision = committed ∧
        intentRow.closedRevision = some committed ∧ committed ≤ store.activeRevision)
        .invalidZecRecoveryState
      ensure (existing.entry = .firstLock transition) .conflictingZecFirstLockTransition
      return ({ revision := committed, wasReplay := true }, store)
    | none =>
      ensure (store.activeRevision = predecessor ∧ intentRow.predecessorRevision = predecessor ∧
        intentRow.closedRevision = none) .invalidZecRecoveryState
      let next := store.commitRow predecessor (.firstLock transition)
      return ({ revision := committed, wasReplay := false }, { next with
        firstLockIntent := some { intentRow with closedRevision := some committed } })

variable (agreement : ZecAgreementV1) (predecessor : Nat)

/-- The checks `load_first_lock_transition` makes where the revision holds no first lock. -/
def validateIdleFirstLock : Except StoreError Unit := do
  ensure (store.activeRevision = predecessor) .invalidZecRecoveryState
  match store.firstLockIntent with
  | none => pure ()
  | some intentRow => match intentRow.closedRevision with
    | none =>
      ensure (intentRow.predecessorRevision = predecessor) .invalidZecRecoveryState
      (intentRow.intent.validateForActive agreement store.localParticipant predecessor).mapError
        .firstLockIntent
    | some closedRevision => match store.row .firstLock intentRow.predecessorRevision with
      | none => throw .invalidZecRecoveryState
      | some historical => match historical.entry with
        | .firstLock transition =>
          ensure (historical.committedRevision = closedRevision ∧
            closedRevision ≤ store.activeRevision) .invalidZecRecoveryState
          (transition.revalidate agreement store.localParticipant intentRow.intent
            intentRow.predecessorRevision).mapError .firstLock
        | _ => throw .payload

def loadFirstLockTransition : Except StoreError (Option FirstLockTransitionV1) := do
  sqlU64 predecessor
  store.validateTransitionJournal store.activeRevision
  let agreement ← store.validatedAgreement primitives
  match store.row .firstLock predecessor with
  | none =>
    store.validateIdleFirstLock agreement predecessor
    return none
  | some row => match store.firstLockIntent with
    | none => throw .missingZecFirstLockIntent
    | some intentRow =>
      let committed := predecessor + 1
      ensure (row.committedRevision = committed ∧ intentRow.predecessorRevision = predecessor ∧
        intentRow.closedRevision = some committed ∧ committed ≤ store.activeRevision)
        .invalidZecRecoveryState
      match row.entry with
      | .firstLock transition =>
        (transition.revalidate agreement store.localParticipant intentRow.intent
          predecessor).mapError .firstLock
        return some transition
      | _ => throw .payload

def commitObservedTakerFirstLockTransition (transition : ObservedTakerFirstLockTransitionV1) :
    Except StoreError (ProjectionCommit × Store) := do
  store.requireRole transition.context.localParticipant
  ensure (store.localParticipant = .maker) .zecRecoveryRoleMismatch
  let predecessor := transition.predecessorRevision
  let committed := predecessor + 1
  sqlU64 committed
  let head ← store.validatedJournalHead primitives
  (transition.revalidate primitives.hash160 head.agreement store.localParticipant
    predecessor).mapError .observedTakerLock
  ensure (store.firstLockIntent = none) .invalidZecRecoveryState
  match store.row .firstLock predecessor with
  | some existing =>
    ensure (existing.committedRevision = committed ∧ committed ≤ head.activeRevision ∧
      existing.entry = .observedTakerFirstLock transition) .conflictingZecFirstLockTransition
    return ({ revision := committed, wasReplay := true }, store)
  | none =>
    ensure (head.activeRevision = predecessor) .invalidZecRecoveryState
    let _ ← applySelectedObservationEvent head.state transition (head.activeRevision = 0)
    let _ ← (transition.applyTo head.agreement head.state.coordinator predecessor).mapError
      .observedTakerLock
    return ({ revision := committed, wasReplay := false },
      store.commitRow predecessor (.observedTakerFirstLock transition))

def loadObservedTakerFirstLockTransition : Except StoreError (Option ObservedTakerFirstLockTransitionV1) := do
  ensure (store.localParticipant = .maker) .zecRecoveryRoleMismatch
  sqlU64 predecessor
  let head ← store.validatedJournalHead primitives
  ensure (store.firstLockIntent = none) .invalidZecRecoveryState
  match store.row .firstLock predecessor with
  | none =>
    ensure (predecessor ≤ head.activeRevision) .invalidZecRecoveryState
    return none
  | some row =>
    let committed := predecessor + 1
    sqlU64 committed
    ensure (row.committedRevision = committed ∧ committed ≤ head.activeRevision)
      .invalidZecRecoveryState
    match row.entry with
    | .observedTakerFirstLock transition =>
      (transition.revalidate primitives.hash160 head.agreement store.localParticipant
        predecessor).mapError .observedTakerLock
      return some transition
    | _ => throw .payload

def commitObservedMakerLockTransition (transition : ObservedMakerLockTransitionV1) :
    Except StoreError (ProjectionCommit × Store) := do
  store.requireRole transition.context.localParticipant
  ensure (store.localParticipant = .taker) .zecRecoveryRoleMismatch
  let predecessor := transition.predecessorRevision
  let committed := predecessor + 1
  sqlU64 committed
  let head ← store.validatedJournalHead primitives
  (transition.revalidate head.agreement store.localParticipant predecessor).mapError
    .observedMakerLock
  match store.row .observedMakerLock predecessor with
  | some existing =>
    ensure (existing.committedRevision = committed ∧ committed ≤ head.activeRevision ∧
      existing.entry = .observedMakerLock transition) .conflictingZecFirstLockTransition
    return ({ revision := committed, wasReplay := true }, store)
  | none =>
    ensure (head.activeRevision = predecessor) .invalidZecRecoveryState
    let _ ← (transition.applyTo head.agreement head.state.coordinator predecessor).mapError
      .observedMakerLock
    return ({ revision := committed, wasReplay := false },
      store.commitRow predecessor (.observedMakerLock transition))

def loadObservedMakerLockTransition : Except StoreError (Option ObservedMakerLockTransitionV1) := do
  ensure (store.localParticipant = .taker) .zecRecoveryRoleMismatch
  let head ← store.validatedJournalHead primitives
  ensure (predecessor ≤ head.activeRevision) .invalidZecRecoveryState
  sqlU64 predecessor
  match store.row .observedMakerLock predecessor with
  | none => return none
  | some row =>
    let committed := predecessor + 1
    sqlU64 committed
    ensure (row.committedRevision = committed ∧ committed ≤ head.activeRevision)
      .invalidZecRecoveryState
    match row.entry with
    | .observedMakerLock transition =>
      (transition.revalidate head.agreement store.localParticipant predecessor).mapError
        .observedMakerLock
      return some transition
    | _ => throw .payload

/-- `MakerLockIntentRecordV1::revalidate`: an intent is rebuilt at the revision it was staged on. -/
def revalidateMakerLockIntent (intent : MakerLockIntentV1) : Except StoreError Unit := do
  let trusted ← (MakerLockIntentV1.fromActive agreement store.localParticipant intent.stagedRevision
    intent.plan).mapError .makerLock
  ensure (trusted = intent) (.makerLock .contextMismatch)

def createMakerLockIntent (intent : MakerLockIntentV1) : Except StoreError (CreateOutcome × Store) := do
  store.requireRole intent.context.localParticipant
  ensure (store.localParticipant = .maker) .zecRecoveryRoleMismatch
  sqlU64 intent.stagedRevision
  let head ← store.validatedJournalHead primitives
  store.revalidateMakerLockIntent head.agreement intent
  let row : MakerLockIntentRow :=
    { stagedRevision := intent.stagedRevision, intent, closedRevision := none }
  match store.makerLockIntent with
  | none =>
    if head.activeRevision = intent.stagedRevision then
      return (.created, { store with makerLockIntent := some row })
    else return (.conflict, store)
  | some existing => return (if existing = row then .existingSame else .conflict, store)

def loadMakerLockIntent : Except StoreError (Option MakerLockIntentV1) := do
  ensure (store.localParticipant = .maker) .zecRecoveryRoleMismatch
  let head ← store.validatedJournalHead primitives
  match store.makerLockIntent with
  | none => return none
  | some row =>
    if row.closedRevision.isSome then return none
    else
      store.revalidateMakerLockIntent head.agreement row.intent
      ensure (row.intent.stagedRevision ≤ head.activeRevision ∧
        row.stagedRevision = row.intent.stagedRevision) .invalidZecRecoveryState
      return some row.intent

def commitMakerLockTransition (transition : MakerLockTransitionV1) :
    Except StoreError (ProjectionCommit × Store) := do
  store.requireRole .maker
  let predecessor := transition.predecessorRevision
  let committed := predecessor + 1
  sqlU64 committed
  let head ← store.validatedJournalHead primitives
  match store.makerLockIntent with
  | none => throw .missingZecFirstLockIntent
  | some intentRow =>
    (transition.revalidate head.agreement store.localParticipant intentRow.intent
      predecessor).mapError .makerLock
    match store.row .makerLock predecessor with
    | some existing =>
      ensure (existing.committedRevision = committed ∧
        existing.entry = .makerLock intentRow.stagedRevision transition ∧
        intentRow.closedRevision = some committed ∧ committed ≤ head.activeRevision)
        .conflictingZecFirstLockTransition
      return ({ revision := committed, wasReplay := true }, store)
    | none =>
      ensure (head.activeRevision = predecessor ∧ intentRow.closedRevision = none ∧
        intentRow.stagedRevision = transition.intentStagedRevision) .invalidZecRecoveryState
      let _ ← (transition.applyTo head.agreement head.state.coordinator predecessor).mapError
        .makerLock
      let next := store.commitRow predecessor (.makerLock intentRow.stagedRevision transition)
      return ({ revision := committed, wasReplay := false }, { next with
        makerLockIntent := some { intentRow with closedRevision := some committed } })

def loadMakerLockTransition : Except StoreError (Option MakerLockTransitionV1) := do
  ensure (store.localParticipant = .maker) .zecRecoveryRoleMismatch
  let head ← store.validatedJournalHead primitives
  ensure (predecessor ≤ head.activeRevision) .invalidZecRecoveryState
  sqlU64 predecessor
  match store.row .makerLock predecessor with
  | none => return none
  | some row => match store.makerLockIntent with
    | none => throw .missingZecFirstLockIntent
    | some intentRow =>
      let committed := predecessor + 1
      sqlU64 committed
      match row.entry with
      | .makerLock staged transition =>
        ensure (row.committedRevision = committed ∧ staged = intentRow.stagedRevision ∧
          intentRow.closedRevision = some row.committedRevision ∧ committed ≤ head.activeRevision)
          .invalidZecRecoveryState
        (transition.revalidate head.agreement store.localParticipant intentRow.intent
          predecessor).mapError .makerLock
        return some transition
      | _ => throw .payload

def loadClaimMaterial : Except StoreError (Option Bytes32) := do
  let head ← store.validatedJournalHead primitives
  match store.claimMaterial with
  | none => return none
  | some material =>
    let preimage ← store.decryptClaimMaterial primitives head.agreement material
    return some preimage

def protectClaimSubmission (localParticipant : Participant)
    (stagedRevision : Nat) (prepared : PreparedSubmission ClaimStepV1) (nonce : BitVec 192) :
    Except StoreError ProtectedClaimPayloadEnvelope := do
  store.requireRole localParticipant
  return primitives.submission.encrypt store.claimKey
    (preparedClaimSubmissionContext agreement localParticipant stagedRevision prepared.step
      prepared.expectedSubmissionId) nonce prepared.exactSubmission

def openClaimSubmission (intent : ClaimIntentV1) (protectedPayload : ProtectedClaimPayloadEnvelope) :
    Except StoreError (PreparedSubmission ClaimStepV1) := do
  store.requireRole intent.context.localParticipant
  store.openClaimPayload primitives agreement intent protectedPayload

def createClaimIntent (intent : ClaimIntentV1) (protectedPayload : ProtectedClaimPayloadEnvelope) :
    Except StoreError (CreateOutcome × Store) := do
  store.requireRole intent.context.localParticipant
  sqlU64 intent.stagedRevision
  let head ← store.validatedJournalHead primitives
  ensure (head.activeRevision = intent.stagedRevision) .invalidZecRecoveryState
  (intent.revalidate head.agreement store.localParticipant head.state.coordinator
    head.activeRevision).mapError .claim
  match store.claimMaterial with
  | none => throw .missingZecClaimMaterial
  | some material =>
    ensure (material.createdRevision ≤ intent.stagedRevision) .invalidZecRecoveryState
    let _ ← store.decryptClaimMaterial primitives head.agreement material
    let _ ← store.openClaimPayload primitives head.agreement intent protectedPayload
    let row : ClaimIntentRow :=
      { stagedRevision := intent.stagedRevision, materialCreatedRevision := material.createdRevision
        intent, protectedPayload, closedRevision := none }
    match store.claimIntent with
    | none => return (.created, { store with claimIntent := some row })
    | some existing =>
      return (if existing.closedRevision = none ∧ existing.intent = intent ∧
        existing.protectedPayload = protectedPayload then .existingSame else .conflict, store)

def loadClaimIntent : Except StoreError (Option (ClaimIntentV1 × ProtectedClaimPayloadEnvelope)) := do
  let head ← store.validatedJournalHead primitives
  match store.claimIntent with
  | none => return none
  | some row =>
    if row.closedRevision.isSome then return none
    else
      (row.intent.revalidate head.agreement store.localParticipant head.state.coordinator
        head.activeRevision).mapError .claim
      ensure (row.intent.protectedPayloadFingerprint =
        primitives.payloadFingerprint row.protectedPayload) (.claim .protectedPayloadMismatch)
      let _ ← (primitives.submission.decrypt store.claimKey
        (claimSubmissionContext head.agreement row.intent) row.protectedPayload).mapError .protection
      return some (row.intent, row.protectedPayload)

/-- `commit_revealing_claim_transition` or `commit_followup_claim_transition`, by the step of the
    evidence. A revealing claim must come from the secret the role was activated with. -/
def commitOwnedClaimTransition (transition : ClaimTransitionV1) : Except StoreError (ProjectionCommit × Store) := do
  let predecessor := transition.predecessorRevision
  let committed := predecessor + 1
  let record := transition.record primitives.toPrimitives
  sqlU64 committed
  let head ← store.validatedJournalHead primitives
  match store.claimIntent with
  | none => throw .missingZecClaimIntent
  | some intentRow =>
    match store.row .ownedClaim predecessor with
    | some existing =>
      ensure (existing.committedRevision = committed ∧
        existing.entry = .ownedClaim intentRow.stagedRevision record ∧
        intentRow.closedRevision = some committed ∧ committed ≤ head.activeRevision)
        .conflictingZecClaimTransition
      return ({ revision := committed, wasReplay := true }, store)
    | none =>
      ensure (head.activeRevision = predecessor ∧ intentRow.closedRevision = none ∧
        some intentRow.stagedRevision = transition.intentStagedRevision) .invalidZecRecoveryState
      match store.claimMaterial with
      | none => throw .missingZecClaimMaterial
      | some material =>
        ensure (material.purpose = record.step.materialPurpose ∧
          (record.step = .revealingLez → material.createdRevision = 0)) .invalidZecRecoveryState
        let preimage ← store.decryptClaimMaterial primitives head.agreement material
        let _ ← (record.revalidate primitives.toPrimitives head.agreement store.localParticipant
          head.state.coordinator (some intentRow.intent) predecessor (some preimage)).mapError
          .claimRecord
        let _ ← (transition.applyTo primitives.toPrimitives head.agreement head.state.coordinator
          predecessor).mapError .claim
        let next := store.commitRow predecessor (.ownedClaim intentRow.stagedRevision record)
        return ({ revision := committed, wasReplay := false }, { next with
          claimIntent := some { intentRow with closedRevision := some committed } })

variable (step : ClaimStepV1)

/-- The secret a role's own durable claim is read back with: only a revealing claim needs it. -/
def ownedClaimSecret : Except StoreError (Option Bytes32) :=
  match step, store.claimMaterial with
  | .followupZcash, _ => .ok none
  | .revealingLez, none => .error .missingZecClaimMaterial
  | .revealingLez, some material => do
    let preimage ← store.decryptClaimMaterial primitives agreement material
    return some preimage

/-- `load_revealing_claim_transition` or `load_followup_claim_transition`. -/
def loadOwnedClaimTransition (predecessor : Nat) : Except StoreError (Option ClaimTransitionV1) := do
  let head ← store.validatedJournalHead primitives
  ensure (predecessor ≤ head.activeRevision) .invalidZecRecoveryState
  sqlU64 predecessor
  match store.row .ownedClaim predecessor with
  | none => return none
  | some row => match row.entry with
    | .ownedClaim staged record =>
      if record.step ≠ step then return none
      match store.claimIntent with
      | none => throw .missingZecClaimIntent
      | some intentRow =>
        ensure (staged = intentRow.stagedRevision ∧
          intentRow.closedRevision = some row.committedRevision) .invalidZecRecoveryState
        let before ← store.replayJournal primitives head.agreement predecessor
        let preimage ← store.ownedClaimSecret primitives head.agreement step
        let transition ← (record.revalidate primitives.toPrimitives head.agreement
          store.localParticipant before.coordinator (some intentRow.intent) predecessor
          preimage).mapError .claimRecord
        return some transition
    | _ => throw .payload

/-- `commit_observed_revealing_claim_transition` or `commit_observed_followup_claim_transition`. The
    published secret becomes the material of the follow-up claim in the same transaction. -/
def commitObservedClaimTransition (transition : ClaimTransitionV1) (nonce : BitVec 192) :
    Except StoreError (ProjectionCommit × Store) := do
  let predecessor := transition.predecessorRevision
  let committed := predecessor + 1
  let record := transition.record primitives.toPrimitives
  sqlU64 committed
  let head ← store.validatedJournalHead primitives
  let created := match transition.evidence with
    | .revealing _ => some committed
    | .followup _ => none
  match store.row .observedClaim predecessor with
  | some existing =>
    ensure (existing.committedRevision = committed ∧
      existing.entry = .observedClaim created record ∧ committed ≤ head.activeRevision)
      .conflictingZecClaimTransition
    return ({ revision := committed, wasReplay := true }, store)
  | none =>
    ensure (head.activeRevision = predecessor) .invalidZecRecoveryState
    let secret := match transition.evidence with
      | .revealing evidence => some evidence.preimage
      | .followup _ => none
    ensure (secret.isSome → store.claimMaterial = none) .invalidZecRecoveryState
    let _ ← (record.revalidate primitives.toPrimitives head.agreement store.localParticipant
      head.state.coordinator none predecessor secret).mapError .claimRecord
    let _ ← (transition.applyTo primitives.toPrimitives head.agreement head.state.coordinator
      predecessor).mapError .claim
    let next := store.commitRow predecessor (.observedClaim created record)
    match secret with
    | none => return ({ revision := committed, wasReplay := false }, next)
    | some preimage =>
      let context := claimMaterialContext head.agreement store.localParticipant
        .observedFollowUpClaim
      return ({ revision := committed, wasReplay := false }, { next with
        claimMaterial := some { purpose := .observedFollowUpClaim, createdRevision := committed
                                envelope := primitives.material.encrypt store.claimKey context nonce
                                  preimage } })

/-- The secret an observed durable claim is read back with: the one its own row stored. -/
def observedClaimSecret (committed : Nat) : Except StoreError (Option Bytes32) :=
  match step, store.claimMaterial with
  | .followupZcash, _ => .ok none
  | .revealingLez, none => .error .missingZecClaimMaterial
  | .revealingLez, some material => do
    ensure (material.createdRevision = committed ∧ material.purpose = .observedFollowUpClaim)
      .invalidZecRecoveryState
    let preimage ← store.decryptClaimMaterial primitives agreement material
    return some preimage

/-- `load_observed_revealing_claim_transition` or `load_observed_followup_claim_transition`. -/
def loadObservedClaimTransition (predecessor : Nat) : Except StoreError (Option ClaimTransitionV1) := do
  let head ← store.validatedJournalHead primitives
  ensure (predecessor ≤ head.activeRevision) .invalidZecRecoveryState
  sqlU64 predecessor
  match store.row .observedClaim predecessor with
  | none => return none
  | some row => match row.entry with
    | .observedClaim _ record =>
      if record.step ≠ step then return none
      let before ← store.replayJournal primitives head.agreement predecessor
      let preimage ← store.observedClaimSecret primitives head.agreement step row.committedRevision
      let transition ← (record.revalidate primitives.toPrimitives head.agreement
        store.localParticipant before.coordinator none predecessor preimage).mapError .claimRecord
      return some transition
    | _ => throw .payload

def createRefundIntent (intent : RefundIntentV1) : Except StoreError (CreateOutcome × Store) := do
  store.requireRole intent.context.localParticipant
  sqlU64 intent.stagedRevision
  let head ← store.validatedJournalHead primitives
  ensure (head.activeRevision = intent.stagedRevision) .invalidZecRecoveryState
  (intent.revalidate head.agreement store.localParticipant head.state.coordinator
    head.activeRevision).mapError .refund
  let row : RefundIntentRow := { stagedRevision := intent.stagedRevision, intent }
  match store.refundIntent with
  | none => return (.created, { store with refundIntent := some row })
  | some existing => return (if existing = row then .existingSame else .conflict, store)

def loadRefundIntent : Except StoreError (Option RefundIntentV1) := do
  let head ← store.validatedJournalHead primitives
  match store.refundIntent with
  | none => return none
  | some row =>
    ensure (row.stagedRevision ≤ head.activeRevision) .invalidZecRecoveryState
    (row.intent.revalidate head.agreement store.localParticipant head.state.coordinator
      head.activeRevision).mapError .refund
    return some row.intent

/-- An owned refund consumes its intent and keeps it inside the row; an observed one needs that none
    is staged. Claim intents are not looked at. -/
def commitRefundTransition (transition : RefundTransitionV1) : Except StoreError (ProjectionCommit × Store) := do
  store.requireRole transition.context.localParticipant
  let predecessor := transition.predecessorRevision
  let committed := predecessor + 1
  sqlU64 committed
  let head ← store.validatedJournalHead primitives
  match store.row .refund predecessor with
  | some existing =>
    let before ← store.replayJournal primitives head.agreement predecessor
    match existing.entry with
    | .refund retained durable =>
      ensure (retained.all fun row => row.intent.stagedRevision = row.stagedRevision)
        .invalidZecRecoveryState
      (durable.revalidate head.agreement store.localParticipant before.coordinator predecessor
        (retained.map RefundIntentRow.intent)).mapError .refund
      ensure (existing.committedRevision = committed ∧ committed ≤ head.activeRevision ∧
        durable = transition) .conflictingZecRefundTransition
      return ({ revision := committed, wasReplay := true }, store)
    | _ => throw .payload
  | none =>
    ensure (head.activeRevision = predecessor) .invalidZecRecoveryState
    ensure (transition.owned = store.refundIntent.isSome) .invalidZecRecoveryState
    (transition.revalidate head.agreement store.localParticipant head.state.coordinator predecessor
      (store.refundIntent.map RefundIntentRow.intent)).mapError .refund
    let _ ← (transition.applyTo head.agreement head.state.coordinator predecessor).mapError .refund
    let next := store.commitRow predecessor (.refund store.refundIntent transition)
    return ({ revision := committed, wasReplay := false }, { next with refundIntent := none })

def loadRefundTransition : Except StoreError (Option RefundTransitionV1) := do
  sqlU64 predecessor
  let head ← store.validatedJournalHead primitives
  match store.row .refund predecessor with
  | none => return none
  | some row =>
    ensure (predecessor ≤ head.activeRevision) .invalidZecRecoveryState
    let committed := predecessor + 1
    sqlU64 committed
    ensure (row.committedRevision = committed ∧ committed ≤ head.activeRevision)
      .invalidZecRecoveryState
    let before ← store.replayJournal primitives head.agreement predecessor
    match row.entry with
    | .refund retained transition =>
      ensure (retained.all fun row => row.intent.stagedRevision = row.stagedRevision)
        .invalidZecRecoveryState
      (transition.revalidate head.agreement store.localParticipant before.coordinator predecessor
        (retained.map RefundIntentRow.intent)).mapError .refund
      return some transition
    | _ => throw .payload

end Store

end AtomicSwaps.Zec
