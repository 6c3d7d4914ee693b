import AtomicSwaps.Btc.Policy
import AtomicSwaps.Transition.Durable

namespace AtomicSwaps.Btc

open AtomicSwaps.Core Fallible Durable

section Artifacts

instance : DecidableEq (Participant → Bytes32) := fun left right =>
  decidable_of_iff (left .maker = right .maker ∧ left .taker = right .taker)
    ⟨fun ⟨maker, taker⟩ => funext fun
      | .maker => maker
      | .taker => taker, fun same => by rw [same]; exact ⟨rfl, rfl⟩⟩

deriving instance DecidableEq for BtcAgreementBodyV1

structure BtcPreSessionId where
  offerCommitment : Bytes32
  reservationId : RequestId
  direction : SwapDirection
deriving DecidableEq

structure BtcRoleContributionV1 where
  role : Participant
  preSessionId : BtcPreSessionId
  direction : SwapDirection
  /-- The Bitcoin chain policy and the LEZ chain identity. -/
  (chainIdentity lezOwnerAccount musig2PublicKey bitcoinRefundKey bitcoinFundingKey : Bytes32)
  adaptorPoint : Option Bytes32
  roleEntropy : Bytes32
  expiresAtUnixSeconds : Nat
deriving DecidableEq

/-- The curve, the hashes and the Bitcoin serialization, which the take only calls. -/
structure Primitives extends Derivations where
  publicKey : Bytes32 → Bytes32
  jointSwapId : BtcRoleContributionV1 → BtcRoleContributionV1 → Bytes32
  aggregateInternalKey : Bytes32 → Bytes32 → Bytes32
  agreementCommitment : BtcAgreementBodyV1 → Bytes32
  transactionId : String → Bytes32

/-- A body both roles signed; the Taker's signature carries fresh randomness, the Maker's does not. -/
structure BtcAgreementV1 where
  body : BtcAgreementBodyV1
  takerSignature : Bytes32
deriving DecidableEq

structure PrepareWitnessedClaimResult where
  runId : String
  sidecarRole : Participant
  (requestId messageHash : Bytes32)
deriving DecidableEq

structure WitnessedNativeEscrowTerms where
  (swapId termsHash : Bytes32)
  depositor : Participant
  aggregateAuthorityAccount : Bytes32
  (amount refundAtMs : Nat)
deriving DecidableEq

structure PreparedEscrow where
  requestId : Bytes32
  terms : WitnessedNativeEscrowTerms
  (initialization funding : Bytes32)
deriving DecidableEq

def agreementTerms (primitives : Primitives) (agreement : BtcAgreementV1) : WitnessedNativeEscrowTerms where
  swapId := agreement.body.swapId
  termsHash := primitives.agreementCommitment agreement.body
  depositor := lezDepositor agreement.body.direction
  aggregateAuthorityAccount := agreement.body.lez.aggregateAuthorityAccount
  amount := agreement.body.lez.amount
  refundAtMs := agreement.body.lez.refundAtMs

def lezClaimant (direction : SwapDirection) : Participant := (lezDepositor direction).other

end Artifacts

inductive LifecycleError
  | alreadyHoldsDifferentContent
  | missingFile
  | missingDirectory
  | directoryExists
  | outputRootExists
  | contributionsDoNotPair
  | agreementSubstituted
  | roleAuthorityDiffers
  | bindingReplayChanged
  | contributionExpired
  | sidecarRunIdDiffers
  | activeWitnessedClaimPrepare
  | activeWitnessedEscrowPrepare
  | sessionUnavailable
  | journalCrosswire
  | foreignPacket
  | sessionConflict
  | invalidPhase
  | cryptographicValidation
  | presignatureUnavailable
  | activationMaterialUnavailable
  | agreementBindingInvalid
  | stateUnavailable
  | unknownReservation
  | reservationExists
  | differentRequestCompletedRound
  | offerDoesNotMatch
  | planRefused (error : PlanError)
  | escrowSlotOwed
  | takerContributionNotBound
  | draftNotBound
  | draftRefused (error : DraftError)
  | offerUnavailable
  | negotiationUnavailable
  | completionChanged
  | otherSessionIds
  | preparedClaimDiffers
  | ceremonyNotReserved
  | registrationConflict
  | offerNotLive
  | makerAnswerChanged
  | fundingDiffers
  | draftInvalid
  | makerDidNotActivate
  | presignaturesDiverged
  | notActive
  | notThisRole
  | otherTransactionReported
  | previousLockNotIncluded (last : Option UInt64) (target : UInt64)

section Sessions

inductive BtcAdaptorSessionDomain
  | bitcoin | lez
deriving DecidableEq

structure ValidatedSession where
  sessionId : Bytes32
  domain : BtcAdaptorSessionDomain
  agreement : BtcAgreementBodyV1
deriving DecidableEq

structure AdaptorNonceCommitment where
  session : ValidatedSession
  signer : Participant
  publicNonce : Bytes32
deriving DecidableEq

structure AdaptorPartialSignature where
  session : ValidatedSession
  signer : Participant
  (makerNonce takerNonce : Bytes32)
deriving DecidableEq

structure AdaptorPresignature where
  session : ValidatedSession
  (makerNonce takerNonce : Bytes32)
deriving DecidableEq

/-- A row of a signing journal; its phase is told by the columns that are filled. -/
structure PersistedSession where
  session : ValidatedSession
  localRole : Participant
  ownPublicNonce : Bytes32
  peerCommitment : Option AdaptorNonceCommitment
  peerPublicNonce : Option Bytes32
  (ownPartial peerPartial : Option AdaptorPartialSignature)
  presignature : Option AdaptorPresignature

abbrev SigningJournal := List PersistedSession

def SigningJournal.load (journal : SigningJournal) (sessionId : Bytes32) : Option PersistedSession :=
  journal.find? (·.session.sessionId = sessionId)

def SigningJournal.update (journal : SigningJournal) (sessionId : Bytes32)
    (change : PersistedSession → PersistedSession) : SigningJournal :=
  journal.map fun row => if row.session.sessionId = sessionId then change row else row

structure Packet (Payload : Type) where
  sender : Participant
  session : ValidatedSession
  payload : Payload
deriving DecidableEq

structure LegPackets (Payload : Type) where
  (bitcoin lez : Packet Payload)
deriving DecidableEq

/-- Aggregate packets name their session and no sender, so both roles hold the same ones. -/
structure LegPresignatures where
  (bitcoin lez : AdaptorPresignature)
deriving DecidableEq

def LegSessions.validated (sessions : LegSessions) (agreement : BtcAgreementV1) :
    BtcAdaptorSessionDomain → ValidatedSession
  | .bitcoin => ⟨sessions.bitcoin, .bitcoin, agreement.body⟩
  | .lez => ⟨sessions.lez, .lez, agreement.body⟩

end Sessions

section Directory

/-- The preflight role root: contribution, private keys, bound agreement. -/
structure RoleRoot where
  /-- Of the root and its private directory, in the order of creation. -/
  directories : Nat := 0
  agreementKey : Option Bytes32 := none
  refundKey : Option Bytes32 := none
  claimKey : Option Bytes32 := none
  fundingKey : Option Bytes32 := none
  adaptor : Option Bytes32 := none
  contribution : Option BtcRoleContributionV1 := none
  summary : Bool := false
  binding : Option (BtcAgreementV1 × Nat) := none
  peerContribution : Option BtcRoleContributionV1 := none
  agreement : Option BtcAgreementV1 := none

structure SidecarRecordV1 where
  runId : String
  port : Nat
deriving DecidableEq

/-- The sidecar's files, and the two reservations its own state directory holds. -/
structure SidecarFiles where
  capability : Option Bytes32 := none
  stateDirectory : Bool := false
  record : Option SidecarRecordV1 := none
  claim : Option PrepareWitnessedClaimResult := none
  escrow : Option PreparedEscrow := none

inductive MakerLock
  | bitcoin | lez
deriving DecidableEq

structure ActorConfig where
  role : Participant
  agreement : BtcAgreementV1
  acceptedAtUnixSeconds : Nat
  sidecar : SidecarRecordV1
  discoveryStartHeight : Nat
  sessions : LegSessions
  makerLock : Option MakerLock
deriving DecidableEq

/-- What the actor's state database accepted, and how far its coordinator has come. -/
structure ActorState where
  agreement : BtcAgreementV1
  acceptedAtUnixSeconds : Nat
  phase : Phase
  revision : Nat

structure ActorFiles where
  refundKey : Option Bytes32 := none
  adaptorSecret : Option Bytes32 := none
  config : Option ActorConfig := none
  state : Option ActorState := none

/-- Everything one role keeps for one swap; `own` holds what only this role keeps. -/
structure SwapDirectory (Own : Type) where
  /-- Of the swap's root, journals, lez, bitcoin and actor, in the order of creation. -/
  directories : Nat := 0
  role : RoleRoot := {}
  sidecar : SidecarFiles := {}
  fundingPlan : Option FundingPlan := none
  fundingTransaction : Option String := none
  preparedClaim : Option PrepareWitnessedClaimResult := none
  escrowRequest : Option PreparedEscrow := none
  escrowResult : Option PreparedEscrow := none
  bitcoinJournal : SigningJournal := []
  lezJournal : SigningJournal := []
  actor : ActorFiles := {}
  own : Own

end Directory

namespace SwapDirectory

variable {Own : Type}

abbrev Work (Own : Type) := Durable (SwapDirectory Own) LifecycleError

def existsOnDisk (directory : SwapDirectory Own) : Prop := 0 < directory.directories

instance (directory : SwapDirectory Own) : Decidable directory.existsOnDisk :=
  inferInstanceAs (Decidable (0 < _))

def present {α : Type} (value : Option α) (error : LifecycleError) : Except LifecycleError α :=
  match value with
  | some found => .ok found
  | none => .error error

@[simp] theorem present_ok_iff {α : Type} {value : Option α} {error : LifecycleError} {found : α} :
    present value error = .ok found ↔ value = some found := by
  cases value with
  | none => simp [present]
  | some held => simp [present]

inductive SwapPart
  | root | journals | lez | bitcoin | actor

/-- The directories that stand once this part does; every writer has found or made the root. -/
def SwapPart.order : SwapPart → Nat
  | .root => 0
  | .journals => 2
  | .lez => 3
  | .bitcoin => 4
  | .actor => 5

def hasPart (directory : SwapDirectory Own) (part : SwapPart) : Prop := part.order ≤ directory.directories

instance (directory : SwapDirectory Own) (part : SwapPart) : Decidable (directory.hasPart part) :=
  inferInstanceAs (Decidable (_ ≤ _))

def writePrivateExact {α : Type} [DecidableEq α] (part : SwapPart) (file : SwapDirectory Own → Option α)
    (write : α → SwapDirectory Own → SwapDirectory Own) (content : α) : Work Own Unit := do
  let directory ← read
  match file directory with
  | some existing => check (ensure (existing = content) .alreadyHoldsDifferentContent)
  | none =>
    check (ensure (directory.hasPart part) .missingDirectory)
    commit (write content)

def swapDirectories : Nat := 5

/-- The root and its four parts are made one by one; a root that exists is not made again. -/
def create : Work Own Unit := do
  let directory ← read
  check (ensure (¬directory.existsOnDisk) .directoryExists)
  commit fun directory => { directory with directories := 1 }
  commit fun directory => { directory with directories := 2 }
  commit fun directory => { directory with directories := 3 }
  commit fun directory => { directory with directories := 4 }
  commit fun directory => { directory with directories := swapDirectories }

def setRole (change : RoleRoot → RoleRoot) (directory : SwapDirectory Own) : SwapDirectory Own :=
  { directory with role := change directory.role }

def setSidecar (change : SidecarFiles → SidecarFiles) (directory : SwapDirectory Own) : SwapDirectory Own :=
  { directory with sidecar := change directory.sidecar }

def setActor (change : ActorFiles → ActorFiles) (directory : SwapDirectory Own) : SwapDirectory Own :=
  { directory with actor := change directory.actor }

section Bootstrap

/-- The fresh scalars of one role root; the Maker brings its own agreement key. -/
structure RoleSecrets where
  (agreement refund : Bytes32)
  claim : Option Bytes32
  funding : Bytes32
  adaptor : Option Bytes32
  entropy : Bytes32

structure RoleBootstrapInput where
  role : Participant
  preSessionId : BtcPreSessionId
  (chainIdentity lezOwnerAccount : Bytes32)
  expiresAtUnixSeconds : Nat

def contributionOf (primitives : Primitives) (input : RoleBootstrapInput) (secrets : RoleSecrets) :
    BtcRoleContributionV1 where
  role := input.role
  preSessionId := input.preSessionId
  direction := input.preSessionId.direction
  chainIdentity := input.chainIdentity
  lezOwnerAccount := input.lezOwnerAccount
  musig2PublicKey := primitives.publicKey secrets.agreement
  bitcoinRefundKey := primitives.publicKey secrets.refund
  bitcoinFundingKey := primitives.publicKey secrets.funding
  adaptorPoint := secrets.adaptor.map primitives.publicKey
  roleEntropy := secrets.entropy
  expiresAtUnixSeconds := input.expiresAtUnixSeconds

/-- A file of an optional scalar is written only where there is one. -/
def writeOptional (secret : Option Bytes32) (write : Bytes32 → RoleRoot → RoleRoot) : Work Own Unit :=
  match secret with
  | some scalar => commit (setRole (write scalar))
  | none => pure ()

def bootstrapRoleInProcess (primitives : Primitives) (input : RoleBootstrapInput)
    (secrets : RoleSecrets) : Work Own BtcRoleContributionV1 := do
  let directory ← read
  check (ensure (directory.role.directories = 0) .outputRootExists)
  let contribution := contributionOf primitives input secrets
  commit (setRole fun role => { role with directories := 1 })
  commit (setRole fun role => { role with directories := 2 })
  commit (setRole fun role => { role with agreementKey := some secrets.agreement })
  commit (setRole fun role => { role with refundKey := some secrets.refund })
  writeOptional secrets.claim fun scalar role => { role with claimKey := some scalar }
  commit (setRole fun role => { role with fundingKey := some secrets.funding })
  writeOptional secrets.adaptor fun scalar role => { role with adaptor := some scalar }
  commit (setRole fun role => { role with contribution := some contribution })
  commit (setRole fun role => { role with summary := true })
  return contribution

end Bootstrap

section Binding

structure ContributionPair where
  (maker taker : BtcRoleContributionV1)

def ContributionPair.new (maker taker : BtcRoleContributionV1) : Except LifecycleError ContributionPair := do
  ensure (maker.role = .maker ∧ taker.role = .taker ∧ maker.preSessionId = taker.preSessionId ∧
    maker.direction = taker.direction ∧ maker.chainIdentity = taker.chainIdentity ∧
    maker.expiresAtUnixSeconds = taker.expiresAtUnixSeconds ∧
    maker.musig2PublicKey ≠ taker.musig2PublicKey ∧ maker.lezOwnerAccount ≠ taker.lezOwnerAccount ∧
    maker.bitcoinFundingKey ≠ taker.bitcoinFundingKey ∧ maker.roleEntropy ≠ taker.roleEntropy)
    .contributionsDoNotPair
  return ⟨maker, taker⟩

variable (primitives : Primitives) (pair : ContributionPair)

def ContributionPair.swapId : Bytes32 :=
  primitives.jointSwapId pair.maker pair.taker

def ContributionPair.aggregate : Bytes32 :=
  primitives.aggregateInternalKey pair.maker.musig2PublicKey pair.taker.musig2PublicKey

def ContributionPair.refundKey : Participant → Bytes32
  | .maker => pair.maker.bitcoinRefundKey
  | .taker => pair.taker.bitcoinRefundKey

def ContributionPair.bodyFields (body : BtcAgreementBodyV1) : Prop :=
  body.swapId = pair.swapId primitives ∧ body.direction = pair.maker.direction ∧
    body.aggregateInternalKey = pair.aggregate primitives ∧ body.bitcoinRefundKey = pair.refundKey

instance (primitives : Primitives) (pair : ContributionPair) (body : BtcAgreementBodyV1) :
    Decidable (pair.bodyFields primitives body) :=
  inferInstanceAs (Decidable (_ ∧ _ ∧ _ ∧ _))

/-- The role's private files answer for the contribution it signed. -/
def authorityMatches (role : RoleRoot) (contribution : BtcRoleContributionV1) : Prop :=
  role.agreementKey.map primitives.publicKey = some contribution.musig2PublicKey ∧
    role.refundKey.map primitives.publicKey = some contribution.bitcoinRefundKey ∧
    role.fundingKey.map primitives.publicKey = some contribution.bitcoinFundingKey ∧
    role.adaptor.map primitives.publicKey = contribution.adaptorPoint

instance (primitives : Primitives) (role : RoleRoot) (contribution : BtcRoleContributionV1) :
    Decidable (authorityMatches primitives role contribution) :=
  inferInstanceAs (Decidable (_ ∧ _ ∧ _ ∧ _))

/-- The checks before the inactive receipt is published, and the acceptance time it is published with. -/
def prepareAgreementBinding (role : RoleRoot) (peer : BtcRoleContributionV1)
    (agreement : BtcAgreementV1) (acceptedAt : Nat) : Except LifecycleError (Bool × Nat) := do
  let contribution ← present role.contribution .missingFile
  let pair ← match contribution.role with
    | .maker => ContributionPair.new contribution peer
    | .taker => ContributionPair.new peer contribution
  ensure (pair.bodyFields primitives agreement.body) .agreementSubstituted
  ensure (authorityMatches primitives role contribution) .roleAuthorityDiffers
  match role.binding with
  | some (bound, boundAt) =>
    ensure (bound = agreement) .bindingReplayChanged
    return (true, boundAt)
  | none =>
    ensure (acceptedAt ≠ 0 ∧ acceptedAt < contribution.expiresAtUnixSeconds) .contributionExpired
    return (false, acceptedAt)

/-- The receipt comes first; a replay of the same agreement restores the two files behind it. -/
def persistAndBindCountersignedAgreement (peer : BtcRoleContributionV1)
    (agreement : BtcAgreementV1) (acceptedAt : Nat) : Work Own Nat := do
  let directory ← read
  let (replayed, boundAt) ← check
    (prepareAgreementBinding primitives directory.role peer agreement acceptedAt)
  onlyIf (replayed = false)
    (commit (setRole fun role => { role with binding := some (agreement, boundAt) }))
  writePrivateExact .root (·.role.peerContribution)
    (fun wire => setRole fun role => { role with peerContribution := some wire }) peer
  writePrivateExact .root (·.role.agreement)
    (fun wire => setRole fun role => { role with agreement := some wire }) agreement
  return boundAt

end Binding

section Sidecar

structure SidecarDraw where
  port : Nat
  capability : Bytes32

def ensureSidecar (runId : String) (draw : SidecarDraw) : Work Own SidecarRecordV1 := do
  let directory ← read
  match directory.sidecar.record with
  | some record =>
    check (ensure (record.runId = runId) .sidecarRunIdDiffers)
    return record
  | none =>
    -- A capability left by an interrupted start never equals the fresh one.
    writePrivateExact .root (·.sidecar.capability)
      (fun capability => setSidecar fun files => { files with capability := some capability })
      draw.capability
    let started ← read
    check (ensure (started.sidecar.stateDirectory = false) .directoryExists)
    commit (setSidecar fun files => { files with stateDirectory := true })
    commit (setSidecar fun files => { files with record := some ⟨runId, draw.port⟩ })
    return ⟨runId, draw.port⟩

/-- The sidecar keeps one claim reservation and answers only the request it was made for. -/
def prepareClaim (answer : PrepareWitnessedClaimResult) : Work Own PrepareWitnessedClaimResult := do
  let directory ← read
  match directory.sidecar.claim with
  | some reserved =>
    check (ensure (reserved.requestId = answer.requestId) .activeWitnessedClaimPrepare)
    return reserved
  | none =>
    commit (setSidecar fun files => { files with claim := some answer })
    return answer

/-- Likewise for the escrow, whose nonce pair is reserved with it. -/
def prepareEscrow (answer : PreparedEscrow) : Work Own PreparedEscrow := do
  let directory ← read
  match directory.sidecar.escrow with
  | some reserved =>
    check (ensure (reserved.requestId = answer.requestId ∧ reserved.terms = answer.terms)
      .activeWitnessedEscrowPrepare)
    return reserved
  | none =>
    commit (setSidecar fun files => { files with escrow := some answer })
    return answer

def storeEscrow (escrow : PreparedEscrow) : Work Own Unit := do
  writePrivateExact .lez (·.escrowRequest)
    (fun request directory => { directory with escrowRequest := some request }) escrow
  writePrivateExact .lez (·.escrowResult)
    (fun result directory => { directory with escrowResult := some result }) escrow

end Sidecar

section Seats

def journal (directory : SwapDirectory Own) : BtcAdaptorSessionDomain → SigningJournal
  | .bitcoin => directory.bitcoinJournal
  | .lez => directory.lezJournal

def setJournal (domain : BtcAdaptorSessionDomain) (change : SigningJournal → SigningJournal)
    (directory : SwapDirectory Own) : SwapDirectory Own :=
  match domain with
  | .bitcoin => { directory with bitcoinJournal := change directory.bitcoinJournal }
  | .lez => { directory with lezJournal := change directory.lezJournal }

structure CeremonySeat where
  session : ValidatedSession
  role : Participant

namespace CeremonySeat

variable (seat : CeremonySeat)

def snapshot : Work Own (Option PersistedSession) := do
  let directory ← read
  match (directory.journal seat.session.domain).load seat.session.sessionId with
  | none => return none
  | some row =>
    check (ensure (row.session = seat.session ∧ row.localRole = seat.role) .journalCrosswire)
    return some row

def requiredSnapshot : Work Own PersistedSession := do
  let row ← seat.snapshot
  check (present row .sessionUnavailable)

def record (change : PersistedSession → PersistedSession) : Work Own Unit :=
  commit (setJournal seat.session.domain (·.update seat.session.sessionId change))

def packet {Payload : Type} (payload : Payload) : Packet Payload := ⟨seat.role, seat.session, payload⟩

def peerPayload {Payload : Type} (packet : Packet Payload) : Except LifecycleError Payload := do
  ensure (packet.sender = seat.role.other ∧ packet.session = seat.session) .foreignPacket
  return packet.payload

def fresh (nonce : Bytes32) : PersistedSession :=
  ⟨seat.session, seat.role, nonce, none, none, none, none, none⟩

def commitment (row : PersistedSession) : AdaptorNonceCommitment :=
  ⟨seat.session, seat.role, row.ownPublicNonce⟩

/-- A replay answers with the commitment of the nonce that was reserved first. -/
def reserve (nonce : Bytes32) : Work Own (Packet AdaptorNonceCommitment) := do
  match ← seat.snapshot with
  | some row => return seat.packet (seat.commitment row)
  | none =>
    load fun directory => ensure (directory.hasPart .journals) .missingDirectory
    commit (setJournal seat.session.domain (· ++ [seat.fresh nonce]))
    return seat.packet (seat.commitment (seat.fresh nonce))

def recordOnce {α : Type} [DecidableEq α] (durable : Option α) (value : α)
    (change : PersistedSession → PersistedSession) : Work Own Unit :=
  match durable with
  | some existing => check (ensure (existing = value) .sessionConflict)
  | none => seat.record change

def acceptCommitment (packet : Packet AdaptorNonceCommitment) : Work Own Unit := do
  let row ← seat.requiredSnapshot
  let commitment ← check (seat.peerPayload packet)
  seat.recordOnce row.peerCommitment commitment fun row => { row with peerCommitment := some commitment }

def revealNonce : Work Own (Packet Bytes32) := do
  let row ← seat.requiredSnapshot
  check (ensure row.peerCommitment.isSome .invalidPhase)
  return seat.packet row.ownPublicNonce

def nonces (own peer : Bytes32) : Bytes32 × Bytes32 :=
  match seat.role with
  | .maker => (own, peer)
  | .taker => (peer, own)

def partialOf (signer : Participant) (own peer : Bytes32) : AdaptorPartialSignature :=
  ⟨seat.session, signer, (seat.nonces own peer).1, (seat.nonces own peer).2⟩

def presignatureOf (own peer : Bytes32) : AdaptorPresignature :=
  ⟨seat.session, (seat.nonces own peer).1, (seat.nonces own peer).2⟩

def signPartial : Work Own (Packet AdaptorPartialSignature) := do
  let ready ← seat.requiredSnapshot
  match ready.ownPartial with
  | some durable => return seat.packet durable
  | none =>
    let peer ← check (present ready.peerPublicNonce .invalidPhase)
    let signed := seat.partialOf seat.role ready.ownPublicNonce peer
    seat.record fun row => { row with ownPartial := some signed }
    return seat.packet signed

def acceptNonceSign (packet : Packet Bytes32) : Work Own (Packet AdaptorPartialSignature) := do
  let nonce ← check (seat.peerPayload packet)
  let before ← seat.requiredSnapshot
  let committed ← check (present before.peerCommitment .invalidPhase)
  check (ensure (committed = ⟨seat.session, seat.role.other, nonce⟩) .cryptographicValidation)
  seat.recordOnce before.peerPublicNonce nonce fun row => { row with peerPublicNonce := some nonce }
  seat.signPartial

def acceptPeerPartial (packet : Packet AdaptorPartialSignature) : Work Own AdaptorPresignature := do
  let peerPartial ← check (seat.peerPayload packet)
  let row ← seat.requiredSnapshot
  let peer ← check (present row.peerPublicNonce .invalidPhase)
  check (ensure row.ownPartial.isSome .invalidPhase)
  check (ensure (peerPartial = seat.partialOf seat.role.other row.ownPublicNonce peer)
    .cryptographicValidation)
  let presignature := seat.presignatureOf row.ownPublicNonce peer
  seat.recordOnce row.peerPartial peerPartial fun row => { row with peerPartial := some peerPartial }
  seat.recordOnce row.presignature presignature fun row => { row with presignature := some presignature }
  return presignature

end CeremonySeat

end Seats

section Actor

structure ActorSynthesis where
  role : Participant
  agreement : BtcAgreementV1
  sidecar : SidecarRecordV1
  sessions : LegSessions
  (acceptedAtUnixSeconds discoveryStartHeight : Nat)
  preparedClaim : PrepareWitnessedClaimResult
  /-- The Maker's signed funding transaction, where its lock is on Bitcoin. -/
  fundingTransaction : Option String

variable (input : ActorSynthesis)

def ActorSynthesis.makerLock : Option MakerLock :=
  match input.role, input.agreement.body.direction with
  | .taker, _ => none
  | .maker, .takerSellsLez => some .bitcoin
  | .maker, .takerSellsForeign => some .lez

def ActorSynthesis.config : ActorConfig where
  role := input.role
  agreement := input.agreement
  acceptedAtUnixSeconds := input.acceptedAtUnixSeconds
  sidecar := input.sidecar
  discoveryStartHeight := input.discoveryStartHeight
  sessions := input.sessions
  makerLock := input.makerLock

def copySecret (secret : RoleRoot → Option Bytes32) (file : ActorFiles → Option Bytes32)
    (write : Bytes32 → ActorFiles → ActorFiles) : Work Own Unit := do
  let directory ← read
  let scalar ← check (present (secret directory.role) .missingFile)
  writePrivateExact .actor (fun directory => file directory.actor)
    (fun scalar => setActor (write scalar)) scalar

def writeFundingTransaction (transaction : Option String) : Work Own Unit :=
  match transaction with
  | some hex =>
    writePrivateExact .bitcoin (·.fundingTransaction)
      (fun hex directory => { directory with fundingTransaction := some hex }) hex
  | none => pure ()

def copyRoleSecrets : Work Own Unit := do
  onlyIf (bitcoinFunder input.agreement.body.direction = input.role)
    (copySecret (·.refundKey) (·.refundKey) fun scalar files => { files with refundKey := some scalar })
  onlyIf (input.role = .taker)
    (copySecret (·.adaptor) (·.adaptorSecret)
      fun scalar files => { files with adaptorSecret := some scalar })

/-- Writes the actor's bundle: secrets, prepared material, configuration. The agreement's signers are
    those of the two contributions it binds. -/
def synthesize (primitives : Primitives) (input : ActorSynthesis) : Work Own ActorConfig := do
  let directory ← read
  let contribution ← check (present directory.role.contribution .missingFile)
  check (ensure (directory.role.agreementKey.map primitives.publicKey =
    some contribution.musig2PublicKey) .roleAuthorityDiffers)
  copyRoleSecrets input
  writePrivateExact .lez (·.preparedClaim)
    (fun claim directory => { directory with preparedClaim := some claim }) input.preparedClaim
  writeFundingTransaction input.fundingTransaction
  writePrivateExact .actor (·.actor.config)
    (fun config => setActor fun files => { files with config := some config }) input.config
  return input.config

def holdsPresignature (directory : SwapDirectory Own) (session : ValidatedSession) (role : Participant) : Prop :=
  ∃ row, (directory.journal session.domain).load session.sessionId = some row ∧
    row.session = session ∧ row.localRole = role ∧ row.presignature.isSome

instance (directory : SwapDirectory Own) (session : ValidatedSession) (role : Participant) :
    Decidable (directory.holdsPresignature session role) :=
  match loaded : (directory.journal session.domain).load session.sessionId with
  | none => .isFalse fun ⟨_, found, _⟩ => nomatch loaded.symm.trans found
  | some row =>
    decidable_of_iff (row.session = session ∧ row.localRole = role ∧ row.presignature.isSome)
      ⟨fun held => ⟨row, loaded, held⟩, fun ⟨_, found, held⟩ => by
        cases loaded.symm.trans found
        exact held⟩

def activate (config : ActorConfig) : Work Own Unit := do
  let directory ← read
  let agreement ← check (present directory.role.agreement .activationMaterialUnavailable)
  check (ensure (agreement = config.agreement) .agreementBindingInvalid)
  check (ensure (directory.preparedClaim.map (·.messageHash) =
    some agreement.body.lez.claimMessageHash) .activationMaterialUnavailable)
  check (ensure
    (directory.holdsPresignature (config.sessions.validated agreement .bitcoin) config.role ∧
      directory.holdsPresignature (config.sessions.validated agreement .lez) config.role)
    .activationMaterialUnavailable)
  match directory.actor.state with
  | some state => check (ensure (state.agreement = agreement ∧
      state.acceptedAtUnixSeconds = config.acceptedAtUnixSeconds) .stateUnavailable)
  | none => commit (setActor fun files =>
      { files with state := some ⟨agreement, config.acceptedAtUnixSeconds, .offered, 0⟩ })

end Actor

end SwapDirectory

end AtomicSwaps.Btc
