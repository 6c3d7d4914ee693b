import AtomicSwaps.Core.Types
import AtomicSwaps.Relational.Table
import AtomicSwaps.Transition.Fallible

namespace AtomicSwaps.Store.AdaptorSession

open AtomicSwaps.Core (Bytes32)
open Fallible Relational

abbrev NonceCommitment := Bytes32
abbrev PublicNonce := BitVec 528
abbrev PartialSignature := Bytes32
abbrev Presignature := BitVec 520
abbrev SecretNonceBytes := BitVec 776
abbrev CompressedPoint := BitVec 264

inductive AdaptorSessionRole
  | maker | taker
deriving DecidableEq

structure AdaptorSessionIdentity where
  sessionId : Bytes32
  localRole : AdaptorSessionRole
  (signingDomain exactMessage : Bytes32)
  adaptorPoint : CompressedPoint
  orderedPublicKeys : CompressedPoint × CompressedPoint
deriving DecidableEq

inductive AdaptorSessionJournalError
  | store
  | invalidIdentity
  | missingSession
  | sessionConflict
  | secretNonceReuse
  | invalidPhase
  | corruptSession
  | signingFailed

abbrev Result (α : Type) := Except AdaptorSessionJournalError α

def AdaptorSessionIdentity.validate (identity : AdaptorSessionIdentity) : Result Unit :=
  ensure (identity.orderedPublicKeys.1 ≠ identity.orderedPublicKeys.2) .invalidIdentity

structure AdaptorSessionReservation where
  identity : AdaptorSessionIdentity
  secretNonce : SecretNonceBytes
  ownPublicNonce : PublicNonce
  ownCommitment : NonceCommitment

inductive AdaptorSessionPhase
  | reserved
  | commitmentExchanged
  | noncesExchanged
  | partialPersisted
  | peerPartialVerified
  | presignatureVerified
deriving DecidableEq

structure ReservationCommit where
  phase : AdaptorSessionPhase
  ownCommitment : NonceCommitment
  wasReplay : Bool

structure AdaptorTransitionCommit where
  phase : AdaptorSessionPhase
  wasReplay : Bool

structure PartialSignatureCommit where
  partialSignature : PartialSignature
  wasReplay : Bool

structure AdaptorSessionSnapshot where
  identity : AdaptorSessionIdentity
  phase : AdaptorSessionPhase
  ownCommitment : NonceCommitment
  ownPublicNonce : Option PublicNonce
  peerCommitment : Option NonceCommitment
  peerPublicNonce : Option PublicNonce
  (ownPartial peerPartial : Option PartialSignature)
  presignature : Option Presignature

structure SigningMaterial where
  identity : AdaptorSessionIdentity
  secretNonce : SecretNonceBytes
  (ownPublicNonce peerPublicNonce : PublicNonce)

/-- A row of `adaptor_sessions`. -/
structure PersistedSession where
  identity : AdaptorSessionIdentity
  secretNonce : Option SecretNonceBytes
  secretNonceFingerprint : Bytes32
  ownCommitment : NonceCommitment
  ownPublicNonce : PublicNonce
  peerCommitment : Option NonceCommitment
  peerPublicNonce : Option PublicNonce
  (ownPartial peerPartial : Option PartialSignature)
  presignature : Option Presignature
  phase : AdaptorSessionPhase
deriving DecidableEq

/-- The table's `CHECK` that ties the filled columns to the phase. -/
def PersistedSession.shaped (row : PersistedSession) : Bool :=
  match row.phase with
  | .reserved => row.secretNonce.isSome && row.peerCommitment.isNone && row.peerPublicNonce.isNone &&
      row.ownPartial.isNone && row.peerPartial.isNone && row.presignature.isNone
  | .commitmentExchanged => row.secretNonce.isSome && row.peerCommitment.isSome &&
      row.peerPublicNonce.isNone && row.ownPartial.isNone && row.peerPartial.isNone && row.presignature.isNone
  | .noncesExchanged => row.secretNonce.isSome && row.peerCommitment.isSome && row.peerPublicNonce.isSome &&
      row.ownPartial.isNone && row.peerPartial.isNone && row.presignature.isNone
  | .partialPersisted => row.secretNonce.isNone && row.peerCommitment.isSome && row.peerPublicNonce.isSome &&
      row.ownPartial.isSome && row.peerPartial.isNone && row.presignature.isNone
  | .peerPartialVerified => row.secretNonce.isNone && row.peerCommitment.isSome && row.peerPublicNonce.isSome &&
      row.ownPartial.isSome && row.peerPartial.isSome && row.presignature.isNone
  | .presignatureVerified => row.secretNonce.isNone && row.peerCommitment.isSome && row.peerPublicNonce.isSome &&
      row.ownPartial.isSome && row.peerPartial.isSome && row.presignature.isSome

def adaptorSessions : Schema PersistedSession Bytes32 where
  key row := row.identity.sessionId
  check row := row.identity.orderedPublicKeys.1 ≠ row.identity.orderedPublicKeys.2 ∧ row.shaped
  apart row other := row.secretNonceFingerprint ≠ other.secretNonceFingerprint

abbrev Journal := Table adaptorSessions

section Methods

variable (secretNonceFingerprint : SecretNonceBytes → Bytes32)

def PersistedSession.validateIntegrity (row : PersistedSession) : Result Unit := do
  row.identity.validate
  match row.secretNonce, row.phase with
  | some secret, .reserved | some secret, .commitmentExchanged | some secret, .noncesExchanged =>
    ensure (secretNonceFingerprint secret = row.secretNonceFingerprint) .corruptSession
  | none, .partialPersisted | none, .peerPartialVerified | none, .presignatureVerified => .ok ()
  | _, _ => .error .corruptSession

/-- The local public nonce stays hidden until the peer commitment is durable. -/
def PersistedSession.snapshot (row : PersistedSession) : AdaptorSessionSnapshot where
  identity := row.identity
  phase := row.phase
  ownCommitment := row.ownCommitment
  ownPublicNonce := row.peerCommitment.map fun _ => row.ownPublicNonce
  peerCommitment := row.peerCommitment
  peerPublicNonce := row.peerPublicNonce
  ownPartial := row.ownPartial
  peerPartial := row.peerPartial
  presignature := row.presignature

variable (journal : Journal)

def loadSession (sessionId : Bytes32) : Result (Option PersistedSession) :=
  match journal.find? sessionId with
  | none => .ok none
  | some row => do
    row.validateIntegrity secretNonceFingerprint
    return some row

variable (identity : AdaptorSessionIdentity)

def requiredSession : Result PersistedSession := do
  identity.validate
  let session ← required (← loadSession secretNonceFingerprint journal identity.sessionId) .missingSession
  session.validateIntegrity secretNonceFingerprint
  ensure (session.identity = identity) .sessionConflict
  return session

def ensureSingleUpdate (updated : Nat) : Result Unit := ensure (updated = 1) .sessionConflict

def reserve (reservation : AdaptorSessionReservation) : Result (ReservationCommit × Journal) := do
  reservation.identity.validate
  let fingerprint := secretNonceFingerprint reservation.secretNonce
  match ← loadSession secretNonceFingerprint journal reservation.identity.sessionId with
  | some existing =>
    existing.validateIntegrity secretNonceFingerprint
    ensure (existing.identity = reservation.identity ∧ existing.ownPublicNonce = reservation.ownPublicNonce ∧
        existing.ownCommitment = reservation.ownCommitment ∧ existing.secretNonceFingerprint = fingerprint)
      .sessionConflict
    return (⟨existing.phase, existing.ownCommitment, true⟩, journal)
  | none =>
    ensure (¬journal.rows.any (·.secretNonceFingerprint = fingerprint)) .secretNonceReuse
    let journal ← required (journal.insert {
      identity := reservation.identity
      secretNonce := some reservation.secretNonce
      secretNonceFingerprint := fingerprint
      ownCommitment := reservation.ownCommitment
      ownPublicNonce := reservation.ownPublicNonce
      peerCommitment := none
      peerPublicNonce := none
      ownPartial := none
      peerPartial := none
      presignature := none
      phase := .reserved }) .store
    return (⟨.reserved, reservation.ownCommitment, false⟩, journal)

/-- Records a value of the peer once: the same value again is a replay and another one a conflict. -/
def recordOnce {Value : Type} [DecidableEq Value] (journal : Journal) (identity : AdaptorSessionIdentity)
    (column : PersistedSession → Option Value) (value : Value) (ready selected : PersistedSession → Bool)
    (change : PersistedSession → PersistedSession) (phase : AdaptorSessionPhase) :
    Result (AdaptorTransitionCommit × Journal) := do
  let existing ← requiredSession secretNonceFingerprint journal identity
  match column existing with
  | some durable =>
    ensure (durable = value) .sessionConflict
    return (⟨existing.phase, true⟩, journal)
  | none =>
    ensure (ready existing) .invalidPhase
    let (journal, updated) ← required (journal.updateWhere identity.sessionId selected change) .store
    ensureSingleUpdate updated
    return (⟨phase, false⟩, journal)

def recordPeerCommitment (commitment : NonceCommitment) : Result (AdaptorTransitionCommit × Journal) :=
  recordOnce secretNonceFingerprint journal identity (·.peerCommitment) commitment
    (fun existing => existing.phase = .reserved)
    (fun row => row.phase = .reserved ∧ row.peerCommitment.isNone)
    (fun row => { row with peerCommitment := some commitment, phase := .commitmentExchanged })
    .commitmentExchanged

def revealOwnPublicNonce : Result PublicNonce := do
  let existing ← requiredSession secretNonceFingerprint journal identity
  ensure existing.peerCommitment.isSome .invalidPhase
  return existing.ownPublicNonce

def recordVerifiedPeerPublicNonce (publicNonce : PublicNonce) : Result (AdaptorTransitionCommit × Journal) :=
  recordOnce secretNonceFingerprint journal identity (·.peerPublicNonce) publicNonce
    (fun existing => existing.phase = .commitmentExchanged ∧ existing.peerCommitment.isSome)
    (fun row => row.phase = .commitmentExchanged ∧ row.peerCommitment.isSome ∧ row.peerPublicNonce.isNone)
    (fun row => { row with peerPublicNonce := some publicNonce, phase := .noncesExchanged })
    .noncesExchanged

/-- What a signing attempt finds: the partial that is already durable, or what to hand the callback. -/
def prepareSigning : Result (PartialSignature ⊕ SigningMaterial) := do
  let existing ← requiredSession secretNonceFingerprint journal identity
  match existing.ownPartial with
  | some durable => return .inl durable
  | none =>
    ensure (existing.phase = .noncesExchanged) .invalidPhase
    let secretNonce ← required existing.secretNonce .corruptSession
    ensure (secretNonceFingerprint secretNonce = existing.secretNonceFingerprint) .corruptSession
    let peerPublicNonce ← required existing.peerPublicNonce .corruptSession
    return .inr ⟨existing.identity, secretNonce, existing.ownPublicNonce, peerPublicNonce⟩

def signAndPersistPartial (signer : SigningMaterial → Option PartialSignature) :
    Result (PartialSignatureCommit × Journal) := do
  match ← prepareSigning secretNonceFingerprint journal identity with
  | .inl durable => return (⟨durable, true⟩, journal)
  | .inr material =>
    let partialSignature ← required (signer material) .signingFailed
    let (journal, updated) ← required (journal.updateWhere identity.sessionId
      (fun row => row.phase = .noncesExchanged ∧ row.secretNonce.isSome ∧ row.ownPartial.isNone)
      fun row => { row with
        secretNonce := none, ownPartial := some partialSignature, phase := .partialPersisted }) .store
    ensureSingleUpdate updated
    return (⟨partialSignature, false⟩, journal)

def recordVerifiedPeerPartial (partialSignature : PartialSignature) : Result (AdaptorTransitionCommit × Journal) :=
  recordOnce secretNonceFingerprint journal identity (·.peerPartial) partialSignature
    (fun existing => existing.phase = .partialPersisted ∧ existing.ownPartial.isSome)
    (fun row => row.phase = .partialPersisted ∧ row.ownPartial.isSome ∧ row.peerPartial.isNone)
    (fun row => { row with peerPartial := some partialSignature, phase := .peerPartialVerified })
    .peerPartialVerified

def recordVerifiedPresignature (presignature : Presignature) : Result (AdaptorTransitionCommit × Journal) :=
  recordOnce secretNonceFingerprint journal identity (·.presignature) presignature
    (fun existing => existing.phase = .peerPartialVerified ∧ existing.peerPartial.isSome)
    (fun row => row.phase = .peerPartialVerified ∧ row.peerPartial.isSome ∧ row.presignature.isNone)
    (fun row => { row with presignature := some presignature, phase := .presignatureVerified })
    .presignatureVerified

def load (sessionId : Bytes32) : Result (Option AdaptorSessionSnapshot) := do
  match ← loadSession secretNonceFingerprint journal sessionId with
  | none => return none
  | some session =>
    session.validateIntegrity secretNonceFingerprint
    return some session.snapshot

inductive Call
  | reserve (reservation : AdaptorSessionReservation)
  | recordPeerCommitment (identity : AdaptorSessionIdentity) (commitment : NonceCommitment)
  | revealOwnPublicNonce (identity : AdaptorSessionIdentity)
  | recordVerifiedPeerPublicNonce (identity : AdaptorSessionIdentity) (publicNonce : PublicNonce)
  | signAndPersistPartial (identity : AdaptorSessionIdentity) (signer : SigningMaterial → Option PartialSignature)
  | recordVerifiedPeerPartial (identity : AdaptorSessionIdentity) (partialSignature : PartialSignature)
  | recordVerifiedPresignature (identity : AdaptorSessionIdentity) (presignature : Presignature)
  | load (sessionId : Bytes32)

inductive Reply
  | reservation (commit : ReservationCommit)
  | transition (commit : AdaptorTransitionCommit)
  | publicNonce (nonce : PublicNonce)
  | partialSignature (commit : PartialSignatureCommit)
  | snapshot (session : Option AdaptorSessionSnapshot)

def perform (call : Call) : Result (Reply × Journal) :=
  match call with
  | .reserve reservation => do
    let (commit, journal) ← reserve secretNonceFingerprint journal reservation
    return (.reservation commit, journal)
  | .recordPeerCommitment identity commitment => do
    let (commit, journal) ← recordPeerCommitment secretNonceFingerprint journal identity commitment
    return (.transition commit, journal)
  | .revealOwnPublicNonce identity => do
    return (.publicNonce (← revealOwnPublicNonce secretNonceFingerprint journal identity), journal)
  | .recordVerifiedPeerPublicNonce identity publicNonce => do
    let (commit, journal) ← recordVerifiedPeerPublicNonce secretNonceFingerprint journal identity publicNonce
    return (.transition commit, journal)
  | .signAndPersistPartial identity signer => do
    let (commit, journal) ← signAndPersistPartial secretNonceFingerprint journal identity signer
    return (.partialSignature commit, journal)
  | .recordVerifiedPeerPartial identity partialSignature => do
    let (commit, journal) ← recordVerifiedPeerPartial secretNonceFingerprint journal identity partialSignature
    return (.transition commit, journal)
  | .recordVerifiedPresignature identity presignature => do
    let (commit, journal) ← recordVerifiedPresignature secretNonceFingerprint journal identity presignature
    return (.transition commit, journal)
  | .load sessionId => do
    return (.snapshot (← load secretNonceFingerprint journal sessionId), journal)

/-- What a call hands to its signing callback before it can commit anything. -/
def Call.invokes : Call → Option SigningMaterial
  | .signAndPersistPartial identity _ =>
    match prepareSigning secretNonceFingerprint journal identity with
    | .ok (.inr material) => some material
    | _ => none
  | _ => none

/-- One call of some process: its answer, if the process lived to get one, and what its signing callback
    received. -/
structure Event where
  call : Call
  reply : Option (Result Reply)
  signed : Option SigningMaterial

inductive Step (journal : Journal) : Event → Journal → Prop
  | committed {call : Call} {reply : Reply} {next : Journal}
      (performed : perform secretNonceFingerprint journal call = .ok (reply, next)) :
      Step journal ⟨call, some (.ok reply), call.invokes secretNonceFingerprint journal⟩ next
  | refused {call : Call} {error : AdaptorSessionJournalError}
      (performed : perform secretNonceFingerprint journal call = .error error) :
      Step journal ⟨call, some (.error error), call.invokes secretNonceFingerprint journal⟩ journal
  -- The process ends before the commit, before or after its callback ran.
  | crashed {call : Call} {signed : Option SigningMaterial}
      (before : signed = none ∨ signed = call.invokes secretNonceFingerprint journal) :
      Step journal ⟨call, none, signed⟩ journal
  | unanswered {call : Call} {reply : Reply} {next : Journal}
      (performed : perform secretNonceFingerprint journal call = .ok (reply, next)) :
      Step journal ⟨call, none, call.invokes secretNonceFingerprint journal⟩ next

end Methods

end AtomicSwaps.Store.AdaptorSession
