import AtomicSwaps.Store.AdaptorSession
import AtomicSwaps.Transition.Run

namespace AtomicSwaps.Store.AdaptorSession

open AtomicSwaps.Core (Bytes32)
open Fallible Relational Transition AdaptorSessionPhase

def AdaptorSessionPhase.rank : AdaptorSessionPhase → Nat
  | .reserved => 0
  | .commitmentExchanged => 1
  | .noncesExchanged => 2
  | .partialPersisted => 3
  | .peerPartialVerified => 4
  | .presignatureVerified => 5

theorem AdaptorSessionPhase.rank_le {phase before after : AdaptorSessionPhase} (current : phase = before)
    (below : before.rank ≤ after.rank) : phase.rank ≤ after.rank :=
  current ▸ below

def Kept {Value : Type} (old new : Option Value) : Prop := ∀ value, old = some value → new = some value

theorem Kept.refl {Value : Type} (old : Option Value) : Kept old old := fun _ held => held

theorem Kept.trans {Value : Type} {first second third : Option Value} (early : Kept first second)
    (late : Kept second third) : Kept first third :=
  fun value held => late value (early value held)

theorem Kept.of_isNone {Value : Type} {old new : Option Value} (empty : old.isNone) : Kept old new := by
  intro value held
  rw [held] at empty
  cases empty

/-- What a later row of one session can be: every recorded value is still there, and the secret nonce is at
    most erased. -/
structure Advances (old new : PersistedSession) : Prop where
  identity : new.identity = old.identity
  fingerprint : new.secretNonceFingerprint = old.secretNonceFingerprint
  ownCommitment : new.ownCommitment = old.ownCommitment
  ownPublicNonce : new.ownPublicNonce = old.ownPublicNonce
  secretNonce : Kept new.secretNonce old.secretNonce
  peerCommitment : Kept old.peerCommitment new.peerCommitment
  peerPublicNonce : Kept old.peerPublicNonce new.peerPublicNonce
  ownPartial : Kept old.ownPartial new.ownPartial
  peerPartial : Kept old.peerPartial new.peerPartial
  presignature : Kept old.presignature new.presignature
  phase : old.phase.rank ≤ new.phase.rank

theorem Advances.refl (row : PersistedSession) : Advances row row :=
  ⟨rfl, rfl, rfl, rfl, .refl _, .refl _, .refl _, .refl _, .refl _, .refl _, Nat.le_refl _⟩

theorem Advances.trans {first second third : PersistedSession} (early : Advances first second)
    (late : Advances second third) : Advances first third where
  identity := late.identity.trans early.identity
  fingerprint := late.fingerprint.trans early.fingerprint
  ownCommitment := late.ownCommitment.trans early.ownCommitment
  ownPublicNonce := late.ownPublicNonce.trans early.ownPublicNonce
  secretNonce := late.secretNonce.trans early.secretNonce
  peerCommitment := early.peerCommitment.trans late.peerCommitment
  peerPublicNonce := early.peerPublicNonce.trans late.peerPublicNonce
  ownPartial := early.ownPartial.trans late.ownPartial
  peerPartial := early.peerPartial.trans late.peerPartial
  presignature := early.presignature.trans late.presignature
  phase := Nat.le_trans early.phase late.phase

def Evolves (journal next : Journal) : Prop :=
  ∀ sessionId row, journal.find? sessionId = some row →
    ∃ later, next.find? sessionId = some later ∧ Advances row later

theorem Evolves.refl (journal : Journal) : Evolves journal journal :=
  fun _ row found => ⟨row, found, .refl row⟩

theorem Evolves.trans {first second third : Journal} (early : Evolves first second)
    (late : Evolves second third) : Evolves first third := by
  intro sessionId row found
  obtain ⟨middle, foundMiddle, advances⟩ := early sessionId row found
  obtain ⟨later, foundLater, advancesLater⟩ := late sessionId middle foundMiddle
  exact ⟨later, foundLater, advances.trans advancesLater⟩

section Methods

variable {fingerprint : SecretNonceBytes → Bytes32} {journal next : Journal} {identity : AdaptorSessionIdentity}
  {row : PersistedSession} {sessionId : Bytes32}

/-- The fingerprint column tells the secret nonce that is stored beside it. -/
def Journal.Sound (fingerprint : SecretNonceBytes → Bytes32) (journal : Journal) : Prop :=
  ∀ sessionId row, journal.find? sessionId = some row →
    ∀ secret, row.secretNonce = some secret → fingerprint secret = row.secretNonceFingerprint

theorem find?_shaped (found : journal.find? sessionId = some row) :
    row.identity.orderedPublicKeys.1 ≠ row.identity.orderedPublicKeys.2 ∧ row.shaped = true :=
  of_decide_eq_true (Table.find?_check found)

section Sound

variable (sound : journal.Sound fingerprint) {material : SigningMaterial} {event : Event}
  {change : PersistedSession → PersistedSession} {commit : AdaptorTransitionCommit}
  {session : AdaptorSessionSnapshot} {phase : AdaptorSessionPhase} {call : Call} {reply : Reply}
include sound

theorem validateIntegrity_ok (found : journal.find? sessionId = some row) :
    row.validateIntegrity fingerprint = .ok () := by
  obtain ⟨distinct, shaped⟩ := find?_shaped found
  have bound := sound sessionId row found
  unfold PersistedSession.validateIntegrity AdaptorSessionIdentity.validate
  rw [ensure_ok distinct, ok_bind]
  unfold PersistedSession.shaped at shaped
  cases phase : row.phase <;> cases secret : row.secretNonce <;> simp_all

theorem loadSession_sound (sessionId : Bytes32) :
    loadSession fingerprint journal sessionId = .ok (journal.find? sessionId) := by
  unfold loadSession
  cases found : journal.find? sessionId with
  | none => rfl
  | some row =>
    dsimp only
    rw [validateIntegrity_ok sound found, ok_bind]
    rfl

theorem requiredSession_found (loaded : requiredSession fingerprint journal identity = .ok row) :
    journal.find? identity.sessionId = some row ∧ row.identity = identity := by
  simp only [requiredSession, loadSession_sound sound, ok_bind, checked_ok, required_ok_iff, pure_ok] at loaded
  obtain ⟨_, found, present, _, same, rfl⟩ := loaded
  exact ⟨present, same⟩

theorem requiredSession_ok (found : journal.find? identity.sessionId = some row) (same : row.identity = identity) :
    requiredSession fingerprint journal identity = .ok row := by
  have distinct := (find?_shaped found).1
  rw [same] at distinct
  simp only [requiredSession, AdaptorSessionIdentity.validate, ensure_ok distinct, ok_bind,
    loadSession_sound sound, found, required, validateIntegrity_ok sound found, ensure_ok same]
  rfl

theorem write_evolves {changed : PersistedSession}
    (found : journal.find? sessionId = some row) (written : journal.write changed = some next)
    (advances : Advances row changed) : next.Sound fingerprint ∧ Evolves journal next := by
  have key : adaptorSessions.key changed = sessionId := by
    rw [← Table.find?_key found]
    exact congrArg AdaptorSessionIdentity.sessionId advances.identity
  have puts : journal.Puts next (adaptorSessions.key changed) changed :=
    Table.write_find? written (by rw [key]; exact found)
  rw [key] at puts
  refine ⟨puts.forall sound fun secret held => ?_, puts.each .refl fun old foundOld => ?_⟩
  · rw [advances.fingerprint]
    exact sound sessionId row found secret (advances.secretNonce secret held)
  · cases found.symm.trans foundOld
    exact advances

theorem insert_evolves (inserted : journal.insert row = some next)
    (bound : ∀ secret, row.secretNonce = some secret → fingerprint secret = row.secretNonceFingerprint) :
    next.Sound fingerprint ∧ Evolves journal next := by
  have puts := Table.insert_puts inserted
  refine ⟨puts.forall sound bound, puts.each .refl fun old found => ?_⟩
  cases (Table.insert_fresh inserted).1.symm.trans found

theorem reserve_evolves {reservation : AdaptorSessionReservation} {commit : ReservationCommit}
    (reserved : reserve fingerprint journal reservation = .ok (commit, next)) :
    next.Sound fingerprint ∧ Evolves journal next := by
  simp only [reserve, loadSession_sound sound, ok_bind, checked_ok] at reserved
  obtain ⟨_, reserved⟩ := reserved
  split at reserved
  · simp only [bind_ok_iff, pure_ok, Prod.mk.injEq] at reserved
    obtain ⟨_, _, _, _, _, rfl⟩ := reserved
    exact ⟨sound, .refl journal⟩
  · simp only [bind_ok_iff, required_ok_iff, pure_ok, Prod.mk.injEq] at reserved
    obtain ⟨_, _, inserted, insertion, _, rfl⟩ := reserved
    apply insert_evolves sound insertion
    intro secret held
    cases held
    rfl

omit sound in
theorem recordOnce_cases {Value : Type} [DecidableEq Value] {column : PersistedSession → Option Value}
    {value : Value} {ready selected : PersistedSession → Bool}
    (recorded : recordOnce fingerprint journal identity column value ready selected change phase = .ok (commit, next))
    :
    next = journal ∨ ∃ row, journal.find? identity.sessionId = some row ∧ selected row = true ∧
      journal.write (change row) = some next := by
  simp only [recordOnce, bind_ok_iff] at recorded
  obtain ⟨existing, _, recorded⟩ := recorded
  split at recorded
  · simp only [bind_ok_iff, pure_ok, Prod.mk.injEq] at recorded
    obtain ⟨_, _, _, rfl⟩ := recorded
    exact .inl rfl
  · simp only [ensureSingleUpdate, checked_ok, required_ok_iff, pure_ok, Prod.mk.injEq] at recorded
    obtain ⟨_, ⟨_, updated⟩, found, rfl, _, rfl⟩ := recorded
    exact .inr (Table.updateWhere_changed found Nat.one_ne_zero)

theorem recordOnce_evolves {Value : Type} [DecidableEq Value] {column : PersistedSession → Option Value}
    {value : Value} {ready : PersistedSession → Bool} {selected : PersistedSession → Prop} [DecidablePred selected]
    (recorded : recordOnce fingerprint journal identity column value ready (selected ·) change phase =
      .ok (commit, next))
    (advances : ∀ row, selected row → Advances row (change row)) :
    next.Sound fingerprint ∧ Evolves journal next := by
  rcases recordOnce_cases recorded with rfl | ⟨row, found, chosen, written⟩
  · exact ⟨sound, .refl _⟩
  · exact write_evolves sound found written (advances row (of_decide_eq_true chosen))

theorem sign_evolves {signer : SigningMaterial → Option PartialSignature} {commit : PartialSignatureCommit}
    (signed : signAndPersistPartial fingerprint journal identity signer = .ok (commit, next)) :
    next.Sound fingerprint ∧ Evolves journal next := by
  simp only [signAndPersistPartial, bind_ok_iff] at signed
  obtain ⟨prepared, _, signed⟩ := signed
  split at signed
  · simp only [pure_ok, Prod.mk.injEq] at signed
    obtain ⟨_, rfl⟩ := signed
    exact ⟨sound, .refl journal⟩
  · simp only [ensureSingleUpdate, checked_ok, required_ok_iff, pure_ok, Prod.mk.injEq] at signed
    obtain ⟨signature, _, ⟨_, updated⟩, found, rfl, _, rfl⟩ := signed
    obtain ⟨row, present, chosen, written⟩ := Table.updateWhere_changed found Nat.one_ne_zero
    simp only [decide_eq_true_eq] at chosen
    exact write_evolves sound present written ⟨rfl, rfl, rfl, rfl, .of_isNone rfl, .refl _, .refl _,
      .of_isNone chosen.2.2, .refl _, .refl _, rank_le chosen.1 (Nat.le_succ _)⟩

theorem perform_evolves (performed : perform fingerprint journal call = .ok (reply, next)) :
    next.Sound fingerprint ∧ Evolves journal next := by
  cases call <;> simp only [perform, bind_ok_iff, pure_ok, Prod.mk.injEq] at performed
  case reserve reservation =>
    obtain ⟨⟨commit, after⟩, reserved, _, rfl⟩ := performed
    exact reserve_evolves sound reserved
  case recordPeerCommitment identity commitment =>
    obtain ⟨⟨commit, after⟩, recorded, _, rfl⟩ := performed
    apply recordOnce_evolves sound recorded
    intro row chosen
    exact ⟨rfl, rfl, rfl, rfl, .refl _, .of_isNone chosen.2, .refl _, .refl _, .refl _, .refl _,
      rank_le chosen.1 (Nat.le_succ _)⟩
  case recordVerifiedPeerPublicNonce identity publicNonce =>
    obtain ⟨⟨commit, after⟩, recorded, _, rfl⟩ := performed
    apply recordOnce_evolves sound recorded
    intro row chosen
    exact ⟨rfl, rfl, rfl, rfl, .refl _, .refl _, .of_isNone chosen.2.2, .refl _, .refl _, .refl _,
      rank_le chosen.1 (Nat.le_succ _)⟩
  case signAndPersistPartial identity signer =>
    obtain ⟨⟨commit, after⟩, signed, _, rfl⟩ := performed
    exact sign_evolves sound signed
  case recordVerifiedPeerPartial identity signature =>
    obtain ⟨⟨commit, after⟩, recorded, _, rfl⟩ := performed
    apply recordOnce_evolves sound recorded
    intro row chosen
    exact ⟨rfl, rfl, rfl, rfl, .refl _, .refl _, .refl _, .refl _, .of_isNone chosen.2.2, .refl _,
      rank_le chosen.1 (Nat.le_succ _)⟩
  case recordVerifiedPresignature identity presignature =>
    obtain ⟨⟨commit, after⟩, recorded, _, rfl⟩ := performed
    apply recordOnce_evolves sound recorded
    intro row chosen
    exact ⟨rfl, rfl, rfl, rfl, .refl _, .refl _, .refl _, .refl _, .refl _, .of_isNone chosen.2.2,
      rank_le chosen.1 (Nat.le_succ _)⟩
  case revealOwnPublicNonce identity =>
    obtain ⟨_, _, _, rfl⟩ := performed
    exact ⟨sound, .refl journal⟩
  case load sessionId =>
    obtain ⟨_, _, _, rfl⟩ := performed
    exact ⟨sound, .refl journal⟩

/-- The signing callback's material was read from a row that still had its nonce to use. -/
structure Handed (fingerprint : SecretNonceBytes → Bytes32) (material : SigningMaterial)
    (row : PersistedSession) : Prop where
  identity : row.identity = material.identity
  secretNonce : row.secretNonceFingerprint = fingerprint material.secretNonce
  ownPublicNonce : row.ownPublicNonce = material.ownPublicNonce
  peerPublicNonce : row.peerPublicNonce = some material.peerPublicNonce

omit sound in
theorem Handed.advances {later : PersistedSession}
    (handed : Handed fingerprint material row) (advances : Advances row later) :
    Handed fingerprint material later where
  identity := advances.identity.trans handed.identity
  secretNonce := advances.fingerprint.trans handed.secretNonce
  ownPublicNonce := advances.ownPublicNonce.trans handed.ownPublicNonce
  peerPublicNonce := advances.peerPublicNonce _ handed.peerPublicNonce

theorem prepareSigning_handed (prepared : prepareSigning fingerprint journal identity = .ok (.inr material)) :
    ∃ row, journal.find? material.identity.sessionId = some row ∧ Handed fingerprint material row ∧
      row.phase = .noncesExchanged := by
  simp only [prepareSigning, bind_ok_iff] at prepared
  obtain ⟨row, loaded, prepared⟩ := prepared
  obtain ⟨found, same⟩ := requiredSession_found sound loaded
  split at prepared
  · cases prepared
  · simp only [checked_ok, required_ok_iff, pure_ok, Sum.inr.injEq] at prepared
    obtain ⟨exchanged, secret, _, bound, peer, present, rfl⟩ := prepared
    rw [← same] at found
    exact ⟨row, found, ⟨rfl, bound.symm, rfl, present⟩, exchanged⟩

omit sound in
theorem invokes_prepared (invoked : call.invokes fingerprint journal = some material) :
    ∃ identity, prepareSigning fingerprint journal identity = .ok (.inr material) := by
  cases call <;> simp only [Call.invokes, reduceCtorEq] at invoked
  case signAndPersistPartial identity signer =>
    split at invoked
    · rename_i prepared
      cases invoked
      exact ⟨identity, prepared⟩
    · cases invoked

theorem step_evolves
    (step : Step fingerprint journal event next) : next.Sound fingerprint ∧ Evolves journal next := by
  cases step with
  | committed performed => exact perform_evolves sound performed
  | refused performed => exact ⟨sound, .refl journal⟩
  | crashed before => exact ⟨sound, .refl journal⟩
  | unanswered performed => exact perform_evolves sound performed

theorem step_signed (step : Step fingerprint journal event next) (signed : event.signed = some material) :
    ∃ row, journal.find? material.identity.sessionId = some row ∧ Handed fingerprint material row ∧
      row.phase = .noncesExchanged := by
  have invoked : event.call.invokes fingerprint journal = some material := by
    cases step with
    | committed performed => exact signed
    | refused performed => exact signed
    | crashed before =>
      rcases before with silent | invoked
      · cases silent.symm.trans signed
      · exact invoked.symm.trans signed
    | unanswered performed => exact signed
  obtain ⟨identity, prepared⟩ := invokes_prepared invoked
  exact prepareSigning_handed sound prepared

/-- Ways a call can show the local public nonce of a session to its caller. -/
inductive Discloses : Event → Bytes32 → Prop
  | revealed {identity : AdaptorSessionIdentity} {nonce : PublicNonce} {signed : Option SigningMaterial} :
      Discloses ⟨.revealOwnPublicNonce identity, some (.ok (.publicNonce nonce)), signed⟩ identity.sessionId
  | loaded {call : Call} {session : AdaptorSessionSnapshot} {nonce : PublicNonce}
      {signed : Option SigningMaterial} (shown : session.ownPublicNonce = some nonce) :
      Discloses ⟨call, some (.ok (.snapshot (some session))), signed⟩ session.identity.sessionId
  | signed {call : Call} {reply : Option (Result Reply)} {material : SigningMaterial} :
      Discloses ⟨call, reply, some material⟩ material.identity.sessionId

omit sound in
theorem step_answer (step : Step fingerprint journal event next)
    (answered : event.reply = some (.ok reply)) : perform fingerprint journal event.call = .ok (reply, next) := by
  cases step with
  | committed performed =>
    cases answered
    exact performed
  | refused performed => cases answered
  | crashed before => cases answered
  | unanswered performed => cases answered

theorem load_found (loaded : load fingerprint journal sessionId = .ok (some session)) :
    ∃ row, journal.find? sessionId = some row ∧ session = row.snapshot := by
  unfold load at loaded
  rw [loadSession_sound sound, ok_bind] at loaded
  cases found : journal.find? sessionId with
  | none =>
    rw [found] at loaded
    cases loaded
  | some row =>
    rw [found] at loaded
    simp only [validateIntegrity_ok sound found, ok_bind, pure_ok, Option.some.injEq] at loaded
    exact ⟨row, rfl, loaded.symm⟩

theorem perform_snapshot (performed : perform fingerprint journal call = .ok (.snapshot (some session), next)) :
    ∃ row, journal.find? row.identity.sessionId = some row ∧ session = row.snapshot := by
  cases call <;>
    simp only [perform, bind_ok_iff, pure_ok, Prod.mk.injEq, reduceCtorEq, false_and, and_false, exists_false,
      Reply.snapshot.injEq] at performed
  case load sessionId =>
    obtain ⟨_, loaded, rfl, _⟩ := performed
    obtain ⟨row, found, shown⟩ := load_found sound loaded
    have key : row.identity.sessionId = sessionId := Table.find?_key found
    rw [← key] at found
    exact ⟨row, found, shown⟩

theorem discloses_committed (step : Step fingerprint journal event next) (disclosed : Discloses event sessionId) :
    ∃ row, journal.find? sessionId = some row ∧ row.peerCommitment.isSome := by
  cases disclosed with
  | @revealed identity nonce signed =>
    have performed := step_answer step rfl
    simp only [perform, revealOwnPublicNonce, checked_ok, pure_ok, Prod.mk.injEq,
      Reply.publicNonce.injEq] at performed
    obtain ⟨_, ⟨row, loaded, committed, _⟩, _⟩ := performed
    exact ⟨row, (requiredSession_found sound loaded).1, committed⟩
  | loaded shown =>
    obtain ⟨row, found, rfl⟩ := perform_snapshot sound (step_answer step rfl)
    obtain ⟨commitment, present, _⟩ := Option.map_eq_some_iff.mp shown
    exact ⟨row, found, by rw [present]; rfl⟩
  | signed =>
    obtain ⟨row, found, _, exchanged⟩ := step_signed sound step rfl
    have shaped := (find?_shaped found).2
    simp only [PersistedSession.shaped, exchanged, Bool.and_eq_true] at shaped
    exact ⟨row, found, shaped.1.1.1.1.2⟩

end Sound

theorem secret_until_partial (found : journal.find? sessionId = some row) :
    row.secretNonce.isSome = row.ownPartial.isNone := by
  have shaped := (find?_shaped found).2
  unfold PersistedSession.shaped at shaped
  cases phase : row.phase <;> simp_all

theorem fingerprint_unique {other : PersistedSession} {otherId : Bytes32}
    (found : journal.find? sessionId = some row) (otherFound : journal.find? otherId = some other)
    (same : row.secretNonceFingerprint = other.secretNonceFingerprint) : sessionId = otherId := by
  by_cases equal : sessionId = otherId
  · exact equal
  · exact absurd same (of_decide_eq_true (Table.find?_apart found otherFound equal))

theorem sign_again {signature : PartialSignature} {signer : SigningMaterial → Option PartialSignature}
    (sound : journal.Sound fingerprint) (found : journal.find? identity.sessionId = some row)
    (durable : row.ownPartial = some signature) :
    perform fingerprint journal (.signAndPersistPartial identity signer) =
        .ok (.partialSignature ⟨signature, true⟩, journal) ∨
      identity ≠ row.identity ∧
        ∃ error, perform fingerprint journal (.signAndPersistPartial identity signer) = .error error := by
  cases loaded : requiredSession fingerprint journal identity with
  | error error =>
    right
    constructor
    · intro same
      rw [requiredSession_ok sound found same.symm] at loaded
      cases loaded
    · simp only [perform, signAndPersistPartial, prepareSigning, loaded]
      exact ⟨error, rfl⟩
  | ok session =>
    left
    have read := (requiredSession_found sound loaded).1
    cases found.symm.trans read
    simp only [perform, signAndPersistPartial, prepareSigning, loaded, ok_bind, durable]
    rfl

end Methods

section Runs

variable {fingerprint : SecretNonceBytes → Bytes32} {start journal later : Journal} {history more : List Event}

theorem empty_sound : Journal.Sound fingerprint Table.empty := fun _ _ found => nomatch found

section Runs

variable (sound : start.Sound fingerprint) (run : Run (Step fingerprint) start history journal)
include sound run

theorem run_sound : journal.Sound fingerprint :=
  run.invariant sound fun _ _ _ held step => (step_evolves held step).1

theorem run_evolves : Evolves start journal := by
  induction run with
  | nil => exact .refl start
  | snoc before step evolves => exact evolves.trans (step_evolves (run_sound sound before) step).2

theorem run_handed : ∀ event ∈ history, ∀ material, event.signed = some material →
      ∃ row, journal.find? material.identity.sessionId = some row ∧ Handed fingerprint material row := by
  induction run with
  | nil => exact fun _ member => nomatch member
  | @snoc history state next label before step handed =>
    have held := run_sound sound before
    have evolves := (step_evolves held step).2
    intro event member material signed
    have read : ∃ row, state.find? material.identity.sessionId = some row ∧ Handed fingerprint material row := by
      rcases List.mem_append.mp member with earlier | last
      · exact handed event earlier material signed
      · cases List.mem_singleton.mp last
        obtain ⟨row, found, kept, _⟩ := step_signed held step signed
        exact ⟨row, found, kept⟩
    obtain ⟨row, found, kept⟩ := read
    obtain ⟨next, foundNext, advances⟩ := evolves _ _ found
    exact ⟨next, foundNext, kept.advances advances⟩

theorem run_one_transcript {first second : Event} (firstMember : first ∈ history)
    (secondMember : second ∈ history) {material other : SigningMaterial} (signed : first.signed = some material)
    (otherSigned : second.signed = some other) (same : material.secretNonce = other.secretNonce) :
    material = other := by
  obtain ⟨row, found, handed⟩ := run_handed sound run first firstMember material signed
  obtain ⟨otherRow, otherFound, otherHanded⟩ := run_handed sound run second secondMember other otherSigned
  have fingerprints : row.secretNonceFingerprint = otherRow.secretNonceFingerprint := by
    rw [handed.secretNonce, otherHanded.secretNonce, same]
  have sessions := fingerprint_unique found otherFound fingerprints
  rw [sessions, otherFound] at found
  cases found
  have identities := handed.identity.symm.trans otherHanded.identity
  have ownNonces := handed.ownPublicNonce.symm.trans otherHanded.ownPublicNonce
  have peerNonces := Option.some.inj (handed.peerPublicNonce.symm.trans otherHanded.peerPublicNonce)
  cases material
  cases other
  simp only [SigningMaterial.mk.injEq]
  exact ⟨identities, same, ownNonces, peerNonces⟩

end Runs

theorem run_after_partial {sessionId : Bytes32} {row : PersistedSession} {signature : PartialSignature}
    (sound : start.Sound fingerprint) (found : start.find? sessionId = some row)
    (durable : row.ownPartial = some signature) (run : Run (Step fingerprint) start history journal) :
    ∀ event ∈ history,
      (∀ material, event.signed = some material →
        fingerprint material.secretNonce ≠ row.secretNonceFingerprint) ∧
      ∀ identity signer answer, event.call = .signAndPersistPartial identity signer →
        identity.sessionId = sessionId → event.reply = some answer →
        answer = .ok (.partialSignature ⟨signature, true⟩) ∨
          identity ≠ row.identity ∧ ∃ error, answer = .error error := by
  induction run with
  | nil => exact fun _ member => nomatch member
  | @snoc history state next label before step earlier =>
    have held := run_sound sound before
    obtain ⟨now, foundNow, advances⟩ := run_evolves sound before sessionId row found
    have durableNow := advances.ownPartial signature durable
    intro event member
    rcases List.mem_append.mp member with old | last
    · exact earlier event old
    · cases List.mem_singleton.mp last
      constructor
      · intro material signed same
        obtain ⟨source, foundSource, handed, exchanged⟩ := step_signed held step signed
        have fingerprints : now.secretNonceFingerprint = source.secretNonceFingerprint := by
          rw [advances.fingerprint, handed.secretNonce, same]
        have sessions := fingerprint_unique foundNow foundSource fingerprints
        rw [← sessions, foundNow] at foundSource
        cases foundSource
        have shaped := (find?_shaped foundNow).2
        simp [PersistedSession.shaped, exchanged, durableNow] at shaped
      · intro identity signer answer asked session answered
        rw [← session] at foundNow
        have again := @sign_again fingerprint state identity now signature signer held foundNow durableNow
        rw [advances.identity, ← asked] at again
        cases step with
        | committed performed =>
          cases answered
          rcases again with performs | ⟨_, error, fails⟩
          · cases performs.symm.trans performed
            exact .inl rfl
          · cases fails.symm.trans performed
        | refused performed =>
          cases answered
          rcases again with performs | ⟨other, _⟩
          · cases performs.symm.trans performed
          · exact .inr ⟨other, _, rfl⟩
        | crashed => cases answered
        | unanswered => cases answered

theorem secret_nonce_signs_one_transcript (run : Run (Step fingerprint) Table.empty history journal)
    (rest : Run (Step fingerprint) journal more later) :
    -- A secret nonce that reaches a signer twice reaches it with the same transcript.
    (∀ first ∈ history, ∀ second ∈ history, ∀ material other, first.signed = some material →
      second.signed = some other → material.secretNonce = other.secretNonce → material = other) ∧
    -- A durable partial retires its nonce and answers every later call.
    (∀ sessionId row signature, journal.find? sessionId = some row → row.ownPartial = some signature →
      ∀ event ∈ more,
        (∀ material, event.signed = some material →
          fingerprint material.secretNonce ≠ row.secretNonceFingerprint ∧
          ∀ earlier ∈ history, ∀ used, earlier.signed = some used → used.identity.sessionId = sessionId →
            material.secretNonce ≠ used.secretNonce) ∧
        ∀ identity signer answer, event.call = .signAndPersistPartial identity signer →
          identity.sessionId = sessionId → event.reply = some answer →
          answer = .ok (.partialSignature ⟨signature, true⟩) ∨
            identity ≠ row.identity ∧ ∃ error, answer = .error error) ∧
    (∀ secret sessionId row otherId other, journal.find? sessionId = some row →
      later.find? otherId = some other → row.secretNonce = some secret → other.secretNonce = some secret →
      sessionId = otherId) ∧
    (∀ event next sessionId, Step fingerprint journal event next → Discloses event sessionId →
      ∃ row, journal.find? sessionId = some row ∧ row.peerCommitment.isSome) ∧
    Evolves journal later ∧
    ∀ sessionId row, journal.find? sessionId = some row →
      row.validateIntegrity fingerprint = .ok () ∧ row.secretNonce.isSome = row.ownPartial.isNone := by
  have sound := run_sound empty_sound run
  refine ⟨?_, ?_, ?_, ?_, run_evolves sound rest, ?_⟩
  · intro first firstMember second secondMember material other signed otherSigned
    exact run_one_transcript empty_sound run firstMember secondMember signed otherSigned
  · intro sessionId row signature found durable event member
    obtain ⟨retired, answers⟩ := run_after_partial sound found durable rest event member
    refine ⟨fun material signed => ⟨retired material signed, ?_⟩, answers⟩
    intro earlier earlierMember used usedSigned session same
    obtain ⟨source, foundSource, handed⟩ := run_handed empty_sound run earlier earlierMember used usedSigned
    rw [session, found] at foundSource
    cases foundSource
    apply retired material signed
    rw [handed.secretNonce, same]
  · intro secret sessionId row otherId other found otherFound held otherHeld
    obtain ⟨kept, keptFound, advances⟩ := run_evolves sound rest sessionId row found
    apply fingerprint_unique keptFound otherFound
    rw [advances.fingerprint, ← sound sessionId row found secret held]
    exact run_sound sound rest otherId other otherFound secret otherHeld
  · intro event next sessionId step disclosed
    exact discloses_committed sound step disclosed
  · intro sessionId row found
    exact ⟨validateIntegrity_ok sound found, secret_until_partial found⟩

end Runs

def serve (fingerprint : SecretNonceBytes → Bytes32) (journal : Journal) (call : Call) : Journal × Event :=
  match perform fingerprint journal call with
  | .ok (reply, next) => (next, ⟨call, some (.ok reply), call.invokes fingerprint journal⟩)
  | .error error => (journal, ⟨call, some (.error error), call.invokes fingerprint journal⟩)

theorem serve_step (fingerprint : SecretNonceBytes → Bytes32) (journal : Journal) (call : Call) :
    Step fingerprint journal (serve fingerprint journal call).2 (serve fingerprint journal call).1 := by
  unfold serve
  split
  · rename_i performed
    exact .committed performed
  · rename_i performed
    exact .refused performed

def sampleIdentity : AdaptorSessionIdentity := ⟨7, .maker, 1, 2, 3, (4, 5)⟩

-- The first signer fails, the second signs, and a late one that would sign something else is not asked.
def sampleCalls : List Call :=
  [.reserve ⟨sampleIdentity, 11, 12, 13⟩, .recordPeerCommitment sampleIdentity 14,
    .revealOwnPublicNonce sampleIdentity, .recordVerifiedPeerPublicNonce sampleIdentity 15,
    .signAndPersistPartial sampleIdentity fun _ => none, .signAndPersistPartial sampleIdentity fun _ => some 16]

def sampleFingerprint (secret : SecretNonceBytes) : Bytes32 := secret.setWidth 256

theorem secret_nonce_signs_one_transcript_sample :
    let signed := replay (serve sampleFingerprint) Table.empty sampleCalls
    let asked := replay (serve sampleFingerprint) signed.1 [.signAndPersistPartial sampleIdentity fun _ => some 17]
    (signed.2.filterMap (·.signed)).length = 2 ∧ Evolves signed.1 asked.1 ∧
      ∀ event ∈ asked.2, ∀ material, event.signed = some material → material.secretNonce ≠ 11 := by
  intro signed asked
  have first := run_replay (serve_step sampleFingerprint) Table.empty sampleCalls
  have second := run_replay (serve_step sampleFingerprint) signed.1
    [.signAndPersistPartial sampleIdentity fun _ => some 17]
  obtain ⟨_, retired, _, _, evolves, _⟩ := secret_nonce_signs_one_transcript first second
  refine ⟨by decide +kernel, evolves, fun event member material handed same => ?_⟩
  apply ((retired 7 ⟨sampleIdentity, none, 11, 13, 12, some 14, some 15, some 16, none, none,
    .partialPersisted⟩ 16 (by decide +kernel) rfl event member).1 material handed).1
  rw [same]
  decide +kernel

end AtomicSwaps.Store.AdaptorSession
