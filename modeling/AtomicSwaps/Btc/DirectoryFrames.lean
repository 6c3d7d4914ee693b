import AtomicSwaps.Btc.Directory

namespace AtomicSwaps.Btc

open AtomicSwaps.Core Fallible Durable

namespace SwapDirectory

variable {Own View : Type} {view : SwapDirectory Own → View} {holds : SwapDirectory Own → Prop}

section Files

variable {α : Type} [DecidableEq α] {part : SwapPart} {file : SwapDirectory Own → Option α}
  {write : α → SwapDirectory Own → SwapDirectory Own} {content : α}

theorem still_writePrivateExact (untouched : ∀ directory, view (write content directory) = view directory) :
    Still view (writePrivateExact part file write content) := by
  refine still_bind still_read fun directory => ?_
  split
  · exact still_check _
  · exact still_bind (still_check _) fun _ => still_commit untouched

theorem keeps_writePrivateExact
    (kept : ∀ directory, holds directory → file directory = none → holds (write content directory)) :
    Keeps holds (writePrivateExact part file write content) := by
  intro session before
  refine leaves_read_bind ?_
  split
  · exact keeps_check _ session before
  · rename_i missing
    exact leaves_check_bind before fun _ _ => leaves_commit before (kept _ before missing)

/-- A file of the root is there after an attempt that nothing cuts, as it was or as it is written. -/
theorem writePrivateExact_leaves {directory : SwapDirectory Own}
    (written : ∀ directory, (file (write content directory)).isSome) :
    Leaves (fun directory => (file directory).isSome) (writePrivateExact .root file write content)
      ⟨directory, none⟩ := by
  refine leaves_read_bind ?_
  split
  · rename_i existing found
    show (file directory).isSome
    rw [found]
    rfl
  · have standing : ensure (directory.hasPart .root) LifecycleError.missingDirectory = .ok () :=
      ensure_ok_iff.mpr (Nat.zero_le _)
    rw [standing]
    exact written directory

theorem writePrivateExact_holds (written : ∀ directory, file (write content directory) = some content)
    (session : Session (SwapDirectory Own)) :
    Ends (fun _ directory => file directory = some content) (writePrivateExact part file write content)
      session := by
  refine ends_read_bind ?_
  split
  · rename_i existing found
    refine ends_check fun _ same => ?_
    rw [ensure_ok_iff] at same
    rw [found, same]
  · exact ends_check_bind fun _ _ => ends_commit (written session.state)

end Files

section Layout

theorem still_create (untouched : ∀ count directory, view { directory with directories := count } =
    view directory) : Still view create := by
  refine still_bind still_read fun _ => still_bind (still_check _) fun _ => ?_
  exact still_bind (still_commit (untouched 1)) fun _ => still_bind (still_commit (untouched 2)) fun _ =>
    still_bind (still_commit (untouched 3)) fun _ => still_bind (still_commit (untouched 4)) fun _ =>
      still_commit (untouched 5)

/-- A part of the directory that holds nothing of the role root but the agreement. -/
def IgnoresKeys (view : SwapDirectory Own → View) : Prop :=
  ∀ change : RoleRoot → RoleRoot, (∀ role, (change role).agreement = role.agreement) →
    ∀ directory, view (setRole change directory) = view directory

theorem still_writeOptional (secret : Option Bytes32) {write : Bytes32 → RoleRoot → RoleRoot}
    (untouched : ∀ scalar directory, view (setRole (write scalar) directory) = view directory) :
    Still view (writeOptional secret write) := by
  cases secret with
  | none => exact still_pure _
  | some scalar => exact still_commit (untouched scalar)

theorem still_bootstrap (ignores : IgnoresKeys view) (primitives : Primitives) (input : RoleBootstrapInput)
    (secrets : RoleSecrets) : Still view (bootstrapRoleInProcess primitives input secrets) := by
  refine still_bind still_read fun _ => still_bind (still_check _) fun _ => ?_
  refine still_bind (still_commit (ignores _ fun _ => rfl)) fun _ =>
    still_bind (still_commit (ignores _ fun _ => rfl)) fun _ =>
    still_bind (still_commit (ignores _ fun _ => rfl)) fun _ =>
    still_bind (still_commit (ignores _ fun _ => rfl)) fun _ => ?_
  refine still_bind (still_writeOptional _ fun _ => ignores _ fun _ => rfl) fun _ =>
    still_bind (still_commit (ignores _ fun _ => rfl)) fun _ =>
    still_bind (still_writeOptional _ fun _ => ignores _ fun _ => rfl) fun _ => ?_
  exact still_bind (still_commit (ignores _ fun _ => rfl)) fun _ =>
    still_bind (still_commit (ignores _ fun _ => rfl)) fun _ => still_pure _

/-- A part of the directory that holds nothing of the sidecar but a prepared escrow. -/
def IgnoresSidecar (view : SwapDirectory Own → View) : Prop :=
  ∀ change : SidecarFiles → SidecarFiles, (∀ files, (change files).escrow = files.escrow) →
    ∀ directory, view (setSidecar change directory) = view directory

theorem still_ensureSidecar (ignores : IgnoresSidecar view) (runId : String) (draw : SidecarDraw) :
    Still view (ensureSidecar runId draw) := by
  refine still_bind still_read fun directory => ?_
  split
  · exact still_bind (still_check _) fun _ => still_pure _
  · refine still_bind (still_writePrivateExact (ignores _ fun _ => rfl)) fun _ =>
      still_bind still_read fun _ => still_bind (still_check _) fun _ => ?_
    exact still_bind (still_commit (ignores _ fun _ => rfl)) fun _ =>
      still_bind (still_commit (ignores _ fun _ => rfl)) fun _ => still_pure _

theorem still_prepareClaim (untouched : ∀ claim directory,
    view (setSidecar (fun files => { files with claim := some claim }) directory) = view directory)
    (answer : PrepareWitnessedClaimResult) : Still view (prepareClaim answer) := by
  refine still_bind still_read fun directory => ?_
  split
  · exact still_bind (still_check _) fun _ => still_pure _
  · exact still_bind (still_commit (untouched _)) fun _ => still_pure _

theorem still_prepareEscrow (untouched : ∀ escrow directory,
    view (setSidecar (fun files => { files with escrow := some escrow }) directory) = view directory)
    (answer : PreparedEscrow) : Still view (prepareEscrow answer) := by
  refine still_bind still_read fun directory => ?_
  split
  · exact still_bind (still_check _) fun _ => still_pure _
  · exact still_bind (still_commit (untouched _)) fun _ => still_pure _

theorem prepareEscrow_terms (answer : PreparedEscrow) (session : Session (SwapDirectory Own)) :
    Ends (fun escrow _ => escrow.terms = answer.terms) (prepareEscrow answer) session := by
  refine ends_read_bind ?_
  split
  · refine ends_check_bind fun _ same => ends_pure ?_
    rw [ensure_ok_iff] at same
    exact same.2
  · exact ends_bind fun _ _ _ => ends_pure rfl

end Layout

section Journals

def IgnoresJournals (view : SwapDirectory Own → View) : Prop :=
  ∀ domain change directory, view (setJournal domain change directory) = view directory

namespace CeremonySeat

variable {seat : CeremonySeat}

theorem still_snapshot : Still view seat.snapshot := by
  refine still_bind still_read fun directory => ?_
  split
  · exact still_pure _
  · exact still_bind (still_check _) fun _ => still_pure _

theorem still_requiredSnapshot : Still view seat.requiredSnapshot :=
  still_bind still_snapshot fun _ => still_check _

theorem still_revealNonce : Still view seat.revealNonce :=
  still_bind still_requiredSnapshot fun _ => still_bind (still_check _) fun _ => still_pure _

variable (ignores : IgnoresJournals view)
include ignores

theorem still_record (change : PersistedSession → PersistedSession) : Still view (seat.record change) :=
  still_commit fun _ => ignores _ _ _

theorem still_recordOnce {α : Type} [DecidableEq α] (durable : Option α) (value : α)
    (change : PersistedSession → PersistedSession) : Still view (seat.recordOnce durable value change) := by
  cases durable with
  | some existing => exact still_check _
  | none => exact still_record ignores change

theorem still_reserve (nonce : Bytes32) : Still view (seat.reserve nonce) := by
  refine still_bind still_snapshot fun row => ?_
  split
  · exact still_pure _
  · exact still_bind (still_load _) fun _ =>
      still_bind (still_commit fun _ => ignores _ _ _) fun _ => still_pure _

theorem still_acceptCommitment (packet : Packet AdaptorNonceCommitment) :
    Still view (seat.acceptCommitment packet) :=
  still_bind still_requiredSnapshot fun _ => still_bind (still_check _) fun _ =>
    still_recordOnce ignores _ _ _

theorem still_signPartial : Still view seat.signPartial := by
  refine still_bind still_requiredSnapshot fun ready => ?_
  split
  · exact still_pure _
  · exact still_bind (still_check _) fun _ => still_bind (still_record ignores _) fun _ => still_pure _

theorem still_acceptNonceSign (packet : Packet Bytes32) : Still view (seat.acceptNonceSign packet) :=
  still_bind (still_check _) fun _ => still_bind still_requiredSnapshot fun _ =>
    still_bind (still_check _) fun _ => still_bind (still_check _) fun _ =>
      still_bind (still_recordOnce ignores _ _ _) fun _ => still_signPartial ignores

theorem still_acceptPeerPartial (packet : Packet AdaptorPartialSignature) :
    Still view (seat.acceptPeerPartial packet) :=
  still_bind (still_check _) fun _ => still_bind still_requiredSnapshot fun _ =>
    still_bind (still_check _) fun _ => still_bind (still_check _) fun _ =>
      still_bind (still_check _) fun _ => still_bind (still_recordOnce ignores _ _ _) fun _ =>
        still_bind (still_recordOnce ignores _ _ _) fun _ => still_pure _

end CeremonySeat

end Journals

section Presignatures

variable {change : PersistedSession → PersistedSession}

def Growing (change : PersistedSession → PersistedSession) : Prop :=
  ∀ row, (change row).session = row.session ∧ (change row).localRole = row.localRole ∧
    (row.presignature.isSome → (change row).presignature.isSome)

theorem load_update (growing : Growing change) (journal : SigningJournal) (sessionId loaded : Bytes32) :
    SigningJournal.load (SigningJournal.update journal sessionId change) loaded =
      (SigningJournal.load journal loaded).map fun row =>
        if row.session.sessionId = sessionId then change row else row := by
  unfold SigningJournal.load SigningJournal.update
  rw [List.find?_map]
  congr 2
  funext row
  dsimp only [Function.comp]
  split
  · rw [(growing row).1]
  · rfl

theorem journal_setJournal_same (domain : BtcAdaptorSessionDomain) (change : SigningJournal → SigningJournal)
    (directory : SwapDirectory Own) :
    (setJournal domain change directory).journal domain = change (directory.journal domain) := by
  cases domain <;> rfl

theorem journal_setJournal_other {domain other : BtcAdaptorSessionDomain} (differs : other ≠ domain)
    (change : SigningJournal → SigningJournal) (directory : SwapDirectory Own) :
    (setJournal domain change directory).journal other = directory.journal other := by
  cases domain <;> cases other
  · exact absurd rfl differs
  · rfl
  · rfl
  · exact absurd rfl differs

variable {session : ValidatedSession} {role : Participant} {directory : SwapDirectory Own}

theorem holdsPresignature_append (domain : BtcAdaptorSessionDomain) (added : PersistedSession)
    (held : directory.holdsPresignature session role) :
    (setJournal domain (· ++ [added]) directory).holdsPresignature session role := by
  obtain ⟨row, loaded, rest⟩ := held
  refine ⟨row, ?_, rest⟩
  by_cases same : session.domain = domain
  · rw [same, journal_setJournal_same, ← same]
    unfold SigningJournal.load at loaded ⊢
    rw [List.find?_append, loaded]
    rfl
  · rw [journal_setJournal_other same]
    exact loaded

theorem holdsPresignature_update (growing : Growing change) (domain : BtcAdaptorSessionDomain)
    (sessionId : Bytes32) (held : directory.holdsPresignature session role) :
    (setJournal domain (·.update sessionId change) directory).holdsPresignature session role := by
  obtain ⟨row, loaded, sameSession, sameRole, presigned⟩ := held
  by_cases same : session.domain = domain
  · have found : ((setJournal domain (·.update sessionId change) directory).journal session.domain).load
        session.sessionId = some (if row.session.sessionId = sessionId then change row else row) := by
      rw [same, journal_setJournal_same, load_update growing, ← same, loaded]
      rfl
    refine ⟨_, found, ?_⟩
    split
    · obtain ⟨keepsSession, keepsRole, keepsPresignature⟩ := growing row
      exact ⟨keepsSession.trans sameSession, keepsRole.trans sameRole, keepsPresignature presigned⟩
    · exact ⟨sameSession, sameRole, presigned⟩
  · refine ⟨row, ?_, sameSession, sameRole, presigned⟩
    rw [journal_setJournal_other same]
    exact loaded

structure SurvivesSigning (holds : SwapDirectory Own → Prop) : Prop where
  appended : ∀ domain row directory, holds directory → holds (setJournal domain (· ++ [row]) directory)
  updated : ∀ domain sessionId change directory, Growing change → holds directory →
    holds (setJournal domain (·.update sessionId change) directory)

namespace CeremonySeat

variable {seat : CeremonySeat}

theorem keeps_snapshot : Keeps holds seat.snapshot :=
  (still_snapshot : Still (fun directory => directory) seat.snapshot).keeps

theorem keeps_requiredSnapshot : Keeps holds seat.requiredSnapshot :=
  (still_requiredSnapshot : Still (fun directory => directory) seat.requiredSnapshot).keeps

theorem keeps_revealNonce : Keeps holds seat.revealNonce :=
  (still_revealNonce : Still (fun directory => directory) seat.revealNonce).keeps

variable (survives : SurvivesSigning holds)
include survives

theorem keeps_reserve (nonce : Bytes32) : Keeps holds (seat.reserve nonce) := by
  refine keeps_bind keeps_snapshot fun row => ?_
  split
  · exact keeps_pure _
  · exact keeps_bind (keeps_load _) fun _ =>
      keeps_bind (keeps_commit (survives.appended _ _)) fun _ => keeps_pure _

theorem keeps_recordOnce {α : Type} [DecidableEq α] (durable : Option α) (value : α)
    {change : PersistedSession → PersistedSession} (growing : Growing change) :
    Keeps holds (seat.recordOnce durable value change) := by
  cases durable with
  | some existing => exact keeps_check _
  | none => exact keeps_commit fun directory => survives.updated _ _ _ directory growing

theorem keeps_acceptCommitment (packet : Packet AdaptorNonceCommitment) :
    Keeps holds (seat.acceptCommitment packet) :=
  keeps_bind keeps_requiredSnapshot fun _ => keeps_bind (keeps_check _) fun _ =>
    keeps_recordOnce survives _ _ fun _ => ⟨rfl, rfl, id⟩

theorem keeps_signPartial : Keeps holds seat.signPartial := by
  refine keeps_bind keeps_requiredSnapshot fun ready => ?_
  split
  · exact keeps_pure _
  · refine keeps_bind (keeps_check _) fun peer => keeps_bind ?_ fun _ => keeps_pure _
    exact keeps_commit fun directory => survives.updated _ _ _ directory fun _ => ⟨rfl, rfl, id⟩

theorem keeps_acceptNonceSign (packet : Packet Bytes32) : Keeps holds (seat.acceptNonceSign packet) :=
  keeps_bind (keeps_check _) fun _ => keeps_bind keeps_requiredSnapshot fun _ =>
    keeps_bind (keeps_check _) fun _ => keeps_bind (keeps_check _) fun _ =>
      keeps_bind (keeps_recordOnce survives _ _ fun _ => ⟨rfl, rfl, id⟩) fun _ => keeps_signPartial survives

theorem keeps_acceptPeerPartial (packet : Packet AdaptorPartialSignature) :
    Keeps holds (seat.acceptPeerPartial packet) :=
  keeps_bind (keeps_check _) fun _ => keeps_bind keeps_requiredSnapshot fun _ =>
    keeps_bind (keeps_check _) fun _ => keeps_bind (keeps_check _) fun _ =>
      keeps_bind (keeps_check _) fun _ =>
        keeps_bind (keeps_recordOnce survives _ _ fun _ => ⟨rfl, rfl, id⟩) fun _ =>
          keeps_bind (keeps_recordOnce survives _ _ fun _ => ⟨rfl, rfl, fun _ => rfl⟩) fun _ => keeps_pure _

end CeremonySeat

end Presignatures

section Bundle

structure IgnoresBundle (view : SwapDirectory Own → View) : Prop where
  refundKey : ∀ key directory, view (setActor (fun files => { files with refundKey := key }) directory) =
    view directory
  adaptorSecret : ∀ key directory,
    view (setActor (fun files => { files with adaptorSecret := key }) directory) = view directory
  config : ∀ config directory,
    view (setActor (fun files => { files with config := config }) directory) = view directory
  preparedClaim : ∀ claim directory, view { directory with preparedClaim := claim } = view directory
  fundingTransaction : ∀ hex directory, view { directory with fundingTransaction := hex } = view directory

theorem still_copySecret {secret : RoleRoot → Option Bytes32} {file : ActorFiles → Option Bytes32}
    {write : Bytes32 → ActorFiles → ActorFiles}
    (untouched : ∀ scalar directory, view (setActor (write scalar) directory) = view directory) :
    Still view (copySecret secret file write) :=
  still_bind still_read fun _ => still_bind (still_check _) fun _ =>
    still_writePrivateExact (untouched _)

variable (ignores : IgnoresBundle view)
include ignores

theorem still_copyRoleSecrets (input : ActorSynthesis) : Still view (copyRoleSecrets input) :=
  still_bind (still_onlyIf (still_copySecret fun _ => ignores.refundKey _)) fun _ =>
    still_onlyIf (still_copySecret fun _ => ignores.adaptorSecret _)

theorem still_writeFundingTransaction (transaction : Option String) :
    Still view (writeFundingTransaction transaction) := by
  cases transaction with
  | none => exact still_pure _
  | some hex => exact still_writePrivateExact (ignores.fundingTransaction _)

theorem still_synthesize (primitives : Primitives) (input : ActorSynthesis) :
    Still view (synthesize primitives input) :=
  still_bind still_read fun _ => still_bind (still_check _) fun _ => still_bind (still_check _) fun _ =>
    still_bind (still_copyRoleSecrets ignores input) fun _ =>
      still_bind (still_writePrivateExact (ignores.preparedClaim _)) fun _ =>
        still_bind (still_writeFundingTransaction ignores _) fun _ =>
          still_bind (still_writePrivateExact (ignores.config _)) fun _ => still_pure _

omit ignores in
theorem synthesize_config (primitives : Primitives) (input : ActorSynthesis)
    (session : Session (SwapDirectory Own)) :
    Ends (fun config _ => config = input.config) (synthesize primitives input) session := by
  refine ends_read_bind (ends_check_bind fun _ _ => ends_check_bind fun _ _ => ?_)
  exact ends_bind fun _ _ _ => ends_bind fun _ _ _ => ends_bind fun _ _ _ => ends_bind fun _ _ _ =>
    ends_pure rfl

omit ignores in
theorem activate_activates (config : ActorConfig) (session : Session (SwapDirectory Own)) :
    Ends (fun _ directory => directory.role.agreement = some config.agreement ∧
      (∀ domain, directory.holdsPresignature (config.sessions.validated config.agreement domain) config.role) ∧
      ∃ state, directory.actor.state = some state ∧ state.agreement = config.agreement)
      (activate config) session := by
  refine ends_read_bind (ends_check_bind fun agreement bound => ends_check_bind fun _ same =>
    ends_check_bind fun _ _ => ends_check_bind fun _ presigned => ?_)
  rw [present_ok_iff] at bound
  rw [ensure_ok_iff] at same presigned
  subst same
  have both : ∀ domain, session.state.holdsPresignature
      (config.sessions.validated config.agreement domain) config.role := by
    intro domain
    cases domain with
    | bitcoin => exact presigned.1
    | lez => exact presigned.2
  split
  · rename_i state found
    intro _ reached checked
    cases matched : ensure (state.agreement = config.agreement ∧
        state.acceptedAtUnixSeconds = config.acceptedAtUnixSeconds) LifecycleError.stateUnavailable with
    | error error =>
      rw [check_error matched] at checked
      cases checked
    | ok _ =>
      rw [check_ok matched] at checked
      cases checked
      rw [ensure_ok_iff] at matched
      exact ⟨bound, both, state, found, matched.1⟩
  · exact ends_commit ⟨bound, both, _, rfl, rfl⟩

end Bundle

end SwapDirectory

end AtomicSwaps.Btc
