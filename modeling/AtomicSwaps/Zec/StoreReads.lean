import AtomicSwaps.Zec.StoreCommits

namespace AtomicSwaps.Zec

open AtomicSwaps.Core Fallible JournalEntry ClaimTransitionRecordV1

namespace Store

variable {primitives : StorePrimitives} {store store' : Store} {agreement : ZecAgreementV1}
  {state : JournalState} {outcome : CreateOutcome}

namespace Sound

variable {revision : Nat}

theorem row_applies (sound : Sound primitives store agreement state)
    {row : JournalRow} (found : store.journal[revision]? = some row) :
    ∃ before after, store.replayJournal primitives agreement revision = .ok before ∧
      store.applyEntry primitives agreement revision before row.entry = .ok after ∧
      store.replayJournal primitives agreement (revision + 1) = .ok after := by
  have inside : revision < store.activeRevision := by
    rw [← sound.contiguous.length_journal]
    exact (List.getElem?_eq_some_iff.mp found).1
  obtain ⟨after, read⟩ := Journal.replay_before sound.replayed (Nat.succ_le_of_lt inside)
  obtain ⟨before, readBefore, applied⟩ := Journal.replay_succ_ok.mp read
  rw [slot_eq sound.contiguous found] at applied
  exact ⟨before, after, readBefore, applied, read⟩

theorem journal_some (sound : Sound primitives store agreement state)
    (inside : revision < store.activeRevision) : ∃ row, store.journal[revision]? = some row := by
  rw [← sound.contiguous.length_journal] at inside
  exact ⟨_, List.getElem?_eq_getElem inside⟩

theorem offered_entry {before after : JournalState} {entry : JournalEntry}
    (offered : before.coordinator.phase = .offered) (unlocked : before.coordinator.makerLockTransactionId = none)
    (applied : store.applyEntry primitives agreement revision before entry = .ok after) : entry.stage = 0 := by
  rw [applyEntry_ok_iff] at applied
  cases entry with
  | firstLock => rfl
  | observedTakerFirstLock => rfl
  | makerLock staged transition =>
    obtain ⟨-, _, slot, -⟩ := applied
    obtain ⟨_, -, -, -, -, projected⟩ := applyMakerLockSlot_ok.mp slot
    have locked := (transition.applyTo_unpinned unlocked projected).1
    simp [offered] at locked
  | observedMakerLock transition =>
    obtain ⟨-, _, slot, -⟩ := applied
    have projected := (applyObservedMakerSlot_ok.mp slot).2
    simp only [ObservedMakerLockTransitionV1.applyTo, checked_ok, mapError_ok_iff,
      SwapCoordinator.observeFunding, SwapCoordinator.observeMakerLock, offered, unlocked] at projected
    simp at projected
  | ownedClaim staged record =>
    obtain ⟨_, slot, -⟩ := applied
    obtain ⟨_, _, _, rebuilt, -, -, -, -, -, -, -, -, -, -, projected⟩ :=
      applyOwnedClaimSlot_ok.mp slot
    exact absurd ((rebuilt.applyTo_ok projected).1.symm.trans offered) (expectedPhase_moved _)
  | observedClaim created record =>
    obtain ⟨_, slot, -⟩ := applied
    obtain ⟨_, rebuilt, -, -, projected⟩ := applyObservedClaimSlot_ok.mp slot
    exact absurd ((rebuilt.applyTo_ok projected).1.symm.trans offered) (expectedPhase_moved _)
  | refund retained transition =>
    obtain ⟨_, slot, -⟩ := applied
    have ready := (transition.applyTo_ok (applyRefundJournalSlot_ok.mp slot).2.2.2).1
    rw [offered] at ready
    exact (ready_moved ready).elim

theorem taker_first_row (sound : Sound primitives store agreement state)
    (taker : store.localParticipant = .taker) (moved : store.activeRevision ≠ 0) :
    ∃ row transition, store.journal[0]? = some row ∧ row.entry = .firstLock transition := by
  obtain ⟨row, found⟩ := sound.journal_some (Nat.pos_of_ne_zero moved)
  obtain ⟨before, after, read, applied, -⟩ := sound.row_applies found
  cases read
  obtain ⟨offered, unlocked⟩ := ZecAgreementV1.validateAt_offered sound.agreed
  have early := offered_entry offered unlocked applied
  rw [applyEntry_ok_iff] at applied
  cases entry : row.entry with
  | firstLock transition => exact ⟨row, transition, found, entry⟩
  | observedTakerFirstLock transition =>
    rw [entry] at applied
    exact absurd (applied.1.symm.trans taker) (by simp)
  | _ => simp [entry, stage] at early

theorem taker_unstarted (sound : Sound primitives store agreement state)
    (taker : store.localParticipant = .taker) (unstaged : store.firstLockIntent = none) :
    store.activeRevision = 0 := by
  refine Decidable.byContradiction fun moved => ?_
  obtain ⟨row, transition, found, entry⟩ := sound.taker_first_row taker moved
  obtain ⟨_, _, -, applied, -⟩ := sound.row_applies found
  rw [entry, applyEntry_ok_iff] at applied
  obtain ⟨-, _, slot, -⟩ := applied
  obtain ⟨_, staged, -⟩ := applyFirstLockSlot_ok.mp slot
  simp [unstaged] at staged

end Sound

/-- A file after a staging call: the same journal, one more intent or secret at most. -/
structure Staged (primitives : StorePrimitives) (agreement : ZecAgreementV1) (store : Store)
    (state : JournalState) (store' : Store) : Prop where
  extended : Extends store store'
  sound : Sound primitives store' agreement state
  active : store'.activeRevision = store.activeRevision

theorem Extends.refl (store : Store) : Extends store store where
  role := rfl
  key := rfl
  journal := List.prefix_rfl
  firstLockIntent := fun _ stored _ => stored
  makerLockIntent := fun _ stored _ => stored
  claimIntent := fun _ stored _ => stored
  claimMaterial := fun _ stored => stored

theorem contiguous_of_same (contiguous : store.Contiguous)
    (agreementRow : store'.agreementRow = store.agreementRow)
    (journal : store'.journal = store.journal) : store'.Contiguous := by
  have active : store'.activeRevision = store.activeRevision := by
    simp only [Store.activeRevision, agreementRow]
  exact { numbered := by rw [journal, active]; exact contiguous.numbered
          committed := by rw [journal]; exact contiguous.committed
          bounded := by rw [active]; exact contiguous.bounded }

section Sound

variable (sound : Sound primitives store agreement state)
include sound

theorem Staged.refl : Staged primitives agreement store state store :=
  ⟨.refl store, sound, rfl⟩

theorem Sound.validateClaimIntent_kept (extended : Extends store store') (renumbered : store'.Contiguous)
    {row : ClaimIntentRow} (staged : store.claimIntent = some row) :
    store'.validateClaimIntent primitives agreement store.activeRevision state.coordinator row =
      .ok () := by
  cases pending : row.closedRevision with
  | some committed =>
    exact extended.validateClaimIntent_ok sound.contiguous renumbered (by simp [pending])
      (sound.claimIntent_ok staged)
  | none =>
    obtain ⟨material, prepared, secret, linked, revalidated, opened⟩ :=
      sound.pending_claim staged pending
    simp only [validateClaimIntent, validateClaimIntentMaterial, validateClaimIntentPosition, pending,
      extended.claimMaterial material secret, extended.openClaimPayload_eq, extended.role, checked_ok,
      mapError_ok_iff]
    exact ⟨linked, revalidated, prepared, opened, rfl⟩

theorem Sound.auxiliary_kept (extended : Extends store store') (renumbered : store'.Contiguous)
    (material : store'.claimMaterial = store.claimMaterial) (intent : store'.claimIntent = store.claimIntent) :
    store'.validateClaimAuxiliaryState primitives agreement store.activeRevision state.coordinator =
      .ok () := by
  simp only [validateClaimAuxiliaryState, checked_ok, material, intent]
  constructor
  · cases secret : store.claimMaterial with
    | none => rfl
    | some row =>
      exact extended.validateClaimMaterial_ok sound.contiguous renumbered
        (sound.claimMaterial_ok secret)
  · cases staged : store.claimIntent with
    | none => rfl
    | some row => exact sound.validateClaimIntent_kept extended renumbered staged

/-- What a staging call has to keep, one obligation for each kind of row it may touch. -/
theorem Sound.restage (extended : Extends store store') (agreementRow : store'.agreementRow = store.agreementRow)
    (journal : store'.journal = store.journal)
    (auxiliary : store'.validateClaimAuxiliaryState primitives agreement store.activeRevision
      state.coordinator = .ok ())
    (unprojected : store.localParticipant = .maker →
      (∀ row, store'.makerLockIntent = some row → row.closedRevision = none) →
      state.coordinator.makerLockTransactionId = none)
    (makerObserves : store.localParticipant = .maker → store'.firstLockIntent = none)
    (takerIntent : ∀ row, store'.firstLockIntent = some row → row.predecessorRevision = 0 ∧
      row.intent.validateForActive agreement store.localParticipant 0 = .ok () ∧
      (row.closedRevision = none ↔ store.activeRevision = 0))
    (refundStaged : ∀ row, store'.refundIntent = some row →
      row.intent.stagedRevision = row.stagedRevision) :
    Staged primitives agreement store state store' := by
  have active : store'.activeRevision = store.activeRevision := by
    simp only [Store.activeRevision, agreementRow]
  have contiguous := contiguous_of_same sound.contiguous agreementRow journal
  refine ⟨extended, ?_, active⟩
  exact
    { agreed := by rw [agreementRow]; exact sound.agreed
      accepted := by rw [agreementRow]; exact sound.accepted
      contiguous
      replayed := by
        rw [active]
        exact extended.replayJournal_ok sound.contiguous contiguous (Nat.le_refl _) sound.replayed
      ordered := by rw [journal]; exact sound.ordered
      passed := by rw [journal]; exact sound.passed
      auxiliary := by rw [active]; exact auxiliary
      unprojected := by rw [extended.role]; exact unprojected
      makerObserves := by rw [extended.role]; exact makerObserves
      takerIntent := by rw [extended.role, active]; exact takerIntent
      refundStaged }

theorem createFirstLockIntent_ok {intent : FirstLockIntentV1}
    (created : store.createFirstLockIntent primitives intent = .ok (outcome, store')) :
    Staged primitives agreement store state store' := by
  simp only [createFirstLockIntent, sound.validatedAgreement_ok, ok_bind, checked_ok, mapError_ok_iff] at created
  obtain ⟨-, -, valid, created⟩ := created
  cases unstaged : store.firstLockIntent with
  | some existing =>
    simp only [unstaged] at created
    cases created
    exact .refl sound
  | none =>
    simp only [unstaged] at created
    cases created
    have taker : store.localParticipant = .taker ∧ intent.predecessorRevision = store.activeRevision := by
      simp only [FirstLockIntentV1.validateForActive, FirstLockIntentV1.fromActive, checked_ok] at valid
      obtain ⟨_, ⟨taker, -, returned⟩, same⟩ := valid
      cases returned
      exact ⟨taker, by rw [← same]⟩
    have empty := sound.taker_unstarted taker.1 unstaged
    have extended (row : FirstLockIntentRow) :
        Extends store { store with firstLockIntent := some row } :=
      { Extends.refl store with
        firstLockIntent := fun row stored => by simp [unstaged] at stored }
    refine sound.restage (extended _) rfl rfl
      (sound.auxiliary_kept (extended _) (contiguous_of_same sound.contiguous rfl rfl) rfl rfl)
      sound.unprojected ?_ ?_ sound.refundStaged
    · intro maker
      simp [taker.1] at maker
    · intro row stored
      cases stored
      exact ⟨taker.2.trans empty, empty ▸ valid, by simp [empty]⟩

theorem createMakerLockIntent_ok {intent : MakerLockIntentV1}
    (created : store.createMakerLockIntent primitives intent = .ok (outcome, store')) :
    Staged primitives agreement store state store' := by
  simp only [createMakerLockIntent, sound.head, ok_bind, checked_ok] at created
  obtain ⟨-, -, -, -, created⟩ := created
  cases unstaged : store.makerLockIntent with
  | some existing =>
    simp only [unstaged] at created
    cases created
    exact .refl sound
  | none =>
    simp only [unstaged] at created
    split at created
    · cases created
      have extended (row : MakerLockIntentRow) :
          Extends store { store with makerLockIntent := some row } :=
        { Extends.refl store with
          makerLockIntent := fun row stored => by simp [unstaged] at stored }
      exact sound.restage (extended _) rfl rfl
        (sound.auxiliary_kept (extended _) (contiguous_of_same sound.contiguous rfl rfl) rfl rfl)
        (fun maker _ => sound.unprojected maker fun row stored => by simp [unstaged] at stored)
        sound.makerObserves sound.takerIntent sound.refundStaged
    · cases created
      exact .refl sound

theorem createRefundIntent_ok {intent : RefundIntentV1}
    (created : store.createRefundIntent primitives intent = .ok (outcome, store')) :
    Staged primitives agreement store state store' := by
  simp only [createRefundIntent, sound.head, ok_bind, checked_ok] at created
  obtain ⟨-, -, -, -, created⟩ := created
  cases unstaged : store.refundIntent with
  | some existing =>
    simp only [unstaged] at created
    cases created
    exact .refl sound
  | none =>
    simp only [unstaged] at created
    cases created
    have extended : Extends store
        { store with refundIntent := some { stagedRevision := intent.stagedRevision, intent } } :=
      { Extends.refl store with }
    exact sound.restage extended rfl rfl
      (sound.auxiliary_kept extended (contiguous_of_same sound.contiguous rfl rfl) rfl rfl)
      sound.unprojected sound.makerObserves sound.takerIntent fun row stored => by
        cases stored
        rfl

theorem createClaimIntent_ok {intent : ClaimIntentV1} {protectedPayload : ProtectedClaimPayloadEnvelope}
    (created : store.createClaimIntent primitives intent protectedPayload = .ok (outcome, store')) :
    Staged primitives agreement store state store' := by
  simp only [createClaimIntent, sound.head, ok_bind, checked_ok, mapError_ok_iff]
    at created
  obtain ⟨-, -, -, revalidated, created⟩ := created
  cases secret : store.claimMaterial with
  | none => simp [secret] at created
  | some material =>
    simp only [secret, checked_ok] at created
    obtain ⟨-, _, -, prepared, opened, created⟩ := created
    cases unstaged : store.claimIntent with
    | some existing =>
      simp only [unstaged] at created
      cases created
      exact .refl sound
    | none =>
      simp only [unstaged] at created
      simp only [pure_ok, Prod.mk.injEq] at created
      obtain ⟨-, staging⟩ := created
      have extended : Extends store store' := by
        subst staging
        exact { Extends.refl store with
          claimIntent := fun row stored => by simp [unstaged] at stored
          claimMaterial := fun row stored => by rw [← stored, secret] }
      have contiguous : store'.Contiguous := by
        subst staging
        exact contiguous_of_same sound.contiguous rfl rfl
      have auxiliary : store'.validateClaimAuxiliaryState primitives agreement store.activeRevision
          state.coordinator = .ok () := by
        have staged : store'.claimIntent = some
            { stagedRevision := intent.stagedRevision
              materialCreatedRevision := material.createdRevision
              intent, protectedPayload, closedRevision := none } := by
          rw [← staging]
        simp only [validateClaimAuxiliaryState, checked_ok, staged, extended.claimMaterial material secret]
        refine ⟨extended.validateClaimMaterial_ok sound.contiguous contiguous
          (sound.claimMaterial_ok secret), ?_⟩
        refine bind_ok_iff.mpr ⟨(), ?_, bind_ok_iff.mpr ⟨(), ?_, bind_ok_iff.mpr ⟨prepared, ?_, rfl⟩⟩⟩
        · simp [validateClaimIntentMaterial, extended.claimMaterial material secret]
        · exact mapError_ok_iff.mpr (by rw [extended.role]; exact revalidated)
        · rw [extended.openClaimPayload_eq]
          exact opened
      subst staging
      exact sound.restage extended rfl rfl auxiliary sound.unprojected sound.makerObserves
        sound.takerIntent sound.refundStaged

theorem createAgreementWithLocalClaimMaterial_ok {preimage : Bytes32} {nonce : BitVec 192}
    (created : store.createAgreementWithLocalClaimMaterial primitives preimage nonce =
      .ok (outcome, store')) : Staged primitives agreement store state store' := by
  simp only [createAgreementWithLocalClaimMaterial, sound.validatedAgreement_ok, ok_bind, checked_ok] at created
  obtain ⟨⟨-, claimant⟩, created⟩ := created
  split at created
  · cases created
    exact .refl sound
  · cases unset : store.claimMaterial with
    | some material =>
      simp only [unset] at created
      split at created
      · obtain ⟨_, -, created⟩ := bind_ok_iff.mp created
        cases created
        exact .refl sound
      · cases created
        exact .refl sound
    | none =>
      simp only [unset, pure_ok, Prod.mk.injEq] at created
      obtain ⟨-, storing⟩ := created
      have extended : Extends store store' := by
        subst storing
        exact { Extends.refl store with
          claimMaterial := fun material stored => by simp [unset] at stored }
      have auxiliary : store'.validateClaimAuxiliaryState primitives agreement store.activeRevision
          state.coordinator = .ok () := by
        have idle : store.claimIntent = none := by
          cases staged : store.claimIntent with
          | none => rfl
          | some row =>
            have checked := sound.claimIntent_ok staged
            simp [validateClaimIntent, validateClaimIntentMaterial, unset, bind, Except.bind]
              at checked
        subst storing
        simp [validateClaimAuxiliaryState, idle, validateClaimMaterial, validateClaimMaterialOrigin,
          decryptClaimMaterial, Aead.decrypt_encrypt, ensure, claimant, bind, Except.bind, pure,
          Except.pure, Except.mapError]
      subst storing
      exact sound.restage extended rfl rfl auxiliary sound.unprojected sound.makerObserves
        sound.takerIntent sound.refundStaged

end Sound

section Loads

variable {revision : Nat} {row : JournalRow} (sound : Sound primitives store agreement state)
  {table : JournalTable}
include sound

theorem Sound.row_none (other : ∀ row, store.journal[revision]? = some row → row.entry.table ≠ table) :
    store.row table revision = none := by
  rw [sound.contiguous.row_eq]
  cases found : store.journal[revision]? with
  | none => rfl
  | some row => simp [Option.filter, other row found]

theorem Sound.row_some
    (found : store.journal[revision]? = some row) : store.row row.entry.table revision = some row := by
  rw [sound.contiguous.row_eq, found]
  simp [Option.filter]

theorem Sound.row_idle {stage : Nat} (staged : ∀ entry : JournalEntry, entry.table = table → entry.stage = stage)
    (other : ∀ row, store.journal[revision]? = some row → ¬row.entry.stage = stage) :
    store.row table revision = none :=
  sound.row_none fun row found same => other row found (staged row.entry same)

theorem Sound.row_facts (found : store.journal[revision]? = some row) :
    ∃ before after, row.committedRevision = revision + 1 ∧ revision + 1 ≤ store.activeRevision ∧
      revision + 1 < 2 ^ 63 ∧ store.replayJournal primitives agreement revision = .ok before ∧
      store.EntryApplies primitives agreement revision before after row.entry ∧
      store.row row.entry.table revision = some row := by
  have inside : revision < store.activeRevision := by
    rw [← sound.contiguous.length_journal]
    exact (List.getElem?_eq_some_iff.mp found).1
  have bounded := sound.contiguous.bounded
  obtain ⟨before, after, read, applied, -⟩ := sound.row_applies found
  exact ⟨before, after, sound.contiguous.committed_at found, inside, by omega, read,
    applyEntry_ok_iff.mp applied, sound.row_some found⟩

/-- How a loader reads a sound file: what it returns is there, rows of its kind are returned, and
    where there is none of them it says so. -/
structure Reads {Transition : Type} (primitives : StorePrimitives) (store : Store)
    (wrap : Transition → CommittedTransition) (kind : JournalEntry → Prop) (idleAt : Nat → Prop)
    (load : Nat → Except StoreError (Option Transition)) : Prop where
  returned : ∀ {revision transition}, load revision = .ok (some transition) →
    store.Holds primitives revision (wrap transition)
  row : ∀ {revision row}, store.journal[revision]? = some row → kind row.entry →
    ∃ transition, load revision = .ok (some transition) ∧
      row.entry.Records primitives (wrap transition)
  idle : ∀ {revision}, idleAt revision →
    (∀ row, store.journal[revision]? = some row → ¬ kind row.entry) → load revision = .ok none

omit sound in
theorem Reads.of_rows {Transition : Type} {wrap : Transition → CommittedTransition} {kind : JournalEntry → Prop}
    {idleAt : Nat → Prop} {load : Nat → Except StoreError (Option Transition)}
    (row : ∀ {revision row}, store.journal[revision]? = some row → kind row.entry →
      ∃ transition, load revision = .ok (some transition) ∧ row.entry.Records primitives (wrap transition))
    (idle : ∀ {revision}, idleAt revision →
      (∀ row, store.journal[revision]? = some row → ¬kind row.entry) → load revision = .ok none)
    (read : ∀ {revision transition}, load revision = .ok (some transition) →
      (∀ row, store.journal[revision]? = some row → ¬kind row.entry) → idleAt revision) :
    Reads primitives store wrap kind idleAt load where
  returned := by
    intro revision transition loaded
    by_cases other : ∀ row, store.journal[revision]? = some row → ¬kind row.entry
    · cases (idle (read loaded other) other).symm.trans loaded
    · simp only [Classical.not_forall, Classical.not_not] at other
      obtain ⟨stored, found, own⟩ := other
      obtain ⟨returned, same, records⟩ := row found own
      cases same.symm.trans loaded
      exact ⟨stored, found, records⟩
  row := row
  idle := idle

theorem reads_observedTaker (maker : store.localParticipant = .maker) :
    Reads primitives store .observedTakerFirstLock (fun entry => entry.stage = 0)
      (· ≤ store.activeRevision) (store.loadObservedTakerFirstLockTransition primitives) := by
  apply Reads.of_rows
  case row =>
    intro revision row found early
    obtain ⟨before, after, committed, inside, fits, -, applied, listed⟩ := sound.row_facts found
    cases entry : row.entry with
    | observedTakerFirstLock transition =>
      rw [entry] at applied listed
      have revalidated := (applyObservedTakerSlot_ok.mp applied.2).1
      refine ⟨transition, ?_, rfl⟩
      simp only [table] at listed
      simp only [loadObservedTakerFirstLockTransition, sound.head, listed, entry, ok_bind, checked_ok,
        sqlU64_ok_iff, mapError_ok_iff]
      exact ⟨maker, by omega, sound.makerObserves maker, fits, ⟨committed, inside⟩, revalidated, rfl⟩
    | firstLock transition =>
      rw [entry] at applied
      exact absurd (applied.1.symm.trans maker) (by simp)
    | _ => simp [entry, stage] at early
  case idle =>
    intro revision bound other
    have bounded := sound.contiguous.bounded
    have none : store.row .firstLock revision = none :=
      sound.row_idle (by rintro (_ | _) <;> simp [table, stage]) other
    simp only [loadObservedTakerFirstLockTransition, sound.head, none, ok_bind, checked_ok, sqlU64_ok_iff]
    exact ⟨maker, by omega, sound.makerObserves maker, bound, rfl⟩
  case read =>
    intro revision transition loaded _
    apply Nat.le_of_not_lt
    intro past
    simp [loadObservedTakerFirstLockTransition, sound.head, sound.contiguous.row_beyond _ (Nat.le_of_lt past),
      ok_bind, bind_ok_iff, pure, Except.pure] at loaded

theorem reads_makerLock (maker : store.localParticipant = .maker) :
    Reads primitives store .makerLock (fun entry => entry.stage = 1)
      (· ≤ store.activeRevision) (store.loadMakerLockTransition primitives) := by
  apply Reads.of_rows
  case row =>
    intro revision row found locking
    obtain ⟨before, after, committed, inside, fits, -, applied, listed⟩ := sound.row_facts found
    cases entry : row.entry with
    | makerLock staged transition =>
      rw [entry] at applied listed
      obtain ⟨-, _, slot, -⟩ := applied
      obtain ⟨intentRow, stored, sameStage, closed, revalidated, -⟩ := applyMakerLockSlot_ok.mp slot
      refine ⟨transition, ?_, rfl⟩
      simp only [table] at listed
      simp only [loadMakerLockTransition, sound.head, listed, stored, entry, ok_bind, checked_ok,
        sqlU64_ok_iff, mapError_ok_iff]
      exact ⟨maker, by omega, by omega, fits, ⟨committed, sameStage, committed ▸ closed, inside⟩,
        revalidated, rfl⟩
    | observedMakerLock transition =>
      rw [entry] at applied
      exact absurd (applied.1.symm.trans maker) (by simp)
    | _ => simp [entry, stage] at locking
  case idle =>
    intro revision bound other
    have bounded := sound.contiguous.bounded
    have none : store.row .makerLock revision = none :=
      sound.row_idle (by rintro (_ | _) <;> simp [table, stage]) other
    simp only [loadMakerLockTransition, sound.head, none, ok_bind, checked_ok, sqlU64_ok_iff]
    exact ⟨maker, bound, by omega, rfl⟩
  case read =>
    intro revision transition loaded _
    simp only [loadMakerLockTransition, sound.head, ok_bind, checked_ok] at loaded
    exact loaded.2.1

theorem reads_observedMaker (taker : store.localParticipant = .taker) :
    Reads primitives store .observedMakerLock (fun entry => entry.stage = 1)
      (· ≤ store.activeRevision) (store.loadObservedMakerLockTransition primitives) := by
  apply Reads.of_rows
  case row =>
    intro revision row found locking
    obtain ⟨before, after, committed, inside, fits, -, applied, listed⟩ := sound.row_facts found
    cases entry : row.entry with
    | observedMakerLock transition =>
      rw [entry] at applied listed
      obtain ⟨-, _, slot, -⟩ := applied
      have revalidated := (applyObservedMakerSlot_ok.mp slot).1
      refine ⟨transition, ?_, rfl⟩
      simp only [table] at listed
      simp only [loadObservedMakerLockTransition, sound.head, listed, entry, ok_bind, checked_ok,
        sqlU64_ok_iff, mapError_ok_iff]
      exact ⟨taker, by omega, by omega, fits, ⟨committed, inside⟩, revalidated, rfl⟩
    | makerLock staged transition =>
      rw [entry] at applied
      exact absurd (applied.1.symm.trans taker) (by simp)
    | _ => simp [entry, stage] at locking
  case idle =>
    intro revision bound other
    have bounded := sound.contiguous.bounded
    have none : store.row .observedMakerLock revision = none :=
      sound.row_idle (by rintro (_ | _) <;> simp [table, stage]) other
    simp only [loadObservedMakerLockTransition, sound.head, none, ok_bind, checked_ok, sqlU64_ok_iff]
    exact ⟨taker, bound, by omega, rfl⟩
  case read =>
    intro revision transition loaded _
    simp only [loadObservedMakerLockTransition, sound.head, ok_bind, checked_ok] at loaded
    exact loaded.2.1

theorem reads_refund : Reads primitives store .refund (fun entry => entry.stage = 3)
      (· ≤ store.activeRevision) (store.loadRefundTransition primitives) := by
  apply Reads.of_rows
  case row =>
    intro revision row found refunding
    obtain ⟨before, after, committed, inside, fits, read, applied, listed⟩ := sound.row_facts found
    cases entry : row.entry with
    | refund retained transition =>
      rw [entry] at applied listed
      obtain ⟨_, slot, -⟩ := applied
      obtain ⟨staged, -, revalidated, -⟩ := applyRefundJournalSlot_ok.mp slot
      refine ⟨transition, ?_, rfl⟩
      simp only [table] at listed
      simp only [loadRefundTransition, sound.head, listed, read, entry, ok_bind, checked_ok, sqlU64_ok_iff,
        mapError_ok_iff]
      exact ⟨by omega, by omega, fits, ⟨committed, inside⟩, staged, revalidated, rfl⟩
    | _ => simp [entry, stage] at refunding
  case idle =>
    intro revision bound other
    have bounded := sound.contiguous.bounded
    have none : store.row .refund revision = none :=
      sound.row_idle (by rintro (_ | _) <;> simp [table, stage]) other
    simp only [loadRefundTransition, sound.head, none, ok_bind, checked_ok, sqlU64_ok_iff]
    exact ⟨by omega, rfl⟩
  case read =>
    intro revision transition loaded _
    apply Nat.le_of_not_lt
    intro past
    simp [loadRefundTransition, sound.head, sound.contiguous.row_beyond _ (Nat.le_of_lt past), ok_bind,
      bind_ok_iff, pure, Except.pure] at loaded

omit sound in
theorem revalidate_followup {record : ClaimTransitionRecordV1} {localParticipant : Participant}
    {coordinator : SwapCoordinator} {intent : Option ClaimIntentV1} {primitives : Primitives}
    (followup : record.step = .followupZcash) (preimage : Option Bytes32) :
    record.revalidate primitives agreement localParticipant coordinator intent revision preimage =
      record.revalidate primitives agreement localParticipant coordinator intent revision none := by
  unfold step at followup
  unfold revalidate rebuild
    rebuildEvidence
  cases evidence : record.evidence with
  | revealing => simp [evidence] at followup
  | followup claim => rfl

theorem reads_ownedClaim (step : ClaimStepV1) :
    Reads primitives store .claim
      (fun entry => ∃ staged record, entry = .ownedClaim staged record ∧ record.step = step)
      (· ≤ store.activeRevision) (store.loadOwnedClaimTransition primitives step) := by
  apply Reads.of_rows
  case row =>
    rintro revision row found ⟨staged, record, entry, rfl⟩
    obtain ⟨before, after, committed, inside, fits, read, applied, listed⟩ := sound.row_facts found
    rw [entry] at applied listed
    obtain ⟨_, slot, -⟩ := applied
    obtain ⟨intentRow, material, preimage, rebuilt, stored, secret, sameStage, closed, -, -, -, -,
      decrypted, valid, -⟩ := applyOwnedClaimSlot_ok.mp slot
    refine ⟨rebuilt, ?_, by rw [entry]; exact (revalidate_record valid).symm⟩
    simp only [table] at listed
    simp only [loadOwnedClaimTransition, sound.head, listed, entry, stored, read, ok_bind, checked_ok,
      sqlU64_ok_iff, mapError_ok_iff, ne_eq, not_true_eq_false, if_false]
    refine ⟨by omega, by omega, ⟨sameStage, committed ▸ closed⟩, ?_⟩
    cases claim : record.step with
    | revealingLez =>
      refine ⟨some preimage, ?_, rebuilt, valid, rfl⟩
      simp only [ownedClaimSecret, secret, decrypted]
      rfl
    | followupZcash =>
      rw [revalidate_followup claim] at valid
      exact ⟨none, rfl, rebuilt, valid, rfl⟩
  case idle =>
    intro revision bound other
    have bounded := sound.contiguous.bounded
    simp only [loadOwnedClaimTransition, sound.head, ok_bind, checked_ok, sqlU64_ok_iff]
    refine ⟨bound, by omega, ?_⟩
    cases found : store.row .ownedClaim revision with
    | none => rfl
    | some row =>
      rw [sound.contiguous.row_eq, Option.filter_eq_some_iff] at found
      cases entry : row.entry with
      | ownedClaim staged record =>
        have different : record.step ≠ step := fun same =>
          other row found.1 ⟨staged, record, entry, same⟩
        simp only [entry, if_pos different]
        rfl
      | _ => simp [entry, table] at found
  case read =>
    intro revision transition loaded _
    simp only [loadOwnedClaimTransition, sound.head, ok_bind, checked_ok] at loaded
    exact loaded.1

theorem reads_observedClaim (step : ClaimStepV1) :
    Reads primitives store .claim
      (fun entry => ∃ created record, entry = .observedClaim created record ∧ record.step = step)
      (· ≤ store.activeRevision) (store.loadObservedClaimTransition primitives step) := by
  apply Reads.of_rows
  case row =>
    rintro revision row found ⟨created, record, entry, rfl⟩
    obtain ⟨before, after, committed, inside, fits, read, applied, listed⟩ := sound.row_facts found
    rw [entry] at applied listed
    obtain ⟨_, slot, -⟩ := applied
    obtain ⟨preimage, rebuilt, secret, valid, -⟩ := applyObservedClaimSlot_ok.mp slot
    refine ⟨rebuilt, ?_, by rw [entry]; exact (revalidate_record valid).symm⟩
    simp only [table] at listed
    simp only [loadObservedClaimTransition, sound.head, listed, entry, read, ok_bind, checked_ok,
      sqlU64_ok_iff, mapError_ok_iff, ne_eq, not_true_eq_false, if_false]
    refine ⟨by omega, by omega, ?_⟩
    cases claim : record.step with
    | revealingLez =>
      refine ⟨preimage, ?_, rebuilt, valid, rfl⟩
      rw [claim] at secret
      simp only [observedClaimPreimage, checked_ok] at secret
      obtain ⟨-, secret⟩ := secret
      cases material : store.claimMaterial with
      | none => simp [material] at secret
      | some material' =>
        simp only [material] at secret
        simp only [observedClaimSecret, material, committed]
        exact secret
    | followupZcash =>
      rw [revalidate_followup claim] at valid
      exact ⟨none, rfl, rebuilt, valid, rfl⟩
  case idle =>
    intro revision bound other
    have bounded := sound.contiguous.bounded
    simp only [loadObservedClaimTransition, sound.head, ok_bind, checked_ok, sqlU64_ok_iff]
    refine ⟨bound, by omega, ?_⟩
    cases found : store.row .observedClaim revision with
    | none => rfl
    | some row =>
      rw [sound.contiguous.row_eq, Option.filter_eq_some_iff] at found
      cases entry : row.entry with
      | observedClaim created record =>
        have different : record.step ≠ step := fun same =>
          other row found.1 ⟨created, record, entry, same⟩
        simp only [entry, if_pos different]
        rfl
      | _ => simp [entry, table] at found
  case read =>
    intro revision transition loaded _
    simp only [loadObservedClaimTransition, sound.head, ok_bind, checked_ok] at loaded
    exact loaded.1

theorem reads_firstLock (taker : store.localParticipant = .taker) :
    Reads primitives store .firstLock (fun entry => entry.stage = 0)
      (· = store.activeRevision) (store.loadFirstLockTransition primitives) := by
  apply Reads.of_rows
  case row =>
    intro revision row found early
    obtain ⟨before, after, committed, inside, fits, -, applied, listed⟩ := sound.row_facts found
    cases entry : row.entry with
    | firstLock transition =>
      rw [entry] at applied listed
      obtain ⟨-, _, slot, -⟩ := applied
      obtain ⟨intentRow, stored, start, closed, revalidated, -⟩ := applyFirstLockSlot_ok.mp slot
      refine ⟨transition, ?_, rfl⟩
      simp only [table] at listed
      simp only [loadFirstLockTransition, sound.validatedAgreement_ok, sound.contiguous.validates, listed,
        stored, entry, ok_bind, checked_ok, sqlU64_ok_iff, mapError_ok_iff]
      exact ⟨by omega, ⟨committed, start, closed, inside⟩, revalidated, rfl⟩
    | observedTakerFirstLock transition =>
      rw [entry] at applied
      exact absurd (applied.1.symm.trans taker) (by simp)
    | _ => simp [entry, stage] at early
  case idle =>
    rintro revision rfl other
    have bounded := sound.contiguous.bounded
    have none : store.row .firstLock store.activeRevision = none :=
      sound.contiguous.row_beyond _ (Nat.le_refl _)
    simp only [loadFirstLockTransition, sound.validatedAgreement_ok, sound.contiguous.validates, none,
      ok_bind, checked_ok, sqlU64_ok_iff]
    refine ⟨bounded, ?_, rfl⟩
    simp only [validateIdleFirstLock, checked_ok]
    refine ⟨trivial, ?_⟩
    cases staged : store.firstLockIntent with
    | none => rfl
    | some intentRow =>
      obtain ⟨start, valid, open_⟩ := sound.takerIntent intentRow staged
      cases closed : intentRow.closedRevision with
      | none =>
        have empty := open_.mp closed
        simp only [closed, checked_ok, mapError_ok_iff]
        exact ⟨start.trans empty.symm, empty ▸ valid⟩
      | some closedRevision =>
        have moved : store.activeRevision ≠ 0 := fun empty => by
          rw [← open_, closed] at empty
          cases empty
        obtain ⟨row, transition, found, entry⟩ := sound.taker_first_row taker moved
        obtain ⟨_, _, committed, inside, -, -, applied, listed⟩ := sound.row_facts found
        rw [entry] at applied listed
        obtain ⟨-, _, slot, -⟩ := applied
        obtain ⟨retained, stored, -, closing, revalidated, -⟩ := applyFirstLockSlot_ok.mp slot
        rw [staged] at stored
        cases stored
        simp only [table] at listed
        rw [closed] at closing
        cases closing
        simp only [closed, start, listed, entry, checked_ok, mapError_ok_iff]
        exact ⟨⟨committed, inside⟩, revalidated⟩
  case read =>
    intro revision transition loaded other
    have none : store.row .firstLock revision = none :=
      sound.row_idle (by rintro (_ | _) <;> simp [table, stage]) other
    simp [loadFirstLockTransition, sound.validatedAgreement_ok, sound.contiguous.validates, none, ok_bind,
      bind_ok_iff, pure, Except.pure] at loaded

end Loads

end Store

end AtomicSwaps.Zec
