import AtomicSwaps.Zec.StoreSteps

namespace AtomicSwaps.Zec

open AtomicSwaps.Core Fallible ClaimTransitionV1 JournalEntry

theorem ZecAgreementV1.validateAt_offered {primitives : Primitives} {record : ZecAgreementRecordV1} {now : Nat}
    {agreement : ZecAgreementV1} (valid : ZecAgreementV1.validateAt primitives record now = .ok agreement) :
    agreement.coordinator.phase = .offered ∧ agreement.coordinator.makerLockTransactionId = none := by
  simp only [validateAt, deriveProtocol, checked_ok] at valid
  obtain ⟨envelope, -, binding, -, protocol, derived, returned⟩ := valid
  cases returned
  obtain ⟨_, -, -, _, -, -, _, -, _, -, _, -, returned⟩ := derived
  cases returned
  exact ⟨rfl, rfl⟩

namespace Store

variable {primitives : StorePrimitives} {store store' : Store} {agreement : ZecAgreementV1}
  {state state' : JournalState} {outcome : ProjectionCommit} {entry : JournalEntry}

namespace Sound

variable (sound : Sound primitives store agreement state)
include sound

theorem initial (empty : store.activeRevision = 0) : state = agreement.initialState := by
  have replayed := sound.replayed
  rw [empty] at replayed
  exact (Except.ok.inj replayed).symm

theorem started (moved : state.coordinator.phase ≠ .offered) : store.activeRevision ≠ 0 := by
  intro empty
  rw [sound.initial empty] at moved
  exact moved (ZecAgreementV1.validateAt_offered sound.agreed).1

end Sound

variable {revision : Nat} {transition : CommittedTransition} {localParticipant : Participant}
  {step : RefundStepV1} {nonce : BitVec 192}

def Holds (primitives : StorePrimitives) (store : Store) (revision : Nat)
    (transition : CommittedTransition) : Prop :=
  ∃ row, store.journal[revision]? = some row ∧ row.entry.Records primitives transition

structure Grown (primitives : StorePrimitives) (agreement : ZecAgreementV1) (store : Store)
    (state : JournalState) (transition : CommittedTransition) (store' : Store)
    (state' : JournalState) : Prop where
  extended : Extends store store'
  sound : Sound primitives store' agreement state'
  active : store'.activeRevision = store.activeRevision + 1
  applied : transition.applyTo primitives
    (state.resumed agreement store.localParticipant store.activeRevision) =
      .ok (state'.resumed agreement store.localParticipant store.activeRevision)

def Commits (primitives : StorePrimitives) (agreement : ZecAgreementV1) (store : Store) (state : JournalState)
    (transition : CommittedTransition) (outcome : ProjectionCommit) (store' : Store) : Prop :=
  (outcome.wasReplay = true ∧ store' = store ∧
    ∃ revision, outcome.revision = revision + 1 ∧ store.Holds primitives revision transition) ∨
  (outcome = { revision := store.activeRevision + 1, wasReplay := false } ∧
    ∃ state', Grown primitives agreement store state transition store' state')

theorem Sound.holds (sound : Sound primitives store agreement state) {table : JournalTable} {row : JournalRow}
    (found : store.row table revision = some row) (records : row.entry.Records primitives transition) :
    store.Holds primitives revision transition := by
  rw [sound.contiguous.row_eq, Option.filter_eq_some_iff] at found
  exact ⟨row, found.1, records⟩

section Commit

variable (sound : Sound primitives store agreement state) (appends : Appends store store' entry)
  (applied : store'.applyEntry primitives agreement store.activeRevision state entry = .ok state')
  (records : entry.Records primitives transition) (stage : phaseStage state.coordinator.phase ≤ entry.stage)
  (single : entry.stage = 1 → phaseStage state.coordinator.phase = 0)
  (reached : entry.stage ≤ phaseStage state'.coordinator.phase)
  (auxiliary : store'.validateClaimAuxiliaryState primitives agreement (store.activeRevision + 1)
    state'.coordinator = .ok ())
  (refundIntent : ∀ row, store'.refundIntent = some row → store.refundIntent = some row)
include sound appends applied records stage single reached auxiliary refundIntent

/-- One row more: it applies at the head, and it does not fall back behind the stage reached. -/
theorem Sound.commit
    (unprojected : store'.localParticipant = .maker →
      (∀ row, store'.makerLockIntent = some row → row.closedRevision = none) →
      state'.coordinator.makerLockTransactionId = none)
    (makerObserves : store'.localParticipant = .maker → store'.firstLockIntent = none)
    (takerIntent : ∀ row, store'.firstLockIntent = some row → row.predecessorRevision = 0 ∧
      row.intent.validateForActive agreement store'.localParticipant 0 = .ok () ∧
      row.closedRevision ≠ none) :
    Commits primitives agreement store state transition
      { revision := store.activeRevision + 1, wasReplay := false } store' := by
  have renumbered := appends.contiguous sound.contiguous
  have replayed := applyEntry_records records applied
  rw [appends.extended.role] at replayed
  refine .inr ⟨rfl, state', appends.extended, ?_, appends.active, replayed⟩
  refine { agreed := ?_, accepted := ?_, contiguous := renumbered, replayed := ?_, ordered := ?_,
           passed := ?_, auxiliary := by rw [appends.active]; exact auxiliary, unprojected, makerObserves,
           takerIntent := ?_, refundStaged := fun row stored =>
             sound.refundStaged row (refundIntent row stored) }
  · rw [appends.agreementRow]
    exact sound.agreed
  · rw [appends.agreementRow]
    exact sound.accepted
  · rw [appends.active]
    exact Journal.replay_succ_ok.mpr ⟨state,
      appends.extended.replayJournal_ok sound.contiguous renumbered (Nat.le_refl _) sound.replayed,
      by rw [slot_eq renumbered (appends.last sound.contiguous)]; exact applied⟩
  · rw [appends.journal, List.pairwise_append]
    refine ⟨sound.ordered, List.pairwise_singleton _ _, ?_⟩
    intro earlier member later added
    obtain rfl := List.mem_singleton.mp added
    have passed := sound.passed earlier member
    exact ⟨Nat.le_trans passed stage, fun one again => by
      have := single again
      omega⟩
  · intro row member
    rw [appends.journal, List.mem_append, List.mem_singleton] at member
    rcases member with old | rfl
    · exact Nat.le_trans (sound.passed row old) (Nat.le_trans stage reached)
    · exact reached
  · intro row stored
    obtain ⟨start, valid, closed⟩ := takerIntent row stored
    exact ⟨start, valid, by simp [closed, appends.active]⟩

theorem Sound.advance (firstLockIntent : store'.firstLockIntent = store.firstLockIntent)
    (moved : store.localParticipant = .taker → state.coordinator.phase ≠ .offered)
    (makerLockIntent : store'.makerLockIntent = store.makerLockIntent)
    (pinned : store.localParticipant = .maker →
      state'.coordinator.makerLockTransactionId = state.coordinator.makerLockTransactionId) :
    Commits primitives agreement store state transition
      { revision := store.activeRevision + 1, wasReplay := false } store' := by
  refine sound.commit appends applied records stage single reached auxiliary refundIntent ?_ ?_ ?_
  · intro role idle
    rw [appends.extended.role] at role
    rw [makerLockIntent] at idle
    rw [pinned role]
    exact sound.unprojected role idle
  · intro role
    rw [appends.extended.role] at role
    rw [firstLockIntent]
    exact sound.makerObserves role
  · intro row staged
    rw [firstLockIntent] at staged
    obtain ⟨start, valid, closed⟩ := sound.takerIntent row staged
    refine ⟨start, appends.extended.role ▸ valid, fun open_ => ?_⟩
    cases role : store.localParticipant with
    | maker => simp [sound.makerObserves role] at staged
    | taker => exact sound.started (moved role) (closed.mp open_)

end Commit

theorem extends_commitRow (store : Store) (predecessor : Nat) (entry : JournalEntry) :
    Extends store (store.commitRow predecessor entry) where
  role := rfl
  key := rfl
  journal := List.prefix_append _ _
  firstLockIntent := fun _ stored _ => stored
  makerLockIntent := fun _ stored _ => stored
  claimIntent := fun _ stored _ => stored
  claimMaterial := fun _ stored => stored

theorem appends_commitRow (entry : JournalEntry) (fits : store.activeRevision + 1 < 2 ^ 63) :
    Appends store (store.commitRow store.activeRevision entry) entry :=
  ⟨extends_commitRow store _ _, rfl, rfl, fits⟩

variable {coordinator : SwapCoordinator} {record : ClaimTransitionRecordV1}

theorem reachedPhase_stage (step : ClaimStepV1) : phaseStage step.reachedPhase = 2 := by
  cases step <;> rfl

theorem expectedPhase_stage (step : ClaimStepV1) : phaseStage step.expectedPhase ≤ 2 := by
  cases step <;> decide

theorem expectedPhase_moved (step : ClaimStepV1) : step.expectedPhase ≠ .offered := by
  cases step <;> decide

theorem revalidate_observed {primitives : Primitives} {preimage : Option Bytes32} {rebuilt : ClaimTransitionV1}
    (valid : record.revalidate primitives agreement localParticipant coordinator none revision preimage = .ok rebuilt)
    : record.intentStagedRevision = none ∧ record.context = agreement.context localParticipant := by
  simp only [ClaimTransitionRecordV1.revalidate, checked_ok] at valid
  obtain ⟨-, context, _, trusted, -⟩ := valid
  refine ⟨?_, context⟩
  cases staged : record.intentStagedRevision with
  | none => rfl
  | some revision => simp [ClaimTransitionRecordV1.rebuild, staged] at trusted

theorem record_step {primitives : Primitives} (transition : ClaimTransitionV1) :
    (transition.record primitives).step = transition.step := by
  unfold ClaimTransitionRecordV1.step record step
  cases transition.evidence <;> rfl

theorem phaseStage_le (phase : Phase) : phaseStage phase ≤ 3 := by
  cases phase <;> decide

theorem ready_moved (ready : step.ready agreement .offered = true) : False := by
  cases step with
  | lez => simp [RefundStepV1.ready, RefundStepV1.oneLegLezRefundIsValid] at ready
  | zcash =>
    simp only [RefundStepV1.ready, lezRefundedPhase] at ready
    split at ready <;> simp at ready

theorem revalidate_owned {transition : RefundTransitionV1} {retained : Option RefundIntentV1}
    (valid : transition.revalidate agreement localParticipant coordinator revision retained = .ok ())
    (owned : transition.owned = true) :
    ∃ step : RefundStepV1, localParticipant = step.owner agreement ∧
      step.ready agreement coordinator.phase = true := by
  simp only [RefundTransitionV1.revalidate, RefundTransitionV1.rebuild, owned, checked_ok] at valid
  obtain ⟨-, -, _, rebuilt, -⟩ := valid
  cases retained with
  | none => simp at rebuilt
  | some intent =>
    simp only [RefundIntentV1.revalidate, RefundIntentV1.validateForActive, RefundIntentV1.fromActive,
      RefundStepV1.validateActivePhase, checked_ok] at rebuilt
    obtain ⟨⟨context, -, _, ⟨ready, owner, -⟩, -⟩, -⟩ := rebuilt
    rw [context] at owner
    exact ⟨intent.prepared.step, owner, ready⟩

variable {row : ClaimIntentRow} (sound : Sound primitives store agreement state)
include sound

theorem Sound.pending_claim (staged : store.claimIntent = some row) (pending : row.closedRevision = none) :
    ∃ material prepared, store.claimMaterial = some material ∧
      row.materialCreatedRevision = material.createdRevision ∧
      row.intent.revalidate agreement store.localParticipant state.coordinator
        store.activeRevision = .ok () ∧
      store.openClaimPayload primitives agreement row.intent row.protectedPayload = .ok prepared := by
  have valid := sound.claimIntent_ok staged
  simp only [validateClaimIntent, validateClaimIntentMaterial, validateClaimIntentPosition, pending,
    checked_ok, mapError_ok_iff] at valid
  obtain ⟨linked, revalidated, prepared, opened, -⟩ := valid
  cases secret : store.claimMaterial with
  | none => simp [secret] at linked
  | some material =>
    simp only [secret, ensure_ok_iff] at linked
    exact ⟨material, prepared, rfl, linked, revalidated, opened⟩

theorem Sound.open_claim (staged : store.claimIntent = some row) (pending : row.closedRevision = none) :
    store.localParticipant = row.intent.step.claimant agreement ∧
      state.coordinator.phase = row.intent.step.expectedPhase := by
  obtain ⟨_, _, -, -, revalidated, -⟩ := sound.pending_claim staged pending
  simp only [ClaimIntentV1.revalidate, ClaimIntentV1.fromProtectedBinding, checked_ok] at revalidated
  obtain ⟨-, -, _, ⟨active, -⟩, -⟩ := revalidated
  exact (validateClaimContext_ok active).2

theorem Sound.idle_claims (early : phaseStage state.coordinator.phase = 0) :
    ∀ row, store.claimIntent = some row → row.closedRevision.isSome := by
  intro row staged
  cases pending : row.closedRevision with
  | some => rfl
  | none =>
    have phase := (sound.open_claim staged pending).2
    rw [phase] at early
    cases step : row.intent.step <;> simp [step, ClaimStepV1.expectedPhase, phaseStage] at early

theorem commitObservedTakerFirstLockTransition_ok {transition : ObservedTakerFirstLockTransitionV1}
    (observable : transition.predecessorRevision = store.activeRevision → phaseStage state.coordinator.phase = 0)
    (committed : store.commitObservedTakerFirstLockTransition primitives transition = .ok (outcome, store')) :
    Commits primitives agreement store state (.observedTakerFirstLock transition) outcome store' := by
  simp only [commitObservedTakerFirstLockTransition, sound.head, ok_bind, checked_ok, requireRole,
    sqlU64_ok_iff, mapError_ok_iff] at committed
  obtain ⟨-, maker, fits, revalidated, -, committed⟩ := committed
  cases found : store.row .firstLock transition.predecessorRevision with
  | some existing =>
    simp only [found, checked_ok] at committed
    obtain ⟨⟨-, -, same⟩, returned⟩ := committed
    cases returned
    exact .inl ⟨rfl, rfl, _, rfl, sound.holds found (by rw [same]; rfl)⟩
  | none =>
    simp only [found, checked_ok, mapError_ok_iff] at committed
    obtain ⟨atHead, tracked, selected, coordinator, projected, returned⟩ := committed
    cases returned
    have early := observable atHead.symm
    rw [← atHead] at fits revalidated projected ⊢
    have appends := appends_commitRow (.observedTakerFirstLock transition) fits
    have applied : (store.commitRow store.activeRevision
        (.observedTakerFirstLock transition)).applyEntry primitives agreement store.activeRevision
        state (.observedTakerFirstLock transition) = .ok { tracked with coordinator } :=
      applyEntry_ok_iff.mpr ⟨maker, applyObservedTakerSlot_ok.mpr
        ⟨revalidated, tracked, coordinator, selected, projected, rfl⟩⟩
    have keeps := transition.applyTo_keeps early projected
    exact sound.advance appends applied rfl (by simp [early, stage]) (by simp [stage]) (by simp [stage])
      (sound.auxiliary_frame appends rfl rfl (sound.idle_claims early) _ _) (fun _ stored => stored)
      rfl (fun taker => by simp [maker] at taker) rfl fun _ => keeps.makerLock

theorem commitObservedMakerLockTransition_ok {transition : ObservedMakerLockTransitionV1}
    (confirmed : transition.predecessorRevision = store.activeRevision →
      state.coordinator.phase = .takerLockConfirmed)
    (committed : store.commitObservedMakerLockTransition primitives transition =
      .ok (outcome, store')) :
    Commits primitives agreement store state (.observedMakerLock transition) outcome store' := by
  simp only [commitObservedMakerLockTransition, sound.head, ok_bind, checked_ok, requireRole, sqlU64_ok_iff,
    mapError_ok_iff] at committed
  obtain ⟨-, taker, fits, revalidated, committed⟩ := committed
  cases found : store.row .observedMakerLock transition.predecessorRevision with
  | some existing =>
    simp only [found, checked_ok] at committed
    obtain ⟨⟨-, -, same⟩, returned⟩ := committed
    cases returned
    exact .inl ⟨rfl, rfl, _, rfl, sound.holds found (by rw [same]; rfl)⟩
  | none =>
    simp only [found, checked_ok, mapError_ok_iff] at committed
    obtain ⟨atHead, coordinator, projected, returned⟩ := committed
    cases returned
    have phase := confirmed atHead.symm
    rw [← atHead] at fits revalidated projected ⊢
    have appends := appends_commitRow (.observedMakerLock transition) fits
    have applied : (store.commitRow store.activeRevision
        (.observedMakerLock transition)).applyEntry primitives agreement store.activeRevision
        state (.observedMakerLock transition) = .ok { state with coordinator } :=
      applyEntry_ok_iff.mpr ⟨taker, coordinator,
        applyObservedMakerSlot_ok.mpr ⟨revalidated, projected⟩, rfl⟩
    have locked := transition.applyTo_confirmed phase projected
    have early : phaseStage state.coordinator.phase = 0 := by rw [phase]; rfl
    exact sound.advance appends applied rfl (by simp [early])
      (fun _ => early) (by simp [locked, stage, phaseStage])
      (sound.auxiliary_frame appends rfl rfl (sound.idle_claims early) _ _) (fun _ stored => stored)
      rfl (fun _ => by simp [phase]) rfl fun maker => by simp [taker] at maker

theorem commitMakerLockTransition_ok {transition : MakerLockTransitionV1}
    (committed : store.commitMakerLockTransition primitives transition = .ok (outcome, store')) :
    Commits primitives agreement store state (.makerLock transition) outcome store' := by
  simp only [commitMakerLockTransition, sound.head, ok_bind, checked_ok, requireRole, sqlU64_ok_iff] at committed
  obtain ⟨maker, fits, committed⟩ := committed
  cases staged : store.makerLockIntent with
  | none => simp [staged] at committed
  | some intentRow =>
    simp only [staged, checked_ok, mapError_ok_iff] at committed
    obtain ⟨revalidated, committed⟩ := committed
    cases found : store.row .makerLock transition.predecessorRevision with
    | some existing =>
      simp only [found, checked_ok] at committed
      obtain ⟨⟨-, same, -⟩, returned⟩ := committed
      cases returned
      exact .inl ⟨rfl, rfl, _, rfl, sound.holds found (by rw [same]; rfl)⟩
    | none =>
      simp only [found, checked_ok, mapError_ok_iff] at committed
      obtain ⟨⟨atHead, pending, -⟩, coordinator, projected, returned⟩ := committed
      simp only [pure_ok, Prod.mk.injEq] at returned
      obtain ⟨rfl, closing⟩ := returned
      rw [← atHead] at fits revalidated projected closing ⊢
      have unpinned := sound.unprojected maker.symm fun row stored => by
        rw [staged] at stored
        cases stored
        exact pending
      obtain ⟨phase, locked⟩ := transition.applyTo_unpinned unpinned projected
      have early : phaseStage state.coordinator.phase = 0 := by rw [phase]; rfl
      have appends : Appends store store' (.makerLock intentRow.stagedRevision transition) := by
        subst closing
        refine ⟨{ extends_commitRow store _ _ with makerLockIntent := fun row stored closed => ?_ }, rfl, rfl, fits⟩
        rw [staged] at stored
        cases stored
        simp [pending] at closed
      have extended := appends.extended
      have applied : store'.applyEntry primitives agreement store.activeRevision state
          (.makerLock intentRow.stagedRevision transition) = .ok { state with coordinator } := by
        refine applyEntry_ok_iff.mpr ⟨extended.role.trans maker.symm, coordinator,
          applyMakerLockSlot_ok.mpr
            ⟨{ intentRow with closedRevision := some (store.activeRevision + 1) },
              by rw [← closing], rfl, rfl, ?_, projected⟩, rfl⟩
        rw [extended.role]
        exact revalidated
      refine sound.commit appends applied rfl
        (by simp [early]) (fun _ => early) (by simp [locked, stage, phaseStage])
        (sound.auxiliary_frame appends (by rw [← closing]; rfl) (by rw [← closing]; rfl)
          (sound.idle_claims early) _ _)
        (fun row stored => by rw [← closing] at stored; exact stored) ?_ ?_ ?_
      · intro _ idle
        have closed := idle _ (by rw [← closing])
        cases closed
      · intro _
        rw [← closing]
        exact sound.makerObserves maker.symm
      · intro row stored
        rw [← closing] at stored
        simp [commitRow, sound.makerObserves maker.symm] at stored

theorem commitFirstLockTransition_ok {transition : FirstLockTransitionV1} {next : SwapCoordinator}
    (offered : transition.predecessorRevision = store.activeRevision →
      transition.applyTo agreement state.coordinator store.activeRevision = .ok next)
    (committed : store.commitFirstLockTransition primitives transition = .ok (outcome, store')) :
    Commits primitives agreement store state (.firstLock transition) outcome store' := by
  simp only [commitFirstLockTransition, sound.validatedAgreement_ok, sound.contiguous.validates, ok_bind,
    checked_ok, sqlU64_ok_iff] at committed
  obtain ⟨fits, committed⟩ := committed
  cases staged : store.firstLockIntent with
  | none => simp [staged] at committed
  | some intentRow =>
    simp only [staged, checked_ok, mapError_ok_iff] at committed
    obtain ⟨revalidated, committed⟩ := committed
    cases found : store.row .firstLock transition.predecessorRevision with
    | some existing =>
      simp only [found, checked_ok] at committed
      obtain ⟨-, same, returned⟩ := committed
      cases returned
      exact .inl ⟨rfl, rfl, _, rfl, sound.holds found (by rw [same]; rfl)⟩
    | none =>
      simp only [found, checked_ok] at committed
      obtain ⟨⟨atHead, start, pending⟩, returned⟩ := committed
      simp only [pure_ok, Prod.mk.injEq] at returned
      obtain ⟨rfl, closing⟩ := returned
      have projected := offered atHead.symm
      rw [← atHead] at fits revalidated start closing ⊢
      have taker : store.localParticipant = .taker := by
        cases role : store.localParticipant with
        | taker => rfl
        | maker => simp [sound.makerObserves role] at staged
      obtain ⟨-, valid, closed⟩ := sound.takerIntent intentRow staged
      have empty := closed.mp pending
      have early : phaseStage state.coordinator.phase = 0 := by
        rw [sound.initial empty]
        simp only [ZecAgreementV1.initialState, (ZecAgreementV1.validateAt_offered sound.agreed).1]
        rfl
      have keeps := transition.applyTo_keeps early projected
      have appends : Appends store store' (.firstLock transition) := by
        subst closing
        refine ⟨{ extends_commitRow store _ _ with firstLockIntent := fun row stored closed => ?_ }, rfl, rfl, fits⟩
        rw [staged] at stored
        cases stored
        simp [pending] at closed
      have extended := appends.extended
      have applied : store'.applyEntry primitives agreement store.activeRevision state
          (.firstLock transition) = .ok { state with coordinator := next } := by
        refine applyEntry_ok_iff.mpr ⟨extended.role.trans taker, next,
          applyFirstLockSlot_ok.mpr
            ⟨{ intentRow with closedRevision := some (store.activeRevision + 1) },
              by rw [← closing], start, rfl, ?_, projected⟩, rfl⟩
        rw [extended.role]
        exact revalidated
      refine sound.commit appends applied rfl (by simp [early]) (by simp [stage]) (by simp [stage])
        (sound.auxiliary_frame appends (by rw [← closing]; rfl) (by rw [← closing]; rfl)
          (sound.idle_claims early) _ _)
        (fun row stored => by rw [← closing] at stored; exact stored) ?_ ?_ ?_
      · intro maker
        simp [extended.role, taker] at maker
      · intro maker
        simp [extended.role, taker] at maker
      · intro row stored
        rw [← closing] at stored
        cases stored
        exact ⟨start.trans empty, extended.role ▸ valid, by simp⟩

theorem Sound.closed_claim
    (appends : Appends store store' (.ownedClaim row.stagedRevision record)) {closed : ClaimIntentRow}
    (staged : store.claimIntent = some row) (pending : row.closedRevision = none)
    (closing : closed = { row with closedRevision := some (store.activeRevision + 1) }) :
    store'.validateClaimIntent primitives agreement revision coordinator closed = .ok () := by
  obtain ⟨material, prepared, secret, linked, revalidated, opened⟩ :=
    sound.pending_claim staged pending
  have renumbered := appends.contiguous sound.contiguous
  have found := appends.row_last sound.contiguous
  simp only [table, nextRow] at found
  have extended := appends.extended
  have replayed := extended.replayJournal_ok sound.contiguous renumbered (Nat.le_refl _)
    sound.replayed
  subst closing
  simp only [validateClaimIntent, validateClaimIntentMaterial, validateClaimIntentPosition,
    extended.claimMaterial material secret, extended.openClaimPayload_eq, extended.role, Nat.add_sub_cancel,
    found, checked_ok, mapError_ok_iff]
  exact ⟨linked, ⟨Nat.succ_pos _, ⟨trivial, trivial⟩, state, replayed, revalidated⟩, prepared, opened, rfl⟩

theorem commitOwnedClaimTransition_ok {transition : ClaimTransitionV1}
    (committed : store.commitOwnedClaimTransition primitives transition = .ok (outcome, store')) :
    Commits primitives agreement store state (.claim transition) outcome store' := by
  simp only [commitOwnedClaimTransition, sound.head, ok_bind, checked_ok, sqlU64_ok_iff] at committed
  obtain ⟨fits, committed⟩ := committed
  cases staged : store.claimIntent with
  | none => simp [staged] at committed
  | some intentRow =>
    simp only [staged] at committed
    cases found : store.row .ownedClaim transition.predecessorRevision with
    | some existing =>
      simp only [found, checked_ok] at committed
      obtain ⟨⟨-, same, -⟩, returned⟩ := committed
      cases returned
      exact .inl ⟨rfl, rfl, _, rfl, sound.holds found (by rw [same]; rfl)⟩
    | none =>
      simp only [found, checked_ok] at committed
      obtain ⟨⟨atHead, pending, -⟩, committed⟩ := committed
      obtain ⟨material, prepared, secret, linked, revalidated, opened⟩ :=
        sound.pending_claim staged pending
      simp only [secret, checked_ok, mapError_ok_iff] at committed
      obtain ⟨⟨purpose, -⟩, preimage, decrypted, rebuilt, valid, coordinator, projected, returned⟩ :=
        committed
      simp only [pure_ok, Prod.mk.injEq] at returned
      obtain ⟨rfl, closing⟩ := returned
      rw [← atHead] at fits valid projected closing ⊢
      obtain ⟨phase, reached, makerLock, -⟩ := transition.applyTo_ok projected
      have appends : Appends store store'
          (.ownedClaim intentRow.stagedRevision (transition.record primitives.toPrimitives)) := by
        subst closing
        refine ⟨{ extends_commitRow store _ _ with claimIntent := fun row stored closed => ?_ }, rfl, rfl, fits⟩
        rw [staged] at stored
        cases stored
        simp [pending] at closed
      have extended := appends.extended
      have applied : store'.applyEntry primitives agreement store.activeRevision state
          (.ownedClaim intentRow.stagedRevision (transition.record primitives.toPrimitives)) =
            .ok { state with coordinator } := by
        refine applyEntry_ok_iff.mpr ⟨coordinator, applyOwnedClaimSlot_ok.mpr
          ⟨{ intentRow with closedRevision := some (store.activeRevision + 1) }, material, preimage,
            rebuilt, by rw [← closing], extended.claimMaterial material secret, rfl, rfl, ?_,
            ⟨prepared, ?_⟩, linked, purpose, ?_, ?_, ?_⟩, rfl⟩
        · rw [extended.role]
          exact revalidated
        · rw [extended.openClaimPayload_eq]
          exact opened
        · rw [extended.decryptClaimMaterial_eq]
          exact decrypted
        · rw [extended.role]
          exact valid
        · rw [applyTo_congr (ClaimTransitionRecordV1.revalidate_record valid)]
          exact projected
      have auxiliary : store'.validateClaimAuxiliaryState primitives agreement
          (store.activeRevision + 1) coordinator = .ok () := by
        have keptMaterial := extended.validateClaimMaterial_ok sound.contiguous
          (appends.contiguous sound.contiguous) (sound.claimMaterial_ok secret)
        have closed : store'.claimIntent =
            some { intentRow with closedRevision := some (store.activeRevision + 1) } := by
          rw [← closing]
        simp only [validateClaimAuxiliaryState, checked_ok, extended.claimMaterial material secret, closed]
        exact ⟨keptMaterial, sound.closed_claim appends staged pending rfl⟩
      exact sound.advance appends applied rfl (by rw [phase]; exact expectedPhase_stage _) (by simp [stage])
        (by rw [reached, reachedPhase_stage]; exact Nat.le_refl 2) auxiliary
        (fun row stored => by rw [← closing] at stored; exact stored) (by rw [← closing]; rfl)
        (fun _ => by rw [phase]; exact expectedPhase_moved _) (by rw [← closing]; rfl) fun _ => makerLock

theorem Sound.observer_idle
    {step : ClaimStepV1} (observer : store.localParticipant = (step.claimant agreement).other)
    (phase : state.coordinator.phase = step.expectedPhase) :
    ∀ row, store.claimIntent = some row → row.closedRevision.isSome := by
  intro row staged
  cases pending : row.closedRevision with
  | some => rfl
  | none =>
    obtain ⟨claimant, open_⟩ := sound.open_claim staged pending
    have same : row.intent.step = step := by
      rw [phase] at open_
      cases step <;> cases other : row.intent.step <;>
        simp [other, ClaimStepV1.expectedPhase] at open_ ⊢
    rw [claimant, same] at observer
    cases party : step.claimant agreement <;> simp [party, Participant.other] at observer

/-- The secret a counterparty published, sealed as the material of the follow-up claim. -/
def followUpMaterial (primitives : StorePrimitives) (store : Store) (agreement : ZecAgreementV1) (created : Nat)
    (nonce : BitVec 192) (preimage : Bytes32) : ClaimMaterialRow :=
  { purpose := .observedFollowUpClaim, createdRevision := created
    envelope := primitives.material.encrypt store.claimKey
      (claimMaterialContext agreement store.localParticipant .observedFollowUpClaim) nonce preimage }

omit sound in
theorem decrypt_followUpMaterial (created : Nat) (nonce : BitVec 192) (preimage : Bytes32) :
    store.decryptClaimMaterial primitives agreement
      (store.followUpMaterial primitives agreement created nonce preimage) = .ok preimage := by
  simp only [followUpMaterial, decryptClaimMaterial, Aead.decrypt_encrypt, Except.mapError]

omit sound in
theorem validate_followUpMaterial {row : JournalRow} {created : Nat} {preimage : Bytes32}
    (observer : store.localParticipant ≠ agreement.lezClaimant)
    (found : store.row .observedClaim created = some row)
    (entry : row.entry = .observedClaim (some (created + 1)) record)
    (committed : row.committedRevision = created + 1) (revealing : record.step = .revealingLez) :
    store.validateClaimMaterial primitives agreement
      (store.followUpMaterial primitives agreement (created + 1) nonce preimage) = .ok () := by
  simp only [validateClaimMaterial, decrypt_followUpMaterial, ok_bind, checked_ok]
  have found : store.row .observedClaim (created + 1 - 1) = some row := found
  dsimp only [followUpMaterial, validateClaimMaterialOrigin]
  simp only [found, entry, checked_ok]
  exact ⟨⟨⟨observer, Nat.succ_pos _⟩, revealing, committed, trivial⟩, rfl⟩

theorem commitObservedClaimTransition_ok {transition : ClaimTransitionV1}
    (committed : store.commitObservedClaimTransition primitives transition nonce = .ok (outcome, store')) :
    Commits primitives agreement store state (.claim transition) outcome store' := by
  simp only [commitObservedClaimTransition, sound.head, ok_bind, checked_ok, sqlU64_ok_iff] at committed
  obtain ⟨fits, committed⟩ := committed
  cases found : store.row .observedClaim transition.predecessorRevision with
  | some existing =>
    simp only [found, checked_ok] at committed
    obtain ⟨⟨-, same, -⟩, returned⟩ := committed
    cases returned
    exact .inl ⟨rfl, rfl, _, rfl, sound.holds found (by rw [same]; rfl)⟩
  | none =>
    simp only [found, checked_ok, mapError_ok_iff] at committed
    obtain ⟨atHead, unset, rebuilt, valid, coordinator, projected, committed⟩ := committed
    rw [← atHead] at fits valid projected committed
    obtain ⟨phase, reached, makerLock, role⟩ := transition.applyTo_ok projected
    obtain ⟨unstaged, context⟩ := revalidate_observed valid
    have observer : store.localParticipant = (transition.step.claimant agreement).other := by
      have own : transition.context = agreement.context store.localParticipant := context
      have unowned : transition.intentStagedRevision = none := unstaged
      rw [own] at role
      simpa [party, owned, unowned] using role
    have late : phaseStage state.coordinator.phase ≤ 2 := by
      rw [phase]
      exact expectedPhase_stage _
    have claimed : phaseStage coordinator.phase = 2 := by rw [reached, reachedPhase_stage]
    have moved : state.coordinator.phase ≠ .offered := by
      rw [phase]
      exact expectedPhase_moved _
    cases evidence : transition.evidence with
    | followup claim =>
      simp only [evidence] at committed valid
      cases committed
      have appends := appends_commitRow (.observedClaim none (transition.record primitives.toPrimitives)) fits
      have applied : (store.commitRow store.activeRevision (.observedClaim none
          (transition.record primitives.toPrimitives))).applyEntry primitives agreement
            store.activeRevision state
            (.observedClaim none (transition.record primitives.toPrimitives)) =
          .ok { state with coordinator } := by
        refine applyEntry_ok_iff.mpr ⟨coordinator, applyObservedClaimSlot_ok.mpr
          ⟨none, rebuilt, ?_, valid, ?_⟩, rfl⟩
        · rw [record_step]
          simp [step, evidence, ClaimTransitionEvidence.step,
            observedClaimPreimage, ensure, ok_bind, pure, Except.pure]
        · rw [applyTo_congr (ClaimTransitionRecordV1.revalidate_record valid)]
          exact projected
      exact sound.advance appends applied rfl late (by simp [stage]) (by rw [claimed]; exact Nat.le_refl 2)
        (sound.auxiliary_frame appends rfl rfl (sound.observer_idle observer phase) _ _) (fun _ stored => stored)
        rfl (fun _ => moved) rfl fun _ => makerLock
    | revealing claim =>
      have revealing : (transition.record primitives.toPrimitives).step = .revealingLez := by
        rw [record_step]
        simp [step, evidence, ClaimTransitionEvidence.step]
      simp only [evidence, Option.isSome_some, forall_const] at committed valid unset
      simp only [pure_ok, Prod.mk.injEq] at committed
      obtain ⟨rfl, storing⟩ := committed
      have unstagedIntent : store.claimIntent = none := by
        cases staged : store.claimIntent with
        | none => rfl
        | some row =>
          have checked := sound.claimIntent_ok staged
          simp [validateClaimIntent, validateClaimIntentMaterial, unset, bind, Except.bind] at checked
      have appends : Appends store store' (.observedClaim (some (store.activeRevision + 1))
          (transition.record primitives.toPrimitives)) := by
        subst storing
        refine ⟨{ extends_commitRow store _ _ with claimMaterial := fun _ stored => ?_ }, rfl, rfl, fits⟩
        simp [unset] at stored
      have extended := appends.extended
      have notClaimant : store'.localParticipant ≠ agreement.lezClaimant := by
        have party : transition.step = .revealingLez := (record_step transition).symm.trans revealing
        rw [extended.role, observer, party]
        simp only [ClaimStepV1.claimant]
        cases agreement.lezClaimant <;> simp [Participant.other]
      have stored : store'.claimMaterial = some (store'.followUpMaterial primitives agreement
          (store.activeRevision + 1) nonce claim.preimage) := by
        rw [← storing]
        rfl
      have applied : store'.applyEntry primitives agreement store.activeRevision state
          (.observedClaim (some (store.activeRevision + 1))
            (transition.record primitives.toPrimitives)) = .ok { state with coordinator } := by
        refine applyEntry_ok_iff.mpr ⟨coordinator, applyObservedClaimSlot_ok.mpr
          ⟨some claim.preimage, rebuilt, ?_, ?_, ?_⟩, rfl⟩
        · simp only [revealing, observedClaimPreimage, stored, decrypt_followUpMaterial, checked_ok]
          exact ⟨trivial, ⟨rfl, rfl⟩, _, rfl, rfl⟩
        · rw [extended.role]
          exact valid
        · rw [applyTo_congr (ClaimTransitionRecordV1.revalidate_record valid)]
          exact projected
      have auxiliary : store'.validateClaimAuxiliaryState primitives agreement
          (store.activeRevision + 1) coordinator = .ok () := by
        have idle : store'.claimIntent = none := by
          rw [← storing]
          exact unstagedIntent
        simp only [validateClaimAuxiliaryState, stored, idle, checked_ok]
        exact ⟨validate_followUpMaterial notClaimant (appends.row_last sound.contiguous) rfl rfl revealing, rfl⟩
      exact sound.advance appends applied rfl late (by simp [stage]) (by rw [claimed]; exact Nat.le_refl 2)
        auxiliary (fun row stored => by rw [← storing] at stored; exact stored) (by rw [← storing]; rfl)
        (fun _ => moved) (by rw [← storing]; rfl) fun _ => makerLock

/-- Who refunds its own leg has no claim intent open: no phase lets one party do both. -/
theorem Sound.owner_idle (owner : store.localParticipant = step.owner agreement)
    (ready : step.ready agreement state.coordinator.phase = true) :
    ∀ row, store.claimIntent = some row → row.closedRevision.isSome := by
  intro row staged
  cases pending : row.closedRevision with
  | some => rfl
  | none =>
    obtain ⟨claimant, phase⟩ := sound.open_claim staged pending
    rw [phase] at ready
    rw [claimant] at owner
    cases step with
    | zcash =>
      cases claim : row.intent.step <;>
        simp only [claim, RefundStepV1.ready, ClaimStepV1.expectedPhase, lezRefundedPhase] at ready <;>
        split at ready <;> simp at ready
    | lez =>
      cases claim : row.intent.step with
      | followupZcash =>
        simp [claim, RefundStepV1.ready, RefundStepV1.oneLegLezRefundIsValid, ClaimStepV1.expectedPhase] at ready
      | revealingLez =>
        simp only [claim, ClaimStepV1.claimant, RefundStepV1.owner, ZecAgreementV1.lezClaimant,
          ZecAgreementV1.lezDepositor] at owner
        cases direction : agreement.direction <;> simp [direction, roleMapping] at owner

theorem commitRefundTransition_ok {transition : RefundTransitionV1}
    (observedIdle : transition.owned = false → ∀ row, store.claimIntent = some row → row.closedRevision.isSome)
    (committed : store.commitRefundTransition primitives transition = .ok (outcome, store')) :
    Commits primitives agreement store state (.refund transition) outcome store' ∧
      store'.claimIntent = store.claimIntent := by
  simp only [commitRefundTransition, sound.head, ok_bind, checked_ok, requireRole, sqlU64_ok_iff] at committed
  obtain ⟨-, fits, committed⟩ := committed
  cases found : store.row .refund transition.predecessorRevision with
  | some existing =>
    simp only [found, bind_ok_iff] at committed
    obtain ⟨before, -, committed⟩ := committed
    cases entry : existing.entry with
    | refund retained durable =>
      simp only [entry, checked_ok] at committed
      obtain ⟨-, -, ⟨-, -, same⟩, returned⟩ := committed
      cases returned
      exact ⟨.inl ⟨rfl, rfl, _, rfl, sound.holds found (by rw [entry]; exact same)⟩, rfl⟩
    | _ => simp [entry] at committed
  | none =>
    simp only [found, checked_ok, mapError_ok_iff] at committed
    obtain ⟨atHead, owned, revalidated, coordinator, projected, returned⟩ := committed
    simp only [pure_ok, Prod.mk.injEq] at returned
    obtain ⟨rfl, consuming⟩ := returned
    rw [← atHead] at fits revalidated projected consuming ⊢
    obtain ⟨ready, refunded, makerLock⟩ := transition.applyTo_ok projected
    have idle : ∀ row, store.claimIntent = some row → row.closedRevision.isSome := by
      cases own : transition.owned with
      | false => exact observedIdle own
      | true =>
        obtain ⟨step, owner, due⟩ := revalidate_owned revalidated own
        exact sound.owner_idle owner due
    have appends : Appends store store' (.refund store.refundIntent transition) := by
      subst consuming
      exact ⟨{ extends_commitRow store _ _ with }, rfl, rfl, fits⟩
    have staged : store.refundIntent.all
        fun row => decide (row.intent.stagedRevision = row.stagedRevision) := by
      cases open_ : store.refundIntent with
      | none => rfl
      | some row => simp [sound.refundStaged row open_]
    have applied : store'.applyEntry primitives agreement store.activeRevision state
        (.refund store.refundIntent transition) = .ok { state with coordinator } := by
      refine applyEntry_ok_iff.mpr ⟨coordinator, applyRefundJournalSlot_ok.mpr
        ⟨staged, owned, ?_, projected⟩, rfl⟩
      rw [appends.extended.role]
      exact revalidated
    refine ⟨sound.advance appends applied rfl (phaseStage_le _) (by simp [stage])
      (by rw [refunded]; exact Nat.le_refl 3)
      (sound.auxiliary_frame appends (by rw [← consuming]; rfl) (by rw [← consuming]; rfl) idle _ _)
      (fun row stored => by rw [← consuming] at stored; cases stored) (by rw [← consuming]; rfl)
      (fun _ offered => by rw [offered] at ready; exact ready_moved ready)
      (by rw [← consuming]; rfl) fun _ => makerLock, by rw [← consuming]; rfl⟩

end Store

end AtomicSwaps.Zec
