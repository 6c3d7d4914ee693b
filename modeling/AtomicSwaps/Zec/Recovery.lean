import AtomicSwaps.Transition.Run
import AtomicSwaps.Zec.SdkSteps

namespace AtomicSwaps.Zec

open AtomicSwaps.Core Fallible Program Transition AtomicSwaps.Zec.Store

def World.standing (world : World) (agreement : ZecAgreementV1) (state : JournalState) (revision : Nat) : World :=
  { world with active := state.resumed agreement world.store.localParticipant revision }

variable {primitives : StorePrimitives} {agreement : ZecAgreementV1} {world : World}
  {state : JournalState}

namespace Sdk

section Steps

variable {Transition : Type} {wrap : Transition → CommittedTransition}
  {load : Store → Nat → Except StoreError (Option Transition)}
  {apply : Transition → ActiveZecSwap → Except ZecSdkError ActiveZecSwap}
  {kind : JournalEntry → Prop} {idleAt : Nat → Prop} {revision : Nat} {current : JournalState}

theorem replayStep_some {transition : Transition} {next : ActiveZecSwap}
    (loaded : load world.store world.active.revision = .ok (some transition))
    (applied : apply transition world.active = .ok next) (bounded : world.active.revision + 1 < u64Limit) :
    replayStep load apply world = (.ok true,
      { world with active := { next with revision := world.active.revision + 1 } }) := by
  have read : persisted (fun store => load store world.active.revision) world =
      (.ok (some transition), world) := by
    rw [persisted_run, loaded]
    rfl
  have checked : lift (ensure (world.active.revision + 1 < u64Limit)
      (ZecSdkError.invalidProjectionRevision (u64Limit - 1) (u64Limit - 1))) world = (.ok (), world) := by
    rw [lift_run, ensure_ok_iff.mpr bounded]
  unfold replayStep
  rw [bind_run (active_run world), bind_run read]
  dsimp only
  rw [bind_run (lift_run _ world |>.trans (by rw [applied])), bind_run checked]
  rfl

theorem replayStep_none (loaded : load world.store world.active.revision = .ok none) :
    replayStep load apply world = (.ok false, world) := by
  have read : persisted (fun store => load store world.active.revision) world =
      (.ok none, world) := by
    rw [persisted_run, loaded]
    rfl
  unfold replayStep
  rw [bind_run (active_run world), bind_run read]
  rfl

theorem replayStep_row (sound : Store.Sound primitives world.store agreement state)
    (reads : Store.Reads primitives world.store wrap kind idleAt (load world.store))
    (applies : ∀ transition active, apply transition active = (wrap transition).applyTo primitives active)
    (read : world.store.replayJournal primitives agreement revision = .ok current) {row : JournalRow}
    (found : world.store.journal[revision]? = some row) (of : kind row.entry) :
    ∃ next, world.store.replayJournal primitives agreement (revision + 1) = .ok next ∧
      replayStep load apply (world.standing agreement current revision) =
        (.ok true, world.standing agreement next (revision + 1)) := by
  obtain ⟨transition, loaded, records⟩ := reads.row found of
  obtain ⟨before, next, readBefore, applied, readNext⟩ := sound.row_applies found
  obtain ⟨_, _, -, -, fits, -⟩ := sound.row_facts found
  rw [read] at readBefore
  cases readBefore
  have moved := applyEntry_records records applied
  rw [← applies] at moved
  have bounded : revision + 1 < u64Limit := by
    unfold u64Limit
    omega
  refine ⟨next, readNext, ?_⟩
  rw [replayStep_some loaded moved bounded]
  rfl

theorem replayStep_idle (reads : Store.Reads primitives world.store wrap kind idleAt (load world.store))
    (idle : idleAt revision) (other : ∀ row, world.store.journal[revision]? = some row → ¬ kind row.entry) :
    replayStep load apply (world.standing agreement current revision) =
      (.ok false, world.standing agreement current revision) :=
  replayStep_none (reads.idle idle other)

end Steps

variable {step : Sdk Bool} {stage : Nat} {revision : Nat}

def From (store : Store) (stage revision : Nat) : Prop :=
  ∀ position row, revision ≤ position → store.journal[position]? = some row →
    stage ≤ row.entry.stage

/-- A step of a replay loop reads the rows of one stage and stops elsewhere. -/
structure ReadsStage (primitives : StorePrimitives) (agreement : ZecAgreementV1) (world : World)
    (stage : Nat) (step : Sdk Bool) : Prop where
  row : ∀ {revision current row},
    world.store.replayJournal primitives agreement revision = .ok current →
    world.store.journal[revision]? = some row → row.entry.stage = stage →
    ∃ next, world.store.replayJournal primitives agreement (revision + 1) = .ok next ∧
      step (world.standing agreement current revision) =
        (.ok true, world.standing agreement next (revision + 1))
  idle : ∀ {revision current}, revision ≤ world.store.activeRevision →
    world.store.replayJournal primitives agreement revision = .ok current →
    (∀ row, world.store.journal[revision]? = some row → row.entry.stage ≠ stage) →
    step (world.standing agreement current revision) =
      (.ok false, world.standing agreement current revision)

theorem From.next {store : Store} (reached : From store stage revision)
    (ordered : store.journal.Pairwise Store.StageOrder)
    (other : ∀ row, store.journal[revision]? = some row → row.entry.stage ≠ stage) :
    From store (stage + 1) revision := by
  intro position row later found
  have bound := (List.getElem?_eq_some_iff.mp found).1
  cases first : store.journal[revision]? with
  | none =>
    have := List.getElem?_eq_none_iff.mp first
    omega
  | some start =>
    have startStage := reached revision start (Nat.le_refl _) first
    have different := other start first
    have order : start.entry.stage ≤ row.entry.stage := by
      by_cases same : revision = position
      · rw [same, found] at first
        cases first
        exact Nat.le_refl _
      · obtain ⟨startBound, startRow⟩ := List.getElem?_eq_some_iff.mp first
        obtain ⟨rowBound, rowRow⟩ := List.getElem?_eq_some_iff.mp found
        have pair := List.pairwise_iff_getElem.mp ordered revision position startBound rowBound
          (by omega)
        rw [startRow, rowRow] at pair
        exact pair.1
    omega

theorem replayLoop_run (sound : Store.Sound primitives world.store agreement state)
    (reads : ReadsStage primitives agreement world stage step)
    (fuel : Nat) : ∀ {revision current}, revision ≤ world.store.activeRevision →
      world.store.activeRevision < fuel + revision →
      world.store.replayJournal primitives agreement revision = .ok current →
      From world.store stage revision →
      ∃ last final, last ≤ world.store.activeRevision ∧
        world.store.replayJournal primitives agreement last = .ok final ∧
        From world.store (stage + 1) last ∧
        replayLoop step fuel (world.standing agreement current revision) =
          (.ok (), world.standing agreement final last) := by
  induction fuel with
  | zero =>
    intro revision current bound enough
    omega
  | succ fuel rest =>
    intro revision current bound enough read reached
    unfold replayLoop
    by_cases more : ∃ row, world.store.journal[revision]? = some row ∧ row.entry.stage = stage
    · obtain ⟨row, found, same⟩ := more
      obtain ⟨next, readNext, ran⟩ := reads.row read found same
      obtain ⟨_, _, -, inside, -⟩ := sound.row_facts found
      obtain ⟨last, final, lastBound, readLast, beyond, looped⟩ := rest inside (by omega) readNext
        fun position row later => reached position row (by omega)
      refine ⟨last, final, lastBound, readLast, beyond, ?_⟩
      rw [bind_run ran]
      exact looped
    · have other : ∀ row, world.store.journal[revision]? = some row → row.entry.stage ≠ stage :=
        fun row found same => more ⟨row, found, same⟩
      refine ⟨revision, current, bound, read, reached.next sound.ordered other, ?_⟩
      rw [bind_run (reads.idle bound read other)]
      rfl

theorem replayAll_run (sound : Store.Sound primitives world.store agreement state) {current : JournalState}
    (reads : ReadsStage primitives agreement world stage step) (bound : revision ≤ world.store.activeRevision)
    (read : world.store.replayJournal primitives agreement revision = .ok current)
    (reached : From world.store stage revision) :
    ∃ last final, last ≤ world.store.activeRevision ∧
      world.store.replayJournal primitives agreement last = .ok final ∧
      From world.store (stage + 1) last ∧
      replayAll step (world.standing agreement current revision) =
        (.ok (), world.standing agreement final last) :=
  replayLoop_run sound reads (world.store.activeRevision + 1) bound (by omega) read reached

theorem claimAwaited_eq {active : ActiveZecSwap} {step : ClaimStepV1}
    (phase : active.coordinator.phase = step.expectedPhase) :
    claimAwaited active =
      some (step, decide (active.localParticipant = step.claimant active.agreement)) := by
  unfold claimAwaited ActiveZecSwap.status
  rw [phase]
  cases step <;> rfl

theorem expectedPhase_injective {step other : ClaimStepV1}
    (same : step.expectedPhase = other.expectedPhase) : step = other := by
  cases step <;> cases other <;> simp [ClaimStepV1.expectedPhase] at same <;> rfl

section Claims

variable {store : Store} {revision committed : Nat} {coordinator after : SwapCoordinator}
  {record : ClaimTransitionRecordV1}

theorem rebuilt_step {primitives : Primitives} {rebuilt : ClaimTransitionV1}
    (same : rebuilt.record primitives = record) : rebuilt.step = record.step := by
  rw [← same, record_step]

theorem ownedClaim_awaited {staged : Nat}
    (slot : store.applyOwnedClaimSlot primitives agreement coordinator revision committed staged record = .ok after)
    :
    coordinator.phase = record.step.expectedPhase ∧
      store.localParticipant = record.step.claimant agreement := by
  obtain ⟨intentRow, _, _, rebuilt, -, -, -, -, revalidated, -, -, -, -, valid, projected⟩ :=
    applyOwnedClaimSlot_ok.mp slot
  have phase := (rebuilt.applyTo_ok projected).1
  rw [rebuilt_step (ClaimTransitionRecordV1.revalidate_record valid)] at phase
  simp only [ClaimIntentV1.revalidate, ClaimIntentV1.fromProtectedBinding, checked_ok] at revalidated
  obtain ⟨-, -, _, ⟨context, -⟩, -⟩ := revalidated
  obtain ⟨-, role, intentPhase⟩ := validateClaimContext_ok context
  rw [expectedPhase_injective (intentPhase.symm.trans phase)] at role
  exact ⟨phase, role⟩

theorem observedClaim_awaited {created : Option Nat}
    (slot : store.applyObservedClaimSlot primitives agreement coordinator revision committed created
      record = .ok after) :
    coordinator.phase = record.step.expectedPhase ∧
      store.localParticipant = (record.step.claimant agreement).other := by
  obtain ⟨_, rebuilt, -, valid, projected⟩ := applyObservedClaimSlot_ok.mp slot
  obtain ⟨phase, -, -, role⟩ := rebuilt.applyTo_ok projected
  have same := ClaimTransitionRecordV1.revalidate_record valid
  obtain ⟨unstaged, context⟩ := revalidate_observed valid
  rw [← same] at unstaged context
  have own : rebuilt.context = agreement.context store.localParticipant := context
  have unowned : rebuilt.intentStagedRevision = none := unstaged
  rw [own] at role
  rw [rebuilt_step same] at phase
  refine ⟨phase, ?_⟩
  rw [← rebuilt_step same]
  simpa [ClaimTransitionV1.party, ClaimTransitionV1.owned, unowned] using role

end Claims

theorem other_ne (participant : Participant) : participant.other ≠ participant := by
  cases participant <;> decide

section Sound

variable (sound : Store.Sound primitives world.store agreement state)
include sound

theorem replayClaimTransition_reads :
    ReadsStage primitives agreement world 2 (replayClaimTransition primitives) where
  row := by
    intro revision current row read found claims
    obtain ⟨before, after, readBefore, applied, -⟩ := sound.row_applies found
    rw [read] at readBefore
    cases readBefore
    rw [applyEntry_ok_iff] at applied
    unfold replayClaimTransition
    rw [bind_run (active_run _)]
    cases entry : row.entry with
    | ownedClaim staged record =>
      rw [entry] at applied
      obtain ⟨_, slot, -⟩ := applied
      obtain ⟨phase, role⟩ := ownedClaim_awaited slot
      have awaited : claimAwaited (world.standing agreement current revision).active =
          some (record.step, true) := by
        rw [claimAwaited_eq phase]
        simp [World.standing, JournalState.resumed, role]
      rw [awaited]
      exact replayStep_row sound (reads_ownedClaim sound record.step) (fun _ _ => rfl) read found
        ⟨staged, record, entry, rfl⟩
    | observedClaim created record =>
      rw [entry] at applied
      obtain ⟨_, slot, -⟩ := applied
      obtain ⟨phase, role⟩ := observedClaim_awaited slot
      have awaited : claimAwaited (world.standing agreement current revision).active =
          some (record.step, false) := by
        rw [claimAwaited_eq phase]
        simp [World.standing, JournalState.resumed, role, other_ne]
      rw [awaited]
      exact replayStep_row sound (reads_observedClaim sound record.step) (fun _ _ => rfl) read
        found ⟨created, record, entry, rfl⟩
    | _ => simp [entry, JournalEntry.stage] at claims
  idle := by
    intro revision current bound read other
    unfold replayClaimTransition
    rw [bind_run (active_run _)]
    cases claimAwaited (world.standing agreement current revision).active with
    | none => rfl
    | some awaited =>
      obtain ⟨step, own⟩ := awaited
      cases own with
      | true =>
        refine replayStep_idle (reads_ownedClaim sound step) bound ?_
        rintro row found ⟨staged, record, entry, -⟩
        exact other row found (by rw [entry]; rfl)
      | false =>
        refine replayStep_idle (reads_observedClaim sound step) bound ?_
        rintro row found ⟨created, record, entry, -⟩
        exact other row found (by rw [entry]; rfl)

theorem replayStage_reads {Transition : Type} {wrap : Transition → CommittedTransition}
    {load : Store → Nat → Except StoreError (Option Transition)}
    {apply : Transition → ActiveZecSwap → Except ZecSdkError ActiveZecSwap} {stage : Nat}
    (reads : Store.Reads primitives world.store wrap (fun entry => entry.stage = stage)
      (· ≤ world.store.activeRevision) (load world.store))
    (applies : ∀ transition active, apply transition active =
      (wrap transition).applyTo primitives active) :
    ReadsStage primitives agreement world stage (replayStep load apply) where
  row := fun read found same => replayStep_row sound reads applies read found same
  idle := fun bound _ other => replayStep_idle reads bound other

theorem replayOnce_run {revision : Nat} {step : Sdk Bool} {current : JournalState}
    (reads : ReadsStage primitives agreement world 1 step) (bound : revision ≤ world.store.activeRevision)
    (read : world.store.replayJournal primitives agreement revision = .ok current)
    (reached : From world.store 1 revision) :
    ∃ last final more, last ≤ world.store.activeRevision ∧
      world.store.replayJournal primitives agreement last = .ok final ∧
      From world.store 2 last ∧
      step (world.standing agreement current revision) =
        (.ok more, world.standing agreement final last) := by
  by_cases locks : ∃ row, world.store.journal[revision]? = some row ∧ row.entry.stage = 1
  · obtain ⟨row, found, same⟩ := locks
    obtain ⟨next, readNext, ran⟩ := reads.row read found same
    obtain ⟨_, _, -, inside, -⟩ := sound.row_facts found
    refine ⟨revision + 1, next, true, inside, readNext, ?_, ran⟩
    intro position other later foundOther
    obtain ⟨rowBound, rowRow⟩ := List.getElem?_eq_some_iff.mp found
    obtain ⟨otherBound, otherRow⟩ := List.getElem?_eq_some_iff.mp foundOther
    have pair := List.pairwise_iff_getElem.mp sound.ordered revision position rowBound otherBound
      (by omega)
    rw [rowRow, otherRow] at pair
    have different := pair.2 same
    have order := pair.1
    omega
  · have other : ∀ row, world.store.journal[revision]? = some row → row.entry.stage ≠ 1 :=
      fun row found same => locks ⟨row, found, same⟩
    exact ⟨revision, current, false, bound, read, reached.next sound.ordered other, reads.idle bound read other⟩

/-- A taker's own lock is its first row only: its intent was staged on revision zero. -/
theorem taker_locks_once (taker : world.store.localParticipant = .taker) : From world.store 1 1 := by
  intro position row later found
  refine Nat.pos_of_ne_zero fun early => ?_
  obtain ⟨_, _, -, applied, -⟩ := sound.row_applies found
  rw [applyEntry_ok_iff] at applied
  cases entry : row.entry with
  | firstLock transition =>
    rw [entry] at applied
    obtain ⟨-, _, slot, -⟩ := applied
    obtain ⟨intentRow, staged, start, -⟩ := applyFirstLockSlot_ok.mp slot
    have zero := (sound.takerIntent intentRow staged).1
    omega
  | observedTakerFirstLock transition =>
    rw [entry] at applied
    exact absurd (applied.1.symm.trans taker) (by simp)
  | _ => simp [entry, JournalEntry.stage] at early

theorem replayFirstLockTransition_run : ∃ last final, last ≤ world.store.activeRevision ∧
      world.store.replayJournal primitives agreement last = .ok final ∧
      From world.store 2 last ∧
      replayFirstLockTransition primitives (world.standing agreement agreement.initialState 0) =
        (.ok (), world.standing agreement final last) := by
  have start : world.store.replayJournal primitives agreement 0 = .ok agreement.initialState := rfl
  unfold replayFirstLockTransition
  rw [bind_run (active_run _)]
  cases role : world.store.localParticipant with
  | maker =>
    obtain ⟨first, middle, firstBound, readFirst, reached, ran⟩ := replayAll_run sound
      (replayStage_reads sound (reads_observedTaker sound role) fun _ _ => rfl)
      (Nat.zero_le _) start fun _ _ _ _ => Nat.zero_le _
    obtain ⟨last, final, more, lastBound, readLast, beyond, ranLock⟩ := replayOnce_run sound
      (replayStage_reads sound (reads_makerLock sound role) fun _ _ => rfl)
      firstBound readFirst reached
    refine ⟨last, final, lastBound, readLast, beyond, ?_⟩
    rw [if_pos (by exact role)]
    rw [bind_run (by exact ran), bind_run (by exact ranLock)]
    rfl
  | taker =>
    rw [if_neg (by simp [World.standing, JournalState.resumed, role])]
    have first : ∃ first middle more, first ≤ world.store.activeRevision ∧
        world.store.replayJournal primitives agreement first = .ok middle ∧
        From world.store 1 first ∧
        replayStep (fun store => store.loadFirstLockTransition primitives)
          (fun transition active => active.applyFirstLock transition)
          (world.standing agreement agreement.initialState 0) =
            (.ok more, world.standing agreement middle first) := by
      have reads := reads_firstLock sound role
      by_cases empty : world.store.activeRevision = 0
      · have absent (position : Nat) : world.store.journal[position]? = none := by
          rw [List.getElem?_eq_none_iff, sound.contiguous.length_journal, empty]
          exact Nat.zero_le _
        refine ⟨0, _, false, Nat.zero_le _, start, ?_, replayStep_idle reads empty.symm ?_⟩
        · intro position row _ found
          simp [absent] at found
        · intro row found
          simp [absent] at found
      · obtain ⟨row, transition, found, entry⟩ := sound.taker_first_row role empty
        have opening : row.entry.stage = 0 := by
          rw [entry]
          rfl
        obtain ⟨middle, readMiddle, ran⟩ :=
          replayStep_row sound reads (fun _ _ => rfl) start found opening
        refine ⟨1, middle, true, Nat.pos_of_ne_zero empty, readMiddle, ?_, ran⟩
        exact taker_locks_once sound role
    obtain ⟨first, middle, _, firstBound, readFirst, reached, ran⟩ := first
    obtain ⟨last, final, more, lastBound, readLast, beyond, ranLock⟩ := replayOnce_run sound
      (replayStage_reads sound (reads_observedMaker sound role) fun _ _ => rfl)
      firstBound readFirst reached
    refine ⟨last, final, lastBound, readLast, beyond, ?_⟩
    rw [bind_run ran, bind_run (by exact ranLock)]
    rfl

theorem resumeAllCapable_run : resumeAllCapable primitives world =
      (.ok (), world.standing agreement state world.store.activeRevision) := by
  obtain ⟨locked, afterLocks, lockedBound, readLocks, reachedClaims, ranLocks⟩ :=
    replayFirstLockTransition_run sound
  obtain ⟨claimed, afterClaims, claimedBound, readClaims, reachedRefunds, ranClaims⟩ :=
    replayAll_run sound (replayClaimTransition_reads sound) lockedBound readLocks reachedClaims
  obtain ⟨last, final, lastBound, readLast, beyond, ranRefunds⟩ := replayAll_run sound
    (replayStage_reads sound (reads_refund sound) fun _ _ => rfl)
    claimedBound readClaims reachedRefunds
  have complete : last = world.store.activeRevision := by
    refine Nat.le_antisymm lastBound (Nat.le_of_not_lt fun before => ?_)
    obtain ⟨row, found⟩ := sound.journal_some before
    have late := beyond last row (Nat.le_refl _) found
    cases entry : row.entry <;> simp [entry, JournalEntry.stage] at late
  subst complete
  rw [sound.replayed] at readLast
  cases readLast
  have accepted : persisted (fun store => store.validatedAgreement primitives) world =
      (.ok agreement, world) := by
    rw [persisted_run, sound.validatedAgreement_ok]
    rfl
  have fresh : modify (fun world : World => { world with
      active := .fresh agreement world.store.localParticipant
        world.store.agreementRow.acceptedRevision }) world =
      ((.ok (), world.standing agreement agreement.initialState 0) : Except ZecSdkError Unit × World) := by
    rw [modify_run, sound.accepted]
    rfl
  unfold resumeAllCapable
  rw [bind_run accepted, bind_run fresh, bind_run ranLocks, bind_run (by exact ranClaims)]
  exact ranRefunds

end Sound

end Sdk

/-- What a reader finds in the file: it opens under its key, its revisions are contiguous, its head is
    the fold of what was committed, and resuming leads there. -/
structure World.Recovers (primitives : StorePrimitives) (agreement : ZecAgreementV1)
    (world : World) : Prop where
  reopens : world.store.openClaimCapable primitives world.store.claimKey = .ok world.store
  numbered : world.store.journal.map JournalRow.predecessorRevision =
    List.range world.committed.length
  committed : ∀ row ∈ world.store.journal, row.committedRevision = row.predecessorRevision + 1
  folds : ∃ folded head resumed,
    world.folded primitives agreement = .ok folded ∧ folded.revision = world.committed.length ∧
    world.store.validatedJournalHead primitives = .ok head ∧ head.agreement = agreement ∧
    head.activeRevision = folded.revision ∧ head.state.coordinator = folded.coordinator ∧
    Sdk.resumeAllCapable primitives world = (.ok (), resumed) ∧
    resumed.active.coordinator = folded.coordinator ∧ resumed.active.revision = folded.revision

theorem folded_revision {start final : ActiveZecSwap} {transitions : List CommittedTransition}
    (read : transitions.foldlM (CommittedTransition.advance primitives) start = .ok final) :
    final.revision = start.revision + transitions.length := by
  induction transitions generalizing start with
  | nil =>
    cases read
    rfl
  | cons transition transitions rest =>
    rw [List.foldlM_cons, bind_ok_iff] at read
    obtain ⟨next, advanced, read⟩ := read
    obtain ⟨moved, -, returned⟩ := bind_ok_iff.mp advanced
    cases returned
    have length := rest read
    simp only [List.length_cons] at length ⊢
    omega

theorem World.SoundAt.recovers (sound : world.SoundAt primitives agreement state) :
    world.Recovers primitives agreement := by
  have counted := folded_revision sound.folded
  simp only [JournalState.resumed, ActiveZecSwap.fresh, Nat.zero_add] at counted
  exact
    { reopens := by
        unfold openClaimCapable
        split
        · exact bind_ok_iff.mpr ⟨_, sound.sound.head, rfl⟩
        · rfl
      numbered := by rw [← counted]; exact sound.sound.contiguous.numbered
      committed := sound.sound.contiguous.committed
      folds := ⟨_, _, _, sound.folded, counted, sound.sound.head, rfl, rfl, rfl,
        Sdk.resumeAllCapable_run sound.sound, rfl, rfl⟩ }

theorem World.activated_sound {localParticipant : Participant} {claimKey : ProtectedClaimKey}
    {wire : ZecAgreementRecordV1} {acceptedAt : Nat} {start : World}
    (activated : World.activated primitives localParticipant claimKey wire acceptedAt = .ok start) :
    ∃ agreement, ZecAgreementV1.validateAt primitives.toPrimitives wire acceptedAt = .ok agreement ∧
      start.Sound primitives agreement := by
  simp only [World.activated, createAgreement, checked_ok, mapError_ok_iff]
    at activated
  obtain ⟨_, ⟨agreement, valid, -, -, created⟩, accepted, read, returned⟩ := activated
  cases created
  cases returned
  simp only [validatedAgreement, checked_ok, mapError_ok_iff] at read
  rw [valid] at read
  obtain ⟨-, same⟩ := read
  cases same
  refine ⟨agreement, valid, agreement.initialState, ?_, rfl, Nat.zero_le _, _, rfl, rfl⟩
  exact
    { agreed := valid
      accepted := rfl
      contiguous := ⟨rfl, by simp, Nat.two_pow_pos 63⟩
      replayed := rfl
      ordered := .nil
      passed := by simp
      auxiliary := rfl
      unprojected := fun _ _ => (ZecAgreementV1.validateAt_offered valid).2
      makerObserves := fun _ => rfl
      takerIntent := by simp
      refundStaged := by simp }

def World.Steps (primitives : StorePrimitives) (world : World) (call : SdkCall) (next : World) : Prop :=
  next = world.after primitives call

theorem recovery_file_recovers {localParticipant : Participant} {claimKey : ProtectedClaimKey}
    {wire : ZecAgreementRecordV1} {acceptedAt : Nat} {start : World} {calls : List SdkCall}
    (activated : World.activated primitives localParticipant claimKey wire acceptedAt = .ok start)
    (run : Run (restrict (fun world call => call.KeepsClaim world) (World.Steps primitives)) start calls world) :
    ∃ agreement, ZecAgreementV1.validateAt primitives.toPrimitives wire acceptedAt = .ok agreement ∧
      world.Recovers primitives agreement := by
  obtain ⟨agreement, valid, initial⟩ := World.activated_sound activated
  obtain ⟨state, sound⟩ : world.Sound primitives agreement := by
    refine run.invariant initial fun before call after sound step => ?_
    obtain ⟨allowed, rfl⟩ := step
    exact Sdk.after_sound sound allowed
  exact ⟨agreement, valid, sound.recovers⟩

def sampleHash (bytes : Bytes) : Nat := bytes.foldl (fun value byte => value * 257 + byte.toNat + 1) 1

def samplePrimitives : StorePrimitives where
  sha256 bytes := BitVec.ofNat 256 (sampleHash bytes)
  hash160 bytes := BitVec.ofNat 160 (sampleHash bytes)
  encodeBody body := textBytes body.applicationSwapId
  branchId id := if id = 6 then some .nu62 else none
  publicKeyFromSlice := some
  signatureFromCompact := some
  normalizeS := id
  verifyEcdsa _ _ _ := true
  material :=
    { encipher := fun _ _ _ payload => List.replicate payload.toNat 0
      decipher := fun _ _ _ sealed => some (BitVec.ofNat 256 sealed.length)
      roundTrip := by simp }
  submission := { encipher := fun _ _ _ payload => payload, decipher := fun _ _ _ => some, roundTrip := by simp }
  payloadFingerprint envelope := BitVec.ofNat 256 envelope.ciphertext.length

def sampleSecret : Bytes32 := 5

def sampleKey : Participant → CompressedKey
  | .maker => ⟨2, 21⟩
  | .taker => ⟨3, 22⟩

variable (direction : SwapDirection)

def sampleContract : Bip199Contract :=
  { refundLockTime := 4
    refundPubkeyHash := samplePrimitives.hash160 (sampleKey (roleMapping direction).zcashRefunder).bytes
    secretDigest := samplePrimitives.secretDigest sampleSecret
    claimantPubkeyHash :=
      samplePrimitives.hash160 (sampleKey (roleMapping direction).zcashClaimant).bytes }

def sampleSwapId : Bytes32 := deriveLezSwapIdV1 samplePrimitives.toPrimitives "swap"

def sampleBody : ZecAgreementBodyV1 :=
  { applicationSwapId := "swap", direction, profile := .deterministicLocalV1
    participants := { maker := ⟨.witnessed 1, sampleKey .maker⟩, taker := ⟨.witnessed 2, sampleKey .taker⟩ }
    secretDigest := samplePrimitives.secretDigest sampleSecret
    lez :=
      { chain := ⟨.deterministicLocalV02, 1, 1⟩, amount := 50, escrowProgramId := 7
        metadataAccount := .metadata 7 sampleSwapId, custodyAccount := .custody 7 sampleSwapId
        asset := .native 8, bounded := by decide }
    zcash :=
      { profileId := .deterministicLocalV1, network := .regtest, consensusBranchId := 6
        valueZatoshis := 100, refundLockTime := 4
        refundPubkeyHash := (sampleContract direction).refundPubkeyHash
        secretDigest := samplePrimitives.secretDigest sampleSecret
        claimantPubkeyHash := (sampleContract direction).claimantPubkeyHash
        redeemScript := (sampleContract direction).redeemScript
        p2shScriptPubkey := (sampleContract direction).p2shScriptPubkey samplePrimitives.hash160 }
    transactionPolicy :=
      { fundingInputSetCommitment := 1, fundingFeeZatoshis := 1, minimumChangeZatoshis := 1
        claimFeeZatoshis := 1, refundFeeZatoshis := 1
        fundingChangeDestination := (sampleContract direction).refundPubkeyHash
        claimDestination := (sampleContract direction).claimantPubkeyHash
        refundDestination := (sampleContract direction).refundPubkeyHash
        expiryDeltaBlocks := 40 }
    refundPlan :=
      { lezFundingAnchorUnixSeconds := 0, zcashFundingAnchorHeight := 0
        earlierRefundLatestLezMs := 60000, laterRefundEarliestUnixSeconds := 90 }
    transcript := { sessionId := 1, offerCommitment := 1, expiresAtUnixSeconds := 1000 } }

def sampleRecord : ZecAgreementRecordV1 :=
  { schemaVersion := 2, body := sampleBody direction
    agreementCommitment := (sampleBody direction).commitment samplePrimitives.toPrimitives
    makerSignature := 1, takerSignature := 1 }

def sampleSubmission {Step : Type} (step : Step) (id : Bytes32) (identified : id ≠ 0) : PreparedSubmission Step :=
  { step, expectedSubmissionId := id, exactSubmission := [1], present := by decide
    sized := by decide, identified }

def sampleLock (step : FirstLockStepV1) (id : Bytes32) (identified : id ≠ 0) : FirstLockConfirmedEvidenceV1 :=
  { step, expectedSubmissionId := id, transactionId := ⟨"lock", by decide⟩, confirmations := 1
    identified, confirmed := Nat.one_pos }

def unavailable {α : Type} : Answer α := .error .unavailable

def sampleClaimPorts : ClaimPorts :=
  { prepareClaim := .ok (sampleSubmission .revealingLez 13 (by decide)), nonce := 0
    observeRevealingClaim := .ok .absent
    observeFundingBeforeReveal := .ok (.waiting .unstable)
    observeFollowupClaim := unavailable, submitClaim := unavailable }

def sampleRefundPorts : RefundPorts :=
  { eligibilityBeforePrepare := unavailable, prepareRefund := unavailable
    observePreparedRefund := unavailable, eligibilityBeforeSubmit := unavailable
    submitRefund := unavailable
    observeCounterpartyRefund := .ok (.confirmed
      { step := .lez, observedSubmissionId := 14, transactionId := "refund"
        position := ⟨.lez, .timestamp, 60⟩, confirmations := 1
        identified := by decide, named := by decide }) }

/-- A taker that sells ZEC locks, sees the maker's LEZ lock, and stages its claim of it. -/
def sampleClaimStaged : List SdkCall :=
  [.activateWithClaimPreimage sampleSecret 0,
    .stageFirstLock (.zcash (sampleSubmission .zcashFund 11 (by decide)) rfl),
    .projectFirstLock (sampleLock .zcashFund 11 (by decide)),
    .observeMakerLock (.ok (.confirmed (sampleLock .lezFund 12 (by decide)))),
    .driveClaim sampleClaimPorts]

def sampleStoreKey : ProtectedClaimKey := ⟨"key", 3⟩

def sampleActivated (role : Participant) (direction : SwapDirection) : Except StoreError World :=
  World.activated samplePrimitives role sampleStoreKey (sampleRecord direction) 0

theorem sampleActivated_some (role : Participant) (direction : SwapDirection) :
    (sampleActivated role direction).toOption.isSome := by
  cases role <;> cases direction <;> decide +kernel

def sampleStart (role : Participant) (direction : SwapDirection) : World :=
  (sampleActivated role direction).toOption.get (sampleActivated_some role direction)

theorem sampleActivated_ok (role : Participant) (direction : SwapDirection) :
    World.activated samplePrimitives role sampleStoreKey (sampleRecord direction) 0 =
      .ok (sampleStart role direction) :=
  ok_get (sampleActivated_some role direction)

theorem recovery_file_recovers_sample : ∃ agreement, ZecAgreementV1.validateAt samplePrimitives.toPrimitives
        (sampleRecord .takerSellsForeign) 0 = .ok agreement ∧
      (sampleClaimStaged.foldl (World.after samplePrimitives)
        (sampleStart .taker .takerSellsForeign)).Recovers samplePrimitives agreement := by
  refine recovery_file_recovers (sampleActivated_ok .taker .takerSellsForeign)
    (run_foldl _ fun world call member => ?_)
  simp only [sampleClaimStaged, List.mem_cons, List.not_mem_nil, or_false] at member
  rcases member with rfl | rfl | rfl | rfl | rfl <;> trivial

def sampleClaimRefunded : World :=
  (sampleClaimStaged ++ [SdkCall.driveRefund sampleRefundPorts]).foldl
    (World.after samplePrimitives) (sampleStart .taker .takerSellsForeign)

/-- The counterparty's LEZ refund is recorded over the staged claim, and the file cannot be opened
    again. -/
theorem refund_over_staged_claim_bricks_file :
    ∃ calls world, Run (World.Steps samplePrimitives) (sampleStart .taker .takerSellsForeign)
        calls world ∧
      world.committed.length = 3 ∧
      (∀ store, world.store.openClaimCapable samplePrimitives world.store.claimKey ≠ .ok store) ∧
      (∀ head, world.store.validatedJournalHead samplePrimitives ≠ .ok head) ∧
      (∀ resumed, Sdk.resumeAllCapable samplePrimitives world ≠ (.ok (), resumed)) := by
  have unopened : (sampleClaimRefunded.store.openClaimCapable samplePrimitives
      sampleClaimRefunded.store.claimKey).toOption.isNone := by decide +kernel
  have headless : (sampleClaimRefunded.store.validatedJournalHead samplePrimitives).toOption.isNone := by
    decide +kernel
  have unresumed : (Sdk.resumeAllCapable samplePrimitives sampleClaimRefunded).1.toOption.isNone := by
    decide +kernel
  have run : Run (restrict (fun _ _ => True) (World.Steps samplePrimitives)) _ _ sampleClaimRefunded :=
    run_foldl _ fun _ _ _ => trivial
  refine ⟨_, sampleClaimRefunded, run.of_restrict, by decide +kernel, fun store opened => ?_,
    fun head read => ?_, fun resumed read => ?_⟩
  · rw [opened] at unopened
    cases unopened
  · rw [read] at headless
    cases headless
  · rw [read] at unresumed
    cases unresumed

end AtomicSwaps.Zec
