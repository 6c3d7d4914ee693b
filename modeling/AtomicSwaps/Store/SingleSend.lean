import AtomicSwaps.Relational.Served
import AtomicSwaps.Store.PublicEffect

namespace AtomicSwaps.Store.PublicEffect

open AtomicSwaps.Core (Bytes32)
open Fallible Relational Transition StoreError PreparedPublicEffect

def StoreError.harmless (error : StoreError) : Prop := error ≠ .sqlite ∧ error ≠ .corruptPublicEffectState

theorem harmless_invalid : harmless .invalidPublicEffect := ⟨nofun, nofun⟩

theorem harmless_conflict : harmless .publicEffectConflict := ⟨nofun, nofun⟩

theorem harmless_missing : harmless .missingPublicEffect := ⟨nofun, nofun⟩

def PublicEffectState.rank : PublicEffectState → Nat
  | .prepared => 0
  | .started => 1
  | .unknown => 2
  | .accepted | .rejected => 3

structure Follows (old new : PublicEffectSnapshot) : Prop where
  effect : new.effect = old.effect
  state : new.state = old.state ∨ old.state.rank < new.state.rank

theorem Follows.refl (row : PublicEffectSnapshot) : Follows row row := ⟨rfl, .inl rfl⟩

theorem Follows.trans {first second third : PublicEffectSnapshot} (early : Follows first second)
    (late : Follows second third) : Follows first third where
  effect := late.effect.trans early.effect
  state := by
    rcases early.state with same | grown
    · rw [← same]
      exact late.state
    · rcases late.state with same | further
      · rw [same]
        exact .inr grown
      · exact .inr (Nat.lt_trans grown further)

theorem Follows.spent {old new : PublicEffectSnapshot} (follows : Follows old new) (spent : old.state ≠ .prepared) :
    new.state ≠ .prepared := by
  rcases follows.state with same | grown
  · rw [same]
    exact spent
  · intro prepared
    rw [prepared] at grown
    exact Nat.not_lt_zero _ grown

theorem Follows.settled {old new : PublicEffectSnapshot} (follows : Follows old new)
    (settled : old.state = .accepted ∨ old.state = .rejected) : new.state = old.state := by
  rcases follows.state with same | grown
  · exact same
  · have highest : new.state.rank ≤ 3 := by cases new.state <;> decide
    rcases settled with accepted | rejected
    · rw [accepted] at grown
      exact absurd grown (Nat.not_lt.mpr highest)
    · rw [rejected] at grown
      exact absurd grown (Nat.not_lt.mpr highest)

def Evolves (journal next : Journal) : Prop :=
  ∀ key row, journal.find? key = some row → ∃ later, next.find? key = some later ∧ Follows row later

theorem Evolves.refl (journal : Journal) : Evolves journal journal :=
  fun _ row found => ⟨row, found, .refl row⟩

theorem Evolves.trans {first second third : Journal} (early : Evolves first second)
    (late : Evolves second third) : Evolves first third := by
  intro key row found
  obtain ⟨middle, foundMiddle, follows⟩ := early key row found
  obtain ⟨later, foundLater, followsLater⟩ := late key middle foundMiddle
  exact ⟨later, foundLater, follows.trans followsLater⟩

/-- The observations that may set a fresh effect going. -/
inductive Admits (key : PublicEffectKey) (row : PublicEffectSnapshot) : PublicEffectObservation → Prop
  | absent (operation : key.operation ≠ .refund) : Admits key row .absent
  | eligible (operation : key.operation = .refund) : Admits key row .eligibleToAttempt
  | idempotent (chain : key.chain = .lez) (operation : key.operation = .claim) :
      Admits key row (.exactIdempotentLezClaimSubmissionSafe row.effect.expectedEffectId row.effect.exactPublicBytes)

section Methods

variable {sha256 : Bytes → Bytes32} {journal next : Journal} {key : PublicEffectKey} {row : PublicEffectSnapshot}
  {observation : PublicEffectObservation}

def Genuine (sha256 : Bytes → Bytes32) (effect : PreparedPublicEffect) : Prop :=
  new sha256 effect.key effect.agreementCommitment effect.expectedEffectId
    effect.exactPublicBytes = .ok effect

def Journal.Sound (sha256 : Bytes → Bytes32) (journal : Journal) : Prop :=
  ∀ key row, journal.find? key = some row → Genuine sha256 row.effect

theorem shaped_validated : row.shaped = true ↔
    validateTransitionShape row.state row.attemptCount row.revision = .ok () := by
  unfold PublicEffectSnapshot.shaped validateTransitionShape
  cases row.state <;> simp

theorem find?_shaped (found : journal.find? key = some row) : row.shaped = true :=
  (of_decide_eq_true (Table.find?_check found)).2.2.2.2

theorem decodeSnapshot_ok (genuine : Genuine sha256 row.effect) (same : row.effect.key = key)
    (shaped : row.shaped = true) : decodeSnapshot sha256 key row = .ok row := by
  subst same
  unfold Genuine at genuine
  unfold decodeSnapshot
  rw [genuine, shaped_validated.mp shaped]
  simp [mapError_ok, bind, Except.bind, ensure, pure, Except.pure]

theorem prepared_counters (shaped : row.shaped = true) (prepared : row.state = .prepared) :
    row.attemptCount = 0 ∧ row.revision = 0 := by
  simp only [PublicEffectSnapshot.shaped, prepared] at shaped
  simpa using shaped

theorem accepted_shaped (shaped : row.shaped = true)
    (unsettled : row.state = .prepared ∨ row.state = .started ∨ row.state = .unknown) :
    row.revision ≤ 2 ∧
      ({ row with state := .accepted, revision := row.revision + 1 } : PublicEffectSnapshot).shaped = true := by
  obtain ⟨effect, state, attemptCount, revision⟩ := row
  dsimp only at unsettled
  rcases unsettled with rfl | rfl | rfl <;> simp [PublicEffectSnapshot.shaped] at shaped ⊢ <;> omega

theorem result_rank (result : PublicEffectSubmissionResult) :
    PublicEffectState.started.rank < result.state.rank := by
  cases result <;> simp [PublicEffectSubmissionResult.state, PublicEffectState.rank]

theorem genuine_check {effect : PreparedPublicEffect} (genuine : Genuine sha256 effect) :
    publicEffectJournal.check ⟨effect, .prepared, 0, 0⟩ = true := by
  simp only [Genuine, new, checked_ok] at genuine
  obtain ⟨⟨_, named, idBound, _, nonempty, bytesBound, _⟩, _⟩ := genuine
  have idLength := List.length_pos_iff.mpr named
  have bytesLength := List.length_pos_iff.mpr nonempty
  simp only [maxExpectedEffectIdBytes, maxExactPublicBytes] at idBound bytesBound
  apply decide_eq_true
  exact ⟨⟨idLength, idBound⟩, ⟨bytesLength, bytesBound⟩, .inl rfl, Nat.zero_le 3, rfl⟩

section Sound

variable (sound : journal.Sound sha256)
include sound

theorem loadSnapshot_meets (key : PublicEffectKey) :
    Meets (loadSnapshot sha256 journal key)
      (fun loaded => loaded = journal.find? key) harmless := by
  unfold loadSnapshot revisionToSql
  apply Meets.check harmless_invalid
  intro _
  cases found : journal.find? key with
  | none => rfl
  | some row =>
    dsimp only
    rw [decodeSnapshot_ok (sound key row found) (Table.find?_key found) (find?_shaped found)]
    rfl

theorem loaded_meets {α : Type} {rest : PublicEffectSnapshot → Result α} {returns : α → Prop}
    (each : ∀ row, journal.find? key = some row → Meets (rest row) returns harmless) :
    Meets (do let snapshot ← required (← loadSnapshot sha256 journal key) .missingPublicEffect; rest snapshot)
      returns harmless := by
  apply Meets.bind (loadSnapshot_meets sound key)
  rintro _ rfl
  apply Meets.bind (Meets.required fun _ => harmless_missing)
  intro row found
  exact each row found

structure Rewritten (sha256 : Bytes → Bytes32) (journal : Journal) (row : PublicEffectSnapshot) (next : Journal) :
    Prop where
  sound : next.Sound sha256
  find : journal.Puts next row.effect.key row

theorem Rewritten.same (found : journal.find? key = some row) : Rewritten sha256 journal row journal := by
  refine ⟨sound, fun other => ?_⟩
  have rowKey : row.effect.key = key := Table.find?_key found
  split
  · rename_i same
    rw [same, rowKey]
    exact found
  · rfl

omit sound in
theorem Rewritten.evolves {old : PublicEffectSnapshot} (rewritten : Rewritten sha256 journal row next)
    (found : journal.find? key = some old) (follows : Follows old row) : Evolves journal next := by
  have oldKey : old.effect.key = key := Table.find?_key found
  apply rewritten.find.each .refl
  intro same foundSame
  rw [follows.effect, oldKey, found] at foundSame
  cases foundSame
  exact follows

theorem confirm_meets (found : journal.find? key = some row) :
    Meets (confirm sha256 journal key row) (fun _ => True) harmless := by
  unfold confirm
  apply Meets.bind (loadSnapshot_meets sound key)
  rintro _ rfl
  rw [found]
  simp only [required, ok_bind, ensure_ok]
  trivial

omit sound in
theorem moveRow_meets (guard moved : PublicEffectSnapshot) (sound : journal.Sound sha256)
    (found : journal.find? key = some row) (guardKey : guard.effect.key = key)
    (matched : row.state = guard.state ∧ row.attemptCount = guard.attemptCount ∧ row.revision = guard.revision)
    (effect : moved.effect = row.effect) (shaped : moved.shaped = true) :
    Meets (moveRow journal guard moved)
      (fun result => result.1 = moved ∧ Rewritten sha256 journal moved result.2) harmless := by
  have rowKey : row.effect.key = key := Table.find?_key found
  have check := of_decide_eq_true (Table.find?_check found)
  have changed : ({ row with
      state := moved.state, attemptCount := moved.attemptCount, revision := moved.revision } :
      PublicEffectSnapshot) = moved := by
    rw [← effect]
  have present : journal.find? (publicEffectJournal.key moved) = some row := by
    show journal.find? moved.effect.key = some row
    rw [effect, rowKey]
    exact found
  have fits : journal.fits moved = true := by
    apply Table.fits_of_kept present
    · apply decide_eq_true
      rw [effect]
      have counters : (moved.attemptCount = 0 ∨ moved.attemptCount = 1) ∧ moved.revision ≤ 3 := by
        unfold PublicEffectSnapshot.shaped at shaped
        have cases := of_decide_eq_true shaped
        omega
      exact ⟨check.1, check.2.1, counters.1, counters.2, shaped⟩
    · intro other
      simp only [publicEffectJournal, effect, and_self]
  obtain ⟨after, written⟩ := Option.isSome_iff_exists.mp (Table.write_isSome fits)
  have puts : journal.Puts after moved.effect.key moved := Table.write_find? written present
  unfold moveRow revisionToSql
  apply Meets.check harmless_invalid
  intro _
  rw [guardKey, Table.updateWhere_of_find? found (decide_eq_true matched) (by rw [changed]; exact written)]
  refine ⟨rfl, puts.forall sound ?_, puts⟩
  rw [effect]
  exact sound key row found

structure Observed (sha256 : Bytes → Bytes32) (journal : Journal) (row : PublicEffectSnapshot)
    (observation : PublicEffectObservation) (submitOnce : Bool) (snapshot : PublicEffectSnapshot)
    (next : Journal) : Prop where
  follows : Follows row snapshot
  rewritten : Rewritten sha256 journal snapshot next
  granted : submitOnce = true → row.state = .prepared ∧ snapshot.state = .started ∧
    Admits row.effect.key row observation
  conflicting : observation = .conflictingPresence → snapshot.state ≠ .prepared

theorem Observed.kept (found : journal.find? key = some row)
    (conflicting : observation = .conflictingPresence → row.state ≠ .prepared) :
    Observed sha256 journal row observation false row journal :=
  ⟨.refl row, .same sound found, nofun, conflicting⟩

theorem attempt_meets
    (found : journal.find? key = some row) (admits : Admits row.effect.key row observation) :
    Meets (if row.state = .prepared then do return (true, ← beginOnce journal row)
        else return (false, row, journal))
      (fun result => Observed sha256 journal row observation result.1 result.2.1 result.2.2)
      harmless := by
  have other : observation ≠ .conflictingPresence := by cases admits <;> exact nofun
  split
  · rename_i prepared
    have counters := prepared_counters (find?_shaped found) prepared
    have rowKey : row.effect.key = key := Table.find?_key found
    apply Meets.bind (moveRow_meets { row with state := .prepared, attemptCount := 0, revision := 0 }
      { row with state := .started, attemptCount := 1, revision := 1 } sound found rowKey
      ⟨prepared, counters⟩ rfl rfl)
    rintro ⟨_, next⟩ ⟨rfl, rewritten⟩
    refine ⟨⟨rfl, .inr ?_⟩, rewritten, fun _ => ⟨prepared, rfl, admits⟩, fun same => absurd same other⟩
    rw [prepared]
    exact Nat.zero_lt_one
  · exact Observed.kept sound found fun same => absurd same other

theorem advanceToAccepted_meets (found : journal.find? key = some row)
    (unsettled : row.state = .prepared ∨ row.state = .started ∨ row.state = .unknown) :
    Meets (advanceToAccepted journal row)
      (fun result => result.1.effect = row.effect ∧ result.1.state = .accepted ∧
        Rewritten sha256 journal result.1 result.2) harmless := by
  obtain ⟨low, accepted⟩ := accepted_shaped (find?_shaped found) unsettled
  have fits : row.revision + 1 < 2 ^ 64 ∧ row.revision + 1 ≤ i64Max := by
    unfold i64Max
    omega
  unfold advanceToAccepted revisionToSql
  dsimp only
  rw [ensure_ok fits.1, ok_bind, ensure_ok fits.2, ok_bind]
  have rowKey : row.effect.key = key := Table.find?_key found
  have moves := moveRow_meets row { row with state := .accepted, revision := row.revision + 1 }
    sound found rowKey ⟨rfl, rfl, rfl⟩ rfl accepted
  apply moves.mono
  rintro ⟨_, next⟩ ⟨rfl, rewritten⟩
  exact ⟨rfl, rfl, rewritten⟩

theorem observe_meets (found : journal.find? key = some row)
    (observation : PublicEffectObservation) :
    Meets (observe journal key row observation)
      (fun result => Observed sha256 journal row observation result.1 result.2.1 result.2.2)
      harmless := by
  have rowKey : row.effect.key = key := Table.find?_key found
  cases observation with
  | presentExact bytes =>
    apply Meets.check harmless_conflict
    intro _
    have accepts (unsettled : row.state = .prepared ∨ row.state = .started ∨ row.state = .unknown) :
        Meets (do return (false, ← advanceToAccepted journal row))
          (fun result => Observed sha256 journal row (.presentExact bytes) result.1 result.2.1 result.2.2)
          harmless := by
      apply Meets.bind (advanceToAccepted_meets sound found unsettled)
      rintro ⟨snapshot, next⟩ ⟨effect, accepted, rewritten⟩
      refine ⟨⟨effect, .inr ?_⟩, rewritten, nofun, nofun⟩
      rw [accepted]
      rcases unsettled with state | state | state <;> rw [state] <;> decide
    split
    · rename_i state
      exact accepts (.inl state)
    · rename_i state
      exact accepts (.inr (.inl state))
    · rename_i state
      exact accepts (.inr (.inr state))
    · exact Observed.kept sound found nofun
    · exact harmless_conflict
  | exactIdempotentLezClaimSubmissionSafe expectedEffectId exactPublicBytes =>
    apply Meets.check harmless_invalid
    intro claim
    apply Meets.check harmless_conflict
    rintro ⟨rfl, rfl⟩
    rw [← rowKey] at claim
    exact attempt_meets sound found (.idempotent claim.1 claim.2)
  | eligibleToAttempt =>
    apply Meets.check harmless_invalid
    intro refund
    rw [← rowKey] at refund
    exact attempt_meets sound found (.eligible refund)
  | absent =>
    apply Meets.check harmless_invalid
    intro other
    rw [← rowKey] at other
    exact attempt_meets sound found (.absent other)
  | uncertain => exact Observed.kept sound found nofun
  | conflictingPresence =>
    unfold observe
    dsimp only
    split
    · rename_i prepared
      have counters := prepared_counters (find?_shaped found) prepared
      apply Meets.bind (moveRow_meets { row with state := .prepared, attemptCount := 0, revision := 0 }
        { row with state := .unknown, attemptCount := 1, revision := 2 } sound found rowKey
        ⟨prepared, counters⟩ rfl rfl)
      rintro ⟨_, next⟩ ⟨rfl, rewritten⟩
      refine ⟨⟨rfl, .inr ?_⟩, rewritten, nofun, nofun⟩
      rw [prepared]
      exact Nat.zero_lt_two
    · rename_i started
      exact Observed.kept sound found fun _ => by rw [started]; exact nofun
    · rename_i unknown
      exact Observed.kept sound found fun _ => by rw [unknown]; exact nofun
    · exact harmless_conflict
    · exact harmless_conflict

def Reconciled (sha256 : Bytes → Bytes32) (journal : Journal) (key : PublicEffectKey)
    (observation : PublicEffectObservation) (decision : PublicEffectDecision) (next : Journal) : Prop :=
  ∃ row submitOnce snapshot, journal.find? key = some row ∧
    Observed sha256 journal row observation submitOnce snapshot next ∧
    decision = if submitOnce then .submitOnce snapshot else .observeOnly snapshot

theorem reconcile_meets (key : PublicEffectKey)
    (observation : PublicEffectObservation) :
    Meets (reconcile sha256 journal key observation)
      (fun result => Reconciled sha256 journal key observation result.1 result.2) harmless := by
  apply loaded_meets sound
  intro row found
  have rowKey : row.effect.key = key := Table.find?_key found
  apply Meets.bind (observe_meets sound found observation)
  rintro ⟨submitOnce, snapshot, next⟩ observed
  have foundNext := observed.rewritten.find.self
  rw [observed.follows.effect, rowKey] at foundNext
  apply Meets.bind (confirm_meets observed.rewritten.sound foundNext)
  intro _ _
  exact ⟨row, submitOnce, snapshot, found, observed, rfl⟩

def Moved (sha256 : Bytes → Bytes32) (journal : Journal) (key : PublicEffectKey) (snapshot : PublicEffectSnapshot)
    (next : Journal) : Prop :=
  ∃ row, journal.find? key = some row ∧ Follows row snapshot ∧ Rewritten sha256 journal snapshot next

theorem recordSubmissionResult_meets (key : PublicEffectKey)
    (result : PublicEffectSubmissionResult) :
    Meets (recordSubmissionResult sha256 journal key result)
      (fun recorded => Moved sha256 journal key recorded.1.snapshot recorded.2) harmless := by
  apply loaded_meets sound
  intro row found
  have rowKey : row.effect.key = key := Table.find?_key found
  apply Meets.check harmless_conflict
  intro _
  dsimp only
  split
  · rename_i started
    have counters : row.attemptCount = 1 ∧ row.revision = 1 := by
      have shaped := find?_shaped found
      simp only [PublicEffectSnapshot.shaped, started] at shaped
      simpa using shaped
    have shaped : ({ row with state := result.state, revision := 2 } : PublicEffectSnapshot).shaped = true := by
      rw [PublicEffectSnapshot.shaped, counters.1]
      cases result <;> rfl
    apply Meets.bind (moveRow_meets { row with state := .started, attemptCount := 1, revision := 1 }
      { row with state := result.state, revision := 2 } sound found rowKey ⟨started, counters⟩ rfl shaped)
    rintro ⟨_, next⟩ ⟨rfl, rewritten⟩
    have foundNext := rewritten.find.self
    dsimp only at foundNext
    rw [rowKey] at foundNext
    apply Meets.bind (confirm_meets rewritten.sound foundNext)
    intro _ _
    refine ⟨row, found, ⟨rfl, .inr ?_⟩, rewritten⟩
    rw [started]
    exact result_rank result
  · apply Meets.check harmless_conflict
    intro _
    apply Meets.bind (confirm_meets sound found)
    intro _ _
    exact ⟨row, found, .refl row, .same sound found⟩

omit sound in
theorem validatePrepared_meets (effect : PreparedPublicEffect) :
    Meets (validatePrepared sha256 effect) (fun _ => Genuine sha256 effect) harmless := by
  have made : Meets (new sha256 effect.key effect.agreementCommitment
      effect.expectedEffectId effect.exactPublicBytes)
      (fun reconstructed => new sha256 effect.key effect.agreementCommitment
        effect.expectedEffectId effect.exactPublicBytes = .ok reconstructed) harmless := by
    unfold new
    apply Meets.check harmless_invalid
    intro valid
    rw [ensure_ok valid]
    rfl
  apply Meets.bind made
  intro reconstructed same
  apply (Meets.ensure fun _ => harmless_invalid).mono
  rintro _ rfl
  exact same

theorem recordPrepared_meets (effect : PreparedPublicEffect) :
    Meets (recordPrepared sha256 journal effect)
      (fun recorded => recorded.2 = journal ∨
        journal.find? effect.key = none ∧ Rewritten sha256 journal ⟨effect, .prepared, 0, 0⟩ recorded.2)
      harmless := by
  apply Meets.bind (validatePrepared_meets effect)
  intro _ genuine
  apply Meets.bind (loadSnapshot_meets sound effect.key)
  rintro _ rfl
  split
  · apply Meets.check harmless_conflict
    intro _
    exact .inl rfl
  · rename_i fresh
    apply Meets.check harmless_conflict
    intro unused
    apply Meets.check harmless_invalid
    intro _
    have fits : journal.fits ⟨effect, .prepared, 0, 0⟩ = true := by
      rw [Table.fits_iff]
      refine ⟨genuine_check genuine, fun other member _ => ?_⟩
      have differs : other.effect.key.chain ≠ effect.key.chain ∨
          other.effect.expectedEffectId ≠ effect.expectedEffectId := by
        by_cases chains : other.effect.key.chain = effect.key.chain
        · right
          intro ids
          apply unused
          exact List.any_eq_true.mpr ⟨other, member, decide_eq_true ⟨chains, ids⟩⟩
        · exact .inl chains
      exact ⟨decide_eq_true (differs.imp Ne.symm Ne.symm), decide_eq_true differs⟩
    obtain ⟨after, inserted⟩ := Option.isSome_iff_exists.mp (Table.insert_isSome fresh fits)
    have puts := Table.insert_puts inserted
    have rewritten : Rewritten sha256 journal ⟨effect, .prepared, 0, 0⟩ after := ⟨puts.forall sound genuine, puts⟩
    rw [inserted]
    apply Meets.bind (loadSnapshot_meets rewritten.sound effect.key)
    rintro _ rfl
    have present : after.find? effect.key = some ⟨effect, .prepared, 0, 0⟩ := rewritten.find.self
    rw [present]
    simp only [required, ok_bind, ensure_ok]
    exact .inr ⟨fresh, rewritten⟩

theorem perform_meets (call : Call) :
    Meets (perform sha256 journal call)
      (fun result => Journal.Sound sha256 result.2 ∧ Evolves journal result.2) harmless := by
  cases call with
  | recordPrepared effect =>
    apply Meets.bind (recordPrepared_meets sound effect)
    rintro ⟨commit, next⟩ (rfl | ⟨fresh, rewritten⟩)
    · exact ⟨sound, .refl _⟩
    · refine ⟨rewritten.sound, rewritten.find.each .refl fun old found => ?_⟩
      cases fresh.symm.trans found
  | reconcile key observation =>
    apply Meets.bind (reconcile_meets sound key observation)
    rintro ⟨decision, next⟩ ⟨row, submitOnce, snapshot, found, observed, _⟩
    exact ⟨observed.rewritten.sound, observed.rewritten.evolves found observed.follows⟩
  | recordSubmissionResult key result =>
    apply Meets.bind (recordSubmissionResult_meets sound key result)
    rintro ⟨commit, next⟩ ⟨row, found, follows, rewritten⟩
    exact ⟨rewritten.sound, rewritten.evolves found follows⟩
  | current key =>
    apply Meets.bind (loadSnapshot_meets sound key)
    intro _ _
    exact ⟨sound, .refl journal⟩

/-- A transaction that grants a send is a reconciliation of an unspent row. -/
theorem perform_submits {call : Call} {snapshot : PublicEffectSnapshot}
    (performed : perform sha256 journal call = .ok (.decision (.submitOnce snapshot), next)) :
    ∃ observation row, call = .reconcile snapshot.effect.key observation ∧
      journal.find? snapshot.effect.key = some row ∧ row.state = .prepared ∧ row.effect = snapshot.effect ∧
      Admits snapshot.effect.key row observation ∧ next.find? snapshot.effect.key = some snapshot ∧
      snapshot.state = .started := by
  cases call <;>
    simp only [perform, bind_ok_iff, pure_ok, Prod.mk.injEq, reduceCtorEq, false_and, and_false, exists_false,
      Reply.decision.injEq] at performed
  case reconcile key observation =>
    obtain ⟨⟨decision, after⟩, reconciled, rfl, rfl⟩ := performed
    obtain ⟨row, submitOnce, moved, found, observed, decided⟩ :=
      (reconcile_meets sound key observation).value reconciled
    dsimp only at decided observed
    cases submitOnce with
    | false => cases decided
    | true =>
      cases decided
      obtain ⟨prepared, started, admits⟩ := observed.granted rfl
      have rowKey : row.effect.key = key := Table.find?_key found
      have effect := observed.follows.effect
      rw [effect, rowKey]
      rw [rowKey] at admits
      have after := observed.rewritten.find.self
      rw [effect, rowKey] at after
      exact ⟨observation, row, rfl, found, prepared, rfl, admits, after, started⟩

theorem perform_conflicting {reply : Reply}
    (performed : perform sha256 journal (.reconcile key .conflictingPresence) = .ok (reply, next)) :
    ∃ row, next.find? key = some row ∧ row.state ≠ .prepared := by
  simp only [perform, bind_ok_iff, pure_ok, Prod.mk.injEq] at performed
  obtain ⟨⟨decision, after⟩, reconciled, _, rfl⟩ := performed
  obtain ⟨row, submitOnce, moved, found, observed, _⟩ :=
    (reconcile_meets sound key .conflictingPresence).value reconciled
  have rowKey : row.effect.key = key := Table.find?_key found
  have after := observed.rewritten.find.self
  rw [observed.follows.effect, rowKey] at after
  exact ⟨moved, after, observed.conflicting rfl⟩

end Sound

end Methods

section Runs

variable {sha256 : Bytes → Bytes32} {start journal later : Journal} {effect : PreparedPublicEffect}
  {chain : PublicEffectChain} {expectedEffectId : Bytes}

abbrev Event := Call × Option (Result Reply)

def Event.submits (event : Event) : Option PreparedPublicEffect :=
  match event.2 with
  | some (.ok (.decision (.submitOnce snapshot))) => some snapshot.effect
  | _ => none

def Event.submitsKey (key : PublicEffectKey) (event : Event) : Bool :=
  event.submits.any fun effect => effect.key = key

def Event.submitsEffect (chain : PublicEffectChain) (expectedEffectId : Bytes) (event : Event) : Bool :=
  event.submits.any fun effect => effect.key.chain = chain ∧ effect.expectedEffectId = expectedEffectId

variable {event : Event} {history more : List Event} {key : PublicEffectKey}

theorem submits_answer (submits : event.submits = some effect) :
    ∃ snapshot, event.2 = some (.ok (.decision (.submitOnce snapshot))) ∧ snapshot.effect = effect := by
  unfold Event.submits at submits
  split at submits
  · rename_i snapshot answered
    cases submits
    exact ⟨snapshot, answered, rfl⟩
  · cases submits

theorem served_kept (sound : journal.Sound sha256) (served : Served (perform sha256) journal event later) :
    later.Sound sha256 ∧ Evolves journal later := by
  rcases served.cases_db with same | ⟨reply, performed, _⟩
  · rw [same]
    exact ⟨sound, .refl journal⟩
  · exact (perform_meets sound event.1).value performed

def Spent (key : PublicEffectKey) (journal : Journal) : Prop :=
  ∃ row, journal.find? key = some row ∧ row.state ≠ .prepared

theorem Evolves.spent (evolves : Evolves journal later) (spent : Spent key journal) : Spent key later := by
  obtain ⟨row, found, moved⟩ := spent
  obtain ⟨next, foundNext, follows⟩ := evolves key row found
  exact ⟨next, foundNext, follows.spent moved⟩

theorem served_submits (sound : journal.Sound sha256)
    (served : Served (perform sha256) journal event later) (submits : event.submits = some effect) :
    (∃ row, journal.find? effect.key = some row ∧ row.effect = effect ∧ row.state = .prepared) ∧
      ∃ row, later.find? effect.key = some row ∧ row.effect = effect ∧ row.state ≠ .prepared := by
  obtain ⟨snapshot, answered, rfl⟩ := submits_answer submits
  obtain ⟨observation, row, _, found, prepared, same, _, foundNext, started⟩ :=
    perform_submits sound (served.answer answered)
  refine ⟨⟨row, found, same, prepared⟩, snapshot, foundNext, rfl, ?_⟩
  rw [started]
  exact nofun

theorem run_kept (sound : start.Sound sha256) (run : Run (Served (perform sha256)) start history journal) :
    journal.Sound sha256 ∧ Evolves start journal := by
  induction run with
  | nil => exact ⟨sound, .refl start⟩
  | snoc _ served earlier =>
    have kept := served_kept earlier.1 served
    exact ⟨kept.1, earlier.2.trans kept.2⟩

theorem empty_sound : Journal.Sound sha256 Table.empty := fun _ _ found => nomatch found

theorem submitsKey_unspent (sound : journal.Sound sha256) (served : Served (perform sha256) journal event later)
    (submits : event.submitsKey key = true) : ¬Spent key journal ∧ Spent key later := by
  unfold Event.submitsKey at submits
  cases submitted : event.submits with
  | none =>
    rw [submitted] at submits
    cases submits
  | some effect =>
    rw [submitted] at submits
    have same : effect.key = key := of_decide_eq_true submits
    subst same
    obtain ⟨⟨row, found, _, prepared⟩, next, foundNext, _, spent⟩ := served_submits sound served submitted
    constructor
    · rintro ⟨other, foundOther, otherSpent⟩
      cases found.symm.trans foundOther
      exact otherSpent prepared
    · exact ⟨next, foundNext, spent⟩

def SpentEffect (chain : PublicEffectChain) (expectedEffectId : Bytes) (journal : Journal) : Prop :=
  ∃ key row, journal.find? key = some row ∧ row.effect.key.chain = chain ∧
    row.effect.expectedEffectId = expectedEffectId ∧ row.state ≠ .prepared

theorem Evolves.spentEffect
    (evolves : Evolves journal later) (spent : SpentEffect chain expectedEffectId journal) :
    SpentEffect chain expectedEffectId later := by
  obtain ⟨key, row, found, onChain, named, moved⟩ := spent
  obtain ⟨next, foundNext, follows⟩ := evolves key row found
  refine ⟨key, next, foundNext, ?_, ?_, follows.spent moved⟩
  · rw [follows.effect]
    exact onChain
  · rw [follows.effect]
    exact named

theorem submitsEffect_unspent
    (sound : journal.Sound sha256) (served : Served (perform sha256) journal event later)
    (submits : event.submitsEffect chain expectedEffectId = true) :
    ¬SpentEffect chain expectedEffectId journal ∧ SpentEffect chain expectedEffectId later := by
  unfold Event.submitsEffect at submits
  cases submitted : event.submits with
  | none =>
    rw [submitted] at submits
    cases submits
  | some effect =>
    rw [submitted] at submits
    obtain ⟨rfl, rfl⟩ := of_decide_eq_true submits
    obtain ⟨⟨row, found, rfl, prepared⟩, next, foundNext, same, spent⟩ := served_submits sound served submitted
    constructor
    · rintro ⟨key, other, foundOther, onChain, named, otherSpent⟩
      by_cases keys : key = row.effect.key
      · rw [keys, found] at foundOther
        cases foundOther
        exact otherSpent prepared
      · have apart := of_decide_eq_true (Table.find?_apart foundOther found keys)
        exact apart.elim (absurd onChain) (absurd named)
    · exact ⟨_, next, foundNext, by rw [same], by rw [same], spent⟩

theorem run_conflicting (sound : start.Sound sha256) (run : Run (Served (perform sha256)) start history journal)
    {reply : Reply} (observed : (.reconcile key .conflictingPresence, some (.ok reply)) ∈ history) :
    Spent key journal := by
  induction run with
  | nil => cases observed
  | snoc before served earlier =>
    have held := (run_kept sound before).1
    rcases List.mem_append.mp observed with old | last
    · exact (served_kept held served).2.spent (earlier old)
    · cases List.mem_singleton.mp last
      exact perform_conflicting held (served.answer rfl)

theorem effect_sent_at_most_once (run : Run (Served (perform sha256)) Table.empty history journal)
    (rest : Run (Served (perform sha256)) journal more later) :
    (∀ key, history.countP (Event.submitsKey key) ≤ 1) ∧
    (∀ chain expectedEffectId, history.countP (Event.submitsEffect chain expectedEffectId) ≤ 1) ∧
    -- Neither a conflicting observation that was answered nor a durable attempt is followed by a send.
    (∀ key, (Spent key journal ∨
        ∃ reply, (.reconcile key .conflictingPresence, some (.ok reply)) ∈ history) →
      ∀ event ∈ more, Event.submitsKey key event = false) ∧
    (∀ event next snapshot, Served (perform sha256) journal event next →
      event.2 = some (.ok (.decision (.submitOnce snapshot))) →
      ∃ observation row, event.1 = .reconcile snapshot.effect.key observation ∧
        journal.find? snapshot.effect.key = some row ∧ row.state = .prepared ∧ row.effect = snapshot.effect ∧
        Admits snapshot.effect.key row observation) ∧
    (∀ key row, journal.find? key = some row → ∃ next, later.find? key = some next ∧
      next.effect = row.effect ∧ ((row.state = .accepted ∨ row.state = .rejected) → next.state = row.state)) ∧
    -- A refused call changes nothing, and none is refused because of what is stored.
    (∀ event next error, Served (perform sha256) journal event next → event.2 = some (.error error) →
      next = journal ∧ error ≠ .sqlite ∧ error ≠ .corruptPublicEffectState) ∧
    ∀ key row, journal.find? key = some row →
      publicEffectJournal.check row = true ∧ decodeSnapshot sha256 key row = .ok row := by
  obtain ⟨sound, _⟩ := run_kept empty_sound run
  have keeps (state : Journal) (event : Event) (next : Journal) (held : state.Sound sha256)
      (served : Served (perform sha256) state event next) := served_kept held served
  refine ⟨?_, ?_, ?_, ?_, ?_, ?_, ?_⟩
  · intro key
    refine (run.once (Spent key) empty_sound (fun _ _ _ held served => (keeps _ _ _ held served).1) ?_ ?_).1
    · exact fun _ _ _ held served spent => (keeps _ _ _ held served).2.spent spent
    · exact fun _ _ _ held served submits => submitsKey_unspent held served submits
  · intro chain expectedEffectId
    refine (run.once (SpentEffect chain expectedEffectId) empty_sound
      (fun _ _ _ held served => (keeps _ _ _ held served).1) ?_ ?_).1
    · exact fun _ _ _ held served spent => (keeps _ _ _ held served).2.spentEffect spent
    · exact fun _ _ _ held served submits => submitsEffect_unspent held served submits
  · intro key cause
    have spent : Spent key journal := by
      rcases cause with spent | ⟨reply, observed⟩
      · exact spent
      · exact run_conflicting empty_sound run observed
    refine (rest.never (Spent key) sound (fun _ _ _ held served => (keeps _ _ _ held served).1) ?_ ?_ spent).2
    · exact fun _ _ _ held served spent => (keeps _ _ _ held served).2.spent spent
    · exact fun _ _ _ held served submits => (submitsKey_unspent held served submits).1
  · intro event next snapshot served answered
    obtain ⟨observation, row, called, found, prepared, same, admits, _⟩ :=
      perform_submits sound (served.answer answered)
    exact ⟨observation, row, called, found, prepared, same, admits⟩
  · intro key row found
    obtain ⟨next, foundNext, follows⟩ := (run_kept sound rest).2 key row found
    exact ⟨next, foundNext, follows.effect, follows.settled⟩
  · intro event next error served answered
    obtain ⟨performed, same⟩ := served.refusal answered
    exact ⟨same, (perform_meets sound event.1).raised performed⟩
  · intro key row found
    exact ⟨Table.find?_check found,
      decodeSnapshot_ok (sound key row found) (Table.find?_key found) (find?_shaped found)⟩

end Runs

def sampleKey : PublicEffectKey := ⟨⟨"claimed-swap", by decide⟩, .maker, .lez, .claim, 3⟩

def sampleSha256 (bytes : Bytes) : Bytes32 := BitVec.ofNat 256 bytes.length

-- Two processes see the claim absent, and the one that was told to send reports an unclear answer.
def sampleCalls : List Call :=
  [.recordPrepared ⟨sampleKey, 1, [0x61, 0x62], [7, 8, 9], 3⟩, .reconcile sampleKey .absent,
    .reconcile sampleKey .absent, .recordSubmissionResult sampleKey .unknown]

theorem effect_sent_at_most_once_sample :
    let served := replay (serve (perform sampleSha256)) Table.empty sampleCalls
    let later := replay (serve (perform sampleSha256)) served.1 [.reconcile sampleKey .absent]
    served.2.countP (Event.submitsKey sampleKey) = 1 ∧
      ∀ event ∈ later.2, Event.submitsKey sampleKey event = false := by
  intro served later
  have first := run_replay (serve_served (perform sampleSha256)) Table.empty sampleCalls
  have second := run_replay (serve_served (perform sampleSha256)) served.1
    [.reconcile sampleKey .absent]
  obtain ⟨_, _, silent, _⟩ := effect_sent_at_most_once first second
  refine ⟨by decide +kernel, silent sampleKey (.inl ?_)⟩
  exact ⟨⟨⟨sampleKey, 1, [0x61, 0x62], [7, 8, 9], 3⟩, .unknown, 1, 2⟩, by decide +kernel, nofun⟩

end AtomicSwaps.Store.PublicEffect
