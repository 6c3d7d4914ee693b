import AtomicSwaps.Zec.Store

namespace AtomicSwaps.Zec

open AtomicSwaps.Core Fallible

namespace Store

/-- The rows of all tables together are numbered `0 .. active - 1` and committed one above. -/
structure Contiguous (store : Store) : Prop where
  numbered : store.journal.map JournalRow.predecessorRevision = List.range store.activeRevision
  committed : ∀ row ∈ store.journal, row.committedRevision = row.predecessorRevision + 1
  bounded : store.activeRevision < 2 ^ 63

namespace Contiguous

variable {store : Store} (contiguous : store.Contiguous) {predecessor : Nat} {row : JournalRow}

include contiguous

theorem length_journal : store.journal.length = store.activeRevision := by
  simpa using congrArg List.length contiguous.numbered

theorem row_eq (table : JournalTable) (predecessor : Nat) :
    store.row table predecessor =
      (store.journal[predecessor]?).filter fun row => row.entry.table = table := by
  have numbered := contiguous.numbered
  rw [List.range_eq_range'] at numbered
  exact Journal.find?_numbered numbered (Nat.zero_le predecessor)

theorem row_beyond (table : JournalTable)
    (beyond : store.activeRevision ≤ predecessor) : store.row table predecessor = none := by
  rw [contiguous.row_eq, List.getElem?_eq_none (by rw [contiguous.length_journal]; exact beyond)]
  rfl

theorem row_inside {table : JournalTable}
    (found : store.row table predecessor = some row) : predecessor < store.activeRevision := by
  refine Nat.lt_of_not_le fun beyond => ?_
  rw [contiguous.row_beyond table beyond] at found
  cases found

theorem committed_at (found : store.journal[predecessor]? = some row) :
    row.committedRevision = predecessor + 1 := by
  have member := List.mem_of_getElem? found
  have listed : (store.journal.map JournalRow.predecessorRevision)[predecessor]? =
      some row.predecessorRevision := by simp [found]
  rw [contiguous.numbered] at listed
  have bound : predecessor < store.activeRevision := by
    have := (List.getElem?_eq_some_iff.mp listed).1
    simpa using this
  rw [List.getElem?_range bound] at listed
  rw [contiguous.committed row member, ← Option.some.inj listed]

theorem validates : store.validateTransitionJournal store.activeRevision = .ok () := by
  have numbered := contiguous.numbered
  have least : (List.range store.activeRevision).min? =
      if store.activeRevision = 0 then none else some 0 := by
    cases store.activeRevision with
    | zero => rfl
    | succ last =>
      simp only [Nat.add_one_ne_zero, if_false]
      rw [List.min?_eq_some_iff]
      simp
  have greatest : (List.range store.activeRevision).max? =
      if store.activeRevision = 0 then none else some (store.activeRevision - 1) := by
    cases store.activeRevision with
    | zero => rfl
    | succ last =>
      simp only [Nat.add_one_ne_zero, if_false]
      rw [List.max?_eq_some_iff]
      exact ⟨List.self_mem_range_succ, fun number below => Nat.le_of_lt_succ (List.mem_range.mp below)⟩
  simp only [validateTransitionJournal, sqlU64, numbered, least, greatest]
  rw [ensure_bind_ok_iff]
  refine ⟨contiguous.bounded, ensure_ok_iff.mpr ⟨by simp, List.nodup_range, contiguous.committed, ?_⟩⟩
  by_cases empty : store.activeRevision = 0
  · simp [empty]
  · simp [empty, Nat.pos_of_ne_zero empty]

end Contiguous

end Store

namespace Store

variable (primitives : StorePrimitives) (store : Store) (agreement : ZecAgreementV1)

/-- What one row does in the state it is replayed in, for the role that keeps it. -/
def applyEntry (predecessor : Nat) (state : JournalState) (entry : JournalEntry) : Except StoreError JournalState :=
  let coordinator := state.coordinator
  let advance : Except StoreError SwapCoordinator → Except StoreError JournalState :=
    fun result => do let coordinator ← result; return { state with coordinator }
  match store.localParticipant, entry with
  | .maker, .observedTakerFirstLock transition =>
    store.applyObservedTakerSlot primitives agreement state predecessor transition
  | .maker, .makerLock staged transition =>
    advance (store.applyMakerLockSlot agreement coordinator predecessor (predecessor + 1) staged
      transition)
  | .taker, .firstLock transition =>
    advance (store.applyFirstLockSlot agreement coordinator predecessor (predecessor + 1) transition)
  | .taker, .observedMakerLock transition =>
    advance (store.applyObservedMakerSlot agreement coordinator predecessor transition)
  | _, .ownedClaim staged record =>
    advance (store.applyOwnedClaimSlot primitives agreement coordinator predecessor (predecessor + 1)
      staged record)
  | _, .observedClaim created record =>
    advance (store.applyObservedClaimSlot primitives agreement coordinator predecessor
      (predecessor + 1) created record)
  | _, .refund retained transition =>
    advance (store.applyRefundJournalSlot agreement coordinator predecessor retained transition)
  | .maker, .firstLock _ | .taker, .observedTakerFirstLock _ => .error .payload
  | .maker, .observedMakerLock _ | .taker, .makerLock _ _ => .error .invalidZecRecoveryState

variable {primitives store agreement}

theorem slot_eq (contiguous : store.Contiguous) {predecessor : Nat} {row : JournalRow}
    (found : store.journal[predecessor]? = some row) (state : JournalState) :
    store.slot primitives agreement predecessor state =
      store.applyEntry primitives agreement predecessor state row.entry := by
  have bound : predecessor < store.activeRevision := by
    rw [← contiguous.length_journal]
    exact (List.getElem?_eq_some_iff.mp found).1
  have fits : sqlU64 (predecessor + 1) = .ok () :=
    ensure_ok_iff.mpr (by have := contiguous.bounded; omega)
  have committed := contiguous.committed_at found
  obtain ⟨number, commit, entry⟩ := row
  dsimp only at committed
  subst committed
  cases role : store.localParticipant <;> cases entry <;>
    simp [slot, makerSlot, takerSlot, applyTerminalJournalSlot, applyEntry, role, fits, ok_bind, contiguous.row_eq,
      found, Option.filter, JournalEntry.table, ensure, throw, throwThe, MonadExceptOf.throw]

end Store

namespace Store

/-- A later state of the file: the journal has only grown, and what a committed row relies on (its
    closed intent, the claim secret) is still there. -/
structure Extends (old new : Store) : Prop where
  role : new.localParticipant = old.localParticipant
  key : new.claimKey = old.claimKey
  journal : old.journal <+: new.journal
  firstLockIntent : ∀ row, old.firstLockIntent = some row → row.closedRevision.isSome →
    new.firstLockIntent = some row
  makerLockIntent : ∀ row, old.makerLockIntent = some row → row.closedRevision.isSome →
    new.makerLockIntent = some row
  claimIntent : ∀ row, old.claimIntent = some row → row.closedRevision.isSome →
    new.claimIntent = some row
  claimMaterial : ∀ material, old.claimMaterial = some material → new.claimMaterial = some material

namespace Extends

variable {primitives : StorePrimitives} {old new : Store} {agreement : ZecAgreementV1}
  {coordinator next : SwapCoordinator} {predecessor committed staged : Nat}

section Extended

variable (extended : Extends old new) {record : ClaimTransitionRecordV1} {created : Option Nat}
include extended

theorem getElem?_journal {row : JournalRow}
    (found : old.journal[predecessor]? = some row) : new.journal[predecessor]? = some row := by
  obtain ⟨added, grown⟩ := extended.journal
  rw [← grown, List.getElem?_append_left (List.getElem?_eq_some_iff.mp found).1, found]

theorem decryptClaimMaterial_eq (material : ClaimMaterialRow) :
    new.decryptClaimMaterial primitives agreement material =
      old.decryptClaimMaterial primitives agreement material := by
  simp only [decryptClaimMaterial, extended.role, extended.key]

theorem openClaimPayload_eq (intent : ClaimIntentV1) (protectedPayload : ProtectedClaimPayloadEnvelope) :
    new.openClaimPayload primitives agreement intent protectedPayload =
      old.openClaimPayload primitives agreement intent protectedPayload := by
  simp only [openClaimPayload, extended.key]

theorem applyFirstLockSlot_ok {transition : FirstLockTransitionV1}
    (applied : old.applyFirstLockSlot agreement coordinator predecessor committed transition = .ok next) :
    new.applyFirstLockSlot agreement coordinator predecessor committed transition = .ok next := by
  unfold applyFirstLockSlot at applied ⊢
  cases intent : old.firstLockIntent with
  | none => simp [intent, throw, throwThe, MonadExceptOf.throw] at applied
  | some row =>
    simp only [intent] at applied
    have closed := (ensure_bind_ok_iff.mp applied).1.2
    rw [extended.firstLockIntent row intent (by simp [closed]), extended.role]
    exact applied

theorem applyMakerLockSlot_ok {transition : MakerLockTransitionV1}
    (applied : old.applyMakerLockSlot agreement coordinator predecessor committed staged transition = .ok next) :
    new.applyMakerLockSlot agreement coordinator predecessor committed staged transition =
      .ok next := by
  unfold applyMakerLockSlot at applied ⊢
  cases intent : old.makerLockIntent with
  | none => simp [intent, throw, throwThe, MonadExceptOf.throw] at applied
  | some row =>
    simp only [intent] at applied
    have closed := (ensure_bind_ok_iff.mp applied).1.2
    rw [extended.makerLockIntent row intent (by simp [closed]), extended.role]
    exact applied

theorem applyOwnedClaimSlot_ok
    (applied : old.applyOwnedClaimSlot primitives agreement coordinator predecessor committed staged
      record = .ok next) :
    new.applyOwnedClaimSlot primitives agreement coordinator predecessor committed staged record =
      .ok next := by
  unfold applyOwnedClaimSlot at applied ⊢
  cases intent : old.claimIntent with
  | none => simp [intent, throw, throwThe, MonadExceptOf.throw] at applied
  | some row =>
    simp only [intent] at applied
    have closed := (ensure_bind_ok_iff.mp applied).1.2
    cases secret : old.claimMaterial with
    | none =>
      simp only [secret, bind_ok_iff, throw, throwThe, MonadExceptOf.throw] at applied
      simp at applied
    | some material =>
      simp only [secret] at applied
      rw [extended.claimIntent row intent (by simp [closed]),
        extended.claimMaterial material secret, extended.role]
      simp only [extended.openClaimPayload_eq, extended.decryptClaimMaterial_eq]
      exact applied

theorem observedClaimPreimage_ok {step : ClaimStepV1} {preimage : Option Bytes32}
    (read : old.observedClaimPreimage primitives agreement committed created step = .ok preimage) :
    new.observedClaimPreimage primitives agreement committed created step = .ok preimage := by
  cases step with
  | followupZcash => exact read
  | revealingLez =>
    simp only [observedClaimPreimage, ensure_bind_ok_iff] at read ⊢
    refine ⟨read.1, ?_⟩
    cases secret : old.claimMaterial with
    | none => simp [secret, throw, throwThe, MonadExceptOf.throw] at read
    | some material =>
      simp only [secret] at read
      simp only [extended.claimMaterial material secret, extended.decryptClaimMaterial_eq]
      exact read.2

theorem applyObservedClaimSlot_ok
    (applied : old.applyObservedClaimSlot primitives agreement coordinator predecessor committed
      created record = .ok next) :
    new.applyObservedClaimSlot primitives agreement coordinator predecessor committed created
      record = .ok next := by
  unfold applyObservedClaimSlot at applied ⊢
  rw [bind_ok_iff] at applied ⊢
  obtain ⟨preimage, read, applied⟩ := applied
  exact ⟨preimage, extended.observedClaimPreimage_ok read, by rw [extended.role]; exact applied⟩

theorem applyEntry_ok {state reached : JournalState} {entry : JournalEntry}
    (applied : old.applyEntry primitives agreement predecessor state entry = .ok reached) :
    new.applyEntry primitives agreement predecessor state entry = .ok reached := by
  unfold applyEntry at applied ⊢
  rw [extended.role]
  cases role : old.localParticipant <;> cases entry <;> simp only [role] at applied ⊢
  all_goals first
    | exact applied
    | (rw [bind_ok_iff] at applied ⊢
       obtain ⟨advanced, applied, result⟩ := applied
       refine ⟨advanced, ?_, result⟩
       first
         | exact extended.applyFirstLockSlot_ok applied
         | exact extended.applyMakerLockSlot_ok applied
         | exact extended.applyOwnedClaimSlot_ok applied
         | exact extended.applyObservedClaimSlot_ok applied
         | (simp only [applyRefundJournalSlot, applyObservedMakerSlot, extended.role] at applied ⊢
            exact applied))
    | (simp only [applyObservedTakerSlot, extended.role] at applied ⊢
       exact applied)

theorem replayJournal_ok (contiguous : old.Contiguous) (renumbered : new.Contiguous) {revision : Nat}
    {state : JournalState} (bound : revision ≤ old.activeRevision)
    (read : old.replayJournal primitives agreement revision = .ok state) :
    new.replayJournal primitives agreement revision = .ok state := by
  refine Journal.replay_mono (fun position before earlier later applied => ?_) read
  have inside : position < old.journal.length := by
    rw [contiguous.length_journal]
    omega
  have found := List.getElem?_eq_getElem inside
  rw [slot_eq contiguous found] at applied
  rw [slot_eq renumbered (extended.getElem?_journal found)]
  exact extended.applyEntry_ok applied

end Extended

end Extends

end Store

end AtomicSwaps.Zec
