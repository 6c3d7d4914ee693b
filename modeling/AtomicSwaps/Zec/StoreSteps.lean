import AtomicSwaps.Zec.Sdk
import AtomicSwaps.Zec.StoreSound

namespace AtomicSwaps.Zec

open AtomicSwaps.Core Fallible

def JournalState.resumed (state : JournalState) (agreement : ZecAgreementV1)
    (localParticipant : Participant) (revision : Nat) : ActiveZecSwap :=
  { agreement, localParticipant, coordinator := state.coordinator, revision
    zcashTakerLockTracker := state.zcash, lezTakerLockTracker := state.lez }

def CommittedTransition.applyTo (primitives : StorePrimitives) (active : ActiveZecSwap) :
    CommittedTransition → Except ZecSdkError ActiveZecSwap
  | .firstLock transition => active.applyFirstLock transition
  | .observedTakerFirstLock transition => active.applyObservedTakerFirstLock transition
  | .makerLock transition => active.applyMakerLock transition
  | .observedMakerLock transition => active.applyObservedMakerLock transition
  | .claim transition => active.applyClaim primitives transition
  | .refund transition => active.applyRefund transition

def JournalEntry.Records (primitives : StorePrimitives) : JournalEntry → CommittedTransition → Prop
  | .firstLock stored, .firstLock transition => stored = transition
  | .observedTakerFirstLock stored, .observedTakerFirstLock transition => stored = transition
  | .makerLock _ stored, .makerLock transition => stored = transition
  | .observedMakerLock stored, .observedMakerLock transition => stored = transition
  | .ownedClaim _ record, .claim transition | .observedClaim _ record, .claim transition =>
    record = transition.record primitives.toPrimitives
  | .refund _ stored, .refund transition => stored = transition
  | _, _ => False

theorem ClaimTransitionRecordV1.revalidate_record {primitives : Primitives}
    {record : ClaimTransitionRecordV1} {agreement : ZecAgreementV1} {localParticipant : Participant}
    {coordinator : SwapCoordinator} {intent : Option ClaimIntentV1} {revision : Nat}
    {preimage : Option Bytes32} {transition : ClaimTransitionV1}
    (valid : record.revalidate primitives agreement localParticipant coordinator intent revision
      preimage = .ok transition) : transition.record primitives = record := by
  simp only [revalidate, checked_ok] at valid
  obtain ⟨-, -, trusted, -, same, returned⟩ := valid
  cases returned
  exact same

theorem sqlU64_ok_iff {value : Nat} {result : Unit} : sqlU64 value = .ok result ↔ value < 2 ^ 63 :=
  ensure_ok_iff

namespace Store

variable {primitives : StorePrimitives} {store : Store} {agreement : ZecAgreementV1}
  {state next : JournalState} {revision : Nat} {transition : ObservedTakerFirstLockTransitionV1}
  {committed : Nat} {record : ClaimTransitionRecordV1} {entry : JournalEntry} {staged : Nat}

variable {after coordinator : SwapCoordinator}

theorem applyOwnedClaimSlot_ok :
    store.applyOwnedClaimSlot primitives agreement coordinator revision committed staged record =
        .ok after ↔
      ∃ intentRow material preimage transition, store.claimIntent = some intentRow ∧
        store.claimMaterial = some material ∧ staged = intentRow.stagedRevision ∧
        intentRow.closedRevision = some committed ∧
        intentRow.intent.revalidate agreement store.localParticipant coordinator revision = .ok () ∧
        (∃ prepared, store.openClaimPayload primitives agreement intentRow.intent
          intentRow.protectedPayload = .ok prepared) ∧
        intentRow.materialCreatedRevision = material.createdRevision ∧
        material.purpose = record.step.materialPurpose ∧
        store.decryptClaimMaterial primitives agreement material = .ok preimage ∧
        record.revalidate primitives.toPrimitives agreement store.localParticipant coordinator
          (some intentRow.intent) revision (some preimage) = .ok transition ∧
        transition.applyTo primitives.toPrimitives agreement coordinator revision = .ok after := by
  unfold applyOwnedClaimSlot
  cases staging : store.claimIntent with
  | none => simp
  | some intentRow =>
    cases secret : store.claimMaterial with
    | none =>
      simp [bind_ok_iff]
    | some material =>
      simp only [checked_ok, mapError_ok_iff, Option.some.injEq]
      constructor
      · rintro ⟨⟨sameStage, closed⟩, revalidated, prepared, opened, linked, purpose, preimage,
          decrypted, transition, rebuilt, applied⟩
        exact ⟨intentRow, material, preimage, transition, rfl, rfl, sameStage, closed, revalidated,
          ⟨prepared, opened⟩, linked, purpose, decrypted, rebuilt, applied⟩
      · rintro ⟨_, _, preimage, transition, rfl, rfl, sameStage, closed, revalidated,
          ⟨prepared, opened⟩, linked, purpose, decrypted, rebuilt, applied⟩
        exact ⟨⟨sameStage, closed⟩, revalidated, prepared, opened, linked, purpose, preimage,
          decrypted, transition, rebuilt, applied⟩

theorem applyObservedClaimSlot_ok {created : Option Nat} :
    store.applyObservedClaimSlot primitives agreement coordinator revision committed created record =
        .ok after ↔
      ∃ preimage transition,
        store.observedClaimPreimage primitives agreement committed created record.step = .ok preimage ∧
        record.revalidate primitives.toPrimitives agreement store.localParticipant coordinator none
          revision preimage = .ok transition ∧
        transition.applyTo primitives.toPrimitives agreement coordinator revision = .ok after := by
  simp only [applyObservedClaimSlot, bind_ok_iff, mapError_ok_iff]
  grind

theorem applyFirstLockSlot_ok {transition : FirstLockTransitionV1} :
    store.applyFirstLockSlot agreement coordinator revision committed transition = .ok after ↔
      ∃ intentRow, store.firstLockIntent = some intentRow ∧
        intentRow.predecessorRevision = revision ∧ intentRow.closedRevision = some committed ∧
        transition.revalidate agreement store.localParticipant intentRow.intent revision = .ok () ∧
        transition.applyTo agreement coordinator revision = .ok after := by
  unfold applyFirstLockSlot
  cases staged : store.firstLockIntent with
  | none => simp
  | some intentRow =>
    simp only [checked_ok, mapError_ok_iff, Option.some.injEq, exists_eq_left', and_assoc]

theorem applyMakerLockSlot_ok {transition : MakerLockTransitionV1} :
    store.applyMakerLockSlot agreement coordinator revision committed staged transition =
        .ok after ↔
      ∃ intentRow, store.makerLockIntent = some intentRow ∧ staged = intentRow.stagedRevision ∧
        intentRow.closedRevision = some committed ∧
        transition.revalidate agreement store.localParticipant intentRow.intent revision = .ok () ∧
        transition.applyTo agreement coordinator revision = .ok after := by
  unfold applyMakerLockSlot
  cases staged : store.makerLockIntent with
  | none => simp
  | some intentRow =>
    simp only [checked_ok, mapError_ok_iff, Option.some.injEq, exists_eq_left', and_assoc]

theorem applyObservedMakerSlot_ok {transition : ObservedMakerLockTransitionV1} :
    store.applyObservedMakerSlot agreement coordinator revision transition = .ok after ↔
      transition.revalidate agreement store.localParticipant revision = .ok () ∧
        transition.applyTo agreement coordinator revision = .ok after := by
  simp only [applyObservedMakerSlot, checked_ok, mapError_ok_iff]

theorem applyRefundJournalSlot_ok {retained : Option RefundIntentRow} {transition : RefundTransitionV1} :
    store.applyRefundJournalSlot agreement coordinator revision retained transition = .ok after ↔
      (retained.all fun row => row.intent.stagedRevision = row.stagedRevision) ∧
        transition.owned = retained.isSome ∧
        transition.revalidate agreement store.localParticipant coordinator revision
          (retained.map RefundIntentRow.intent) = .ok () ∧
        transition.applyTo agreement coordinator revision = .ok after := by
  simp only [applyRefundJournalSlot, checked_ok, mapError_ok_iff]

theorem applyObservedTakerSlot_ok :
    store.applyObservedTakerSlot primitives agreement state revision transition = .ok next ↔
      transition.revalidate primitives.hash160 agreement store.localParticipant revision = .ok () ∧
        ∃ tracked coordinator,
          applySelectedObservationEvent state transition (revision = 0) = .ok tracked ∧
          transition.applyTo agreement state.coordinator revision = .ok coordinator ∧
          next = { tracked with coordinator } := by
  simp only [applyObservedTakerSlot, checked_ok, mapError_ok_iff, pure_ok]
  grind

theorem applySelectedObservationEvent_resumed
    {tracked : JournalState} {initial : Bool} {localParticipant : Participant}
    (selected : applySelectedObservationEvent state transition initial = .ok tracked) :
    let active := state.resumed agreement localParticipant revision
    active.applyCommittedZcashEvent transition = .ok tracked.zcash ∧
      active.applyCommittedLezEvent transition = .ok tracked.lez := by
  unfold applySelectedObservationEvent at selected
  unfold ActiveZecSwap.applyCommittedZcashEvent ActiveZecSwap.applyCommittedLezEvent
  cases lez : transition.lezObservationEvent <;> cases zcash : transition.zcashObservationEvent <;>
    simp only [lez, zcash] at selected ⊢
  · split at selected <;> cases selected
    exact ⟨rfl, rfl⟩
  · simp only [bind_ok_iff, mapError_ok_iff] at selected
    obtain ⟨tracker, applied, returned⟩ := selected
    cases returned
    exact ⟨mapError_ok_iff.mpr applied, rfl⟩
  · simp only [bind_ok_iff, mapError_ok_iff] at selected
    obtain ⟨tracker, applied, returned⟩ := selected
    cases returned
    exact ⟨rfl, mapError_ok_iff.mpr applied⟩
  · cases selected

def EntryApplies (primitives : StorePrimitives) (store : Store) (agreement : ZecAgreementV1)
    (revision : Nat) (state next : JournalState) : JournalEntry → Prop
  | .firstLock transition => store.localParticipant = .taker ∧ ∃ coordinator,
      store.applyFirstLockSlot agreement state.coordinator revision (revision + 1) transition =
        .ok coordinator ∧ { state with coordinator } = next
  | .observedTakerFirstLock transition => store.localParticipant = .maker ∧
      store.applyObservedTakerSlot primitives agreement state revision transition = .ok next
  | .makerLock staged transition => store.localParticipant = .maker ∧ ∃ coordinator,
      store.applyMakerLockSlot agreement state.coordinator revision (revision + 1) staged transition =
        .ok coordinator ∧ { state with coordinator } = next
  | .observedMakerLock transition => store.localParticipant = .taker ∧ ∃ coordinator,
      store.applyObservedMakerSlot agreement state.coordinator revision transition =
        .ok coordinator ∧ { state with coordinator } = next
  | .ownedClaim staged record => ∃ coordinator,
      store.applyOwnedClaimSlot primitives agreement state.coordinator revision (revision + 1) staged
        record = .ok coordinator ∧ { state with coordinator } = next
  | .observedClaim created record => ∃ coordinator,
      store.applyObservedClaimSlot primitives agreement state.coordinator revision (revision + 1)
        created record = .ok coordinator ∧ { state with coordinator } = next
  | .refund retained transition => ∃ coordinator,
      store.applyRefundJournalSlot agreement state.coordinator revision retained transition =
        .ok coordinator ∧ { state with coordinator } = next

theorem applyEntry_ok_iff :
    store.applyEntry primitives agreement revision state entry = .ok next ↔
      store.EntryApplies primitives agreement revision state next entry := by
  cases role : store.localParticipant <;> cases entry <;>
    simp [applyEntry, EntryApplies, role, bind_ok_iff, pure, Except.pure]

/-- Replaying a row does to the swap what the transition it records does. -/
theorem applyEntry_records {transition : CommittedTransition} (records : entry.Records primitives transition)
    (applied : store.applyEntry primitives agreement revision state entry = .ok next) :
    transition.applyTo primitives (state.resumed agreement store.localParticipant revision) =
      .ok (next.resumed agreement store.localParticipant revision) := by
  rw [applyEntry_ok_iff] at applied
  have project {Error : Type} {rename : Error → ZecSdkError} {coordinator : SwapCoordinator}
      {outcome : Except Error SwapCoordinator} (projected : outcome = .ok coordinator) :
      (do let coordinator ← outcome.mapError rename
          return { state.resumed agreement store.localParticipant revision with coordinator }) =
        Except.ok ({ state with coordinator : JournalState }.resumed agreement
          store.localParticipant revision) := by
    rw [projected]
    rfl
  cases entry <;> cases transition <;> try exact records.elim
  case firstLock.firstLock =>
    obtain rfl := records
    obtain ⟨-, coordinator, slot, rfl⟩ := applied
    obtain ⟨-, -, -, -, -, projected⟩ := applyFirstLockSlot_ok.mp slot
    exact project projected
  case observedTakerFirstLock.observedTakerFirstLock =>
    obtain rfl := records
    obtain ⟨-, tracked, coordinator, selected, projected, rfl⟩ :=
      applyObservedTakerSlot_ok.mp applied.2
    obtain ⟨zcash, lez⟩ := applySelectedObservationEvent_resumed selected
    exact bind_ok_iff.mpr ⟨tracked.zcash, zcash, bind_ok_iff.mpr ⟨tracked.lez, lez,
      bind_ok_iff.mpr ⟨coordinator, mapError_ok_iff.mpr projected, rfl⟩⟩⟩
  case makerLock.makerLock =>
    obtain rfl := records
    obtain ⟨-, coordinator, slot, rfl⟩ := applied
    obtain ⟨-, -, -, -, -, projected⟩ := applyMakerLockSlot_ok.mp slot
    exact project projected
  case observedMakerLock.observedMakerLock =>
    obtain rfl := records
    obtain ⟨-, coordinator, slot, rfl⟩ := applied
    exact project (applyObservedMakerSlot_ok.mp slot).2
  case ownedClaim.claim =>
    obtain rfl := records
    obtain ⟨coordinator, slot, rfl⟩ := applied
    obtain ⟨_, _, _, rebuilt, -, -, -, -, -, -, -, -, -, valid, projected⟩ :=
      applyOwnedClaimSlot_ok.mp slot
    rw [ClaimTransitionV1.applyTo_congr (ClaimTransitionRecordV1.revalidate_record valid)] at projected
    exact project projected
  case observedClaim.claim =>
    obtain rfl := records
    obtain ⟨coordinator, slot, rfl⟩ := applied
    obtain ⟨_, rebuilt, -, valid, projected⟩ := applyObservedClaimSlot_ok.mp slot
    rw [ClaimTransitionV1.applyTo_congr (ClaimTransitionRecordV1.revalidate_record valid)] at projected
    exact project projected
  case refund.refund =>
    obtain rfl := records
    obtain ⟨coordinator, slot, rfl⟩ := applied
    exact project (applyRefundJournalSlot_ok.mp slot).2.2.2

end Store

end AtomicSwaps.Zec
