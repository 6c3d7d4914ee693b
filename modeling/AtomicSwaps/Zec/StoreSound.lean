import AtomicSwaps.Zec.JournalSlots
import AtomicSwaps.Zec.StoreCalls
import AtomicSwaps.Zec.TransitionEffects

namespace AtomicSwaps.Zec

open AtomicSwaps.Core Fallible

def JournalEntry.stage : JournalEntry → Nat
  | .firstLock _ | .observedTakerFirstLock _ => 0
  | .makerLock _ _ | .observedMakerLock _ => 1
  | .ownedClaim _ _ | .observedClaim _ _ => 2
  | .refund _ _ => 3

namespace Store

/-- Rows stand in the order of their stages, with one maker lock at most. -/
def StageOrder (earlier later : JournalRow) : Prop :=
  earlier.entry.stage ≤ later.entry.stage ∧ (earlier.entry.stage = 1 → later.entry.stage ≠ 1)

/-- A file every reader accepts, together with the agreement and the head it is read to. -/
structure Sound (primitives : StorePrimitives) (store : Store) (agreement : ZecAgreementV1)
    (state : JournalState) : Prop where
  agreed : ZecAgreementV1.validateAt primitives.toPrimitives store.agreementRow.agreementWire
    store.agreementRow.acceptedAt = .ok agreement
  accepted : store.agreementRow.acceptedRevision = 0
  contiguous : store.Contiguous
  replayed : store.replayJournal primitives agreement store.activeRevision = .ok state
  ordered : store.journal.Pairwise StageOrder
  passed : ∀ row ∈ store.journal, row.entry.stage ≤ phaseStage state.coordinator.phase
  auxiliary : store.validateClaimAuxiliaryState primitives agreement store.activeRevision
    state.coordinator = .ok ()
  unprojected : store.localParticipant = .maker →
    (∀ row, store.makerLockIntent = some row → row.closedRevision = none) →
    state.coordinator.makerLockTransactionId = none
  makerObserves : store.localParticipant = .maker → store.firstLockIntent = none
  takerIntent : ∀ row, store.firstLockIntent = some row → row.predecessorRevision = 0 ∧
    row.intent.validateForActive agreement store.localParticipant 0 = .ok () ∧
    (row.closedRevision = none ↔ store.activeRevision = 0)
  refundStaged : ∀ row, store.refundIntent = some row → row.intent.stagedRevision = row.stagedRevision

namespace Sound

variable {primitives : StorePrimitives} {store : Store} {agreement : ZecAgreementV1}
  {state : JournalState} (sound : Sound primitives store agreement state)

include sound

theorem validatedAgreement_ok : store.validatedAgreement primitives = .ok agreement := by
  unfold Store.validatedAgreement
  rw [ensure_bind_ok_iff, sound.accepted, sound.agreed]
  exact ⟨Nat.zero_le _, rfl⟩

theorem head : store.validatedJournalHead primitives =
    .ok { agreement, activeRevision := store.activeRevision, state } := by
  simp only [Store.validatedJournalHead, sound.validatedAgreement_ok, sound.contiguous.validates,
    sound.replayed, sound.auxiliary, ok_bind]
  rfl

theorem claimMaterial_ok {material : ClaimMaterialRow} (stored : store.claimMaterial = some material) :
    store.validateClaimMaterial primitives agreement material = .ok () := by
  have auxiliary := sound.auxiliary
  simp only [validateClaimAuxiliaryState, bind_ok_iff, stored] at auxiliary
  obtain ⟨⟨⟩, valid, -⟩ := auxiliary
  exact valid

theorem claimIntent_ok {intentRow : ClaimIntentRow} (stored : store.claimIntent = some intentRow) :
    store.validateClaimIntent primitives agreement store.activeRevision state.coordinator
      intentRow = .ok () := by
  have auxiliary := sound.auxiliary
  simp only [validateClaimAuxiliaryState, bind_ok_iff, stored] at auxiliary
  obtain ⟨⟨⟩, -, valid⟩ := auxiliary
  exact valid

end Sound

namespace Extends

variable {primitives : StorePrimitives} {old new : Store} {agreement : ZecAgreementV1}

section Extended

variable (extended : Extends old new) (contiguous : old.Contiguous) (renumbered : new.Contiguous)
include extended contiguous renumbered

theorem row_some {table : JournalTable} {predecessor : Nat} {row : JournalRow}
    (found : old.row table predecessor = some row) : new.row table predecessor = some row := by
  rw [contiguous.row_eq, Option.filter_eq_some_iff] at found
  rw [renumbered.row_eq, Option.filter_eq_some_iff]
  exact ⟨extended.getElem?_journal found.1, found.2⟩

theorem validateClaimMaterial_ok {material : ClaimMaterialRow}
    (valid : old.validateClaimMaterial primitives agreement material = .ok ()) :
    new.validateClaimMaterial primitives agreement material = .ok () := by
  unfold validateClaimMaterial at valid ⊢
  rw [extended.decryptClaimMaterial_eq]
  rw [bind_ok_iff] at valid ⊢
  obtain ⟨⟨⟩, origin, decrypted⟩ := valid
  refine ⟨(), ?_, decrypted⟩
  unfold validateClaimMaterialOrigin at origin ⊢
  rw [extended.role]
  cases purpose : material.purpose <;> simp only [purpose] at origin ⊢
  · exact origin
  · rw [ensure_bind_ok_iff] at origin ⊢
    refine ⟨origin.1, ?_⟩
    cases found : old.row .observedClaim (material.createdRevision - 1) with
    | none => simp [found] at origin
    | some row =>
      simp only [found] at origin
      simp only [extended.row_some contiguous renumbered found]
      exact origin.2
  · cases origin
  · cases origin

theorem validateClaimIntent_ok {revision revision' : Nat} {coordinator coordinator' : SwapCoordinator}
    {intentRow : ClaimIntentRow} (closed : intentRow.closedRevision.isSome)
    (valid : old.validateClaimIntent primitives agreement revision coordinator intentRow = .ok ()) :
    new.validateClaimIntent primitives agreement revision' coordinator' intentRow = .ok () := by
  simp only [validateClaimIntent, extended.openClaimPayload_eq, bind_ok_iff] at valid ⊢
  obtain ⟨⟨⟩, linked, ⟨⟩, position, opened⟩ := valid
  refine ⟨(), ?_, (), ?_, opened⟩
  · unfold validateClaimIntentMaterial at linked ⊢
    cases secret : old.claimMaterial with
    | none => simp [secret] at linked
    | some material =>
      simp only [secret] at linked
      simp only [extended.claimMaterial material secret]
      exact linked
  · unfold validateClaimIntentPosition at position ⊢
    cases end_ : intentRow.closedRevision with
    | none => simp [end_] at closed
    | some committed =>
      simp only [end_, ensure_bind_ok_iff] at position ⊢
      refine ⟨position.1, ?_⟩
      cases found : old.row .ownedClaim (committed - 1) with
      | none => simp [found] at position
      | some row =>
        simp only [found] at position
        simp only [extended.row_some contiguous renumbered found]
        have inside := contiguous.row_inside found
        cases entry : row.entry with
        | ownedClaim staged record =>
          simp only [entry, bind_ok_iff] at position ⊢
          obtain ⟨-, ⟨⟩, matching, before, read, revalidated⟩ := position
          refine ⟨(), matching, before, ?_, ?_⟩
          · exact extended.replayJournal_ok contiguous renumbered (by omega) read
          · rw [extended.role]
            exact revalidated
        | _ => simp [entry] at position

end Extended

end Extends

variable {primitives : StorePrimitives} {store store' : Store} {agreement : ZecAgreementV1}
  {state state' : JournalState}

def nextRow (store : Store) (entry : JournalEntry) : JournalRow where
  predecessorRevision := store.activeRevision
  committedRevision := store.activeRevision + 1
  entry := entry

/-- `store'` is `store` with one row more in its journal. -/
structure Appends (store store' : Store) (entry : JournalEntry) : Prop where
  extended : Extends store store'
  agreementRow : store'.agreementRow = { store.agreementRow with activeRevision := store.activeRevision + 1 }
  journal : store'.journal = store.journal ++ [store.nextRow entry]
  fits : store.activeRevision + 1 < 2 ^ 63

section Appends

variable {entry : JournalEntry} (appends : Appends store store' entry)
include appends

theorem Appends.active : store'.activeRevision = store.activeRevision + 1 := by
  simp [Store.activeRevision, appends.agreementRow]

theorem Appends.contiguous (contiguous : store.Contiguous) : store'.Contiguous where
  numbered := by
    rw [appends.journal, appends.active, List.range_succ, List.map_append, contiguous.numbered]
    rfl
  committed := by
    intro row member
    rw [appends.journal, List.mem_append, List.mem_singleton] at member
    rcases member with old | rfl
    · exact contiguous.committed row old
    · rfl
  bounded := by rw [appends.active]; exact appends.fits

theorem Appends.last (contiguous : store.Contiguous) :
    store'.journal[store.activeRevision]? = some (store.nextRow entry) := by
  rw [appends.journal, ← contiguous.length_journal, List.getElem?_concat_length]

theorem Appends.row_last (contiguous : store.Contiguous) :
    store'.row entry.table store.activeRevision = some (store.nextRow entry) := by
  rw [(appends.contiguous contiguous).row_eq, appends.last contiguous]
  simp [nextRow, Option.filter]

/-- Rows of claims that nobody touches stay valid at every later head, once no intent is open. -/
theorem Sound.auxiliary_frame (sound : Sound primitives store agreement state)
    (material : store'.claimMaterial = store.claimMaterial) (intent : store'.claimIntent = store.claimIntent)
    (idle : ∀ row, store.claimIntent = some row → row.closedRevision.isSome) (revision : Nat)
    (coordinator : SwapCoordinator) :
    store'.validateClaimAuxiliaryState primitives agreement revision coordinator = .ok () := by
  have renumbered := appends.contiguous sound.contiguous
  simp only [validateClaimAuxiliaryState, bind_ok_iff, material, intent]
  refine ⟨(), ?_, ?_⟩
  · cases secret : store.claimMaterial with
    | none => rfl
    | some row =>
      exact appends.extended.validateClaimMaterial_ok sound.contiguous renumbered
        (sound.claimMaterial_ok secret)
  · cases staged : store.claimIntent with
    | none => rfl
    | some row =>
      exact appends.extended.validateClaimIntent_ok sound.contiguous renumbered (idle row staged)
        (sound.claimIntent_ok staged)

end Appends

end Store

end AtomicSwaps.Zec
