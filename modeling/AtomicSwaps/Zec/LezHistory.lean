import AtomicSwaps.Zec.Recovery

namespace AtomicSwaps.Zec

open AtomicSwaps.Core Fallible Transition Tracker CanonicalLezEscrowObservationV1

section Tracking

/-- Readings that the validated constructors have built. -/
def LezValidated (agreement : ZecAgreementV1) : LezObservationEventV1 → Prop
  | .canonical observation => validate agreement observation.snapshot = .ok observation
  | .removed removal => CanonicalLezEscrowRemovalV1.validate removal.previous removal.snapshot = .ok removal
  | .replaced removal observation =>
    CanonicalLezEscrowRemovalV1.validate removal.previous removal.snapshot = .ok removal ∧
      validate agreement observation.snapshot = .ok observation

def lezTip : LezObservationEventV1 → Nat
  | .canonical observation | .replaced _ observation => observation.tipHeight
  | .removed removal => removal.tipHeight

/-- The tracker, with the tip of the event it accepted last. -/
structure LezHistory where
  current : LezObservationTrackerV1
  last : Option Nat

def LezHistory.Accepts (agreement : ZecAgreementV1) (state : LezHistory) (event : LezObservationEventV1)
    (next : LezHistory) : Prop :=
  LezValidated agreement event ∧ next.last = some (lezTip event) ∧
    applyCommitted lezTracking state.current event = .ok next.current

/-- A tracker that a removal has emptied is given a reading newer than what it accepted last. -/
def LezHistory.Guarded (state : LezHistory) (event : LezObservationEventV1) : Prop :=
  state.current = none → ∀ tip, state.last = some tip → tip < lezTip event

variable {agreement : ZecAgreementV1} {state next start : LezHistory} {event input : LezObservationEventV1}
  {history later : List LezObservationEventV1} {head : CanonicalLezEscrowObservationV1}

def LezHistory.Current (state : LezHistory) : Prop :=
  ∀ head, state.current = some head → state.last = some head.tipHeight

theorem removal_checked {removal : CanonicalLezEscrowRemovalV1}
    (valid : CanonicalLezEscrowRemovalV1.validate removal.previous removal.snapshot = .ok removal) :
    removal.previous.tipHeight ≤ removal.tipHeight ∧ removal.previous.inclusionStatus ≠ .finalized := by
  simp only [CanonicalLezEscrowRemovalV1.validate, checked_ok] at valid
  obtain ⟨-, -, notOlder, -, live, -⟩ := valid
  exact ⟨notOlder, live⟩

theorem LezHistory.Current.step (accepted : state.Accepts agreement event next) : next.Current := by
  obtain ⟨-, last, applied⟩ := accepted
  intro head found
  rw [last]
  rw [(applyCommitted_ok applied).2] at found
  cases event <;> cases found <;> rfl

theorem LezHistory.Current.notOlder (current : state.Current) (valid : LezValidated agreement input)
    (guarded : state.Guarded input) (proposed : propose lezTracking state.current input = .ok (some event))
    {tip : Nat} (last : state.last = some tip) : tip ≤ lezTip event ∧
      (state.current = none → tip < lezTip event) := by
  obtain ⟨rfl, ⟨empty, -⟩ | ⟨known, held, goes⟩⟩ := propose_some proposed
  · have newer := guarded empty tip last
    exact ⟨Nat.le_of_lt newer, fun _ => newer⟩
  · have same : tip = known.tipHeight := Option.some.inj (last.symm.trans (current known held))
    refine ⟨?_, fun empty => by rw [held] at empty; cases empty⟩
    rw [same]
    obtain ⟨observation, rfl, -, advances⟩ | ⟨removal, rfl, rfl⟩ | ⟨removal, observation, rfl, rfl, replaces⟩ := goes
    · simp only [lezTracking, checked_ok] at advances
      exact advances.2
    · exact (removal_checked valid).1
    · simp only [lezTracking, ensure_ok_iff] at replaces
      exact Nat.le_trans (removal_checked valid.1).1 (Nat.le_of_eq replaces.2)

/-- The tips of the accepted events never go down, and none is above the last one. -/
structure LezHistory.Ordered (history : List LezObservationEventV1) (state : LezHistory) : Prop where
  current : state.Current
  tips : (history.map lezTip).Pairwise (· ≤ ·)
  last : ∀ tip ∈ history.map lezTip, ∃ latest, state.last = some latest ∧ tip ≤ latest

theorem LezHistory.Ordered.step (ordered : LezHistory.Ordered history state)
    (taken : restrict LezHistory.Guarded (LezHistory.Accepts agreement) state event next) :
    LezHistory.Ordered (history ++ [event]) next := by
  obtain ⟨guarded, accepted⟩ := taken
  obtain ⟨proposed, -⟩ := applyCommitted_ok accepted.2.2
  have above : ∀ tip ∈ history.map lezTip, tip ≤ lezTip event := by
    intro tip member
    obtain ⟨latest, last, below⟩ := ordered.last tip member
    exact Nat.le_trans below (ordered.current.notOlder accepted.1 guarded proposed last).1
  refine ⟨.step accepted, ?_, ?_⟩
  · rw [List.map_append, List.pairwise_append]
    exact ⟨ordered.tips, List.pairwise_singleton _ _, fun tip member last single =>
      List.mem_singleton.mp single ▸ above tip member⟩
  · intro tip member
    rw [List.map_append, List.mem_append] at member
    refine ⟨lezTip event, accepted.2.1, ?_⟩
    rcases member with member | member
    · exact above tip member
    · exact Nat.le_of_eq (List.mem_singleton.mp member)

theorem LezHistory.Accepts.goesOn (accepted : state.Accepts agreement event next) (held : state.current = some head) :
    (∃ now, next.current = some now ∧ head.sameLezInclusion now = true ∧
      head.inclusionStatus.rank ≤ now.inclusionStatus.rank) ∨
      ∃ removal, event.removal = some removal ∧ removal.previous = head ∧ head.inclusionStatus ≠ .finalized := by
  obtain ⟨valid, -, applied⟩ := accepted
  obtain ⟨proposed, reached⟩ := applyCommitted_ok applied
  obtain ⟨-, ⟨empty, -⟩ | ⟨known, found, goes⟩⟩ := propose_some proposed
  · rw [held] at empty
    cases empty
  · cases held.symm.trans found
    obtain ⟨observation, rfl, same, advances⟩ | ⟨removal, rfl, rfl⟩ | ⟨removal, observation, rfl, rfl, -⟩ := goes
    · simp only [lezTracking, checked_ok] at advances
      exact .inl ⟨observation, reached, same, advances.1⟩
    · exact .inr ⟨removal, rfl, rfl, (removal_checked valid).2⟩
    · exact .inr ⟨removal, rfl, rfl, (removal_checked valid.1).2⟩

theorem finalized_of_rank {status : LezInclusionStatusV1} (rank : LezInclusionStatusV1.finalized.rank ≤ status.rank) :
    status = .finalized := by
  cases status <;> simp [LezInclusionStatusV1.rank] at rank ⊢

theorem finalized_stays {after : LezHistory} (held : state.current = some head)
    (final : head.inclusionStatus = .finalized) (run : Run (LezHistory.Accepts agreement) state later after) :
    ∃ now, after.current = some now ∧ head.sameLezInclusion now = true ∧ now.inclusionStatus = .finalized := by
  induction run with
  | nil => exact ⟨head, held, by simp [sameLezInclusion], final⟩
  | snoc _ accepted earlier =>
    obtain ⟨before, foundBefore, sameBefore, finalBefore⟩ := earlier
    obtain ⟨now, found, same, rank⟩ | ⟨_, -, rfl, live⟩ := accepted.goesOn foundBefore
    · refine ⟨now, found, ?_, finalized_of_rank (finalBefore ▸ rank)⟩
      simp only [sameLezInclusion, decide_eq_true_eq] at same sameBefore ⊢
      exact ⟨sameBefore.1.trans same.1, sameBefore.2.1.trans same.2.1, sameBefore.2.2.1.trans same.2.2.1,
        sameBefore.2.2.2.trans same.2.2.2⟩
    · exact absurd finalBefore live

end Tracking

variable {tipHeight : Nat}

/-- Where a tracker that a removal has emptied is given only newer readings, the accepted tips never go
    down, a finalized head stays, and nothing stale is proposed. -/
theorem lez_tracker_never_moves_back (agreement : ZecAgreementV1) (history later : List LezObservationEventV1)
    (state after : LezHistory)
    (run : Run (restrict LezHistory.Guarded (LezHistory.Accepts agreement)) ⟨none, none⟩ history state)
    (rest : Run (restrict LezHistory.Guarded (LezHistory.Accepts agreement)) state later after) :
    ((history ++ later).map lezTip).Pairwise (· ≤ ·) ∧
    (∀ head, state.current = some head → head.inclusionStatus = .finalized →
      ∃ now, after.current = some now ∧ head.sameLezInclusion now = true ∧ now.inclusionStatus = .finalized) ∧
    (∀ head event next, state.current = some head → state.Accepts agreement event next →
      (∃ now, next.current = some now ∧ head.sameLezInclusion now = true) ∨
        ∃ removal, event.removal = some removal ∧ removal.previous = head) ∧
    (∀ input event, LezValidated agreement input → state.Guarded input →
      propose lezTracking state.current input = .ok (some event) → ∀ tip ∈ history.map lezTip,
        tip ≤ lezTip event ∧ (state.current = none → tip < lezTip event)) := by
  have initial : LezHistory.Ordered [] ⟨none, none⟩ := ⟨fun _ impossible => (nomatch impossible), .nil, by simp⟩
  have kept := fun {history : List LezObservationEventV1} {state : LezHistory}
      (run : Run (restrict LezHistory.Guarded (LezHistory.Accepts agreement)) ⟨none, none⟩ history state) =>
    run.history_invariant initial fun _ _ _ _ ordered taken => LezHistory.Ordered.step ordered taken
  have ordered := kept run
  refine ⟨(kept (run.append rest)).tips, fun head held final => finalized_stays held final rest.of_restrict, ?_, ?_⟩
  · intro head event next held accepted
    obtain ⟨now, found, same, -⟩ | ⟨removal, carried, previous, -⟩ := accepted.goesOn held
    · exact .inl ⟨now, found, same⟩
    · exact .inr ⟨removal, carried, previous⟩
  · intro input event valid guarded proposed tip member
    obtain ⟨latest, last, below⟩ := ordered.last tip member
    obtain ⟨notOlder, newer⟩ := ordered.current.notOlder valid guarded proposed last
    exact ⟨Nat.le_trans below notOlder, fun empty => Nat.lt_of_le_of_lt below (newer empty)⟩

theorem sampleAgreement_some : (ZecAgreementV1.validateAt samplePrimitives.toPrimitives
    (sampleRecord .takerSellsLez) 0).toOption.isSome := by decide +kernel

def sampleLezAgreement : ZecAgreementV1 := (ZecAgreementV1.validateAt samplePrimitives.toPrimitives
  (sampleRecord .takerSellsLez) 0).toOption.get sampleAgreement_some

def sampleReading (tipHeight : Nat) : CanonicalLezEscrowObservationV1 :=
  let expected := ExpectedAccountBinding.fromAgreement sampleLezAgreement
  let terms := sampleLezAgreement.body.lez
  ⟨{ chain := terms.chain, tip := ⟨1, tipHeight, 1, tipHeight⟩
     transaction := ⟨1, terms.escrowProgramId, sampleLezAgreement.lezAccount sampleLezAgreement.lezDepositor,
       expected.transactionAccounts, .native sampleLezAgreement.onchainSwapId, true, true, 5, 2, 2, .safe⟩
     metadataProgramOwner := terms.escrowProgramId, metadataAccount := terms.metadataAccount
     metadata := expectedEscrowMetadata sampleLezAgreement expected .funded
     custodyAccount := terms.custodyAccount, custody := .native 8 50 }⟩

theorem sampleReading_valid (checks : (validate sampleLezAgreement
    (sampleReading tipHeight).snapshot).toOption.isSome) :
    LezValidated sampleLezAgreement (.canonical (sampleReading tipHeight)) := by
  obtain ⟨observation, read⟩ : ∃ observation, validate sampleLezAgreement
      (sampleReading tipHeight).snapshot = .ok observation := ⟨_, ok_get checks⟩
  have whole := read
  simp only [validate, checked_ok, pure_ok] at whole
  rw [LezValidated, read, ← whole.2.2.2]

def sampleRemoval : CanonicalLezEscrowRemovalV1 :=
  ⟨sampleReading 10, sampleLezAgreement.body.lez.chain, 3, 4, 11, 4, 11⟩

theorem sampleRemoval_valid : LezValidated sampleLezAgreement (.removed sampleRemoval) := by
  simp only [LezValidated, CanonicalLezEscrowRemovalV1.validate, checked_ok]
  exact ⟨rfl, rfl, by decide, by decide, by decide, rfl⟩

theorem sampleHistory_run (allowed : LezHistory → LezObservationEventV1 → Prop)
    (checks : (validate sampleLezAgreement
      (sampleReading tipHeight).snapshot).toOption.isSome)
    (funded : allowed ⟨none, none⟩ (.canonical (sampleReading 10)))
    (removed : allowed ⟨some (sampleReading 10), some 10⟩ (.removed sampleRemoval))
    (again : allowed ⟨none, some 11⟩ (.canonical (sampleReading tipHeight))) :
    Run (restrict allowed (LezHistory.Accepts sampleLezAgreement)) ⟨none, none⟩
      [.canonical (sampleReading 10), .removed sampleRemoval, .canonical (sampleReading tipHeight)]
      ⟨some (sampleReading tipHeight), some tipHeight⟩ :=
  .snoc (.snoc (.snoc .nil
      ⟨funded, sampleReading_valid (by decide +kernel), rfl, applyCommitted_first _⟩)
      ⟨removed, sampleRemoval_valid, rfl, applyCommitted_removed sampleRemoval⟩)
    ⟨again, sampleReading_valid checks, rfl, applyCommitted_first _⟩

theorem lez_tracker_never_moves_back_sample :
    ([.canonical (sampleReading 10), .removed sampleRemoval, .canonical (sampleReading 12)].map lezTip).Pairwise
      (· ≤ ·) :=
  (lez_tracker_never_moves_back sampleLezAgreement _ [] _ _ (sampleHistory_run _ (by decide +kernel)
    (fun _ _ last => nomatch last) (fun empty => nomatch empty) (fun _ tip last => by cases last; decide)) .nil).1

/-- The reading from before the removal is accepted after it, and the removed inclusion is back. -/
theorem removed_inclusion_reinstated :
    ∃ agreement history state, Run (LezHistory.Accepts agreement) ⟨none, none⟩ history state ∧
      history = [.canonical (sampleReading 10), .removed sampleRemoval, .canonical (sampleReading 10)] ∧
      state.current = some sampleRemoval.previous ∧ history.map lezTip = [10, 11, 10] :=
  ⟨sampleLezAgreement, _, _, (sampleHistory_run (fun _ _ => True) (by decide +kernel) trivial trivial
    trivial).of_restrict, rfl, rfl, rfl⟩

end AtomicSwaps.Zec
