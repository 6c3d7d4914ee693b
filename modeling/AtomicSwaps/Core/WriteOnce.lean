import AtomicSwaps.Core.ClaimAuthority
import AtomicSwaps.Core.Delivery

namespace AtomicSwaps.Core

open SwapCoordinator

def SwapCoordinator.delivered (coordinator : SwapCoordinator) (operations : List Operation) : SwapCoordinator :=
  operations.foldl (fun reached operation => (operation.deliver reached).2) coordinator

/-- An operation that names another id, or other evidence, than the one that is committed. -/
def Conflicts (coordinator : SwapCoordinator) : Operation → Prop
  | .observeTakerLock proof =>
    ∃ known, coordinator.takerLockTransactionId = some known ∧ known ≠ proof.transactionId
  | .observeTakerLockRemoved transactionId =>
    ∃ known, coordinator.takerLockTransactionId = some known ∧ known ≠ transactionId
  | .observeMakerLock proof =>
    ∃ known, coordinator.makerLockTransactionId = some known ∧ known ≠ proof.transactionId
  | .observeMakerLockRemoved transactionId =>
    ∃ known, coordinator.makerLockTransactionId = some known ∧ known ≠ transactionId
  | .observeRevealingClaim _ proof evidence =>
    (∃ known, coordinator.revealingClaimTransactionId = some known ∧ known ≠ proof.transactionId) ∨
      ∃ known, coordinator.claimEvidence = some known ∧ known ≠ evidence
  | .observeFollowupClaim _ proof =>
    ∃ known, coordinator.followupClaimTransactionId = some known ∧ known ≠ proof.transactionId
  | .observeTakerRefundForMakerRecovery evidence =>
    ∃ known, coordinator.takerRefundEventTransactionId = some known ∧ known ≠ evidence.proof.transactionId
  | .observeMakerRecovery proof =>
    ∃ known, coordinator.makerRecoveryTransactionId = some known ∧ known ≠ proof.transactionId
  | .refundMakerLeg _ | .refundTakerLeg _ => False

section Pinned

variable {phase : Phase} {proof : ChainProof}

def Phase.fundingSettled : Phase → Bool
  | .offered | .awaitingTakerConfirmations | .takerLockConfirmed | .awaitingMakerConfirmations => false
  | _ => true

/-- Where each id stands in each phase. -/
structure Pinned (coordinator : SwapCoordinator) : Prop where
  taker : coordinator.phase ≠ .offered → coordinator.takerLockTransactionId.isSome
  maker : coordinator.phase.beforeMakerLock = false → coordinator.phase ≠ .refunded →
    coordinator.makerLockTransactionId.isSome
  unpinned : coordinator.phase.beforeMakerLock → coordinator.makerLockTransactionId = none
  evidence : coordinator.revealingClaimTransactionId.isSome = coordinator.claimEvidence.isSome
  revealed : coordinator.claimEvidence.isSome →
    coordinator.phase.fundingSettled ∧ coordinator.phase ≠ .bothLegsLocked
  followed : coordinator.followupClaimTransactionId.isSome → coordinator.phase = .completed
  recovered : coordinator.makerRecoveryTransactionId.isSome → coordinator.phase = .refunded

theorem Constructed.pinned {start : SwapCoordinator} (constructed : Constructed start) : Pinned start := by
  cases constructed <;>
    exact ⟨fun late => absurd rfl late, fun late => (nomatch late), fun _ => rfl, rfl, fun held => (nomatch held),
      fun held => (nomatch held), fun held => (nomatch held)⟩

variable {coordinator next : SwapCoordinator} {operation : Operation}

theorem Pinned.late_evidence (pinned : Pinned coordinator)
    (held : coordinator.revealingClaimTransactionId.isSome ∨ coordinator.claimEvidence.isSome) :
    coordinator.phase ≠ .bothLegsLocked := by
  rcases held with revealing | evidence
  · exact (pinned.revealed (pinned.evidence ▸ revealing)).2
  · exact (pinned.revealed evidence).2

theorem agrees_of_same {α : Type} {field : Option α} {value : α} (same : field = some value) :
    ¬∃ known, field = some known ∧ known ≠ value := by
  rintro ⟨known, held, differs⟩
  exact differs (Option.some.inj (held.symm.trans same))

theorem accepted_agrees (pinned : Pinned coordinator) (accepted : coordinator.perform operation = .ok next) :
    ¬Conflicts coordinator operation := by
  intro conflicts
  cases operation with
  | observeTakerLock proof =>
    obtain ⟨known, held, differs⟩ := conflicts
    have refused : coordinator.perform (.observeTakerLock proof) = .error .conflictingTakerLock := by
      refine if_pos ?_
      rw [held]
      exact decide_eq_true differs
    cases refused.symm.trans accepted
  | observeTakerLockRemoved transactionId =>
    exact agrees_of_same (observeTakerLockRemoved_ok accepted).1 conflicts
  | observeMakerLock proof =>
    rcases observeMakerLock_ok accepted with ⟨-, same, -⟩ | ⟨early, -⟩ | ⟨same, -⟩
    · exact agrees_of_same same conflicts
    · obtain ⟨known, held, -⟩ := conflicts
      have unpinned := pinned.unpinned (by rw [early]; rfl)
      cases held.symm.trans unpinned
    · exact agrees_of_same same conflicts
  | observeMakerLockRemoved transactionId =>
    exact agrees_of_same (observeMakerLockRemoved_ok accepted).1 conflicts
  | observeRevealingClaim claimant proof evidence =>
    obtain ⟨-, ⟨⟨-, sameId, sameEvidence⟩, -⟩ | ⟨locked, -⟩⟩ := observeRevealingClaim_ok accepted
    · exact conflicts.elim (agrees_of_same sameId) (agrees_of_same sameEvidence)
    · rcases conflicts with ⟨known, held, -⟩ | ⟨known, held, -⟩
      · exact pinned.late_evidence (.inl (by rw [held]; rfl)) locked
      · exact pinned.late_evidence (.inr (by rw [held]; rfl)) locked
  | observeFollowupClaim claimant proof =>
    obtain ⟨-, ⟨⟨-, same⟩, -⟩ | ⟨available, -⟩⟩ := observeFollowupClaim_ok accepted
    · exact agrees_of_same same conflicts
    · obtain ⟨known, held, -⟩ := conflicts
      have completed := pinned.followed (by rw [held]; rfl)
      cases completed.symm.trans available
  | observeTakerRefundForMakerRecovery evidence =>
    obtain ⟨_, -, named, -⟩ := observeTakerRefundForMakerRecovery_ok accepted
    have held := conflicts
    obtain ⟨known, held, -⟩ := held
    exact agrees_of_same (named (by rw [held]; rfl)) conflicts
  | observeMakerRecovery proof =>
    obtain ⟨known, held, differs⟩ := conflicts
    have refused : coordinator.perform (.observeMakerRecovery proof) = .error .conflictingMakerRecovery := by
      refine if_pos ?_
      rw [held]
      exact decide_eq_true differs
    cases refused.symm.trans accepted
  | refundMakerLeg observed => exact conflicts
  | refundTakerLeg observed => exact conflicts

theorem takerLockPhase_settled (hasEvidence confirmed : Bool) (phase : Phase) :
    (takerLockPhase hasEvidence phase confirmed).fundingSettled = phase.fundingSettled := by
  cases phase <;> cases confirmed <;> cases hasEvidence <;> rfl

theorem takerLockPhase_revealed (confirmed : Bool) (late : phase ≠ .bothLegsLocked) :
    takerLockPhase true phase confirmed ≠ .bothLegsLocked := by
  cases phase <;> cases confirmed <;> simp_all [takerLockPhase]

theorem makerLockPhase_revealed (confirmed : Bool) (settled : phase.fundingSettled)
    (late : phase ≠ .bothLegsLocked) : makerLockPhase true phase confirmed ≠ .bothLegsLocked := by
  cases phase <;> cases confirmed <;> simp_all [makerLockPhase, Phase.fundingSettled]

theorem makerLockPhase_settled (hasEvidence confirmed : Bool) (settled : phase.fundingSettled) :
    (makerLockPhase hasEvidence phase confirmed).fundingSettled := by
  cases phase <;> cases confirmed <;> cases hasEvidence <;>
    simp_all [makerLockPhase, Phase.fundingSettled]

theorem pinned_takerProof (pinned : Pinned coordinator) (live : coordinator.phase.terminal = false) :
    Pinned { coordinator with
      takerLockTransactionId := some proof.transactionId
      takerFundingConfirmed := decide (coordinator.confirmationPolicy.required ≤ proof.confirmations)
      phase := takerLockPhase coordinator.claimEvidence.isSome coordinator.phase
        (decide (coordinator.confirmationPolicy.required ≤ proof.confirmations)) } := by
  constructor
  case taker => exact fun _ => rfl
  case maker =>
    intro late _
    dsimp only at late
    rw [takerLockPhase_beforeMakerLock] at late
    refine pinned.maker late fun refunded => ?_
    rw [refunded] at live
    cases live
  case unpinned =>
    intro early
    dsimp only at early
    rw [takerLockPhase_beforeMakerLock] at early
    exact pinned.unpinned early
  case evidence => exact pinned.evidence
  case revealed =>
    intro held
    obtain ⟨settled, late⟩ := pinned.revealed held
    dsimp only at held ⊢
    rw [takerLockPhase_settled, held]
    exact ⟨settled, takerLockPhase_revealed _ late⟩
  case followed =>
    intro held
    rw [pinned.followed held] at live
    cases live
  case recovered =>
    intro held
    rw [pinned.recovered held] at live
    cases live

theorem pinned_makerProof {confirmed : Bool} (pinned : Pinned coordinator) (phase : coordinator.phase ∈
      [.awaitingMakerConfirmations, .bothLegsLocked, .makerLockReorged, .claimEvidenceAvailable]) :
    Pinned { coordinator with
      makerFundingConfirmed := confirmed
      phase := makerLockPhase coordinator.claimEvidence.isSome coordinator.phase confirmed } := by
  have known : coordinator.phase ≠ .offered ∧ coordinator.phase.beforeMakerLock = false ∧
      coordinator.phase.terminal = false := by
    simp only [List.mem_cons, List.not_mem_nil, or_false] at phase
    rcases phase with phase | phase | phase | phase <;> rw [phase] <;> exact ⟨by decide, rfl, rfl⟩
  obtain ⟨begun, funded, live⟩ := known
  constructor
  case taker => exact fun _ => pinned.taker begun
  case maker =>
    refine fun _ _ => pinned.maker funded fun refunded => ?_
    rw [refunded] at live
    cases live
  case unpinned =>
    intro early
    have before := (makerLockPhase_beforeMakerLock _ _ _).symm.trans early
    cases funded.symm.trans before
  case evidence => exact pinned.evidence
  case revealed =>
    intro held
    obtain ⟨settled, late⟩ := pinned.revealed held
    dsimp only at held ⊢
    rw [held]
    exact ⟨makerLockPhase_settled _ _ settled, makerLockPhase_revealed _ settled late⟩
  case followed =>
    intro held
    rw [pinned.followed held] at live
    cases live
  case recovered =>
    intro held
    rw [pinned.recovered held] at live
    cases live

theorem pinned_accepts (pinned : Pinned coordinator) (accepts : Accepts coordinator operation next) :
    Pinned next := by
  cases accepts with
  | takerProof live => exact pinned_takerProof pinned live
  | makerProof phase _ => exact pinned_makerProof pinned phase
  | takerProofLate _ | makerProofDropped _ | claimRevealedAgain => exact pinned
  | claimFollowedAgain _ | recoveryOpenedAgain | makerRecoveredAgain _ => exact pinned
  | _ =>
    obtain ⟨taker, maker, unpinned, evidence, revealed, followed, recovered⟩ := pinned
    constructor <;> grind -linarith [Phase.beforeMakerLock, Phase.fundingSettled]

theorem deliver_cases (coordinator : SwapCoordinator) (operation : Operation) :
    (operation.deliver coordinator).2 = coordinator ∨
      coordinator.perform operation = .ok (operation.deliver coordinator).2 := by
  rw [deliver_outcome]
  cases performed : coordinator.perform operation with
  | error error => exact .inl rfl
  | ok next => exact .inr rfl

theorem pinned_deliver (pinned : Pinned coordinator) : Pinned (operation.deliver coordinator).2 := by
  rcases deliver_cases coordinator operation with same | accepted
  · rw [same]
    exact pinned
  · exact pinned_accepts pinned (perform_accepts accepted)

theorem pinned_delivered (pinned : Pinned coordinator) (operations : List Operation) :
    Pinned (coordinator.delivered operations) := by
  induction operations generalizing coordinator with
  | nil => exact pinned
  | cons operation rest kept => exact kept (pinned_deliver pinned)

end Pinned

section Committed

structure Committed (before later : SwapCoordinator) : Prop where
  settled : before.phase.fundingSettled → later.phase.fundingSettled ∧
    later.takerLockTransactionId = before.takerLockTransactionId ∧
    later.makerLockTransactionId = before.makerLockTransactionId
  evidence : before.claimEvidence.isSome → later.claimEvidence = before.claimEvidence ∧
    later.revealingClaimTransactionId = before.revealingClaimTransactionId
  followup : before.followupClaimTransactionId.isSome →
    later.followupClaimTransactionId = before.followupClaimTransactionId
  event : before.takerRefundEventTransactionId.isSome →
    later.takerRefundEventTransactionId = before.takerRefundEventTransactionId
  recovery : before.makerRecoveryTransactionId.isSome →
    later.makerRecoveryTransactionId = before.makerRecoveryTransactionId

variable {before middle later coordinator next : SwapCoordinator} {operation : Operation}

theorem Committed.refl (coordinator : SwapCoordinator) : Committed coordinator coordinator :=
  ⟨fun settled => ⟨settled, rfl, rfl⟩, fun _ => ⟨rfl, rfl⟩, fun _ => rfl, fun _ => rfl, fun _ => rfl⟩

theorem Committed.trans (first : Committed before middle) (second : Committed middle later) :
    Committed before later := by
  constructor
  case settled =>
    intro settled
    obtain ⟨still, taker, maker⟩ := first.settled settled
    obtain ⟨last, laterTaker, laterMaker⟩ := second.settled still
    exact ⟨last, laterTaker.trans taker, laterMaker.trans maker⟩
  case evidence =>
    intro held
    obtain ⟨evidence, revealing⟩ := first.evidence held
    obtain ⟨laterEvidence, laterRevealing⟩ := second.evidence (evidence ▸ held)
    exact ⟨laterEvidence.trans evidence, laterRevealing.trans revealing⟩
  case followup => exact fun held => (second.followup (first.followup held ▸ held)).trans (first.followup held)
  case event => exact fun held => (second.event (first.event held ▸ held)).trans (first.event held)
  case recovery => exact fun held => (second.recovery (first.recovery held ▸ held)).trans (first.recovery held)

theorem held_again {held : Option Identifier} {named : Identifier} (present : held.isSome)
    (agrees : ¬∃ known, held = some known ∧ known ≠ named) : some named = held := by
  obtain ⟨known, pinned⟩ := Option.isSome_iff_exists.mp present
  by_cases same : known = named
  · rw [pinned, same]
  · exact absurd ⟨known, pinned, same⟩ agrees

theorem Phase.fundingSettled_begun {phase : Phase} (settled : phase.fundingSettled) : phase ≠ .offered := by
  rintro rfl
  cases settled

theorem committed_accepts (pinned : Pinned coordinator) (agrees : ¬Conflicts coordinator operation)
    (accepts : Accepts coordinator operation next) : Committed coordinator next := by
  cases accepts with
  | takerProof live =>
    refine ⟨fun settled => ?_, fun _ => ⟨rfl, rfl⟩, fun _ => rfl, fun _ => rfl, fun _ => rfl⟩
    have present := pinned.taker (Phase.fundingSettled_begun settled)
    exact ⟨(takerLockPhase_settled _ _ _).trans settled, held_again present agrees, rfl⟩
  | makerProof phase _ =>
    refine ⟨fun settled => ?_, fun _ => ⟨rfl, rfl⟩, fun _ => rfl, fun _ => rfl, fun _ => rfl⟩
    exact ⟨makerLockPhase_settled _ _ settled, rfl, rfl⟩
  | recoveryOpened _ =>
    exact ⟨fun _ => ⟨rfl, rfl, rfl⟩, fun _ => ⟨rfl, rfl⟩, fun _ => rfl, fun present => held_again present agrees,
      fun _ => rfl⟩
  | takerProofLate _ | makerProofDropped _ | claimRevealedAgain => exact .refl _
  | claimFollowedAgain _ | recoveryOpenedAgain | makerRecoveredAgain _ => exact .refl _
  | _ =>
    obtain ⟨taker, maker, unpinned, evidence, revealed, followed, recovered⟩ := pinned
    constructor <;> grind -linarith [Phase.beforeMakerLock, Phase.fundingSettled]

theorem committed_deliver (pinned : Pinned coordinator) :
    Committed coordinator (operation.deliver coordinator).2 := by
  rcases deliver_cases coordinator operation with same | accepted
  · rw [same]
    exact .refl coordinator
  · exact committed_accepts pinned (accepted_agrees pinned accepted) (perform_accepts accepted)

theorem committed_delivered (pinned : Pinned coordinator) (operations : List Operation) :
    Committed coordinator (coordinator.delivered operations) := by
  induction operations generalizing coordinator with
  | nil => exact .refl coordinator
  | cons operation rest kept => exact (committed_deliver pinned).trans (kept (pinned_deliver pinned))

theorem conflicting_refused (pinned : Pinned coordinator) (conflicts : Conflicts coordinator operation) :
    (operation.deliver coordinator).1.isOk = false ∧ (operation.deliver coordinator).2 = coordinator := by
  rw [deliver_outcome]
  unfold outcome
  cases performed : coordinator.perform operation with
  | error error => exact ⟨rfl, rfl⟩
  | ok next => exact absurd conflicts (accepted_agrees pinned performed)

end Committed

/-- In every run, whatever was delivered before and whatever is delivered after. -/
theorem committed_evidence_write_once (start : SwapCoordinator) (constructed : Constructed start)
    (before more : List Operation) (reached later : SwapCoordinator)
    (ran : reached = start.delivered before) (continued : later = reached.delivered more) :
    (reached.phase = .bothLegsLocked →
      (∃ taker maker, reached.takerLockTransactionId = some taker ∧ reached.makerLockTransactionId = some maker) ∧
      later.takerLockTransactionId = reached.takerLockTransactionId ∧
      later.makerLockTransactionId = reached.makerLockTransactionId) ∧
    (reached.revealingClaimTransactionId.isSome ∨ reached.claimEvidence.isSome →
      later.revealingClaimTransactionId = reached.revealingClaimTransactionId ∧
      later.claimEvidence = reached.claimEvidence ∧ later.phase ≠ .bothLegsLocked) ∧
    (reached.followupClaimTransactionId.isSome →
      later.followupClaimTransactionId = reached.followupClaimTransactionId) ∧
    (reached.takerRefundEventTransactionId.isSome →
      later.takerRefundEventTransactionId = reached.takerRefundEventTransactionId) ∧
    (reached.makerRecoveryTransactionId.isSome →
      later.makerRecoveryTransactionId = reached.makerRecoveryTransactionId) ∧
    ∀ operation, Conflicts reached operation →
      (operation.deliver reached).1.isOk = false ∧ (operation.deliver reached).2 = reached := by
  have pinned : Pinned reached := ran ▸ pinned_delivered constructed.pinned before
  have committed : Committed reached later := continued ▸ committed_delivered pinned more
  have laterPinned : Pinned later := continued ▸ pinned_delivered pinned more
  refine ⟨?_, ?_, committed.followup, committed.event, committed.recovery,
    fun operation conflicts => conflicting_refused pinned conflicts⟩
  · intro locked
    obtain ⟨-, taker, maker⟩ := committed.settled (by rw [locked]; rfl)
    have takerKnown := pinned.taker (by rw [locked]; decide)
    have makerKnown := pinned.maker (by rw [locked]; rfl) (by rw [locked]; decide)
    obtain ⟨takerId, takerHeld⟩ := Option.isSome_iff_exists.mp takerKnown
    obtain ⟨makerId, makerHeld⟩ := Option.isSome_iff_exists.mp makerKnown
    exact ⟨⟨takerId, makerId, takerHeld, makerHeld⟩, taker, maker⟩
  · intro held
    have revealed : reached.claimEvidence.isSome := by
      rcases held with revealing | evidence
      · exact pinned.evidence ▸ revealing
      · exact evidence
    obtain ⟨evidence, revealing⟩ := committed.evidence revealed
    have late := laterPinned.late_evidence (.inr (evidence ▸ revealed))
    exact ⟨revealing, evidence, late⟩

/-- The removal of the taker lock suspends the claim and keeps what it committed. -/
theorem committed_evidence_write_once_sample :
    let reached := sampleOffer.delivered
      [.observeTakerLock (sampleProof 2), .observeMakerLock (sampleProof 2), sampleClaim]
    let later := reached.delivered [.observeTakerLockRemoved (sampleProof 2).transactionId]
    reached.claimEvidence.isSome = true ∧ later.phase = .takerLockReorged ∧
      later.claimEvidence = reached.claimEvidence := by
  intro reached later
  have kept := committed_evidence_write_once sampleOffer (.newWithConfirmationPolicies ..)
    [.observeTakerLock (sampleProof 2), .observeMakerLock (sampleProof 2), sampleClaim]
    [.observeTakerLockRemoved (sampleProof 2).transactionId] reached later rfl rfl
  have revealed : reached.claimEvidence.isSome = true := by decide
  exact ⟨revealed, by decide, (kept.2.1 (.inr revealed)).2.1⟩

end AtomicSwaps.Core
