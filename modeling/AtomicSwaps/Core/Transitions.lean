import AtomicSwaps.Core.Coordinator

namespace AtomicSwaps.Core.SwapCoordinator

variable {coordinator next : SwapCoordinator} {transactionId : Identifier} {observed : ChainPosition}

variable {proof : ChainProof}

theorem observeTakerLock_ok (accepted : coordinator.observeTakerLock proof = .ok next) :
    ((coordinator.phase = .completed ∨ coordinator.phase = .refunded) ∧ next = coordinator) ∨
      ¬(coordinator.phase = .completed ∨ coordinator.phase = .refunded) ∧ next = { coordinator with
        takerLockTransactionId := some proof.transactionId
        takerFundingConfirmed := decide (coordinator.confirmationPolicy.required ≤ proof.confirmations)
        phase := takerLockPhase coordinator.claimEvidence.isSome coordinator.phase
          (decide (coordinator.confirmationPolicy.required ≤ proof.confirmations)) } := by
  unfold observeTakerLock at accepted
  split at accepted
  · cases accepted
  · split at accepted
    · rename_i terminal
      cases accepted
      exact .inl ⟨terminal, rfl⟩
    · rename_i live
      cases accepted
      exact .inr ⟨live, rfl⟩

theorem observeTakerLockRemoved_ok (accepted : coordinator.observeTakerLockRemoved transactionId = .ok next) :
    coordinator.takerLockTransactionId = some transactionId ∧
      ((coordinator.phase = .awaitingTakerConfirmations ∨ coordinator.phase = .takerLockConfirmed) ∧
        next = { coordinator with
          takerFundingConfirmed := false, takerLockTransactionId := none, phase := .offered } ∨
      (coordinator.phase = .awaitingMakerConfirmations ∨ coordinator.phase = .bothLegsLocked ∨
          coordinator.phase = .claimEvidenceAvailable) ∧
        next = { coordinator with takerFundingConfirmed := false, phase := .takerLockReorged } ∨
      next = { coordinator with takerFundingConfirmed := false }) := by
  unfold observeTakerLockRemoved at accepted
  split at accepted
  · cases accepted
  · rename_i pinned
    refine ⟨Decidable.not_not.mp pinned, ?_⟩
    split at accepted <;> cases accepted <;> simp_all

theorem observeMakerLock_ok (accepted : coordinator.observeMakerLock proof = .ok next) :
    ((coordinator.phase = .awaitingMakerConfirmations ∨ coordinator.phase = .bothLegsLocked ∨
        coordinator.phase = .makerLockReorged ∨ coordinator.phase = .claimEvidenceAvailable) ∧
      coordinator.makerLockTransactionId = some proof.transactionId ∧
      next = { coordinator with
        makerFundingConfirmed := decide (coordinator.makerConfirmationPolicy.required ≤ proof.confirmations)
        phase := makerLockPhase coordinator.claimEvidence.isSome coordinator.phase
          (decide (coordinator.makerConfirmationPolicy.required ≤ proof.confirmations)) }) ∨
    (coordinator.phase = .takerLockConfirmed ∧
      next = { coordinator with
        makerLockTransactionId := some proof.transactionId
        makerFundingConfirmed := decide (coordinator.makerConfirmationPolicy.required ≤ proof.confirmations)
        phase := if coordinator.makerConfirmationPolicy.required ≤ proof.confirmations
          then .bothLegsLocked else .awaitingMakerConfirmations }) ∨
    (coordinator.makerLockTransactionId = some proof.transactionId ∧ next = coordinator ∧
      coordinator.phase ∉ [.awaitingMakerConfirmations, .bothLegsLocked, .makerLockReorged,
        .claimEvidenceAvailable, .takerLockConfirmed]) := by
  unfold observeMakerLock at accepted
  dsimp only at accepted
  split at accepted
  iterate 4
    · rename_i phase
      split at accepted
      · cases accepted
      · rename_i pinned
        cases accepted
        exact .inl ⟨by simp [phase], Decidable.not_not.mp pinned, rfl⟩
  · rename_i phase
    cases accepted
    exact .inr (.inl ⟨phase, by simp only [decide_eq_true_eq]⟩)
  · split at accepted
    · rename_i known pinned
      split at accepted
      · rename_i same
        cases accepted
        exact .inr (.inr ⟨same ▸ pinned, rfl, by simp; grind⟩)
      · cases accepted
    · cases accepted

theorem observeMakerLockRemoved_ok (accepted : coordinator.observeMakerLockRemoved transactionId = .ok next) :
    coordinator.makerLockTransactionId = some transactionId ∧
      (coordinator.phase = .awaitingMakerConfirmations ∧
        next = { coordinator with
          makerFundingConfirmed := false, makerLockTransactionId := none, phase := .takerLockConfirmed } ∨
      (coordinator.phase = .bothLegsLocked ∨ coordinator.phase = .claimEvidenceAvailable) ∧
        next = { coordinator with makerFundingConfirmed := false, phase := .makerLockReorged } ∨
      next = { coordinator with makerFundingConfirmed := false }) := by
  unfold observeMakerLockRemoved at accepted
  split at accepted
  · cases accepted
  · rename_i pinned
    refine ⟨Decidable.not_not.mp pinned, ?_⟩
    split at accepted <;> cases accepted <;> simp_all

theorem bothLegsFunded_ok (funded : coordinator.bothLegsFunded = .ok ()) :
    coordinator.takerFundingConfirmed = true ∧ coordinator.makerFundingConfirmed = true := by
  unfold bothLegsFunded at funded
  split at funded
  · cases funded
  · split at funded
    · cases funded
    · simp_all

variable {claimant : Participant}

theorem claimAuthorized_ok {expected : Participant}
    (authorized : coordinator.claimAuthorized expected claimant = .ok ()) :
    claimant = expected ∧ coordinator.phase ≠ .takerLockReorged ∧
      coordinator.phase ≠ .makerLockReorged ∧ coordinator.takerFundingConfirmed = true ∧
      coordinator.makerFundingConfirmed = true := by
  unfold claimAuthorized at authorized
  split at authorized
  · cases authorized
  · rename_i claims
    split at authorized
    · cases authorized
    · split at authorized
      · cases authorized
      · exact ⟨Decidable.not_not.mp claims, by assumption, by assumption, bothLegsFunded_ok authorized⟩

theorem observeRevealingClaim_ok {evidence : ClaimEvidence}
    (accepted : coordinator.observeRevealingClaim claimant proof evidence = .ok next) :
    coordinator.claimAuthorized coordinator.firstClaimant claimant = .ok () ∧
      ((coordinator.phase ≠ .bothLegsLocked ∧
          coordinator.revealingClaimTransactionId = some proof.transactionId ∧
          coordinator.claimEvidence = some evidence) ∧ next = coordinator ∨
        coordinator.phase = .bothLegsLocked ∧
        next = { coordinator with
          revealingClaimTransactionId := some proof.transactionId
          claimEvidence := some evidence
          phase := .claimEvidenceAvailable }) := by
  unfold observeRevealingClaim at accepted
  split at accepted
  · cases accepted
  · rename_i authorized
    refine ⟨authorized, ?_⟩
    split at accepted
    · rename_i late
      split at accepted
      · rename_i known revealed
        split at accepted
        · rename_i same
          cases accepted
          exact .inl ⟨⟨late, same.1 ▸ known, same.2 ▸ revealed⟩, rfl⟩
        · cases accepted
      · cases accepted
    · rename_i locked
      cases accepted
      exact .inr ⟨Decidable.not_not.mp locked, rfl⟩

theorem observeFollowupClaim_ok (accepted : coordinator.observeFollowupClaim claimant proof = .ok next) :
    coordinator.claimAuthorized coordinator.firstClaimant.other claimant = .ok () ∧
      ((coordinator.phase ≠ .claimEvidenceAvailable ∧
          coordinator.followupClaimTransactionId = some proof.transactionId) ∧ next = coordinator ∨
        coordinator.phase = .claimEvidenceAvailable ∧
        next = { coordinator with
          followupClaimTransactionId := some proof.transactionId, phase := .completed }) := by
  unfold observeFollowupClaim at accepted
  split at accepted
  · cases accepted
  · rename_i authorized
    refine ⟨authorized, ?_⟩
    split at accepted
    · rename_i other
      split at accepted
      · rename_i known recorded
        split at accepted
        · rename_i same
          cases accepted
          exact .inl ⟨⟨other, same ▸ recorded⟩, rfl⟩
        · cases accepted
      · cases accepted
    · rename_i available
      cases accepted
      exact .inr ⟨Decidable.not_not.mp available, rfl⟩

theorem refundMakerLeg_ok (accepted : coordinator.refundMakerLeg observed = .ok next) :
    coordinator.phase ∈ [.bothLegsLocked, .awaitingMakerConfirmations, .takerLockReorged,
      .makerLockReorged, .takerLegRefunded] ∧
    coordinator.recoverySchedule.makerDeadlineReached observed = .ok true ∧
    next = { coordinator with
      phase := if coordinator.phase = .takerLegRefunded then .refunded else .makerLegRefunded } := by
  unfold refundMakerLeg at accepted
  split at accepted
  iterate 5
    · rename_i phase
      split at accepted
      · cases accepted
      · cases accepted
      · rename_i reached
        cases accepted
        exact ⟨by simp [phase], reached, rfl⟩
  · cases accepted

theorem refundTakerLeg_ok (accepted : coordinator.refundTakerLeg observed = .ok next) :
    coordinator.recoverySchedule.takerRefundReached observed = .ok true ∧
    (coordinator.phase ∈ [.awaitingTakerConfirmations, .takerLockConfirmed, .makerLegRefunded] ∧
        next = { coordinator with phase := .refunded } ∨
      coordinator.phase ∈ [.awaitingMakerConfirmations, .bothLegsLocked, .takerLockReorged,
          .makerLockReorged] ∧
        next = { coordinator with phase := .takerLegRefunded }) := by
  unfold refundTakerLeg at accepted
  split at accepted
  iterate 7
    · rename_i phase
      split at accepted
      · cases accepted
      · cases accepted
      · rename_i reached
        cases accepted
        exact ⟨reached, by simp [phase]⟩
  · cases accepted

theorem observeTakerRefundForMakerRecovery_ok {evidence : ChainEventProof}
    (accepted : coordinator.observeTakerRefundForMakerRecovery evidence = .ok next) :
    ∃ required, coordinator.recoverySchedule.makerTrigger = .canonicalTakerRefund evidence.chain required ∧
      (coordinator.takerRefundEventTransactionId.isSome →
        coordinator.takerRefundEventTransactionId = some evidence.proof.transactionId) ∧
      (evidence.proof.confirmations < required ∧ coordinator.phase = .makerRecoveryAvailable ∧
          next = { coordinator with phase := .takerLegRefunded } ∨
        required ≤ evidence.proof.confirmations ∧
          ((coordinator.phase = .makerRecoveryAvailable ∨ coordinator.phase = .refunded) ∧ next = coordinator ∨
            coordinator.phase = .takerLegRefunded ∧ next = { coordinator with
              takerRefundEventTransactionId := some evidence.proof.transactionId
              phase := .makerRecoveryAvailable })) := by
  unfold observeTakerRefundForMakerRecovery at accepted
  split at accepted
  · cases accepted
  · rename_i chain required trigger
    split at accepted
    · cases accepted
    · rename_i onChain
      split at accepted
      · cases accepted
      · rename_i named
        refine ⟨required, Decidable.not_not.mp onChain ▸ trigger, ?_, ?_⟩
        · intro pinned
          obtain ⟨known, held⟩ := Option.isSome_iff_exists.mp pinned
          simpa [held] using named
        · split at accepted
          · rename_i short
            split at accepted <;> cases accepted
            rename_i available
            exact .inl ⟨short, available, rfl⟩
          · rename_i deep
            refine .inr ⟨Nat.le_of_not_lt deep, ?_⟩
            split at accepted
            · rename_i settled
              cases accepted
              exact .inl ⟨settled, rfl⟩
            · split at accepted <;> cases accepted
              rename_i refunded
              exact .inr ⟨Decidable.not_not.mp refunded, rfl⟩

theorem observeMakerRecovery_ok (accepted : coordinator.observeMakerRecovery proof = .ok next) :
    (coordinator.phase = .refunded ∧ next = coordinator) ∨
    (coordinator.phase = .makerRecoveryAvailable ∧
      next = { coordinator with
        makerRecoveryTransactionId := some proof.transactionId, phase := .refunded }) := by
  unfold observeMakerRecovery at accepted
  split at accepted
  · cases accepted
  · split at accepted
    · rename_i replay
      cases accepted
      exact .inl ⟨replay.1, rfl⟩
    · split at accepted <;> cases accepted
      rename_i available
      exact .inr ⟨Decidable.not_not.mp available, rfl⟩

end AtomicSwaps.Core.SwapCoordinator

namespace AtomicSwaps.Core

def Phase.terminal : Phase → Bool
  | .completed | .refunded => true
  | _ => false

/-- Every way in which an operation is accepted, with what it found and what it leaves. -/
inductive Accepts (coordinator : SwapCoordinator) : Operation → SwapCoordinator → Prop
  | takerProof {proof : ChainProof} (live : coordinator.phase.terminal = false) :
      Accepts coordinator (.observeTakerLock proof) { coordinator with
        takerLockTransactionId := some proof.transactionId
        takerFundingConfirmed := decide (coordinator.confirmationPolicy.required ≤ proof.confirmations)
        phase := SwapCoordinator.takerLockPhase coordinator.claimEvidence.isSome coordinator.phase
          (decide (coordinator.confirmationPolicy.required ≤ proof.confirmations)) }
  | takerProofLate {proof : ChainProof} (terminal : coordinator.phase.terminal = true) :
      Accepts coordinator (.observeTakerLock proof) coordinator
  | takerLockDropped {transactionId : Identifier}
      (phase : coordinator.phase ∈ [.awaitingTakerConfirmations, .takerLockConfirmed]) :
      Accepts coordinator (.observeTakerLockRemoved transactionId) { coordinator with
        takerFundingConfirmed := false, takerLockTransactionId := none, phase := .offered }
  | takerLockReorged {transactionId : Identifier}
      (phase : coordinator.phase ∈
        [.awaitingMakerConfirmations, .bothLegsLocked, .claimEvidenceAvailable]) :
      Accepts coordinator (.observeTakerLockRemoved transactionId) { coordinator with
        takerFundingConfirmed := false, phase := .takerLockReorged }
  | takerFlagCleared {transactionId : Identifier}
      (pinned : coordinator.takerLockTransactionId = some transactionId) :
      Accepts coordinator (.observeTakerLockRemoved transactionId)
        { coordinator with takerFundingConfirmed := false }
  | makerLockPinned {proof : ChainProof} (phase : coordinator.phase = .takerLockConfirmed) :
      Accepts coordinator (.observeMakerLock proof) { coordinator with
        makerLockTransactionId := some proof.transactionId
        makerFundingConfirmed := decide (coordinator.makerConfirmationPolicy.required ≤ proof.confirmations)
        phase := if coordinator.makerConfirmationPolicy.required ≤ proof.confirmations
          then .bothLegsLocked else .awaitingMakerConfirmations }
  | makerProof {proof : ChainProof}
      (phase : coordinator.phase ∈
        [.awaitingMakerConfirmations, .bothLegsLocked, .makerLockReorged, .claimEvidenceAvailable])
      (pinned : coordinator.makerLockTransactionId = some proof.transactionId) :
      Accepts coordinator (.observeMakerLock proof) { coordinator with
        makerFundingConfirmed := decide (coordinator.makerConfirmationPolicy.required ≤ proof.confirmations)
        phase := SwapCoordinator.makerLockPhase coordinator.claimEvidence.isSome coordinator.phase
          (decide (coordinator.makerConfirmationPolicy.required ≤ proof.confirmations)) }
  | makerProofDropped {proof : ChainProof}
      (pinned : coordinator.makerLockTransactionId = some proof.transactionId) :
      Accepts coordinator (.observeMakerLock proof) coordinator
  | makerLockDropped {transactionId : Identifier}
      (phase : coordinator.phase = .awaitingMakerConfirmations) :
      Accepts coordinator (.observeMakerLockRemoved transactionId) { coordinator with
        makerFundingConfirmed := false, makerLockTransactionId := none, phase := .takerLockConfirmed }
  | makerLockReorged {transactionId : Identifier}
      (phase : coordinator.phase ∈ [.bothLegsLocked, .claimEvidenceAvailable]) :
      Accepts coordinator (.observeMakerLockRemoved transactionId) { coordinator with
        makerFundingConfirmed := false, phase := .makerLockReorged }
  | makerFlagCleared {transactionId : Identifier}
      (pinned : coordinator.makerLockTransactionId = some transactionId) :
      Accepts coordinator (.observeMakerLockRemoved transactionId)
        { coordinator with makerFundingConfirmed := false }
  | claimRevealed {claimant : Participant} {proof : ChainProof} {evidence : ClaimEvidence}
      (phase : coordinator.phase = .bothLegsLocked) :
      Accepts coordinator (.observeRevealingClaim claimant proof evidence) { coordinator with
        revealingClaimTransactionId := some proof.transactionId
        claimEvidence := some evidence
        phase := .claimEvidenceAvailable }
  | claimRevealedAgain {claimant : Participant} {proof : ChainProof} {evidence : ClaimEvidence} :
      Accepts coordinator (.observeRevealingClaim claimant proof evidence) coordinator
  | claimFollowed {claimant : Participant} {proof : ChainProof}
      (phase : coordinator.phase = .claimEvidenceAvailable) :
      Accepts coordinator (.observeFollowupClaim claimant proof) { coordinator with
        followupClaimTransactionId := some proof.transactionId, phase := .completed }
  | claimFollowedAgain {claimant : Participant} {proof : ChainProof}
      (known : coordinator.followupClaimTransactionId = some proof.transactionId) :
      Accepts coordinator (.observeFollowupClaim claimant proof) coordinator
  | makerLegRefunded {observed : ChainPosition}
      (phase : coordinator.phase ∈ [.bothLegsLocked, .awaitingMakerConfirmations, .takerLockReorged,
        .makerLockReorged])
      (reached : coordinator.recoverySchedule.makerDeadlineReached observed = .ok true) :
      Accepts coordinator (.refundMakerLeg observed) { coordinator with phase := .makerLegRefunded }
  | makerLegRefundedLast {observed : ChainPosition} (phase : coordinator.phase = .takerLegRefunded)
      (reached : coordinator.recoverySchedule.makerDeadlineReached observed = .ok true) :
      Accepts coordinator (.refundMakerLeg observed) { coordinator with phase := .refunded }
  | recoveryOpened {evidence : ChainEventProof} (phase : coordinator.phase = .takerLegRefunded) :
      Accepts coordinator (.observeTakerRefundForMakerRecovery evidence) { coordinator with
        takerRefundEventTransactionId := some evidence.proof.transactionId
        phase := .makerRecoveryAvailable }
  | recoveryWithdrawn {evidence : ChainEventProof} (phase : coordinator.phase = .makerRecoveryAvailable) :
      Accepts coordinator (.observeTakerRefundForMakerRecovery evidence)
        { coordinator with phase := .takerLegRefunded }
  | recoveryOpenedAgain {evidence : ChainEventProof} :
      Accepts coordinator (.observeTakerRefundForMakerRecovery evidence) coordinator
  | makerRecovered {proof : ChainProof} (phase : coordinator.phase = .makerRecoveryAvailable) :
      Accepts coordinator (.observeMakerRecovery proof) { coordinator with
        makerRecoveryTransactionId := some proof.transactionId, phase := .refunded }
  | makerRecoveredAgain {proof : ChainProof} (phase : coordinator.phase = .refunded) :
      Accepts coordinator (.observeMakerRecovery proof) coordinator
  | takerLegRefunded {observed : ChainPosition}
      (phase : coordinator.phase ∈
        [.awaitingMakerConfirmations, .bothLegsLocked, .takerLockReorged, .makerLockReorged])
      (reached : coordinator.recoverySchedule.takerRefundReached observed = .ok true) :
      Accepts coordinator (.refundTakerLeg observed) { coordinator with phase := .takerLegRefunded }
  | takerLegRefundedAlone {observed : ChainPosition}
      (phase : coordinator.phase ∈ [.awaitingTakerConfirmations, .takerLockConfirmed])
      (reached : coordinator.recoverySchedule.takerRefundReached observed = .ok true) :
      Accepts coordinator (.refundTakerLeg observed) { coordinator with phase := .refunded }
  | takerLegRefundedLast {observed : ChainPosition} (phase : coordinator.phase = .makerLegRefunded)
      (reached : coordinator.recoverySchedule.takerRefundReached observed = .ok true) :
      Accepts coordinator (.refundTakerLeg observed) { coordinator with phase := .refunded }

section Accepts

variable {coordinator next : SwapCoordinator} {operation : Operation}

theorem Phase.terminal_iff {phase : Phase} : phase.terminal = true ↔ phase = .completed ∨ phase = .refunded := by
  cases phase <;> simp [Phase.terminal]

theorem perform_accepts (accepted : coordinator.perform operation = .ok next) :
    Accepts coordinator operation next := by
  cases operation with
  | observeTakerLock proof =>
    rcases SwapCoordinator.observeTakerLock_ok accepted with ⟨terminal, rfl⟩ | ⟨live, rfl⟩
    · exact .takerProofLate (Phase.terminal_iff.mpr terminal)
    · exact .takerProof (Bool.eq_false_iff.mpr (live ∘ Phase.terminal_iff.mp))
  | observeTakerLockRemoved transactionId =>
    obtain ⟨pinned, ⟨phase, rfl⟩ | ⟨phase, rfl⟩ | rfl⟩ :=
      SwapCoordinator.observeTakerLockRemoved_ok accepted
    · exact .takerLockDropped (by simpa using phase)
    · exact .takerLockReorged (by simpa using phase)
    · exact .takerFlagCleared pinned
  | observeMakerLock proof =>
    rcases SwapCoordinator.observeMakerLock_ok accepted with
      ⟨phase, pinned, rfl⟩ | ⟨phase, rfl⟩ | ⟨pinned, rfl, -⟩
    · exact .makerProof (by simpa using phase) pinned
    · exact .makerLockPinned phase
    · exact .makerProofDropped pinned
  | observeMakerLockRemoved transactionId =>
    obtain ⟨pinned, ⟨phase, rfl⟩ | ⟨phase, rfl⟩ | rfl⟩ :=
      SwapCoordinator.observeMakerLockRemoved_ok accepted
    · exact .makerLockDropped phase
    · exact .makerLockReorged (by simpa using phase)
    · exact .makerFlagCleared pinned
  | observeRevealingClaim claimant proof evidence =>
    obtain ⟨-, ⟨-, rfl⟩ | ⟨phase, rfl⟩⟩ := SwapCoordinator.observeRevealingClaim_ok accepted
    · exact .claimRevealedAgain
    · exact .claimRevealed phase
  | observeFollowupClaim claimant proof =>
    obtain ⟨-, ⟨known, rfl⟩ | ⟨phase, rfl⟩⟩ := SwapCoordinator.observeFollowupClaim_ok accepted
    · exact .claimFollowedAgain known.2
    · exact .claimFollowed phase
  | refundMakerLeg observed =>
    obtain ⟨phase, reached, rfl⟩ := SwapCoordinator.refundMakerLeg_ok accepted
    by_cases last : coordinator.phase = .takerLegRefunded
    · rw [if_pos last]
      exact .makerLegRefundedLast last reached
    · rw [if_neg last]
      exact .makerLegRefunded (by simpa [last] using phase) reached
  | observeTakerRefundForMakerRecovery evidence =>
    obtain ⟨_, -, -, ⟨-, phase, rfl⟩ | ⟨-, ⟨-, rfl⟩ | ⟨phase, rfl⟩⟩⟩ :=
      SwapCoordinator.observeTakerRefundForMakerRecovery_ok accepted
    · exact .recoveryWithdrawn phase
    · exact .recoveryOpenedAgain
    · exact .recoveryOpened phase
  | observeMakerRecovery proof =>
    rcases SwapCoordinator.observeMakerRecovery_ok accepted with ⟨phase, rfl⟩ | ⟨phase, rfl⟩
    · exact .makerRecoveredAgain phase
    · exact .makerRecovered phase
  | refundTakerLeg observed =>
    obtain ⟨reached, ⟨phase, rfl⟩ | ⟨phase, rfl⟩⟩ := SwapCoordinator.refundTakerLeg_ok accepted
    · by_cases last : coordinator.phase = .makerLegRefunded
      · exact .takerLegRefundedLast last reached
      · exact .takerLegRefundedAlone (by simpa [last] using phase) reached
    · exact .takerLegRefunded phase reached

end Accepts

end AtomicSwaps.Core
