import AtomicSwaps.Core.ClaimAuthority

namespace AtomicSwaps.Core

open Transition SwapCoordinator

/-- A removal of a pinned lock that still counts as confirmed: it clears the flag of its leg before
    it looks at the phase. -/
def WithdrawsConfirmation (coordinator : SwapCoordinator) : Operation → Prop
  | .observeTakerLockRemoved transactionId =>
    coordinator.takerLockTransactionId = some transactionId ∧ coordinator.takerFundingConfirmed = true
  | .observeMakerLockRemoved transactionId =>
    coordinator.makerLockTransactionId = some transactionId ∧ coordinator.makerFundingConfirmed = true
  | _ => False

section Terminal

variable {coordinator next : SwapCoordinator} {operation : Operation}
  (terminal : coordinator.phase.terminal = true) {transactionId : Identifier}
include terminal

theorem terminal_accepts (accepted : coordinator.perform operation = .ok next) :
    next = coordinator ∨
      (∃ transactionId, operation = .observeTakerLockRemoved transactionId ∧
        coordinator.takerLockTransactionId = some transactionId ∧
        next = { coordinator with takerFundingConfirmed := false }) ∨
      (∃ transactionId, operation = .observeMakerLockRemoved transactionId ∧
        coordinator.makerLockTransactionId = some transactionId ∧
        next = { coordinator with makerFundingConfirmed := false }) := by
  have closed := Phase.terminal_iff.mp terminal
  cases perform_accepts accepted with
  | takerProofLate | makerProofDropped | claimRevealedAgain | claimFollowedAgain | recoveryOpenedAgain
  | makerRecoveredAgain => exact .inl rfl
  | takerProof live => exact absurd terminal (by simp [live])
  | takerFlagCleared pinned => exact .inr (.inl ⟨_, rfl, pinned, rfl⟩)
  | makerFlagCleared pinned => exact .inr (.inr ⟨_, rfl, pinned, rfl⟩)
  | takerLockDropped phase | takerLockReorged phase | makerLockPinned phase | makerProof phase _
  | makerLockDropped phase | makerLockReorged phase | claimRevealed phase | claimFollowed phase
  | makerLegRefunded phase _ | makerLegRefundedLast phase _ | recoveryOpened phase
  | recoveryWithdrawn phase | makerRecovered phase | takerLegRefunded phase _
  | takerLegRefundedAlone phase _ | takerLegRefundedLast phase _ =>
    rcases closed with completed | refunded
    · simp [completed] at phase
    · simp [refunded] at phase

theorem terminal_phase (accepted : coordinator.perform operation = .ok next) : next.phase = coordinator.phase := by
  rcases terminal_accepts terminal accepted with rfl | ⟨_, -, -, rfl⟩ | ⟨_, -, -, rfl⟩
  · rfl
  · rfl
  · rfl

theorem taker_removal_accepted (pinned : coordinator.takerLockTransactionId = some transactionId) :
    coordinator.perform (.observeTakerLockRemoved transactionId) =
      .ok { coordinator with takerFundingConfirmed := false } := by
  show coordinator.observeTakerLockRemoved transactionId = _
  unfold observeTakerLockRemoved
  rw [if_neg (fun other => other pinned)]
  rcases Phase.terminal_iff.mp terminal with phase | phase
  · simp only [phase]
  · simp only [phase]

theorem maker_removal_accepted (pinned : coordinator.makerLockTransactionId = some transactionId) :
    coordinator.perform (.observeMakerLockRemoved transactionId) =
      .ok { coordinator with makerFundingConfirmed := false } := by
  show coordinator.observeMakerLockRemoved transactionId = _
  unfold observeMakerLockRemoved
  rw [if_neg (fun other => other pinned)]
  rcases Phase.terminal_iff.mp terminal with phase | phase
  · simp only [phase]
  · simp only [phase]

theorem withdrawal_changes (withdraws : WithdrawsConfirmation coordinator operation) :
    (coordinator.advance operation).1 ≠ coordinator := by
  intro same
  cases operation with
  | observeTakerLockRemoved transactionId =>
    obtain ⟨pinned, confirmed⟩ := withdraws
    simp only [advance, taker_removal_accepted terminal pinned] at same
    have cleared := congrArg takerFundingConfirmed same
    simp [confirmed] at cleared
  | observeMakerLockRemoved transactionId =>
    obtain ⟨pinned, confirmed⟩ := withdraws
    simp only [advance, maker_removal_accepted terminal pinned] at same
    have cleared := congrArg makerFundingConfirmed same
    simp [confirmed] at cleared
  | _ => exact withdraws

theorem terminal_unchanged (kept : ¬WithdrawsConfirmation coordinator operation) :
    (coordinator.advance operation).1 = coordinator := by
  cases performed : coordinator.perform operation with
  | error error => simp only [advance, performed]
  | ok next =>
    simp only [advance, performed]
    rcases terminal_accepts terminal performed with same | ⟨_, rfl, pinned, rfl⟩ | ⟨_, rfl, pinned, rfl⟩
    · exact same
    · -- The flag was clear already, so clearing it again changes nothing.
      have clear : coordinator.takerFundingConfirmed = false := by
        simpa [WithdrawsConfirmation, pinned] using kept
      rw [← clear]
    · have clear : coordinator.makerFundingConfirmed = false := by
        simpa [WithdrawsConfirmation, pinned] using kept
      rw [← clear]

end Terminal

/-- Every operation keeps a terminal phase, and it keeps the whole value unless it withdraws the
    confirmation of a leg. -/
theorem terminal_coordinator_absorbs_iff (coordinator : SwapCoordinator)
    (terminal : coordinator.phase.terminal = true) (operation : Operation) :
    (coordinator.advance operation).1.phase = coordinator.phase ∧
      ((coordinator.advance operation).1 = coordinator ↔
        ¬WithdrawsConfirmation coordinator operation) := by
  refine ⟨?_, fun same withdraws => withdrawal_changes terminal withdraws same,
    terminal_unchanged terminal⟩
  cases performed : coordinator.perform operation with
  | error error => simp only [advance, performed]
  | ok next =>
    simp only [advance, performed]
    exact terminal_phase terminal performed

def sampleFollowup : Operation := .observeFollowupClaim .maker ⟨⟨"followup", by decide⟩, 1⟩

def sampleCompleted : SwapCoordinator :=
  (replay advance sampleLocked [sampleClaim, sampleFollowup]).1

theorem terminal_coordinator_absorbs_iff_sample :
    (sampleCompleted.advance (.observeTakerLock (sampleProof 0))).1.phase = sampleCompleted.phase ∧
      ((sampleCompleted.advance (.observeTakerLock (sampleProof 0))).1 = sampleCompleted ↔
        ¬WithdrawsConfirmation sampleCompleted (.observeTakerLock (sampleProof 0))) :=
  terminal_coordinator_absorbs_iff sampleCompleted rfl (.observeTakerLock (sampleProof 0))

theorem completed_coordinator_changed_by_removal :
    ∃ start history coordinator, Constructed start ∧ Run Step start history coordinator ∧
      coordinator.phase.terminal = true ∧
      (coordinator.advance (.observeTakerLockRemoved (sampleProof 0).transactionId)).1 ≠ coordinator :=
  ⟨sampleOffer, _, _, .newWithConfirmationPolicies ..,
    run_replay advance_step sampleOffer
      [.observeTakerLock (sampleProof 2), .observeMakerLock (sampleProof 2), sampleClaim, sampleFollowup],
    rfl, by decide⟩

variable (history : List Event)

def Accepted (operation : Operation) : Prop :=
  (⟨operation, true⟩ : Event) ∈ history

def Operation.completes : Operation → Bool
  | .observeFollowupClaim _ _ => true
  | _ => false

def Operation.recovers : Operation → Bool
  | .refundMakerLeg _ | .refundTakerLeg _ | .observeMakerRecovery _ => true
  | _ => false

structure ChainPosition.ReachedBy (deadline observed : ChainPosition) : Prop where
  chain : observed.chain = deadline.chain
  basis : observed.basis = deadline.basis
  value : deadline.value ≤ observed.value

def Operation.Due (schedule : RecoverySchedule) : Operation → Prop
  | .refundMakerLeg observed =>
    ∃ deadline, schedule.makerTrigger = .deadline deadline ∧ deadline.ReachedBy observed
  | .refundTakerLeg observed => schedule.takerRefund.ReachedBy observed
  | _ => True

def TakerLegRecovered : Prop :=
  ∃ observed, Accepted history (.refundTakerLeg observed)

def MakerLegRecovered : Prop :=
  (∃ observed, Accepted history (.refundMakerLeg observed)) ∨
    ∃ proof, Accepted history (.observeMakerRecovery proof)

def Phase.recovering : Phase → Bool
  | .makerLegRefunded | .takerLegRefunded | .makerRecoveryAvailable | .refunded => true
  | _ => false

/-- What a recovery phase says about the legs that were taken back on the way to it. -/
def LegsRecovered (coordinator : SwapCoordinator) : Prop :=
  match coordinator.phase with
  | .makerLegRefunded => MakerLegRecovered history
  | .takerLegRefunded | .makerRecoveryAvailable => TakerLegRecovered history
  | .refunded => coordinator.makerLockTransactionId = none ∨
      TakerLegRecovered history ∧ MakerLegRecovered history
  | _ => True

structure OutcomeTracked (schedule : RecoverySchedule) (history : List Event)
    (coordinator : SwapCoordinator) : Prop where
  scheduled : coordinator.recoverySchedule = schedule
  unpinned : coordinator.phase.beforeMakerLock → coordinator.makerLockTransactionId = none
  followed : coordinator.followupClaimTransactionId.isSome → coordinator.phase = .completed
  completed : ∀ operation, operation.completes = true → Accepted history operation →
    coordinator.phase = .completed
  recovering : ∀ operation, operation.recovers = true → Accepted history operation →
    coordinator.phase.recovering = true
  due : ∀ operation, Accepted history operation → operation.Due schedule
  legs : LegsRecovered history coordinator

section Recovery

variable {history : List Event} {event : Event} {coordinator next : SwapCoordinator}
  {operation : Operation} {last : Operation}

theorem Accepted.append (accepted : Accepted history operation) : Accepted (history ++ [event]) operation :=
  List.mem_append_left _ accepted

theorem accepted_last : Accepted (history ++ [⟨operation, true⟩]) operation :=
  List.mem_append_right _ List.mem_cons_self

theorem accepted_append_cases (accepted : Accepted (history ++ [⟨last, true⟩]) operation) :
    Accepted history operation ∨ operation = last := by
  rcases List.mem_append.mp accepted with earlier | now
  · exact .inl earlier
  · exact .inr (congrArg Event.operation (List.mem_singleton.mp now))

theorem accepted_append_refused
    (accepted : Accepted (history ++ [⟨last, false⟩]) operation) : Accepted history operation := by
  rcases List.mem_append.mp accepted with earlier | now
  · exact earlier
  · cases congrArg Event.accepted (List.mem_singleton.mp now)

theorem TakerLegRecovered.append (recovered : TakerLegRecovered history) :
    TakerLegRecovered (history ++ [event]) := by
  obtain ⟨observed, accepted⟩ := recovered
  exact ⟨observed, accepted.append⟩

theorem MakerLegRecovered.append (recovered : MakerLegRecovered history) :
    MakerLegRecovered (history ++ [event]) := by
  rcases recovered with ⟨observed, accepted⟩ | ⟨proof, accepted⟩
  · exact .inl ⟨observed, accepted.append⟩
  · exact .inr ⟨proof, accepted.append⟩

theorem LegsRecovered.append (recovered : LegsRecovered history coordinator) :
    LegsRecovered (history ++ [event]) coordinator := by
  unfold LegsRecovered at recovered ⊢
  split at recovered
  · exact MakerLegRecovered.append recovered
  · exact TakerLegRecovered.append recovered
  · exact TakerLegRecovered.append recovered
  · rcases recovered with unpinned | ⟨taker, maker⟩
    · exact .inl unpinned
    · exact .inr ⟨taker.append, maker.append⟩
  · trivial

theorem LegsRecovered.of_not_recovering (outside : coordinator.phase.recovering = false) :
    LegsRecovered history coordinator := by
  unfold LegsRecovered
  cases phase : coordinator.phase <;> simp [phase, Phase.recovering] at outside <;> trivial

theorem takerLockPhase_recovering (hasEvidence confirmed : Bool) (phase : Phase) :
    (takerLockPhase hasEvidence phase confirmed).recovering = phase.recovering := by
  cases phase <;> cases confirmed <;> cases hasEvidence <;> rfl

theorem makerLockPhase_recovering (hasEvidence confirmed : Bool) (phase : Phase) :
    (makerLockPhase hasEvidence phase confirmed).recovering = phase.recovering := by
  cases phase <;> cases confirmed <;> cases hasEvidence <;> rfl

variable (accepted : coordinator.perform operation = .ok next)
include accepted

theorem perform_schedule : next.recoverySchedule = coordinator.recoverySchedule := by
  cases perform_accepts accepted <;> rfl

theorem perform_due : operation.Due coordinator.recoverySchedule := by
  cases perform_accepts accepted with
  | makerLegRefunded _ reached | makerLegRefundedLast _ reached =>
    unfold RecoverySchedule.makerDeadlineReached at reached
    split at reached
    · rename_i deadline trigger
      obtain ⟨chain, basis, value⟩ := deadlineReached_true reached
      exact ⟨deadline, trigger, chain, basis, value⟩
    · cases reached
  | takerLegRefunded _ reached | takerLegRefundedAlone _ reached | takerLegRefundedLast _ reached =>
    obtain ⟨chain, basis, value⟩ := deadlineReached_true reached
    exact ⟨chain, basis, value⟩
  | _ => trivial

theorem perform_recovers (recovers : operation.recovers = true) : next.phase.recovering = true := by
  cases perform_accepts accepted with
  | makerRecoveredAgain phase => rw [phase]; rfl
  | makerLegRefunded | makerLegRefundedLast | makerRecovered | takerLegRefunded
  | takerLegRefundedAlone | takerLegRefundedLast => rfl
  | _ => cases recovers

theorem perform_recovering (recovering : coordinator.phase.recovering = true) : next.phase.recovering = true := by
  cases perform_accepts accepted with
  | takerProof _ => exact (takerLockPhase_recovering _ _ _).trans recovering
  | makerProof _ _ => exact (makerLockPhase_recovering _ _ _).trans recovering
  | takerProofLate | takerFlagCleared | makerProofDropped | makerFlagCleared | claimRevealedAgain
  | claimFollowedAgain | recoveryOpenedAgain | makerRecoveredAgain => exact recovering
  | makerLegRefunded | makerLegRefundedLast | recoveryOpened | recoveryWithdrawn | makerRecovered
  | takerLegRefunded | takerLegRefundedAlone | takerLegRefundedLast => rfl
  | takerLockDropped phase | takerLockReorged phase | makerLockPinned phase | makerLockDropped phase
  | makerLockReorged phase | claimRevealed phase | claimFollowed phase =>
    revert recovering phase
    cases coordinator.phase <;> simp [Phase.recovering]

theorem perform_followed
    (followed : coordinator.followupClaimTransactionId.isSome → coordinator.phase = .completed)
    (recorded : next.followupClaimTransactionId.isSome) : next.phase = .completed := by
  have kept : coordinator.followupClaimTransactionId.isSome → next.phase = .completed := by
    intro known
    have completed := followed known
    rw [terminal_phase (by rw [completed]; rfl) accepted, completed]
  cases perform_accepts accepted with
  | claimFollowed _ => rfl
  | _ => exact kept recorded

theorem perform_completes
    (followed : coordinator.followupClaimTransactionId.isSome → coordinator.phase = .completed)
    (completes : operation.completes = true) : next.phase = .completed := by
  cases perform_accepts accepted with
  | claimFollowed _ => rfl
  | claimFollowedAgain known => exact followed (by rw [known]; rfl)
  | _ => cases completes

theorem perform_legs (unpinned : coordinator.phase.beforeMakerLock → coordinator.makerLockTransactionId = none)
    (legs : LegsRecovered history coordinator) : LegsRecovered (history ++ [⟨operation, true⟩]) next := by
  have carried : LegsRecovered (history ++ [⟨operation, true⟩]) coordinator := legs.append
  cases perform_accepts accepted with
  | takerProofLate | makerProofDropped | claimRevealedAgain | claimFollowedAgain
  | recoveryOpenedAgain | makerRecoveredAgain | takerFlagCleared | makerFlagCleared => exact carried
  | takerLockDropped | takerLockReorged | makerLockDropped | makerLockReorged | claimRevealed
  | claimFollowed => exact LegsRecovered.of_not_recovering rfl
  | makerLockPinned _ =>
    refine LegsRecovered.of_not_recovering ?_
    dsimp only
    split <;> rfl
  | takerProof live =>
    cases recovering : coordinator.phase.recovering with
    | false => exact LegsRecovered.of_not_recovering ((takerLockPhase_recovering _ _ _).trans recovering)
    | true =>
      unfold LegsRecovered at carried ⊢
      revert live recovering carried
      cases coordinator.phase <;> simp [Phase.recovering, Phase.terminal, takerLockPhase]
  | makerProof phase _ =>
    refine LegsRecovered.of_not_recovering ((makerLockPhase_recovering _ _ _).trans ?_)
    revert phase
    cases coordinator.phase <;> simp [Phase.recovering]
  | makerLegRefunded _ _ => exact .inl ⟨_, accepted_last⟩
  | makerLegRefundedLast phase _ =>
    simp only [LegsRecovered, phase] at carried
    exact .inr ⟨carried, .inl ⟨_, accepted_last⟩⟩
  | recoveryOpened phase | recoveryWithdrawn phase =>
    simp only [LegsRecovered, phase] at carried
    exact carried
  | makerRecovered phase =>
    simp only [LegsRecovered, phase] at carried
    exact .inr ⟨carried, .inr ⟨_, accepted_last⟩⟩
  | takerLegRefunded _ _ => exact ⟨_, accepted_last⟩
  | takerLegRefundedAlone phase _ =>
    refine .inl (unpinned ?_)
    revert phase
    cases coordinator.phase <;> simp [Phase.beforeMakerLock]
  | takerLegRefundedLast phase _ =>
    simp only [LegsRecovered, phase] at carried
    exact .inr ⟨⟨_, accepted_last⟩, carried⟩

theorem outcomeTracked_accepted {schedule : RecoverySchedule}
    (tracked : OutcomeTracked schedule history coordinator) :
    OutcomeTracked schedule (history ++ [⟨operation, true⟩]) next where
  scheduled := (perform_schedule accepted).trans tracked.scheduled
  unpinned := perform_unpinned accepted tracked.unpinned
  followed := perform_followed accepted tracked.followed
  completed := by
    intro recorded completes member
    rcases accepted_append_cases member with earlier | rfl
    · have completed := tracked.completed recorded completes earlier
      rw [terminal_phase (by rw [completed]; rfl) accepted, completed]
    · exact perform_completes accepted tracked.followed completes
  recovering := by
    intro recorded recovers member
    rcases accepted_append_cases member with earlier | rfl
    · exact perform_recovering accepted (tracked.recovering recorded recovers earlier)
    · exact perform_recovers accepted recovers
  due := by
    intro recorded member
    rcases accepted_append_cases member with earlier | rfl
    · exact tracked.due recorded earlier
    · exact tracked.scheduled ▸ perform_due accepted
  legs := perform_legs accepted tracked.unpinned tracked.legs

end Recovery

theorem outcomeTracked_step {schedule : RecoverySchedule} (history : List Event)
    (coordinator : SwapCoordinator) (event : Event) (next : SwapCoordinator)
    (tracked : OutcomeTracked schedule history coordinator) (step : Step coordinator event next) :
    OutcomeTracked schedule (history ++ [event]) next := by
  cases step with
  | accepted performed => exact outcomeTracked_accepted performed tracked
  | refused _ =>
    exact
      { tracked with
        completed := fun operation completes member =>
          tracked.completed operation completes (accepted_append_refused member)
        recovering := fun operation recovers member =>
          tracked.recovering operation recovers (accepted_append_refused member)
        due := fun operation member => tracked.due operation (accepted_append_refused member)
        legs := tracked.legs.append }

theorem Constructed.outcomeTracked {start : SwapCoordinator} (constructed : Constructed start) :
    OutcomeTracked start.recoverySchedule [] start := by
  have fresh : start.phase = .offered ∧ start.makerLockTransactionId = none ∧
      start.followupClaimTransactionId = none := by
    cases constructed <;> exact ⟨rfl, rfl, rfl⟩
  obtain ⟨phase, makerLock, followup⟩ := fresh
  refine ⟨rfl, fun _ => makerLock, ?_, ?_, ?_, ?_, LegsRecovered.of_not_recovering (by rw [phase]; rfl)⟩
  · intro known
    rw [followup] at known
    cases known
  · exact fun _ _ member => absurd member List.not_mem_nil
  · exact fun _ _ member => absurd member List.not_mem_nil
  · exact fun _ member => absurd member List.not_mem_nil

/-- A completed swap has no recovered leg, each refund waited for the deadline of its leg, and a
    refunded swap has taken back every leg that was locked. -/
theorem outcomes_exclusive_and_complete (start : SwapCoordinator) (constructed : Constructed start)
    (history : List Event) (coordinator : SwapCoordinator) (run : Run Step start history coordinator) :
    (∀ followup recovery, followup.completes = true → recovery.recovers = true →
      ¬(Accepted history followup ∧ Accepted history recovery)) ∧
    (∀ refund, Accepted history refund → refund.Due start.recoverySchedule) ∧
    (coordinator.phase = .refunded → coordinator.makerLockTransactionId = none ∨
      TakerLegRecovered history ∧ MakerLegRecovered history) := by
  have tracked : OutcomeTracked start.recoverySchedule history coordinator :=
    run.history_invariant constructed.outcomeTracked outcomeTracked_step
  refine ⟨?_, tracked.due, ?_⟩
  · rintro followup recovery completes recovers ⟨followed, recovered⟩
    have completed := tracked.completed followup completes followed
    have recovering := tracked.recovering recovery recovers recovered
    rw [completed] at recovering
    cases recovering
  · intro refunded
    have legs := tracked.legs
    unfold LegsRecovered at legs
    rw [refunded] at legs
    exact legs

def sampleRecovery : List Operation :=
  [.observeTakerLock (sampleProof 2), .observeMakerLock (sampleProof 2),
    .refundTakerLeg ⟨.zcash, .blockHeight, 50⟩, .refundMakerLeg ⟨.lez, .timestamp, 100⟩]

theorem outcomes_exclusive_and_complete_sample :
    (replay advance sampleOffer sampleRecovery).1.makerLockTransactionId = none ∨
      TakerLegRecovered (replay advance sampleOffer sampleRecovery).2 ∧
        MakerLegRecovered (replay advance sampleOffer sampleRecovery).2 :=
  (outcomes_exclusive_and_complete sampleOffer (.newWithConfirmationPolicies ..) _ _
    (run_replay advance_step sampleOffer sampleRecovery)).2.2 rfl

end AtomicSwaps.Core
