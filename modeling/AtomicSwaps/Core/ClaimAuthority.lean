import AtomicSwaps.Core.Transitions
import AtomicSwaps.Transition.Run

namespace AtomicSwaps.Core

open Transition SwapCoordinator

def Operation.observesFunding : Participant → Operation → Bool
  | .taker, .observeTakerLock _ | .taker, .observeTakerLockRemoved _ => true
  | .maker, .observeMakerLock _ | .maker, .observeMakerLockRemoved _ => true
  | _, _ => false

def Operation.lockProof : Participant → ChainProof → Operation
  | .taker => .observeTakerLock
  | .maker => .observeMakerLock

def Operation.recordsClaim : Operation → Bool
  | .observeRevealingClaim _ _ _ | .observeFollowupClaim _ _ => true
  | _ => false

structure Event where
  operation : Operation
  accepted : Bool

/-- A refused operation enters the history and leaves the coordinator as it was. -/
inductive Step (coordinator : SwapCoordinator) : Event → SwapCoordinator → Prop
  | accepted {operation : Operation} {next : SwapCoordinator} :
      coordinator.perform operation = .ok next → Step coordinator ⟨operation, true⟩ next
  | refused {operation : Operation} {error : Error} :
      coordinator.perform operation = .error error → Step coordinator ⟨operation, false⟩ coordinator

variable (coordinator : SwapCoordinator)

def SwapCoordinator.advance (operation : Operation) : SwapCoordinator × Event :=
  match coordinator.perform operation with
  | .ok next => (next, ⟨operation, true⟩)
  | .error _ => (coordinator, ⟨operation, false⟩)

theorem SwapCoordinator.advance_step (coordinator : SwapCoordinator) (operation : Operation) :
    Step coordinator (coordinator.advance operation).2 (coordinator.advance operation).1 := by
  unfold advance
  split
  · rename_i performed
    exact .accepted performed
  · rename_i performed
    exact .refused performed

inductive Constructed : SwapCoordinator → Prop
  | new (id : Identifier) (pair : Pair) (policy : ConfirmationPolicy) (schedule : RecoverySchedule) :
      Constructed (.new id pair policy schedule)
  | newWithDirection (id : Identifier) (pair : Pair) (direction : SwapDirection)
      (policy : ConfirmationPolicy) (schedule : RecoverySchedule) :
      Constructed (.newWithDirection id pair direction policy schedule)
  | newWithConfirmationPolicies (id : Identifier) (pair : Pair) (direction : SwapDirection)
      (takerPolicy makerPolicy : ConfirmationPolicy) (schedule : RecoverySchedule) :
      Constructed (.newWithConfirmationPolicies id pair direction takerPolicy makerPolicy schedule)

def lastFundingObservation (leg : Participant) (history : List Event) : Option Operation :=
  (history.filter fun event => event.accepted && event.operation.observesFunding leg).getLast?.map
    Event.operation

def SwapCoordinator.fundingConfirmed : Participant → Bool
  | .taker => coordinator.takerFundingConfirmed
  | .maker => coordinator.makerFundingConfirmed

def LegProven (history : List Event) (coordinator : SwapCoordinator) (leg : Participant) : Prop :=
  ∃ proof : ChainProof, lastFundingObservation leg history = some (.lockProof leg proof) ∧
    coordinator.fundingTransactionId leg = some proof.transactionId ∧
    coordinator.requiredConfirmations leg ≤ proof.confirmations

/-- The maker's depth regression that `observe_maker_lock` accepts without recording: the taker leg
    is the reason for the phase, so the maker flag keeps its stale value. -/
def DropsMakerRegression : Operation → Prop
  | .observeMakerLock proof =>
    coordinator.phase = .takerLockReorged ∧ coordinator.makerFundingConfirmed = true ∧
      coordinator.makerLockTransactionId = some proof.transactionId ∧
      proof.confirmations < coordinator.makerConfirmationPolicy.required
  | _ => False

def Phase.claimsOpen : Phase → Bool
  | .completed | .makerLegRefunded | .takerLegRefunded | .refunded | .makerRecoveryAvailable => false
  | _ => true

def Phase.beforeMakerLock : Phase → Bool
  | .offered | .awaitingTakerConfirmations | .takerLockConfirmed => true
  | _ => false

structure FundingTracked (history : List Event) (coordinator : SwapCoordinator) : Prop where
  unpinned : coordinator.phase.beforeMakerLock → coordinator.makerLockTransactionId = none
  proven : ∀ leg, coordinator.phase.claimsOpen → coordinator.fundingConfirmed leg →
    LegProven history coordinator leg

section History

variable {history : List Event} {leg : Participant} {operation : Operation}

theorem lastFundingObservation_other {event : Event}
    (other : (event.accepted && event.operation.observesFunding leg) = false) :
    lastFundingObservation leg (history ++ [event]) = lastFundingObservation leg history := by
  simp [lastFundingObservation, List.filter_append, other]

theorem lastFundingObservation_own (own : operation.observesFunding leg = true) :
    lastFundingObservation leg (history ++ [⟨operation, true⟩]) = some operation := by
  simp [lastFundingObservation, List.filter_append, own]

end History

section Frame

variable {coordinator next : SwapCoordinator} {operation : Operation}

theorem takerLockPhase_open (hasEvidence confirmed : Bool) (phase : Phase) :
    (takerLockPhase hasEvidence phase confirmed).claimsOpen = phase.claimsOpen := by
  cases phase <;> cases confirmed <;> cases hasEvidence <;> rfl

theorem takerLockPhase_beforeMakerLock (hasEvidence confirmed : Bool) (phase : Phase) :
    (takerLockPhase hasEvidence phase confirmed).beforeMakerLock =
      phase.beforeMakerLock := by
  cases phase <;> cases confirmed <;> cases hasEvidence <;> rfl

theorem makerLockPhase_beforeMakerLock (hasEvidence confirmed : Bool) (phase : Phase) :
    (makerLockPhase hasEvidence phase confirmed).beforeMakerLock =
      phase.beforeMakerLock := by
  cases phase <;> cases confirmed <;> cases hasEvidence <;> rfl

theorem makerLockPhase_open (hasEvidence confirmed : Bool) (phase : Phase) :
    (makerLockPhase hasEvidence phase confirmed).claimsOpen = phase.claimsOpen := by
  cases phase <;> cases confirmed <;> cases hasEvidence <;> rfl

theorem perform_frame (accepted : coordinator.perform operation = .ok next) :
    (∀ leg, next.requiredConfirmations leg = coordinator.requiredConfirmations leg) ∧
    (∀ leg, operation.observesFunding leg = false →
      next.fundingConfirmed leg = coordinator.fundingConfirmed leg ∧
        next.fundingTransactionId leg = coordinator.fundingTransactionId leg) ∧
    (next.phase.claimsOpen → coordinator.phase.claimsOpen) := by
  have accepts := perform_accepts accepted
  refine ⟨fun leg => ?_, fun leg other => ?_, ?_⟩
  · cases accepts <;> cases leg <;> rfl
  · cases accepts <;> cases leg <;> first
      | exact ⟨rfl, rfl⟩
      | cases other
  · cases accepts with
    | takerProof _ => exact fun isOpen => (takerLockPhase_open _ _ _).symm.trans isOpen
    | makerProof _ _ => exact fun isOpen => (makerLockPhase_open _ _ _).symm.trans isOpen
    | takerLockDropped phase | takerLockReorged phase | makerLockPinned phase | makerLockDropped phase
    | makerLockReorged phase | claimRevealed phase | claimFollowed phase =>
      intro _
      revert phase
      cases coordinator.phase <;> simp [Phase.claimsOpen]
    | makerLegRefunded | makerLegRefundedLast | recoveryOpened | recoveryWithdrawn | makerRecovered
    | takerLegRefunded | takerLegRefundedAlone | takerLegRefundedLast => exact nofun
    | _ => exact id

theorem perform_unpinned (accepted : coordinator.perform operation = .ok next)
    (unpinned : coordinator.phase.beforeMakerLock → coordinator.makerLockTransactionId = none) :
    next.phase.beforeMakerLock → next.makerLockTransactionId = none := by
  cases perform_accepts accepted with
  | takerProof _ => exact fun early => unpinned ((takerLockPhase_beforeMakerLock _ _ _).symm.trans early)
  | makerProof phase _ =>
    intro early
    have before := (makerLockPhase_beforeMakerLock _ _ _).symm.trans early
    revert phase before
    cases coordinator.phase <;> simp [Phase.beforeMakerLock]
  | takerLockDropped phase =>
    refine fun _ => unpinned ?_
    revert phase
    cases coordinator.phase <;> simp [Phase.beforeMakerLock]
  | makerLockPinned _ =>
    intro early
    dsimp only at early
    split at early <;> cases early
  | makerLockDropped _ => exact fun _ => rfl
  | takerLockReorged | makerLockReorged | claimRevealed | claimFollowed | makerLegRefunded | makerLegRefundedLast
  | recoveryOpened | recoveryWithdrawn | makerRecovered | takerLegRefunded | takerLegRefundedAlone
  | takerLegRefundedLast => exact nofun
  | _ => exact unpinned

/-- An accepted observation of a leg either withdraws the leg's confirmation or is itself the
    proof behind it. The excluded case is the only one in which it does neither. -/
theorem own_observation_proven {history : List Event} {leg : Participant}
    (tracked : FundingTracked history coordinator) (recorded : ¬DropsMakerRegression coordinator operation)
    (accepted : coordinator.perform operation = .ok next) (own : operation.observesFunding leg = true)
    (isOpen : next.phase.claimsOpen) (confirmed : next.fundingConfirmed leg) :
    LegProven (history ++ [⟨operation, true⟩]) next leg := by
  have last : lastFundingObservation leg (history ++ [⟨operation, true⟩]) = some operation :=
    lastFundingObservation_own own
  cases operation with
  | observeTakerLock proof =>
    cases leg
    · cases own
    · refine ⟨proof, last, ?_⟩
      rcases observeTakerLock_ok accepted with ⟨terminal, rfl⟩ | ⟨-, rfl⟩
      · rcases terminal with phase | phase <;> rw [phase] at isOpen <;> cases isOpen
      · exact ⟨rfl, of_decide_eq_true confirmed⟩
  | observeTakerLockRemoved transactionId =>
    cases leg
    · cases own
    · obtain ⟨_, ⟨_, rfl⟩ | ⟨_, rfl⟩ | rfl⟩ :=
        observeTakerLockRemoved_ok accepted <;> cases confirmed
  | observeMakerLock proof =>
    cases leg
    · refine ⟨proof, last, ?_⟩
      rcases observeMakerLock_ok accepted with
        ⟨_, pinned, rfl⟩ | ⟨_, rfl⟩ | ⟨pinned, rfl, dropped⟩
      · exact ⟨pinned, of_decide_eq_true confirmed⟩
      · exact ⟨rfl, of_decide_eq_true confirmed⟩
      · -- Only the reorged taker lock is left: earlier phases pin no maker lock, later ones are closed.
        refine ⟨pinned, Nat.le_of_not_lt fun short => recorded ⟨?_, confirmed, pinned, short⟩⟩
        have pinnedPhase : ¬next.phase.beforeMakerLock :=
          fun early => by simp [tracked.unpinned early] at pinned
        revert isOpen dropped pinnedPhase
        cases next.phase <;> simp [Phase.claimsOpen, Phase.beforeMakerLock]
    · cases own
  | observeMakerLockRemoved transactionId =>
    cases leg
    · obtain ⟨_, ⟨_, rfl⟩ | ⟨_, rfl⟩ | rfl⟩ :=
        observeMakerLockRemoved_ok accepted <;> cases confirmed
    · cases own
  | _ => cases leg <;> cases own

end Frame

theorem fundingTracked_step (history : List Event) (coordinator : SwapCoordinator) (event : Event)
    (next : SwapCoordinator) (tracked : FundingTracked history coordinator)
    (taken : restrict (fun coordinator event => ¬DropsMakerRegression coordinator event.operation)
      Step coordinator event next) :
    FundingTracked (history ++ [event]) next := by
  obtain ⟨recorded, step⟩ := taken
  cases step with
  | accepted performed =>
    obtain ⟨required, untouched, closed⟩ := perform_frame performed
    refine ⟨perform_unpinned performed tracked.unpinned, fun leg isOpen confirmed => ?_⟩
    cases own : Operation.observesFunding leg _ with
    | true => exact own_observation_proven tracked recorded performed own isOpen confirmed
    | false =>
      obtain ⟨sameFlag, sameId⟩ := untouched leg own
      obtain ⟨proof, last, pinned, depth⟩ := tracked.proven leg (closed isOpen) (sameFlag ▸ confirmed)
      refine ⟨proof, ?_, sameId.trans pinned, (required leg).symm ▸ depth⟩
      rw [lastFundingObservation_other (by simp [own])]
      exact last
  | refused _ =>
    refine ⟨tracked.unpinned, fun leg isOpen confirmed => ?_⟩
    obtain ⟨proof, last, proven⟩ := tracked.proven leg isOpen confirmed
    refine ⟨proof, ?_, proven⟩
    rw [lastFundingObservation_other (by simp)]
    exact last

theorem Constructed.fundingTracked {coordinator : SwapCoordinator}
    (constructed : Constructed coordinator) : FundingTracked [] coordinator := by
  cases constructed
  all_goals exact ⟨fun _ => rfl, fun leg _ confirmed => by cases leg <;> cases confirmed⟩

theorem recorded_claim_confirmed {coordinator next : SwapCoordinator} {operation : Operation}
    (claim : operation.recordsClaim = true) (accepted : coordinator.perform operation = .ok next)
    (newly : next.phase ≠ coordinator.phase) :
    coordinator.phase.claimsOpen ∧ ∀ leg, coordinator.fundingConfirmed leg := by
  cases operation with
  | observeRevealingClaim claimant proof evidence =>
    obtain ⟨authorized, ⟨-, rfl⟩ | ⟨phase, _⟩⟩ := observeRevealingClaim_ok accepted
    · exact absurd rfl newly
    · obtain ⟨_, _, _, taker, maker⟩ := claimAuthorized_ok authorized
      exact ⟨by rw [phase]; rfl, fun leg => by cases leg <;> assumption⟩
  | observeFollowupClaim claimant proof =>
    obtain ⟨authorized, ⟨-, rfl⟩ | ⟨phase, _⟩⟩ := observeFollowupClaim_ok accepted
    · exact absurd rfl newly
    · obtain ⟨_, _, _, taker, maker⟩ := claimAuthorized_ok authorized
      exact ⟨by rw [phase]; rfl, fun leg => by cases leg <;> assumption⟩
  | _ => cases claim

/-- Along every run in which no maker depth regression is dropped, a newly recorded claim finds a
    sufficient proof of the pinned transaction as the last accepted observation of each leg. -/
theorem recorded_claim_has_proven_legs (start : SwapCoordinator) (constructed : Constructed start)
    (history : List Event) (coordinator next : SwapCoordinator) (claim : Operation)
    (run : Run (restrict (fun coordinator event => ¬DropsMakerRegression coordinator event.operation) Step)
      start history coordinator)
    (isClaim : claim.recordsClaim = true) (accepted : coordinator.perform claim = .ok next)
    (newly : next.phase ≠ coordinator.phase) : ∀ leg, LegProven history coordinator leg := by
  have tracked : FundingTracked history coordinator :=
    run.history_invariant constructed.fundingTracked fundingTracked_step
  obtain ⟨isOpen, confirmed⟩ := recorded_claim_confirmed isClaim accepted newly
  exact fun leg => tracked.proven leg isOpen (confirmed leg)

section Samples

def sampleSafety : TimelockSafety := ⟨.lez, .zcash, 100, 130, 30, by decide, by decide, by decide⟩

def sampleSchedule : RecoverySchedule :=
  { makerTrigger := .deadline ⟨.lez, .timestamp, 100⟩, takerRefund := ⟨.zcash, .blockHeight, 50⟩
    safety := some sampleSafety }

example : RecoverySchedule.new .zcash .takerSellsForeign ⟨.lez, .timestamp, 100⟩ ⟨.zcash, .blockHeight, 50⟩
    sampleSafety = .ok sampleSchedule := rfl

def sampleOffer : SwapCoordinator :=
  .newWithConfirmationPolicies ⟨"swap", by decide⟩ .zcash .takerSellsForeign ⟨2, by decide⟩
    ⟨2, by decide⟩ sampleSchedule

def sampleProof (confirmations : Nat) : ChainProof := ⟨⟨"funding", by decide⟩, confirmations⟩

def sampleClaim : Operation :=
  .observeRevealingClaim .taker ⟨⟨"claim", by decide⟩, 1⟩ ⟨0⟩

def sampleLocked : SwapCoordinator :=
  (replay advance sampleOffer
    [.observeTakerLock (sampleProof 2), .observeMakerLock (sampleProof 2)]).1

theorem recorded_claim_has_proven_legs_sample :
    LegProven [⟨.observeTakerLock (sampleProof 2), true⟩, ⟨.observeMakerLock (sampleProof 2), true⟩] sampleLocked
        .taker ∧
      LegProven [⟨.observeTakerLock (sampleProof 2), true⟩, ⟨.observeMakerLock (sampleProof 2), true⟩] sampleLocked
        .maker := by
  have proven := recorded_claim_has_proven_legs sampleOffer (.newWithConfirmationPolicies ..)
    [⟨.observeTakerLock (sampleProof 2), true⟩, ⟨.observeMakerLock (sampleProof 2), true⟩] sampleLocked
    (sampleLocked.advance sampleClaim).1 sampleClaim
    (.snoc (.snoc .nil ⟨id, .accepted rfl⟩) ⟨fun dropped => (nomatch dropped.1), .accepted rfl⟩)
    rfl rfl (by decide)
  exact ⟨proven .taker, proven .maker⟩

/-- The operations after which both legs read as locked although the maker lock was last seen
    without a confirmation: the taker lock is reorged while the maker lock loses its depth. -/
def droppedRegression : List Operation :=
  [.observeTakerLock (sampleProof 2), .observeMakerLock (sampleProof 2),
    .observeTakerLock (sampleProof 0), .observeMakerLock (sampleProof 0),
    .observeTakerLock (sampleProof 2)]

theorem claim_recorded_over_unproven_maker_leg :
    ∃ start history coordinator next, Constructed start ∧ Run Step start history coordinator ∧
      coordinator.perform sampleClaim = .ok next ∧ next.phase ≠ coordinator.phase ∧
      ¬LegProven history coordinator .maker := by
  refine ⟨sampleOffer, (replay advance sampleOffer droppedRegression).2,
    (replay advance sampleOffer droppedRegression).1,
    ((replay advance sampleOffer droppedRegression).1.advance sampleClaim).1,
    .newWithConfirmationPolicies .., run_replay advance_step _ _, rfl, by decide, ?_⟩
  rintro ⟨proof, last, _, depth⟩
  have observed : lastFundingObservation .maker
      (replay advance sampleOffer droppedRegression).2 =
        some (.observeMakerLock (sampleProof 0)) := by decide
  rw [observed] at last
  cases last
  exact absurd depth (by decide)

end Samples

end AtomicSwaps.Core
