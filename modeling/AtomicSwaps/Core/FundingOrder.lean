import AtomicSwaps.Core.Outcomes

namespace AtomicSwaps.Core

open Transition SwapCoordinator

/-- While the swap is live, the taker flag says what the last accepted taker observation said. -/
def TakerTracked (history : List Event) (coordinator : SwapCoordinator) : Prop :=
  coordinator.phase.terminal = false →
    (coordinator.takerFundingConfirmed = true ↔ LegProven history coordinator .taker)

section TakerFirst

variable {history : List Event} {coordinator next : SwapCoordinator} {operation : Operation}

theorem live_before (accepted : coordinator.perform operation = .ok next)
    (live : next.phase.terminal = false) : coordinator.phase.terminal = false := by
  cases terminal : coordinator.phase.terminal with
  | false => rfl
  | true =>
    rw [terminal_phase terminal accepted, terminal] at live
    cases live

theorem not_proven_after_removal {transactionId : Identifier} :
    ¬LegProven (history ++ [⟨.observeTakerLockRemoved transactionId, true⟩]) next .taker := by
  rintro ⟨proof, last, -⟩
  rw [lastFundingObservation_own rfl] at last
  cases last

theorem takerTracked_own (accepted : coordinator.perform operation = .ok next)
    (own : operation.observesFunding .taker = true) : TakerTracked (history ++ [⟨operation, true⟩]) next := by
  intro live
  have last : lastFundingObservation .taker (history ++ [⟨operation, true⟩]) = some operation :=
    lastFundingObservation_own own
  cases perform_accepts accepted with
  | @takerProof proof _ =>
    constructor
    · intro confirmed
      exact ⟨proof, last, rfl, of_decide_eq_true confirmed⟩
    · rintro ⟨seen, isLast, -, depth⟩
      rw [last] at isLast
      cases isLast
      exact decide_eq_true depth
  | takerProofLate terminal => simp [terminal] at live
  | takerLockDropped | takerLockReorged | takerFlagCleared =>
    exact ⟨nofun, fun proven => absurd proven not_proven_after_removal⟩
  | _ => cases own

theorem takerTracked_other (tracked : TakerTracked history coordinator)
    (accepted : coordinator.perform operation = .ok next) (other : operation.observesFunding .taker = false) :
    TakerTracked (history ++ [⟨operation, true⟩]) next := by
  intro live
  obtain ⟨required, untouched, -⟩ := perform_frame accepted
  obtain ⟨sameFlag, samePin⟩ := untouched .taker other
  have flag : next.takerFundingConfirmed = coordinator.takerFundingConfirmed := sameFlag
  rw [flag, tracked (live_before accepted live)]
  unfold LegProven
  rw [lastFundingObservation_other (by simp [other]), samePin, required .taker]

end TakerFirst

theorem takerTracked_step (history : List Event) (coordinator : SwapCoordinator) (event : Event)
    (next : SwapCoordinator) (tracked : TakerTracked history coordinator)
    (step : Step coordinator event next) : TakerTracked (history ++ [event]) next := by
  cases step with
  | @accepted operation _ performed =>
    cases own : operation.observesFunding .taker with
    | true => exact takerTracked_own performed own
    | false => exact takerTracked_other tracked performed own
  | refused _ =>
    intro live
    rw [tracked live]
    unfold LegProven
    rw [lastFundingObservation_other (by simp)]

theorem Constructed.takerTracked {start : SwapCoordinator} (constructed : Constructed start) :
    TakerTracked [] start := by
  have unconfirmed : start.takerFundingConfirmed = false := by cases constructed <;> rfl
  intro _
  constructor
  · intro confirmed
    rw [unconfirmed] at confirmed
    cases confirmed
  · rintro ⟨proof, last, -⟩
    cases last

/-- A maker lock is pinned over a proven taker leg exactly when the taker flag is set: the phase
    `TakerLockConfirmed` alone does not say so, since the removal of an unconfirmed maker lock
    returns to it whatever the taker leg has become. -/
theorem pinned_maker_lock_proven_iff (start : SwapCoordinator) (constructed : Constructed start)
    (history : List Event) (coordinator next : SwapCoordinator) (proof : ChainProof)
    (run : Run Step start history coordinator)
    (accepted : coordinator.perform (.observeMakerLock proof) = .ok next)
    (unpinned : coordinator.makerLockTransactionId = none)
    (pins : next.makerLockTransactionId = some proof.transactionId) :
    LegProven history coordinator .taker ↔ coordinator.takerFundingConfirmed = true := by
  have tracked : TakerTracked history coordinator :=
    run.history_invariant constructed.takerTracked takerTracked_step
  have phase : coordinator.phase = .takerLockConfirmed := by
    cases perform_accepts accepted with
    | makerLockPinned phase => exact phase
    | makerProof _ pinned => simp [unpinned] at pinned
    | makerProofDropped pinned => simp [unpinned] at pinned
  exact (tracked (by rw [phase]; rfl)).symm

section Samples

theorem pinned_maker_lock_proven_iff_sample : LegProven [⟨.observeTakerLock (sampleProof 2), true⟩]
        (sampleOffer.advance (.observeTakerLock (sampleProof 2))).1 .taker ↔
      (sampleOffer.advance (.observeTakerLock (sampleProof 2))).1.takerFundingConfirmed = true :=
  pinned_maker_lock_proven_iff sampleOffer (.newWithConfirmationPolicies ..)
    [⟨.observeTakerLock (sampleProof 2), true⟩] _ sampleLocked (sampleProof 2)
    (.snoc .nil (.accepted rfl)) rfl rfl rfl

def regressedTaker : List Operation :=
  [.observeTakerLock (sampleProof 2), .observeMakerLock (sampleProof 0),
    .observeTakerLock (sampleProof 0), .observeMakerLockRemoved (sampleProof 0).transactionId]

theorem maker_lock_pinned_over_unproven_taker_leg :
    ∃ start history coordinator next, Constructed start ∧ Run Step start history coordinator ∧
      coordinator.perform (.observeMakerLock (sampleProof 2)) = .ok next ∧
      coordinator.makerLockTransactionId = none ∧
      next.makerLockTransactionId = some (sampleProof 2).transactionId ∧
      ¬LegProven history coordinator .taker := by
  refine ⟨sampleOffer, _, _, _, .newWithConfirmationPolicies ..,
    run_replay advance_step sampleOffer regressedTaker, rfl, rfl, rfl, ?_⟩
  rintro ⟨proof, last, -, depth⟩
  have observed : lastFundingObservation .taker
      (replay advance sampleOffer regressedTaker).2 =
        some (.observeTakerLock (sampleProof 0)) := by decide
  rw [observed] at last
  cases last
  exact absurd depth (by decide)

end Samples

def Phase.claimable : Phase → Option Phase
  | .bothLegsLocked => some .bothLegsLocked
  | .claimEvidenceAvailable => some .claimEvidenceAvailable
  | _ => none

variable (coordinator : SwapCoordinator)

def Operation.NextClaim : Operation → Prop
  | .observeRevealingClaim claimant _ _ =>
    coordinator.claimEvidence = none ∧ claimant = coordinator.firstClaimant
  | .observeFollowupClaim claimant _ =>
    coordinator.claimEvidence.isSome = true ∧ claimant = coordinator.firstClaimant.other
  | _ => False

def SwapCoordinator.meetsPolicy (leg : Participant) (proof : ChainProof) : Bool :=
  decide (coordinator.requiredConfirmations leg ≤ proof.confirmations)

def SwapCoordinator.afterBoth (first second : Operation) : SwapCoordinator :=
  ((coordinator.advance first).1.advance second).1

structure LegsCommute (coordinator : SwapCoordinator) (takerProof makerProof : ChainProof) : Prop where
  guard :
    (coordinator.afterBoth (.observeTakerLock takerProof) (.observeMakerLock makerProof)).bothLegsFunded =
      (coordinator.afterBoth (.observeMakerLock makerProof) (.observeTakerLock takerProof)).bothLegsFunded
  claimable :
    (coordinator.afterBoth (.observeTakerLock takerProof) (.observeMakerLock makerProof)).phase.claimable =
      (coordinator.afterBoth (.observeMakerLock makerProof) (.observeTakerLock takerProof)).phase.claimable
  accepted : coordinator.meetsPolicy .taker takerProof = true →
    coordinator.meetsPolicy .maker makerProof = true →
    ∀ claim, claim.NextClaim coordinator →
      (∃ next, (coordinator.afterBoth (.observeTakerLock takerProof)
        (.observeMakerLock makerProof)).perform claim = .ok next) ∧
      (∃ next, (coordinator.afterBoth (.observeMakerLock makerProof)
        (.observeTakerLock takerProof)).perform claim = .ok next)

/-- Where the order of delivery cannot be seen. A short taker proof beside a sufficient maker proof
    ends in `BothLegsLocked` or in `TakerLockReorged`, whichever came last, and a reorged taker lock
    hides the maker proof that comes before it returns. -/
def OrderFree (takerProof makerProof : ChainProof) : Prop :=
  match coordinator.phase with
  | .awaitingMakerConfirmations | .makerLockReorged =>
    coordinator.meetsPolicy .maker makerProof = true → coordinator.meetsPolicy .taker takerProof = true
  | .takerLockReorged => coordinator.meetsPolicy .taker takerProof = true →
      coordinator.meetsPolicy .maker makerProof = true ∧ coordinator.makerFundingConfirmed = true
  | _ => True

def SwapCoordinator.LegsPinned : Prop :=
  coordinator.takerLockTransactionId.isSome = true ∧ coordinator.makerLockTransactionId.isSome = true

def Phase.bothPinned : Phase → Bool
  | .awaitingMakerConfirmations | .bothLegsLocked | .claimEvidenceAvailable | .takerLockReorged
  | .makerLockReorged => true
  | _ => false

/-- Claim evidence is known in `ClaimEvidenceAvailable` and not in the phases before it. -/
def EvidenceTracked : Prop :=
  match coordinator.phase with
  | .offered | .awaitingTakerConfirmations | .takerLockConfirmed | .awaitingMakerConfirmations
  | .bothLegsLocked => coordinator.claimEvidence = none
  | .claimEvidenceAvailable => coordinator.claimEvidence.isSome = true
  | _ => True

section LegOrder

variable {coordinator next : SwapCoordinator} {operation : Operation} {proof : ChainProof}

theorem evidenceTracked_accepted (tracked : EvidenceTracked coordinator)
    (accepted : coordinator.perform operation = .ok next) : EvidenceTracked next := by
  cases perform_accepts accepted with
  | takerProof _ =>
    unfold EvidenceTracked at tracked ⊢
    revert tracked
    dsimp only
    generalize decide (coordinator.confirmationPolicy.required ≤ _) = confirmed
    cases coordinator.phase <;> cases confirmed <;> cases coordinator.claimEvidence <;>
      simp [takerLockPhase]
  | makerProof _ _ =>
    unfold EvidenceTracked at tracked ⊢
    revert tracked
    dsimp only
    generalize decide (coordinator.makerConfirmationPolicy.required ≤ _) = confirmed
    cases coordinator.phase <;> cases confirmed <;> cases coordinator.claimEvidence <;>
      simp [makerLockPhase]
  | takerLockDropped phase =>
    unfold EvidenceTracked at tracked ⊢
    revert tracked phase
    cases coordinator.phase <;> simp
  | makerLockPinned phase =>
    simp only [EvidenceTracked, phase] at tracked
    unfold EvidenceTracked
    rename_i proof
    by_cases deep : coordinator.makerConfirmationPolicy.required ≤ proof.confirmations
    · simp only [if_pos deep, tracked]
    · simp only [if_neg deep, tracked]
  | makerLockDropped phase =>
    simp only [EvidenceTracked, phase] at tracked
    exact tracked
  | claimRevealed => rfl
  | takerProofLate | takerFlagCleared | makerProofDropped | makerFlagCleared | claimRevealedAgain
  | claimFollowedAgain | recoveryOpenedAgain | makerRecoveredAgain => exact tracked
  | takerLockReorged | makerLockReorged | claimFollowed | makerLegRefunded | makerLegRefundedLast
  | recoveryOpened | recoveryWithdrawn | makerRecovered | takerLegRefunded | takerLegRefundedAlone
  | takerLegRefundedLast => trivial

def SwapCoordinator.withTaker (coordinator : SwapCoordinator) (confirmed : Bool) : SwapCoordinator :=
  { coordinator with
    takerFundingConfirmed := confirmed
    phase := takerLockPhase coordinator.claimEvidence.isSome coordinator.phase confirmed }

def SwapCoordinator.withMaker (coordinator : SwapCoordinator) (confirmed : Bool) : SwapCoordinator :=
  if coordinator.phase = .takerLockReorged then coordinator
  else { coordinator with
    makerFundingConfirmed := confirmed
    phase := makerLockPhase coordinator.claimEvidence.isSome coordinator.phase confirmed }

theorem withMaker_frame (coordinator : SwapCoordinator) (confirmed : Bool) :
    (coordinator.withMaker confirmed).takerLockTransactionId = coordinator.takerLockTransactionId ∧
    (coordinator.withMaker confirmed).makerLockTransactionId = coordinator.makerLockTransactionId ∧
    (coordinator.withMaker confirmed).claimEvidence = coordinator.claimEvidence ∧
    (coordinator.withMaker confirmed).firstClaimant = coordinator.firstClaimant ∧
    (coordinator.withMaker confirmed).takerFundingConfirmed = coordinator.takerFundingConfirmed ∧
    ∀ leg proof, (coordinator.withMaker confirmed).meetsPolicy leg proof =
      coordinator.meetsPolicy leg proof := by
  unfold withMaker
  split
  · exact ⟨rfl, rfl, rfl, rfl, rfl, fun _ _ => rfl⟩
  · exact ⟨rfl, rfl, rfl, rfl, rfl, fun leg _ => by cases leg <;> rfl⟩

theorem bothLegsFunded_pinned (pinned : coordinator.LegsPinned) :
    coordinator.bothLegsFunded =
      if coordinator.takerFundingConfirmed then
        if coordinator.makerFundingConfirmed then .ok () else .error .makerLockNotConfirmed
      else .error .takerLockNotConfirmed := by
  unfold bothLegsFunded
  cases coordinator.takerFundingConfirmed <;> cases coordinator.makerFundingConfirmed <;>
    simp [pinned.1, pinned.2, ← Option.not_isSome]

theorem claimAuthorized_funded (claimant : Participant) (pinned : coordinator.LegsPinned)
    (takerConfirmed : coordinator.takerFundingConfirmed = true)
    (makerConfirmed : coordinator.makerFundingConfirmed = true) (claimable : coordinator.phase.claimable ≠ none) :
    coordinator.claimAuthorized claimant claimant = .ok () := by
  unfold claimAuthorized
  rw [if_neg (fun other => other rfl), if_neg, if_neg, bothLegsFunded_pinned pinned]
  · simp [takerConfirmed, makerConfirmed]
  · intro reorged
    rw [reorged] at claimable
    exact claimable rfl
  · intro reorged
    rw [reorged] at claimable
    exact claimable rfl

variable {claim : Operation}

theorem nextClaim_withTaker (due : claim.NextClaim coordinator) (confirmed : Bool) :
    claim.NextClaim (coordinator.withTaker confirmed) := by
  cases claim <;> exact due

theorem nextClaim_withMaker (due : claim.NextClaim coordinator) (confirmed : Bool) :
    claim.NextClaim (coordinator.withMaker confirmed) := by
  obtain ⟨-, -, evidence, claimant, -, -⟩ := withMaker_frame coordinator confirmed
  cases claim with
  | observeRevealingClaim | observeFollowupClaim =>
    unfold Operation.NextClaim
    rw [evidence, claimant]
    exact due
  | _ => cases due

theorem next_claim_accepted (pinned : coordinator.LegsPinned)
    (takerConfirmed : coordinator.takerFundingConfirmed = true)
    (makerConfirmed : coordinator.makerFundingConfirmed = true)
    (phase : coordinator.phase =
      if coordinator.claimEvidence.isSome then .claimEvidenceAvailable else .bothLegsLocked)
    (due : claim.NextClaim coordinator) : ∃ next, coordinator.perform claim = .ok next := by
  cases claim with
  | observeRevealingClaim claimant proof evidence =>
    obtain ⟨unknown, rfl⟩ := due
    rw [unknown] at phase
    have locked : coordinator.phase = .bothLegsLocked := phase
    have authorized := claimAuthorized_funded coordinator.firstClaimant pinned takerConfirmed
      makerConfirmed (by rw [locked]; exact nofun)
    refine ⟨{ coordinator with
      revealingClaimTransactionId := some proof.transactionId
      claimEvidence := some evidence
      phase := .claimEvidenceAvailable }, ?_⟩
    show coordinator.observeRevealingClaim coordinator.firstClaimant proof evidence = _
    unfold observeRevealingClaim
    rw [authorized]
    exact if_neg (fun other => other locked)
  | observeFollowupClaim claimant proof =>
    obtain ⟨known, rfl⟩ := due
    rw [known] at phase
    have available : coordinator.phase = .claimEvidenceAvailable := phase
    have authorized := claimAuthorized_funded coordinator.firstClaimant.other pinned takerConfirmed
      makerConfirmed (by rw [available]; exact nofun)
    refine ⟨{ coordinator with
      followupClaimTransactionId := some proof.transactionId, phase := .completed }, ?_⟩
    show coordinator.observeFollowupClaim coordinator.firstClaimant.other proof = _
    unfold observeFollowupClaim
    rw [authorized]
    exact if_neg (fun other => other available)
  | _ => cases due

theorem withMaker_pinned (coordinator : SwapCoordinator) (pinned : coordinator.LegsPinned) (confirmed : Bool) :
    (coordinator.withMaker confirmed).LegsPinned := by
  obtain ⟨takerPin, makerPin, -⟩ := withMaker_frame coordinator confirmed
  unfold LegsPinned
  rw [takerPin, makerPin]
  exact pinned

theorem withMaker_takerFlag (coordinator : SwapCoordinator) (taker maker : Bool) :
    ((coordinator.withTaker taker).withMaker maker).takerFundingConfirmed = taker := by
  obtain ⟨-, -, -, -, takerFlag, -⟩ := withMaker_frame (coordinator.withTaker taker) maker
  exact takerFlag

theorem guards_agree_iff (pinned : coordinator.LegsPinned) (taker maker : Bool) :
    ((coordinator.withTaker taker).withMaker maker).bothLegsFunded =
        ((coordinator.withMaker maker).withTaker taker).bothLegsFunded ↔
      (taker = true → ((coordinator.withTaker taker).withMaker maker).makerFundingConfirmed =
        ((coordinator.withMaker maker).withTaker taker).makerFundingConfirmed) := by
  have second : ((coordinator.withMaker maker).withTaker taker).LegsPinned := withMaker_pinned _ pinned maker
  rw [bothLegsFunded_pinned (withMaker_pinned (coordinator.withTaker taker) pinned maker),
    bothLegsFunded_pinned second, withMaker_takerFlag]
  have flag : ((coordinator.withMaker maker).withTaker taker).takerFundingConfirmed = taker := rfl
  rw [flag]
  cases taker with
  | false => simp
  | true =>
    simp only [if_true, true_implies]
    cases ((coordinator.withTaker true).withMaker maker).makerFundingConfirmed <;>
      cases ((coordinator.withMaker maker).withTaker true).makerFundingConfirmed <;> simp

section Pinned

variable (both : coordinator.phase.bothPinned = true)
include both

theorem advance_takerProof
    (pinned : coordinator.takerLockTransactionId = some proof.transactionId) :
    (coordinator.advance (.observeTakerLock proof)).1 =
      coordinator.withTaker (coordinator.meetsPolicy .taker proof) := by
  have live : ¬(coordinator.phase = .completed ∨ coordinator.phase = .refunded) := by
    rintro (phase | phase) <;> rw [phase] at both <;> cases both
  have performed : coordinator.perform (.observeTakerLock proof) =
      .ok (coordinator.withTaker (coordinator.meetsPolicy .taker proof)) := by
    show coordinator.observeTakerLock proof = _
    unfold observeTakerLock
    rw [if_neg (by simp [pinned]), if_neg live, ← pinned]
    rfl
  simp only [advance, performed]

theorem advance_makerProof
    (pinned : coordinator.makerLockTransactionId = some proof.transactionId) :
    (coordinator.advance (.observeMakerLock proof)).1 =
      coordinator.withMaker (coordinator.meetsPolicy .maker proof) := by
  have performed : coordinator.perform (.observeMakerLock proof) =
      .ok (coordinator.withMaker (coordinator.meetsPolicy .maker proof)) := by
    show coordinator.observeMakerLock proof = _
    unfold observeMakerLock withMaker
    cases phase : coordinator.phase with
    | awaitingMakerConfirmations | bothLegsLocked | claimEvidenceAvailable | makerLockReorged =>
      simp only [reduceCtorEq, if_false]
      rw [if_neg (fun other => other pinned)]
      rfl
    | takerLockReorged => simp only [pinned, if_true]
    | _ =>
      rw [phase] at both
      cases both
  simp only [advance, performed]

theorem withTaker_bothPinned (confirmed : Bool) : (coordinator.withTaker confirmed).phase.bothPinned = true := by
  unfold withTaker
  revert both
  cases coordinator.phase <;> cases confirmed <;> cases coordinator.claimEvidence <;>
    simp [Phase.bothPinned, takerLockPhase]

theorem withMaker_bothPinned (confirmed : Bool) : (coordinator.withMaker confirmed).phase.bothPinned = true := by
  by_cases reorged : coordinator.phase = .takerLockReorged
  · rw [withMaker, if_pos reorged]
    exact both
  · rw [withMaker, if_neg reorged]
    revert both
    cases coordinator.phase <;> cases confirmed <;> cases coordinator.claimEvidence <;>
      simp [Phase.bothPinned, makerLockPhase]

theorem views_agree_iff
    (tracked : EvidenceTracked coordinator) (taker maker : Bool) :
    (let takerFirst := (coordinator.withTaker taker).withMaker maker
     let makerFirst := (coordinator.withMaker maker).withTaker taker
     (taker = true → takerFirst.makerFundingConfirmed = makerFirst.makerFundingConfirmed) ∧
       takerFirst.phase.claimable = makerFirst.phase.claimable) ↔
    (match coordinator.phase with
      | .awaitingMakerConfirmations | .makerLockReorged => maker = true → taker = true
      | .takerLockReorged => taker = true → maker = true ∧ coordinator.makerFundingConfirmed = true
      | _ => True) := by
  unfold EvidenceTracked at tracked
  unfold withTaker withMaker
  cases phase : coordinator.phase <;> rw [phase] at both tracked <;>
    cases taker <;> cases maker <;> cases evidence : coordinator.claimEvidence <;>
    cases flag : coordinator.makerFundingConfirmed <;>
    simp_all [Phase.bothPinned, Phase.claimable, takerLockPhase,
      makerLockPhase]

theorem views_claimable (tracked : EvidenceTracked coordinator)
    (recorded : coordinator.phase = .takerLockReorged → coordinator.makerFundingConfirmed = true) :
    (let due := if coordinator.claimEvidence.isSome then Phase.claimEvidenceAvailable else .bothLegsLocked
     let takerFirst := (coordinator.withTaker true).withMaker true
     let makerFirst := (coordinator.withMaker true).withTaker true
     takerFirst.phase = due ∧ takerFirst.makerFundingConfirmed = true ∧
       makerFirst.phase = due ∧ makerFirst.makerFundingConfirmed = true) := by
  unfold EvidenceTracked at tracked
  unfold withTaker withMaker
  cases phase : coordinator.phase <;> rw [phase] at both tracked recorded <;>
    cases evidence : coordinator.claimEvidence <;>
    simp_all [Phase.bothPinned, takerLockPhase, makerLockPhase]

variable {makerProof takerProof : ChainProof}
  (taker : coordinator.takerLockTransactionId = some takerProof.transactionId)
  (maker : coordinator.makerLockTransactionId = some makerProof.transactionId)
include taker maker

theorem afterBoth_takerFirst :
    coordinator.afterBoth (.observeTakerLock takerProof) (.observeMakerLock makerProof) =
      (coordinator.withTaker (coordinator.meetsPolicy .taker takerProof)).withMaker
        (coordinator.meetsPolicy .maker makerProof) := by
  unfold afterBoth
  rw [advance_takerProof both taker, advance_makerProof (withTaker_bothPinned both _) maker]
  rfl

theorem afterBoth_makerFirst :
    coordinator.afterBoth (.observeMakerLock makerProof) (.observeTakerLock takerProof) =
      (coordinator.withMaker (coordinator.meetsPolicy .maker makerProof)).withTaker
        (coordinator.meetsPolicy .taker takerProof) := by
  obtain ⟨samePin, -, -, -, -, samePolicy⟩ :=
    withMaker_frame coordinator (coordinator.meetsPolicy .maker makerProof)
  unfold afterBoth
  rw [advance_makerProof both maker,
    advance_takerProof (withMaker_bothPinned both _) (samePin.trans taker), samePolicy]

theorem legsCommute_iff_orderFree (tracked : EvidenceTracked coordinator) :
    LegsCommute coordinator takerProof makerProof ↔ OrderFree coordinator takerProof makerProof := by
  have pinned : coordinator.LegsPinned := by simp [LegsPinned, taker, maker]
  have takerFirst := afterBoth_takerFirst both taker maker
  have makerFirst := afterBoth_makerFirst both taker maker
  constructor
  · rintro ⟨guard, claimable, -⟩
    rw [takerFirst, makerFirst] at guard claimable
    exact (views_agree_iff both tracked _ _).mp
      ⟨(guards_agree_iff pinned _ _).mp guard, claimable⟩
  · intro free
    obtain ⟨flags, claimable⟩ := (views_agree_iff both tracked _ _).mpr free
    constructor
    · rw [takerFirst, makerFirst]
      exact (guards_agree_iff pinned _ _).mpr flags
    · rw [takerFirst, makerFirst]
      exact claimable
    · intro takerDeep makerDeep claim due
      rw [takerFirst, makerFirst, takerDeep, makerDeep]
      have recorded : coordinator.phase = .takerLockReorged → coordinator.makerFundingConfirmed = true := by
        intro reorged
        unfold OrderFree at free
        rw [reorged] at free
        exact (free takerDeep).2
      obtain ⟨firstPhase, firstFlag, secondPhase, secondFlag⟩ := views_claimable both tracked recorded
      obtain ⟨-, -, firstEvidence, -⟩ := withMaker_frame (coordinator.withTaker true) true
      obtain ⟨-, -, secondEvidence, -⟩ := withMaker_frame coordinator true
      constructor
      · refine next_claim_accepted (withMaker_pinned (coordinator.withTaker true) pinned true)
          (withMaker_takerFlag _ _ _) firstFlag ?_
          (nextClaim_withMaker (nextClaim_withTaker due true) true)
        rw [firstEvidence]
        exact firstPhase
      · refine next_claim_accepted (withMaker_pinned _ pinned true) rfl secondFlag ?_
          (nextClaim_withTaker (nextClaim_withMaker due true) true)
        rw [secondPhase, ← secondEvidence]
        rfl

end Pinned

end LegOrder

theorem evidenceTracked_step (coordinator : SwapCoordinator) (event : Event) (next : SwapCoordinator)
    (tracked : EvidenceTracked coordinator) (step : Step coordinator event next) : EvidenceTracked next := by
  cases step with
  | accepted performed => exact evidenceTracked_accepted tracked performed
  | refused _ => exact tracked

theorem Constructed.evidenceTracked {start : SwapCoordinator} (constructed : Constructed start) :
    EvidenceTracked start := by
  cases constructed <;> rfl

theorem OutcomeTracked.bothPinned {schedule : RecoverySchedule} {history : List Event}
    {coordinator : SwapCoordinator} (tracked : OutcomeTracked schedule history coordinator)
    (live : coordinator.phase.terminal = false)
    (unrecovered : ∀ operation, operation.recovers = true → ¬Accepted history operation)
    (pinned : coordinator.makerLockTransactionId.isSome = true) : coordinator.phase.bothPinned = true := by
  have legs := tracked.legs
  have unpinned := tracked.unpinned
  have noTaker : ¬TakerLegRecovered history := fun ⟨_, accepted⟩ => unrecovered _ rfl accepted
  have noMaker : ¬MakerLegRecovered history := by
    rintro (⟨_, accepted⟩ | ⟨_, accepted⟩)
    · exact unrecovered _ rfl accepted
    · exact unrecovered _ rfl accepted
  unfold LegsRecovered at legs
  cases phase : coordinator.phase with
  | awaitingMakerConfirmations | bothLegsLocked | claimEvidenceAvailable | takerLockReorged
  | makerLockReorged => rfl
  | offered | awaitingTakerConfirmations | takerLockConfirmed =>
    rw [unpinned (by rw [phase]; rfl)] at pinned
    cases pinned
  | completed | refunded =>
    rw [phase] at live
    cases live
  | makerLegRefunded =>
    rw [phase] at legs
    exact absurd legs noMaker
  | takerLegRefunded | makerRecoveryAvailable =>
    rw [phase] at legs
    exact absurd legs noTaker

/-- From every live state with both locks pinned and no leg recovered, the two orders of delivering
    the lock proofs agree exactly where `OrderFree` holds. -/
theorem leg_observations_commute_iff (start : SwapCoordinator) (constructed : Constructed start)
    (history : List Event) (coordinator : SwapCoordinator) (takerProof makerProof : ChainProof)
    (run : Run Step start history coordinator) (live : coordinator.phase.terminal = false)
    (unrecovered : ∀ operation, operation.recovers = true → ¬Accepted history operation)
    (taker : coordinator.takerLockTransactionId = some takerProof.transactionId)
    (maker : coordinator.makerLockTransactionId = some makerProof.transactionId) :
    LegsCommute coordinator takerProof makerProof ↔ OrderFree coordinator takerProof makerProof := by
  have outcome : OutcomeTracked start.recoverySchedule history coordinator :=
    run.history_invariant constructed.outcomeTracked outcomeTracked_step
  have evidence : EvidenceTracked coordinator :=
    run.invariant constructed.evidenceTracked evidenceTracked_step
  exact legsCommute_iff_orderFree (outcome.bothPinned live unrecovered (by simp [maker])) taker maker evidence

section Samples

theorem leg_observations_commute_iff_sample : LegsCommute sampleLocked (sampleProof 2) (sampleProof 0) ↔
      OrderFree sampleLocked (sampleProof 2) (sampleProof 0) :=
  leg_observations_commute_iff sampleOffer (.newWithConfirmationPolicies ..)
    [⟨.observeTakerLock (sampleProof 2), true⟩, ⟨.observeMakerLock (sampleProof 2), true⟩] sampleLocked
    (sampleProof 2) (sampleProof 0) (.snoc (.snoc .nil (.accepted rfl)) (.accepted rfl)) rfl
    (by
      intro operation recovers accepted
      unfold Accepted at accepted
      simp only [List.mem_cons, Event.mk.injEq, and_true, List.not_mem_nil, or_false] at accepted
      rcases accepted with rfl | rfl <;> cases recovers)
    rfl rfl

def takerReorg : List Operation :=
  [.observeTakerLock (sampleProof 2), .observeMakerLock (sampleProof 2), .observeTakerLock (sampleProof 0)]

theorem leg_observations_differ_by_order :
    ∃ start history coordinator, Constructed start ∧ Run Step start history coordinator ∧
      coordinator.phase.terminal = false ∧
      (∀ operation, operation.recovers = true → ¬Accepted history operation) ∧
      coordinator.takerLockTransactionId = some (sampleProof 2).transactionId ∧
      coordinator.makerLockTransactionId = some (sampleProof 0).transactionId ∧
      (coordinator.afterBoth (.observeTakerLock (sampleProof 2))
        (.observeMakerLock (sampleProof 0))).bothLegsFunded = .error .makerLockNotConfirmed ∧
      (coordinator.afterBoth (.observeMakerLock (sampleProof 0))
        (.observeTakerLock (sampleProof 2))).bothLegsFunded = .ok () := by
  refine ⟨sampleOffer, _, _, .newWithConfirmationPolicies ..,
    run_replay advance_step sampleOffer takerReorg, rfl, ?_, rfl, rfl, rfl, rfl⟩
  intro operation recovers accepted
  have observations : (replay advance sampleOffer takerReorg).2 =
      takerReorg.map (⟨·, true⟩) := rfl
  unfold Accepted at accepted
  rw [observations] at accepted
  simp only [takerReorg, List.map_cons, List.map_nil, List.mem_cons, Event.mk.injEq, and_true,
    List.not_mem_nil, or_false] at accepted
  rcases accepted with rfl | rfl | rfl <;> cases recovers

end Samples

end AtomicSwaps.Core
