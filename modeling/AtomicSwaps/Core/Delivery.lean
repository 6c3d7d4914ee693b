import AtomicSwaps.Core.Transitions
import AtomicSwaps.Transition.Program

namespace AtomicSwaps.Core

open SwapCoordinator Program

/-- A method of the coordinator: it writes its fields one after another and may still fail after a write. -/
abbrev CoordinatorWork := Program SwapCoordinator Error

namespace Delivery

def set (change : SwapCoordinator → SwapCoordinator) : CoordinatorWork Unit := modify change

section Funding

def observeTakerLock (proof : ChainProof) : CoordinatorWork Unit := do
  let known ← get
  if known.takerLockTransactionId.any (· ≠ proof.transactionId) then throw .conflictingTakerLock
  else if known.phase = .completed ∨ known.phase = .refunded then return
  else
    set fun coordinator => { coordinator with takerLockTransactionId := some proof.transactionId }
    let confirmed := decide (known.confirmationPolicy.required ≤ proof.confirmations)
    set fun coordinator => { coordinator with takerFundingConfirmed := confirmed }
    set fun coordinator => { coordinator with
      phase := takerLockPhase coordinator.claimEvidence.isSome coordinator.phase confirmed }

/-- The flag of the leg is cleared before the phase is looked at. -/
def observeTakerLockRemoved (transactionId : Identifier) : CoordinatorWork Unit := do
  let known ← get
  if known.takerLockTransactionId ≠ some transactionId then throw .conflictingTakerLock
  else
    set fun coordinator => { coordinator with takerFundingConfirmed := false }
    match known.phase with
    | .awaitingTakerConfirmations | .takerLockConfirmed =>
      set fun coordinator => { coordinator with takerLockTransactionId := none }
      set fun coordinator => { coordinator with phase := .offered }
    | .awaitingMakerConfirmations | .bothLegsLocked | .claimEvidenceAvailable =>
      set fun coordinator => { coordinator with phase := .takerLockReorged }
    | _ => return

def observeMakerLock (proof : ChainProof) : CoordinatorWork Unit := do
  let known ← get
  let confirmed := decide (known.makerConfirmationPolicy.required ≤ proof.confirmations)
  match known.phase with
  | .awaitingMakerConfirmations | .bothLegsLocked | .makerLockReorged | .claimEvidenceAvailable =>
    if known.makerLockTransactionId ≠ some proof.transactionId then throw .conflictingMakerLock
    else
      set fun coordinator => { coordinator with makerFundingConfirmed := confirmed }
      set fun coordinator => { coordinator with
        phase := makerLockPhase coordinator.claimEvidence.isSome coordinator.phase confirmed }
  | .takerLockConfirmed =>
    set fun coordinator => { coordinator with makerLockTransactionId := some proof.transactionId }
    set fun coordinator => { coordinator with makerFundingConfirmed := confirmed }
    set fun coordinator => { coordinator with
      phase := if confirmed then .bothLegsLocked else .awaitingMakerConfirmations }
  | _ =>
    match known.makerLockTransactionId with
    | some pinned => if pinned = proof.transactionId then return else throw .conflictingMakerLock
    | none => throw .takerLockNotConfirmed

def observeMakerLockRemoved (transactionId : Identifier) : CoordinatorWork Unit := do
  let known ← get
  if known.makerLockTransactionId ≠ some transactionId then throw .conflictingMakerLock
  else
    set fun coordinator => { coordinator with makerFundingConfirmed := false }
    match known.phase with
    | .awaitingMakerConfirmations =>
      set fun coordinator => { coordinator with makerLockTransactionId := none }
      set fun coordinator => { coordinator with phase := .takerLockConfirmed }
    | .bothLegsLocked | .claimEvidenceAvailable =>
      set fun coordinator => { coordinator with phase := .makerLockReorged }
    | _ => return

end Funding

section Claims

def observeRevealingClaim (claimant : Participant) (proof : ChainProof) (evidence : ClaimEvidence) :
    CoordinatorWork Unit := do
  let known ← get
  lift (known.claimAuthorized known.firstClaimant claimant)
  if known.phase ≠ .bothLegsLocked then
    match known.revealingClaimTransactionId, known.claimEvidence with
    | some knownId, some knownEvidence =>
      if knownId = proof.transactionId ∧ knownEvidence = evidence then return
      else throw .conflictingClaimEvidence
    | _, _ => throw (.invalidPhase .bothLegsLocked known.phase)
  else
    set fun coordinator => { coordinator with revealingClaimTransactionId := some proof.transactionId }
    set fun coordinator => { coordinator with claimEvidence := some evidence }
    set fun coordinator => { coordinator with phase := .claimEvidenceAvailable }

def observeFollowupClaim (claimant : Participant) (proof : ChainProof) : CoordinatorWork Unit := do
  let known ← get
  lift (known.claimAuthorized known.firstClaimant.other claimant)
  if known.phase ≠ .claimEvidenceAvailable then
    match known.followupClaimTransactionId with
    | some recorded =>
      if recorded = proof.transactionId then return else throw .conflictingTakerClaim
    | none => throw (.invalidPhase .claimEvidenceAvailable known.phase)
  else
    set fun coordinator => { coordinator with followupClaimTransactionId := some proof.transactionId }
    set fun coordinator => { coordinator with phase := .completed }

end Claims

section Recoveries

def requireReached (reached : Except Error Bool) : CoordinatorWork Unit := do
  if ← lift reached then return else throw .timelockNotExpired

def refundMakerLeg (observed : ChainPosition) : CoordinatorWork Unit := do
  let known ← get
  match known.phase with
  | .bothLegsLocked | .awaitingMakerConfirmations | .takerLockReorged | .makerLockReorged
  | .takerLegRefunded =>
    requireReached (known.recoverySchedule.makerDeadlineReached observed)
    set fun coordinator => { coordinator with
      phase := if coordinator.phase = .takerLegRefunded then .refunded else .makerLegRefunded }
  | phase => throw (.invalidPhase .bothLegsLocked phase)

def observeTakerRefundForMakerRecovery (evidence : ChainEventProof) : CoordinatorWork Unit := do
  let known ← get
  match known.recoverySchedule.makerTrigger with
  | .deadline _ => throw (.invalidPhase .takerLegRefunded known.phase)
  | .canonicalTakerRefund chain requiredConfirmations =>
    if evidence.chain ≠ chain then throw (.wrongRecoveryEventChain chain evidence.chain)
    else if known.takerRefundEventTransactionId.any (· ≠ evidence.proof.transactionId) then
      throw .conflictingTakerRefundEvent
    else if evidence.proof.confirmations < requiredConfirmations then
      if known.phase = .makerRecoveryAvailable then
        set fun coordinator => { coordinator with phase := .takerLegRefunded }
      else throw (.insufficientRecoveryEventConfirmations requiredConfirmations evidence.proof.confirmations)
    else if known.phase = .makerRecoveryAvailable ∨ known.phase = .refunded then return
    else if known.phase ≠ .takerLegRefunded then throw (.invalidPhase .takerLegRefunded known.phase)
    else
      set fun coordinator => { coordinator with
        takerRefundEventTransactionId := some evidence.proof.transactionId }
      set fun coordinator => { coordinator with phase := .makerRecoveryAvailable }

def observeMakerRecovery (proof : ChainProof) : CoordinatorWork Unit := do
  let known ← get
  if known.makerRecoveryTransactionId.any (· ≠ proof.transactionId) then throw .conflictingMakerRecovery
  else if known.phase = .refunded ∧ known.makerRecoveryTransactionId.isSome then return
  else if known.phase ≠ .makerRecoveryAvailable then throw (.invalidPhase .makerRecoveryAvailable known.phase)
  else
    set fun coordinator => { coordinator with makerRecoveryTransactionId := some proof.transactionId }
    set fun coordinator => { coordinator with phase := .refunded }

def refundTakerLeg (observed : ChainPosition) : CoordinatorWork Unit := do
  let known ← get
  match known.phase with
  | .awaitingTakerConfirmations | .takerLockConfirmed | .awaitingMakerConfirmations
  | .bothLegsLocked | .takerLockReorged | .makerLockReorged | .makerLegRefunded =>
    requireReached (known.recoverySchedule.takerRefundReached observed)
    set fun coordinator => { coordinator with
      phase := match coordinator.phase with
        | .awaitingTakerConfirmations | .takerLockConfirmed | .makerLegRefunded => .refunded
        | _ => .takerLegRefunded }
  | phase => throw (.invalidPhase .takerLockConfirmed phase)

end Recoveries

end Delivery

def Operation.deliver : Operation → CoordinatorWork Unit
  | .observeTakerLock proof => Delivery.observeTakerLock proof
  | .observeTakerLockRemoved transactionId => Delivery.observeTakerLockRemoved transactionId
  | .observeMakerLock proof => Delivery.observeMakerLock proof
  | .observeMakerLockRemoved transactionId => Delivery.observeMakerLockRemoved transactionId
  | .observeRevealingClaim claimant proof evidence => Delivery.observeRevealingClaim claimant proof evidence
  | .observeFollowupClaim claimant proof => Delivery.observeFollowupClaim claimant proof
  | .refundMakerLeg observed => Delivery.refundMakerLeg observed
  | .observeTakerRefundForMakerRecovery evidence => Delivery.observeTakerRefundForMakerRecovery evidence
  | .observeMakerRecovery proof => Delivery.observeMakerRecovery proof
  | .refundTakerLeg observed => Delivery.refundTakerLeg observed

def SwapCoordinator.outcome (coordinator : SwapCoordinator) (performed : Except Error SwapCoordinator) :
    Except Error Unit × SwapCoordinator :=
  match performed with
  | .ok next => (.ok (), next)
  | .error error => (.error error, coordinator)

section Outcome

variable {coordinator : SwapCoordinator}

theorem observeTakerLock_outcome (proof : ChainProof) :
    Delivery.observeTakerLock proof coordinator =
      coordinator.outcome (coordinator.observeTakerLock proof) := by
  unfold Delivery.observeTakerLock observeTakerLock
  rw [bind_run (get_run coordinator)]
  split
  · rfl
  · split <;> rfl

theorem observeTakerLockRemoved_outcome (transactionId : Identifier) :
    Delivery.observeTakerLockRemoved transactionId coordinator =
      coordinator.outcome (coordinator.observeTakerLockRemoved transactionId) := by
  unfold Delivery.observeTakerLockRemoved observeTakerLockRemoved
  rw [bind_run (get_run coordinator)]
  split
  · rfl
  · obtain ⟨_, _, _, _, _, _, phase⟩ := coordinator
    cases phase <;> rfl

theorem observeMakerLock_outcome (proof : ChainProof) :
    Delivery.observeMakerLock proof coordinator =
      coordinator.outcome (coordinator.observeMakerLock proof) := by
  unfold Delivery.observeMakerLock observeMakerLock
  rw [bind_run (get_run coordinator)]
  obtain ⟨_, _, _, _, _, _, phase, _, _, _, makerLock⟩ := coordinator
  cases phase
  case awaitingMakerConfirmations | bothLegsLocked | makerLockReorged | claimEvidenceAvailable =>
    dsimp only
    split <;> rfl
  case takerLockConfirmed => rfl
  all_goals
    cases makerLock with
    | none => rfl
    | some known =>
      dsimp only
      split <;> rfl

theorem observeMakerLockRemoved_outcome (transactionId : Identifier) :
    Delivery.observeMakerLockRemoved transactionId coordinator =
      coordinator.outcome (coordinator.observeMakerLockRemoved transactionId) := by
  unfold Delivery.observeMakerLockRemoved observeMakerLockRemoved
  rw [bind_run (get_run coordinator)]
  split
  · rfl
  · obtain ⟨_, _, _, _, _, _, phase⟩ := coordinator
    cases phase <;> rfl

theorem observeRevealingClaim_outcome (claimant : Participant) (proof : ChainProof) (evidence : ClaimEvidence) :
    Delivery.observeRevealingClaim claimant proof evidence coordinator =
      coordinator.outcome (coordinator.observeRevealingClaim claimant proof evidence) := by
  unfold Delivery.observeRevealingClaim observeRevealingClaim
  rw [bind_run (get_run coordinator)]
  cases authorized : coordinator.claimAuthorized coordinator.firstClaimant claimant with
  | error error => rfl
  | ok _ =>
    rw [bind_run (lift_run (.ok ()) coordinator)]
    dsimp only
    split
    · cases coordinator.revealingClaimTransactionId with
      | none => rfl
      | some knownId =>
        cases coordinator.claimEvidence with
        | none => rfl
        | some knownEvidence =>
          dsimp only
          split <;> rfl
    · rfl

theorem observeFollowupClaim_outcome (claimant : Participant) (proof : ChainProof) :
    Delivery.observeFollowupClaim claimant proof coordinator =
      coordinator.outcome (coordinator.observeFollowupClaim claimant proof) := by
  unfold Delivery.observeFollowupClaim observeFollowupClaim
  rw [bind_run (get_run coordinator)]
  cases authorized : coordinator.claimAuthorized coordinator.firstClaimant.other claimant with
  | error error => rfl
  | ok _ =>
    rw [bind_run (lift_run (.ok ()) coordinator)]
    dsimp only
    split
    · cases coordinator.followupClaimTransactionId with
      | none => rfl
      | some recorded =>
        dsimp only
        split <;> rfl
    · rfl

theorem refundMakerLeg_outcome (observed : ChainPosition) :
    Delivery.refundMakerLeg observed coordinator =
      coordinator.outcome (coordinator.refundMakerLeg observed) := by
  unfold Delivery.refundMakerLeg refundMakerLeg
  rw [bind_run (get_run coordinator)]
  obtain ⟨_, _, _, _, _, schedule, phase⟩ := coordinator
  cases phase
  case bothLegsLocked | awaitingMakerConfirmations | takerLockReorged | makerLockReorged | takerLegRefunded =>
    dsimp only
    cases schedule.makerDeadlineReached observed with
    | error error => rfl
    | ok reached => cases reached <;> rfl
  all_goals rfl

theorem refundTakerLeg_outcome (observed : ChainPosition) :
    Delivery.refundTakerLeg observed coordinator =
      coordinator.outcome (coordinator.refundTakerLeg observed) := by
  unfold Delivery.refundTakerLeg refundTakerLeg
  rw [bind_run (get_run coordinator)]
  obtain ⟨_, _, _, _, _, schedule, phase⟩ := coordinator
  cases phase
  case awaitingTakerConfirmations | takerLockConfirmed | awaitingMakerConfirmations | bothLegsLocked |
      takerLockReorged | makerLockReorged | makerLegRefunded =>
    dsimp only
    cases schedule.takerRefundReached observed with
    | error error => rfl
    | ok reached => cases reached <;> rfl
  all_goals rfl

theorem observeTakerRefundForMakerRecovery_outcome (evidence : ChainEventProof) :
    Delivery.observeTakerRefundForMakerRecovery evidence coordinator =
      coordinator.outcome (coordinator.observeTakerRefundForMakerRecovery evidence) := by
  unfold Delivery.observeTakerRefundForMakerRecovery observeTakerRefundForMakerRecovery
  rw [bind_run (get_run coordinator)]
  cases coordinator.recoverySchedule.makerTrigger with
  | deadline position => rfl
  | canonicalTakerRefund chain required =>
    dsimp only
    split
    · rfl
    · split
      · rfl
      · split
        · split <;> rfl
        · split
          · rfl
          · split <;> rfl

theorem observeMakerRecovery_outcome (proof : ChainProof) :
    Delivery.observeMakerRecovery proof coordinator =
      coordinator.outcome (coordinator.observeMakerRecovery proof) := by
  unfold Delivery.observeMakerRecovery observeMakerRecovery
  rw [bind_run (get_run coordinator)]
  split
  · rfl
  · split
    · rfl
    · split <;> rfl

/-- The methods, write by write, compute what the transition functions say. -/
theorem deliver_outcome (coordinator : SwapCoordinator) (operation : Operation) :
    operation.deliver coordinator = coordinator.outcome (coordinator.perform operation) := by
  cases operation with
  | observeTakerLock proof => exact observeTakerLock_outcome proof
  | observeTakerLockRemoved transactionId => exact observeTakerLockRemoved_outcome transactionId
  | observeMakerLock proof => exact observeMakerLock_outcome proof
  | observeMakerLockRemoved transactionId => exact observeMakerLockRemoved_outcome transactionId
  | observeRevealingClaim claimant proof evidence => exact observeRevealingClaim_outcome claimant proof evidence
  | observeFollowupClaim claimant proof => exact observeFollowupClaim_outcome claimant proof
  | refundMakerLeg observed => exact refundMakerLeg_outcome observed
  | observeTakerRefundForMakerRecovery evidence => exact observeTakerRefundForMakerRecovery_outcome evidence
  | observeMakerRecovery proof => exact observeMakerRecovery_outcome proof
  | refundTakerLeg observed => exact refundTakerLeg_outcome observed

end Outcome

section Again

variable {coordinator next third : SwapCoordinator} {proof : ChainProof} {transactionId : Identifier}
  {observed : ChainPosition} {claimant : Participant}

theorem takerLockPhase_again (hasEvidence confirmed : Bool) (phase : Phase) :
    takerLockPhase hasEvidence (takerLockPhase hasEvidence phase confirmed)
      confirmed = takerLockPhase hasEvidence phase confirmed := by
  cases phase <;> cases confirmed <;> cases hasEvidence <;> rfl

theorem makerLockPhase_again (hasEvidence confirmed : Bool) (phase : Phase) :
    makerLockPhase hasEvidence (makerLockPhase hasEvidence phase confirmed)
      confirmed = makerLockPhase hasEvidence phase confirmed := by
  cases phase <;> cases confirmed <;> cases hasEvidence <;> rfl

theorem makerLockPhase_pinned (hasEvidence confirmed : Bool) {phase : Phase}
    (live : phase = .awaitingMakerConfirmations ∨ phase = .bothLegsLocked ∨ phase = .makerLockReorged ∨
      phase = .claimEvidenceAvailable) :
    makerLockPhase hasEvidence phase confirmed ≠ .takerLockConfirmed := by
  rcases live with rfl | rfl | rfl | rfl <;> cases confirmed <;> cases hasEvidence <;>
    simp [makerLockPhase]

theorem observeTakerLock_again (first : coordinator.observeTakerLock proof = .ok next)
    (second : next.observeTakerLock proof = .ok third) : third = next := by
  rcases observeTakerLock_ok first with ⟨-, rfl⟩ | ⟨-, rfl⟩
  · exact Except.ok.inj (second.symm.trans first)
  · rcases observeTakerLock_ok second with ⟨-, rfl⟩ | ⟨-, rfl⟩
    · rfl
    · simp only [takerLockPhase_again]

theorem observeMakerLock_again (first : coordinator.observeMakerLock proof = .ok next)
    (second : next.observeMakerLock proof = .ok third) : third = next := by
  rcases observeMakerLock_ok first with ⟨live, -, rfl⟩ | ⟨-, rfl⟩ | ⟨-, rfl, -⟩
  · rcases observeMakerLock_ok second with ⟨-, -, rfl⟩ | ⟨early, -⟩ | ⟨-, rfl, -⟩
    · simp only [makerLockPhase_again]
    · -- A lock that is pinned does not come back before the maker's funding.
      have late := makerLockPhase_pinned coordinator.claimEvidence.isSome
        (decide (coordinator.makerConfirmationPolicy.required ≤ proof.confirmations)) live
      exact absurd early late
    · rfl
  · rcases observeMakerLock_ok second with ⟨-, -, rfl⟩ | ⟨early, -⟩ | ⟨-, rfl, -⟩
    · by_cases confirmed : coordinator.makerConfirmationPolicy.required ≤ proof.confirmations <;>
        simp [confirmed, makerLockPhase]
    · dsimp only at early
      split at early <;> cases early
    · rfl
  · exact Except.ok.inj (second.symm.trans first)

theorem observeTakerLockRemoved_again (first : coordinator.observeTakerLockRemoved transactionId = .ok next)
    (second : next.observeTakerLockRemoved transactionId = .ok third) : third = next := by
  unfold observeTakerLockRemoved at first
  split at first
  · cases first
  · split at first <;> cases first <;> simp_all [observeTakerLockRemoved]

theorem observeMakerLockRemoved_again (first : coordinator.observeMakerLockRemoved transactionId = .ok next)
    (second : next.observeMakerLockRemoved transactionId = .ok third) : third = next := by
  unfold observeMakerLockRemoved at first
  split at first
  · cases first
  · split at first <;> cases first <;> simp_all [observeMakerLockRemoved]

theorem observeRevealingClaim_again {evidence : ClaimEvidence}
    (first : coordinator.observeRevealingClaim claimant proof evidence = .ok next)
    (second : next.observeRevealingClaim claimant proof evidence = .ok third) : third = next := by
  obtain ⟨-, ⟨-, rfl⟩ | ⟨-, rfl⟩⟩ := observeRevealingClaim_ok first
  · exact Except.ok.inj (second.symm.trans first)
  · obtain ⟨-, ⟨-, rfl⟩ | ⟨locked, -⟩⟩ := observeRevealingClaim_ok second
    · rfl
    · cases locked

theorem observeFollowupClaim_again (first : coordinator.observeFollowupClaim claimant proof = .ok next)
    (second : next.observeFollowupClaim claimant proof = .ok third) : third = next := by
  obtain ⟨-, ⟨-, rfl⟩ | ⟨-, rfl⟩⟩ := observeFollowupClaim_ok first
  · exact Except.ok.inj (second.symm.trans first)
  · obtain ⟨-, ⟨-, rfl⟩ | ⟨available, -⟩⟩ := observeFollowupClaim_ok second
    · rfl
    · cases available

theorem refundMakerLeg_again (first : coordinator.refundMakerLeg observed = .ok next)
    (second : next.refundMakerLeg observed = .ok third) : third = next := by
  obtain ⟨-, -, rfl⟩ := refundMakerLeg_ok first
  obtain ⟨phase, -, -⟩ := refundMakerLeg_ok second
  split at phase <;> simp at phase

theorem refundTakerLeg_again (first : coordinator.refundTakerLeg observed = .ok next)
    (second : next.refundTakerLeg observed = .ok third) : third = next := by
  obtain ⟨-, ⟨-, rfl⟩ | ⟨-, rfl⟩⟩ := refundTakerLeg_ok first
  · obtain ⟨-, ⟨phase, -⟩ | ⟨phase, -⟩⟩ := refundTakerLeg_ok second <;> simp at phase
  · obtain ⟨-, ⟨phase, -⟩ | ⟨phase, -⟩⟩ := refundTakerLeg_ok second <;> simp at phase

theorem observeTakerRefundForMakerRecovery_again {evidence : ChainEventProof}
    (first : coordinator.observeTakerRefundForMakerRecovery evidence = .ok next)
    (second : next.observeTakerRefundForMakerRecovery evidence = .ok third) : third = next := by
  obtain ⟨required, trigger, -, depth⟩ := observeTakerRefundForMakerRecovery_ok first
  obtain ⟨_, again, -, later⟩ := observeTakerRefundForMakerRecovery_ok second
  obtain ⟨short, -, rfl⟩ | ⟨deep, ⟨-, rfl⟩ | ⟨-, rfl⟩⟩ := depth
  · cases trigger.symm.trans again
    obtain ⟨-, available, -⟩ | ⟨deep, -⟩ := later
    · cases available
    · exact absurd short (Nat.not_lt_of_le deep)
  · exact Except.ok.inj (second.symm.trans first)
  · cases trigger.symm.trans again
    obtain ⟨short, -⟩ | ⟨-, ⟨-, rfl⟩ | ⟨-, rfl⟩⟩ := later
    · exact absurd short (Nat.not_lt_of_le deep)
    · rfl
    · rfl

theorem observeMakerRecovery_again (first : coordinator.observeMakerRecovery proof = .ok next)
    (second : next.observeMakerRecovery proof = .ok third) : third = next := by
  rcases observeMakerRecovery_ok first with ⟨-, rfl⟩ | ⟨-, rfl⟩
  · exact Except.ok.inj (second.symm.trans first)
  · rcases observeMakerRecovery_ok second with ⟨-, rfl⟩ | ⟨phase, -⟩
    · rfl
    · cases phase

theorem perform_again {operation : Operation} (first : coordinator.perform operation = .ok next)
    (second : next.perform operation = .ok third) : third = next := by
  cases operation with
  | observeTakerLock proof => exact observeTakerLock_again first second
  | observeTakerLockRemoved transactionId => exact observeTakerLockRemoved_again first second
  | observeMakerLock proof => exact observeMakerLock_again first second
  | observeMakerLockRemoved transactionId => exact observeMakerLockRemoved_again first second
  | observeRevealingClaim claimant proof evidence => exact observeRevealingClaim_again first second
  | observeFollowupClaim claimant proof => exact observeFollowupClaim_again first second
  | refundMakerLeg observed => exact refundMakerLeg_again first second
  | observeTakerRefundForMakerRecovery evidence => exact observeTakerRefundForMakerRecovery_again first second
  | observeMakerRecovery proof => exact observeMakerRecovery_again first second
  | refundTakerLeg observed => exact refundTakerLeg_again first second

/-- A delivery is accepted or leaves every field as it was, and a repeated one leaves what the first one
    left. -/
theorem delivery_at_least_once (coordinator : SwapCoordinator) (operation : Operation) :
    ((operation.deliver coordinator).1 = .ok () ∨ (operation.deliver coordinator).2 = coordinator) ∧
    (operation.deliver (operation.deliver coordinator).2).2 = (operation.deliver coordinator).2 := by
  rw [deliver_outcome coordinator]
  cases first : coordinator.perform operation with
  | error error =>
    refine ⟨.inr rfl, ?_⟩
    show (operation.deliver coordinator).2 = coordinator
    rw [deliver_outcome, first]
    rfl
  | ok next =>
    refine ⟨.inl rfl, ?_⟩
    show (operation.deliver next).2 = next
    rw [deliver_outcome]
    cases second : next.perform operation with
    | error error => rfl
    | ok third => exact perform_again first second

end Again

end AtomicSwaps.Core
