import AtomicSwaps.Core.Transitions
import AtomicSwaps.Zec.Refunds

namespace AtomicSwaps.Zec

open AtomicSwaps.Core Fallible SwapCoordinator

/-- The stage a phase has reached: the taker's lock, the maker's lock, claims, refunds. -/
def phaseStage : Phase → Nat
  | .offered | .awaitingTakerConfirmations | .takerLockConfirmed => 0
  | .awaitingMakerConfirmations | .bothLegsLocked | .takerLockReorged | .makerLockReorged => 1
  | .claimEvidenceAvailable | .completed => 2
  | .makerLegRefunded | .takerLegRefunded | .refunded | .makerRecoveryAvailable => 3

variable {agreement : ZecAgreementV1} {coordinator next : SwapCoordinator} {revision : Nat}

theorem takerLockPhase_stage {phase : Phase} (early : phaseStage phase = 0) (hasEvidence confirmed : Bool) :
    phaseStage (takerLockPhase hasEvidence phase confirmed) = 0 := by
  cases phase <;> simp [phaseStage] at early <;> cases confirmed <;> rfl

/-- What reading the taker's lock keeps while the maker has not locked. -/
structure KeepsMakerLeg (coordinator next : SwapCoordinator) : Prop where
  stage : phaseStage next.phase = 0
  makerLock : next.makerLockTransactionId = coordinator.makerLockTransactionId

variable {proof : ChainProof}

section Early

variable (early : phaseStage coordinator.phase = 0)
include early

theorem observeTakerLock_keeps
    (accepted : coordinator.observeTakerLock proof = .ok next) : KeepsMakerLeg coordinator next := by
  rcases observeTakerLock_ok accepted with ⟨-, rfl⟩ | ⟨-, rfl⟩
  · exact ⟨early, rfl⟩
  · exact ⟨takerLockPhase_stage early _ _, rfl⟩

theorem observeTakerLockRemoved_keeps {transactionId : Identifier}
    (accepted : coordinator.observeTakerLockRemoved transactionId = .ok next) : KeepsMakerLeg coordinator next := by
  rcases (observeTakerLockRemoved_ok accepted).2 with
    ⟨-, rfl⟩ | ⟨late | late | late, rfl⟩ | rfl
  · exact ⟨rfl, rfl⟩
  · simp [late, phaseStage] at early
  · simp [late, phaseStage] at early
  · simp [late, phaseStage] at early
  · exact ⟨early, rfl⟩

theorem observeTakerEvent_keeps {removed : Option String} {canonical : Option (String × Nat)}
    (accepted : observeTakerEvent coordinator removed canonical = .ok next) : KeepsMakerLeg coordinator next := by
  obtain ⟨unpinned, removal, pinned⟩ := bind_ok_iff.mp accepted
  have first : KeepsMakerLeg coordinator unpinned := by
    cases removed with
    | none =>
      cases removal
      exact ⟨early, rfl⟩
    | some text =>
      obtain ⟨transactionId, -, removal⟩ := bind_ok_iff.mp removal
      exact observeTakerLockRemoved_keeps early removal
  cases canonical with
  | none =>
    cases pinned
    exact first
  | some reading =>
    obtain ⟨transactionId, -, pinned⟩ := bind_ok_iff.mp pinned
    have second := observeTakerLock_keeps first.stage pinned
    exact ⟨second.stage, second.makerLock.trans first.makerLock⟩

theorem ObservedTakerFirstLockEvidenceV1.observe_keeps {evidence : ObservedTakerFirstLockEvidenceV1}
    (accepted : evidence.observe coordinator = .ok next) : KeepsMakerLeg coordinator next := by
  cases evidence with
  | adapterAssertion => exact observeTakerLock_keeps early accepted
  | lez event => cases event <;> (unfold observe at accepted; exact observeTakerEvent_keeps early accepted)
  | zcash event => cases event <;> (unfold observe at accepted; exact observeTakerEvent_keeps early accepted)

theorem ObservedTakerFirstLockTransitionV1.applyTo_keeps {transition : ObservedTakerFirstLockTransitionV1}
    (applied : transition.applyTo agreement coordinator revision = .ok next) : KeepsMakerLeg coordinator next := by
  simp only [applyTo, ensure_bind_ok_iff, mapError_ok_iff] at applied
  exact transition.evidence.observe_keeps early applied.2

theorem FirstLockTransitionV1.applyTo_keeps {transition : FirstLockTransitionV1}
    (applied : transition.applyTo agreement coordinator revision = .ok next) : KeepsMakerLeg coordinator next := by
  simp only [applyTo, ensure_bind_ok_iff, mapError_ok_iff] at applied
  exact observeTakerLock_keeps early applied.2.2

end Early

variable {claimant : Participant}

theorem observeMakerLock_unpinned (unpinned : coordinator.makerLockTransactionId = none)
    (deep : coordinator.makerConfirmationPolicy.required ≤ proof.confirmations)
    (accepted : coordinator.observeMakerLock proof = .ok next) :
    coordinator.phase = .takerLockConfirmed ∧ next.phase = .bothLegsLocked := by
  rcases observeMakerLock_ok accepted with
    ⟨-, pinned, -⟩ | ⟨confirmed, rfl⟩ | ⟨pinned, -⟩
  · simp [unpinned] at pinned
  · exact ⟨confirmed, by simp [deep]⟩
  · simp [unpinned] at pinned

theorem MakerLockTransitionV1.applyTo_unpinned {transition : MakerLockTransitionV1}
    (unpinned : coordinator.makerLockTransactionId = none)
    (applied : transition.applyTo agreement coordinator revision = .ok next) :
    coordinator.phase = .takerLockConfirmed ∧ next.phase = .bothLegsLocked := by
  simp only [applyTo, ensure_bind_ok_iff, mapError_ok_iff] at applied
  have deep : coordinator.makerConfirmationPolicy.required ≤ transition.evidence.proof.confirmations :=
    applied.2.1
  exact observeMakerLock_unpinned unpinned deep applied.2.2

theorem ObservedMakerLockTransitionV1.applyTo_confirmed {transition : ObservedMakerLockTransitionV1}
    (confirmed : coordinator.phase = .takerLockConfirmed)
    (applied : transition.applyTo agreement coordinator revision = .ok next) : next.phase = .bothLegsLocked := by
  simp only [applyTo, ensure_bind_ok_iff, mapError_ok_iff] at applied
  rcases observeMakerLock_ok applied.2.2 with
    ⟨late, -⟩ | ⟨-, rfl⟩ | ⟨-, -, late⟩
  · simp [confirmed] at late
  · have deep : coordinator.makerConfirmationPolicy.required ≤ transition.evidence.confirmations :=
      applied.2.1
    simp [FirstLockConfirmedEvidenceV1.proof, deep]
  · simp [confirmed] at late

def ClaimStepV1.reachedPhase : ClaimStepV1 → Phase
  | .revealingLez => .claimEvidenceAvailable
  | .followupZcash => .completed

theorem validateClaimContext_ok {step : ClaimStepV1} {expected localParticipant : Participant}
    (valid : validateClaimContext agreement coordinator step expected localParticipant = .ok ()) :
    coordinator.id = agreement.coordinator.id ∧ localParticipant = expected ∧
      coordinator.phase = step.expectedPhase := by
  simpa only [validateClaimContext, ensure_bind_ok_iff, ensure_ok_iff] using valid

namespace ClaimTransitionV1

variable {transition : ClaimTransitionV1}

/-- The party that records a claim: the claimant its own, the other party the one it observes. -/
def party (agreement : ZecAgreementV1) (transition : ClaimTransitionV1) : Participant :=
  if transition.owned then transition.step.claimant agreement
  else (transition.step.claimant agreement).other

theorem validateHeader_ok (valid : transition.validateHeader agreement coordinator revision = .ok ()) :
    coordinator.phase = transition.step.expectedPhase ∧
      transition.context.localParticipant = transition.party agreement ∧
      transition.predecessorRevision = revision := by
  unfold validateHeader at valid
  unfold party owned
  cases intent : transition.intentStagedRevision with
  | none =>
    simp only [intent, validateObserverHeader, validateObserverContext, bind_ok_iff, ensure_ok_iff] at valid
    obtain ⟨⟨⟩, observer, -, header, -⟩ := valid
    obtain ⟨-, role, phase⟩ := validateClaimContext_ok observer
    exact ⟨phase, by simpa using role, header⟩
  | some staged =>
    simp only [intent, validateTransitionHeader, ensure_bind_ok_iff, ensure_ok_iff] at valid
    obtain ⟨⟨own, header, -⟩, phase⟩ := valid
    exact ⟨phase, by simpa using congrArg SwapContext.localParticipant own, header⟩

variable {primitives : Primitives}

theorem observe_ok (expected : coordinator.phase = transition.step.expectedPhase)
    (recorded : transition.observe primitives agreement coordinator = .ok next) :
    next.phase = transition.step.reachedPhase ∧
      next.makerLockTransactionId = coordinator.makerLockTransactionId := by
  unfold observe at recorded
  unfold step at expected ⊢
  cases claimed : transition.evidence with
  | revealing evidence =>
    simp only [claimed, bind_ok_iff, mapError_ok_iff] at recorded
    obtain ⟨-, -, -, -, recorded⟩ := recorded
    rw [claimed] at expected
    obtain ⟨-, ⟨⟨late, -⟩, -⟩ | ⟨-, rfl⟩⟩ := observeRevealingClaim_ok recorded
    · exact absurd expected late
    · exact ⟨rfl, rfl⟩
  | followup evidence =>
    simp only [claimed, bind_ok_iff, mapError_ok_iff] at recorded
    obtain ⟨-, -, recorded⟩ := recorded
    rw [claimed] at expected
    obtain ⟨-, ⟨⟨other, -⟩, -⟩ | ⟨-, rfl⟩⟩ := observeFollowupClaim_ok recorded
    · exact absurd expected other
    · exact ⟨rfl, rfl⟩

theorem applyTo_ok (applied : transition.applyTo primitives agreement coordinator revision = .ok next) :
    coordinator.phase = transition.step.expectedPhase ∧
      next.phase = transition.step.reachedPhase ∧
      next.makerLockTransactionId = coordinator.makerLockTransactionId ∧
      transition.context.localParticipant = transition.party agreement := by
  obtain ⟨⟨⟩, header, recorded⟩ := bind_ok_iff.mp applied
  obtain ⟨phase, role, -⟩ := validateHeader_ok header
  obtain ⟨reached, makerLock⟩ := observe_ok phase recorded
  exact ⟨phase, reached, makerLock, role⟩

/-- A transition is applied by what its durable record says: the secret enters by its digest only. -/
theorem applyTo_congr {other : ClaimTransitionV1}
    (same : transition.record primitives = other.record primitives) :
    transition.applyTo primitives agreement coordinator revision =
      other.applyTo primitives agreement coordinator revision := by
  obtain ⟨context, predecessor, intent, evidence⟩ := transition
  obtain ⟨context', predecessor', intent', evidence'⟩ := other
  simp only [ClaimTransitionV1.record, ClaimTransitionRecordV1.mk.injEq] at same
  obtain ⟨rfl, rfl, rfl, same⟩ := same
  cases evidence with
  | followup evidence =>
    cases evidence' with
    | revealing => simp [ClaimTransitionEvidence.record] at same
    | followup other =>
      cases ClaimEvidenceRecord.followup.inj same
      rfl
  | revealing evidence =>
    cases evidence' with
    | followup => simp [ClaimTransitionEvidence.record] at same
    | revealing other =>
      have parts := ClaimEvidenceRecord.revealing.inj same
      simp only [LezClaimNodeSnapshotV1.record, CanonicalLezClaimSnapshotRecordV1.mk.injEq] at parts
      obtain ⟨reading, digest⟩ := parts
      have named : evidence.transactionId = other.transactionId :=
        Identifier.eq_of_text (by rw [evidence.named, other.named, reading])
      have deep : evidence.confirmations = other.confirmations := by
        simp only [RevealingClaimEvidenceV1.confirmations, reading]
      have secret : primitives.secretDigest evidence.preimage =
          primitives.secretDigest other.preimage := digest
      have checked : validatePreimage primitives agreement evidence.preimage =
          validatePreimage primitives agreement other.preimage := by
        unfold validatePreimage
        rw [secret]
      simp only [applyTo, observe, checked, RevealingClaimEvidenceV1.proof, named, deep, ClaimEvidence.new, secret]
      rfl

end ClaimTransitionV1

theorem RefundTransitionV1.applyTo_ok {transition : RefundTransitionV1}
    (applied : transition.applyTo agreement coordinator revision = .ok next) :
    transition.evidence.step.ready agreement coordinator.phase = true ∧
      phaseStage next.phase = 3 ∧ next.makerLockTransactionId = coordinator.makerLockTransactionId := by
  simp only [applyTo, RefundStepV1.validateActivePhase, ensure_bind_ok_iff] at applied
  obtain ⟨-, ready, applied⟩ := applied
  obtain ⟨⟨⟩, -, applied⟩ := bind_ok_iff.mp applied
  obtain ⟨⟨⟩, -, refunded⟩ := bind_ok_iff.mp applied
  rw [mapError_ok_iff] at refunded
  refine ⟨ready, ?_⟩
  split at refunded
  · obtain ⟨-, -, rfl⟩ := refundMakerLeg_ok refunded
    refine ⟨?_, rfl⟩
    dsimp only
    split <;> rfl
  · rcases (refundTakerLeg_ok refunded).2 with ⟨-, rfl⟩ | ⟨-, rfl⟩
    · exact ⟨rfl, rfl⟩
    · exact ⟨rfl, rfl⟩

end AtomicSwaps.Zec
