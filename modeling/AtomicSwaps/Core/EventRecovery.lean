import AtomicSwaps.Core.Outcomes

namespace AtomicSwaps.Core

open Transition SwapCoordinator

def Operation.refundEvent : Operation → Option ChainEventProof
  | .observeTakerRefundForMakerRecovery evidence => some evidence
  | _ => none

def lastRefundEvent (history : List Event) : Option ChainEventProof :=
  (history.filterMap fun event => if event.accepted then event.operation.refundEvent else none).getLast?

/-- Once an event is pinned, the phase is the verdict of the latest evidence until the maker recovers. -/
structure EventTracked (required : Nat) (history : List Event) (coordinator : SwapCoordinator) : Prop where
  trigger : coordinator.recoverySchedule.makerTrigger = .canonicalTakerRefund .lez required
  pinned : coordinator.phase = .makerRecoveryAvailable → coordinator.takerRefundEventTransactionId.isSome
  verdict : ∀ id, coordinator.takerRefundEventTransactionId = some id → coordinator.phase ≠ .refunded →
    ∃ evidence, lastRefundEvent history = some evidence ∧ evidence.chain = .lez ∧ evidence.proof.transactionId = id ∧
      coordinator.phase =
        if required ≤ evidence.proof.confirmations then .makerRecoveryAvailable else .takerLegRefunded

section Tracking

variable {history : List Event} {coordinator next : SwapCoordinator} {operation : Operation} {required : Nat}
  {phase : Phase}

theorem lastRefundEvent_other {event : Event}
    (other : (if event.accepted then event.operation.refundEvent else none) = none) :
    lastRefundEvent (history ++ [event]) = lastRefundEvent history := by
  simp [lastRefundEvent, List.filterMap_append, other]

theorem lastRefundEvent_own {evidence : ChainEventProof} :
    lastRefundEvent (history ++ [⟨.observeTakerRefundForMakerRecovery evidence, true⟩]) = some evidence := by
  simp [lastRefundEvent, List.filterMap_append, Operation.refundEvent]

theorem refundMakerLeg_refused {chain : Chain} {observed : ChainPosition}
    (trigger : coordinator.recoverySchedule.makerTrigger = .canonicalTakerRefund chain required) :
    coordinator.refundMakerLeg observed ≠ .ok next := by
  intro accepted
  obtain ⟨-, reached, -⟩ := refundMakerLeg_ok accepted
  rw [RecoverySchedule.makerDeadlineReached, trigger] at reached
  cases reached

theorem takerLockPhase_available (hasEvidence confirmed : Bool)
    (available : takerLockPhase hasEvidence phase confirmed = .makerRecoveryAvailable) :
    phase = .makerRecoveryAvailable := by
  cases phase <;> cases confirmed <;> cases hasEvidence <;> first
    | rfl
    | cases available

theorem makerLockPhase_available (hasEvidence confirmed : Bool)
    (available : makerLockPhase hasEvidence phase confirmed = .makerRecoveryAvailable) :
    phase = .makerRecoveryAvailable := by
  cases phase <;> cases confirmed <;> cases hasEvidence <;> first
    | rfl
    | cases available

theorem perform_pinned (tracked : EventTracked required history coordinator)
    (accepted : coordinator.perform operation = .ok next) (other : operation.refundEvent = none) :
    next.takerRefundEventTransactionId = coordinator.takerRefundEventTransactionId ∧
      (next.phase = .makerRecoveryAvailable → coordinator.phase = .makerRecoveryAvailable) ∧
      (next.takerRefundEventTransactionId.isSome → next.phase = .refunded ∨ next.phase = coordinator.phase) := by
  have early : coordinator.takerRefundEventTransactionId.isSome →
      coordinator.phase ∈ [.refunded, .makerRecoveryAvailable, .takerLegRefunded] := by
    intro pinned
    obtain ⟨id, held⟩ := Option.isSome_iff_exists.mp pinned
    by_cases refunded : coordinator.phase = .refunded
    · simp [refunded]
    · obtain ⟨evidence, -, -, -, phase⟩ := tracked.verdict id held refunded
      rw [phase]
      split <;> simp
  have same : next.takerRefundEventTransactionId = coordinator.takerRefundEventTransactionId := by
    cases perform_accepts accepted <;> first
      | rfl
      | cases other
  refine ⟨same, ?_, fun pinned => ?_⟩
  · cases perform_accepts accepted with
    | takerProof => exact takerLockPhase_available _ _
    | makerProof => exact makerLockPhase_available _ _
    | makerLockPinned =>
      dsimp only
      split <;> exact nofun
    | recoveryOpened | recoveryWithdrawn => cases other
    | takerProofLate | takerFlagCleared | makerProofDropped | makerFlagCleared | claimRevealedAgain
    | claimFollowedAgain | recoveryOpenedAgain | makerRecoveredAgain => exact id
    | _ => exact nofun
  · have late := early (same ▸ pinned)
    cases perform_accepts accepted with
    | takerProof =>
      right
      dsimp only
      revert late
      cases coordinator.phase <;> simp [takerLockPhase]
    | takerLockDropped phase | takerLockReorged phase | makerLockPinned phase | makerProof phase
    | makerLockDropped phase
    | makerLockReorged phase | claimRevealed phase | claimFollowed phase | makerLegRefunded phase
    | takerLegRefunded phase =>
      revert phase late
      cases coordinator.phase <;> simp
    | recoveryOpened | recoveryWithdrawn => cases other
    | makerLegRefundedLast | makerRecovered | takerLegRefundedAlone | takerLegRefundedLast => exact .inl rfl
    | _ => exact .inr rfl

theorem eventTracked_accepted (tracked : EventTracked required history coordinator)
    (accepted : coordinator.perform operation = .ok next) :
    EventTracked required (history ++ [⟨operation, true⟩]) next := by
  have trigger : next.recoverySchedule.makerTrigger = .canonicalTakerRefund .lez required :=
    (congrArg _ (perform_schedule accepted)).trans tracked.trigger
  cases event : operation.refundEvent with
  | none =>
    obtain ⟨same, available, phase⟩ := perform_pinned tracked accepted event
    refine ⟨trigger, fun opened => same ▸ tracked.pinned (available opened), fun id pinned live => ?_⟩
    have kept : next.phase = coordinator.phase := (phase (by rw [pinned]; rfl)).resolve_left live
    rw [lastRefundEvent_other (by simpa using event), kept]
    exact tracked.verdict id (same ▸ pinned) (kept ▸ live)
  | some evidence =>
    obtain rfl : operation = .observeTakerRefundForMakerRecovery evidence := by
      cases operation <;> cases event
      rfl
    obtain ⟨depth, again, named, moved⟩ := observeTakerRefundForMakerRecovery_ok accepted
    obtain ⟨onChain, rfl⟩ : Chain.lez = evidence.chain ∧ required = depth := by
      simpa using tracked.trigger.symm.trans again
    have latest : lastRefundEvent (history ++ [⟨.observeTakerRefundForMakerRecovery evidence, true⟩]) =
      some evidence :=
      lastRefundEvent_own
    obtain ⟨short, available, rfl⟩ | ⟨deep, ⟨phase, rfl⟩ | ⟨-, rfl⟩⟩ := moved
    · have held := named (tracked.pinned available)
      refine ⟨trigger, nofun, fun id pinned _ => ⟨evidence, latest, onChain.symm, ?_, ?_⟩⟩
      · exact Option.some.inj (held.symm.trans pinned)
      · rw [if_neg (Nat.not_le_of_lt short)]
    · refine ⟨trigger, tracked.pinned, fun id pinned live => ⟨evidence, latest, onChain.symm, ?_, ?_⟩⟩
      · exact Option.some.inj ((named (by rw [pinned]; rfl)).symm.trans pinned)
      · rw [if_pos deep]
        exact phase.resolve_right live
    · refine ⟨trigger, fun _ => rfl, fun id pinned _ => ⟨evidence, latest, onChain.symm, Option.some.inj pinned, ?_⟩⟩
      rw [if_pos deep]

theorem eventTracked_step (history : List Event) (coordinator : SwapCoordinator) (event : Event)
    (next : SwapCoordinator) (tracked : EventTracked required history coordinator)
    (step : Step coordinator event next) : EventTracked required (history ++ [event]) next := by
  cases step with
  | accepted performed => exact eventTracked_accepted tracked performed
  | refused _ =>
    refine ⟨tracked.trigger, tracked.pinned, ?_⟩
    rw [lastRefundEvent_other (by simp)]
    exact tracked.verdict

theorem xmrLezFirst_trigger {takerRefund : ChainPosition} {schedule : RecoverySchedule}
    (derived : RecoverySchedule.xmrLezFirst takerRefund required = .ok schedule) :
    schedule.makerTrigger = .canonicalTakerRefund .lez required := by
  by_cases onLez : takerRefund.chain = .lez <;> by_cases zero : required = 0 <;>
    simp [RecoverySchedule.xmrLezFirst, onLez, zero, bind, Except.bind, pure, Except.pure] at derived
  rw [← derived]

end Tracking

/-- The maker recovers only on the latest accepted word about the taker's refund; an event that lost
    depth takes the authority back, and the same event at its depth restores it. -/
theorem event_recovery_follows_latest_evidence (takerRefund : ChainPosition) (required : Nat)
    (schedule : RecoverySchedule) (derived : RecoverySchedule.xmrLezFirst takerRefund required = .ok schedule)
    (start : SwapCoordinator) (constructed : Constructed start) (scheduled : start.recoverySchedule = schedule)
    (history : List Event) (coordinator : SwapCoordinator) (run : Run Step start history coordinator) :
    (∀ proof next, coordinator.observeMakerRecovery proof = .ok next → next ≠ coordinator →
      TakerLegRecovered history ∧ ∃ evidence, lastRefundEvent history = some evidence ∧ evidence.chain = .lez ∧
        coordinator.takerRefundEventTransactionId = some evidence.proof.transactionId ∧
        required ≤ evidence.proof.confirmations) ∧
    (∀ evidence, evidence.chain = .lez →
      coordinator.takerRefundEventTransactionId = some evidence.proof.transactionId →
      (coordinator.phase = .makerRecoveryAvailable → evidence.proof.confirmations < required →
        coordinator.observeTakerRefundForMakerRecovery evidence =
          .ok { coordinator with phase := .takerLegRefunded }) ∧
      (coordinator.phase = .takerLegRefunded → required ≤ evidence.proof.confirmations →
        coordinator.observeTakerRefundForMakerRecovery evidence =
          .ok { coordinator with phase := .makerRecoveryAvailable })) ∧
    (∀ id, coordinator.takerRefundEventTransactionId = some id → coordinator.phase ≠ .refunded →
      ∃ evidence, lastRefundEvent history = some evidence ∧ evidence.chain = .lez ∧
        evidence.proof.transactionId = id ∧
        coordinator.phase =
          if required ≤ evidence.proof.confirmations then .makerRecoveryAvailable else .takerLegRefunded) ∧
    (coordinator.phase = .takerLegRefunded → ∀ proof next, coordinator.observeMakerRecovery proof ≠ .ok next) ∧
    ∀ observed next, coordinator.refundMakerLeg observed ≠ .ok next := by
  have fresh : start.phase = .offered ∧ start.takerRefundEventTransactionId = none := by
    cases constructed <;> exact ⟨rfl, rfl⟩
  have initial : EventTracked required [] start :=
    ⟨scheduled ▸ xmrLezFirst_trigger derived, by simp [fresh.1], by simp [fresh.2]⟩
  have tracked : EventTracked required history coordinator := run.history_invariant initial eventTracked_step
  have outcome : OutcomeTracked start.recoverySchedule history coordinator :=
    run.history_invariant constructed.outcomeTracked outcomeTracked_step
  refine ⟨?_, ?_, tracked.verdict, ?_, fun observed next => refundMakerLeg_refused tracked.trigger⟩
  · intro proof next accepted newly
    obtain ⟨-, rfl⟩ | ⟨available, -⟩ := observeMakerRecovery_ok accepted
    · exact absurd rfl newly
    · have legs := outcome.legs
      simp only [LegsRecovered, available] at legs
      obtain ⟨id, pinned⟩ := Option.isSome_iff_exists.mp (tracked.pinned available)
      obtain ⟨evidence, latest, onChain, rfl, phase⟩ := tracked.verdict id pinned (by simp [available])
      refine ⟨legs, evidence, latest, onChain, pinned, Decidable.by_contra fun short => ?_⟩
      rw [if_neg short, available] at phase
      cases phase
  · intro evidence onChain pinned
    constructor
    · intro available short
      simp [observeTakerRefundForMakerRecovery, tracked.trigger, onChain, pinned, short, available]
    · intro refunded deep
      simp [observeTakerRefundForMakerRecovery, tracked.trigger, onChain, pinned,
        Nat.not_lt.mpr deep, refunded]
  · intro refunded proof next accepted
    obtain ⟨phase, -⟩ | ⟨phase, -⟩ := observeMakerRecovery_ok accepted <;> simp [refunded] at phase

def sampleXmr : SwapCoordinator :=
  .newWithConfirmationPolicies ⟨"xmr-swap", by decide⟩ .monero .takerSellsLez ⟨1, Nat.one_pos⟩ ⟨1, Nat.one_pos⟩
    ⟨.canonicalTakerRefund .lez 2, ⟨.lez, .timestamp, 5⟩, none⟩

def sampleEvent : List Operation :=
  [.observeTakerLock (sampleProof 1), .observeMakerLock (sampleProof 1), .refundTakerLeg ⟨.lez, .timestamp, 5⟩,
    .observeTakerRefundForMakerRecovery ⟨.lez, sampleProof 2⟩]

theorem event_recovery_follows_latest_evidence_sample :
    lastRefundEvent (replay advance sampleXmr sampleEvent).2 = some ⟨.lez, sampleProof 2⟩ ∧
      TakerLegRecovered (replay advance sampleXmr sampleEvent).2 :=
  ⟨rfl, ((event_recovery_follows_latest_evidence ⟨.lez, .timestamp, 5⟩ 2 _ rfl sampleXmr
    (.newWithConfirmationPolicies ..) rfl _ _ (run_replay advance_step sampleXmr sampleEvent)).1
    (sampleProof 1) _ rfl (by decide)).1⟩

end AtomicSwaps.Core
