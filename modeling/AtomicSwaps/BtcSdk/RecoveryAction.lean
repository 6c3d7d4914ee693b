import AtomicSwaps.BtcSdk.OwnPlan
import AtomicSwaps.BtcSdk.Records

namespace AtomicSwaps.BtcSdk

open AtomicSwaps.Core Fallible Transition RecoverySchedule
open Store.MakerLock (ExactPublicEffectPlanV1)

section Projection

inductive BtcRecoveryWaitReasonV1
  | noRecoverableLock
  | awaitRefundDeadline
  | awaitEarlierRefund
  | counterpartyRefund (owner : Participant) (chain : Chain)
deriving DecidableEq

inductive BtcRecoveryActionV1
  | wait (reason : BtcRecoveryWaitReasonV1)
  | submitBitcoinRefund (plan : ExactPublicEffectPlanV1)
  | submitLezRefund (plan : ExactPublicEffectPlanV1)
  | recovered
deriving DecidableEq

inductive BtcRecoveryError
  | sdk (error : BtcSdkError)
  | recoveryOrderViolation
deriving DecidableEq

def BtcPreparedRecoveryEffectsV1.planForChain (effects : BtcPreparedRecoveryEffectsV1) :
    Chain → ExactPublicEffectPlanV1
  | .bitcoin => effects.bitcoin.plan
  | _ => effects.lez.plan

/-- The chain that a participant of the agreement funds. -/
def BtcAgreementV1.leg (agreement : BtcAgreementV1) (participant : Participant) : Chain :=
  agreement.coordinator.fundedChain participant

def ownerForChain (agreement : BtcAgreementV1) (chain : Chain) : Participant :=
  if agreement.leg .maker = chain then .maker else .taker

def observedClock (state : BtcCanonicalRecoveryStateV1) : Chain → Nat
  | .bitcoin => state.bitcoinBestHeight
  | _ => state.lezUnixSeconds

def refundDeadlineReached (state : BtcCanonicalRecoveryStateV1) (agreement : BtcAgreementV1) (chain : Chain) :
    Result Bool := do
  let deadline ← required (agreement.recoverySchedule.deadlineForChain chain) .recoveryPlanMismatch
  return decide (deadline.value ≤ observedClock state chain)

def laterOwnerDue (sdk : BtcPairSdk) (agreement : BtcAgreementV1) (state : BtcCanonicalRecoveryStateV1)
    (laterChain : Chain) : Result Bool :=
  if sdk.localParticipant = ownerForChain agreement laterChain then refundDeadlineReached state agreement laterChain
  else .ok false

variable {lib : Libraries}

def refundAction (sdk : BtcPairSdk) (prepared : BtcPreparedProtocolV1 lib) (chain : Chain) :
    Result BtcRecoveryActionV1 :=
  let owner := ownerForChain prepared.agreement chain
  if sdk.localParticipant ≠ owner then .ok (.wait (.counterpartyRefund owner chain))
  else do
    let effects ← prepared.requiredRecoveryEffects
    return match chain with
      | .bitcoin => .submitBitcoinRefund (effects.planForChain chain)
      | _ => .submitLezRefund (effects.planForChain chain)

def recoveryAction (sdk : BtcPairSdk) (prepared : BtcPreparedProtocolV1 lib) (state : BtcCanonicalRecoveryStateV1) :
    Except BtcRecoveryError BtcRecoveryActionV1 := do
  (validateRecoveryState prepared state).mapError .sdk
  let agreement := prepared.agreement
  let earlierChain := agreement.leg .maker
  let laterChain := agreement.leg .taker
  match recoveryStatus state earlierChain, recoveryStatus state laterChain with
  | .absent, .absent => return .wait .noRecoverableLock
  | .absent, .locked | .refunded, .locked =>
    if ← (refundDeadlineReached state agreement laterChain).mapError .sdk then
      (refundAction sdk prepared laterChain).mapError .sdk
    else return .wait .awaitRefundDeadline
  | .absent, .refunded | .refunded, .refunded => return .recovered
  | .locked, .locked =>
    if ← (refundDeadlineReached state agreement earlierChain).mapError .sdk then
      if ← (laterOwnerDue sdk agreement state laterChain).mapError .sdk then return .wait .awaitEarlierRefund
      else (refundAction sdk prepared earlierChain).mapError .sdk
    else return .wait .awaitRefundDeadline
  | .locked, .refunded => throw .recoveryOrderViolation
  | .refunded, .absent | .locked, .absent => throw (.sdk .recoveryStateContradiction)

def BtcRecoveryActionV1.submission : BtcRecoveryActionV1 → Option (Chain × ExactPublicEffectPlanV1)
  | .submitBitcoinRefund plan => some (.bitcoin, plan)
  | .submitLezRefund plan => some (.lez, plan)
  | _ => none

end Projection

section Clocks

variable {agreement : BtcAgreementV1} {state later : BtcCanonicalRecoveryStateV1} {participant : Participant}

def clockPosition : Chain → Nat → ChainPosition
  | .bitcoin, value => ⟨.bitcoin, .blockHeight, value⟩
  | chain, value => ⟨chain, .timestamp, value⟩

/-- Each leg has its deadline on the clock of its own chain. -/
def Clocked (agreement : BtcAgreementV1) : Prop :=
  ∃ makerValue takerValue,
    agreement.recoverySchedule.makerTrigger = .deadline (clockPosition (agreement.leg .maker) makerValue) ∧
      agreement.recoverySchedule.takerRefund = clockPosition (agreement.leg .taker) takerValue

theorem agreement_legs (agreement : BtcAgreementV1) :
    (agreement.direction = .takerSellsForeign ∧ agreement.leg .maker = .lez ∧ agreement.leg .taker = .bitcoin) ∨
    (agreement.direction = .takerSellsLez ∧ agreement.leg .maker = .bitcoin ∧ agreement.leg .taker = .lez) := by
  unfold BtcAgreementV1.leg BtcAgreementV1.coordinator
  cases direction : agreement.direction
  · exact .inl ⟨rfl, rfl, rfl⟩
  · exact .inr ⟨rfl, rfl, rfl⟩

/-- The schedule that validation rebuilds from a signed body is of this kind. -/
theorem clocked_of_reconstructRecovery {body : Btc.BtcAgreementBodyV1}
    (direction : body.direction = agreement.direction)
    (recovered : Btc.reconstructRecovery body = .ok agreement.recoverySchedule) : Clocked agreement := by
  simp only [Btc.reconstructRecovery, checked_ok, mapError_ok_iff, direction] at recovered
  obtain ⟨_, safety, _, _, scheduled⟩ := recovered
  rcases agreement_legs agreement with ⟨sells, maker, taker⟩ | ⟨sells, maker, taker⟩ <;>
    simp only [sells, new, fundedChains, Chain.fromPair, reduceCtorEq, if_false, ne_eq,
      not_true] at scheduled <;>
    split at scheduled
  case inl.isTrue | inr.isTrue => cases scheduled
  all_goals
    rw [Clocked, maker, taker, ← Except.ok.inj scheduled]
    exact ⟨_, _, rfl, rfl⟩

theorem ownerForChain_leg (agreement : BtcAgreementV1) (participant : Participant) :
    ownerForChain agreement (agreement.leg participant) = participant := by
  unfold ownerForChain
  rcases agreement_legs agreement with ⟨_, maker, taker⟩ | ⟨_, maker, taker⟩ <;>
    cases participant <;> simp [maker, taker]

/-- The core's own test of the deadline of one leg. -/
def legDue (agreement : BtcAgreementV1) (state : BtcCanonicalRecoveryStateV1) : Participant → Except Error Bool
  | .maker => agreement.recoverySchedule.makerDeadlineReached (recoveryPosition state (agreement.leg .maker))
  | .taker => agreement.recoverySchedule.takerRefundReached (recoveryPosition state (agreement.leg .taker))

theorem deadlineReached_clock (chain : Chain) (deadline observed : Nat) :
    deadlineReached (clockPosition chain deadline) (clockPosition chain observed) =
      .ok (decide (deadline ≤ observed)) := by
  cases chain <;> rfl

theorem recoveryPosition_leg (state : BtcCanonicalRecoveryStateV1) (agreement : BtcAgreementV1)
    (participant : Participant) :
    recoveryPosition state (agreement.leg participant) =
      clockPosition (agreement.leg participant) (observedClock state (agreement.leg participant)) := by
  rcases agreement_legs agreement with ⟨_, maker, taker⟩ | ⟨_, maker, taker⟩ <;> cases participant <;>
    simp only [maker, taker] <;> rfl

theorem Clocked.deadline (clocked : Clocked agreement) (participant : Participant) :
    ∃ deadline, agreement.recoverySchedule.deadlineForChain (agreement.leg participant) = some deadline ∧
      ∀ state, legDue agreement state participant =
        .ok (decide (deadline.value ≤ observedClock state (agreement.leg participant))) := by
  obtain ⟨makerValue, takerValue, makerLeg, takerLeg⟩ := clocked
  have makerFound : agreement.recoverySchedule.deadlineForChain (agreement.leg .maker) =
      some (clockPosition (agreement.leg .maker) makerValue) := by
    rcases agreement_legs agreement with ⟨_, maker, _⟩ | ⟨_, maker, _⟩ <;>
      simp [deadlineForChain, makerLeg, maker, clockPosition]
  have takerFound : agreement.recoverySchedule.deadlineForChain (agreement.leg .taker) =
      some (clockPosition (agreement.leg .taker) takerValue) := by
    rcases agreement_legs agreement with ⟨_, maker, taker⟩ | ⟨_, maker, taker⟩ <;>
      simp [deadlineForChain, makerLeg, takerLeg, maker, taker, clockPosition]
  have value (chain : Chain) (value : Nat) : (clockPosition chain value).value = value := by cases chain <;> rfl
  cases participant with
  | maker =>
    refine ⟨_, makerFound, fun state => ?_⟩
    rw [legDue, makerDeadlineReached, makerLeg, recoveryPosition_leg, value]
    exact deadlineReached_clock ..
  | taker =>
    refine ⟨_, takerFound, fun state => ?_⟩
    rw [legDue, takerRefundReached, takerLeg, recoveryPosition_leg, value]
    exact deadlineReached_clock ..

theorem Clocked.reached (clocked : Clocked agreement)
    (reached : refundDeadlineReached state agreement (agreement.leg participant) = .ok true) :
    legDue agreement state participant = .ok true := by
  obtain ⟨deadline, found, tests⟩ := clocked.deadline participant
  rw [refundDeadlineReached, found, required, ok_bind, pure_ok] at reached
  rw [tests, reached]

theorem Clocked.stays (clocked : Clocked agreement) (due : legDue agreement state participant = .ok true)
    (forward : ∀ chain, observedClock state chain ≤ observedClock later chain) :
    legDue agreement later participant = .ok true := by
  obtain ⟨deadline, _, tests⟩ := clocked.deadline participant
  rw [tests, Except.ok.injEq, decide_eq_true_eq] at due ⊢
  exact Nat.le_trans due (forward _)

end Clocks

section Submitting

variable {lib : Libraries} {sdk : BtcPairSdk} {prepared : BtcPreparedProtocolV1 lib}
variable {state : BtcCanonicalRecoveryStateV1} {action : BtcRecoveryActionV1} {chain : Chain}
variable {plan : ExactPublicEffectPlanV1} {participant : Participant}

def legStatus (prepared : BtcPreparedProtocolV1 lib) (state : BtcCanonicalRecoveryStateV1)
    (participant : Participant) : CanonicalRecoveryStatusV1 :=
  recoveryStatus state (prepared.agreement.leg participant)

structure SafeSubmission (sdk : BtcPairSdk) (prepared : BtcPreparedProtocolV1 lib)
    (state : BtcCanonicalRecoveryStateV1)
    (chain : Chain) (plan : ExactPublicEffectPlanV1) : Prop where
  owned : prepared.agreement.leg sdk.localParticipant = chain
  planned : ∃ effects, prepared.terms.recoveryEffects = some effects ∧ plan = effects.planForChain chain
  due : legDue prepared.agreement state sdk.localParticipant = .ok true
  locked : legStatus prepared state sdk.localParticipant = .locked
  ordered : sdk.localParticipant = .taker → legStatus prepared state .maker ≠ .locked

theorem refundAction_submits (acts : refundAction sdk prepared (prepared.agreement.leg participant) = .ok action)
    (submits : action.submission = some (chain, plan)) :
    sdk.localParticipant = participant ∧ prepared.agreement.leg participant = chain ∧
      ∃ effects, prepared.terms.recoveryEffects = some effects ∧ plan = effects.planForChain chain := by
  unfold refundAction at acts
  dsimp only at acts
  rw [ownerForChain_leg] at acts
  split at acts
  · cases acts
    cases submits
  · rename_i owner
    simp only [BtcPreparedProtocolV1.requiredRecoveryEffects, bind_ok_iff, required_ok_iff, pure_ok] at acts
    obtain ⟨effects, held, rfl⟩ := acts
    refine ⟨Decidable.not_not.mp owner, ?_⟩
    rcases agreement_legs prepared.agreement with ⟨_, maker, taker⟩ | ⟨_, maker, taker⟩ <;> cases participant <;>
      simp only [maker, taker] at submits ⊢ <;> cases submits <;> exact ⟨rfl, effects, held, rfl⟩

theorem SafeSubmission.of_refund (clocked : Clocked prepared.agreement)
    (locked : legStatus prepared state participant = .locked)
    (ordered : participant = .taker → legStatus prepared state .maker ≠ .locked)
    (reached : refundDeadlineReached state prepared.agreement (prepared.agreement.leg participant) = .ok true)
    (acts : refundAction sdk prepared (prepared.agreement.leg participant) = .ok action)
    (submits : action.submission = some (chain, plan)) : SafeSubmission sdk prepared state chain plan := by
  obtain ⟨rfl, owned, planned⟩ := refundAction_submits acts submits
  exact ⟨owned, planned, clocked.reached reached, locked, ordered⟩

theorem recoveryAction_submits (clocked : Clocked prepared.agreement)
    (acts : recoveryAction sdk prepared state = .ok action) (submits : action.submission = some (chain, plan)) :
    validateRecoveryState prepared state = .ok () ∧ SafeSubmission sdk prepared state chain plan := by
  simp only [recoveryAction, bind_ok_iff, mapError_ok_iff, exists_unit] at acts
  obtain ⟨valid, acts⟩ := acts
  refine ⟨valid, ?_⟩
  split at acts
  case h_2 maker taker | h_3 maker taker =>
    simp only [bind_ok_iff, mapError_ok_iff] at acts
    obtain ⟨reached, due, acts⟩ := acts
    cases reached with
    | false =>
      cases acts
      cases submits
    | true =>
      exact .of_refund clocked taker (fun _ => by simp [legStatus, maker]) due (mapError_ok_iff.mp acts) submits
  case h_6 maker taker =>
    simp only [bind_ok_iff, mapError_ok_iff] at acts
    obtain ⟨reached, due, acts⟩ := acts
    cases reached with
    | false =>
      cases acts
      cases submits
    | true =>
      simp only [if_true, bind_ok_iff] at acts
      obtain ⟨waits, _, acts⟩ := acts
      cases waits with
      | true =>
        cases acts
        cases submits
      | false => exact .of_refund clocked maker (by rintro ⟨⟩) due (mapError_ok_iff.mp acts) submits
  all_goals
    cases acts
    try cases submits

end Submitting

section Replaying

variable {lib : Libraries} {sdk : BtcPairSdk} {prepared : BtcPreparedProtocolV1 lib} {participant : Participant}
variable {state later : BtcCanonicalRecoveryStateV1} {effects : BtcPreparedRecoveryEffectsV1}
variable {chain : Chain} {height seconds confirmations : Nat}

/-- The state once the prepared refund of one leg is canonical, at the clocks and the Bitcoin depth
    of the later observation. -/
def BtcCanonicalRecoveryStateV1.refunded (state : BtcCanonicalRecoveryStateV1)
    (effects : BtcPreparedRecoveryEffectsV1)
    (chain : Chain) (height seconds confirmations : Nat) : BtcCanonicalRecoveryStateV1 :=
  let later := { state with
    bitcoinBestHeight := height, lezUnixSeconds := seconds, bitcoin := { state.bitcoin with confirmations } }
  match chain with
  | .bitcoin => { later with bitcoin := { later.bitcoin with
      status := .refunded
      refundTransactionId := some effects.bitcoin.transactionId
      fundingOutputUnspent := false } }
  | _ => { later with lez := { later.lez with
      status := .refunded
      refundPublicId := some effects.lez.expectedPublicId
      custodyUnspent := false } }

theorem validateBitcoin_depth {leg : BitcoinCanonicalRecoveryStateV1}
    (valid : validateBitcoinRecoveryState prepared leg = .ok ())
    (depth : min prepared.agreement.bitcoinChainPolicy.requiredConfirmations leg.confirmations ≤ confirmations) :
    validateBitcoinRecoveryState prepared { leg with confirmations } = .ok () := by
  by_cases absent : leg.status = .absent
  · exact if_pos absent
  · simp only [validateBitcoinRecoveryState, if_neg absent, checked_ok] at valid ⊢
    obtain ⟨genesis, funding, deep, status⟩ := valid
    rw [Nat.min_eq_left deep] at depth
    exact ⟨genesis, funding, depth, status⟩

theorem refunded_valid (held : prepared.terms.recoveryEffects = some effects)
    (valid : validateRecoveryState prepared state = .ok ()) (locked : recoveryStatus state chain = .locked)
    (depth : min prepared.agreement.bitcoinChainPolicy.requiredConfirmations state.bitcoin.confirmations ≤
      confirmations) :
    validateRecoveryState prepared (state.refunded effects chain height seconds confirmations) = .ok () := by
  simp only [validateRecoveryState, checked_ok] at valid ⊢
  obtain ⟨signed, bitcoin, lez⟩ := valid
  replace bitcoin := validateBitcoin_depth bitcoin depth
  cases chain with
  | bitcoin =>
    refine ⟨signed, ?_, lez⟩
    have status : state.bitcoin.status = .locked := locked
    simp only [validateBitcoinRecoveryState, status, reduceCtorEq, if_false, checked_ok] at bitcoin
    obtain ⟨genesis, funding, deep, _⟩ := bitcoin
    simp [validateBitcoinRecoveryState, BtcCanonicalRecoveryStateV1.refunded, checked_ok, genesis, funding, deep,
      BtcPreparedProtocolV1.requiredRecoveryEffects, held]
  | _ =>
    refine ⟨signed, bitcoin, ?_⟩
    have status : state.lez.status = .locked := locked
    simp only [validateLezRecoveryState, status, reduceCtorEq, if_false, checked_ok] at lez
    obtain ⟨genesis, finalized, planned, _⟩ := lez
    simp [validateLezRecoveryState, BtcCanonicalRecoveryStateV1.refunded, checked_ok, genesis, finalized, planned,
      BtcPreparedProtocolV1.requiredRecoveryEffects, held]

theorem refunded_status (participant other : Participant) :
    legStatus prepared
      (state.refunded effects (prepared.agreement.leg participant) height seconds confirmations) other =
      if other = participant then .refunded else legStatus prepared state other := by
  unfold legStatus
  rcases agreement_legs prepared.agreement with ⟨_, maker, taker⟩ | ⟨_, maker, taker⟩ <;>
    cases participant <;> cases other <;> simp only [maker, taker] <;> rfl

theorem refunded_forward (laterHeight : state.bitcoinBestHeight ≤ height)
    (laterSeconds : state.lezUnixSeconds ≤ seconds)
    (clock : Chain) :
    observedClock state clock ≤ observedClock (state.refunded effects chain height seconds confirmations) clock := by
  cases chain <;> cases clock <;> assumption

theorem path_schedule {agreement : BtcAgreementV1} {coordinator : SwapCoordinator} {entries : List Entry}
    (path : Run Advances agreement.coordinator entries coordinator) :
    coordinator.recoverySchedule = agreement.recoverySchedule := by
  induction path with
  | nil =>
    unfold BtcAgreementV1.coordinator
    split <;> rfl
  | snoc _ advances before => cases advances <;> exact before

/-- The statuses of the maker's and the taker's lock that a phase with something to recover stands for. -/
def lockStatuses : Phase → Option (CanonicalRecoveryStatusV1 × CanonicalRecoveryStatusV1)
  | .takerLockConfirmed => some (.absent, .locked)
  | .bothLegsLocked => some (.locked, .locked)
  | .makerLegRefunded => some (.refunded, .locked)
  | _ => none

def refundedPhase : Participant → Phase
  | .maker => .makerLegRefunded
  | .taker => .refunded

theorem lockStatuses_refund {phase : Phase} {maker taker : CanonicalRecoveryStatusV1}
    (matched : lockStatuses phase = some (maker, taker)) :
    taker = .locked ∧ (phase = .takerLockConfirmed ∧ maker = .absent ∨ phase = .bothLegsLocked ∧ maker = .locked ∨
      phase = .makerLegRefunded ∧ maker = .refunded) := by
  cases phase <;> cases matched <;> simp

variable {active : ActiveBtcSwap lib}

/-- What the refund of one leg does to the coordinator, whichever leg it is. -/
theorem applyRecoveryTransition_due (follows : Follows active) (prepares : Prepares active prepared)
    (matched : lockStatuses active.coordinator.phase =
      some (legStatus prepared state .maker, legStatus prepared state .taker))
    (locked : legStatus prepared state participant = .locked)
    (ordered : participant = .taker → legStatus prepared state .maker ≠ .locked)
    (valid : validateRecoveryState prepared later = .ok ())
    (due : legDue prepared.agreement later participant = .ok true)
    (refunds : ∀ other, legStatus prepared later other =
      if other = participant then .refunded else legStatus prepared state other) :
    applyRecoveryTransition active.coordinator prepared later =
        .ok { active.coordinator with phase := refundedPhase participant } ∧
      (active.coordinator.phase, entryOf active.agreement (.recoveryObserved later : BtcLifecycleTransitionV1 lib)) ∈
        awaited := by
  have chains (other : Participant) : active.coordinator.fundedChain other = prepared.agreement.leg other := by
    rw [fundedChain_of_sameTerms follows.sameTerms, prepares.agreement]
    rfl
  have schedule : prepared.agreement.recoverySchedule = active.coordinator.recoverySchedule := by
    rw [path_schedule follows.path, prepares.agreement]
  unfold legStatus at matched locked ordered refunds
  simp only [applyRecoveryTransition, valid, ok_bind, entryOf, ← fundedChain_of_sameTerms follows.sameTerms, chains,
    refunds, awaited]
  obtain ⟨takerLocked, phases⟩ := lockStatuses_refund matched
  cases participant with
  | maker =>
    rw [legDue, schedule] at due
    rcases phases with ⟨_, maker⟩ | ⟨phase, _⟩ | ⟨_, maker⟩
    · cases locked.symm.trans maker
    · simp [phase, takerLocked, SwapCoordinator.refundMakerLeg, due, mapError_ok, refundedPhase]
    · cases locked.symm.trans maker
  | taker =>
    rw [legDue, schedule] at due
    rcases phases with ⟨phase, maker⟩ | ⟨_, maker⟩ | ⟨phase, maker⟩
    · simp [phase, maker, SwapCoordinator.refundTakerLeg, due, mapError_ok, refundedPhase]
    · cases ordered rfl maker
    · simp [phase, maker, SwapCoordinator.refundTakerLeg, due, mapError_ok, refundedPhase]

/-- Under the schedule that validation rebuilds from the signed body, the projection submits a refund only
    where it is the caller's, prepared, due and in order; and the state that this refund leads to is the next
    one the lifecycle accepts. -/
theorem recovery_action_safe_and_replayed (sdk : BtcPairSdk) (prepared : BtcPreparedProtocolV1 lib)
    (state : BtcCanonicalRecoveryStateV1) (action : BtcRecoveryActionV1) (chain : Chain)
    (plan : ExactPublicEffectPlanV1)
    (body : Btc.BtcAgreementBodyV1) (direction : body.direction = prepared.agreement.direction)
    (recovered : Btc.reconstructRecovery body = .ok prepared.agreement.recoverySchedule)
    (acts : recoveryAction sdk prepared state = .ok action) (submits : action.submission = some (chain, plan)) :
    SafeSubmission sdk prepared state chain plan ∧
    ∀ (host : BtcPairSdk) (accepted : AcceptedBtcAgreementV1 lib) (start active : ActiveBtcSwap lib)
      (history : List (BtcLifecycleTransitionV1 lib)), host.activatePrepared accepted prepared = .ok start →
      Run Applies start history active →
      lockStatuses active.coordinator.phase =
        some (legStatus prepared state .maker, legStatus prepared state .taker) →
      ∀ effects height seconds confirmations, prepared.terms.recoveryEffects = some effects →
        state.bitcoinBestHeight ≤ height → state.lezUnixSeconds ≤ seconds →
        min prepared.agreement.bitcoinChainPolicy.requiredConfirmations state.bitcoin.confirmations ≤ confirmations →
        ∃ next, active.applyTransition
            (.recoveryObserved (state.refunded effects chain height seconds confirmations)) =
            .ok (.applied (active.revision + 1), next) ∧
          next.coordinator.phase = refundedPhase sdk.localParticipant := by
  have clocked := clocked_of_reconstructRecovery direction recovered
  obtain ⟨valid, safe⟩ := recoveryAction_submits clocked acts submits
  refine ⟨safe, ?_⟩
  intro host accepted start active history activated run matched effects height seconds confirmations held laterHeight
    laterSeconds depth
  have follows := Follows.run (.inr ⟨accepted, prepared, activated⟩) run
  have prepares := Prepares.run activated run
  obtain ⟨rfl, _, due, locked, ordered⟩ := safe
  obtain ⟨performed, waits⟩ := applyRecoveryTransition_due follows prepares matched locked ordered
    (refunded_valid held valid locked depth) (clocked.stays due (refunded_forward laterHeight laterSeconds))
    (refunded_status _)
  obtain ⟨fresh, room⟩ := follows.fresh waits
  rw [applyTransition_fresh fresh, ensure_ok room, ok_bind, ActiveBtcSwap.applyNewTransition, ActiveBtcSwap.prepared,
    prepares.stored, required, ok_bind, performed]
  exact ⟨_, rfl, rfl⟩

/-- A signed body of the sample agreement. -/
def sampleBody : Btc.BtcAgreementBodyV1 where
  swapId := 1
  direction := .takerSellsLez
  requiredConfirmations := 1
  aggregateInternalKey := 11
  bitcoinRefundKey _ := 13
  lez := ⟨14, 4, 5, 6, 20000, 19⟩
  p2tr := ⟨11, 13, 9, 2⟩
  funding := ⟨7, 0, 5⟩
  recovery := ⟨1, 10, 1, 10, 20, 5⟩

/-- The taker's lock alone, at the second its refund is due. -/
def sampleDue : BtcCanonicalRecoveryStateV1 :=
  ⟨1, .takerSellsLez, 0, 20, ⟨.absent, none, none, none, 0, false⟩,
    ⟨.locked, some 3, some sampleLezFunding.initializationPublicId, some sampleFundingId, none, true, true⟩⟩

def sampleActive : Result (ActiveBtcSwap sampleLib) :=
  sampleSdk.activatePrepared sampleAccepted (sampleProtocol.toOption.get sampleProtocol_some) >>= fun start =>
    replayTransitions start [sampleFirstLock sampleLezFunding]

theorem sampleActive_some : sampleActive.toOption.isSome := by decide +kernel

theorem sampleDue_acts :
    (recoveryAction sampleSdk (sampleProtocol.toOption.get sampleProtocol_some) sampleDue).toOption.isSome := by
  decide +kernel

theorem recovery_action_safe_and_replayed_sample :
    ∃ (prepared : BtcPreparedProtocolV1 sampleLib) (active next : ActiveBtcSwap sampleLib)
      (effects : BtcPreparedRecoveryEffectsV1),
      SafeSubmission sampleSdk prepared sampleDue .lez sampleRecovery.lez.plan ∧
      active.applyTransition (.recoveryObserved (sampleDue.refunded effects .lez 1 21 0)) =
        .ok (.applied (active.revision + 1), next) ∧ next.coordinator.phase = .refunded := by
  obtain ⟨start, activated, replayed⟩ := bind_ok_iff.mp (ok_get sampleActive_some)
  obtain ⟨safe, replays⟩ := recovery_action_safe_and_replayed sampleSdk _ sampleDue _ .lez sampleRecovery.lez.plan
    sampleBody (by decide +kernel) (ok_of_toOption (by decide +kernel)) (ok_get sampleDue_acts) (by decide +kernel)
  obtain ⟨effects, held, _⟩ := safe.planned
  obtain ⟨next, applied, phase⟩ := replays sampleSdk sampleAccepted start _ _ activated (run_of_replay replayed)
    (by decide +kernel) effects 1 21 0 held (by decide) (by decide) (by decide +kernel)
  exact ⟨_, _, next, effects, safe, applied, phase⟩

end Replaying

end AtomicSwaps.BtcSdk
