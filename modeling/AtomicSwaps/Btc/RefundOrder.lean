import AtomicSwaps.Btc.Policy
import AtomicSwaps.Transition.Pace

namespace AtomicSwaps.Btc

open AtomicSwaps.Core Fallible Transition

section Inversions

variable {config : BtcRoleConfigV1} {direction : SwapDirection} {plan : BtcSwapPlanV1}
  {body : BtcAgreementBodyV1}

structure RefundDelaysKept (config : BtcRoleConfigV1) : Prop where
  ordered : config.bitcoin.blockSeconds.fastest ≤ config.bitcoin.blockSeconds.slowest
  laterCovered : config.recovery.laterRefundEarliestSeconds ≤
    config.bitcoin.refundCsvBlocksFor .takerSellsForeign * config.bitcoin.blockSeconds.fastest
  earlierCovered : config.recovery.earlierRefundLatestSeconds + config.recovery.requiredMarginSeconds ≤
    config.bitcoin.refundCsvBlocksFor .takerSellsLez * config.bitcoin.blockSeconds.fastest
  secondInTime : config.recovery.makerSecondLockCutoffSeconds +
      config.bitcoin.refundCsvBlocksFor .takerSellsLez * config.bitcoin.blockSeconds.slowest +
      config.recovery.requiredMarginSeconds ≤ config.recovery.laterRefundEarliestSeconds

theorem ensureRefundDelays_ok (accepted : config.bitcoin.ensureRefundDelays config.recovery = .ok ()) :
    RefundDelaysKept config := by
  simp only [BitcoinConfigV1.ensureRefundDelays, ensureRefundOrder, checked_ok] at accepted
  obtain ⟨-, ⟨-, ordered⟩, laterCovered, earlierCovered, secondInTime⟩ := accepted
  exact ⟨ordered, laterCovered, earlierCovered, secondInTime⟩

structure PlanAdmitted (plan : BtcSwapPlanV1) (direction : SwapDirection) (config : BtcRoleConfigV1)
    (now : Nat) : Prop where
  csv : plan.refundCsvBlocks = config.bitcoin.refundCsvBlocksFor direction
  cutoff : withinSlack now plan.makerSecondLockCutoffUnixSeconds
    config.recovery.makerSecondLockCutoffSeconds
  earlier : withinSlack now plan.earlierRefundLatestUnixSeconds
    config.recovery.earlierRefundLatestSeconds
  later : withinSlack now plan.laterRefundEarliestUnixSeconds
    config.recovery.laterRefundEarliestSeconds
  margin : plan.requiredMarginSeconds = config.recovery.requiredMarginSeconds
  lezRefund : plan.lezRefundAtMs = lezRefundSeconds direction plan * 1000

theorem admitPlan_ok {reservationId : RequestId} {now lezUnits : Nat}
    (accepted : admitPlan plan direction config reservationId now lezUnits = .ok ()) :
    PlanAdmitted plan direction config now := by
  simp only [admitPlan, planIsAcceptable, checked_ok] at accepted
  obtain ⟨⟨-, csv, -, -, ⟨cutoff, earlier, later, margin⟩, whole⟩, refund⟩ := accepted
  refine ⟨csv, cutoff, earlier, later, margin, ?_⟩
  -- A product that saturated would not be a whole number of seconds.
  simp only [saturatingMul, u64Max, u64Limit] at refund
  omega

theorem validateDraft_ok {derive : Derivations} {record : ReservationRecordV1}
    (accepted : validateDraft derive config record body = .ok ()) :
    body.lez.refundAtMs = record.plan.lezRefundAtMs ∧
    (body.recovery.makerSecondLockCutoffUnixSeconds = record.plan.makerSecondLockCutoffUnixSeconds ∧
      body.recovery.earlierRefundLatestUnixSeconds = record.plan.earlierRefundLatestUnixSeconds ∧
      body.recovery.laterRefundEarliestUnixSeconds = record.plan.laterRefundEarliestUnixSeconds ∧
      body.recovery.requiredMarginSeconds = record.plan.requiredMarginSeconds) ∧
    body.p2tr.refundCsvBlocks = config.bitcoin.refundCsvBlocksFor body.direction := by
  simp only [validateDraft, checked_ok] at accepted
  obtain ⟨-, -, -, -, refund, -, recovery, -, contract⟩ := accepted
  refine ⟨refund, recovery, ?_⟩
  simp only [Derivations.contract, csvBlockDelay, Option.bind_eq_bind, Option.bind_eq_some_iff,
    Option.ite_none_right_eq_some, Option.some.injEq] at contract
  obtain ⟨delay, ⟨-, blocks⟩, outputKey, -, terms⟩ := contract
  have sameDelay : delay = body.p2tr.refundCsvBlocks :=
    congrArg BtcP2trTermsV1.refundCsvBlocks (Option.some.inj terms)
  rw [← sameDelay, blocks]

theorem between_ok {earlierChain laterChain : Chain} {earlier later margin : Nat} {safety : TimelockSafety}
    (accepted : TimelockSafety.between earlierChain laterChain earlier later margin = .ok safety) :
    margin ≠ 0 ∧ earlier + margin ≤ later := by
  unfold TimelockSafety.between at accepted
  split at accepted
  · cases accepted
  · split at accepted
    · rename_i valid
      exact valid.2
    · cases accepted

theorem reconstructRecovery_ok {schedule : RecoverySchedule}
    (accepted : reconstructRecovery body = .ok schedule) :
    body.recovery.earlierRefundLatestUnixSeconds < body.recovery.laterRefundEarliestUnixSeconds ∧
    body.lez.refundAtMs / 1000 = match body.direction with
      | .takerSellsForeign => body.recovery.earlierRefundLatestUnixSeconds
      | .takerSellsLez => body.recovery.laterRefundEarliestUnixSeconds := by
  simp only [reconstructRecovery, checked_ok, mapError_ok_iff] at accepted
  obtain ⟨-, safety, between, lezRefund, -⟩ := accepted
  obtain ⟨margin, separated⟩ := between_ok between
  refine ⟨by omega, lezRefund⟩

end Inversions

structure AcceptedReservation (derive : Derivations) where
  config : BtcRoleConfigV1
  reservationId : RequestId
  (now lezUnits : Nat)
  record : ReservationRecordV1
  body : BtcAgreementBodyV1
  schedule : RecoverySchedule
  delays : config.bitcoin.ensureRefundDelays config.recovery = .ok ()
  admitted : admitPlan record.plan record.direction config reservationId now lezUnits = .ok ()
  drafted : validateDraft derive config record body = .ok ()
  recovered : reconstructRecovery body = .ok schedule

namespace AcceptedReservation

variable {derive : Derivations} (accepted : AcceptedReservation derive)

def refundMatures {fastest slowest : Nat} (history : BlockHistory fastest slowest) (height : Nat) : Nat :=
  history.time (height + accepted.body.p2tr.refundCsvBlocks)

def lezRefundTime : Nat := accepted.body.lez.refundAtMs / 1000

/-- The order the signed times promise, for every lock mined after the reservation and every history
    at the trusted pace. -/
def KeepsRefundOrder : Prop :=
  ∀ (history : BlockHistory accepted.config.bitcoin.blockSeconds.fastest
      accepted.config.bitcoin.blockSeconds.slowest) (height : Nat),
    accepted.now ≤ history.time height →
    match accepted.body.direction with
    | .takerSellsLez =>
      history.time height ≤ accepted.body.recovery.makerSecondLockCutoffUnixSeconds →
        accepted.body.recovery.earlierRefundLatestUnixSeconds ≤ accepted.refundMatures history height ∧
          accepted.refundMatures history height ≤ accepted.lezRefundTime
    | .takerSellsForeign =>
      accepted.body.recovery.laterRefundEarliestUnixSeconds ≤ accepted.refundMatures history height ∧
        accepted.lezRefundTime < accepted.refundMatures history height

/-- The reserved times lie where the configured delays reach at the pace that is worst for each. -/
def TimesCovered : Prop :=
  let plan := accepted.record.plan
  let pace := accepted.config.bitcoin.blockSeconds
  match accepted.record.direction with
  | .takerSellsLez => accepted.now ≤ plan.makerSecondLockCutoffUnixSeconds →
      plan.earlierRefundLatestUnixSeconds ≤ accepted.now + plan.refundCsvBlocks * pace.fastest ∧
      plan.makerSecondLockCutoffUnixSeconds + plan.refundCsvBlocks * pace.slowest ≤
        plan.laterRefundEarliestUnixSeconds
  | .takerSellsForeign =>
    plan.laterRefundEarliestUnixSeconds ≤ accepted.now + plan.refundCsvBlocks * pace.fastest

/-- A draft for the other direction would need both refunds at one time. -/
theorem direction_kept : accepted.body.direction = accepted.record.direction := by
  obtain ⟨separated, lezRefund⟩ := reconstructRecovery_ok accepted.recovered
  obtain ⟨refund, ⟨-, earlier, later, -⟩, -⟩ := validateDraft_ok accepted.drafted
  have planned := (admitPlan_ok accepted.admitted).lezRefund
  rw [refund, planned, Nat.mul_div_cancel _ (by decide)] at lezRefund
  cases body : accepted.body.direction <;> cases record : accepted.record.direction <;>
    simp only [body, record, lezRefundSeconds] at lezRefund ⊢ <;> omega

theorem csv_kept : accepted.body.p2tr.refundCsvBlocks = accepted.record.plan.refundCsvBlocks := by
  obtain ⟨-, -, csv⟩ := validateDraft_ok accepted.drafted
  rw [csv, (admitPlan_ok accepted.admitted).csv, accepted.direction_kept]

/-- The signed times keep the refund order at every trusted pace exactly when the delays cover them;
    the slack of the plan is not part of what the configuration was checked for. -/
theorem keepsRefundOrder_iff : accepted.KeepsRefundOrder ↔ accepted.TimesCovered := by
  obtain ⟨separated, lezRefund⟩ := reconstructRecovery_ok accepted.recovered
  obtain ⟨-, ⟨cutoff, earlier, later, -⟩, -⟩ := validateDraft_ok accepted.drafted
  have ordered := (ensureRefundDelays_ok accepted.delays).ordered
  have direction := accepted.direction_kept
  unfold KeepsRefundOrder TimesCovered refundMatures lezRefundTime
  dsimp only
  rw [accepted.csv_kept, ← direction, ← cutoff, ← earlier, ← later, lezRefund]
  cases taken : accepted.body.direction with
  | takerSellsLez => exact BlockHistory.matures_between_iff _ _ ordered _ _ _
  | takerSellsForeign =>
    dsimp only
    rw [← BlockHistory.matures_after_iff _ _ ordered]
    constructor
    · exact fun kept history height included => (kept history height included).1
    · intro matures history height included
      have bound := matures history height included
      exact ⟨bound, by omega⟩

/-- The schedule a Taker draws up from the same policy, by a clock that is not ahead of the Maker's. -/
theorem keepsRefundOrder_of_nowPlan {runId : String} {takenAt foreignUnits : Nat} (notAhead : takenAt ≤ accepted.now)
    (drawn : accepted.record.plan =
      nowPlan accepted.config runId accepted.record.direction takenAt foreignUnits accepted.lezUnits) :
    accepted.KeepsRefundOrder := by
  obtain ⟨separated, lezRefund⟩ := reconstructRecovery_ok accepted.recovered
  obtain ⟨-, ⟨cutoff, earlier, later, -⟩, -⟩ := validateDraft_ok accepted.drafted
  obtain ⟨-, laterCovered, earlierCovered, secondInTime⟩ := ensureRefundDelays_ok accepted.delays
  have direction := accepted.direction_kept
  intro history height included
  have fast := history.notFaster height accepted.body.p2tr.refundCsvBlocks
  have slow := history.notSlower height accepted.body.p2tr.refundCsvBlocks
  unfold refundMatures lezRefundTime
  rw [accepted.csv_kept] at fast slow ⊢
  rw [drawn] at cutoff earlier later fast slow ⊢
  cases taken : accepted.body.direction <;>
    simp only [taken, ← direction, nowPlan] at lezRefund cutoff earlier later fast slow ⊢ <;> omega

end AcceptedReservation

section Samples

def sampleDerivations : Derivations where
  metadataAccount swapId := swapId + 1
  custodyAccount swapId := swapId + 2
  aggregateAuthorityAccount key := key + 3
  outputKey aggregateKey refundKey blocks := some (aggregateKey + refundKey + BitVec.ofNat 256 blocks)

/-- The public-testnet profile: cutoff 3 h, refunds at 6 h and 16 h. -/
def sampleConfig : BtcRoleConfigV1 where
  bitcoin :=
    { refundCsvBlocks := 96, secondLockRefundCsvBlocks := some 37
      blockSeconds := ⟨600, 1200⟩, claimFeeSat := 300 }
  recovery := ⟨10800, 21600, 57600, 600⟩

/-- The policy's own times, moved by `late` seconds inside the slack. -/
def samplePlan (late : Nat) : BtcSwapPlanV1 :=
  nowPlan sampleConfig "swap-take-0001" .takerSellsForeign (1000000 + late) 10000 5000

def sampleRecord (plan : BtcSwapPlanV1) : ReservationRecordV1 where
  offerId := "offer-1"
  direction := .takerSellsForeign
  swapId := 7
  aggregateXOnly := 11
  plan := plan
  fundingPlan := none
  makerClaimMessageHash := none
  sessions := none
  actorActivated := false

def sampleBody (plan : BtcSwapPlanV1) : BtcAgreementBodyV1 where
  swapId := 7
  direction := .takerSellsForeign
  requiredConfirmations := 2
  aggregateInternalKey := 11
  bitcoinRefundKey := fun
    | .maker => 13
    | .taker => 17
  lez :=
    { aggregateAuthorityAccount := 14, metadataAccount := 8, custodyAccount := 9
      amount := plan.lezUnits, refundAtMs := plan.lezRefundAtMs, claimMessageHash := 19 }
  p2tr := { aggregateInternalKey := 11, refundKey := 17, refundCsvBlocks := 96, outputKey := 124 }
  funding := { transactionId := 23, outputIndex := 0, valueSat := 10000 }
  recovery :=
    { bitcoinFundingAnchorHeight := 800, bitcoinRefundHeight := 896
      makerSecondLockCutoffUnixSeconds := plan.makerSecondLockCutoffUnixSeconds
      earlierRefundLatestUnixSeconds := plan.earlierRefundLatestUnixSeconds
      laterRefundEarliestUnixSeconds := plan.laterRefundEarliestUnixSeconds
      requiredMarginSeconds := plan.requiredMarginSeconds }

def sampleReservation (late : Nat)
    (admitted : admitPlan (samplePlan late) .takerSellsForeign sampleConfig "take-0001" 1000000 5000 = .ok ())
    (drafted : validateDraft sampleDerivations sampleConfig (sampleRecord (samplePlan late))
      (sampleBody (samplePlan late)) = .ok ())
    (recovers : (reconstructRecovery (sampleBody (samplePlan late))).toOption.isSome = true) :
    AcceptedReservation sampleDerivations where
  config := sampleConfig
  reservationId := "take-0001"
  now := 1000000
  lezUnits := 5000
  record := sampleRecord (samplePlan late)
  body := sampleBody (samplePlan late)
  schedule := _
  delays := rfl
  admitted := admitted
  drafted := drafted
  recovered := ok_get recovers

theorem keepsRefundOrder_of_nowPlan_sample : (sampleReservation 0 rfl rfl rfl).KeepsRefundOrder :=
  AcceptedReservation.keepsRefundOrder_of_nowPlan _ (Nat.le_refl 1000000) rfl

theorem keepsRefundOrder_iff_sample :
    (sampleReservation 0 rfl rfl rfl).KeepsRefundOrder ↔ (sampleReservation 0 rfl rfl rfl).TimesCovered :=
  (sampleReservation 0 rfl rfl rfl).keepsRefundOrder_iff

/-- The Taker's Bitcoin lock is mined at once and every block takes ten minutes: its refund matures
    fifteen minutes before the later refund time of a plan that uses the late slack. -/
theorem late_plan_breaks_refund_order : ¬(sampleReservation 900 rfl rfl rfl).KeepsRefundOrder := by
  intro kept
  have order := kept (.steady 1000000 600 (by decide) (by decide)) 0 (by decide)
  exact absurd order.1 (by decide)

end Samples

end AtomicSwaps.Btc
