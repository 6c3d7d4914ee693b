import AtomicSwaps.Core.Coordinator
import AtomicSwaps.Transition.Fallible

namespace AtomicSwaps.Btc

open AtomicSwaps.Core Fallible

abbrev RequestId := String

def u64Max : Nat := u64Limit - 1

variable (left right : Nat)

def saturatingAdd : Nat := min (left + right) u64Max

def saturatingMul : Nat := min (left * right) u64Max

def checkedAdd : Option Nat :=
  if left + right < u64Limit then some (left + right) else none

def checkedMul : Option Nat :=
  if left * right < u64Limit then some (left * right) else none

/-- Seconds per block at the fastest and the slowest pace the refund order must survive. -/
structure BlockSecondsV1 where
  (fastest slowest : Nat)
deriving DecidableEq

structure RecoveryPolicyV1 where
  (makerSecondLockCutoffSeconds earlierRefundLatestSeconds laterRefundEarliestSeconds : Nat)
  requiredMarginSeconds : Nat
deriving DecidableEq

structure BitcoinConfigV1 where
  refundCsvBlocks : Nat
  secondLockRefundCsvBlocks : Option Nat
  blockSeconds : BlockSecondsV1
  claimFeeSat : Nat
deriving DecidableEq

structure BtcRoleConfigV1 where
  bitcoin : BitcoinConfigV1
  recovery : RecoveryPolicyV1
deriving DecidableEq

inductive RefundOrderError
  | zeroRefundDelay
  | blockSecondsNotARange
  | takerRefundBeforeLaterRefund
  | makerRefundInsideClaimWindow
  | makerRefundAfterTakerRefund

/-- The schedule is policy in seconds, the delays are blocks: the three rules compare them at the
    pace that is worst for each. Times and products are integers here, without the wrap of `u64`. -/
def ensureRefundOrder (firstLockBlocks secondLockBlocks : Nat) (pace : BlockSecondsV1)
    (recovery : RecoveryPolicyV1) : Except RefundOrderError Unit := do
  ensure (0 < pace.fastest ∧ pace.fastest ≤ pace.slowest) .blockSecondsNotARange
  ensure (recovery.laterRefundEarliestSeconds ≤ firstLockBlocks * pace.fastest)
    .takerRefundBeforeLaterRefund
  ensure (recovery.earlierRefundLatestSeconds + recovery.requiredMarginSeconds ≤
    secondLockBlocks * pace.fastest) .makerRefundInsideClaimWindow
  ensure (recovery.makerSecondLockCutoffSeconds + secondLockBlocks * pace.slowest +
    recovery.requiredMarginSeconds ≤ recovery.laterRefundEarliestSeconds) .makerRefundAfterTakerRefund

def BitcoinConfigV1.refundCsvBlocksFor (config : BitcoinConfigV1) : SwapDirection → Nat
  | .takerSellsForeign => config.refundCsvBlocks
  | .takerSellsLez => config.secondLockRefundCsvBlocks.getD config.refundCsvBlocks

def BitcoinConfigV1.ensureRefundDelays (config : BitcoinConfigV1) (recovery : RecoveryPolicyV1) :
    Except RefundOrderError Unit := do
  ensure (0 < config.refundCsvBlocks ∧ config.secondLockRefundCsvBlocks ≠ some 0) .zeroRefundDelay
  ensureRefundOrder (config.refundCsvBlocksFor .takerSellsForeign)
    (config.refundCsvBlocksFor .takerSellsLez) config.blockSeconds recovery

structure BtcFundingFactsV1 where
  transactionId : Bytes32
  (outputIndex valueSat anchorHeight : Nat)
deriving DecidableEq

structure BtcSwapPlanV1 where
  (foreignUnits lezUnits refundCsvBlocks claimFeeSat lezRefundAtMs makerSecondLockCutoffUnixSeconds : Nat)
  (earlierRefundLatestUnixSeconds laterRefundEarliestUnixSeconds requiredMarginSeconds : Nat)
  bridgeRunId : String
  takerBitcoinFunding : Option BtcFundingFactsV1
deriving DecidableEq

def isSafeIdentifier (text : String) : Bool :=
  decide (8 ≤ text.utf8ByteSize ∧ text.utf8ByteSize ≤ 64) &&
    text.toList.all fun char => char.isAlphanum || char == '.' || char == '_' || char == '-'

/-- The bridge run id of one swap: derived, so both roles agree on it. -/
def swapRunId (reservationId : RequestId) : Option String :=
  let runId := "swap-" ++ String.ofList (reservationId.toList.take 58)
  if isSafeIdentifier runId then some runId else none

def planEarlySlackSeconds : Nat := 120
def planLateSlackSeconds : Nat := 900

inductive PlanError
  | lezAmountDiffers
  | csvDiffers
  | claimFeeDiffers
  | bridgeRunIdDiffers
  | scheduleOutsidePolicy
  | lezRefundNotWholeSeconds
  | lezRefundDoesNotFollowDirection

def withinSlack (now value offset : Nat) : Prop :=
  saturatingAdd now offset ≤ saturatingAdd value planEarlySlackSeconds ∧
    value ≤ saturatingAdd (saturatingAdd now offset) planLateSlackSeconds

instance (now value offset : Nat) : Decidable (withinSlack now value offset) :=
  inferInstanceAs (Decidable (_ ∧ _))

def planIsAcceptable (plan : BtcSwapPlanV1) (direction : SwapDirection) (config : BtcRoleConfigV1)
    (reservationId : RequestId) (now lezUnits : Nat) : Except PlanError Unit := do
  ensure (plan.lezUnits = lezUnits) .lezAmountDiffers
  ensure (plan.refundCsvBlocks = config.bitcoin.refundCsvBlocksFor direction) .csvDiffers
  ensure (plan.claimFeeSat = config.bitcoin.claimFeeSat) .claimFeeDiffers
  ensure (swapRunId reservationId = some plan.bridgeRunId) .bridgeRunIdDiffers
  ensure (withinSlack now plan.makerSecondLockCutoffUnixSeconds
        config.recovery.makerSecondLockCutoffSeconds ∧
      withinSlack now plan.earlierRefundLatestUnixSeconds config.recovery.earlierRefundLatestSeconds ∧
      withinSlack now plan.laterRefundEarliestUnixSeconds config.recovery.laterRefundEarliestSeconds ∧
      plan.requiredMarginSeconds = config.recovery.requiredMarginSeconds) .scheduleOutsidePolicy
  ensure (plan.lezRefundAtMs % 1000 = 0) .lezRefundNotWholeSeconds

def lezRefundSeconds (direction : SwapDirection) (plan : BtcSwapPlanV1) : Nat :=
  match direction with
  | .takerSellsForeign => plan.earlierRefundLatestUnixSeconds
  | .takerSellsLez => plan.laterRefundEarliestUnixSeconds

/-- The checks `reserve` makes on the plan it is asked to hold. -/
def admitPlan (plan : BtcSwapPlanV1) (direction : SwapDirection) (config : BtcRoleConfigV1)
    (reservationId : RequestId) (now lezUnits : Nat) : Except PlanError Unit := do
  planIsAcceptable plan direction config reservationId now lezUnits
  ensure (plan.lezRefundAtMs = saturatingMul (lezRefundSeconds direction plan) 1000)
    .lezRefundDoesNotFollowDirection

/-- The schedule of a take drawn at `now`, as integers without the wrap of `u64`. -/
def nowPlan (config : BtcRoleConfigV1) (runId : String) (direction : SwapDirection)
    (now foreignUnits lezUnits : Nat) : BtcSwapPlanV1 :=
  let earlier := now + config.recovery.earlierRefundLatestSeconds
  let later := now + config.recovery.laterRefundEarliestSeconds
  { foreignUnits, lezUnits
    refundCsvBlocks := config.bitcoin.refundCsvBlocksFor direction
    claimFeeSat := config.bitcoin.claimFeeSat
    lezRefundAtMs := (match direction with
      | .takerSellsForeign => earlier
      | .takerSellsLez => later) * 1000
    makerSecondLockCutoffUnixSeconds := now + config.recovery.makerSecondLockCutoffSeconds
    earlierRefundLatestUnixSeconds := earlier
    laterRefundEarliestUnixSeconds := later
    requiredMarginSeconds := config.recovery.requiredMarginSeconds
    bridgeRunId := runId
    takerBitcoinFunding := none }

section Agreement

structure BtcLezTermsV1 where
  (aggregateAuthorityAccount metadataAccount custodyAccount : Bytes32)
  (amount refundAtMs : Nat)
  claimMessageHash : Bytes32
deriving DecidableEq

/-- The contract's keys and delay, with the output key standing for every field derived from them. -/
structure BtcP2trTermsV1 where
  (aggregateInternalKey refundKey : Bytes32)
  refundCsvBlocks : Nat
  outputKey : Bytes32
deriving DecidableEq

structure BtcFundingTermsV1 where
  transactionId : Bytes32
  (outputIndex valueSat : Nat)
deriving DecidableEq

structure BtcRecoveryPlanV1 where
  (bitcoinFundingAnchorHeight bitcoinRefundHeight makerSecondLockCutoffUnixSeconds : Nat)
  (earlierRefundLatestUnixSeconds laterRefundEarliestUnixSeconds requiredMarginSeconds : Nat)
deriving DecidableEq

structure BtcAgreementBodyV1 where
  swapId : Bytes32
  direction : SwapDirection
  requiredConfirmations : Nat
  /-- The aggregate of the two signing keys, and the refund key of each role. -/
  aggregateInternalKey : Bytes32
  bitcoinRefundKey : Participant → Bytes32
  lez : BtcLezTermsV1
  p2tr : BtcP2trTermsV1
  funding : BtcFundingTermsV1
  recovery : BtcRecoveryPlanV1

inductive BtcAgreementV1Error
  | recoveryScheduleMismatch | invalidIdentity | invalidBitcoinChainPolicy

def u32Limit : Nat := 2 ^ 32

def bitcoinFunder : SwapDirection → Participant
  | .takerSellsForeign => .taker
  | .takerSellsLez => .maker

def lezDepositor : SwapDirection → Participant
  | .takerSellsForeign => .maker
  | .takerSellsLez => .taker

def reconstructRecovery (body : BtcAgreementBodyV1) : Except BtcAgreementV1Error RecoverySchedule := do
  let recovery := body.recovery
  ensure (recovery.bitcoinFundingAnchorHeight ≠ 0 ∧ recovery.makerSecondLockCutoffUnixSeconds ≠ 0 ∧
    recovery.makerSecondLockCutoffUnixSeconds + recovery.requiredMarginSeconds < u64Limit ∧
    recovery.makerSecondLockCutoffUnixSeconds + recovery.requiredMarginSeconds ≤
      recovery.earlierRefundLatestUnixSeconds ∧
    recovery.bitcoinFundingAnchorHeight + body.p2tr.refundCsvBlocks < u32Limit ∧
    recovery.bitcoinRefundHeight = recovery.bitcoinFundingAnchorHeight + body.p2tr.refundCsvBlocks)
    .recoveryScheduleMismatch
  let lezSeconds := body.lez.refundAtMs / 1000
  let bitcoinPosition : ChainPosition := ⟨.bitcoin, .blockHeight, recovery.bitcoinRefundHeight⟩
  let lezPosition : ChainPosition := ⟨.lez, .timestamp, lezSeconds⟩
  let (makerPosition, takerPosition) := match body.direction with
    | .takerSellsForeign => (lezPosition, bitcoinPosition)
    | .takerSellsLez => (bitcoinPosition, lezPosition)
  let safety ← (TimelockSafety.between makerPosition.chain takerPosition.chain
    recovery.earlierRefundLatestUnixSeconds recovery.laterRefundEarliestUnixSeconds
    recovery.requiredMarginSeconds).mapError fun _ => .recoveryScheduleMismatch
  ensure (lezSeconds = match body.direction with
    | .takerSellsForeign => recovery.earlierRefundLatestUnixSeconds
    | .takerSellsLez => recovery.laterRefundEarliestUnixSeconds) .recoveryScheduleMismatch
  (RecoverySchedule.new .bitcoin body.direction makerPosition takerPosition safety).mapError
    fun _ => .recoveryScheduleMismatch

def finalizedLezConfirmationUnits : Nat := 1

/-- `swapId` is the lowercase hex text of the signed swap id. -/
def deriveInitialCoordinator (swapId : Bytes32 → String) (body : BtcAgreementBodyV1)
    (recoverySchedule : RecoverySchedule) : Except BtcAgreementV1Error SwapCoordinator := do
  let id ← (Identifier.new (swapId body.swapId)).mapError fun _ => .invalidIdentity
  let bitcoinPolicy ← (ConfirmationPolicy.new body.requiredConfirmations).mapError
    fun _ => .invalidBitcoinChainPolicy
  let lezPolicy ← (ConfirmationPolicy.new finalizedLezConfirmationUnits).mapError
    fun _ => .invalidBitcoinChainPolicy
  let (takerPolicy, makerPolicy) := match body.direction with
    | .takerSellsForeign => (bitcoinPolicy, lezPolicy)
    | .takerSellsLez => (lezPolicy, bitcoinPolicy)
  return .newWithConfirmationPolicies id .bitcoin body.direction takerPolicy makerPolicy recoverySchedule

end Agreement

structure FundingPlan where
  transactionHex : String
  transactionId : Bytes32
  (outputIndex valueSat anchorHeight : Nat)
deriving DecidableEq

structure LegSessions where
  (bitcoin lez : Bytes32)
deriving DecidableEq

structure ReservationRecordV1 where
  offerId : String
  direction : SwapDirection
  (swapId aggregateXOnly : Bytes32)
  plan : BtcSwapPlanV1
  fundingPlan : Option FundingPlan
  makerClaimMessageHash : Option Bytes32
  sessions : Option LegSessions
  actorActivated : Bool

/-- The derivations of the LEZ runtime and of the Taproot library that a draft is compared with. -/
structure Derivations where
  (metadataAccount custodyAccount aggregateAuthorityAccount : Bytes32 → Bytes32)
  /-- None where a key is not on the curve; the delay is checked apart. -/
  outputKey : Bytes32 → Bytes32 → Nat → Option Bytes32

def csvBlockDelay (blocks : Nat) : Option Nat :=
  if 0 < blocks ∧ blocks < 2 ^ 16 then some blocks else none

def Derivations.contract (derive : Derivations) (aggregateKey refundKey : Bytes32) (blocks : Nat) :
    Option BtcP2trTermsV1 := do
  let delay ← csvBlockDelay blocks
  let outputKey ← derive.outputKey aggregateKey refundKey delay
  return { aggregateInternalKey := aggregateKey, refundKey, refundCsvBlocks := delay, outputKey }

inductive DraftError
  | swapIdDiffers
  | escrowAccountsDiffer
  | aggregateAuthorityDiffers
  | lezAmountDiffers
  | lezRefundDiffers
  | claimHashDiffers
  | recoveryPlanDiffers
  | fundingTermsDiffer
  | contractDiffers

def validateDraft (derive : Derivations) (config : BtcRoleConfigV1) (record : ReservationRecordV1)
    (body : BtcAgreementBodyV1) : Except DraftError Unit := do
  ensure (body.swapId = record.swapId) .swapIdDiffers
  ensure (body.lez.metadataAccount = derive.metadataAccount record.swapId ∧
    body.lez.custodyAccount = derive.custodyAccount record.swapId) .escrowAccountsDiffer
  ensure (body.lez.aggregateAuthorityAccount = derive.aggregateAuthorityAccount record.aggregateXOnly)
    .aggregateAuthorityDiffers
  ensure (body.lez.amount = record.plan.lezUnits) .lezAmountDiffers
  ensure (body.lez.refundAtMs = record.plan.lezRefundAtMs) .lezRefundDiffers
  ensure (record.makerClaimMessageHash.all (body.lez.claimMessageHash = ·)) .claimHashDiffers
  ensure (body.recovery.makerSecondLockCutoffUnixSeconds =
      record.plan.makerSecondLockCutoffUnixSeconds ∧
    body.recovery.earlierRefundLatestUnixSeconds = record.plan.earlierRefundLatestUnixSeconds ∧
    body.recovery.laterRefundEarliestUnixSeconds = record.plan.laterRefundEarliestUnixSeconds ∧
    body.recovery.requiredMarginSeconds = record.plan.requiredMarginSeconds) .recoveryPlanDiffers
  ensure (record.fundingPlan.all fun plan =>
    decide (body.funding.transactionId = plan.transactionId ∧
      body.funding.outputIndex = plan.outputIndex ∧ body.funding.valueSat = plan.valueSat ∧
      body.recovery.bitcoinFundingAnchorHeight = plan.anchorHeight)) .fundingTermsDiffer
  ensure (derive.contract body.aggregateInternalKey (body.bitcoinRefundKey (bitcoinFunder body.direction))
    (config.bitcoin.refundCsvBlocksFor body.direction) = some body.p2tr) .contractDiffers

end AtomicSwaps.Btc
