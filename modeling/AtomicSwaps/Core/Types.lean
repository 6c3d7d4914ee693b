import Mathlib.Algebra.Ring.Nat

namespace AtomicSwaps.Core

abbrev Bytes32 := BitVec 256

def u64Limit : Nat := 2 ^ 64

inductive Pair
  | bitcoin | monero | zcash
deriving DecidableEq

inductive SwapDirection
  | takerSellsForeign | takerSellsLez
deriving DecidableEq

inductive Participant
  | maker | taker
deriving DecidableEq

def Participant.other : Participant → Participant
  | .maker => .taker
  | .taker => .maker

inductive Chain
  | lez | bitcoin | monero | zcash
deriving DecidableEq

def Chain.fromPair : Pair → Chain
  | .bitcoin => .bitcoin
  | .monero => .monero
  | .zcash => .zcash

inductive ClockBasis
  | blockHeight | timestamp
deriving DecidableEq

structure ChainPosition where
  chain : Chain
  basis : ClockBasis
  value : Nat
deriving DecidableEq

inductive Phase
  | offered
  | awaitingTakerConfirmations
  | takerLockConfirmed
  | awaitingMakerConfirmations
  | bothLegsLocked
  | takerLockReorged
  | makerLockReorged
  | claimEvidenceAvailable
  | completed
  | makerLegRefunded
  | takerLegRefunded
  | refunded
  | makerRecoveryAvailable
deriving DecidableEq

inductive Error
  | invalidIdentifier
  | invalidConfirmationPolicy
  | timestampConversionOverflow
  | insufficientTimelockMargin
  | wrongRefundChain (role : Participant) (expected actual : Chain)
  | wrongDeadlineClock (expectedChain : Chain) (expectedBasis : ClockBasis)
      (actualChain : Chain) (actualBasis : ClockBasis)
  | wrongTimelockOrder (pair : Pair) (earlier later : Chain)
  | unsupportedDirection (pair : Pair) (direction : SwapDirection)
  | unexpectedClaimant (expected actual : Participant)
  | takerLockNotConfirmed
  | makerLockNotConfirmed
  | conflictingTakerLock
  | conflictingMakerLock
  | conflictingClaimEvidence
  | conflictingTakerClaim
  | invalidPhase (expected actual : Phase)
  | timelockNotExpired
  | recoveryRequiresTakerRefundEvent
  | wrongRecoveryEventChain (expected actual : Chain)
  | insufficientRecoveryEventConfirmations (required actual : Nat)
  | conflictingTakerRefundEvent
  | conflictingMakerRecovery
deriving DecidableEq

/-- Swap identifiers and transaction ids share one bounded text format. -/
structure Identifier where
  text : String
  bounded : 0 < text.utf8ByteSize ∧ text.utf8ByteSize ≤ 128
deriving DecidableEq

theorem Identifier.eq_of_text {left right : Identifier} (same : left.text = right.text) : left = right := by
  cases left
  cases right
  cases same
  rfl

def Identifier.new (value : String) : Except Error Identifier :=
  if bounded : 0 < value.utf8ByteSize ∧ value.utf8ByteSize ≤ 128 then .ok ⟨value, bounded⟩
  else .error .invalidIdentifier

structure ChainProof where
  transactionId : Identifier
  confirmations : Nat
deriving DecidableEq

structure ChainEventProof where
  chain : Chain
  proof : ChainProof
deriving DecidableEq

structure ConfirmationPolicy where
  required : Nat
  positive : 0 < required
deriving DecidableEq

def ConfirmationPolicy.new (required : Nat) : Except Error ConfirmationPolicy :=
  if positive : 0 < required then .ok ⟨required, positive⟩ else .error .invalidConfirmationPolicy

def defaultMakerConfirmationPolicy : ConfirmationPolicy := ⟨1, by decide⟩

/-- Only a one-way commitment of the published secret enters the coordinator. -/
structure ClaimEvidence where
  commitment : Bytes32
deriving DecidableEq

def ClaimEvidence.new (sha256 : Bytes32 → Bytes32) (secret : Bytes32) : ClaimEvidence :=
  ⟨sha256 secret⟩

/-- The later refund opens at least one full margin after the earlier one can last be made. -/
structure TimelockSafety where
  (earlierChain laterChain : Chain)
  (earlierRefundLatest laterRefundEarliest requiredMargin : Nat)
  distinctChains : earlierChain ≠ laterChain
  positiveMargin : requiredMargin ≠ 0
  separated : earlierRefundLatest + requiredMargin ≤ laterRefundEarliest
deriving DecidableEq

def TimelockSafety.between (earlierChain laterChain : Chain)
    (earlierRefundLatest laterRefundEarliest requiredMargin : Nat) : Except Error TimelockSafety :=
  if u64Limit ≤ earlierRefundLatest + requiredMargin then .error .insufficientTimelockMargin
  else if valid : earlierChain ≠ laterChain ∧ requiredMargin ≠ 0 ∧
      earlierRefundLatest + requiredMargin ≤ laterRefundEarliest then
    .ok { earlierChain, laterChain, earlierRefundLatest, laterRefundEarliest, requiredMargin
          distinctChains := valid.1, positiveMargin := valid.2.1, separated := valid.2.2 }
  else .error .insufficientTimelockMargin

inductive MakerRecoveryTrigger
  | deadline (position : ChainPosition)
  | canonicalTakerRefund (chain : Chain) (requiredConfirmations : Nat)
deriving DecidableEq

structure RecoverySchedule where
  makerTrigger : MakerRecoveryTrigger
  takerRefund : ChainPosition
  safety : Option TimelockSafety
deriving DecidableEq

/-- The chains the maker and the taker fund, in this order. -/
def fundedChains (pair : Pair) : SwapDirection → Chain × Chain
  | .takerSellsForeign => (.lez, .fromPair pair)
  | .takerSellsLez => (.fromPair pair, .lez)

def RecoverySchedule.new (pair : Pair) (direction : SwapDirection)
    (makerRefund takerRefund : ChainPosition) (safety : TimelockSafety) : Except Error RecoverySchedule := do
  if pair = .monero then
    if direction = .takerSellsForeign then throw (.unsupportedDirection pair direction)
    else throw .recoveryRequiresTakerRefundEvent
  let expected := fundedChains pair direction
  if makerRefund.chain ≠ expected.1 then
    throw (.wrongRefundChain .maker expected.1 makerRefund.chain)
  if takerRefund.chain ≠ expected.2 then
    throw (.wrongRefundChain .taker expected.2 takerRefund.chain)
  -- BTC orders the refunds by role; ZEC orders them by chain, in both directions.
  let order := if pair = .zcash then (Chain.lez, Chain.zcash)
    else (makerRefund.chain, takerRefund.chain)
  if (safety.earlierChain, safety.laterChain) ≠ order then
    throw (.wrongTimelockOrder pair order.1 order.2)
  return { makerTrigger := .deadline makerRefund, takerRefund, safety := some safety }

def RecoverySchedule.xmrLezFirst (takerRefund : ChainPosition) (requiredEventConfirmations : Nat) :
    Except Error RecoverySchedule := do
  if takerRefund.chain ≠ .lez then throw (.wrongRefundChain .taker .lez takerRefund.chain)
  if requiredEventConfirmations = 0 then throw .invalidConfirmationPolicy
  return { makerTrigger := .canonicalTakerRefund .lez requiredEventConfirmations, takerRefund
           safety := none }

def deadlineReached (deadline observed : ChainPosition) : Except Error Bool :=
  if deadline.chain ≠ observed.chain ∨ deadline.basis ≠ observed.basis then
    .error (.wrongDeadlineClock deadline.chain deadline.basis observed.chain observed.basis)
  else .ok (decide (deadline.value ≤ observed.value))

variable (schedule : RecoverySchedule)

def RecoverySchedule.makerDeadlineReached (observed : ChainPosition) : Except Error Bool :=
  match schedule.makerTrigger with
  | .deadline deadline => deadlineReached deadline observed
  | .canonicalTakerRefund _ _ => .error .recoveryRequiresTakerRefundEvent

def RecoverySchedule.takerRefundReached (observed : ChainPosition) : Except Error Bool :=
  deadlineReached schedule.takerRefund observed

def RecoverySchedule.deadlineForChain (chain : Chain) : Option ChainPosition :=
  match schedule.makerTrigger with
  | .deadline deadline =>
    if deadline.chain = chain then some deadline
    else if schedule.takerRefund.chain = chain then some schedule.takerRefund else none
  | .canonicalTakerRefund _ _ =>
    if schedule.takerRefund.chain = chain then some schedule.takerRefund else none

theorem deadlineReached_true {deadline observed : ChainPosition}
    (reached : deadlineReached deadline observed = .ok true) :
    observed.chain = deadline.chain ∧ observed.basis = deadline.basis ∧
      deadline.value ≤ observed.value := by
  unfold deadlineReached at reached
  split at reached
  · cases reached
  · rename_i sameClock
    simp only [not_or, ne_eq, Decidable.not_not] at sameClock
    simp only [Except.ok.injEq, decide_eq_true_eq] at reached
    exact ⟨sameClock.1.symm, sameClock.2.symm, reached⟩

end AtomicSwaps.Core
