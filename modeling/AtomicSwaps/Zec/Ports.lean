import AtomicSwaps.Zec.StoreCalls

namespace AtomicSwaps.Zec

open AtomicSwaps.Core Fallible

def hexValue (digit : Char) : Option Nat :=
  let code := digit.toNat
  if 48 ≤ code ∧ code ≤ 57 then some (code - 48)
  else if 97 ≤ code ∧ code ≤ 102 then some (code - 87)
  else if 65 ≤ code ∧ code ≤ 70 then some (code - 55)
  else none

def hexBytes : List Char → Option Bytes
  | [] => some []
  | high :: low :: rest => do
    let high ← hexValue high
    let low ← hexValue low
    let rest ← hexBytes rest
    return UInt8.ofNat (high * 16 + low) :: rest
  | [_] => none

def bytesValue (bytes : Bytes) : Nat := bytes.foldl (fun value byte => value * 256 + byte.toNat) 0

inductive ZcashClaimContextError
  | fundingNotReady (actual : Phase)
  | claimNotReady (actual : Phase)
  | coordinatorContextMismatch
  | zcashFunderMismatch (participant : Participant) (actualChain : Chain)
  | missingFundingTransactionId (participant : Participant)
  | malformedFundingTransactionId
  | nonCanonicalFundingTransactionId
  | nullFundingTransactionId

def parseCanonicalTxid (value : String) : Except ZcashClaimContextError Bytes32 := do
  ensure (value.utf8ByteSize = 64) .malformedFundingTransactionId
  match hexBytes value.toList with
  | none => throw .malformedFundingTransactionId
  | some decoded =>
    let id := BitVec.ofNat 256 (bytesValue decoded.reverse)
    ensure (zcashTransactionId id = value) .nonCanonicalFundingTransactionId
    ensure (id ≠ 0) .nullFundingTransactionId
    return id

structure ZcashFundingContextV1 where
  agreementCommitment : Bytes32
  swapId : Identifier
  zcashFunder : Participant
  fundingTransactionId : Identifier
  fundingOutpoint : OutPoint

def fundingContextPhase : Phase → Bool
  | .awaitingTakerConfirmations | .takerLockConfirmed | .bothLegsLocked | .claimEvidenceAvailable
  | .makerLegRefunded | .takerLegRefunded => true
  | _ => false

def ZcashFundingContextV1.fromActive (agreement : ZecAgreementV1) (coordinator : SwapCoordinator) :
    Except ZcashClaimContextError ZcashFundingContextV1 := do
  ensure (fundingContextPhase coordinator.phase) (.fundingNotReady coordinator.phase)
  let agreed := agreement.coordinator
  ensure (coordinator.id = agreed.id ∧ coordinator.pair = agreed.pair ∧
    coordinator.direction = agreed.direction) .coordinatorContextMismatch
  let zcashFunder := agreement.lezClaimant
  let actualChain := coordinator.fundedChain zcashFunder
  ensure (actualChain = .zcash) (.zcashFunderMismatch zcashFunder actualChain)
  match coordinator.fundingTransactionId zcashFunder with
  | none => throw (.missingFundingTransactionId zcashFunder)
  | some fundingTransactionId =>
    let id ← parseCanonicalTxid fundingTransactionId.text
    return { agreementCommitment := agreement.agreementCommitment, swapId := coordinator.id
             zcashFunder, fundingTransactionId, fundingOutpoint := ⟨id, 0⟩ }

def ZcashClaimContextV1.fromActive (agreement : ZecAgreementV1) (coordinator : SwapCoordinator) :
    Except ZcashClaimContextError ZcashFundingContextV1 := do
  ensure (coordinator.phase = .claimEvidenceAvailable) (.claimNotReady coordinator.phase)
  ZcashFundingContextV1.fromActive agreement coordinator

structure ZcashUnspentOutputSnapshotV1 where
  outpoint : OutPoint
  output : TxOut
  tip : StableTip

inductive ZcashFundingWaitReasonV1
  | absent | spent | unstable

inductive ZcashFundingObservationV1
  | waiting (reason : ZcashFundingWaitReasonV1)
  | confirmed (canonical : CanonicalZcashOutputObservation) (unspent : ZcashUnspentOutputSnapshotV1)

inductive ZcashFundingObservationError
  | networkMismatch
  | consensusBranchMismatch
  | transactionIdMismatch
  | canonicalOutpointMismatch
  | canonicalValueMismatch
  | canonicalScriptMismatch
  | insufficientConfirmations (required actual : Nat)
  | invalidUnspentTip
  | unspentOutpointMismatch
  | unspentValueMismatch
  | unspentScriptMismatch
  | unspentTipMismatch
  | refundHeightReached (tipHeight refundHeight : Nat)

def minPreRevealZcashConfirmations : Nat := 2

/-- The last check before the secret leaves the process. It reads the Zcash leg only. -/
def validateConfirmedForReveal (hash160 : Bytes → PubkeyHash)
    (canonical : CanonicalZcashOutputObservation) (unspent : ZcashUnspentOutputSnapshotV1)
    (agreement : ZecAgreementV1) (coordinator : SwapCoordinator) (context : ZcashFundingContextV1) :
    Except ZcashFundingObservationError Unit := do
  let expected := agreement.binding.expectedOutput
  ensure (canonical.network = expected.network) .networkMismatch
  ensure (canonical.consensusBranchId = expected.consensusBranchId) .consensusBranchMismatch
  ensure (canonical.transactionId = context.fundingOutpoint.transactionId) .transactionIdMismatch
  ensure (canonical.outpoint = context.fundingOutpoint) .canonicalOutpointMismatch
  ensure (canonical.output.value = expected.value) .canonicalValueMismatch
  ensure (canonical.output.scriptPubkey = expected.contract.p2shScriptPubkey hash160 ∧
    canonical.p2shScriptPubkey = expected.contract.p2shScriptPubkey hash160 ∧
    canonical.redeemScript = expected.contract.redeemScript) .canonicalScriptMismatch
  let required := max (coordinator.requiredConfirmations context.zcashFunder)
    minPreRevealZcashConfirmations
  ensure (required ≤ canonical.confirmations)
    (.insufficientConfirmations required canonical.confirmations)
  ensure unspent.tip.stable .invalidUnspentTip
  ensure (unspent.outpoint = context.fundingOutpoint) .unspentOutpointMismatch
  ensure (unspent.output.value = canonical.output.value) .unspentValueMismatch
  ensure (unspent.output.scriptPubkey = canonical.output.scriptPubkey) .unspentScriptMismatch
  ensure (unspent.tip.afterHash = canonical.tipBlockHash ∧
    unspent.tip.afterHeight = canonical.tipHeight) .unspentTipMismatch
  ensure (canonical.tipHeight < agreement.zcashRefundAtHeight)
    (.refundHeightReached canonical.tipHeight agreement.zcashRefundAtHeight)

inductive PortError
  | unavailable

abbrev Answer (α : Type) := Except PortError α

inductive PortObservation (Evidence : Type)
  | absent
  | unstable
  | confirmed (evidence : Evidence)

inductive RefundFundingWaitReasonV1
  | absent | spent | reorged

inductive RefundEligibilityObservationV1
  | unstable
  | fundingUnavailable (reason : RefundFundingWaitReasonV1)
  | canonical (position : ChainPosition)

inductive RefundSubmitOutcomeV1
  | accepted | definitivelyRejected | unknown

/-- The answers one call to `drive_first_lock` or `drive_maker_lock` gets for the steps of a plan. -/
structure LockPorts where
  observeFirstLock : FirstLockStepV1 → Answer (PortObservation FirstLockConfirmedEvidenceV1)
  submitFirstLock : Answer Unit

/-- The answers one call to `drive_claim` gets, with the nonce of what it encrypts. -/
structure ClaimPorts where
  prepareClaim : Answer (PreparedSubmission ClaimStepV1)
  nonce : BitVec 192
  observeRevealingClaim : Answer (PortObservation RevealingClaimEvidenceV1)
  observeFundingBeforeReveal : Answer ZcashFundingObservationV1
  observeFollowupClaim : Answer (PortObservation FollowupClaimEvidenceV1)
  submitClaim : Answer Unit

/-- The answers one call to `drive_refund` gets. Eligibility is asked before a refund is prepared and
    again before it is submitted. -/
structure RefundPorts where
  eligibilityBeforePrepare : Answer RefundEligibilityObservationV1
  prepareRefund : Answer (PreparedSubmission RefundStepV1)
  observePreparedRefund : Answer (PortObservation RefundEvidenceV1)
  eligibilityBeforeSubmit : Answer RefundEligibilityObservationV1
  submitRefund : Answer RefundSubmitOutcomeV1
  observeCounterpartyRefund : Answer (PortObservation RefundEvidenceV1)

end AtomicSwaps.Zec
