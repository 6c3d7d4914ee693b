import AtomicSwaps.Transition.Tracker
import AtomicSwaps.Zec.Agreement

namespace AtomicSwaps.Zec

open AtomicSwaps.Core AtomicSwaps.Escrow Fallible

structure OutPoint where
  transactionId : Bytes32
  index : Nat
deriving DecidableEq

structure TxOut where
  value : Nat
  scriptPubkey : Bytes
deriving DecidableEq

/-- A decoded Zcash transaction. Its id does not commit to the authorising data. -/
structure ZcashTransaction where
  id : Bytes32
  inputs : List OutPoint
  outputs : List TxOut
  (lockTime expiryHeight : Nat)
  authorisation : Bytes
deriving DecidableEq

def hexDigit (value : Nat) : Char := Char.ofNat (if value < 10 then 48 + value else 87 + value)

def hexText (bytes : Bytes) : String :=
  String.ofList (bytes.flatMap fun byte => [hexDigit (byte.toNat / 16), hexDigit (byte.toNat % 16)])

def lezTransactionId (id : Bytes32) : String := hexText (bytes32 id)

/-- Zcash displays transaction ids byte-reversed. -/
def zcashTransactionId (id : Bytes32) : String := hexText (bytes32 id).reverse

structure StableTip where
  beforeHash : Bytes32
  beforeHeight : Nat
  afterHash : Bytes32
  afterHeight : Nat
deriving DecidableEq

def StableTip.stable (tip : StableTip) : Bool :=
  decide (tip.beforeHash = tip.afterHash ∧ tip.beforeHeight = tip.afterHeight)

/-- An output proven canonical under one stable tip. A durable record of it is decoded only when
    the facts below hold of the decoded values. -/
structure CanonicalZcashOutputObservation where
  network : NetworkType
  consensusBranchId : BranchId
  blockHash : Bytes32
  blockHeight : Nat
  tipBlockHash : Bytes32
  tipHeight : Nat
  transaction : ZcashTransaction
  outputIndex : Nat
  output : TxOut
  (redeemScript p2shScriptPubkey : Bytes)
  belowTip : blockHeight ≤ tipHeight
  included : transaction.outputs[outputIndex]? = some output
  paysScript : output.scriptPubkey = p2shScriptPubkey
deriving DecidableEq

namespace CanonicalZcashOutputObservation

variable (observation : CanonicalZcashOutputObservation)

def transactionId : Bytes32 := observation.transaction.id

def outpoint : OutPoint := ⟨observation.transaction.id, observation.outputIndex⟩

def confirmations : Nat := observation.tipHeight - observation.blockHeight + 1

def sameCanonicalInclusion (left right : CanonicalZcashOutputObservation) : Bool :=
  decide (left.network = right.network ∧ left.consensusBranchId = right.consensusBranchId ∧
    left.blockHash = right.blockHash ∧ left.blockHeight = right.blockHeight ∧
    left.outpoint = right.outpoint ∧ left.output = right.output ∧
    left.redeemScript = right.redeemScript ∧ left.p2shScriptPubkey = right.p2shScriptPubkey)

/-- The output, scripts and consensus rules an observation must share with the agreement. -/
def boundTo (hash160 : Bytes → PubkeyHash) (expected : ExpectedBip199Output) : Bool :=
  decide (observation.network = expected.network ∧
    observation.consensusBranchId = expected.consensusBranchId ∧
    observation.output.value = expected.value ∧
    observation.redeemScript = expected.contract.redeemScript ∧
    observation.p2shScriptPubkey = expected.contract.p2shScriptPubkey hash160)

end CanonicalZcashOutputObservation

structure CanonicalZcashOutputRemoval where
  previous : CanonicalZcashOutputObservation
  (canonicalBlockHashAtRemovedHeight tipBlockHash : Bytes32)
  tipHeight : Nat
  aboveBlock : previous.blockHeight ≤ tipHeight
  moved : canonicalBlockHashAtRemovedHeight ≠ previous.blockHash
deriving DecidableEq

inductive ObservationTrackerError
  | replacementProofRequired | staleEvidence

abbrev ZcashObservationEvent :=
  Tracker.Event CanonicalZcashOutputObservation CanonicalZcashOutputRemoval

abbrev ZcashObservationTracker := Option CanonicalZcashOutputObservation

/-- Zcash readings carry no finality, so a deeper reading of the same inclusion is always taken. -/
def zcashTracking : Tracker.Policy CanonicalZcashOutputObservation CanonicalZcashOutputRemoval
    ObservationTrackerError where
  previous := CanonicalZcashOutputRemoval.previous
  sameInclusion := CanonicalZcashOutputObservation.sameCanonicalInclusion
  advance _ _ := .ok ()
  replace _ _ := .ok ()
  replacementProofRequired := .replacementProofRequired
  staleEvidence := .staleEvidence

inductive LezInclusionStatusV1
  | pending | safe | finalized
deriving DecidableEq

def LezInclusionStatusV1.rank : LezInclusionStatusV1 → Nat
  | .pending => 0
  | .safe => 1
  | .finalized => 2

inductive LezFundInstructionV1
  | native (swapId : Bytes32)
  | token (swapId : Bytes32)
deriving DecidableEq

structure LezFundTransactionSnapshotV1 where
  transactionId : Bytes32
  programId : ProgramId
  signer : AccountId
  accounts : List AccountId
  instruction : LezFundInstructionV1
  (isPublic signatureValid : Bool)
  inclusionHeight : Nat
  (inclusionBlockHash canonicalBlockHash : Bytes32)
  inclusionStatus : LezInclusionStatusV1
deriving DecidableEq

inductive LezEscrowStatusV1
  | empty | funded | claimed | refunded
deriving DecidableEq

structure LezEscrowMetadataSnapshotV1 where
  version : Nat
  (swapId termsHash secretDigest : Bytes32)
  (depositor depositorAsset claimant claimantAsset custody : AccountId)
  (assetProgram custodyProgram : ProgramId)
  assetDefinition : AccountId
  (amount refundAt : Nat)
  status : LezEscrowStatusV1
deriving DecidableEq

inductive LezCustodySnapshotV1
  | native (programOwner : ProgramId) (balance : Nat)
  | token (programOwner : ProgramId) (definition : AccountId) (balance : Nat)
deriving DecidableEq

structure LezNodeSnapshotV1 where
  chain : LezChainIdentityV1
  tip : StableTip
  transaction : LezFundTransactionSnapshotV1
  metadataProgramOwner : ProgramId
  metadataAccount : AccountId
  metadata : LezEscrowMetadataSnapshotV1
  custodyAccount : AccountId
  custody : LezCustodySnapshotV1
deriving DecidableEq

inductive LezObservationError
  | chainIdentityMismatch
  | unstableTip
  | noncanonicalInclusion
  | invalidConfirmationDepth
  | transactionBindingMismatch
  | transactionAccountsMismatch
  | metadataBindingMismatch
  | custodyBindingMismatch
  | inclusionStillCanonical
  | finalizedHistoryViolation
  | tipRegression

structure ExpectedAccountBinding where
  (depositor claimant depositorAsset claimantAsset : AccountId)
  (assetProgram custodyProgram : ProgramId)
  definition : AccountId
  transactionAccounts : List AccountId

variable (agreement : ZecAgreementV1)

def ZecAgreementV1.lezAccount (participant : Participant) : AccountId :=
  (agreement.body.participants.forParticipant participant).lezOwnerAccount

def ExpectedAccountBinding.fromAgreement : ExpectedAccountBinding :=
  let terms := agreement.body.lez
  let depositor := agreement.lezAccount agreement.lezDepositor
  let claimant := agreement.lezAccount agreement.lezClaimant
  match terms.asset with
  | .native authenticatedTransferProgramId =>
    { depositor, claimant, depositorAsset := depositor, claimantAsset := claimant
      assetProgram := authenticatedTransferProgramId
      custodyProgram := authenticatedTransferProgramId, definition := .zero
      transactionAccounts := [terms.metadataAccount, terms.custodyAccount, depositor] }
  | .fungibleToken definitionAccount tokenProgramId ataProgramId depositorAta claimantAta =>
    { depositor, claimant, depositorAsset := depositorAta, claimantAsset := claimantAta
      assetProgram := tokenProgramId, custodyProgram := ataProgramId
      definition := definitionAccount
      transactionAccounts := [terms.metadataAccount, depositor, depositorAta, terms.custodyAccount] }

/-- Depth of an inclusion under a tip, counting its own block. -/
def depth (tipHeight inclusionHeight : Nat) : Nat := tipHeight - inclusionHeight + 1

def validateLezChainPositionParts (chain : LezChainIdentityV1)
    (tip : StableTip) (inclusionHeight : Nat) (inclusionBlockHash canonicalBlockHash : Bytes32) :
    Except LezObservationError Unit := do
  ensure (chain = agreement.body.lez.chain) .chainIdentityMismatch
  ensure tip.stable .unstableTip
  ensure (inclusionBlockHash = canonicalBlockHash ∧ inclusionHeight ≤ tip.afterHeight)
    .noncanonicalInclusion
  ensure (depth tip.afterHeight inclusionHeight < u32Limit) .invalidConfirmationDepth

variable (snapshot : LezNodeSnapshotV1)

def validateChainPosition : Except LezObservationError Unit :=
  validateLezChainPositionParts agreement snapshot.chain snapshot.tip
    snapshot.transaction.inclusionHeight snapshot.transaction.inclusionBlockHash
    snapshot.transaction.canonicalBlockHash

def fundInstructionMatches (instruction : LezFundInstructionV1) : Bool :=
  match agreement.body.lez.asset, instruction with
  | .native _, .native swapId | .fungibleToken _ _ _ _ _, .token swapId =>
    decide (swapId = agreement.onchainSwapId)
  | _, _ => false

variable (expected : ExpectedAccountBinding)

def validateFundTransaction : Except LezObservationError Unit := do
  let transaction := snapshot.transaction
  ensure (transaction.isPublic ∧ transaction.signatureValid ∧
    transaction.programId = agreement.body.lez.escrowProgramId ∧
    transaction.signer = agreement.lezAccount agreement.lezDepositor ∧
    fundInstructionMatches agreement transaction.instruction) .transactionBindingMismatch
  ensure (transaction.accounts = expected.transactionAccounts) .transactionAccountsMismatch

def expectedMetadataVersion : LezEnvironmentV1 → Nat
  | .deterministicLocalV012Compatibility => 1
  | .deterministicLocalV02 | .publicTestnetV02 => 2

def expectedEscrowMetadata (status : LezEscrowStatusV1) : LezEscrowMetadataSnapshotV1 :=
  let terms := agreement.body.lez
  { version := expectedMetadataVersion terms.chain.environment, swapId := agreement.onchainSwapId
    termsHash := agreement.agreementCommitment, secretDigest := agreement.secretDigest
    depositor := expected.depositor, depositorAsset := expected.depositorAsset
    claimant := expected.claimant, claimantAsset := expected.claimantAsset
    custody := terms.custodyAccount, assetProgram := expected.assetProgram
    custodyProgram := expected.custodyProgram, assetDefinition := expected.definition
    amount := terms.amount, refundAt := agreement.lezRefundAtMs, status }

def custodyMatches (custodyAccount : AccountId) (custody : LezCustodySnapshotV1) (expectedBalance : Nat) : Bool :=
  decide (custodyAccount = agreement.body.lez.custodyAccount) &&
    match agreement.body.lez.asset, custody with
    | .native authenticatedTransferProgramId, .native programOwner balance =>
      decide (programOwner = authenticatedTransferProgramId ∧ balance = expectedBalance)
    | .fungibleToken definitionAccount tokenProgramId _ _ _, .token programOwner definition balance =>
      decide (programOwner = tokenProgramId ∧ definition = definitionAccount ∧
        balance = expectedBalance)
    | _, _ => false

def validateEscrowAccounts : Except LezObservationError Unit := do
  let terms := agreement.body.lez
  ensure (snapshot.metadataProgramOwner = terms.escrowProgramId ∧
    snapshot.metadataAccount = terms.metadataAccount ∧
    snapshot.metadata = expectedEscrowMetadata agreement expected .funded) .metadataBindingMismatch
  ensure (custodyMatches agreement snapshot.custodyAccount snapshot.custody terms.amount)
    .custodyBindingMismatch

/-- A validated escrow reading is its snapshot; every other value is read off it. -/
structure CanonicalLezEscrowObservationV1 where
  snapshot : LezNodeSnapshotV1
deriving DecidableEq

namespace CanonicalLezEscrowObservationV1

variable (observation : CanonicalLezEscrowObservationV1)

def validate (agreement : ZecAgreementV1) (snapshot : LezNodeSnapshotV1) :
    Except LezObservationError CanonicalLezEscrowObservationV1 := do
  validateChainPosition agreement snapshot
  let expected := ExpectedAccountBinding.fromAgreement agreement
  validateFundTransaction agreement snapshot expected
  validateEscrowAccounts agreement snapshot expected
  return ⟨snapshot⟩

def transactionId : Bytes32 := observation.snapshot.transaction.transactionId

def inclusionHeight : Nat := observation.snapshot.transaction.inclusionHeight

def inclusionBlockHash : Bytes32 := observation.snapshot.transaction.inclusionBlockHash

def inclusionStatus : LezInclusionStatusV1 := observation.snapshot.transaction.inclusionStatus

def tipHeight : Nat := observation.snapshot.tip.afterHeight

def tipBlockHash : Bytes32 := observation.snapshot.tip.afterHash

def confirmations : Nat :=
  depth observation.snapshot.tip.afterHeight observation.snapshot.transaction.inclusionHeight

def sameLezInclusion (left right : CanonicalLezEscrowObservationV1) : Bool :=
  decide (left.transactionId = right.transactionId ∧ left.inclusionHeight = right.inclusionHeight ∧
    left.inclusionBlockHash = right.inclusionBlockHash ∧ left.snapshot.chain = right.snapshot.chain)

end CanonicalLezEscrowObservationV1

structure LezNodeRemovalSnapshotV1 where
  chain : LezChainIdentityV1
  canonicalBlockHashAtRemovedHeight : Bytes32
  tip : StableTip
deriving DecidableEq

structure CanonicalLezEscrowRemovalV1 where
  previous : CanonicalLezEscrowObservationV1
  snapshot : LezNodeRemovalSnapshotV1
deriving DecidableEq

namespace CanonicalLezEscrowRemovalV1

variable (removal : CanonicalLezEscrowRemovalV1)

def tipHeight : Nat := removal.snapshot.tip.afterHeight

def tipBlockHash : Bytes32 := removal.snapshot.tip.afterHash

def validate (previous : CanonicalLezEscrowObservationV1) (snapshot : LezNodeRemovalSnapshotV1) :
    Except LezObservationError CanonicalLezEscrowRemovalV1 := do
  ensure (snapshot.chain = previous.snapshot.chain) .chainIdentityMismatch
  ensure snapshot.tip.stable .unstableTip
  ensure (previous.tipHeight ≤ snapshot.tip.afterHeight) .tipRegression
  ensure (snapshot.canonicalBlockHashAtRemovedHeight ≠ previous.inclusionBlockHash)
    .inclusionStillCanonical
  ensure (previous.inclusionStatus ≠ .finalized) .finalizedHistoryViolation
  return ⟨previous, snapshot⟩

end CanonicalLezEscrowRemovalV1

inductive LezObservationTrackerError
  | replacementProofRequired | staleEvidence | finalityRegression | tipRegression | replacementTipMismatch

abbrev LezObservationEventV1 :=
  Tracker.Event CanonicalLezEscrowObservationV1 CanonicalLezEscrowRemovalV1

abbrev LezObservationTrackerV1 := Option CanonicalLezEscrowObservationV1

/-- LEZ readings carry a finality status and a tip, and neither may go back. -/
def lezTracking : Tracker.Policy CanonicalLezEscrowObservationV1 CanonicalLezEscrowRemovalV1
    LezObservationTrackerError where
  previous := CanonicalLezEscrowRemovalV1.previous
  sameInclusion := CanonicalLezEscrowObservationV1.sameLezInclusion
  advance known observation := do
    ensure (known.inclusionStatus.rank ≤ observation.inclusionStatus.rank) .finalityRegression
    ensure (known.tipHeight ≤ observation.tipHeight) .tipRegression
  replace removal observation :=
    ensure (removal.tipBlockHash = observation.tipBlockHash ∧
      removal.tipHeight = observation.tipHeight) .replacementTipMismatch
  replacementProofRequired := .replacementProofRequired
  staleEvidence := .staleEvidence

end AtomicSwaps.Zec
