import AtomicSwaps.Core.Coordinator
import AtomicSwaps.Escrow.Accounts
import AtomicSwaps.Transition.Fallible
import AtomicSwaps.Zec.Contract

namespace AtomicSwaps.Zec

open AtomicSwaps.Core AtomicSwaps.Escrow Fallible

inductive LezEnvironmentV1
  | deterministicLocalV02 | publicTestnetV02 | deterministicLocalV012Compatibility
deriving DecidableEq

structure LezChainIdentityV1 where
  environment : LezEnvironmentV1
  (channelId genesisBlockHash : Bytes32)
deriving DecidableEq

/-- The 33 bytes of a compressed secp256k1 key: the parity byte and the coordinate. -/
structure CompressedKey where
  parity : UInt8
  coordinate : Bytes32
deriving DecidableEq

def CompressedKey.bytes (key : CompressedKey) : Bytes := key.parity :: bytes32 key.coordinate

abbrev CompactSignature := BitVec 512

structure ZecParticipantIdentityV1 where
  lezOwnerAccount : AccountId
  zcashCompressedPubkey : CompressedKey

structure ZecParticipantsV1 where
  (maker taker : ZecParticipantIdentityV1)

def ZecParticipantsV1.forParticipant (participants : ZecParticipantsV1) : Participant → ZecParticipantIdentityV1
  | .maker => participants.maker
  | .taker => participants.taker

inductive LezAssetV1
  | native (authenticatedTransferProgramId : ProgramId)
  | fungibleToken (definitionAccount : AccountId) (tokenProgramId ataProgramId : ProgramId)
      (depositorAta claimantAta : AccountId)

structure ZecLezTermsV1 where
  chain : LezChainIdentityV1
  amount : Nat
  escrowProgramId : ProgramId
  (metadataAccount custodyAccount : AccountId)
  asset : LezAssetV1
  bounded : amount < u128Limit

structure ZecSwapBindingRecordV1 where
  profileId : ZecProfileId
  network : NetworkType
  (consensusBranchId valueZatoshis refundLockTime : Nat)
  refundPubkeyHash : PubkeyHash
  secretDigest : Bytes32
  claimantPubkeyHash : PubkeyHash
  (redeemScript p2shScriptPubkey : Bytes)

structure ZecTransactionPolicyV1 where
  fundingInputSetCommitment : Bytes32
  (fundingFeeZatoshis minimumChangeZatoshis claimFeeZatoshis refundFeeZatoshis : Nat)
  (fundingChangeDestination claimDestination refundDestination : PubkeyHash)
  expiryDeltaBlocks : Nat

structure ZecRefundPlanV1 where
  (lezFundingAnchorUnixSeconds zcashFundingAnchorHeight earlierRefundLatestLezMs : Nat)
  laterRefundEarliestUnixSeconds : Nat

structure NegotiationTranscriptV1 where
  (sessionId offerCommitment : Bytes32)
  expiresAtUnixSeconds : Nat

structure ZecAgreementBodyV1 where
  applicationSwapId : String
  direction : SwapDirection
  profile : ZecProfileId
  participants : ZecParticipantsV1
  secretDigest : Bytes32
  lez : ZecLezTermsV1
  zcash : ZecSwapBindingRecordV1
  transactionPolicy : ZecTransactionPolicyV1
  refundPlan : ZecRefundPlanV1
  transcript : NegotiationTranscriptV1

structure ZecAgreementRecordV1 where
  schemaVersion : Nat
  body : ZecAgreementBodyV1
  agreementCommitment : Bytes32
  (makerSignature takerSignature : CompactSignature)

/-- The hash functions, curve operations and codecs the agreement rests on. A parsed public key and
    a parsed signature are given by their canonical encodings. -/
structure Primitives where
  sha256 : Bytes → Bytes32
  hash160 : Bytes → PubkeyHash
  encodeBody : ZecAgreementBodyV1 → Bytes
  branchId : Nat → Option BranchId
  publicKeyFromSlice : CompressedKey → Option CompressedKey
  signatureFromCompact : CompactSignature → Option CompactSignature
  normalizeS : CompactSignature → CompactSignature
  verifyEcdsa : Bytes32 → CompactSignature → CompressedKey → Bool

variable (primitives : Primitives)

def Primitives.secretDigest (secret : Bytes32) : Bytes32 :=
  primitives.sha256 (bytes32 secret)

inductive ZecBindingRecordError
  | unknownBranch
  | invalidValue
  | derivedScriptMismatch
  | eventMismatch
  | profile (error : ProfileError)

inductive ZecAgreementV1Error
  | unsupportedSchema (version : Nat)
  | invalidSwapId
  | applicationIdTooLong
  | emptySecretDigest
  | emptyTranscriptIdentity
  | expired
  | emptyLezGenesis
  | emptyLezChannel
  | lezEnvironmentMismatch
  | emptyLezIdentity
  | conflictingLezPrograms
  | lezDerivationMismatch
  | emptyLezAmount
  | duplicateParticipantIdentity
  | invalidZcashPublicKey (participant : Participant)
  | commitmentMismatch
  | invalidSignatureEncoding (participant : Participant)
  | nonCanonicalSignature (participant : Participant)
  | signatureMismatch (participant : Participant)
  | binding (error : ZecBindingRecordError)
  | profileMismatch
  | emptyZcashAmount
  | secretDigestMismatch
  | zcashRefundAuthorityMismatch
  | zcashClaimantMismatch
  | zcashRefundDeadlineMismatch
  | earlierRefundBoundBeforeLezDeadline
  | emptyFundingInputSetCommitment
  | unsafeTransactionFee (transaction : String)
  | transactionDestinationMismatch (destination : String)
  | expiryDeltaMismatch
  | invalidDustPolicy
  | invalidRefundProfile (error : ProfileError)
  | invalidConfirmationPolicy

def textBytes (text : String) : Bytes := text.toUTF8.data.toList

def ZecAgreementBodyV1.commitment (body : ZecAgreementBodyV1) : Bytes32 :=
  primitives.sha256 (textBytes "logos.gateway.lez-zec.agreement.v1\x00" ++ primitives.encodeBody body)

def deriveLezSwapIdV1 (applicationSwapId : String) : Bytes32 :=
  primitives.sha256 (textBytes "logos.gateway.lez-swap-id.v1\x00" ++ textBytes applicationSwapId)

/-- Who funds the LEZ escrow, who claims it, who funds and can refund the Zcash output and who
    claims that. -/
structure RoleMapping where
  (lezDepositor lezClaimant zcashRefunder zcashClaimant : Participant)

def roleMapping : SwapDirection → RoleMapping
  | .takerSellsForeign => ⟨.maker, .taker, .taker, .maker⟩
  | .takerSellsLez => ⟨.taker, .maker, .maker, .taker⟩

def validateTranscript (transcript : NegotiationTranscriptV1) (now : Nat) : Except ZecAgreementV1Error Unit := do
  ensure (transcript.sessionId ≠ 0 ∧ transcript.offerCommitment ≠ 0 ∧
    transcript.expiresAtUnixSeconds ≠ 0) .emptyTranscriptIdentity
  ensure (now < transcript.expiresAtUnixSeconds) .expired

def parseRoleKey (participants : ZecParticipantsV1)
    (participant : Participant) : Except ZecAgreementV1Error CompressedKey := do
  let bytes := (participants.forParticipant participant).zcashCompressedPubkey
  ensure (bytes.parity = 2 ∨ bytes.parity = 3) (.invalidZcashPublicKey participant)
  match primitives.publicKeyFromSlice bytes with
  | none => .error (.invalidZcashPublicKey participant)
  | some key =>
    ensure (key = bytes) (.invalidZcashPublicKey participant)
    return key

def verifyRoleSignature (participant : Participant)
    (publicKey : CompressedKey) (compact : CompactSignature) (commitment : Bytes32) :
    Except ZecAgreementV1Error Unit :=
  match primitives.signatureFromCompact compact with
  | none => .error (.invalidSignatureEncoding participant)
  | some signature => do
    ensure (primitives.normalizeS signature = signature) (.nonCanonicalSignature participant)
    ensure (primitives.verifyEcdsa commitment signature publicKey) (.signatureMismatch participant)

def validateParticipants (participants : ZecParticipantsV1) : Except ZecAgreementV1Error Unit := do
  let maker := participants.forParticipant .maker
  let taker := participants.forParticipant .taker
  ensure (maker.lezOwnerAccount ≠ .zero ∧ taker.lezOwnerAccount ≠ .zero) .emptyLezIdentity
  ensure (maker.lezOwnerAccount ≠ taker.lezOwnerAccount ∧
    maker.zcashCompressedPubkey ≠ taker.zcashCompressedPubkey) .duplicateParticipantIdentity
  let _ ← parseRoleKey primitives participants .maker
  let _ ← parseRoleKey primitives participants .taker

def environmentMatchesProfile : ZecProfileId → LezEnvironmentV1 → Bool
  | .deterministicLocalV1, .deterministicLocalV02
  | .deterministicLocalV1, .deterministicLocalV012Compatibility
  | .publicTestnetV1, .publicTestnetV02 => true
  | _, _ => false

def validateLezChainProfile (body : ZecAgreementBodyV1) (terms : ZecLezTermsV1) :
    Except ZecAgreementV1Error Unit := do
  ensure (terms.chain.channelId ≠ 0) .emptyLezChannel
  ensure (terms.chain.genesisBlockHash ≠ 0) .emptyLezGenesis
  ensure (environmentMatchesProfile body.profile terms.chain.environment) .lezEnvironmentMismatch

def validateLezAsset (terms : ZecLezTermsV1) (onchainSwapId : Bytes32)
    (expectedMetadata depositorOwner claimantOwner : AccountId) : Except ZecAgreementV1Error Unit :=
  match terms.asset with
  | .native authenticatedTransferProgramId => do
    ensure (authenticatedTransferProgramId ≠ 0) .emptyLezIdentity
    ensure (authenticatedTransferProgramId ≠ terms.escrowProgramId) .conflictingLezPrograms
    ensure (terms.custodyAccount = .custody terms.escrowProgramId onchainSwapId) .lezDerivationMismatch
  | .fungibleToken definitionAccount tokenProgramId ataProgramId depositorAta claimantAta => do
    ensure (definitionAccount ≠ .zero ∧ tokenProgramId ≠ 0 ∧ ataProgramId ≠ 0) .emptyLezIdentity
    ensure (tokenProgramId ≠ ataProgramId ∧ tokenProgramId ≠ terms.escrowProgramId ∧
      ataProgramId ≠ terms.escrowProgramId) .conflictingLezPrograms
    ensure (terms.custodyAccount = .associatedToken ataProgramId expectedMetadata definitionAccount ∧
      depositorAta = .associatedToken ataProgramId depositorOwner definitionAccount ∧
      claimantAta = .associatedToken ataProgramId claimantOwner definitionAccount)
      .lezDerivationMismatch

def validateLezTerms (body : ZecAgreementBodyV1) : Except ZecAgreementV1Error Unit := do
  let terms := body.lez
  validateLezChainProfile body terms
  ensure (terms.amount ≠ 0) .emptyLezAmount
  ensure (terms.escrowProgramId ≠ 0) .emptyLezIdentity
  let onchainSwapId := deriveLezSwapIdV1 primitives body.applicationSwapId
  let expectedMetadata := AccountId.metadata terms.escrowProgramId onchainSwapId
  ensure (terms.metadataAccount = expectedMetadata) .lezDerivationMismatch
  let roles := roleMapping body.direction
  validateLezAsset terms onchainSwapId expectedMetadata
    (body.participants.forParticipant roles.lezDepositor).lezOwnerAccount
    (body.participants.forParticipant roles.lezClaimant).lezOwnerAccount

structure ValidatedEnvelope where
  swapId : Identifier
  (makerZcashKey takerZcashKey : CompressedKey)

def validateEnvelope (record : ZecAgreementRecordV1) (now : Nat) :
    Except ZecAgreementV1Error ValidatedEnvelope := do
  ensure (record.schemaVersion = 2) (.unsupportedSchema record.schemaVersion)
  let body := record.body
  ensure (body.applicationSwapId.utf8ByteSize ≤ 128) .applicationIdTooLong
  let swapId ← (Identifier.new body.applicationSwapId).mapError fun _ => .invalidSwapId
  ensure (body.secretDigest ≠ 0) .emptySecretDigest
  validateTranscript body.transcript now
  validateParticipants primitives body.participants
  validateLezTerms primitives body
  let expectedCommitment := body.commitment primitives
  ensure (record.agreementCommitment = expectedCommitment) .commitmentMismatch
  let makerZcashKey ← parseRoleKey primitives body.participants .maker
  let takerZcashKey ← parseRoleKey primitives body.participants .taker
  verifyRoleSignature primitives .maker makerZcashKey record.makerSignature expectedCommitment
  verifyRoleSignature primitives .taker takerZcashKey record.takerSignature expectedCommitment
  return { swapId, makerZcashKey, takerZcashKey }

structure ZecSwapBinding where
  profileId : ZecProfileId
  expectedOutput : ExpectedBip199Output

def ZecSwapBinding.new (profileId : ZecProfileId) (expectedOutput : ExpectedBip199Output) :
    Except ProfileError ZecSwapBinding := do
  (ZecRefundProfile.forId profileId).validateConsensus expectedOutput.network
    expectedOutput.consensusBranchId
  return { profileId, expectedOutput }

def ZecSwapBindingRecordV1.validate (record : ZecSwapBindingRecordV1) :
    Except ZecBindingRecordError ZecSwapBinding :=
  match primitives.branchId record.consensusBranchId with
  | none => .error .unknownBranch
  | some branch => do
    ensure (record.valueZatoshis ≤ maxMoney) .invalidValue
    let contract : Bip199Contract :=
      { refundLockTime := record.refundLockTime, refundPubkeyHash := record.refundPubkeyHash
        secretDigest := record.secretDigest, claimantPubkeyHash := record.claimantPubkeyHash }
    ensure (contract.redeemScript = record.redeemScript ∧
      contract.p2shScriptPubkey primitives.hash160 = record.p2shScriptPubkey) .derivedScriptMismatch
    (ZecSwapBinding.new record.profileId
      { network := record.network, consensusBranchId := branch, value := record.valueZatoshis
        contract }).mapError .profile

def validateTransactionPolicy (body : ZecAgreementBodyV1) (binding : ZecSwapBinding)
    (refunderHash claimantHash : PubkeyHash) : Except ZecAgreementV1Error Unit := do
  let policy := body.transactionPolicy
  ensure (policy.fundingInputSetCommitment ≠ 0) .emptyFundingInputSetCommitment
  let principal := binding.expectedOutput.value
  ensure (policy.fundingFeeZatoshis ≠ 0 ∧ policy.fundingFeeZatoshis ≤ principal)
    (.unsafeTransactionFee "funding")
  ensure (policy.minimumChangeZatoshis ≠ 0 ∧ policy.minimumChangeZatoshis ≤ principal)
    .invalidDustPolicy
  ensure (policy.claimFeeZatoshis ≠ 0 ∧ policy.claimFeeZatoshis < principal)
    (.unsafeTransactionFee "claim")
  ensure (policy.refundFeeZatoshis ≠ 0 ∧ policy.refundFeeZatoshis < principal)
    (.unsafeTransactionFee "refund")
  ensure (policy.fundingChangeDestination = refunderHash)
    (.transactionDestinationMismatch "funding change")
  ensure (policy.claimDestination = claimantHash) (.transactionDestinationMismatch "claim")
  ensure (policy.refundDestination = refunderHash) (.transactionDestinationMismatch "refund")
  ensure (policy.expiryDeltaBlocks = (ZecRefundProfile.forId binding.profileId).expiryDeltaBlocks)
    .expiryDeltaMismatch

def validateBinding (body : ZecAgreementBodyV1)
    (makerZcashKey takerZcashKey : CompressedKey) : Except ZecAgreementV1Error ZecSwapBinding := do
  let binding ← (body.zcash.validate primitives).mapError .binding
  ensure (binding.profileId = body.profile) .profileMismatch
  ensure (binding.expectedOutput.value ≠ 0) .emptyZcashAmount
  let contract := binding.expectedOutput.contract
  ensure (contract.secretDigest = body.secretDigest) .secretDigestMismatch
  let keyOf : Participant → CompressedKey
    | .maker => makerZcashKey
    | .taker => takerZcashKey
  let roles := roleMapping body.direction
  let expectedRefundHash := primitives.hash160 (keyOf roles.zcashRefunder).bytes
  ensure (contract.refundPubkeyHash = expectedRefundHash) .zcashRefundAuthorityMismatch
  let expectedClaimantHash := primitives.hash160 (keyOf roles.zcashClaimant).bytes
  ensure (contract.claimantPubkeyHash = expectedClaimantHash) .zcashClaimantMismatch
  validateTransactionPolicy body binding expectedRefundHash expectedClaimantHash
  return binding

structure DerivedProtocol where
  coordinator : SwapCoordinator
  (lezRefundAtMs zcashRefundAtHeight : Nat)

def confirmationsFor (profile : ZecRefundProfile) (direction : SwapDirection) (participant : Participant) : Nat :=
  match direction, participant with
  | .takerSellsForeign, .taker | .takerSellsLez, .maker => profile.zcashConfirmations
  | .takerSellsForeign, .maker | .takerSellsLez, .taker => profile.lezConfirmations

def deriveProtocol (body : ZecAgreementBodyV1) (binding : ZecSwapBinding) (swapId : Identifier) :
    Except ZecAgreementV1Error DerivedProtocol := do
  let profile := ZecRefundProfile.forId binding.profileId
  let lezRefundAt ← (profile.lezRefundAt body.refundPlan.lezFundingAnchorUnixSeconds).mapError
    .invalidRefundProfile
  ensure (lezRefundAt ≤ body.refundPlan.earlierRefundLatestLezMs) .earlierRefundBoundBeforeLezDeadline
  let zcashRefundAt ← (profile.zcashRefundAt body.refundPlan.zcashFundingAnchorHeight).mapError
    .invalidRefundProfile
  ensure (binding.expectedOutput.contract.refundLockTime = zcashRefundAt) .zcashRefundDeadlineMismatch
  let schedule ← (profile.recoverySchedule body.direction (lezRefundAt / 1000) zcashRefundAt
    body.refundPlan.earlierRefundLatestLezMs
    (some body.refundPlan.laterRefundEarliestUnixSeconds)).mapError .invalidRefundProfile
  let takerPolicy ← (ConfirmationPolicy.new (confirmationsFor profile body.direction .taker)).mapError
    fun _ => .invalidConfirmationPolicy
  let makerPolicy ← (ConfirmationPolicy.new (confirmationsFor profile body.direction .maker)).mapError
    fun _ => .invalidConfirmationPolicy
  return { coordinator := .newWithConfirmationPolicies swapId .zcash body.direction takerPolicy
             makerPolicy schedule
           lezRefundAtMs := lezRefundAt, zcashRefundAtHeight := zcashRefundAt }

/-- An agreement record together with every executable term derived from it. -/
structure ZecAgreementV1 where
  record : ZecAgreementRecordV1
  binding : ZecSwapBinding
  coordinator : SwapCoordinator
  (makerZcashKey takerZcashKey : CompressedKey)
  (lezRefundAtMs zcashRefundAtHeight : Nat)
  onchainSwapId : Bytes32

namespace ZecAgreementV1

def validateAt (primitives : Primitives) (record : ZecAgreementRecordV1) (now : Nat) :
    Except ZecAgreementV1Error ZecAgreementV1 := do
  let envelope ← validateEnvelope primitives record now
  let binding ← validateBinding primitives record.body envelope.makerZcashKey envelope.takerZcashKey
  let protocol ← deriveProtocol record.body binding envelope.swapId
  return { record, binding, coordinator := protocol.coordinator
           makerZcashKey := envelope.makerZcashKey, takerZcashKey := envelope.takerZcashKey
           lezRefundAtMs := protocol.lezRefundAtMs, zcashRefundAtHeight := protocol.zcashRefundAtHeight
           onchainSwapId := deriveLezSwapIdV1 primitives record.body.applicationSwapId }

variable (agreement : ZecAgreementV1)

def body : ZecAgreementBodyV1 := agreement.record.body

def direction : SwapDirection := agreement.record.body.direction

def agreementCommitment : Bytes32 := agreement.record.agreementCommitment

def secretDigest : Bytes32 := agreement.record.body.secretDigest

def lezDepositor : Participant := (roleMapping agreement.direction).lezDepositor

def lezClaimant : Participant := (roleMapping agreement.direction).lezClaimant

end ZecAgreementV1

end AtomicSwaps.Zec
