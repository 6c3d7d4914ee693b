import AtomicSwaps.Btc.Policy
import AtomicSwaps.Store.MakerLock

namespace AtomicSwaps.BtcSdk

open AtomicSwaps.Core Fallible
open Btc (BtcFundingTermsV1 bitcoinFunder lezDepositor finalizedLezConfirmationUnits)
open Store.PublicEffect (Bytes)
open Store.MakerLock (ExpectedPublicEffectId ExactPublicEffectBytes PublicEffectStepId PublicEffectStepV1
  ExactPublicEffectPlanV1 PublicEffectPlanError)

section Agreement

def maxBitcoinRequiredConfirmations : Nat := 2016

structure BtcChainPolicyV1 where
  genesisBlockHash : Bytes32
  requiredConfirmations : Nat
deriving DecidableEq

def BtcChainPolicyV1.valid (policy : BtcChainPolicyV1) : Bool :=
  policy.genesisBlockHash ≠ 0 ∧ 0 < policy.requiredConfirmations ∧
    policy.requiredConfirmations ≤ maxBitcoinRequiredConfirmations

structure TxIn where
  previousOutput : Bytes32 × Nat
  scriptSig : Bytes
  sequence : Nat
  witness : List Bytes
deriving DecidableEq

structure TxOut where
  value : Nat
  scriptPubkey : Bytes
deriving DecidableEq

structure Transaction where
  (version lockTime : Nat)
  input : List TxIn
  output : List TxOut
deriving DecidableEq

def nullOutpoint : Bytes32 × Nat := (0, 2 ^ 32 - 1)

def Transaction.isCoinbase (transaction : Transaction) : Bool :=
  match transaction.input with
  | [input] => input.previousOutput = nullOutpoint
  | _ => false

structure BtcLezTermsV1 where
  (genesisBlockHash metadataAccount custodyAccount : Bytes32)
  amount : Nat
deriving DecidableEq

/-- A validated agreement, as far as the lifecycle reads it. The cooperative claim is the one-input
    spend that validation rebuilds from the funding outpoint. -/
structure BtcAgreementV1 where
  agreementCommitment : Bytes32
  swapId : Identifier
  direction : SwapDirection
  bitcoinChainPolicy : BtcChainPolicyV1
  funding : BtcFundingTermsV1
  scriptPubkey : Bytes
  lezTerms : BtcLezTermsV1
  recoverySchedule : RecoverySchedule
  claimSequence : Nat
  claimOutput : List TxOut
  validPolicy : bitcoinChainPolicy.valid = true
  realOutpoint : (funding.transactionId, funding.outputIndex) ≠ nullOutpoint
deriving DecidableEq

namespace BtcAgreementV1

variable (agreement : BtcAgreementV1)

def bitcoinPolicy : ConfirmationPolicy :=
  ⟨agreement.bitcoinChainPolicy.requiredConfirmations, by
    have valid := agreement.validPolicy
    simp only [BtcChainPolicyV1.valid, decide_eq_true_eq] at valid
    exact valid.2.1⟩

def lezPolicy : ConfirmationPolicy := ⟨finalizedLezConfirmationUnits, by decide⟩

def coordinator : SwapCoordinator :=
  match agreement.direction with
  | .takerSellsForeign => .newWithConfirmationPolicies agreement.swapId .bitcoin agreement.direction
      agreement.bitcoinPolicy lezPolicy agreement.recoverySchedule
  | .takerSellsLez => .newWithConfirmationPolicies agreement.swapId .bitcoin agreement.direction
      lezPolicy agreement.bitcoinPolicy agreement.recoverySchedule

def bitcoinClaimant : Participant := (bitcoinFunder agreement.direction).other

def lezClaimant : Participant := (lezDepositor agreement.direction).other

def cooperativeClaim (witness : List Bytes) : Transaction :=
  ⟨2, 0, [⟨(agreement.funding.transactionId, agreement.funding.outputIndex), [], agreement.claimSequence,
    witness⟩], agreement.claimOutput⟩

end BtcAgreementV1

structure FixedBytes (size : Nat) where
  bytes : Bytes
  sized : bytes.length = size
deriving DecidableEq

abbrev Signature := FixedBytes 64

abbrev Presignature := FixedBytes 65

inductive BtcAdaptorSessionDomain
  | bitcoin | lez

/-- What the lifecycle takes from the Bitcoin, adaptor-signature and hash libraries and from the
    agreement codec. -/
structure Libraries where
  Record : Type
  decodeRecord : Bytes → Option Record
  validateRecord : Record → Option BtcAgreementV1
  deserialize : Bytes → Option Transaction
  serialize : Transaction → Bytes
  computeTxid : Transaction → Bytes32
  txidText : Bytes32 → Bytes
  sha256 : Bytes32 → Bytes32
  verifiedPresignature : BtcAgreementV1 → BtcAdaptorSessionDomain → Presignature → Bool
  /-- The scalar is the discrete logarithm of the agreement's adaptor point. -/
  checkedAdaptorSecret : BtcAgreementV1 → Bytes32 → Bool
  adapt : BtcAgreementV1 → BtcAdaptorSessionDomain → Presignature → Bytes32 → Option Signature
  revealSecret : BtcAgreementV1 → BtcAdaptorSessionDomain → Presignature → Signature → Option Bytes32
  verifyFinal : BtcAgreementV1 → BtcAdaptorSessionDomain → Signature → Bool
  /-- BIP-340 verification of the cooperative claim under the tweaked output key. -/
  verifyKeyPath : BtcAgreementV1 → Signature → Bool
  finalizeRefund : BtcAgreementV1 → Signature → Option Transaction

end Agreement

inductive BtcSdkError
  | invalidAgreement
  | invalidBitcoinChainPolicy
  | bitcoinPolicyMismatch
  | invalidPublicEffect (error : PublicEffectPlanError)
  | malformedBitcoinFunding
  | unsignedBitcoinFunding
  | bitcoinFundingIdentityMismatch
  | duplicateLezEffectIdentity
  | bitcoinFundingAgreementMismatch
  | bitcoinFundingOutputMismatch
  | invalidLezClaimSignatureSlot
  | claimPreparationAgreementMismatch
  | invalidAdaptorClaim
  | recoveryPreparationAgreementMismatch
  | bitcoinRefundPlanMismatch
  | invalidBitcoinRefund
  | missingClaimEffects
  | missingRecoveryEffects
  | localRoleMismatch (expected actual : Participant)
  | lifecycleAgreementMismatch
  | unsupportedResumeRevision (revision : Nat)
  | lifecycleRevisionMismatch (revision transitions : Nat)
  | missingLifecyclePreparation
  | lifecycleEffectMismatch
  | lifecycleTransitionOrder (expected actual : Phase)
  | lifecycleTransitionConflict
  | invalidCoordinatorTransition (error : Error)
  | wrongFirstLockChain
  | firstLockNetworkMismatch
  | firstLockPlanMismatch
  | firstLockIdentityMismatch
  | firstLockTermsMismatch
  | firstLockConfirmationLag (required actual : Nat)
  | firstLockNotFinalized
  | malformedBitcoinClaim
  | invalidBitcoinClaimWitness
  | invalidBitcoinClaim
  | wrongRevealingClaimChain
  | revealingClaimRoleMismatch (expected actual : Participant)
  | revealingClaimNetworkMismatch
  | revealingClaimConfirmationLag (required actual : Nat)
  | revealingClaimNotFinalized
  | revealingClaimPlanMismatch
  | recoveredClaimMaterialMismatch
  | wrongFollowupClaimChain
  | followupClaimNetworkMismatch
  | followupClaimConfirmationLag (required actual : Nat)
  | followupClaimNotFinalized
  | followupClaimPlanMismatch
  | recoveryStateAgreementMismatch
  | recoveryNetworkMismatch
  | recoveryPlanMismatch
  | recoveryObservationLag (chain : Chain) (required actual : Nat)
  | recoveryNotFinalized
  | recoveryStateContradiction
deriving DecidableEq

abbrev Result (α : Type) := Except BtcSdkError α

section Parsing

variable (lib : Libraries)

def parseSignedBitcoinFunding (exact : ExactPublicEffectBytes) : Result Transaction := do
  let transaction ← required (lib.deserialize exact.bytes) .malformedBitcoinFunding
  ensure (transaction.isCoinbase = false ∧
    transaction.input.any (fun input => input.scriptSig ≠ [] ∨ input.witness ≠ []) = true)
    .unsignedBitcoinFunding
  return transaction

def bitcoinClaimSignature (transaction : Transaction) : Result Signature :=
  match transaction.input with
  | [input] => match input.witness with
    | [bytes] => if sized : bytes.length = 64 then .ok ⟨bytes, sized⟩ else .error .invalidBitcoinClaimWitness
    | _ => .error .invalidBitcoinClaimWitness
  | _ => .error .invalidBitcoinClaimWitness

def parseBitcoinRevealingClaim (exact : ExactPublicEffectBytes) : Result Transaction := do
  let transaction ← required (lib.deserialize exact.bytes) .malformedBitcoinClaim
  ensure (transaction.isCoinbase = false ∧ transaction.input.all (fun input => input.scriptSig = []) = true)
    .invalidBitcoinClaimWitness
  let _ ← bitcoinClaimSignature transaction
  return transaction

end Parsing

section Prepared

variable (lib : Libraries)

structure PreparedBitcoinFundingV1 where
  transaction : Transaction
  expectedTransactionId : ExpectedPublicEffectId
  exactSigned : ExactPublicEffectBytes
  parsed : parseSignedBitcoinFunding lib exactSigned = .ok transaction
  identified : expectedTransactionId.bytes = lib.txidText (lib.computeTxid transaction)
deriving DecidableEq

structure PreparedLezFundingV1 where
  initializationPublicId : ExpectedPublicEffectId
  exactInitialization : ExactPublicEffectBytes
  fundingPublicId : ExpectedPublicEffectId
  exactFunding : ExactPublicEffectBytes
  distinct : initializationPublicId ≠ fundingPublicId
deriving DecidableEq

structure BtcPreparedLockEffectsV1 where
  bitcoin : PreparedBitcoinFundingV1 lib
  lez : PreparedLezFundingV1
deriving DecidableEq

structure PreparedLezClaimTemplateV1 where
  expectedPublicId : ExpectedPublicEffectId
  exactTemplate : ExactPublicEffectBytes
  signatureOffset : Nat
  slot : (exactTemplate.bytes.drop signatureOffset).take 64 = List.replicate 64 0

structure BtcPreparedClaimEffectsV1 where
  agreementCommitment : Bytes32
  (bitcoinPresignature lezPresignature : Presignature)
  lezClaim : PreparedLezClaimTemplateV1

structure PreparedBitcoinRefundV1 where
  agreementCommitment : Bytes32
  signature : Signature
  transactionId : Bytes32
  plan : ExactPublicEffectPlanV1

structure PreparedLezRefundV1 where
  agreementCommitment : Bytes32
  expectedPublicId : ExpectedPublicEffectId
  exactRefund : ExactPublicEffectBytes

structure BtcPreparedRecoveryEffectsV1 where
  bitcoin : PreparedBitcoinRefundV1
  lez : PreparedLezRefundV1

variable {lib}

def stepId (text : String) : Result PublicEffectStepId :=
  (PublicEffectStepId.new text.toUTF8.toList).mapError .invalidPublicEffect

def singleStepPlan (step : String) (expectedPublicId exact : Bytes) : Result ExactPublicEffectPlanV1 := do
  let step ← stepId step
  let expectedPublicId ← (ExpectedPublicEffectId.new expectedPublicId).mapError .invalidPublicEffect
  let exact ← (ExactPublicEffectBytes.new exact).mapError .invalidPublicEffect
  (ExactPublicEffectPlanV1.new [⟨step, expectedPublicId, exact⟩]).mapError .invalidPublicEffect

def BtcPreparedLockEffectsV1.validate (effects : BtcPreparedLockEffectsV1 lib) (agreement : BtcAgreementV1) :
    Result Unit := do
  let transaction := effects.bitcoin.transaction
  ensure (lib.computeTxid transaction = agreement.funding.transactionId) .bitcoinFundingAgreementMismatch
  let output ← required (transaction.output[agreement.funding.outputIndex]?) .bitcoinFundingOutputMismatch
  ensure (output.value = agreement.funding.valueSat ∧ output.scriptPubkey = agreement.scriptPubkey)
    .bitcoinFundingOutputMismatch

/-- Replaces the zero slot, and nothing else. -/
def PreparedLezClaimTemplateV1.materialize (template : PreparedLezClaimTemplateV1) (signature : Signature) :
    Result ExactPublicEffectBytes :=
  (ExactPublicEffectBytes.new (template.exactTemplate.bytes.take template.signatureOffset ++ signature.bytes ++
    template.exactTemplate.bytes.drop (template.signatureOffset + 64))).mapError .invalidPublicEffect

variable (lib)

def BtcPreparedClaimEffectsV1.validate (effects : BtcPreparedClaimEffectsV1) (agreement : BtcAgreementV1) :
    Result Unit := do
  ensure (effects.agreementCommitment = agreement.agreementCommitment) .claimPreparationAgreementMismatch
  ensure (lib.verifiedPresignature agreement .bitcoin effects.bitcoinPresignature = true) .invalidAdaptorClaim
  ensure (lib.verifiedPresignature agreement .lez effects.lezPresignature = true) .invalidAdaptorClaim

def PreparedBitcoinRefundV1.new (agreement : BtcAgreementV1) (signature : Signature) :
    Result PreparedBitcoinRefundV1 := do
  let transaction ← required (lib.finalizeRefund agreement signature) .invalidBitcoinRefund
  let transactionId := lib.computeTxid transaction
  let plan ← singleStepPlan "bitcoin.refund" (lib.txidText transactionId) (lib.serialize transaction)
  return ⟨agreement.agreementCommitment, signature, transactionId, plan⟩

def BtcPreparedRecoveryEffectsV1.validate (effects : BtcPreparedRecoveryEffectsV1) (agreement : BtcAgreementV1) :
    Result Unit := do
  ensure (effects.bitcoin.agreementCommitment = agreement.agreementCommitment)
    .recoveryPreparationAgreementMismatch
  let reconstructed ← PreparedBitcoinRefundV1.new lib agreement effects.bitcoin.signature
  ensure (reconstructed.transactionId = effects.bitcoin.transactionId ∧
    reconstructed.plan = effects.bitcoin.plan) .bitcoinRefundPlanMismatch
  ensure (effects.lez.agreementCommitment = agreement.agreementCommitment)
    .recoveryPreparationAgreementMismatch

def validateOptional {α : Type} (validate : α → Result Unit) : Option α → Result Unit
  | some effects => validate effects
  | none => .ok ()

def attest (check : Result Unit) : Result (PLift (check = .ok ())) :=
  match check with
  | .ok () => .ok ⟨rfl⟩
  | .error error => .error error

structure BtcProtocolTermsV1 where
  agreement : lib.Record
  lockEffects : BtcPreparedLockEffectsV1 lib
  claimEffects : Option BtcPreparedClaimEffectsV1
  recoveryEffects : Option BtcPreparedRecoveryEffectsV1

structure ValidatedBtcProtocolTermsV1 where
  agreement : BtcAgreementV1
  lockEffects : BtcPreparedLockEffectsV1 lib
  claimEffects : Option BtcPreparedClaimEffectsV1
  recoveryEffects : Option BtcPreparedRecoveryEffectsV1
  locksValid : lockEffects.validate agreement = .ok ()
  claimsValid : validateOptional (·.validate lib agreement) claimEffects = .ok ()
  recoveryValid : validateOptional (·.validate lib agreement) recoveryEffects = .ok ()

/-- Preparation proves that the claim effects are there. -/
structure BtcPreparedProtocolV1 where
  terms : ValidatedBtcProtocolTermsV1 lib
  claimEffects : BtcPreparedClaimEffectsV1
  complete : terms.claimEffects = some claimEffects

variable {lib}

def BtcPreparedProtocolV1.agreement (prepared : BtcPreparedProtocolV1 lib) : BtcAgreementV1 :=
  prepared.terms.agreement

def BtcPreparedProtocolV1.requiredRecoveryEffects (prepared : BtcPreparedProtocolV1 lib) :
    Result BtcPreparedRecoveryEffectsV1 :=
  required prepared.terms.recoveryEffects .missingRecoveryEffects

end Prepared

section Evidence

variable (lib : Libraries)

/-- An observed Bitcoin transaction that its parser takes and whose bytes are canonical. -/
structure BitcoinEvidence (parse : ExactPublicEffectBytes → Result Transaction) where
  genesisBlockHash : Bytes32
  transaction : Transaction
  exactTransaction : ExactPublicEffectBytes
  confirmations : Nat
  parsed : parse exactTransaction = .ok transaction
  canonical : lib.serialize transaction = exactTransaction.bytes
deriving DecidableEq

abbrev BitcoinFirstLockEvidenceV1 := BitcoinEvidence lib (parseSignedBitcoinFunding lib)

structure LezFirstLockEvidenceV1 where
  genesisBlockHash : Bytes32
  initializationPublicId : ExpectedPublicEffectId
  exactInitialization : ExactPublicEffectBytes
  fundingPublicId : ExpectedPublicEffectId
  exactFunding : ExactPublicEffectBytes
  (metadataAccount custodyAccount : Bytes32)
  amount : Nat
  finalized : Bool
deriving DecidableEq

inductive BtcFirstLockEvidenceV1
  | bitcoin (observed : BitcoinFirstLockEvidenceV1 lib)
  | lez (observed : LezFirstLockEvidenceV1)
deriving DecidableEq

structure BitcoinRevealingClaimEvidenceV1 where
  claimant : Participant
  genesisBlockHash : Bytes32
  transaction : Transaction
  exactTransaction : ExactPublicEffectBytes
  signature : Signature
  confirmations : Nat
  parsed : parseBitcoinRevealingClaim lib exactTransaction = .ok transaction
  canonical : lib.serialize transaction = exactTransaction.bytes
  signed : bitcoinClaimSignature transaction = .ok signature
deriving DecidableEq

structure LezRevealingClaimEvidenceV1 where
  claimant : Participant
  genesisBlockHash : Bytes32
  publicId : ExpectedPublicEffectId
  exactClaim : ExactPublicEffectBytes
  signature : Signature
  finalized : Bool
deriving DecidableEq

inductive BtcRevealingClaimEvidenceV1
  | bitcoin (observed : BitcoinRevealingClaimEvidenceV1 lib)
  | lez (observed : LezRevealingClaimEvidenceV1)
deriving DecidableEq

abbrev BitcoinFollowupClaimEvidenceV1 := BitcoinEvidence lib (parseBitcoinRevealingClaim lib)

structure LezFollowupClaimEvidenceV1 where
  genesisBlockHash : Bytes32
  publicId : ExpectedPublicEffectId
  exactClaim : ExactPublicEffectBytes
  finalized : Bool
deriving DecidableEq

inductive BtcFollowupClaimEvidenceV1
  | bitcoin (observed : BitcoinFollowupClaimEvidenceV1 lib)
  | lez (observed : LezFollowupClaimEvidenceV1)
deriving DecidableEq

inductive CanonicalRecoveryStatusV1
  | absent | locked | refunded
deriving DecidableEq

structure BitcoinCanonicalRecoveryStateV1 where
  status : CanonicalRecoveryStatusV1
  (genesisBlockHash fundingTransactionId refundTransactionId : Option Bytes32)
  confirmations : Nat
  fundingOutputUnspent : Bool
deriving DecidableEq

structure LezCanonicalRecoveryStateV1 where
  status : CanonicalRecoveryStatusV1
  genesisBlockHash : Option Bytes32
  (initializationPublicId fundingPublicId refundPublicId : Option ExpectedPublicEffectId)
  (finalized custodyUnspent : Bool)
deriving DecidableEq

structure BtcCanonicalRecoveryStateV1 where
  agreementCommitment : Bytes32
  direction : SwapDirection
  (bitcoinBestHeight lezUnixSeconds : Nat)
  bitcoin : BitcoinCanonicalRecoveryStateV1
  lez : LezCanonicalRecoveryStateV1
deriving DecidableEq

inductive BtcLifecycleTransitionV1
  | firstLockConfirmed (evidence : BtcFirstLockEvidenceV1 lib)
  | secondLockConfirmed (evidence : BtcFirstLockEvidenceV1 lib)
  | revealingClaimConfirmed (evidence : BtcRevealingClaimEvidenceV1 lib)
  | followupClaimConfirmed (evidence : BtcFollowupClaimEvidenceV1 lib)
  | recoveryObserved (state : BtcCanonicalRecoveryStateV1)
deriving DecidableEq

inductive BtcLifecycleTransitionOutcomeV1
  | applied (revision : Nat)
  | alreadyApplied (revision : Nat)

end Evidence

section Locks

variable {lib : Libraries} (agreement : BtcAgreementV1)

def validateBitcoinFirstLock (planned : PreparedBitcoinFundingV1 lib)
    (observed : BitcoinFirstLockEvidenceV1 lib) : Result Unit := do
  ensure (observed.genesisBlockHash = agreement.bitcoinChainPolicy.genesisBlockHash) .firstLockNetworkMismatch
  ensure (observed.exactTransaction = planned.exactSigned) .firstLockPlanMismatch
  ensure (lib.txidText (lib.computeTxid observed.transaction) = planned.expectedTransactionId.bytes)
    .firstLockIdentityMismatch
  let output ← required (observed.transaction.output[agreement.funding.outputIndex]?) .firstLockTermsMismatch
  ensure (output.value = agreement.funding.valueSat ∧ output.scriptPubkey = agreement.scriptPubkey)
    .firstLockTermsMismatch
  let required := agreement.bitcoinChainPolicy.requiredConfirmations
  ensure (required ≤ observed.confirmations) (.firstLockConfirmationLag required observed.confirmations)

def validateLezFirstLock (planned : PreparedLezFundingV1) (observed : LezFirstLockEvidenceV1) : Result Unit := do
  ensure (observed.genesisBlockHash = agreement.lezTerms.genesisBlockHash) .firstLockNetworkMismatch
  ensure (observed.initializationPublicId = planned.initializationPublicId ∧
    observed.fundingPublicId = planned.fundingPublicId) .firstLockIdentityMismatch
  ensure (observed.exactInitialization = planned.exactInitialization ∧
    observed.exactFunding = planned.exactFunding) .firstLockPlanMismatch
  ensure (observed.metadataAccount = agreement.lezTerms.metadataAccount ∧
    observed.custodyAccount = agreement.lezTerms.custodyAccount ∧
    observed.amount = agreement.lezTerms.amount) .firstLockTermsMismatch
  ensure (observed.finalized = true) .firstLockNotFinalized

def validateLockForParticipant (effects : BtcPreparedLockEffectsV1 lib)
    (participant : Participant) (evidence : BtcFirstLockEvidenceV1 lib) : Result Unit :=
  match agreement.coordinator.fundedChain participant, evidence with
  | .bitcoin, .bitcoin observed => validateBitcoinFirstLock agreement effects.bitcoin observed
  | .lez, .lez observed => validateLezFirstLock agreement effects.lez observed
  | _, _ => .error .wrongFirstLockChain

def idText (id : Bytes) : String := String.ofList (id.map fun byte => Char.ofNat byte.toNat)

def chainProof (id : Bytes) (confirmations : Nat) : Result ChainProof := do
  let transactionId ← (Identifier.new (idText id)).mapError .invalidCoordinatorTransition
  return ⟨transactionId, confirmations⟩

def fundingProof (evidence : BtcFirstLockEvidenceV1 lib) (finalizedConfirmations : Nat) : Result ChainProof :=
  match evidence with
  | .bitcoin observed => chainProof (lib.txidText (lib.computeTxid observed.transaction)) observed.confirmations
  | .lez observed => chainProof observed.fundingPublicId.bytes finalizedConfirmations

end Locks

section Claims

variable {lib : Libraries}

inductive ClaimLeg
  | lez | foreign

def claimOrder : SwapDirection → ClaimLeg × ClaimLeg
  | .takerSellsForeign => (.lez, .foreign)
  | .takerSellsLez => (.foreign, .lez)

def claimantForLeg (agreement : BtcAgreementV1) : ClaimLeg → Participant
  | .lez => agreement.lezClaimant
  | .foreign => agreement.bitcoinClaimant

variable (lib) (agreement : BtcAgreementV1)

def adaptPresignature (domain : BtcAdaptorSessionDomain)
    (presignature : Presignature) (secret : Bytes32) : Result Signature := do
  ensure (lib.verifiedPresignature agreement domain presignature = true) .invalidAdaptorClaim
  ensure (lib.checkedAdaptorSecret agreement secret = true) .invalidAdaptorClaim
  let signature ← required (lib.adapt agreement domain presignature secret) .invalidAdaptorClaim
  ensure (lib.verifyFinal agreement domain signature = true) .invalidAdaptorClaim
  return signature

def extractAdaptorSecret (domain : BtcAdaptorSessionDomain)
    (presignature : Presignature) (signature : Signature) : Result Bytes32 := do
  ensure (lib.verifiedPresignature agreement domain presignature = true) .invalidAdaptorClaim
  ensure (lib.verifyFinal agreement domain signature = true) .invalidAdaptorClaim
  let secret ← required (lib.revealSecret agreement domain presignature signature) .invalidAdaptorClaim
  ensure (lib.checkedAdaptorSecret agreement secret = true) .invalidAdaptorClaim
  return secret

def finalizeClaim (signature : Signature) : Result Transaction := do
  ensure (lib.verifyKeyPath agreement signature = true) .invalidBitcoinClaim
  return agreement.cooperativeClaim [signature.bytes]

variable {lib}

structure BtcRecoveredClaimMaterialV1 where
  agreementCommitment : Bytes32
  direction : SwapDirection
  (revealingClaimant followupClaimant : Participant)
  adaptorSecret : Bytes32

def withoutWitness (transaction : Transaction) : Transaction :=
  { transaction with input := transaction.input.modifyHead ({ · with witness := [] }) }

variable (prepared : BtcPreparedProtocolV1 lib)

def validateBitcoinRevealingClaim (observed : BitcoinRevealingClaimEvidenceV1 lib) : Result Bytes32 := do
  let agreement := prepared.agreement
  ensure (observed.genesisBlockHash = agreement.bitcoinChainPolicy.genesisBlockHash)
    .revealingClaimNetworkMismatch
  let required := agreement.bitcoinChainPolicy.requiredConfirmations
  ensure (required ≤ observed.confirmations) (.revealingClaimConfirmationLag required observed.confirmations)
  ensure (withoutWitness observed.transaction = agreement.cooperativeClaim []) .revealingClaimPlanMismatch
  ensure (lib.verifyFinal agreement .bitcoin observed.signature = true) .invalidAdaptorClaim
  extractAdaptorSecret lib agreement .bitcoin prepared.claimEffects.bitcoinPresignature observed.signature

def validateLezRevealingClaim (observed : LezRevealingClaimEvidenceV1) : Result Bytes32 := do
  let agreement := prepared.agreement
  ensure (observed.genesisBlockHash = agreement.lezTerms.genesisBlockHash) .revealingClaimNetworkMismatch
  ensure (observed.finalized = true) .revealingClaimNotFinalized
  let template := prepared.claimEffects.lezClaim
  let expected ← template.materialize observed.signature
  ensure (observed.publicId = template.expectedPublicId ∧ observed.exactClaim = expected)
    .revealingClaimPlanMismatch
  ensure (lib.verifyFinal agreement .lez observed.signature = true) .invalidAdaptorClaim
  extractAdaptorSecret lib agreement .lez prepared.claimEffects.lezPresignature observed.signature

def validateRevealingClaimant (expected actual : Participant) : Result Unit :=
  ensure (expected = actual) (.revealingClaimRoleMismatch expected actual)

def validateRevealingClaimForLifecycle (evidence : BtcRevealingClaimEvidenceV1 lib) :
    Result BtcRecoveredClaimMaterialV1 := do
  let agreement := prepared.agreement
  let order := claimOrder agreement.direction
  let revealingClaimant := claimantForLeg agreement order.1
  let adaptorSecret ← match order.1, evidence with
    | .foreign, .bitcoin observed => do
      validateRevealingClaimant revealingClaimant observed.claimant
      validateBitcoinRevealingClaim prepared observed
    | .lez, .lez observed => do
      validateRevealingClaimant revealingClaimant observed.claimant
      validateLezRevealingClaim prepared observed
    | _, _ => .error .wrongRevealingClaimChain
  return ⟨agreement.agreementCommitment, agreement.direction, revealingClaimant,
    claimantForLeg agreement order.2, adaptorSecret⟩

def revealingClaimProof : BtcRevealingClaimEvidenceV1 lib → Result ChainProof
  | .bitcoin observed => chainProof (lib.txidText (lib.computeTxid observed.transaction)) observed.confirmations
  | .lez observed => chainProof observed.publicId.bytes 1

def buildFollowupClaimForLifecycle (material : BtcRecoveredClaimMaterialV1) : Result ExactPublicEffectPlanV1 := do
  let agreement := prepared.agreement
  let order := claimOrder agreement.direction
  ensure (material.agreementCommitment = agreement.agreementCommitment ∧
    material.direction = agreement.direction ∧
    material.revealingClaimant = claimantForLeg agreement order.1 ∧
    material.followupClaimant = claimantForLeg agreement order.2) .recoveredClaimMaterialMismatch
  match order.2 with
  | .foreign =>
    let signature ← adaptPresignature lib agreement .bitcoin prepared.claimEffects.bitcoinPresignature
      material.adaptorSecret
    let transaction ← finalizeClaim lib agreement signature
    singleStepPlan "bitcoin.claim" (lib.txidText (lib.computeTxid transaction)) (lib.serialize transaction)
  | .lez =>
    let signature ← adaptPresignature lib agreement .lez prepared.claimEffects.lezPresignature
      material.adaptorSecret
    let exact ← prepared.claimEffects.lezClaim.materialize signature
    singleStepPlan "lez.claim" prepared.claimEffects.lezClaim.expectedPublicId.bytes exact.bytes

def validateFollowupClaim (agreement : BtcAgreementV1) (plan : ExactPublicEffectPlanV1)
    (evidence : BtcFollowupClaimEvidenceV1 lib) : Result Unit :=
  match plan.steps with
  | [step] => match (claimOrder agreement.direction).2, evidence with
    | .foreign, .bitcoin observed => do
      ensure (observed.genesisBlockHash = agreement.bitcoinChainPolicy.genesisBlockHash)
        .followupClaimNetworkMismatch
      let required := agreement.bitcoinChainPolicy.requiredConfirmations
      ensure (required ≤ observed.confirmations) (.followupClaimConfirmationLag required observed.confirmations)
      ensure (lib.txidText (lib.computeTxid observed.transaction) = step.expectedPublicId.bytes ∧
        observed.exactTransaction = step.exactBytes) .followupClaimPlanMismatch
    | .lez, .lez observed => do
      ensure (observed.genesisBlockHash = agreement.lezTerms.genesisBlockHash) .followupClaimNetworkMismatch
      ensure (observed.finalized = true) .followupClaimNotFinalized
      ensure (observed.publicId = step.expectedPublicId ∧ observed.exactClaim = step.exactBytes)
        .followupClaimPlanMismatch
    | _, _ => .error .wrongFollowupClaimChain
  | _ => .error .followupClaimPlanMismatch

def followupClaimProof : BtcFollowupClaimEvidenceV1 lib → Result ChainProof
  | .bitcoin observed => chainProof (lib.txidText (lib.computeTxid observed.transaction)) observed.confirmations
  | .lez observed => chainProof observed.publicId.bytes 1

end Claims

section Recovery

variable {lib : Libraries} (prepared : BtcPreparedProtocolV1 lib)

def validateBitcoinRecoveryState (state : BitcoinCanonicalRecoveryStateV1) : Result Unit := do
  if state.status = .absent then return ()
  let agreement := prepared.agreement
  ensure (state.genesisBlockHash = some agreement.bitcoinChainPolicy.genesisBlockHash) .recoveryNetworkMismatch
  ensure (state.fundingTransactionId = some agreement.funding.transactionId) .recoveryPlanMismatch
  let required := agreement.bitcoinChainPolicy.requiredConfirmations
  ensure (required ≤ state.confirmations) (.recoveryObservationLag .bitcoin required state.confirmations)
  if state.status = .locked then
    ensure (state.fundingOutputUnspent = true ∧ state.refundTransactionId = none) .recoveryStateContradiction
  else
    let recovery ← prepared.requiredRecoveryEffects
    ensure (state.fundingOutputUnspent = false ∧
      state.refundTransactionId = some recovery.bitcoin.transactionId) .recoveryPlanMismatch

def validateLezRecoveryState (state : LezCanonicalRecoveryStateV1) : Result Unit := do
  if state.status = .absent then return ()
  ensure (state.genesisBlockHash = some prepared.agreement.lezTerms.genesisBlockHash) .recoveryNetworkMismatch
  ensure (state.finalized = true) .recoveryNotFinalized
  let planned := prepared.terms.lockEffects.lez
  ensure (state.initializationPublicId = some planned.initializationPublicId ∧
    state.fundingPublicId = some planned.fundingPublicId) .recoveryPlanMismatch
  if state.status = .locked then
    ensure (state.custodyUnspent = true ∧ state.refundPublicId = none) .recoveryStateContradiction
  else
    let recovery ← prepared.requiredRecoveryEffects
    ensure (state.custodyUnspent = false ∧ state.refundPublicId = some recovery.lez.expectedPublicId)
      .recoveryPlanMismatch

variable (state : BtcCanonicalRecoveryStateV1)

def validateRecoveryState : Result Unit := do
  ensure (state.agreementCommitment = prepared.agreement.agreementCommitment ∧
    state.direction = prepared.agreement.direction) .recoveryStateAgreementMismatch
  validateBitcoinRecoveryState prepared state.bitcoin
  validateLezRecoveryState prepared state.lez

/-- A Bitcoin swap has no other leg. -/
def recoveryStatus : Chain → CanonicalRecoveryStatusV1
  | .bitcoin => state.bitcoin.status
  | _ => state.lez.status

def recoveryPosition : Chain → ChainPosition
  | .bitcoin => ⟨.bitcoin, .blockHeight, state.bitcoinBestHeight⟩
  | .lez => ⟨.lez, .timestamp, state.lezUnixSeconds⟩
  | chain => ⟨chain, .timestamp, 0⟩

def applyRecoveryTransition (coordinator : SwapCoordinator) (prepared : BtcPreparedProtocolV1 lib)
    (state : BtcCanonicalRecoveryStateV1) : Result SwapCoordinator := do
  validateRecoveryState prepared state
  let makerChain := coordinator.fundedChain .maker
  let takerChain := coordinator.fundedChain .taker
  match coordinator.phase, recoveryStatus state makerChain, recoveryStatus state takerChain with
  | .takerLockConfirmed, .absent, .refunded | .makerLegRefunded, .refunded, .refunded =>
    (coordinator.refundTakerLeg (recoveryPosition state takerChain)).mapError .invalidCoordinatorTransition
  | .bothLegsLocked, .refunded, .locked =>
    (coordinator.refundMakerLeg (recoveryPosition state makerChain)).mapError .invalidCoordinatorTransition
  | _, _, _ => .error .lifecycleTransitionConflict

end Recovery

section Sdk

variable (lib : Libraries)

/-- The agreement is always the one its wire decodes to. -/
structure AcceptedBtcAgreementV1 where
  agreement : BtcAgreementV1
  wire : Bytes
  localParticipant : Participant
  decoded : (lib.decodeRecord wire).bind lib.validateRecord = some agreement

structure ActiveBtcSwap where
  accepted : AcceptedBtcAgreementV1 lib
  lockEffects : BtcPreparedLockEffectsV1 lib
  coordinator : SwapCoordinator
  revision : Nat
  preparedProtocol : Option (BtcPreparedProtocolV1 lib)
  transitions : List (BtcLifecycleTransitionV1 lib)

structure BtcActiveSwapEnvelopeV1 where
  agreementWire : Bytes
  localParticipant : Participant
  revision : Nat
  lockEffects : BtcPreparedLockEffectsV1 lib
  preparedProtocol : Option (BtcPreparedProtocolV1 lib)
  transitions : List (BtcLifecycleTransitionV1 lib)

variable {lib}

def requirePhase (actual expected : Phase) : Result Unit :=
  ensure (actual = expected) (.lifecycleTransitionOrder expected actual)

def revealingEvidence : BtcLifecycleTransitionV1 lib → Option (BtcRevealingClaimEvidenceV1 lib)
  | .revealingClaimConfirmed evidence => some evidence
  | _ => none

namespace ActiveBtcSwap

variable (active : ActiveBtcSwap lib)

def agreement : BtcAgreementV1 := active.accepted.agreement

def prepared : Result (BtcPreparedProtocolV1 lib) :=
  required active.preparedProtocol .missingLifecyclePreparation

def applyLock (phase : Phase) (participant : Participant) (evidence : BtcFirstLockEvidenceV1 lib) :
    Result SwapCoordinator := do
  requirePhase active.coordinator.phase phase
  validateLockForParticipant active.agreement active.lockEffects participant evidence
  let proof ← fundingProof evidence (active.coordinator.requiredConfirmations participant)
  (active.coordinator.observeFunding participant proof).mapError .invalidCoordinatorTransition

def applyNewTransition (transition : BtcLifecycleTransitionV1 lib) : Result SwapCoordinator :=
  match transition with
  | .firstLockConfirmed evidence => active.applyLock .offered .taker evidence
  | .secondLockConfirmed evidence => active.applyLock .takerLockConfirmed .maker evidence
  | .revealingClaimConfirmed evidence => do
    requirePhase active.coordinator.phase .bothLegsLocked
    let prepared ← active.prepared
    let material ← validateRevealingClaimForLifecycle prepared evidence
    let proof ← revealingClaimProof evidence
    (active.coordinator.observeRevealingClaim active.coordinator.firstClaimant proof
      (ClaimEvidence.new lib.sha256 material.adaptorSecret)).mapError .invalidCoordinatorTransition
  | .followupClaimConfirmed evidence => do
    requirePhase active.coordinator.phase .claimEvidenceAvailable
    let prepared ← active.prepared
    let revealing ← required (active.transitions.findSome? revealingEvidence) .lifecycleTransitionConflict
    let material ← validateRevealingClaimForLifecycle prepared revealing
    let plan ← buildFollowupClaimForLifecycle prepared material
    validateFollowupClaim prepared.agreement plan evidence
    let proof ← followupClaimProof evidence
    (active.coordinator.observeFollowupClaim active.coordinator.firstClaimant.other proof).mapError
      .invalidCoordinatorTransition
  | .recoveryObserved state => do
    let prepared ← active.prepared
    applyRecoveryTransition active.coordinator prepared state

def applyTransition (transition : BtcLifecycleTransitionV1 lib) :
    Result (BtcLifecycleTransitionOutcomeV1 × ActiveBtcSwap lib) :=
  match active.transitions.findIdx? (· = transition) with
  | some index => .ok (.alreadyApplied (index + 1), active)
  | none => do
    ensure (active.revision < 4) (.unsupportedResumeRevision (active.revision + 1))
    let coordinator ← active.applyNewTransition transition
    return (.applied (active.revision + 1),
      { active with coordinator, transitions := active.transitions ++ [transition]
                    revision := active.revision + 1 })

def durableEnvelope : BtcActiveSwapEnvelopeV1 lib :=
  ⟨active.accepted.wire, active.accepted.localParticipant, active.revision, active.lockEffects,
    active.preparedProtocol, active.transitions⟩

end ActiveBtcSwap

/-- The transitions of a stored log, in order; what each call answers is dropped. -/
def replayTransitions : ActiveBtcSwap lib → List (BtcLifecycleTransitionV1 lib) → Result (ActiveBtcSwap lib)
  | active, [] => .ok active
  | active, transition :: rest => do
    let (_, next) ← active.applyTransition transition
    replayTransitions next rest

structure BtcPairSdk where
  localParticipant : Participant
  bitcoinPolicy : BtcChainPolicyV1

namespace BtcPairSdk

variable (sdk : BtcPairSdk)

def ensureBitcoinPolicy (agreement : BtcAgreementV1) : Result Unit :=
  ensure (agreement.bitcoinChainPolicy = sdk.bitcoinPolicy) .bitcoinPolicyMismatch

def ensureLocalParticipant (actual : Participant) : Result Unit :=
  ensure (actual = sdk.localParticipant) (.localRoleMismatch sdk.localParticipant actual)

def acceptWire (wire : Bytes) : Result (AcceptedBtcAgreementV1 lib) :=
  match decoded : (lib.decodeRecord wire).bind lib.validateRecord with
  | none => .error .invalidAgreement
  | some agreement => do
    ensure (sdk.bitcoinPolicy.valid = true) .invalidBitcoinChainPolicy
    sdk.ensureBitcoinPolicy agreement
    return ⟨agreement, wire, sdk.localParticipant, decoded⟩

def validateTerms (terms : BtcProtocolTermsV1 lib) : Result (ValidatedBtcProtocolTermsV1 lib) := do
  ensure (sdk.bitcoinPolicy.valid = true) .invalidBitcoinChainPolicy
  let agreement ← required (lib.validateRecord terms.agreement) .invalidAgreement
  sdk.ensureBitcoinPolicy agreement
  let ⟨locksValid⟩ ← attest (terms.lockEffects.validate agreement)
  let ⟨claimsValid⟩ ← attest (validateOptional (·.validate lib agreement) terms.claimEffects)
  let ⟨recoveryValid⟩ ← attest (validateOptional (·.validate lib agreement) terms.recoveryEffects)
  return ⟨agreement, terms.lockEffects, terms.claimEffects, terms.recoveryEffects, locksValid, claimsValid,
    recoveryValid⟩

def prepare (terms : ValidatedBtcProtocolTermsV1 lib) : Result (BtcPreparedProtocolV1 lib) :=
  match complete : terms.claimEffects with
  | none => .error .missingClaimEffects
  | some claimEffects => do
    let _ ← required terms.recoveryEffects .missingRecoveryEffects
    return ⟨terms, claimEffects, complete⟩

def activate (accepted : AcceptedBtcAgreementV1 lib) (lockEffects : BtcPreparedLockEffectsV1 lib) :
    Result (ActiveBtcSwap lib) := do
  sdk.ensureLocalParticipant accepted.localParticipant
  lockEffects.validate accepted.agreement
  return ⟨accepted, lockEffects, accepted.agreement.coordinator, 0, none, []⟩

def activatePrepared (accepted : AcceptedBtcAgreementV1 lib) (prepared : BtcPreparedProtocolV1 lib) :
    Result (ActiveBtcSwap lib) := do
  sdk.ensureLocalParticipant accepted.localParticipant
  ensure (prepared.agreement = accepted.agreement) .lifecycleAgreementMismatch
  sdk.ensureBitcoinPolicy prepared.agreement
  prepared.terms.lockEffects.validate accepted.agreement
  let _ ← prepared.requiredRecoveryEffects
  return ⟨accepted, prepared.terms.lockEffects, accepted.agreement.coordinator, 0, some prepared, []⟩

def resume (envelope : BtcActiveSwapEnvelopeV1 lib) : Result (ActiveBtcSwap lib) := do
  ensure (envelope.revision ≤ 4) (.unsupportedResumeRevision envelope.revision)
  ensure (envelope.revision = envelope.transitions.length)
    (.lifecycleRevisionMismatch envelope.revision envelope.transitions.length)
  sdk.ensureLocalParticipant envelope.localParticipant
  let accepted ← sdk.acceptWire envelope.agreementWire
  let active ← match envelope.preparedProtocol with
    | some prepared => sdk.activatePrepared accepted prepared
    | none =>
      if envelope.revision = 0 then sdk.activate accepted envelope.lockEffects
      else .error .missingLifecyclePreparation
  ensure (active.lockEffects = envelope.lockEffects) .lifecycleEffectMismatch
  replayTransitions active envelope.transitions

end BtcPairSdk

end Sdk

end AtomicSwaps.BtcSdk
