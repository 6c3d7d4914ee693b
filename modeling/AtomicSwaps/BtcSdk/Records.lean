import AtomicSwaps.BtcSdk.Log
import AtomicSwaps.Format.Json
import AtomicSwaps.Transition.Mirror
import Mathlib.Data.List.Nodup
import Mathlib.Data.List.Perm.Subperm

namespace AtomicSwaps.BtcSdk

open AtomicSwaps.Core Fallible
open Store.PublicEffect (Bytes)
open Store.MakerLock (ExpectedPublicEffectId ExactPublicEffectBytes PublicEffectStepId PublicEffectStepV1
  ExactPublicEffectPlanV1 PublicEffectPlanError)

section Record

def maxBtcLifecycleRecordBytes : Nat := 32 * 1024 * 1024

def btcLifecycleRecordSchemaV1 : Nat := 1

inductive BtcLifecycleCodecError
  | invalidLength
  | malformed
  | nonCanonical
  | unsupportedSchema (version : Nat)
  | invalidEffectShape
  | invalidEffect (error : PublicEffectPlanError)
  | invalidFixedValue
  | agreement
  | protocol (error : BtcSdkError)

abbrev CodecResult (α : Type) := Except BtcLifecycleCodecError α

structure LockEffectsRecordV1 where
  (bitcoin lez : ExactPublicEffectPlanV1)
deriving DecidableEq

structure PreparedRecordV1 where
  (bitcoinPresignature lezPresignature lezClaimPublicId lezClaimTemplate : Bytes)
  lezClaimSignatureOffset : Nat
  bitcoinRefundSignature : Bytes
  lezRefund : ExactPublicEffectPlanV1
deriving DecidableEq

inductive FirstLockRecordV1
  | bitcoin (genesisBlockHash : Bytes32) (exactTransaction : Bytes) (confirmations : Nat)
  | lez (genesisBlockHash : Bytes32) (initializationPublicId exactInitialization fundingPublicId exactFunding : Bytes)
      (metadataAccount custodyAccount : Bytes32) (amount : Nat) (finalized : Bool)
deriving DecidableEq

inductive RevealingRecordV1
  | bitcoin (claimant : Participant) (genesisBlockHash : Bytes32) (exactTransaction : Bytes) (confirmations : Nat)
  | lez (claimant : Participant) (genesisBlockHash : Bytes32) (publicId exactClaim signature : Bytes)
      (finalized : Bool)
deriving DecidableEq

inductive FollowupRecordV1
  | bitcoin (genesisBlockHash : Bytes32) (exactTransaction : Bytes) (confirmations : Nat)
  | lez (genesisBlockHash : Bytes32) (publicId exactClaim : Bytes) (finalized : Bool)
deriving DecidableEq

structure LezRecoveryRecordV1 where
  status : CanonicalRecoveryStatusV1
  genesisBlockHash : Option Bytes32
  (initializationPublicId fundingPublicId refundPublicId : Option Bytes)
  (finalized custodyUnspent : Bool)
deriving DecidableEq

structure RecoveryRecordV1 where
  agreementCommitment : Bytes32
  direction : SwapDirection
  (bitcoinBestHeight lezUnixSeconds : Nat)
  bitcoin : BitcoinCanonicalRecoveryStateV1
  lez : LezRecoveryRecordV1
deriving DecidableEq

inductive TransitionRecordV1
  | firstLockConfirmed (evidence : FirstLockRecordV1)
  | secondLockConfirmed (evidence : FirstLockRecordV1)
  | revealingClaimConfirmed (evidence : RevealingRecordV1)
  | followupClaimConfirmed (evidence : FollowupRecordV1)
  | recoveryObserved (state : RecoveryRecordV1)
deriving DecidableEq

structure DurableRecordV1 where
  schemaVersion : Nat
  agreementWire : Bytes
  localParticipant : Participant
  revision : Nat
  lockEffects : LockEffectsRecordV1
  prepared : Option PreparedRecordV1
  transitions : List TransitionRecordV1
deriving DecidableEq

end Record

section Constructors

variable (lib : Libraries)

def exactBytes (bytes : Bytes) : CodecResult ExactPublicEffectBytes :=
  (ExactPublicEffectBytes.new bytes).mapError fun error => .protocol (.invalidPublicEffect error)

def expectedId (bytes : Bytes) : CodecResult ExpectedPublicEffectId :=
  (ExpectedPublicEffectId.new bytes).mapError fun error => .protocol (.invalidPublicEffect error)

def fixed (size : Nat) (bytes : Bytes) : CodecResult (FixedBytes size) :=
  if sized : bytes.length = size then .ok ⟨bytes, sized⟩ else .error .invalidFixedValue

variable {lib}

def PreparedBitcoinFundingV1.new (expected : ExpectedPublicEffectId) (exact : ExactPublicEffectBytes) :
    CodecResult (PreparedBitcoinFundingV1 lib) :=
  match parsed : parseSignedBitcoinFunding lib exact with
  | .error error => .error (.protocol error)
  | .ok transaction =>
    if identified : expected.bytes = lib.txidText (lib.computeTxid transaction) then
      .ok ⟨transaction, expected, exact, parsed, identified⟩
    else .error (.protocol .bitcoinFundingIdentityMismatch)

def PreparedLezFundingV1.new (initializationPublicId : ExpectedPublicEffectId)
    (exactInitialization : ExactPublicEffectBytes) (fundingPublicId : ExpectedPublicEffectId)
    (exactFunding : ExactPublicEffectBytes) : CodecResult PreparedLezFundingV1 :=
  if distinct : initializationPublicId ≠ fundingPublicId then
    .ok ⟨initializationPublicId, exactInitialization, fundingPublicId, exactFunding, distinct⟩
  else .error (.protocol .duplicateLezEffectIdentity)

def PreparedLezClaimTemplateV1.new (expectedPublicId : ExpectedPublicEffectId)
    (exactTemplate : ExactPublicEffectBytes) (signatureOffset : Nat) : CodecResult PreparedLezClaimTemplateV1 :=
  if slot : (exactTemplate.bytes.drop signatureOffset).take 64 = List.replicate 64 0 then
    .ok ⟨expectedPublicId, exactTemplate, signatureOffset, slot⟩
  else .error (.protocol .invalidLezClaimSignatureSlot)

def BitcoinEvidence.new {parse : ExactPublicEffectBytes → Result Transaction} (malformed : BtcSdkError)
    (genesisBlockHash : Bytes32) (exact : ExactPublicEffectBytes) (confirmations : Nat) :
    CodecResult (BitcoinEvidence lib parse) :=
  match parsed : parse exact with
  | .error error => .error (.protocol error)
  | .ok transaction =>
    if canonical : lib.serialize transaction = exact.bytes then
      .ok ⟨genesisBlockHash, transaction, exact, confirmations, parsed, canonical⟩
    else .error (.protocol malformed)

def BitcoinFirstLockEvidenceV1.new : Bytes32 → ExactPublicEffectBytes → Nat →
    CodecResult (BitcoinFirstLockEvidenceV1 lib) :=
  BitcoinEvidence.new .malformedBitcoinFunding

def BitcoinFollowupClaimEvidenceV1.new : Bytes32 → ExactPublicEffectBytes → Nat →
    CodecResult (BitcoinFollowupClaimEvidenceV1 lib) :=
  BitcoinEvidence.new .malformedBitcoinClaim

def BitcoinRevealingClaimEvidenceV1.new (claimant : Participant) (genesisBlockHash : Bytes32)
    (exact : ExactPublicEffectBytes) (confirmations : Nat) : CodecResult (BitcoinRevealingClaimEvidenceV1 lib) :=
  match parsed : parseBitcoinRevealingClaim lib exact with
  | .error error => .error (.protocol error)
  | .ok transaction =>
    if canonical : lib.serialize transaction = exact.bytes then
      match signed : bitcoinClaimSignature transaction with
      | .error error => .error (.protocol error)
      | .ok signature =>
        .ok ⟨claimant, genesisBlockHash, transaction, exact, signature, confirmations, parsed, canonical, signed⟩
    else .error (.protocol .malformedBitcoinClaim)

end Constructors

section Conversions

variable {lib : Libraries}

def FirstLockRecordV1.fromEvidence : BtcFirstLockEvidenceV1 lib → FirstLockRecordV1
  | .bitcoin value => .bitcoin value.genesisBlockHash value.exactTransaction.bytes value.confirmations
  | .lez value => .lez value.genesisBlockHash value.initializationPublicId.bytes value.exactInitialization.bytes
      value.fundingPublicId.bytes value.exactFunding.bytes value.metadataAccount value.custodyAccount value.amount
      value.finalized

def FirstLockRecordV1.intoEvidence : FirstLockRecordV1 → CodecResult (BtcFirstLockEvidenceV1 lib)
  | .bitcoin genesisBlockHash exactTransaction confirmations => do
    let exact ← exactBytes exactTransaction
    return .bitcoin (← BitcoinFirstLockEvidenceV1.new genesisBlockHash exact confirmations)
  | .lez genesisBlockHash initializationPublicId exactInitialization fundingPublicId exactFunding metadataAccount
      custodyAccount amount finalized => do
    let initializationPublicId ← expectedId initializationPublicId
    let exactInitialization ← exactBytes exactInitialization
    let fundingPublicId ← expectedId fundingPublicId
    let exactFunding ← exactBytes exactFunding
    return .lez ⟨genesisBlockHash, initializationPublicId, exactInitialization, fundingPublicId, exactFunding,
      metadataAccount, custodyAccount, amount, finalized⟩

def RevealingRecordV1.fromEvidence : BtcRevealingClaimEvidenceV1 lib → RevealingRecordV1
  | .bitcoin value =>
    .bitcoin value.claimant value.genesisBlockHash value.exactTransaction.bytes value.confirmations
  | .lez value => .lez value.claimant value.genesisBlockHash value.publicId.bytes value.exactClaim.bytes
      value.signature.bytes value.finalized

def RevealingRecordV1.intoEvidence : RevealingRecordV1 → CodecResult (BtcRevealingClaimEvidenceV1 lib)
  | .bitcoin claimant genesisBlockHash exactTransaction confirmations => do
    let exact ← exactBytes exactTransaction
    return .bitcoin (← BitcoinRevealingClaimEvidenceV1.new claimant genesisBlockHash exact confirmations)
  | .lez claimant genesisBlockHash publicId exactClaim signature finalized => do
    let signature ← fixed 64 signature
    let publicId ← expectedId publicId
    let exactClaim ← exactBytes exactClaim
    return .lez ⟨claimant, genesisBlockHash, publicId, exactClaim, signature, finalized⟩

def FollowupRecordV1.fromEvidence : BtcFollowupClaimEvidenceV1 lib → FollowupRecordV1
  | .bitcoin value => .bitcoin value.genesisBlockHash value.exactTransaction.bytes value.confirmations
  | .lez value => .lez value.genesisBlockHash value.publicId.bytes value.exactClaim.bytes value.finalized

def FollowupRecordV1.intoEvidence : FollowupRecordV1 → CodecResult (BtcFollowupClaimEvidenceV1 lib)
  | .bitcoin genesisBlockHash exactTransaction confirmations => do
    let exact ← exactBytes exactTransaction
    return .bitcoin (← BitcoinFollowupClaimEvidenceV1.new genesisBlockHash exact confirmations)
  | .lez genesisBlockHash publicId exactClaim finalized => do
    let publicId ← expectedId publicId
    let exactClaim ← exactBytes exactClaim
    return .lez ⟨genesisBlockHash, publicId, exactClaim, finalized⟩

def optionalId : Option Bytes → CodecResult (Option ExpectedPublicEffectId)
  | none => .ok none
  | some bytes => do return some (← expectedId bytes)

def RecoveryRecordV1.fromState (state : BtcCanonicalRecoveryStateV1) : RecoveryRecordV1 :=
  ⟨state.agreementCommitment, state.direction, state.bitcoinBestHeight, state.lezUnixSeconds, state.bitcoin,
    state.lez.status, state.lez.genesisBlockHash, state.lez.initializationPublicId.map (·.bytes),
    state.lez.fundingPublicId.map (·.bytes), state.lez.refundPublicId.map (·.bytes), state.lez.finalized,
    state.lez.custodyUnspent⟩

def RecoveryRecordV1.intoState (record : RecoveryRecordV1) : CodecResult BtcCanonicalRecoveryStateV1 := do
  let initializationPublicId ← optionalId record.lez.initializationPublicId
  let fundingPublicId ← optionalId record.lez.fundingPublicId
  let refundPublicId ← optionalId record.lez.refundPublicId
  return ⟨record.agreementCommitment, record.direction, record.bitcoinBestHeight, record.lezUnixSeconds,
    record.bitcoin, record.lez.status, record.lez.genesisBlockHash, initializationPublicId, fundingPublicId,
    refundPublicId, record.lez.finalized, record.lez.custodyUnspent⟩

def TransitionRecordV1.fromTransition : BtcLifecycleTransitionV1 lib → TransitionRecordV1
  | .firstLockConfirmed evidence => .firstLockConfirmed (.fromEvidence evidence)
  | .secondLockConfirmed evidence => .secondLockConfirmed (.fromEvidence evidence)
  | .revealingClaimConfirmed evidence => .revealingClaimConfirmed (.fromEvidence evidence)
  | .followupClaimConfirmed evidence => .followupClaimConfirmed (.fromEvidence evidence)
  | .recoveryObserved state => .recoveryObserved (.fromState state)

def TransitionRecordV1.intoTransition : TransitionRecordV1 → CodecResult (BtcLifecycleTransitionV1 lib)
  | .firstLockConfirmed evidence => do return .firstLockConfirmed (← evidence.intoEvidence)
  | .secondLockConfirmed evidence => do return .secondLockConfirmed (← evidence.intoEvidence)
  | .revealingClaimConfirmed evidence => do return .revealingClaimConfirmed (← evidence.intoEvidence)
  | .followupClaimConfirmed evidence => do return .followupClaimConfirmed (← evidence.intoEvidence)
  | .recoveryObserved state => do return .recoveryObserved (← state.intoState)

def transitionsInto : List TransitionRecordV1 → CodecResult (List (BtcLifecycleTransitionV1 lib))
  | [] => .ok []
  | record :: rest => do
    let transition ← record.intoTransition
    return transition :: (← transitionsInto rest)

def planStep (text : String) (valid : (PublicEffectStepId.new text.toUTF8.toList).toOption.isSome) :
    PublicEffectStepId :=
  (PublicEffectStepId.new text.toUTF8.toList).toOption.get valid

def bitcoinFundingStep : PublicEffectStepId := planStep "bitcoin.funding" (by decide +kernel)

def lezInitializeStep : PublicEffectStepId := planStep "lez.initialize" (by decide +kernel)

def lezFundStep : PublicEffectStepId := planStep "lez.fund" (by decide +kernel)

def lezRefundStep : PublicEffectStepId := planStep "lez.refund" (by decide +kernel)

def PreparedBitcoinFundingV1.plan (funding : PreparedBitcoinFundingV1 lib) : ExactPublicEffectPlanV1 :=
  ⟨1, [⟨bitcoinFundingStep, funding.expectedTransactionId, funding.exactSigned⟩]⟩

def PreparedLezFundingV1.plan (funding : PreparedLezFundingV1) : ExactPublicEffectPlanV1 :=
  ⟨1, [⟨lezInitializeStep, funding.initializationPublicId, funding.exactInitialization⟩,
    ⟨lezFundStep, funding.fundingPublicId, funding.exactFunding⟩]⟩

def PreparedLezRefundV1.plan (refund : PreparedLezRefundV1) : ExactPublicEffectPlanV1 :=
  ⟨1, [⟨lezRefundStep, refund.expectedPublicId, refund.exactRefund⟩]⟩

def LockEffectsRecordV1.fromEffects (effects : BtcPreparedLockEffectsV1 lib) : LockEffectsRecordV1 :=
  ⟨effects.bitcoin.plan, effects.lez.plan⟩

def LockEffectsRecordV1.intoEffects (record : LockEffectsRecordV1) : CodecResult (BtcPreparedLockEffectsV1 lib) := do
  let bitcoin ← match record.bitcoin.steps with
    | [step] => do
      ensure (step.step = bitcoinFundingStep) .invalidEffectShape
      PreparedBitcoinFundingV1.new step.expectedPublicId step.exactBytes
    | _ => .error .invalidEffectShape
  ensure (bitcoin.plan = record.bitcoin) .invalidEffectShape
  let lez ← match record.lez.steps with
    | [initialization, funding] => do
      ensure (initialization.step = lezInitializeStep ∧ funding.step = lezFundStep) .invalidEffectShape
      PreparedLezFundingV1.new initialization.expectedPublicId initialization.exactBytes funding.expectedPublicId
        funding.exactBytes
    | _ => .error .invalidEffectShape
  ensure (lez.plan = record.lez) .invalidEffectShape
  return ⟨bitcoin, lez⟩

/-- A prepared lifecycle always has its recovery effects; the source panics where they are missing. -/
def PreparedRecordV1.fromPrepared (prepared : BtcPreparedProtocolV1 lib) : Option PreparedRecordV1 :=
  prepared.terms.recoveryEffects.map fun recovery =>
    { bitcoinPresignature := prepared.claimEffects.bitcoinPresignature.bytes
      lezPresignature := prepared.claimEffects.lezPresignature.bytes
      lezClaimPublicId := prepared.claimEffects.lezClaim.expectedPublicId.bytes
      lezClaimTemplate := prepared.claimEffects.lezClaim.exactTemplate.bytes
      lezClaimSignatureOffset := prepared.claimEffects.lezClaim.signatureOffset
      bitcoinRefundSignature := recovery.bitcoin.signature.bytes
      lezRefund := recovery.lez.plan }

def PreparedRecordV1.claimEffects (record : PreparedRecordV1) (agreement : BtcAgreementV1) :
    CodecResult BtcPreparedClaimEffectsV1 := do
  let publicId ← expectedId record.lezClaimPublicId
  let template ← exactBytes record.lezClaimTemplate
  let lezClaim ← PreparedLezClaimTemplateV1.new publicId template record.lezClaimSignatureOffset
  let bitcoinPresignature ← fixed 65 record.bitcoinPresignature
  let lezPresignature ← fixed 65 record.lezPresignature
  return ⟨agreement.agreementCommitment, bitcoinPresignature, lezPresignature, lezClaim⟩

variable (lib)

def PreparedRecordV1.recoveryEffects (record : PreparedRecordV1) (agreement : BtcAgreementV1) :
    CodecResult BtcPreparedRecoveryEffectsV1 := do
  let signature ← fixed 64 record.bitcoinRefundSignature
  let bitcoin ← (PreparedBitcoinRefundV1.new lib agreement signature).mapError .protocol
  match record.lezRefund.steps with
  | [step] =>
    ensure (step.step = lezRefundStep) .invalidEffectShape
    let lez : PreparedLezRefundV1 := ⟨agreement.agreementCommitment, step.expectedPublicId, step.exactBytes⟩
    ensure (lez.plan = record.lezRefund) .invalidEffectShape
    return ⟨bitcoin, lez⟩
  | _ => .error .invalidEffectShape

def DurableRecordV1.fromEnvelope (envelope : BtcActiveSwapEnvelopeV1 lib) : DurableRecordV1 :=
  ⟨btcLifecycleRecordSchemaV1, envelope.agreementWire, envelope.localParticipant, envelope.revision,
    .fromEffects envelope.lockEffects, envelope.preparedProtocol.bind PreparedRecordV1.fromPrepared,
    envelope.transitions.map .fromTransition⟩

def DurableRecordV1.intoEnvelope (durable : DurableRecordV1) : CodecResult (BtcActiveSwapEnvelopeV1 lib) := do
  let record ← required (lib.decodeRecord durable.agreementWire) .agreement
  let agreement ← required (lib.validateRecord record) .agreement
  let lockEffects ← durable.lockEffects.intoEffects
  match durable.prepared with
  | some prepared =>
    let pair : BtcPairSdk := ⟨durable.localParticipant, agreement.bitcoinChainPolicy⟩
    let claimEffects ← prepared.claimEffects agreement
    let recoveryEffects ← prepared.recoveryEffects lib agreement
    let validated ←
      (pair.validateTerms ⟨record, lockEffects, some claimEffects, some recoveryEffects⟩).mapError .protocol
    let prepared ← (BtcPairSdk.prepare validated).mapError .protocol
    let transitions ← transitionsInto durable.transitions
    return ⟨durable.agreementWire, durable.localParticipant, durable.revision, lockEffects, some prepared,
      transitions⟩
  | none => return ⟨durable.agreementWire, durable.localParticipant, durable.revision, lockEffects, none, []⟩

/-- The JSON library over the record types; `toVec` writes and `parse` reads a whole input. -/
structure Codec where
  parse : Bytes → Option DurableRecordV1
  toVec : DurableRecordV1 → Bytes

/-- The digest of the bytes is left out. -/
structure BtcLifecycleRecordV1 where
  exactBytes : Bytes
  swapId : Identifier
  localParticipant : Participant
  revision : Nat

variable (codec : Codec)

/-- The SDK that a record is checked with: its own role, under the policy its agreement names. -/
def resumeOwn (envelope : BtcActiveSwapEnvelopeV1 lib) : CodecResult (ActiveBtcSwap lib) := do
  let agreement ← required ((lib.decodeRecord envelope.agreementWire).bind lib.validateRecord) .agreement
  let pair : BtcPairSdk := ⟨envelope.localParticipant, agreement.bitcoinChainPolicy⟩
  (pair.resume envelope).mapError .protocol

def BtcLifecycleRecordV1.fromExactBytes (bytes : Bytes) : CodecResult BtcLifecycleRecordV1 := do
  ensure (bytes ≠ [] ∧ bytes.length ≤ maxBtcLifecycleRecordBytes) .invalidLength
  let durable ← required (codec.parse bytes) .malformed
  ensure (durable.schemaVersion = btcLifecycleRecordSchemaV1) (.unsupportedSchema durable.schemaVersion)
  ensure (codec.toVec durable = bytes) .nonCanonical
  let envelope ← durable.intoEnvelope lib
  let active ← resumeOwn lib envelope
  return ⟨bytes, active.coordinator.id, active.accepted.localParticipant, active.revision⟩

def BtcLifecycleRecordV1.fromActive (active : ActiveBtcSwap lib) : CodecResult BtcLifecycleRecordV1 :=
  fromExactBytes lib codec (codec.toVec (.fromEnvelope lib active.durableEnvelope))

def BtcLifecycleRecordV1.decode (record : BtcLifecycleRecordV1) : CodecResult (BtcActiveSwapEnvelopeV1 lib) := do
  let durable ← required (codec.parse record.exactBytes) .malformed
  durable.intoEnvelope lib

end Conversions

section Writer

open Json
open Zec (bytes32)

/-- Enumerations without fields are written as the name of the variant. -/
def participantJson : Participant → Text
  | .maker => name "Maker"
  | .taker => name "Taker"

def directionJson : SwapDirection → Text
  | .takerSellsForeign => name "TakerSellsForeign"
  | .takerSellsLez => name "TakerSellsLez"

def statusJson : CanonicalRecoveryStatusV1 → Text
  | .absent => name "absent"
  | .locked => name "locked"
  | .refunded => name "refunded"

def hashJson (hash : Bytes32) : Text := bytes (bytes32 hash)

def stepJson (step : PublicEffectStepV1) : Text :=
  object [("step", quoted step.step.bytes), ("expected_public_id", quoted step.expectedPublicId.bytes),
    ("exact_bytes", bytes step.exactBytes.bytes)]

def planJson (plan : ExactPublicEffectPlanV1) : Text :=
  object [("schema_version", number plan.schemaVersion), ("steps", array (plan.steps.map stepJson))]

def LockEffectsRecordV1.json (record : LockEffectsRecordV1) : Text :=
  object [("bitcoin", planJson record.bitcoin), ("lez", planJson record.lez)]

def PreparedRecordV1.json (record : PreparedRecordV1) : Text :=
  object [("bitcoin_presignature", bytes record.bitcoinPresignature),
    ("lez_presignature", bytes record.lezPresignature), ("lez_claim_public_id", quoted record.lezClaimPublicId),
    ("lez_claim_template", bytes record.lezClaimTemplate),
    ("lez_claim_signature_offset", number record.lezClaimSignatureOffset),
    ("bitcoin_refund_signature", bytes record.bitcoinRefundSignature), ("lez_refund", planJson record.lezRefund)]

/-- Tagged enumerations carry the tag as their first member; amounts are written as texts. -/
def FirstLockRecordV1.json : FirstLockRecordV1 → Text
  | .bitcoin genesisBlockHash exactTransaction confirmations =>
    object [("chain", name "bitcoin"), ("genesis_block_hash", hashJson genesisBlockHash),
      ("exact_transaction", bytes exactTransaction), ("confirmations", number confirmations)]
  | .lez genesisBlockHash initializationPublicId exactInitialization fundingPublicId exactFunding metadataAccount
      custodyAccount amount finalized =>
    object [("chain", name "lez"), ("genesis_block_hash", hashJson genesisBlockHash),
      ("initialization_public_id", quoted initializationPublicId),
      ("exact_initialization", bytes exactInitialization),
      ("funding_public_id", quoted fundingPublicId), ("exact_funding", bytes exactFunding),
      ("metadata_account", hashJson metadataAccount), ("custody_account", hashJson custodyAccount),
      ("amount", quoted (number amount)), ("finalized", boolean finalized)]

def RevealingRecordV1.json : RevealingRecordV1 → Text
  | .bitcoin claimant genesisBlockHash exactTransaction confirmations =>
    object [("chain", name "bitcoin"), ("claimant", participantJson claimant),
      ("genesis_block_hash", hashJson genesisBlockHash), ("exact_transaction", bytes exactTransaction),
      ("confirmations", number confirmations)]
  | .lez claimant genesisBlockHash publicId exactClaim signature finalized =>
    object [("chain", name "lez"), ("claimant", participantJson claimant),
      ("genesis_block_hash", hashJson genesisBlockHash), ("public_id", quoted publicId),
      ("exact_claim", bytes exactClaim), ("signature", bytes signature), ("finalized", boolean finalized)]

def FollowupRecordV1.json : FollowupRecordV1 → Text
  | .bitcoin genesisBlockHash exactTransaction confirmations =>
    object [("chain", name "bitcoin"), ("genesis_block_hash", hashJson genesisBlockHash),
      ("exact_transaction", bytes exactTransaction), ("confirmations", number confirmations)]
  | .lez genesisBlockHash publicId exactClaim finalized =>
    object [("chain", name "lez"), ("genesis_block_hash", hashJson genesisBlockHash), ("public_id", quoted publicId),
      ("exact_claim", bytes exactClaim), ("finalized", boolean finalized)]

def bitcoinRecoveryJson (state : BitcoinCanonicalRecoveryStateV1) : Text :=
  object [("status", statusJson state.status), ("genesis_block_hash", optional hashJson state.genesisBlockHash),
    ("funding_transaction_id", optional hashJson state.fundingTransactionId),
    ("refund_transaction_id", optional hashJson state.refundTransactionId),
    ("confirmations", number state.confirmations), ("funding_output_unspent", boolean state.fundingOutputUnspent)]

def LezRecoveryRecordV1.json (state : LezRecoveryRecordV1) : Text :=
  object [("status", statusJson state.status), ("genesis_block_hash", optional hashJson state.genesisBlockHash),
    ("initialization_public_id", optional quoted state.initializationPublicId),
    ("funding_public_id", optional quoted state.fundingPublicId),
    ("refund_public_id", optional quoted state.refundPublicId), ("finalized", boolean state.finalized),
    ("custody_unspent", boolean state.custodyUnspent)]

def RecoveryRecordV1.json (state : RecoveryRecordV1) : Text :=
  object [("agreement_commitment", hashJson state.agreementCommitment), ("direction", directionJson state.direction),
    ("bitcoin_best_height", number state.bitcoinBestHeight), ("lez_unix_seconds", number state.lezUnixSeconds),
    ("bitcoin", bitcoinRecoveryJson state.bitcoin), ("lez", state.lez.json)]

def TransitionRecordV1.json : TransitionRecordV1 → Text
  | .firstLockConfirmed evidence =>
    object [("transition", name "first_lock_confirmed"), ("evidence", evidence.json)]
  | .secondLockConfirmed evidence =>
    object [("transition", name "second_lock_confirmed"), ("evidence", evidence.json)]
  | .revealingClaimConfirmed evidence =>
    object [("transition", name "revealing_claim_confirmed"), ("evidence", evidence.json)]
  | .followupClaimConfirmed evidence =>
    object [("transition", name "followup_claim_confirmed"), ("evidence", evidence.json)]
  | .recoveryObserved state => object [("transition", name "recovery_observed"), ("state", state.json)]

def DurableRecordV1.json (record : DurableRecordV1) : Text :=
  object [("schema_version", number record.schemaVersion), ("agreement_wire", bytes record.agreementWire),
    ("local_participant", participantJson record.localParticipant), ("revision", number record.revision),
    ("lock_effects", record.lockEffects.json), ("prepared", optional PreparedRecordV1.json record.prepared),
    ("transitions", array (record.transitions.map TransitionRecordV1.json))]

end Writer

section Mirrors

variable {lib : Libraries} {confirmations : Nat} {agreement : BtcAgreementV1} {record : PreparedRecordV1}

theorem exactBytes_mirrors : Mirrors (·.bytes) exactBytes where
  back value := by simp [exactBytes, ExactPublicEffectBytes.new, value.valid, Except.mapError]
  exact read := by
    simp only [exactBytes, mapError_ok_iff, ExactPublicEffectBytes.new] at read
    split at read <;> cases read
    rfl

theorem expectedId_mirrors : Mirrors (·.bytes) expectedId where
  back value := by simp [expectedId, ExpectedPublicEffectId.new, value.valid, Except.mapError]
  exact read := by
    simp only [expectedId, mapError_ok_iff, ExpectedPublicEffectId.new] at read
    split at read <;> cases read
    rfl

theorem fixed_mirrors (size : Nat) : Mirrors (·.bytes) (fixed size) where
  back value := dif_pos value.sized
  exact read := by
    unfold fixed at read
    split at read <;> cases read
    rfl

variable {exact : ExactPublicEffectBytes} {genesisBlockHash : Bytes32}

theorem BitcoinEvidence.new_iff {parse : ExactPublicEffectBytes → Result Transaction} {malformed : BtcSdkError}
    {evidence : BitcoinEvidence lib parse} :
    new malformed genesisBlockHash exact confirmations = .ok evidence ↔
      evidence.genesisBlockHash = genesisBlockHash ∧ evidence.exactTransaction = exact ∧
      evidence.confirmations = confirmations := by
  constructor
  · intro built
    unfold new at built
    split at built
    · cases built
    · split at built <;> cases built
      exact ⟨rfl, rfl, rfl⟩
  · obtain ⟨_, transaction, _, _, parsed, canonical⟩ := evidence
    rintro ⟨rfl, rfl, rfl⟩
    unfold new
    split
    · rename_i failed
      cases parsed.symm.trans failed
    · rename_i again
      cases parsed.symm.trans again
      exact dif_pos canonical

theorem BitcoinRevealingClaimEvidenceV1.new_iff {claimant : Participant}
    {evidence : BitcoinRevealingClaimEvidenceV1 lib} :
    new claimant genesisBlockHash exact confirmations = .ok evidence ↔ evidence.claimant = claimant ∧
      evidence.genesisBlockHash = genesisBlockHash ∧ evidence.exactTransaction = exact ∧
      evidence.confirmations = confirmations := by
  constructor
  · intro built
    unfold new at built
    split at built
    · cases built
    · split at built
      · split at built <;> cases built
        exact ⟨rfl, rfl, rfl, rfl⟩
      · cases built
  · obtain ⟨_, _, transaction, _, _, _, parsed, canonical, signed⟩ := evidence
    rintro ⟨rfl, rfl, rfl, rfl⟩
    unfold new
    split
    · rename_i failed
      cases parsed.symm.trans failed
    · rename_i again
      cases parsed.symm.trans again
      rw [dif_pos canonical]
      split
      · rename_i failed
        cases signed.symm.trans failed
      · rename_i same
        cases signed.symm.trans same
        rfl

theorem firstLock_mirrors : Mirrors FirstLockRecordV1.fromEvidence
    (FirstLockRecordV1.intoEvidence : _ → CodecResult (BtcFirstLockEvidenceV1 lib)) where
  back value := by
    cases value with
    | bitcoin value =>
      simp [FirstLockRecordV1.fromEvidence, FirstLockRecordV1.intoEvidence, exactBytes_mirrors.back, ok_bind,
        BitcoinFirstLockEvidenceV1.new, BitcoinEvidence.new_iff.mpr ⟨rfl, rfl, rfl⟩]
    | lez value =>
      simp [FirstLockRecordV1.fromEvidence, FirstLockRecordV1.intoEvidence, exactBytes_mirrors.back,
        expectedId_mirrors.back, ok_bind]
  exact {stored value} read := by
    cases stored with
    | bitcoin =>
      simp only [FirstLockRecordV1.intoEvidence, BitcoinFirstLockEvidenceV1.new, bind_ok_iff, BitcoinEvidence.new_iff,
        pure_ok] at read
      obtain ⟨_, exact, _, ⟨rfl, rfl, rfl⟩, rfl⟩ := read
      rw [← exactBytes_mirrors.exact exact]
      rfl
    | lez =>
      simp only [FirstLockRecordV1.intoEvidence, bind_ok_iff, pure_ok] at read
      obtain ⟨_, initialId, _, initial, _, fundingId, _, funding, rfl⟩ := read
      rw [← expectedId_mirrors.exact initialId, ← exactBytes_mirrors.exact initial,
        ← expectedId_mirrors.exact fundingId, ← exactBytes_mirrors.exact funding]
      rfl

theorem revealing_mirrors : Mirrors RevealingRecordV1.fromEvidence
    (RevealingRecordV1.intoEvidence : _ → CodecResult (BtcRevealingClaimEvidenceV1 lib)) where
  back value := by
    cases value with
    | bitcoin value =>
      simp [RevealingRecordV1.fromEvidence, RevealingRecordV1.intoEvidence, exactBytes_mirrors.back, ok_bind,
        BitcoinRevealingClaimEvidenceV1.new_iff.mpr ⟨rfl, rfl, rfl, rfl⟩]
    | lez value =>
      simp [RevealingRecordV1.fromEvidence, RevealingRecordV1.intoEvidence, exactBytes_mirrors.back,
        expectedId_mirrors.back, (fixed_mirrors 64).back, ok_bind]
  exact {stored value} read := by
    cases stored with
    | bitcoin =>
      simp only [RevealingRecordV1.intoEvidence, bind_ok_iff, BitcoinRevealingClaimEvidenceV1.new_iff,
        pure_ok] at read
      obtain ⟨_, exact, _, ⟨rfl, rfl, rfl, rfl⟩, rfl⟩ := read
      rw [← exactBytes_mirrors.exact exact]
      rfl
    | lez =>
      simp only [RevealingRecordV1.intoEvidence, bind_ok_iff, pure_ok] at read
      obtain ⟨_, signed, _, id, _, claim, rfl⟩ := read
      rw [← (fixed_mirrors 64).exact signed, ← expectedId_mirrors.exact id, ← exactBytes_mirrors.exact claim]
      rfl

theorem followup_mirrors : Mirrors FollowupRecordV1.fromEvidence
    (FollowupRecordV1.intoEvidence : _ → CodecResult (BtcFollowupClaimEvidenceV1 lib)) where
  back value := by
    cases value with
    | bitcoin value =>
      simp [FollowupRecordV1.fromEvidence, FollowupRecordV1.intoEvidence, exactBytes_mirrors.back, ok_bind,
        BitcoinFollowupClaimEvidenceV1.new, BitcoinEvidence.new_iff.mpr ⟨rfl, rfl, rfl⟩]
    | lez value =>
      simp [FollowupRecordV1.fromEvidence, FollowupRecordV1.intoEvidence, exactBytes_mirrors.back,
        expectedId_mirrors.back, ok_bind]
  exact {stored value} read := by
    cases stored with
    | bitcoin =>
      simp only [FollowupRecordV1.intoEvidence, BitcoinFollowupClaimEvidenceV1.new, bind_ok_iff,
        BitcoinEvidence.new_iff, pure_ok] at read
      obtain ⟨_, exact, _, ⟨rfl, rfl, rfl⟩, rfl⟩ := read
      rw [← exactBytes_mirrors.exact exact]
      rfl
    | lez =>
      simp only [FollowupRecordV1.intoEvidence, bind_ok_iff, pure_ok] at read
      obtain ⟨_, id, _, claim, rfl⟩ := read
      rw [← expectedId_mirrors.exact id, ← exactBytes_mirrors.exact claim]
      rfl

theorem optionalId_mirrors : Mirrors (Option.map (·.bytes)) optionalId where
  back value := by cases value <;> simp [optionalId, expectedId_mirrors.back]
  exact {stored value} read := by
    cases stored with
    | none =>
      cases read
      rfl
    | some bytes =>
      simp only [optionalId, bind_ok_iff, pure_ok] at read
      obtain ⟨_, id, rfl⟩ := read
      rw [← expectedId_mirrors.exact id]
      rfl

theorem recovery_mirrors : Mirrors RecoveryRecordV1.fromState RecoveryRecordV1.intoState where
  back value := by simp [RecoveryRecordV1.fromState, RecoveryRecordV1.intoState, optionalId_mirrors.back, ok_bind]
  exact {stored value} read := by
    obtain ⟨_, _, _, _, _, ⟨_, _, _, _, _, _, _⟩⟩ := stored
    simp only [RecoveryRecordV1.intoState, bind_ok_iff, pure_ok] at read
    obtain ⟨_, initial, _, funding, _, refund, rfl⟩ := read
    rw [← optionalId_mirrors.exact initial, ← optionalId_mirrors.exact funding, ← optionalId_mirrors.exact refund]
    rfl

theorem transition_mirrors : Mirrors TransitionRecordV1.fromTransition
    (TransitionRecordV1.intoTransition : _ → CodecResult (BtcLifecycleTransitionV1 lib)) where
  back value := by
    cases value <;> simp [TransitionRecordV1.fromTransition, TransitionRecordV1.intoTransition,
      firstLock_mirrors.back, revealing_mirrors.back, followup_mirrors.back, recovery_mirrors.back]
  exact {stored value} read := by
    cases stored <;>
      simp only [TransitionRecordV1.intoTransition, bind_ok_iff, pure_ok] at read <;>
      obtain ⟨_, read, rfl⟩ := read
    · exact congrArg _ (firstLock_mirrors.exact read)
    · exact congrArg _ (firstLock_mirrors.exact read)
    · exact congrArg _ (revealing_mirrors.exact read)
    · exact congrArg _ (followup_mirrors.exact read)
    · exact congrArg _ (recovery_mirrors.exact read)

theorem transitions_mirrors : Mirrors (List.map .fromTransition)
    (transitionsInto : _ → CodecResult (List (BtcLifecycleTransitionV1 lib))) where
  back value := by
    induction value with
    | nil => rfl
    | cons first rest ih =>
      simp only [List.map_cons, transitionsInto, transition_mirrors.back, ih, ok_bind]
      rfl
  exact {stored value} read := by
    induction stored generalizing value with
    | nil =>
      cases read
      rfl
    | cons first rest ih =>
      simp only [transitionsInto, bind_ok_iff, pure_ok] at read
      obtain ⟨_, head, _, tail, rfl⟩ := read
      rw [List.map_cons, transition_mirrors.exact head, ih tail]

theorem PreparedBitcoinFundingV1.new_self (funding : PreparedBitcoinFundingV1 lib) :
    new funding.expectedTransactionId funding.exactSigned = .ok funding := by
  obtain ⟨transaction, _, _, parsed, identified⟩ := funding
  unfold new
  split
  · rename_i failed
    cases parsed.symm.trans failed
  · rename_i again
    cases parsed.symm.trans again
    exact dif_pos identified

theorem lockEffects_mirrors : Mirrors LockEffectsRecordV1.fromEffects
    (LockEffectsRecordV1.intoEffects : _ → CodecResult (BtcPreparedLockEffectsV1 lib)) where
  back value := by
    simp [LockEffectsRecordV1.fromEffects, LockEffectsRecordV1.intoEffects, PreparedBitcoinFundingV1.plan,
      PreparedLezFundingV1.plan, PreparedBitcoinFundingV1.new_self, PreparedLezFundingV1.new, value.lez.distinct,
      ok_bind, ensure]
  exact {stored value} read := by
    obtain ⟨_, _⟩ := stored
    simp only [LockEffectsRecordV1.intoEffects] at read
    split at read
    · simp only [checked_ok] at read
      obtain ⟨-, bitcoin, -, bitcoinPlan, read⟩ := read
      split at read
      · simp only [checked_ok, pure_ok] at read
        obtain ⟨-, lez, -, lezPlan, rfl⟩ := read
        rw [← bitcoinPlan, ← lezPlan]
        rfl
      · cases read
    · cases read

theorem validateTerms_ok {sdk : BtcPairSdk} {terms : BtcProtocolTermsV1 lib}
    {validated : ValidatedBtcProtocolTermsV1 lib}
    (valid : sdk.validateTerms terms = .ok validated) :
    validated.lockEffects = terms.lockEffects ∧ validated.claimEffects = terms.claimEffects ∧
      validated.recoveryEffects = terms.recoveryEffects := by
  simp only [BtcPairSdk.validateTerms, checked_ok, pure_ok] at valid
  obtain ⟨_, _, _, _, ⟨_⟩, _, ⟨_⟩, _, ⟨_⟩, _, rfl⟩ := valid
  exact ⟨rfl, rfl, rfl⟩

theorem prepare_ok {terms : ValidatedBtcProtocolTermsV1 lib} {prepared : BtcPreparedProtocolV1 lib}
    (ok : BtcPairSdk.prepare terms = .ok prepared) : prepared.terms = terms := by
  unfold BtcPairSdk.prepare at ok
  split at ok
  · cases ok
  · simp only [bind_ok_iff, pure_ok] at ok
    obtain ⟨_, _, rfl⟩ := ok
    rfl

theorem claimEffects_ok {effects : BtcPreparedClaimEffectsV1}
    (read : record.claimEffects agreement = .ok effects) :
    record.bitcoinPresignature = effects.bitcoinPresignature.bytes ∧
      record.lezPresignature = effects.lezPresignature.bytes ∧
      record.lezClaimPublicId = effects.lezClaim.expectedPublicId.bytes ∧
      record.lezClaimTemplate = effects.lezClaim.exactTemplate.bytes ∧
      record.lezClaimSignatureOffset = effects.lezClaim.signatureOffset := by
  simp only [PreparedRecordV1.claimEffects, bind_ok_iff, pure_ok] at read
  obtain ⟨id, publicId, template, exact, claim, slot, _, bitcoin, _, lez, rfl⟩ := read
  have same : claim.expectedPublicId = id ∧ claim.exactTemplate = template ∧
      claim.signatureOffset = record.lezClaimSignatureOffset := by
    unfold PreparedLezClaimTemplateV1.new at slot
    split at slot <;> cases slot
    exact ⟨rfl, rfl, rfl⟩
  simp only [same.1, same.2.1, same.2.2]
  exact ⟨((fixed_mirrors 65).exact bitcoin).symm, ((fixed_mirrors 65).exact lez).symm,
    (expectedId_mirrors.exact publicId).symm, (exactBytes_mirrors.exact exact).symm, trivial⟩

theorem recoveryEffects_ok
    {effects : BtcPreparedRecoveryEffectsV1} (read : record.recoveryEffects lib agreement = .ok effects) :
    record.bitcoinRefundSignature = effects.bitcoin.signature.bytes ∧ record.lezRefund = effects.lez.plan := by
  simp only [PreparedRecordV1.recoveryEffects, bind_ok_iff, mapError_ok_iff] at read
  obtain ⟨signature, fixed, bitcoin, refund, read⟩ := read
  have signed : bitcoin.signature = signature := by
    simp only [PreparedBitcoinRefundV1.new, bind_ok_iff, pure_ok] at refund
    obtain ⟨_, _, _, _, rfl⟩ := refund
    rfl
  split at read
  · simp only [checked_ok, pure_ok] at read
    obtain ⟨_, plan, rfl⟩ := read
    exact ⟨by rw [signed]; exact ((fixed_mirrors 64).exact fixed).symm, plan.symm⟩
  · cases read

theorem intoEnvelope_ok {durable : DurableRecordV1} {envelope : BtcActiveSwapEnvelopeV1 lib}
    (schema : durable.schemaVersion = btcLifecycleRecordSchemaV1) (into : durable.intoEnvelope lib = .ok envelope) :
    envelope.revision = durable.revision ∧
      (durable.prepared = none ∧ envelope.transitions = [] ∧
          (durable.transitions = [] → .fromEnvelope lib envelope = durable) ∨
        durable.prepared.isSome ∧ envelope.transitions.map .fromTransition = durable.transitions ∧
          .fromEnvelope lib envelope = durable) := by
  obtain ⟨version, wire, participant, revision, effects, prepared, transitions⟩ := durable
  cases schema
  simp only [DurableRecordV1.intoEnvelope, bind_ok_iff] at into
  obtain ⟨_, _, agreement, _, lockEffects, locks, into⟩ := into
  have stored := lockEffects_mirrors.exact locks
  cases prepared with
  | none =>
    cases into
    refine ⟨rfl, .inl ⟨rfl, rfl, fun none => ?_⟩⟩
    cases none
    rw [← stored]
    rfl
  | some record =>
    simp only [bind_ok_iff, mapError_ok_iff, pure_ok] at into
    obtain ⟨claims, claimRead, recovery, recoveryRead, validated, valid, prepared, ready, history, read, rfl⟩ := into
    obtain ⟨_, sameClaims, sameRecovery⟩ := validateTerms_ok valid
    have terms := prepare_ok ready
    have complete : prepared.claimEffects = claims :=
      Option.some.inj (prepared.complete.symm.trans ((congrArg (·.claimEffects) terms).trans sameClaims))
    have log := transitions_mirrors.exact read
    refine ⟨rfl, .inr ⟨rfl, log, ?_⟩⟩
    have again : PreparedRecordV1.fromPrepared prepared = some record := by
      obtain ⟨bitcoin, lez, publicId, template, offset⟩ := claimEffects_ok claimRead
      obtain ⟨signature, refund⟩ := recoveryEffects_ok recoveryRead
      rw [PreparedRecordV1.fromPrepared, terms, sameRecovery, complete, Option.map_some]
      simp only [← bitcoin, ← lez, ← publicId, ← template, ← offset, ← signature, ← refund]
    simp only [DurableRecordV1.fromEnvelope, Option.bind_some, again, log, stored]
    rfl

end Mirrors

section Genuine

variable {lib : Libraries} {codec : Codec} {active start : ActiveBtcSwap lib} {sdk : BtcPairSdk}
variable {envelope : BtcActiveSwapEnvelopeV1 lib}

theorem resume_ok (resumed : sdk.resume envelope = .ok active) :
    envelope.revision = envelope.transitions.length ∧
      ∃ start : ActiveBtcSwap lib, start.revision = 0 ∧ start.transitions = [] ∧
        start.accepted.wire = envelope.agreementWire ∧ start.accepted.localParticipant = envelope.localParticipant ∧
        start.lockEffects = envelope.lockEffects ∧ start.preparedProtocol = envelope.preparedProtocol ∧
        replayTransitions start envelope.transitions = .ok active := by
  simp only [BtcPairSdk.resume, BtcPairSdk.ensureLocalParticipant, checked_ok] at resumed
  obtain ⟨_, counted, role, accepted, accepts, resumed⟩ := resumed
  obtain ⟨wire, own, _⟩ := acceptWire_ok accepts
  refine ⟨counted, ?_⟩
  split at resumed
  · rename_i prepared stored
    simp only [checked_ok] at resumed
    obtain ⟨start, activated, same, replayed⟩ := resumed
    obtain ⟨_, _, _, rfl⟩ := activatePrepared_ok activated
    exact ⟨_, rfl, rfl, wire, own.trans role.symm, same, stored.symm, replayed⟩
  · rename_i stored
    split at resumed
    · simp only [checked_ok] at resumed
      obtain ⟨start, activated, same, replayed⟩ := resumed
      obtain ⟨_, _, rfl⟩ := activate_ok activated
      exact ⟨_, rfl, rfl, wire, own.trans role.symm, same, stored.symm, replayed⟩
    · cases resumed

/-- The log of a replay: the entries before it, and from the list every entry once. -/
theorem replay_log {history : List (BtcLifecycleTransitionV1 lib)}
    (replayed : replayTransitions start history = .ok active) (nodup : start.transitions.Nodup) :
    active.transitions.Nodup ∧ active.transitions ⊆ start.transitions ++ history ∧
      ((start.transitions ++ history).Nodup → active.transitions = start.transitions ++ history) := by
  induction history generalizing start with
  | nil =>
    cases replayed
    simpa using nodup
  | cons transition rest ih =>
    simp only [replayTransitions, bind_ok_iff, Prod.exists] at replayed
    obtain ⟨outcome, next, applied, later⟩ := replayed
    rcases applyTransition_ok applied with ⟨index, found, _, rfl⟩ | ⟨fresh, _, _, coordinator, _, rfl⟩
    · have known : transition ∈ next.transitions := by
        obtain ⟨inside, same, _⟩ := List.findIdx?_eq_some_iff_getElem.mp found
        exact of_decide_eq_true same ▸ List.getElem_mem inside
      obtain ⟨unique, subset, _⟩ := ih later nodup
      refine ⟨unique, fun entry member => ?_, fun distinct => ?_⟩
      · have := subset member
        simp only [List.mem_append, List.mem_cons] at this ⊢
        tauto
      · exact absurd known fun member => (List.nodup_append.mp distinct).2.2 _ member _ List.mem_cons_self rfl
    · have longer : (start.advanced coordinator transition).transitions.Nodup := by
        rw [ActiveBtcSwap.advanced, List.nodup_append]
        refine ⟨nodup, List.nodup_singleton _, fun entry member last single same => ?_⟩
        exact fresh (List.mem_singleton.mp single ▸ same ▸ member)
      have split : (start.advanced coordinator transition).transitions ++ rest =
          start.transitions ++ transition :: rest := by
        simp [ActiveBtcSwap.advanced]
      have facts := ih later longer
      rwa [split] at facts

/-- The record holds each of its transitions once, and none without a preparation. -/
def DurableRecordV1.Plain (durable : DurableRecordV1) : Prop :=
  durable.transitions.Nodup ∧ (durable.prepared.isSome ∨ durable.transitions = [])

instance (durable : DurableRecordV1) : Decidable durable.Plain := inferInstanceAs (Decidable (_ ∧ _))

/-- The bytes are the encoding of the value they resume to, and name its revision. -/
def Genuine (lib : Libraries) (codec : Codec) (record : BtcLifecycleRecordV1) (durable : DurableRecordV1) : Prop :=
  (∃ envelope active again, record.decode lib codec = .ok envelope ∧ resumeOwn lib envelope = .ok active ∧
    BtcLifecycleRecordV1.fromActive lib codec active = .ok again ∧ again.exactBytes = record.exactBytes) ∧
  record.revision = durable.revision ∧ durable.revision = durable.transitions.length

theorem accepted_record_genuine_iff (lib : Libraries) (codec : Codec) (bytes : Bytes) (durable : DurableRecordV1)
    (record : BtcLifecycleRecordV1) (parsed : codec.parse bytes = some durable)
    (accepted : BtcLifecycleRecordV1.fromExactBytes lib codec bytes = .ok record) :
    Genuine lib codec record durable ↔ durable.Plain := by
  have whole := accepted
  simp only [BtcLifecycleRecordV1.fromExactBytes, checked_ok, required_ok_iff, parsed, Option.some.injEq,
    pure_ok] at accepted
  obtain ⟨_, _, rfl, schema, canonical, envelope, into, active, resumed, rfl⟩ := accepted
  have own := resumed
  simp only [resumeOwn, bind_ok_iff, mapError_ok_iff] at own
  obtain ⟨_, _, own⟩ := own
  obtain ⟨counted, start, zero, unused, wire, role, locks, preparation, replayed⟩ := resume_ok own
  have replays := Replays.run zero unused (run_of_replay replayed)
  have log := replay_log replayed (by rw [unused]; exact List.nodup_nil)
  rw [unused, List.nil_append] at log
  obtain ⟨unique, subset, complete⟩ := log
  obtain ⟨revision, shape⟩ := intoEnvelope_ok schema into
  constructor
  · rintro ⟨_, named, counts⟩
    have named : active.revision = durable.revision := named
    rcases shape with ⟨none, dropped, _⟩ | ⟨some, stored, _⟩
    · have empty : durable.transitions = [] := by
        rw [dropped, List.length_nil, revision, counts] at counted
        exact List.length_eq_zero_iff.mp counted
      exact ⟨empty ▸ List.nodup_nil, .inr empty⟩
    · have full : envelope.transitions.length ≤ active.transitions.length := by
        exact Nat.le_of_eq (by rw [← replays.counted, named, ← revision, counted])
      have perm := (List.subperm_of_subset unique subset).perm_of_length_le full
      have distinct := (perm.nodup_iff.mp unique).map fun _ _ same => transition_mirrors.injective same
      exact ⟨stored ▸ distinct, .inl some⟩
  · rintro ⟨nodup, prepared⟩
    have facts : envelope.transitions.Nodup ∧ .fromEnvelope lib envelope = durable ∧
        envelope.transitions.length = durable.transitions.length := by
      rcases shape with ⟨none, dropped, same⟩ | ⟨_, stored, same⟩
      · have empty : durable.transitions = [] := prepared.resolve_left (by simp [none])
        exact ⟨dropped ▸ List.nodup_nil, same empty, by rw [dropped, empty, List.length_nil, List.length_nil]⟩
      · rw [← stored] at nodup ⊢
        exact ⟨List.Nodup.of_map _ nodup, same, (List.length_map _).symm⟩
    obtain ⟨distinct, same, length⟩ := facts
    have entries := complete distinct
    have restored : active.durableEnvelope = envelope := by
      rw [ActiveBtcSwap.durableEnvelope, replays.accepted, replays.lockEffects, replays.preparedProtocol,
        replays.counted, entries, wire, role, locks, preparation, ← counted]
    refine ⟨⟨envelope, active, _, ?_, resumed, ?_, rfl⟩, ?_, ?_⟩
    · simp only [BtcLifecycleRecordV1.decode, parsed, required, ok_bind]
      exact into
    · rw [BtcLifecycleRecordV1.fromActive, restored, same, canonical]
      exact whole
    · show active.revision = durable.revision
      rw [replays.counted, entries, ← counted, revision]
    · rw [← revision, counted, length]

def sampleProtocol : Result (BtcPreparedProtocolV1 sampleLib) :=
  sampleSdk.validateTerms (sampleTerms sampleLezFunding sampleFundingId) >>= BtcPairSdk.prepare

theorem sampleProtocol_some : sampleProtocol.toOption.isSome := by
  have opened := isSome_of_bind sampleShort_some
  rw [← bind_assoc] at opened
  exact isSome_of_bind opened

variable (history : List (BtcLifecycleTransitionV1 sampleLib))

def sampleDurable : Option DurableRecordV1 :=
  (samplePrepared sampleLezFunding sampleFundingId []).toOption.map fun start =>
    .fromEnvelope sampleLib { start.durableEnvelope with revision := history.length, transitions := history }

theorem sampleDurable_some : (sampleDurable history).isSome := by
  rw [sampleDurable, Option.isSome_map]
  exact sampleShort_some

def sampleStored : DurableRecordV1 := (sampleDurable history).get (sampleDurable_some history)

/-- The writer of the source and a reader that knows some records. -/
def sampleReader (known : List DurableRecordV1) : Codec :=
  ⟨fun text => known.find? (·.json = text), DurableRecordV1.json⟩

theorem sampleReader_first (record : DurableRecordV1) : (sampleReader [record]).parse record.json = some record := by
  simp [sampleReader]

def sampleRead : CodecResult BtcLifecycleRecordV1 :=
  BtcLifecycleRecordV1.fromExactBytes sampleLib (sampleReader [sampleStored history]) (sampleStored history).json

theorem sampleRead_some : ∀ count ∈ [1, 2],
    (sampleRead (List.replicate count (sampleFirstLock sampleLezFunding))).toOption.isSome := by decide +kernel

theorem accepted_record_genuine_iff_sample : ∃ record durable, record.revision = 1 ∧
      Genuine sampleLib (sampleReader [durable]) record durable := by
  refine ⟨_, sampleStored [sampleFirstLock sampleLezFunding], ?_, (accepted_record_genuine_iff _ _ _ _ _
    (sampleReader_first _) (ok_get (sampleRead_some 1 (by decide)))).mpr ?_⟩
  · decide +kernel
  · decide +kernel

/-- One first lock stored twice is accepted, with a revision that the bytes do not store. -/
theorem repeated_transition_accepted : ∃ record durable, (sampleReader [durable]).parse durable.json = some durable ∧
      BtcLifecycleRecordV1.fromExactBytes sampleLib (sampleReader [durable]) durable.json = .ok record ∧
      durable.revision = 2 ∧ durable.transitions.length = 2 ∧ record.revision = 1 := by
  refine ⟨_, sampleStored [sampleFirstLock sampleLezFunding, sampleFirstLock sampleLezFunding],
    sampleReader_first _, ok_get (sampleRead_some 2 (by decide)), ?_, ?_, ?_⟩ <;> decide +kernel

end Genuine

end AtomicSwaps.BtcSdk
