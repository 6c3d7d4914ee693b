import AtomicSwaps.Escrow.Accounts
import AtomicSwaps.Transition.Fallible

namespace AtomicSwaps.Escrow

open AtomicSwaps.Core (Bytes32)
open Fallible

def errorInvalidTerms : Nat := 1
def errorNotFunded : Nat := 2
def errorAccountBinding : Nat := 3
def errorWrongPreimage : Nat := 4
def errorUnsupportedVersion : Nat := 5
def errorWrongClaimAuthority : Nat := 6

def escrowMetadataVersion : Nat := 2
def xmrEscrowMetadataVersion : Nat := 3

def customError (code : Nat) (message : String) : SpelError := .custom code message

/-- The program's own id and the hash functions it links: SHA-256 of a preimage, and the
    domain-separated SHA-256 of a claim partial and its context. -/
structure ProgramContext where
  selfProgramId : ProgramId
  sha256 : Bytes32 → Bytes32
  xmrClaimPartialCommitment : Bytes32 → Bytes32 → Bytes32

def witnessedAccountId (xOnlyPublicKey : Bytes32) : AccountId := .witnessed xOnlyPublicKey

def validClaimAuthority (authority : ClaimAuthority) (claimant : AccountId) : Bool :=
  match authority with
  | .sha256Preimage secretDigest => secretDigest ≠ 0
  | .aggregateWitness xOnlyPublicKey accountId =>
    xOnlyPublicKey ≠ 0 ∧ witnessedAccountId xOnlyPublicKey = accountId ∧ accountId ≠ claimant
  | .xmrDualAdaptor claimKey claimAccount refundKey refundAccount makerDleq takerDleq binding
      commitment punishAt =>
    claimKey ≠ 0 ∧ refundKey ≠ 0 ∧ claimKey ≠ refundKey ∧
      witnessedAccountId claimKey = claimAccount ∧ witnessedAccountId refundKey = refundAccount ∧
      claimAccount ≠ refundAccount ∧ claimAccount ≠ claimant ∧ refundAccount ≠ claimant ∧
      makerDleq ≠ 0 ∧ takerDleq ≠ 0 ∧ makerDleq ≠ takerDleq ∧ binding ≠ 0 ∧ commitment ≠ 0 ∧
      punishAt ≠ 0

variable (ctx : ProgramContext) (state : EscrowMetadata)

def requirePreimageAuthority (preimage : Bytes32) : Except SpelError Unit :=
  match state.claimAuthority with
  | .sha256Preimage secretDigest =>
    ensure (ctx.sha256 preimage = secretDigest) (customError errorWrongPreimage "wrong preimage")
  | _ => .error (customError errorWrongClaimAuthority "escrow requires an aggregate transaction witness")

def requireAggregateWitnessAuthority (aggregateAuthority : AccountId) : Except SpelError Unit :=
  match state.claimAuthority with
  | .aggregateWitness xOnlyPublicKey accountId =>
    ensure (witnessedAccountId xOnlyPublicKey = accountId ∧ accountId = aggregateAuthority ∧
        accountId ≠ state.claimant)
      (customError errorAccountBinding "aggregate witness account binding mismatch")
  | _ => .error (customError errorWrongClaimAuthority "escrow requires a SHA-256 preimage")

inductive XmrWitnessPurpose
  | claim | refund

def XmrWitnessPurpose.statusAllowed : XmrWitnessPurpose → EscrowStatus → Bool
  | .claim, status => status = .xmrClaimAuthorized
  | .refund, status => status = .funded ∨ status = .xmrClaimAuthorized

def requireXmrWitnessAuthority (purpose : XmrWitnessPurpose)
    (aggregateAuthority : AccountId) : Except SpelError Nat :=
  match state.claimAuthority with
  | .xmrDualAdaptor claimKey claimAccount refundKey refundAccount _ _ _ _ punishAt => do
    let (publicKey, accountId) := match purpose with
      | .claim => (claimKey, claimAccount)
      | .refund => (refundKey, refundAccount)
    ensure (witnessedAccountId publicKey = accountId ∧ accountId = aggregateAuthority ∧
        accountId ≠ state.depositor ∧ accountId ≠ state.claimant)
      (customError errorAccountBinding "XMR aggregate witness account binding mismatch")
    return punishAt
  | _ => .error (customError errorWrongClaimAuthority "escrow is not an XMR dual-adaptor escrow")

variable (account : AccountWithMetadata) (state : EscrowMetadata)

def writeMetadata : AccountWithMetadata :=
  { account with account := { account.account with data := .escrow state } }

def readMetadata : Except SpelError EscrowMetadata :=
  match account.account.data with
  | .escrow state => .ok state
  | _ => .error (.deserializationError 0)

def tokenDefinition : Except SpelError AccountId :=
  match account.account.data with
  | .fungibleHolding definition _ | .otherHolding definition => .ok definition
  | _ => .error (customError errorAccountBinding "invalid token holding")

def fungibleBalance : Except SpelError Nat :=
  match account.account.data with
  | .fungibleHolding _ balance => .ok balance
  | .otherHolding _ => .error (customError errorAccountBinding "token holding must be fungible")
  | _ => .error (customError errorAccountBinding "invalid token holding")

def requireFungibleDefinition (tokenProgram : ProgramId) : Except SpelError Unit :=
  ensure (account.account.programOwner = tokenProgram ∧ account.account.data = .fungibleDefinition)
    (customError errorAccountBinding "token definition must be fungible and token-program owned")

def nativeInitialState (custody depositor claimant : AccountWithMetadata)
    (swapId termsHash : Bytes32) (claimAuthority : ClaimAuthority) (amount refundAt : Nat)
    (authenticatedTransferProgram : ProgramId) : Except SpelError EscrowMetadata := do
  ensure (amount ≠ 0 ∧ refundAt ≠ 0 ∧ termsHash ≠ 0 ∧
      validClaimAuthority claimAuthority claimant.accountId ∧
      authenticatedTransferProgram ≠ defaultProgramId ∧
      authenticatedTransferProgram ≠ ctx.selfProgramId)
    (customError errorInvalidTerms "invalid native terms")
  ensure (custody.account = .default ∧
      depositor.account.programOwner = authenticatedTransferProgram ∧
      claimant.account.programOwner = authenticatedTransferProgram)
    (customError errorAccountBinding "native custody or actor owner mismatch")
  return { version := escrowMetadataVersion, swapId, termsHash, claimAuthority
           depositor := depositor.accountId, depositorAsset := depositor.accountId
           claimant := claimant.accountId, claimantAsset := claimant.accountId
           custody := custody.accountId, assetProgram := authenticatedTransferProgram
           custodyProgram := authenticatedTransferProgram, assetDefinition := .zero
           amount, refundAt, status := .empty }

structure XmrTerms where
  (claimAggregateXOnlyPublicKey refundAggregateXOnlyPublicKey makerDleqTranscriptCommitment : Bytes32)
  (takerDleqTranscriptCommitment claimPartialContextBinding claimPartialCommitment : Bytes32)
  punishAt : Nat

def XmrTerms.authority (terms : XmrTerms) (claimAggregate refundAggregate : AccountId) : ClaimAuthority :=
  .xmrDualAdaptor terms.claimAggregateXOnlyPublicKey claimAggregate
    terms.refundAggregateXOnlyPublicKey refundAggregate terms.makerDleqTranscriptCommitment
    terms.takerDleqTranscriptCommitment terms.claimPartialContextBinding
    terms.claimPartialCommitment terms.punishAt

def nativeXmrInitialState (custody depositor claimant claimAggregateAuthority refundAggregateAuthority :
    AccountWithMetadata)
    (swapId termsHash : Bytes32) (terms : XmrTerms) (amount refundAt : Nat)
    (authenticatedTransferProgram : ProgramId) : Except SpelError EscrowMetadata := do
  ensure (refundAt < terms.punishAt ∧ depositor.accountId ≠ claimant.accountId ∧
      depositor.accountId ≠ claimAggregateAuthority.accountId ∧
      depositor.accountId ≠ refundAggregateAuthority.accountId)
    (customError errorInvalidTerms "invalid XMR native terms")
  let state ← nativeInitialState ctx custody depositor claimant swapId termsHash
    (terms.authority claimAggregateAuthority.accountId refundAggregateAuthority.accountId)
    amount refundAt authenticatedTransferProgram
  return { state with version := xmrEscrowMetadataVersion }

def supportedVersion : ClaimAuthority → Nat
  | .xmrDualAdaptor .. => xmrEscrowMetadataVersion
  | _ => escrowMetadataVersion

def requireSupported : Except SpelError Unit :=
  ensure (state.version = supportedVersion state.claimAuthority)
    (customError errorUnsupportedVersion "unsupported escrow metadata version")

def requireFunded : Except SpelError Unit := do
  requireSupported state
  ensure (state.status = .funded) (customError errorNotFunded "escrow is not funded")

inductive ClaimProof
  | sha256Preimage (preimage : Bytes32)
  | aggregateWitness (aggregateAuthority : AccountId)

def requireClaimProof : ClaimProof → Except SpelError Unit
  | .sha256Preimage preimage => requirePreimageAuthority ctx state preimage
  | .aggregateWitness aggregateAuthority => requireAggregateWitnessAuthority state aggregateAuthority

/-- The account bindings every settlement of a native escrow checks. The custody balance must be the
    recorded amount exactly. -/
def nativeBinding (custody recipient : AccountWithMetadata)
    (expectedRecipient : AccountId) (swapId : Bytes32) : Bool :=
  state.swapId = swapId ∧ state.assetDefinition = .zero ∧ state.assetProgram = state.custodyProgram ∧
    expectedRecipient = recipient.accountId ∧ state.custody = custody.accountId ∧
    recipient.account.programOwner = state.assetProgram ∧
    custody.account.programOwner = state.assetProgram ∧ custody.account.balance = state.amount

variable (metadata custody claimant : AccountWithMetadata)

def validatedNativeClaimState (swapId : Bytes32) (proof : ClaimProof) : Except SpelError EscrowMetadata := do
  let state ← readMetadata metadata
  requireFunded state
  ensure (nativeBinding state custody claimant state.claimant swapId)
    (customError errorAccountBinding "native claim account binding mismatch")
  requireClaimProof ctx state proof
  return { state with status := .claimed }

def validatedXmrNativeWitnessState (metadata custody recipient aggregateAuthority : AccountWithMetadata)
    (swapId : Bytes32) (purpose : XmrWitnessPurpose) : Except SpelError (EscrowMetadata × Nat) := do
  let state ← readMetadata metadata
  ensure (purpose.statusAllowed state.status)
    (customError errorNotFunded "XMR escrow is not in the required branch state")
  let expectedRecipient := match purpose with
    | .claim => state.claimant
    | .refund => state.depositor
  ensure (state.version = xmrEscrowMetadataVersion ∧
      nativeBinding state custody recipient expectedRecipient swapId)
    (customError errorAccountBinding "XMR native witness account binding mismatch")
  let punishAt ← requireXmrWitnessAuthority state purpose aggregateAuthority.accountId
  let status := match purpose with
    | .claim => EscrowStatus.claimed
    | .refund => EscrowStatus.refunded
  return ({ state with status }, punishAt)

def validatedXmrClaimAuthorizationState (metadata depositor : AccountWithMetadata)
    (swapId claimPartial : Bytes32) : Except SpelError EscrowMetadata := do
  let state ← readMetadata metadata
  requireFunded state
  match state.claimAuthority with
  | .xmrDualAdaptor _ _ _ _ _ _ binding commitment _ =>
    ensure (state.swapId = swapId ∧ state.version = xmrEscrowMetadataVersion ∧
        state.depositor = depositor.accountId ∧ depositor.account.programOwner = state.assetProgram ∧
        claimPartial ≠ 0 ∧ ctx.xmrClaimPartialCommitment binding claimPartial = commitment)
      (customError errorAccountBinding "XMR on-chain claim-partial authorization mismatch")
    return { state with status := .xmrClaimAuthorized }
  | _ => .error (customError errorWrongClaimAuthority "escrow is not an XMR dual-adaptor escrow")

def validatedXmrNativePunishState (swapId : Bytes32) : Except SpelError (EscrowMetadata × Nat) := do
  let state ← readMetadata metadata
  ensure (state.status = .funded ∨ state.status = .xmrClaimAuthorized)
    (customError errorNotFunded "escrow is not funded")
  ensure (state.version = xmrEscrowMetadataVersion ∧
      nativeBinding state custody claimant state.claimant swapId)
    (customError errorAccountBinding "XMR native punishment account binding mismatch")
  match state.claimAuthority with
  | .xmrDualAdaptor _ _ _ _ _ _ _ _ punishAt => return ({ state with status := .claimed }, punishAt)
  | _ => .error (customError errorWrongClaimAuthority "escrow is not an XMR dual-adaptor escrow")

def tokenInitialState (metadata depositorOwner claimantOwner definition : AccountWithMetadata)
    (swapId termsHash : Bytes32) (claimAuthority : ClaimAuthority) (amount refundAt : Nat)
    (ataProgram : ProgramId) : Except SpelError EscrowMetadata := do
  let tokenProgram := definition.account.programOwner
  ensure (amount ≠ 0 ∧ refundAt ≠ 0 ∧ termsHash ≠ 0 ∧
      validClaimAuthority claimAuthority claimantOwner.accountId ∧
      tokenProgram ≠ defaultProgramId ∧ tokenProgram ≠ ctx.selfProgramId ∧
      ataProgram ≠ defaultProgramId ∧ ataProgram ≠ ctx.selfProgramId ∧ ataProgram ≠ tokenProgram)
    (customError errorInvalidTerms "invalid token terms")
  requireFungibleDefinition definition tokenProgram
  return { version := escrowMetadataVersion, swapId, termsHash, claimAuthority
           depositor := depositorOwner.accountId
           depositorAsset := .associatedToken ataProgram depositorOwner.accountId definition.accountId
           claimant := claimantOwner.accountId
           claimantAsset := .associatedToken ataProgram claimantOwner.accountId definition.accountId
           custody := .associatedToken ataProgram metadata.accountId definition.accountId
           assetProgram := tokenProgram, custodyProgram := ataProgram
           assetDefinition := definition.accountId, amount, refundAt, status := .empty }

def requireTokenDefinition (account : AccountWithMetadata) (message : String) : Except SpelError Unit := do
  let definition ← tokenDefinition account
  ensure (definition = state.assetDefinition) (customError errorAccountBinding message)

def validatedTokenClaimState (metadata custody claimantOwner claimantAsset : AccountWithMetadata) (swapId : Bytes32)
    (proof : ClaimProof) : Except SpelError EscrowMetadata := do
  let message := "token claim account binding mismatch"
  let state ← readMetadata metadata
  requireFunded state
  ensure (state.swapId = swapId ∧ state.claimant = claimantOwner.accountId ∧
      state.claimantAsset = claimantAsset.accountId ∧ state.custody = custody.accountId ∧
      claimantAsset.account.programOwner = state.assetProgram ∧
      custody.account.programOwner = state.assetProgram)
    (customError errorAccountBinding message)
  requireTokenDefinition state claimantAsset message
  requireTokenDefinition state custody message
  let balance ← fungibleBalance custody
  ensure (balance = state.amount) (customError errorAccountBinding message)
  requireClaimProof ctx state proof
  return { state with status := .claimed }

def requireSigner : Except SpelError Unit :=
  ensure account.isAuthorized (.accountConstraint "signer")

def requirePda (expected : AccountId) : Except SpelError Unit :=
  ensure (account.accountId = expected) (.accountConstraint "pda")

variable (metadata : AccountWithMetadata)

def requireInit (swapId : Bytes32) : Except SpelError Unit := do
  requirePda metadata (.metadata ctx.selfProgramId swapId)
  ensure (metadata.account = .default) (.accountConstraint "init")

def requireOwned (swapId : Bytes32) : Except SpelError Unit := do
  requirePda metadata (.metadata ctx.selfProgramId swapId)
  ensure (metadata.account.programOwner = ctx.selfProgramId) (.accountConstraint "owner")

def requireCustody (custody : AccountWithMetadata) (swapId : Bytes32) : Except SpelError Unit :=
  requirePda custody (.custody ctx.selfProgramId swapId)

def windowBefore (stop : Nat) : ValidityWindow := ⟨none, some stop⟩
def windowFrom (start : Nat) : ValidityWindow := ⟨some start, none⟩

/-- The claims, refunds and punishments of a native escrow pay the recorded amount out of custody. -/
def nativePayout (state : EscrowMetadata)
    (custody recipient : AccountWithMetadata) (swapId : Bytes32) (window : ValidityWindow) : SpelOutput :=
  { metadata := writeMetadata metadata state
    calls := [.nativeTransfer state.assetProgram custody.accountId recipient.accountId state.amount
      (some (.custody ctx.selfProgramId swapId))]
    window }

def tokenPayout (state : EscrowMetadata)
    (custody recipient : AccountWithMetadata) (swapId : Bytes32) (window : ValidityWindow) : SpelOutput :=
  { metadata := writeMetadata metadata state
    calls := [.ataTransfer state.custodyProgram metadata.accountId custody.accountId
      recipient.accountId state.amount (some (.metadata ctx.selfProgramId swapId))]
    window }

def nativeOpening (state : EscrowMetadata) (custody : AccountWithMetadata) : SpelOutput :=
  { metadata := writeMetadata metadata state
    calls := [.nativeInitialize state.assetProgram custody.accountId]
    window := windowBefore state.refundAt }

def tokenOpening (state : EscrowMetadata) : SpelOutput :=
  { metadata := writeMetadata metadata state, calls := [], window := windowBefore state.refundAt }

def initializeNative (metadata custody depositor claimant : AccountWithMetadata)
    (swapId termsHash secretDigest : Bytes32) (amount refundAt : Nat)
    (authenticatedTransferProgram : ProgramId) : Except SpelError SpelOutput := do
  requireInit ctx metadata swapId
  requireCustody ctx custody swapId
  requireSigner depositor
  let state ← nativeInitialState ctx custody depositor claimant swapId termsHash
    (.sha256Preimage secretDigest) amount refundAt authenticatedTransferProgram
  return nativeOpening metadata state custody

def initializeNativeWitnessed (metadata custody depositor claimant aggregateAuthority : AccountWithMetadata)
    (swapId termsHash aggregateXOnlyPublicKey : Bytes32) (amount refundAt : Nat)
    (authenticatedTransferProgram : ProgramId) : Except SpelError SpelOutput := do
  requireInit ctx metadata swapId
  requireCustody ctx custody swapId
  requireSigner depositor
  let state ← nativeInitialState ctx custody depositor claimant swapId termsHash
    (.aggregateWitness aggregateXOnlyPublicKey aggregateAuthority.accountId) amount refundAt
    authenticatedTransferProgram
  return nativeOpening metadata state custody

def fundNative (metadata custody depositor : AccountWithMetadata)
    (swapId : Bytes32) : Except SpelError SpelOutput := do
  requireOwned ctx metadata swapId
  requireCustody ctx custody swapId
  requireSigner depositor
  let state ← readMetadata metadata
  requireSupported state
  ensure (state.status = .empty) (customError errorNotFunded "escrow is not empty")
  ensure (state.swapId = swapId ∧ state.assetDefinition = .zero ∧
      state.assetProgram = state.custodyProgram ∧ state.depositor = depositor.accountId ∧
      state.custody = custody.accountId ∧ depositor.account.programOwner = state.assetProgram ∧
      custody.account.programOwner = state.assetProgram ∧ custody.account.balance = 0 ∧
      state.amount ≤ depositor.account.balance)
    (customError errorAccountBinding "native funding account binding mismatch")
  return { metadata := writeMetadata metadata { state with status := .funded }
           calls := [.nativeTransfer state.assetProgram depositor.accountId custody.accountId
             state.amount none]
           window := windowBefore state.refundAt }

def claimNative (metadata custody claimant : AccountWithMetadata)
    (swapId preimage : Bytes32) : Except SpelError SpelOutput := do
  requireOwned ctx metadata swapId
  requireCustody ctx custody swapId
  requireSigner claimant
  let state ← validatedNativeClaimState ctx metadata custody claimant swapId (.sha256Preimage preimage)
  return nativePayout ctx metadata state custody claimant swapId (windowBefore state.refundAt)

def claimNativeWitnessed (metadata custody claimant aggregateAuthority : AccountWithMetadata) (swapId : Bytes32) :
    Except SpelError SpelOutput := do
  requireOwned ctx metadata swapId
  requireCustody ctx custody swapId
  requireSigner aggregateAuthority
  let state ← validatedNativeClaimState ctx metadata custody claimant swapId
    (.aggregateWitness aggregateAuthority.accountId)
  return nativePayout ctx metadata state custody claimant swapId (windowBefore state.refundAt)

def refundNative (metadata custody depositor : AccountWithMetadata)
    (swapId : Bytes32) : Except SpelError SpelOutput := do
  requireOwned ctx metadata swapId
  requireCustody ctx custody swapId
  let state ← readMetadata metadata
  requireFunded state
  match state.claimAuthority with
  | .xmrDualAdaptor .. =>
    .error (customError errorWrongClaimAuthority "XMR escrow requires the signed refund instruction")
  | _ =>
    ensure (nativeBinding state custody depositor state.depositor swapId)
      (customError errorAccountBinding "native refund account binding mismatch")
    return nativePayout ctx metadata { state with status := .refunded } custody depositor swapId
      (windowFrom state.refundAt)

def initializeToken (metadata depositorOwner claimantOwner definition : AccountWithMetadata)
    (swapId termsHash secretDigest : Bytes32) (amount refundAt : Nat) (ataProgram : ProgramId) :
    Except SpelError SpelOutput := do
  requireInit ctx metadata swapId
  requireSigner depositorOwner
  let state ← tokenInitialState ctx metadata depositorOwner claimantOwner definition swapId termsHash
    (.sha256Preimage secretDigest) amount refundAt ataProgram
  return tokenOpening metadata state

def createTokenCustody (metadata definition custody : AccountWithMetadata)
    (swapId : Bytes32) : Except SpelError SpelOutput := do
  requireOwned ctx metadata swapId
  let state ← readMetadata metadata
  requireSupported state
  ensure (state.status = .empty) (customError errorNotFunded "escrow is not empty")
  ensure (state.swapId = swapId ∧ state.assetDefinition = definition.accountId ∧
      state.custody = custody.accountId ∧
      state.custody = .associatedToken state.custodyProgram metadata.accountId definition.accountId ∧
      custody.account = .default)
    (customError errorAccountBinding "token custody derivation mismatch")
  requireFungibleDefinition definition state.assetProgram
  return { metadata
           calls := [.ataCreate state.custodyProgram metadata.accountId definition.accountId
             custody.accountId]
           window := windowBefore state.refundAt }

def fundToken (metadata depositorOwner depositorAsset custody : AccountWithMetadata) (swapId : Bytes32) :
    Except SpelError SpelOutput := do
  let message := "token funding account binding mismatch"
  requireOwned ctx metadata swapId
  requireSigner depositorOwner
  let state ← readMetadata metadata
  requireSupported state
  ensure (state.status = .empty) (customError errorNotFunded "escrow is not empty")
  ensure (state.swapId = swapId ∧ state.depositor = depositorOwner.accountId ∧
      state.depositorAsset = depositorAsset.accountId ∧ state.custody = custody.accountId ∧
      depositorAsset.account.programOwner = state.assetProgram ∧
      custody.account.programOwner = state.assetProgram)
    (customError errorAccountBinding message)
  requireTokenDefinition state depositorAsset message
  requireTokenDefinition state custody message
  let available ← fungibleBalance depositorAsset
  ensure (state.amount ≤ available) (customError errorAccountBinding message)
  let held ← fungibleBalance custody
  ensure (held = 0) (customError errorAccountBinding message)
  return { metadata := writeMetadata metadata { state with status := .funded }
           calls := [.ataTransfer state.custodyProgram depositorOwner.accountId
             depositorAsset.accountId custody.accountId state.amount none]
           window := windowBefore state.refundAt }

def claimToken (metadata custody claimantOwner claimantAsset : AccountWithMetadata) (swapId preimage : Bytes32) :
    Except SpelError SpelOutput := do
  requireOwned ctx metadata swapId
  requireSigner claimantOwner
  let state ← validatedTokenClaimState ctx metadata custody claimantOwner claimantAsset swapId
    (.sha256Preimage preimage)
  return tokenPayout ctx metadata state custody claimantAsset swapId (windowBefore state.refundAt)

def refundToken (metadata custody depositorAsset : AccountWithMetadata)
    (swapId : Bytes32) : Except SpelError SpelOutput := do
  let message := "token refund account binding mismatch"
  requireOwned ctx metadata swapId
  let state ← readMetadata metadata
  requireFunded state
  ensure (state.swapId = swapId ∧ state.depositorAsset = depositorAsset.accountId ∧
      state.custody = custody.accountId ∧
      depositorAsset.account.programOwner = state.assetProgram ∧
      custody.account.programOwner = state.assetProgram)
    (customError errorAccountBinding message)
  requireTokenDefinition state depositorAsset message
  requireTokenDefinition state custody message
  let balance ← fungibleBalance custody
  ensure (balance = state.amount) (customError errorAccountBinding message)
  return tokenPayout ctx metadata { state with status := .refunded } custody depositorAsset swapId
    (windowFrom state.refundAt)

def initializeTokenWitnessed (metadata depositorOwner claimantOwner definition aggregateAuthority :
    AccountWithMetadata)
    (swapId termsHash aggregateXOnlyPublicKey : Bytes32) (amount refundAt : Nat)
    (ataProgram : ProgramId) : Except SpelError SpelOutput := do
  requireInit ctx metadata swapId
  requireSigner depositorOwner
  let state ← tokenInitialState ctx metadata depositorOwner claimantOwner definition swapId termsHash
    (.aggregateWitness aggregateXOnlyPublicKey aggregateAuthority.accountId) amount refundAt ataProgram
  return tokenOpening metadata state

def claimTokenWitnessed (metadata custody claimantOwner claimantAsset aggregateAuthority : AccountWithMetadata)
    (swapId : Bytes32) : Except SpelError SpelOutput := do
  requireOwned ctx metadata swapId
  requireSigner aggregateAuthority
  let state ← validatedTokenClaimState ctx metadata custody claimantOwner claimantAsset swapId
    (.aggregateWitness aggregateAuthority.accountId)
  return tokenPayout ctx metadata state custody claimantAsset swapId (windowBefore state.refundAt)

def initializeNativeXmr
    (metadata custody depositor claimant claimAggregateAuthority refundAggregateAuthority : AccountWithMetadata)
    (swapId termsHash : Bytes32) (terms : XmrTerms) (amount refundAt : Nat)
    (authenticatedTransferProgram : ProgramId) : Except SpelError SpelOutput := do
  requireInit ctx metadata swapId
  requireCustody ctx custody swapId
  requireSigner depositor
  let state ← nativeXmrInitialState ctx custody depositor claimant claimAggregateAuthority
    refundAggregateAuthority swapId termsHash terms amount refundAt authenticatedTransferProgram
  return nativeOpening metadata state custody

def authorizeNativeXmrClaim (metadata depositor : AccountWithMetadata)
    (swapId claimPartial : Bytes32) : Except SpelError SpelOutput := do
  requireOwned ctx metadata swapId
  requireSigner depositor
  let state ← validatedXmrClaimAuthorizationState ctx metadata depositor swapId claimPartial
  return { metadata := writeMetadata metadata state, calls := []
           window := windowBefore state.refundAt }

def claimNativeXmr (metadata custody claimant claimAggregateAuthority : AccountWithMetadata) (swapId : Bytes32) :
    Except SpelError SpelOutput := do
  requireOwned ctx metadata swapId
  requireCustody ctx custody swapId
  requireSigner claimAggregateAuthority
  let (state, _) ← validatedXmrNativeWitnessState metadata custody claimant claimAggregateAuthority
    swapId .claim
  return nativePayout ctx metadata state custody claimant swapId (windowBefore state.refundAt)

def refundNativeXmr (metadata custody depositor refundAggregateAuthority : AccountWithMetadata) (swapId : Bytes32) :
    Except SpelError SpelOutput := do
  requireOwned ctx metadata swapId
  requireCustody ctx custody swapId
  requireSigner refundAggregateAuthority
  let (state, punishAt) ← validatedXmrNativeWitnessState metadata custody depositor
    refundAggregateAuthority swapId .refund
  -- An empty window cannot be built.
  ensure (state.refundAt < punishAt)
    (customError errorInvalidTerms "invalid XMR signed refund validity window")
  return nativePayout ctx metadata state custody depositor swapId ⟨some state.refundAt, some punishAt⟩

def punishNativeXmr (metadata custody claimant : AccountWithMetadata)
    (swapId : Bytes32) : Except SpelError SpelOutput := do
  requireOwned ctx metadata swapId
  requireCustody ctx custody swapId
  requireSigner claimant
  let (state, punishAt) ← validatedXmrNativePunishState metadata custody claimant swapId
  return nativePayout ctx metadata state custody claimant swapId (windowFrom punishAt)

end AtomicSwaps.Escrow
