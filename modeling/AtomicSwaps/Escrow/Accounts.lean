import AtomicSwaps.Core.Types

namespace AtomicSwaps.Escrow

open AtomicSwaps.Core (Bytes32)

abbrev ProgramId := BitVec 256

def defaultProgramId : ProgramId := 0

def u128Limit : Nat := 2 ^ 128

/-- Derived account ids stay symbolic: hash collisions between derivations are outside the model. -/
inductive AccountId
  | zero
  | witnessed (publicKey : Bytes32)
  | metadata (program : ProgramId) (swapId : Bytes32)
  | custody (program : ProgramId) (swapId : Bytes32)
  | associatedToken (ataProgram : ProgramId) (owner definition : AccountId)
  | programDerived (program : ProgramId) (seed : Bytes32)
deriving DecidableEq

def AccountId.derivedBy (program : ProgramId) : AccountId → Bool
  | .metadata owner _ | .custody owner _ | .programDerived owner _ => decide (owner = program)
  | .associatedToken owner _ _ => decide (owner = program)
  | .zero | .witnessed _ => false

inductive EscrowStatus
  | empty | funded | claimed | refunded | xmrClaimAuthorized
deriving DecidableEq

inductive ClaimAuthority
  | sha256Preimage (secretDigest : Bytes32)
  | aggregateWitness (xOnlyPublicKey : Bytes32) (accountId : AccountId)
  | xmrDualAdaptor (claimAggregateXOnlyPublicKey : Bytes32) (claimAggregateAccountId : AccountId)
      (refundAggregateXOnlyPublicKey : Bytes32) (refundAggregateAccountId : AccountId)
      (makerDleqTranscriptCommitment takerDleqTranscriptCommitment : Bytes32)
      (claimPartialContextBinding claimPartialCommitment : Bytes32) (punishAt : Nat)
deriving DecidableEq

/-- `refundAt` is the exclusive claim and funding boundary and the inclusive refund boundary, in LEZ
    Unix milliseconds. -/
structure EscrowMetadata where
  version : Nat
  (swapId termsHash : Bytes32)
  claimAuthority : ClaimAuthority
  (depositor depositorAsset claimant claimantAsset custody : AccountId)
  (assetProgram custodyProgram : ProgramId)
  assetDefinition : AccountId
  (amount refundAt : Nat)
  status : EscrowStatus
deriving DecidableEq

/-- Account data as the programs decode it; anything none of them decodes is `unrecognised`. -/
inductive AccountData
  | none
  | escrow (state : EscrowMetadata)
  | fungibleHolding (definition : AccountId) (balance : Nat)
  | otherHolding (definition : AccountId)
  | fungibleDefinition
  | unrecognised
deriving DecidableEq

structure Account where
  programOwner : ProgramId
  balance : Nat
  data : AccountData
deriving DecidableEq

def Account.default : Account := ⟨defaultProgramId, 0, .none⟩

structure AccountWithMetadata where
  accountId : AccountId
  account : Account
  isAuthorized : Bool

inductive SpelError
  | custom (code : Nat) (message : String)
  | deserializationError (accountIndex : Nat)
  | accountConstraint (message : String)
deriving DecidableEq

/-- A half-open timestamp window; a missing bound is unbounded. -/
structure ValidityWindow where
  (start stop : Option Nat)

def ValidityWindow.contains (window : ValidityWindow) (timestamp : Nat) : Bool :=
  window.start.all (· ≤ timestamp) && window.stop.all (timestamp < ·)

/-- The calls the escrow chains into the asset programs. `lent` is the account its PDA seeds
    authorise for the call, if any. -/
inductive ChainedCall
  | nativeInitialize (program : ProgramId) (custody : AccountId)
  | nativeTransfer (program : ProgramId) (sender recipient : AccountId) (amount : Nat)
      (lent : Option AccountId)
  | ataCreate (program : ProgramId) (owner definition account : AccountId)
  | ataTransfer (program : ProgramId) (owner sender recipient : AccountId) (amount : Nat)
      (lent : Option AccountId)

/-- Only the metadata account is rewritten; every other account is returned as it was passed in. -/
structure SpelOutput where
  metadata : AccountWithMetadata
  calls : List ChainedCall
  window : ValidityWindow

end AtomicSwaps.Escrow
