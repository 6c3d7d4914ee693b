import AtomicSwaps.Core.Coordinator
import AtomicSwaps.Relational.Table
import AtomicSwaps.Transition.Fallible

namespace AtomicSwaps.Maker

open AtomicSwaps.Core Relational

abbrev SwapId := Identifier

abbrev RequestId := String

abbrev Bytes33 := BitVec 264

def i64Max : Nat := 2 ^ 63 - 1

structure MakerOfferId where
  text : String
  bounded : 8 ≤ text.utf8ByteSize ∧ text.utf8ByteSize ≤ 64
  safe : text.toList.all fun character => character.isAlphanum || character == '.' || character == '_' ||
    character == '-'
deriving DecidableEq

section Configuration

structure MakerRouteV1 where
  pair : Pair
  direction : SwapDirection
deriving DecidableEq

inductive MakerPriceSourceKind
  | localPrice | logosCApi
deriving DecidableEq

structure MakerPairConfigurationV1 where
  route : MakerRouteV1
  enabled : Bool
  priceSource : MakerPriceSourceKind
  (minimumForeignUnits maximumForeignUnits offerTtlSeconds : Nat)
deriving DecidableEq

structure LocalPriceV1 where
  route : MakerRouteV1
  (lezUnitsPerLot foreignUnitsPerLot : Nat)
deriving DecidableEq

end Configuration

section Actor

inductive MakerActorKindV1
  | bitcoin | monero | zcash
deriving DecidableEq

def MakerActorKindV1.pair : MakerActorKindV1 → Pair
  | .bitcoin => .bitcoin
  | .monero => .monero
  | .zcash => .zcash

/-- An absolute path by its components, none of which steps back to a parent. -/
structure Path where
  components : List String
  normal : ".." ∉ components
  bounded : (components.map (·.utf8ByteSize + 1)).sum ≤ 4096
deriving DecidableEq

structure MakerActorManifestV1 where
  swapId : SwapId
  kind : MakerActorKindV1
  configPath : Path
  configSha256 : Bytes32
  programPath : Path
  programSha256 : Bytes32
  stateDatabasePath : Path
  distinct : configPath ≠ programPath ∧ configPath ≠ stateDatabasePath ∧ programPath ≠ stateDatabasePath
deriving DecidableEq

inductive MakerActorManualAction
  | claim | refund
deriving DecidableEq

end Actor

section Requests

structure ReserveRequest where
  offerId : MakerOfferId
  expectedRevision : Nat
  reservationId : RequestId
  nowUnixSeconds : Nat
deriving DecidableEq

structure ConsumeRequest where
  offerId : MakerOfferId
  expectedRevision : Nat
  reservationId : RequestId
  swap : SwapCoordinator
deriving DecidableEq

structure StageZecNegotiationRequest where
  offerId : MakerOfferId
  expectedRevision : Nat
  reservationId : RequestId
  offerCommitment : Bytes32
  (makerChatIdentity takerChatIdentity : Bytes33)
  (foreignUnits lezUnits : Nat)
  (agreementCommitment makerProposalSha256 : Bytes32)
deriving DecidableEq

structure StageXmrNegotiationRequest where
  offerId : MakerOfferId
  expectedRevision : Nat
  reservationId : RequestId
  offerCommitment : Bytes32
  (makerAgreementIdentity takerAgreementIdentity : Bytes33)
  (foreignUnits lezUnits : Nat)
  (agreementCommitment stageAWireSha256 : Bytes32)
deriving DecidableEq

structure StageBtcNegotiationRequest where
  offerId : MakerOfferId
  expectedRevision : Nat
  reservationId : RequestId
  offerCommitment : Bytes32
  (makerAgreementIdentity takerAgreementIdentity : Bytes33)
  (foreignUnits lezUnits : Nat)
  (agreementCommitment makerProposalSha256 : Bytes32)
  (makerContributionSha256 takerContributionSha256 : Option Bytes32)
deriving DecidableEq

structure CompleteZecNegotiationRequest where
  offerId : MakerOfferId
  expectedOfferRevision : Nat
  reservationId : RequestId
  (agreementWireSha256 secretDigest : Bytes32)
  makerClaimAuthority : Bool
  actor : MakerActorManifestV1
deriving DecidableEq

structure CompleteXmrNegotiationRequest where
  offerId : MakerOfferId
  expectedOfferRevision : Nat
  reservationId : RequestId
  (agreementCommitment activationWireSha256 activationCommitment : Bytes32)
  acceptedAtUnixSeconds : Nat
  initialSnapshotSha256 : Bytes32
  actor : MakerActorManifestV1
deriving DecidableEq

structure AcceptBtcNegotiationRequest where
  offerId : MakerOfferId
  expectedOfferRevision : Nat
  reservationId : RequestId
  (agreementWireSha256 agreementCommitment initialSnapshotSha256 : Bytes32)
deriving DecidableEq

/-- The request bodies the mutation log keeps as JSON, one shape a constructor. -/
inductive Request
  | pairConfigure (expectedRevision : Option Nat) (configuration : MakerPairConfigurationV1)
  | localPriceSet (expectedRevision : Option Nat) (price : LocalPriceV1)
  | localRouteSave (expectedPairRevision expectedPriceRevision : Option Nat)
      (configuration : MakerPairConfigurationV1) (price : LocalPriceV1)
  | publish (offerId : MakerOfferId) (route : MakerRouteV1)
  | guardedPublish (offerId : MakerOfferId) (route : MakerRouteV1)
      (expectedPairRevision expectedPriceRevision : Nat)
  | reserve (body : ReserveRequest)
  | consume (body : ConsumeRequest)
  | withdraw (offerId : MakerOfferId) (expectedRevision : Nat)
  | stageZecNegotiation (body : StageZecNegotiationRequest)
  | stageXmrNegotiation (body : StageXmrNegotiationRequest)
  | stageBtcNegotiation (body : StageBtcNegotiationRequest)
  | completeZecNegotiation (body : CompleteZecNegotiationRequest)
  | completeXmrNegotiation (body : CompleteXmrNegotiationRequest)
  | completeBtcNegotiation (body : AcceptBtcNegotiationRequest) (actor : MakerActorManifestV1)
  | acceptBtcNegotiation (body : AcceptBtcNegotiationRequest)
  | manualAction (swapId : SwapId) (action : MakerActorManualAction) (expectedGeneration : Nat)
  | repin (swapId : SwapId) (expectedGeneration : Nat) (programSha256 : Bytes32)
deriving DecidableEq

inductive Operation
  | pairConfigure
  | localPriceSet
  | localRouteSave
  | offerPublish
  | offerPublishAtRevisionsV1
  | offerReserve
  | offerConsume
  | offerWithdraw
  | btcNegotiationStage
  | btcNegotiationComplete
  | zecNegotiationStage
  | zecNegotiationComplete
  | xmrNegotiationStage
  | xmrNegotiationComplete
  | actorActionRequest
deriving DecidableEq

/-- The result column: the JSON shapes of the stored commits and the `{}` of a new pin. -/
inductive StoredResult
  | commit (revision : Nat)
  | localRouteCommit (pairRevision priceRevision : Nat)
  | zecCommit (offerRevision : Nat)
  | manualAction (requestedAfterGeneration : Nat)
  | empty

structure MakerApplicationMutation where
  requestId : RequestId
  operation : Operation
  request : Request
  result : StoredResult

def makerApplicationMutations : Schema MakerApplicationMutation RequestId where
  key row := row.requestId
  check _ := true
  apart _ _ := true

def swaps : Schema SwapCoordinator SwapId where
  key swap := swap.id
  check _ := true
  apart _ _ := true

end Requests

end AtomicSwaps.Maker
