import AtomicSwaps.Btc.Directory

namespace AtomicSwaps.Btc

open AtomicSwaps.Core Fallible SwapDirectory Durable

structure MakerOfferV1 where
  id : String
  commitment : Bytes32
  direction : SwapDirection
  (createdAtUnixSeconds expiresAtUnixSeconds minimumForeignUnits maximumForeignUnits lezUnitsPerLot : Nat)
  foreignUnitsPerLot : Nat
deriving DecidableEq

def MakerOfferV1.quoteForeignAmount (offer : MakerOfferV1) (foreignUnits : Nat) : Except LifecycleError Nat := do
  ensure (offer.minimumForeignUnits ≤ foreignUnits ∧ foreignUnits ≤ offer.maximumForeignUnits)
    .offerDoesNotMatch
  let numerator := foreignUnits * offer.lezUnitsPerLot
  ensure (numerator < 2 ^ 128 ∧ numerator % offer.foreignUnitsPerLot = 0) .offerDoesNotMatch
  return numerator / offer.foreignUnitsPerLot

section Wire

structure BtcReserveRequestV1 where
  offerId : String
  reservationId : RequestId
  direction : SwapDirection
  signedOfferEnvelope : MakerOfferV1
  takerContribution : BtcRoleContributionV1
  plan : BtcSwapPlanV1
deriving DecidableEq

structure BtcReserveResponseV1 where
  makerContribution : BtcRoleContributionV1
  makerBitcoinFunding : Option BtcFundingFactsV1
  makerClaimMessageHash : Option Bytes32
  swapId : Bytes32

structure BtcChatProposeRequestV2 where
  offerId : String
  reservationId : RequestId
  foreignUnits : Nat
  signedOfferEnvelope : MakerOfferV1
  (makerContribution takerContribution : BtcRoleContributionV1)
  unsignedDraft : BtcAgreementBodyV1

structure BtcChatProposalV2 where
  offerRevision : Nat
  reservationId : RequestId
  (jointSwapId takerIdentity : Bytes32)
  proposal : BtcAgreementBodyV1

structure BtcChatCompleteRequestV2 where
  offerId : String
  reservationId : RequestId
  finalAgreement : BtcAgreementV1

structure BtcChatCompleteResponseV2 where
  offerRevision : Nat
  swapId : Bytes32
  makerRoleBound : Bool

structure BtcCeremonyReserveRequestV1 where
  reservationId : RequestId
  sessions : LegSessions
  preparedClaimResult : Option PrepareWitnessedClaimResult
  takerCommitments : LegPackets AdaptorNonceCommitment
deriving DecidableEq

structure BtcCeremonyReserveResponseV1 where
  makerCommitments : LegPackets AdaptorNonceCommitment
  preparedClaimResult : Option PrepareWitnessedClaimResult

structure BtcCeremonyNonceRequestV1 where
  reservationId : RequestId
  takerNonces : LegPackets Bytes32
deriving DecidableEq

structure BtcCeremonyNonceResponseV1 where
  makerNonces : LegPackets Bytes32
  makerPartials : LegPackets AdaptorPartialSignature

structure BtcCeremonyPartialRequestV1 where
  reservationId : RequestId
  takerPartials : LegPackets AdaptorPartialSignature
deriving DecidableEq

structure BtcCeremonyPartialResponseV1 where
  presignatures : LegPresignatures
  makerActorActivated : Bool

end Wire

/-- A completed round: the request it answered (compared by digest) and its answer. -/
structure RoundRecord (Request Response : Type) where
  request : Request
  response : Response

inductive MakerOfferStatus
  | active | reserved | consumed
deriving DecidableEq

/-- The staged negotiation of the offer; its final agreement is set when it is completed. -/
structure MakerBtcNegotiationV1 where
  reservationId : RequestId
  proposal : BtcAgreementBodyV1
  (makerContribution takerContribution : BtcRoleContributionV1)
  reservedAtUnixSeconds : Nat
  finalAgreement : Option BtcAgreementV1
deriving DecidableEq

structure MakerActorProgress where
  phase : Phase
  revision : Nat

/-- What only the Maker keeps for a reservation: its files, and its rows of the swap store. -/
structure MakerOwn where
  takerContribution : Option BtcRoleContributionV1 := none
  record : Option ReservationRecordV1 := none
  reserveRound : Option (RoundRecord BtcReserveRequestV1 BtcReserveResponseV1) := none
  ceremonyReserveRound :
    Option (RoundRecord BtcCeremonyReserveRequestV1 BtcCeremonyReserveResponseV1) := none
  ceremonyNonceRound : Option (RoundRecord BtcCeremonyNonceRequestV1 BtcCeremonyNonceResponseV1) := none
  ceremonyPartialRound :
    Option (RoundRecord BtcCeremonyPartialRequestV1 BtcCeremonyPartialResponseV1) := none
  offerStatus : MakerOfferStatus := .active
  negotiation : Option MakerBtcNegotiationV1 := none
  registered : Option ActorConfig := none
  progress : Option MakerActorProgress := none

abbrev MakerSwap := SwapDirectory MakerOwn

abbrev MakerWork := Work MakerOwn

structure MakerRuntime where
  primitives : Primitives
  config : BtcRoleConfigV1
  (chainIdentity lezOwnerAccount agreementKey : Bytes32)

structure WalletAnswer where
  transactionHex : String
  (outputIndex blockCount : Nat)

/-- What one round of the Maker draws and what its dependencies answer. -/
structure MakerDraw where
  now : Nat
  secrets : RoleSecrets
  wallet : WalletAnswer
  sidecar : SidecarDraw
  (claimRequestId claimMessageHash bitcoinNonce lezNonce : Bytes32)
  finalizedHeight : Nat
  (escrowRequestId escrowInitialization escrowFunding : Bytes32)

def planOf (primitives : Primitives) (wallet : WalletAnswer) (valueSat : Nat) : FundingPlan where
  transactionHex := wallet.transactionHex
  transactionId := primitives.transactionId wallet.transactionHex
  outputIndex := wallet.outputIndex
  valueSat := valueSat
  anchorHeight := wallet.blockCount

def FundingPlan.facts (plan : FundingPlan) : BtcFundingFactsV1 where
  transactionId := plan.transactionId
  outputIndex := plan.outputIndex
  valueSat := plan.valueSat
  anchorHeight := plan.anchorHeight

def claimResult (runId : String) (role : Participant) (requestId messageHash : Bytes32) :
    PrepareWitnessedClaimResult where
  runId := runId
  sidecarRole := role
  requestId := requestId
  messageHash := messageHash

namespace Maker

def setOwn (change : MakerOwn → MakerOwn) (swap : MakerSwap) : MakerSwap :=
  { swap with own := change swap.own }

def setRecord (record : ReservationRecordV1) : MakerSwap → MakerSwap :=
  setOwn fun own => { own with record := some record }

def replay {Request Response : Type} [DecidableEq Request]
    (round : Option (RoundRecord Request Response)) (request : Request) : Except LifecycleError (Option Response) :=
  match round with
  | none => .ok none
  | some stored =>
    if stored.request = request then .ok (some stored.response) else .error .differentRequestCompletedRound

def loadRecord : MakerWork ReservationRecordV1 := load fun swap => present swap.own.record .missingFile

def loadBoundAgreement : MakerWork BtcAgreementV1 :=
  load fun swap => present swap.role.agreement .missingFile

def openLayout : MakerWork Unit := load fun swap => ensure swap.existsOnDisk .unknownReservation

section Reserve

variable (runtime : MakerRuntime) (draw : MakerDraw) (request : BtcReserveRequestV1)

/-- The offer, the plan, the escrow slot and the Taker's half, before anything is written. -/
def admitReservation (slotOwed : Bool) : Except LifecycleError String := do
  let offer := request.signedOfferEnvelope
  ensure (offer.id = request.offerId ∧ offer.direction = request.direction ∧
    offer.createdAtUnixSeconds ≤ draw.now ∧ draw.now < offer.expiresAtUnixSeconds) .offerDoesNotMatch
  let lezUnits ← offer.quoteForeignAmount request.plan.foreignUnits
  (admitPlan request.plan request.direction runtime.config request.reservationId draw.now lezUnits).mapError
    .planRefused
  ensure (¬(request.direction = .takerSellsForeign ∧ slotOwed)) .escrowSlotOwed
  let taker := request.takerContribution
  ensure (taker.role = .taker ∧
    taker.preSessionId = ⟨offer.commitment, request.reservationId, request.direction⟩ ∧
    taker.expiresAtUnixSeconds = offer.expiresAtUnixSeconds ∧
    taker.chainIdentity = runtime.chainIdentity) .takerContributionNotBound
  present (swapRunId request.reservationId) .sidecarRunIdDiffers

def bootstrapInput : RoleBootstrapInput where
  role := .maker
  preSessionId := ⟨request.signedOfferEnvelope.commitment, request.reservationId, request.direction⟩
  chainIdentity := runtime.chainIdentity
  lezOwnerAccount := runtime.lezOwnerAccount
  expiresAtUnixSeconds := request.signedOfferEnvelope.expiresAtUnixSeconds

/-- Facts only the Maker holds; where it funds Bitcoin it also claims LEZ, and prepares that claim. -/
def makerFacts (runId : String) (pair : ContributionPair) : MakerWork (Option FundingPlan × Option Bytes32) := do
  match request.direction with
  | .takerSellsForeign => return (none, none)
  | .takerSellsLez =>
    let _ ← check (present (runtime.primitives.contract (pair.aggregate runtime.primitives)
      (pair.refundKey .maker) request.plan.refundCsvBlocks) .draftInvalid)
    let plan := planOf runtime.primitives draw.wallet request.plan.foreignUnits
    writePrivateExact .bitcoin (·.fundingPlan) (fun plan swap => { swap with fundingPlan := some plan })
      plan
    let _ ← ensureSidecar runId draw.sidecar
    let prepared ← prepareClaim (claimResult runId .maker draw.claimRequestId draw.claimMessageHash)
    writePrivateExact .lez (·.preparedClaim) (fun claim swap => { swap with preparedClaim := some claim })
      prepared
    return (some plan, some prepared.messageHash)

def newRecord (pair : ContributionPair) (facts : Option FundingPlan × Option Bytes32) : ReservationRecordV1 where
  offerId := request.offerId
  direction := request.direction
  swapId := pair.swapId runtime.primitives
  aggregateXOnly := pair.aggregate runtime.primitives
  plan := request.plan
  fundingPlan := facts.1
  makerClaimMessageHash := facts.2
  sessions := none
  actorActivated := false

/-- A directory without the record of this round answers every repetition with a conflict. -/
def reserve (slotOwed : Bool) : MakerWork BtcReserveResponseV1 := do
  let swap ← read
  if swap.existsOnDisk then
    match ← check (replay swap.own.reserveRound request) with
    | some response => return response
    | none => check (.error .reservationExists)
  else
    let runId ← check (admitReservation runtime draw request slotOwed)
    create
    writePrivateExact .root (·.own.takerContribution)
      (fun wire => setOwn fun own => { own with takerContribution := some wire }) request.takerContribution
    let maker ← bootstrapRoleInProcess runtime.primitives (bootstrapInput runtime request)
      { draw.secrets with agreement := runtime.agreementKey, adaptor := none }
    let pair ← check (ContributionPair.new maker request.takerContribution)
    let facts ← makerFacts runtime draw request runId pair
    commit (setRecord (newRecord runtime request pair facts))
    let response : BtcReserveResponseV1 :=
      { makerContribution := maker, makerBitcoinFunding := facts.1.map FundingPlan.facts
        makerClaimMessageHash := facts.2, swapId := pair.swapId runtime.primitives }
    commit (setOwn fun own => { own with reserveRound := some ⟨request, response⟩ })
    return response

end Reserve

section Chat

variable (runtime : MakerRuntime) (draw : MakerDraw)

def draftMatchesContributions (request : BtcChatProposeRequestV2) (pair : ContributionPair)
    (lezUnits : Nat) : Prop :=
  let offer := request.signedOfferEnvelope
  pair.maker.preSessionId = ⟨offer.commitment, request.reservationId, offer.direction⟩ ∧
    pair.maker.expiresAtUnixSeconds = offer.expiresAtUnixSeconds ∧
    pair.maker.direction = offer.direction ∧ request.unsignedDraft.direction = offer.direction ∧
    request.unsignedDraft.funding.valueSat = request.foreignUnits ∧
    request.unsignedDraft.lez.amount = lezUnits ∧ draw.now ≠ 0 ∧
    draw.now < pair.maker.expiresAtUnixSeconds ∧
    pair.bodyFields runtime.primitives request.unsignedDraft ∧
    pair.maker.musig2PublicKey = runtime.primitives.publicKey runtime.agreementKey

instance (request : BtcChatProposeRequestV2) (pair : ContributionPair) (lezUnits : Nat) :
    Decidable (draftMatchesContributions runtime draw request pair lezUnits) :=
  inferInstanceAs (Decidable (_ ∧ _))

def stageNegotiation (negotiation : MakerBtcNegotiationV1) : MakerWork Nat := do
  let swap ← read
  match swap.own.negotiation with
  | some staged =>
    check (ensure (swap.own.offerStatus = .reserved ∧
      staged = { negotiation with reservedAtUnixSeconds := staged.reservedAtUnixSeconds
                                  finalAgreement := none }) .offerUnavailable)
    return 2
  | none =>
    check (ensure (swap.own.offerStatus = .active) .offerUnavailable)
    commit (setOwn fun own =>
      { own with negotiation := some negotiation, offerStatus := .reserved })
    return 2

def propose (request : BtcChatProposeRequestV2) : MakerWork BtcChatProposalV2 := do
  let offer := request.signedOfferEnvelope
  check (ensure (offer.id = request.offerId ∧ offer.createdAtUnixSeconds ≤ draw.now ∧
    draw.now < offer.expiresAtUnixSeconds) .offerDoesNotMatch)
  let pair ← check (ContributionPair.new request.makerContribution request.takerContribution)
  let swap ← read
  check (ensure (swap.existsOnDisk ∧ swap.role.contribution = some request.makerContribution)
    .draftNotBound)
  let lezUnits ← check (offer.quoteForeignAmount request.foreignUnits)
  check (ensure (draftMatchesContributions runtime draw request pair lezUnits) .draftNotBound)
  let record ← loadRecord
  check ((validateDraft runtime.primitives.toDerivations runtime.config record
    request.unsignedDraft).mapError .draftRefused)
  let revision ← stageNegotiation
    { reservationId := request.reservationId, proposal := request.unsignedDraft
      makerContribution := request.makerContribution, takerContribution := request.takerContribution
      reservedAtUnixSeconds := draw.now, finalAgreement := none }
  return { offerRevision := revision, reservationId := request.reservationId
           jointSwapId := pair.swapId runtime.primitives
           takerIdentity := request.takerContribution.musig2PublicKey
           proposal := request.unsignedDraft }

def acceptNegotiation (request : BtcChatCompleteRequestV2) (negotiation : MakerBtcNegotiationV1) :
    MakerWork Nat := do
  let swap ← read
  match negotiation.finalAgreement with
  | some accepted =>
    check (ensure (accepted = request.finalAgreement ∧ swap.own.offerStatus = .consumed)
      .completionChanged)
    return 3
  | none =>
    check (ensure (swap.own.offerStatus = .reserved) .offerUnavailable)
    commit (setOwn fun own => { own with
      negotiation := some { negotiation with finalAgreement := some request.finalAgreement }
      offerStatus := .consumed })
    return 3

/-- The Maker's signature stands only under the body it staged, so an agreement for another body does
    not decode. -/
def complete (request : BtcChatCompleteRequestV2) : MakerWork BtcChatCompleteResponseV2 := do
  let swap ← read
  let negotiation ← check (present swap.own.negotiation .negotiationUnavailable)
  check (ensure (request.finalAgreement.body = negotiation.proposal) .agreementSubstituted)
  check (ensure (negotiation.reservationId = request.reservationId ∧ swap.existsOnDisk ∧
    swap.role.contribution = some negotiation.makerContribution) .completionChanged)
  let _ ← persistAndBindCountersignedAgreement runtime.primitives negotiation.takerContribution
    request.finalAgreement draw.now
  let revision ← acceptNegotiation request negotiation
  return { offerRevision := revision, swapId := request.finalAgreement.body.swapId, makerRoleBound := true }

end Chat

section Ceremony

variable (runtime : MakerRuntime) (draw : MakerDraw) (agreement : BtcAgreementV1) (sessions : LegSessions)

def seat (domain : BtcAdaptorSessionDomain) : CeremonySeat :=
  ⟨sessions.validated agreement domain, .maker⟩

/-- The claimant's prepared claim as both roles keep it, and the copy the Maker answers with. -/
def exchangeClaim (runId : String)
    (sent : Option PrepareWitnessedClaimResult) : MakerWork (Option PrepareWitnessedClaimResult) := do
  match lezClaimant agreement.body.direction with
  | .taker =>
    let prepared ← check (present sent .preparedClaimDiffers)
    check (ensure (prepared.runId = runId ∧ prepared.sidecarRole = .taker ∧
      prepared.messageHash = agreement.body.lez.claimMessageHash) .preparedClaimDiffers)
    writePrivateExact .lez (·.preparedClaim) (fun claim swap => { swap with preparedClaim := some claim })
      prepared
    return none
  | .maker =>
    let swap ← read
    let prepared ← check (present swap.preparedClaim .missingFile)
    check (ensure (prepared.messageHash = agreement.body.lez.claimMessageHash)
      .preparedClaimDiffers)
    return some prepared

/-- Round 1: own nonces first, then the Taker's commitments. -/
def reserveRound (taker : LegPackets AdaptorNonceCommitment) : MakerWork (LegPackets AdaptorNonceCommitment) := do
  let bitcoin ← (seat agreement sessions .bitcoin).reserve draw.bitcoinNonce
  let lez ← (seat agreement sessions .lez).reserve draw.lezNonce
  (seat agreement sessions .bitcoin).acceptCommitment taker.bitcoin
  (seat agreement sessions .lez).acceptCommitment taker.lez
  return ⟨bitcoin, lez⟩

def ceremonyReserve (request : BtcCeremonyReserveRequestV1) : MakerWork BtcCeremonyReserveResponseV1 := do
  openLayout
  let swap ← read
  match ← check (replay swap.own.ceremonyReserveRound request) with
  | some response => return response
  | none =>
    let record ← loadRecord
    let agreement ← loadBoundAgreement
    check (ensure (record.sessions.all (· = request.sessions)) .otherSessionIds)
    let runId ← check (present (swapRunId request.reservationId) .sidecarRunIdDiffers)
    let _ ← ensureSidecar runId draw.sidecar
    let claim ← exchangeClaim agreement runId request.preparedClaimResult
    check (ensure (request.sessions.bitcoin ≠ request.sessions.lez) .invalidPhase)
    let commitments ← reserveRound draw agreement request.sessions request.takerCommitments
    commit (setRecord { record with sessions := some request.sessions })
    let response : BtcCeremonyReserveResponseV1 :=
      { makerCommitments := commitments, preparedClaimResult := claim }
    commit (setOwn fun own => { own with ceremonyReserveRound := some ⟨request, response⟩ })
    return response

/-- Round 2: reveal, verify the Taker's nonces, sign. -/
def nonceRound (taker : LegPackets Bytes32) : MakerWork BtcCeremonyNonceResponseV1 := do
  let bitcoinNonce ← (seat agreement sessions .bitcoin).revealNonce
  let lezNonce ← (seat agreement sessions .lez).revealNonce
  let bitcoinSigned ← (seat agreement sessions .bitcoin).acceptNonceSign taker.bitcoin
  let lezSigned ← (seat agreement sessions .lez).acceptNonceSign taker.lez
  return ⟨⟨bitcoinNonce, lezNonce⟩, ⟨bitcoinSigned, lezSigned⟩⟩

def ceremonyNonce (request : BtcCeremonyNonceRequestV1) : MakerWork BtcCeremonyNonceResponseV1 := do
  openLayout
  let swap ← read
  match ← check (replay swap.own.ceremonyNonceRound request) with
  | some response => return response
  | none =>
    let record ← loadRecord
    let sessions ← check (present record.sessions .ceremonyNotReserved)
    let agreement ← loadBoundAgreement
    let response ← nonceRound agreement sessions request.takerNonces
    commit (setOwn fun own => { own with ceremonyNonceRound := some ⟨request, response⟩ })
    return response

def partialRound (taker : LegPackets AdaptorPartialSignature) : MakerWork LegPresignatures := do
  let bitcoin ← (seat agreement sessions .bitcoin).acceptPeerPartial taker.bitcoin
  let lez ← (seat agreement sessions .lez).acceptPeerPartial taker.lez
  return ⟨bitcoin, lez⟩

def lockMaterial (record : ReservationRecordV1) : Except LifecycleError (Option String) :=
  match agreement.body.direction with
  | .takerSellsForeign => .ok none
  | .takerSellsLez => (present record.fundingPlan .missingFile).map fun plan => some plan.transactionHex

def registerMakerActor (config : ActorConfig) : MakerWork Unit := do
  let swap ← read
  match swap.own.registered with
  | some existing => check (ensure (existing = config) .registrationConflict)
  | none => commit (setOwn fun own => { own with registered := some config })

/-- Round 3: both legs are presigned, so the actor is written, activated and registered. The acceptance
    time and the discovery height are read anew on every call. -/
def ceremonyPartial (request : BtcCeremonyPartialRequestV1) : MakerWork BtcCeremonyPartialResponseV1 := do
  openLayout
  let swap ← read
  match ← check (replay swap.own.ceremonyPartialRound request) with
  | some response => return response
  | none =>
    let record ← loadRecord
    let sessions ← check (present record.sessions .ceremonyNotReserved)
    let agreement ← loadBoundAgreement
    let presignatures ← partialRound agreement sessions request.takerPartials
    let runId ← check (present (swapRunId request.reservationId) .sidecarRunIdDiffers)
    let sidecar ← ensureSidecar runId draw.sidecar
    let material ← read
    let preparedClaim ← check (present material.preparedClaim .missingFile)
    let fundingTransaction ← check (lockMaterial agreement record)
    let config ← synthesize runtime.primitives
      { role := .maker, agreement, sidecar, sessions, acceptedAtUnixSeconds := draw.now
        discoveryStartHeight := draw.finalizedHeight, preparedClaim, fundingTransaction }
    activate config
    registerMakerActor config
    commit (setRecord { record with actorActivated := true })
    let response : BtcCeremonyPartialResponseV1 :=
      { presignatures, makerActorActivated := true }
    commit (setOwn fun own => { own with ceremonyPartialRound := some ⟨request, response⟩ })
    return response

def prepareDueEscrow (reservationId : RequestId) : MakerWork Unit := do
  let agreement ← loadBoundAgreement
  let runId ← check (present (swapRunId reservationId) .sidecarRunIdDiffers)
  let _ ← ensureSidecar runId draw.sidecar
  let escrow ← prepareEscrow
    { requestId := draw.escrowRequestId, terms := agreementTerms runtime.primitives agreement
      initialization := draw.escrowInitialization, funding := draw.escrowFunding }
  storeEscrow escrow

end Ceremony

end Maker

end AtomicSwaps.Btc
