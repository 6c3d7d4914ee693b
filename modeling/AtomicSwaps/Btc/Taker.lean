import AtomicSwaps.Btc.Maker

namespace AtomicSwaps.Btc

open AtomicSwaps.Core Fallible SwapDirectory Durable

structure TakerSwapRecordV1 where
  direction : Option SwapDirection := none
  swapId : Option Bytes32 := none
  aggregateXOnly : Option Bytes32 := none
  plan : Option BtcSwapPlanV1 := none
  makerBitcoinFunding : Option BtcFundingFactsV1 := none
  fundingPlan : Option FundingPlan := none
  claimMessageHash : Option Bytes32 := none
  sessions : Option LegSessions := none
  actorActivated : Bool := false
  fundingBroadcastTransactionId : Option Bytes32 := none
  lezLockTransactionId : Option Bytes32 := none

/-- The catalog entry of a prepared take; files are named by what they hold. -/
structure PreparedConfigurationV1 where
  swapId : Bytes32
  offerId : String
  reservationId : RequestId
  (foreignUnits lezUnits : Nat)
  signedEnvelope : MakerOfferV1
  unsignedDraft : BtcAgreementBodyV1
  sourceConfig : BtcRoleConfigV1
deriving DecidableEq

structure AcceptanceReceiptV1 where
  swapId : Bytes32
  agreement : BtcAgreementV1
  actorConfig : ActorConfig
deriving DecidableEq

inductive Submission
  | bitcoinFunding (transactionHex : String)
  | lezInitialization (escrow : PreparedEscrow)
  | lezFunding (escrow : PreparedEscrow)
deriving DecidableEq

/-- What is handed to a node, and when. -/
structure Handover where
  timeMillis : Nat
  submission : Submission
deriving DecidableEq

structure TakerOwn where
  signedEnvelope : Option MakerOfferV1 := none
  record : Option TakerSwapRecordV1 := none
  makerContribution : Option BtcRoleContributionV1 := none
  unsignedDraft : Option BtcAgreementBodyV1 := none
  roleConfig : Option BtcRoleConfigV1 := none
  prepared : Option PreparedConfigurationV1 := none
  receipt : Option AcceptanceReceiptV1 := none
  /-- Everything handed to a node so far; history that no call reads. -/
  handed : List Handover := []

abbrev TakerSwap := SwapDirectory TakerOwn

abbrev TakerWork := Work TakerOwn

structure TakerRuntime where
  primitives : Primitives
  config : BtcRoleConfigV1
  chainIdentity : Bytes32
  requiredConfirmations : Nat
  lezOwnerAccount : Bytes32
  requestTimeoutMillis : Nat

structure TakeRequest where
  reservationId : RequestId
  offerId : String
  direction : SwapDirection
  signedEnvelopeSha256 : Bytes32
  (foreignUnits expectedLezUnits : Nat)
  offer : MakerOfferV1

/-- One read of the owner account's nonce at the sequencer; `none` where it fails. -/
structure NonceRead where
  tookMillis : Nat
  nonce : Option UInt64

/-- A read as the client sees it: one that outlasts the request timeout has failed. -/
def NonceRead.bounded (timeout : Nat) (nonceRead : NonceRead) : NonceRead :=
  if nonceRead.tookMillis ≤ timeout then nonceRead else ⟨timeout, none⟩

def lezNonceWaitMillis : Nat := 100000

def lezNoncePollMillis : Nat := 3000

/-- What a lock meets on its way to a node. A submission that fails in transport is repeated with the same
    bytes, and its time is that of the last attempt. -/
structure LockDraw where
  (untilBroadcastMillis untilGateMillis : Nat)
  /-- What the node-wide gate holds by then; the locks of other takes move it, a restart clears it. -/
  gate : UInt64
  nonceReads : List NonceRead
  (untilInitializationMillis untilFundingMillis : Nat)

/-- What one attempt of the Taker draws and what its dependencies answer. -/
structure TakerDraw where
  now : Nat
  secrets : RoleSecrets
  adaptor : Bytes32
  wallet : WalletAnswer
  sidecar : SidecarDraw
  (claimRequestId claimMessageHash : Bytes32)
  /-- The Taker's signature under the agreement, with its auxiliary randomness. -/
  signature : Bytes32
  sessions : LegSessions
  (bitcoinNonce lezNonce : Bytes32)
  finalizedHeight : Nat
  (escrowRequestId escrowInitialization escrowFunding : Bytes32)
  /-- Whether an attempt that stored the activation mark comes to write the receipt: its process lives, the
      actor's configuration can be read back and the write succeeds. -/
  receiptWritten : Bool
  /-- The transaction id the Bitcoin node reports for a broadcast. -/
  reportedTransactionId : Bytes32
  lock : LockDraw

/-- The Maker's Chat methods, as programs on whatever the Maker keeps. -/
structure Chat (Peer : Type) where
  reserve : BtcReserveRequestV1 → Durable Peer LifecycleError BtcReserveResponseV1
  propose : BtcChatProposeRequestV2 → Durable Peer LifecycleError BtcChatProposalV2
  complete : BtcChatCompleteRequestV2 → Durable Peer LifecycleError BtcChatCompleteResponseV2
  ceremonyReserve : BtcCeremonyReserveRequestV1 → Durable Peer LifecycleError BtcCeremonyReserveResponseV1
  ceremonyNonce : BtcCeremonyNonceRequestV1 → Durable Peer LifecycleError BtcCeremonyNonceResponseV1
  ceremonyPartial : BtcCeremonyPartialRequestV1 → Durable Peer LifecycleError BtcCeremonyPartialResponseV1

structure Take (Peer : Type) where
  taker : TakerSwap
  peer : Peer

abbrev TakeWork (Peer : Type) := Durable (Take Peer) LifecycleError

section Parts

variable {Peer α : Type}

def onTaker (work : TakerWork α) : TakeWork Peer α :=
  within (·.taker) (fun taker take => { take with taker }) work

/-- A Chat call: the Maker works in its own process, and its answer comes back or the attempt ends. -/
def onPeer (work : Durable Peer LifecycleError α) : TakeWork Peer α :=
  within (·.peer) (fun peer take => { take with peer }) work

end Parts

namespace Taker

def setOwn (change : TakerOwn → TakerOwn) (swap : TakerSwap) : TakerSwap :=
  { swap with own := change swap.own }

def recordOf (swap : TakerSwap) : TakerSwapRecordV1 := swap.own.record.getD {}

def loadRecord : TakerWork TakerSwapRecordV1 := load fun swap => .ok (recordOf swap)

/-- The record in memory is the one last stored, so a store is a change of the durable one. -/
def updateRecord (change : TakerSwapRecordV1 → TakerSwapRecordV1) : TakerWork Unit :=
  commit fun swap => setOwn (fun own => { own with record := some (change (recordOf swap)) }) swap

variable (runtime : TakerRuntime) (request : TakeRequest) (draw : TakerDraw)

section Prepare

def admitTake : Except LifecycleError Unit := do
  let lezUnits ← request.offer.quoteForeignAmount request.foreignUnits
  ensure (request.offer.commitment = request.signedEnvelopeSha256 ∧ lezUnits = request.expectedLezUnits ∧
    request.offer.createdAtUnixSeconds ≤ draw.now ∧ draw.now < request.offer.expiresAtUnixSeconds)
    .offerNotLive

def bootstrapInput : RoleBootstrapInput where
  role := .taker
  preSessionId := ⟨request.offer.commitment, request.reservationId, request.direction⟩
  chainIdentity := runtime.chainIdentity
  lezOwnerAccount := runtime.lezOwnerAccount
  expiresAtUnixSeconds := request.offer.expiresAtUnixSeconds

def openRole : TakerWork BtcRoleContributionV1 := do
  let swap ← read
  match swap.role.contribution with
  | some contribution => return contribution
  | none =>
    bootstrapRoleInProcess runtime.primitives (bootstrapInput runtime request)
      { draw.secrets with adaptor := some draw.adaptor }

/-- The plan of the first attempt that stored one; later attempts do not draw it up again. -/
def settlePlan : TakerWork BtcSwapPlanV1 := do
  let record ← loadRecord
  match record.plan with
  | some plan => return plan
  | none =>
    let runId ← check (present (swapRunId request.reservationId) .sidecarRunIdDiffers)
    let plan := nowPlan runtime.config runId request.direction draw.now request.foreignUnits
      request.expectedLezUnits
    updateRecord fun record => { record with plan := some plan, direction := some request.direction }
    return plan

/-- Everything before the Maker is asked: the directory, the envelope, the role root and the plan. -/
def openTake : TakerWork (BtcRoleContributionV1 × BtcSwapPlanV1) := do
  check (admitTake request draw)
  let swap ← read
  onlyIf (¬swap.existsOnDisk) create
  writePrivateExact .root (·.own.signedEnvelope)
    (fun wire => setOwn fun own => { own with signedEnvelope := some wire }) request.offer
  let contribution ← openRole runtime request draw
  let plan ← settlePlan runtime request draw
  return (contribution, plan)

variable (contribution : BtcRoleContributionV1)

def reserveRequest (plan : BtcSwapPlanV1) : BtcReserveRequestV1 where
  offerId := request.offerId
  reservationId := request.reservationId
  direction := request.direction
  signedOfferEnvelope := request.offer
  takerContribution := contribution
  plan := plan

/-- The Maker's half is kept as it was answered first. -/
def acceptReservation (reserve : BtcReserveResponseV1) : TakerWork ContributionPair := do
  let pair ← check (ContributionPair.new reserve.makerContribution contribution)
  check (ensure (pair.swapId runtime.primitives = reserve.swapId) .makerAnswerChanged)
  writePrivateExact .root (·.own.makerContribution)
    (fun wire => setOwn fun own => { own with makerContribution := some wire }) reserve.makerContribution
  updateRecord fun record =>
    { record with swapId := some reserve.swapId, aggregateXOnly := some (pair.aggregate runtime.primitives)
                  makerBitcoinFunding := reserve.makerBitcoinFunding }
  return pair

variable (pair : ContributionPair) (plan : BtcSwapPlanV1)

/-- The funding plan that is recorded, or a new one from the wallet. -/
def planFunding : TakerWork FundingPlan := do
  let record ← loadRecord
  match record.fundingPlan with
  | some existing => return existing
  | none =>
    let _ ← check (present (runtime.primitives.contract (pair.aggregate runtime.primitives)
      (pair.refundKey .taker) plan.refundCsvBlocks) .draftInvalid)
    let funding := planOf runtime.primitives draw.wallet request.foreignUnits
    writePrivateExact .bitcoin (·.fundingPlan) (fun plan swap => { swap with fundingPlan := some plan })
      funding
    writePrivateExact .bitcoin (·.fundingTransaction)
      (fun hex swap => { swap with fundingTransaction := some hex }) funding.transactionHex
    updateRecord fun record => { record with fundingPlan := some funding }
    return funding

variable (reserve : BtcReserveResponseV1)

def fundingFacts : TakerWork BtcFundingFactsV1 := do
  match request.direction with
  | .takerSellsForeign =>
    let funding ← planFunding runtime request draw pair plan
    return funding.facts
  | .takerSellsLez => check (present reserve.makerBitcoinFunding .makerAnswerChanged)

/-- The claim this Taker's sidecar prepares once; its result is the actor's prepared claim. -/
def prepareOwnClaim : TakerWork Bytes32 := do
  let runId ← check (present (swapRunId request.reservationId) .sidecarRunIdDiffers)
  let _ ← ensureSidecar runId draw.sidecar
  let prepared ← prepareClaim (claimResult runId .taker draw.claimRequestId draw.claimMessageHash)
  writePrivateExact .lez (·.preparedClaim) (fun claim swap => { swap with preparedClaim := some claim })
    prepared
  return prepared.messageHash

def claimHash : TakerWork Bytes32 :=
  match request.direction with
  | .takerSellsForeign => prepareOwnClaim request draw
  | .takerSellsLez => check (present reserve.makerClaimMessageHash .makerAnswerChanged)

def settleClaimHash : TakerWork Bytes32 := do
  let record ← loadRecord
  match record.claimMessageHash with
  | some hash => return hash
  | none =>
    let hash ← claimHash request draw reserve
    updateRecord fun record => { record with claimMessageHash := some hash }
    return hash

structure AgreementDraftFacts where
  funding : BtcFundingFactsV1
  plan : BtcSwapPlanV1
  lezAmount : Nat
  claimMessageHash : Bytes32

def draftBody (facts : AgreementDraftFacts) (contract : BtcP2trTermsV1) : BtcAgreementBodyV1 where
  swapId := pair.swapId runtime.primitives
  direction := pair.maker.direction
  requiredConfirmations := runtime.requiredConfirmations
  aggregateInternalKey := pair.aggregate runtime.primitives
  bitcoinRefundKey := pair.refundKey
  lez :=
    { aggregateAuthorityAccount :=
        runtime.primitives.aggregateAuthorityAccount (pair.aggregate runtime.primitives)
      metadataAccount := runtime.primitives.metadataAccount (pair.swapId runtime.primitives)
      custodyAccount := runtime.primitives.custodyAccount (pair.swapId runtime.primitives)
      amount := facts.lezAmount
      refundAtMs := facts.plan.lezRefundAtMs
      claimMessageHash := facts.claimMessageHash }
  p2tr := contract
  funding := ⟨facts.funding.transactionId, facts.funding.outputIndex, facts.funding.valueSat⟩
  recovery :=
    { bitcoinFundingAnchorHeight := facts.funding.anchorHeight
      bitcoinRefundHeight := facts.funding.anchorHeight + facts.plan.refundCsvBlocks
      makerSecondLockCutoffUnixSeconds := facts.plan.makerSecondLockCutoffUnixSeconds
      earlierRefundLatestUnixSeconds := facts.plan.earlierRefundLatestUnixSeconds
      laterRefundEarliestUnixSeconds := facts.plan.laterRefundEarliestUnixSeconds
      requiredMarginSeconds := facts.plan.requiredMarginSeconds }

def composeAgreementDraft (facts : AgreementDraftFacts) : Except LifecycleError BtcAgreementBodyV1 := do
  ensure (facts.plan.claimFeeSat ≤ facts.funding.valueSat ∧
    facts.funding.anchorHeight + facts.plan.refundCsvBlocks < u32Limit) .draftInvalid
  let contract ← present (runtime.primitives.contract (pair.aggregate runtime.primitives)
    (pair.refundKey (bitcoinFunder pair.maker.direction)) facts.plan.refundCsvBlocks) .draftInvalid
  let body := draftBody runtime pair facts contract
  ensure (pair.bodyFields runtime.primitives body) .agreementSubstituted
  let _ ← (reconstructRecovery body).mapError fun _ => .draftInvalid
  return body

def preparedConfiguration (draft : BtcAgreementBodyV1) : PreparedConfigurationV1 where
  swapId := draft.swapId
  offerId := request.offerId
  reservationId := request.reservationId
  foreignUnits := request.foreignUnits
  lezUnits := request.expectedLezUnits
  signedEnvelope := request.offer
  unsignedDraft := draft
  sourceConfig := runtime.config

/-- Everything after the Maker's answer, to the entry that configures the swap. -/
def configureTake : TakerWork PreparedConfigurationV1 := do
  let pair ← acceptReservation runtime contribution reserve
  let funding ← fundingFacts runtime request draw pair plan reserve
  check (ensure (funding.valueSat = request.foreignUnits) .fundingDiffers)
  let hash ← settleClaimHash request draw reserve
  let draft ← check (composeAgreementDraft runtime pair
    { funding, plan, lezAmount := request.expectedLezUnits, claimMessageHash := hash })
  writePrivateExact .root (·.own.unsignedDraft)
    (fun wire => setOwn fun own => { own with unsignedDraft := some wire }) draft
  writePrivateExact .root (·.own.roleConfig)
    (fun config => setOwn fun own => { own with roleConfig := some config }) runtime.config
  let configured := preparedConfiguration runtime request draft
  writePrivateExact .root (·.own.prepared)
    (fun entry => setOwn fun own => { own with prepared := some entry }) configured
  return configured

/-- Reserves with the Maker, plans, composes the draft and persists the swap as a prepared entry; an
    entry that exists is the answer. -/
def prepare {Peer : Type} (chat : Chat Peer) : TakeWork Peer PreparedConfigurationV1 := do
  match ← load fun take => .ok take.taker.own.prepared with
  | some configured => return configured
  | none =>
    let (contribution, plan) ← onTaker (openTake runtime request draw)
    let reserve ← onPeer (chat.reserve (reserveRequest request contribution plan))
    onTaker (configureTake runtime request draw contribution plan reserve)

end Prepare

section Execute

structure Materials where
  pair : ContributionPair
  draft : BtcAgreementBodyV1
  agreementKey : Bytes32
  agreement : Option BtcAgreementV1

def loadMaterials (swap : TakerSwap) : Except LifecycleError Materials := do
  ensure swap.existsOnDisk .missingDirectory
  let taker ← present swap.role.contribution .missingFile
  let maker ← present swap.own.makerContribution .missingFile
  let draft ← present swap.own.unsignedDraft .missingFile
  let pair ← ContributionPair.new maker taker
  let agreementKey ← present swap.role.agreementKey .missingFile
  return { pair, draft, agreementKey, agreement := swap.role.agreement }

def proposeRequest (materials : Materials) : BtcChatProposeRequestV2 where
  offerId := request.offer.id
  reservationId := request.reservationId
  foreignUnits := request.foreignUnits
  signedOfferEnvelope := request.offer
  makerContribution := materials.pair.maker
  takerContribution := materials.pair.taker
  unsignedDraft := materials.draft

/-- The proposal is the draft; it is countersigned and bound before the Maker hears of it. -/
def countersign (materials : Materials) (proposal : BtcChatProposalV2) : TakerWork BtcAgreementV1 := do
  check (ensure (proposal.offerRevision = 2 ∧ proposal.reservationId = request.reservationId ∧
    proposal.jointSwapId = materials.pair.swapId runtime.primitives ∧
    proposal.takerIdentity = runtime.primitives.publicKey materials.agreementKey ∧
    proposal.proposal = materials.draft) .makerAnswerChanged)
  let agreement : BtcAgreementV1 := ⟨proposal.proposal, draw.signature⟩
  let _ ← persistAndBindCountersignedAgreement runtime.primitives materials.pair.maker agreement draw.now
  return agreement

variable (agreement : BtcAgreementV1)

def completionMatches (completion : BtcChatCompleteResponseV2) : Except LifecycleError Unit :=
  ensure (completion.offerRevision = 3 ∧ completion.swapId = agreement.body.swapId ∧
    completion.makerRoleBound) .makerAnswerChanged

/-- Propose, countersign, bind, complete; an agreement file that exists ends the negotiation. -/
def bindAgreement {Peer : Type} (chat : Chat Peer) (materials : Materials) : TakeWork Peer BtcAgreementV1 := do
  match materials.agreement with
  | some agreement => return agreement
  | none =>
    let proposal ← onPeer (chat.propose (proposeRequest request materials))
    let agreement ← onTaker (countersign runtime request draw materials proposal)
    let completion ← onPeer (chat.complete ⟨request.offer.id, request.reservationId, agreement⟩)
    check (completionMatches agreement completion)
    return agreement

def seat (sessions : LegSessions) (domain : BtcAdaptorSessionDomain) : CeremonySeat :=
  ⟨sessions.validated agreement domain, .taker⟩

def settleSessions : TakerWork LegSessions := do
  let record ← loadRecord
  match record.sessions with
  | some sessions => return sessions
  | none =>
    updateRecord fun record => { record with sessions := some draw.sessions }
    return draw.sessions

def ownClaim (swap : TakerSwap) : Except LifecycleError (Option PrepareWitnessedClaimResult) :=
  match lezClaimant agreement.body.direction with
  | .taker => (present swap.preparedClaim .missingFile).map some
  | .maker => .ok none

structure Opening where
  sidecar : SidecarRecordV1
  claim : Option PrepareWitnessedClaimResult
  sessions : LegSessions
  commitments : LegPackets AdaptorNonceCommitment

def openCeremony : TakerWork Opening := do
  let runId ← check (present (swapRunId request.reservationId) .sidecarRunIdDiffers)
  let sidecar ← ensureSidecar runId draw.sidecar
  let claim ← load (ownClaim agreement)
  let sessions ← settleSessions draw
  check (ensure (sessions.bitcoin ≠ sessions.lez) .invalidPhase)
  let bitcoin ← (seat agreement sessions .bitcoin).reserve draw.bitcoinNonce
  let lez ← (seat agreement sessions .lez).reserve draw.lezNonce
  return { sidecar, claim, sessions, commitments := ⟨bitcoin, lez⟩ }

variable (opening : Opening)

/-- The claim both roles keep: this Taker's own, or the Maker's once it matches the agreement. -/
def settleClaim (answered : Option PrepareWitnessedClaimResult) : TakerWork PrepareWitnessedClaimResult := do
  match opening.claim with
  | some claim => return claim
  | none =>
    let prepared ← check (present answered .preparedClaimDiffers)
    check (ensure (prepared.runId = opening.sidecar.runId ∧
      prepared.messageHash = agreement.body.lez.claimMessageHash) .preparedClaimDiffers)
    writePrivateExact .lez (·.preparedClaim) (fun claim swap => { swap with preparedClaim := some claim })
      prepared
    return prepared

def acceptReserve (reserve : BtcCeremonyReserveResponseV1) :
    TakerWork (PrepareWitnessedClaimResult × LegPackets Bytes32) := do
  let claim ← settleClaim agreement opening reserve.preparedClaimResult
  (seat agreement opening.sessions .bitcoin).acceptCommitment reserve.makerCommitments.bitcoin
  (seat agreement opening.sessions .lez).acceptCommitment reserve.makerCommitments.lez
  let bitcoin ← (seat agreement opening.sessions .bitcoin).revealNonce
  let lez ← (seat agreement opening.sessions .lez).revealNonce
  return (claim, ⟨bitcoin, lez⟩)

def sign (sessions : LegSessions) (maker : LegPackets Bytes32) :
    TakerWork (LegPackets AdaptorPartialSignature) := do
  let bitcoin ← (seat agreement sessions .bitcoin).acceptNonceSign maker.bitcoin
  let lez ← (seat agreement sessions .lez).acceptNonceSign maker.lez
  return ⟨bitcoin, lez⟩

def finish (sessions : LegSessions)
    (maker : LegPackets AdaptorPartialSignature) (answer : BtcCeremonyPartialResponseV1) : TakerWork Unit := do
  let bitcoin ← (seat agreement sessions .bitcoin).acceptPeerPartial maker.bitcoin
  let lez ← (seat agreement sessions .lez).acceptPeerPartial maker.lez
  check (ensure (⟨bitcoin, lez⟩ = answer.presignatures) .presignaturesDiverged)
  check (ensure answer.makerActorActivated .makerDidNotActivate)

/-- The three rounds of an opened ceremony, both legs in each; the claim is what the actor is made with. -/
def rounds {Peer : Type} (chat : Chat Peer) (agreement : BtcAgreementV1) (opening : Opening) :
    TakeWork Peer PrepareWitnessedClaimResult := do
  let reserve ← onPeer (chat.ceremonyReserve
    ⟨request.reservationId, opening.sessions, opening.claim, opening.commitments⟩)
  let (claim, nonces) ← onTaker (acceptReserve agreement opening reserve)
  let nonce ← onPeer (chat.ceremonyNonce ⟨request.reservationId, nonces⟩)
  let partials ← onTaker (sign agreement opening.sessions nonce.makerNonces)
  let answer ← onPeer (chat.ceremonyPartial ⟨request.reservationId, partials⟩)
  onTaker (finish agreement opening.sessions nonce.makerPartials answer)
  return claim

def receiptOf (config : ActorConfig) : AcceptanceReceiptV1 where
  swapId := agreement.body.swapId
  agreement := agreement
  actorConfig := config

def startActor (claim : PrepareWitnessedClaimResult) : TakerWork ActorConfig := do
  let config ← synthesize runtime.primitives
    { role := .taker, agreement, sidecar := opening.sidecar, sessions := opening.sessions
      acceptedAtUnixSeconds := draw.now, discoveryStartHeight := draw.finalizedHeight
      preparedClaim := claim, fundingTransaction := none }
  activate config
  return config

/-- The mark in the record comes before the receipt, and an attempt that finds the mark does neither. -/
def activateTake (claim : PrepareWitnessedClaimResult) : TakerWork Unit := do
  let record ← loadRecord
  onlyIf (record.actorActivated = false) do
    let config ← startActor runtime draw agreement opening claim
    updateRecord fun record => { record with actorActivated := true }
    granted draw.receiptWritten (writePrivateExact .root (·.own.receipt)
      (fun receipt => setOwn fun own => { own with receipt := some receipt }) (receiptOf agreement config))

structure Signed where
  agreement : BtcAgreementV1
  opening : Opening
  claim : PrepareWitnessedClaimResult

def signTake {Peer : Type} (chat : Chat Peer) : TakeWork Peer Signed := do
  let materials ← load fun take => loadMaterials take.taker
  let agreement ← bindAgreement runtime request draw chat materials
  let opening ← onTaker (openCeremony request draw agreement)
  let claim ← rounds request chat agreement opening
  return { agreement, opening, claim }

/-- Runs the take to activation. -/
def execute {Peer : Type} (chat : Chat Peer) : TakeWork Peer Unit := do
  let signed ← signTake runtime request draw chat
  onTaker (activateTake runtime draw signed.agreement signed.opening signed.claim)

end Execute

section Lock

inductive LockChain
  | bitcoin | lez

structure LockCommit where
  chain : LockChain
  transactionId : Bytes32
  wasReplay : Bool
  /-- The nonce the node-wide gate is left at, by a lock that moves it. -/
  gate : Option UInt64 := none

def hand (timeMillis : Nat) (submission : Submission) : TakerWork Unit :=
  commit (setOwn fun own => { own with handed := own.handed ++ [⟨timeMillis, submission⟩] })

def lockBitcoin (plan : FundingPlan) : TakerWork LockCommit := do
  hand (draw.now * 1000 + draw.lock.untilBroadcastMillis) (.bitcoinFunding plan.transactionHex)
  check (ensure (draw.reportedTransactionId = plan.transactionId) .otherTransactionReported)
  updateRecord fun record =>
    { record with fundingBroadcastTransactionId := some draw.reportedTransactionId }
  return ⟨.bitcoin, draw.reportedTransactionId, false, none⟩

/-- The owner account's nonce once it has reached `target`, with the time waited for it. The deadline is
    looked at after a failed read, so the last read can end past it. -/
def waitForLezNonce (target : UInt64) (timeout : Nat) :
    Option UInt64 → Nat → List NonceRead → Except LifecycleError (UInt64 × Nat)
  -- no further read: the call ends while it waits
  | last, _, [] => .error (.previousLockNotIncluded last target)
  | last, waited, nonceRead :: later => do
    let answer := nonceRead.bounded timeout
    let elapsed := waited + answer.tookMillis
    match answer.nonce.filter fun nonce => target ≤ nonce with
    | some nonce => return (nonce, elapsed)
    | none =>
      let last := answer.nonce.or last
      ensure (elapsed < lezNonceWaitMillis) (.previousLockNotIncluded last target)
      waitForLezNonce target timeout last (elapsed + lezNoncePollMillis) later

/-- The escrow that was prepared and stored, or a new one for the agreement's terms. -/
def lockEscrow (agreement : BtcAgreementV1) : TakerWork PreparedEscrow := do
  let runId ← check (present (swapRunId request.reservationId) .sidecarRunIdDiffers)
  let _ ← ensureSidecar runId draw.sidecar
  let swap ← read
  match swap.escrowResult with
  | some escrow => return escrow
  | none =>
    let escrow ← prepareEscrow
      { requestId := draw.escrowRequestId, terms := agreementTerms runtime.primitives agreement
        initialization := draw.escrowInitialization, funding := draw.escrowFunding }
    storeEscrow escrow
    return escrow

/-- Under the node-wide gate, from the wait for the previous lock's nonces to the record. -/
def lockLez (record : TakerSwapRecordV1) : TakerWork LockCommit := do
  check (ensure (record.direction = some .takerSellsLez) .notThisRole)
  let agreement ← load fun swap => present swap.role.agreement .missingFile
  check (ensure (lezDepositor agreement.body.direction = .taker) .notThisRole)
  let (nonce, waited) ← check (waitForLezNonce draw.lock.gate runtime.requestTimeoutMillis none 0
    draw.lock.nonceReads)
  let escrow ← lockEscrow runtime request draw agreement
  let initializedAt := draw.now * 1000 + draw.lock.untilGateMillis + waited + draw.lock.untilInitializationMillis
  hand initializedAt (.lezInitialization escrow)
  hand (initializedAt + draw.lock.untilFundingMillis) (.lezFunding escrow)
  updateRecord fun record => { record with lezLockTransactionId := some escrow.funding }
  return ⟨.lez, escrow.funding, false, some (nonce + 2)⟩

/-- The Taker's first lock; a second call replays the recorded id. No wall clock is read. -/
def lock : TakerWork LockCommit := do
  load fun swap => ensure swap.existsOnDisk .missingDirectory
  let record ← loadRecord
  check (ensure record.actorActivated .notActive)
  match record.fundingBroadcastTransactionId, record.lezLockTransactionId, record.fundingPlan with
  | some txid, _, _ => return ⟨.bitcoin, txid, true, none⟩
  | none, some txid, _ => return ⟨.lez, txid, true, none⟩
  | none, none, some plan => lockBitcoin draw plan
  | none, none, none => lockLez runtime request draw record

end Lock

end Taker

/-- The Chat methods of the Maker node, with what its rounds draw during one attempt. -/
def makerChat (runtime : MakerRuntime) (draw : MakerDraw) (slotOwed : Bool) : Chat MakerSwap where
  reserve request := Maker.reserve runtime draw request slotOwed
  propose := Maker.propose runtime draw
  complete := Maker.complete runtime draw
  ceremonyReserve := Maker.ceremonyReserve draw
  ceremonyNonce := Maker.ceremonyNonce
  ceremonyPartial := Maker.ceremonyPartial runtime draw

end AtomicSwaps.Btc
