import AtomicSwaps.Btc.DirectoryFrames
import AtomicSwaps.Btc.Taker

namespace AtomicSwaps.Btc

open AtomicSwaps.Core Fallible Durable SwapDirectory CeremonySeat

namespace Taker

section View

/-- The part of the Taker's directory that its first lock rests on. -/
structure LockView where
  record : TakerSwapRecordV1
  unsignedDraft : Option BtcAgreementBodyV1
  agreement : Option BtcAgreementV1
  (escrow escrowResult : Option PreparedEscrow)
  state : Option ActorState
  journal : BtcAdaptorSessionDomain → SigningJournal
  receipt : Option AcceptanceReceiptV1

def lockView (swap : TakerSwap) : LockView where
  record := recordOf swap
  unsignedDraft := swap.own.unsignedDraft
  agreement := swap.role.agreement
  escrow := swap.sidecar.escrow
  escrowResult := swap.escrowResult
  state := swap.actor.state
  journal := swap.journal
  receipt := swap.own.receipt

def OnLock (part : LockView → Prop) (swap : TakerSwap) : Prop := part (lockView swap)

def LockView.Presigned (view : LockView) (session : ValidatedSession) : Prop :=
  ∃ row, (view.journal session.domain).load session.sessionId = some row ∧ row.session = session ∧
    row.localRole = .taker ∧ row.presignature.isSome

/-- The actor runs for the bound agreement, whose presignatures are durable under the recorded sessions. -/
def LockView.Active (view : LockView) (agreement : BtcAgreementV1) (sessions : LegSessions) : Prop :=
  view.agreement = some agreement ∧ view.record.sessions = some sessions ∧
    (∀ domain, view.Presigned (sessions.validated agreement domain)) ∧
    ∃ state, view.state = some state ∧ state.agreement = agreement

/-- Where the Taker funds Bitcoin, this draft commits to its recorded funding plan. -/
def LockView.Funds (request : TakeRequest) (view : LockView) (transactionId : Bytes32) : Prop :=
  request.direction = .takerSellsForeign →
    ∃ plan, view.record.fundingPlan = some plan ∧ transactionId = plan.transactionId

structure LockView.Sound (runtime : TakerRuntime) (request : TakeRequest) (view : LockView) : Prop where
  planned : ∀ plan, view.record.fundingPlan = some plan → request.direction = .takerSellsForeign ∧
    plan.transactionId = runtime.primitives.transactionId plan.transactionHex
  drafted : ∀ draft, view.unsignedDraft = some draft → view.Funds request draft.funding.transactionId
  bound : ∀ agreement, view.agreement = some agreement → view.unsignedDraft = some agreement.body
  active : view.record.actorActivated → ∃ agreement sessions, view.Active agreement sessions
  escrowed : ∀ escrow, view.escrow = some escrow ∨ view.escrowResult = some escrow →
    ∃ agreement, view.agreement = some agreement ∧
      escrow.terms = agreementTerms runtime.primitives agreement
  receipted : ∀ receipt, view.receipt = some receipt → view.agreement = some receipt.agreement

def LockView.Kept (runtime : TakerRuntime) (request : TakeRequest) (before view : LockView) : Prop :=
  view.Sound runtime request ∧ view.record.actorActivated = before.record.actorActivated ∧
    view.receipt = before.receipt

end View

section Steps

variable {runtime : TakerRuntime} {request : TakeRequest} {draw : TakerDraw} {part : LockView → Prop}
  {before : LockView} {α : Type} {view : LockView}

theorem keeps_still {work : TakerWork α} (still : Still lockView work) : Keeps (OnLock part) work :=
  still.keeps

theorem ignoresBundle : IgnoresBundle lockView :=
  ⟨fun _ _ => rfl, fun _ _ => rfl, fun _ _ => rfl, fun _ _ => rfl, fun _ _ => rfl⟩

theorem keeps_updateRecord {change : TakerSwapRecordV1 → TakerSwapRecordV1}
    (grows : ∀ view, part view → part { view with record := change view.record }) :
    Keeps (OnLock part) (updateRecord change) :=
  keeps_commit fun _ held => grows _ held

theorem LockView.Sound.rewrite (sound : view.Sound runtime request) {record : TakerSwapRecordV1}
    (plan : record.fundingPlan = view.record.fundingPlan) (sessions : record.sessions = view.record.sessions)
    (mark : record.actorActivated = view.record.actorActivated) :
    { view with record := record }.Sound runtime request := by
  refine { sound with
    planned := fun held found => sound.planned held (plan.symm.trans found)
    drafted := fun draft found sells => ?_
    active := fun marked => ?_ }
  · obtain ⟨held, recorded, same⟩ := sound.drafted draft found sells
    exact ⟨held, plan.trans recorded, same⟩
  · obtain ⟨agreement, held, bound, opened, rest⟩ := sound.active (mark.symm.trans marked)
    exact ⟨agreement, held, bound, sessions.trans opened, rest⟩

theorem ignoresKeys : IgnoresKeys lockView := by
  intro change keeps swap
  unfold lockView
  congr 1
  exact keeps swap.role

theorem ignoresSidecar : IgnoresSidecar lockView := by
  intro change keeps swap
  unfold lockView
  congr 1
  exact keeps swap.sidecar

theorem survivesSigning (grows : ∀ view journal,
    (∀ session, view.Presigned session → { view with journal := journal }.Presigned session) →
    part view → part { view with journal := journal }) : SurvivesSigning (OnLock part) where
  appended domain row swap held := by
    have view : lockView (setJournal domain (· ++ [row]) swap) =
        { lockView swap with journal := (setJournal domain (· ++ [row]) swap).journal } := by
      cases domain <;> rfl
    unfold OnLock
    rw [view]
    exact grows _ _ (fun _ presigned => holdsPresignature_append domain row presigned) held
  updated domain sessionId change swap growing held := by
    have view : lockView (setJournal domain (·.update sessionId change) swap) =
        { lockView swap with journal := (setJournal domain (·.update sessionId change) swap).journal } := by
      cases domain <;> rfl
    unfold OnLock
    rw [view]
    exact grows _ _ (fun _ presigned => holdsPresignature_update growing domain sessionId presigned) held

theorem LockView.Sound.sign (sound : view.Sound runtime request)
    {journal : BtcAdaptorSessionDomain → SigningJournal}
    (grows : ∀ session, view.Presigned session → { view with journal := journal }.Presigned session) :
    { view with journal := journal }.Sound runtime request := by
  refine { sound with active := fun marked => ?_ }
  obtain ⟨agreement, sessions, bound, opened, presigned, activated⟩ := sound.active marked
  exact ⟨agreement, sessions, bound, opened, fun domain => grows _ (presigned domain), activated⟩

section Prepare

theorem keeps_openTake : Keeps (OnLock (before.Kept runtime request)) (openTake runtime request draw) := by
  refine keeps_bind (keeps_check _) fun _ => keeps_bind (keeps_still still_read) fun swap => ?_
  refine keeps_bind (keeps_still (still_onlyIf (still_create fun _ _ => rfl))) fun _ => ?_
  refine keeps_bind (keeps_still (still_writePrivateExact fun _ => rfl)) fun _ => ?_
  refine keeps_bind (keeps_bind (keeps_still still_read) fun swap => ?_) fun contribution =>
    keeps_bind (keeps_bind (keeps_still (still_load _)) fun record => ?_) fun plan => keeps_pure _
  · split
    · exact keeps_pure _
    · exact keeps_still (still_bootstrap ignoresKeys _ _ _)
  · split
    · exact keeps_pure _
    · refine keeps_bind (keeps_check _) fun runId => keeps_bind (keeps_updateRecord ?_) fun _ => keeps_pure _
      exact fun view kept => ⟨kept.1.rewrite rfl rfl rfl, kept.2⟩

theorem keeps_acceptReservation (contribution : BtcRoleContributionV1) (reserve : BtcReserveResponseV1) :
    Keeps (OnLock (before.Kept runtime request)) (acceptReservation runtime contribution reserve) := by
  refine keeps_bind (keeps_check _) fun pair => keeps_bind (keeps_check _) fun _ => ?_
  refine keeps_bind (keeps_still (still_writePrivateExact fun _ => rfl)) fun _ => ?_
  exact keeps_bind (keeps_updateRecord fun view kept => ⟨kept.1.rewrite rfl rfl rfl, kept.2⟩) fun _ => keeps_pure _

theorem LockView.Sound.plan {view : LockView} (sound : view.Sound runtime request)
    (sells : request.direction = .takerSellsForeign) (unplanned : view.record.fundingPlan = none)
    {funding : FundingPlan}
    (planned : funding.transactionId = runtime.primitives.transactionId funding.transactionHex) :
    { view with record := { view.record with fundingPlan := some funding } }.Sound runtime request := by
  refine { sound with planned := fun held found => ?_, drafted := fun draft found => ?_ }
  · cases found
    exact ⟨sells, planned⟩
  · obtain ⟨held, recorded, -⟩ := sound.drafted draft found sells
    cases unplanned.symm.trans recorded

theorem keeps_planFunding (sells : request.direction = .takerSellsForeign) (pair : ContributionPair)
    (plan : BtcSwapPlanV1) :
    Keeps (OnLock (before.Kept runtime request)) (planFunding runtime request draw pair plan) := by
  intro session kept
  refine leaves_load_bind kept fun record loaded => ?_
  cases loaded
  split
  · exact keeps_pure _ session kept
  · rename_i unplanned
    have held : OnLock (fun view => before.Kept runtime request view ∧ view.record.fundingPlan = none)
        session.state := ⟨kept, unplanned⟩
    refine leaves_check_bind kept fun contract _ => ?_
    refine Leaves.bind (keeps_still (still_writePrivateExact fun _ => rfl) session held)
      (fun _ held => held.1) fun _ planned _ held => ?_
    refine Leaves.bind (keeps_still (still_writePrivateExact fun _ => rfl) planned held)
      (fun _ held => held.1) fun _ written _ held => ?_
    obtain ⟨⟨sound, same⟩, unplanned⟩ := held
    exact leaves_bind (leaves_commit ⟨sound, same⟩ ⟨sound.plan sells unplanned rfl, same⟩)
      fun _ recorded _ kept => keeps_pure _ recorded kept

theorem planFunding_records (pair : ContributionPair) (plan : BtcSwapPlanV1) (session : Session TakerSwap) :
    Ends (fun funding swap => (recordOf swap).fundingPlan = some funding)
      (planFunding runtime request draw pair plan) session := by
  refine ends_load_bind fun record loaded => ?_
  cases loaded
  split
  · rename_i existing found
    exact ends_pure found
  · refine ends_check_bind fun contract _ => ends_bind fun _ planned _ => ends_bind fun _ written _ => ?_
    refine ends_commit_bind fun recorded made => ends_pure ?_
    rw [made]
    rfl

theorem keeps_fundingFacts (pair : ContributionPair) (plan : BtcSwapPlanV1) (reserve : BtcReserveResponseV1) :
    Keeps (OnLock (before.Kept runtime request)) (fundingFacts runtime request draw pair plan reserve) := by
  unfold fundingFacts
  split
  · rename_i sells
    exact keeps_bind (keeps_planFunding sells pair plan) fun _ => keeps_pure _
  · exact keeps_check _

theorem fundingFacts_records (pair : ContributionPair) (plan : BtcSwapPlanV1) (reserve : BtcReserveResponseV1)
    (session : Session TakerSwap) :
    Ends (fun facts swap => (lockView swap).Funds request facts.transactionId)
      (fundingFacts runtime request draw pair plan reserve) session := by
  unfold fundingFacts
  split
  · refine ends_bind fun funding planned ran => ends_pure fun _ => ?_
    exact ⟨funding, planFunding_records pair plan session funding planned ran, rfl⟩
  · rename_i sells
    intro facts reached _ funds
    cases sells.symm.trans funds

theorem keeps_settleClaimHash {reserve : BtcReserveResponseV1} (grows : ∀ view hash, part view →
      part { view with record := { view.record with claimMessageHash := some hash } }) :
    Keeps (OnLock part) (settleClaimHash request draw reserve) := by
  refine keeps_bind (keeps_still (still_load _)) fun record => ?_
  split
  · exact keeps_pure _
  · refine keeps_bind ?_ fun hash => keeps_bind (keeps_updateRecord fun view => grows view hash) fun _ =>
      keeps_pure _
    unfold claimHash
    split
    · refine keeps_bind (keeps_check _) fun runId =>
        keeps_bind (keeps_still (still_ensureSidecar ignoresSidecar _ _)) fun _ => ?_
      exact keeps_bind (keeps_still (still_prepareClaim (fun _ _ => rfl) _)) fun _ =>
        keeps_bind (keeps_still (still_writePrivateExact fun _ => rfl)) fun _ => keeps_pure _
    · exact keeps_check _

theorem composeAgreementDraft_funding {pair : ContributionPair} {facts : AgreementDraftFacts}
    {body : BtcAgreementBodyV1} (composed : composeAgreementDraft runtime pair facts = .ok body) :
    body.funding.transactionId = facts.funding.transactionId := by
  simp only [composeAgreementDraft, checked_ok, present_ok_iff] at composed
  obtain ⟨-, contract, -, -, -, -, made⟩ := composed
  cases made
  rfl

theorem keeps_configureTake (contribution : BtcRoleContributionV1) (plan : BtcSwapPlanV1)
    (reserve : BtcReserveResponseV1) :
    Keeps (OnLock (before.Kept runtime request))
      (configureTake runtime request draw contribution plan reserve) := by
  intro session kept
  refine leaves_bind (keeps_acceptReservation contribution reserve session kept)
    fun pair reserved _ kept => ?_
  refine leaves_bind (keeps_fundingFacts pair plan reserve reserved kept) fun facts funded ran kept => ?_
  have funds := fundingFacts_records pair plan reserve reserved facts funded ran
  refine Leaves.mono (OnLock fun view => before.Kept runtime request view ∧ view.Funds request facts.transactionId)
    (fun _ held => held.1) ?_
  refine keeps_bind (keeps_check _) (fun _ => ?_) funded ⟨kept, funds⟩
  refine keeps_bind (keeps_settleClaimHash fun view hash held =>
    ⟨⟨held.1.1.rewrite rfl rfl rfl, held.1.2⟩, held.2⟩) fun hash => ?_
  intro session held
  refine leaves_check_bind held fun draft composed => ?_
  refine keeps_bind (keeps_writePrivateExact fun swap held missing => ?_) (fun _ => ?_) session held
  · refine ⟨⟨{ held.1.1 with drafted := ?_, bound := ?_ }, held.1.2⟩, held.2⟩
    · intro written found
      cases found
      rw [composeAgreementDraft_funding composed]
      exact held.2
    · intro agreement bound
      have written : swap.own.unsignedDraft = some agreement.body := held.1.1.bound agreement bound
      cases missing.symm.trans written
  · refine keeps_bind (keeps_still (still_writePrivateExact fun _ => rfl)) fun _ => ?_
    exact keeps_bind (keeps_still (still_writePrivateExact fun _ => rfl)) fun _ => keeps_pure _

end Prepare

section Execute

def LockView.Opened (runtime : TakerRuntime) (request : TakeRequest) (sessions : LegSessions)
    (before view : LockView) : Prop :=
  before.Kept runtime request view ∧ view.record.sessions = some sessions

theorem survives_kept : SurvivesSigning (OnLock (before.Kept runtime request)) :=
  survivesSigning fun _ _ grows kept => ⟨kept.1.sign grows, kept.2⟩

variable {sessions : LegSessions}

theorem survives_opened : SurvivesSigning (OnLock (before.Opened runtime request sessions)) :=
  survivesSigning fun _ _ grows opened => ⟨⟨opened.1.1.sign grows, opened.1.2⟩, opened.2⟩

variable {agreement : BtcAgreementV1}

theorem keeps_persistAndBind (peer : BtcRoleContributionV1) (acceptedAt : Nat) :
    Keeps (OnLock fun view => before.Kept runtime request view ∧ view.unsignedDraft = some agreement.body)
      (persistAndBindCountersignedAgreement runtime.primitives peer agreement acceptedAt) := by
  refine keeps_bind (keeps_still still_read) fun _ => keeps_bind (keeps_check _) fun bound => ?_
  refine keeps_bind (keeps_still (still_onlyIf (still_commit (ignoresKeys _ fun _ => rfl)))) fun _ => ?_
  refine keeps_bind (keeps_still (still_writePrivateExact (ignoresKeys _ fun _ => rfl))) fun _ => ?_
  refine keeps_bind (keeps_writePrivateExact fun swap held missing => ?_) fun _ => keeps_pure _
  obtain ⟨⟨sound, same⟩, drafted⟩ := held
  have unbound : ∀ bound, (lockView swap).agreement ≠ some bound := by
    intro bound found
    cases missing.symm.trans found
  refine ⟨⟨⟨sound.planned, sound.drafted, ?_, ?_, ?_, ?_⟩, same⟩, drafted⟩
  · intro bound found
    cases found
    exact drafted
  · intro marked
    obtain ⟨bound, sessions, found, -⟩ := sound.active marked
    exact absurd found (unbound bound)
  · intro escrow prepared
    obtain ⟨bound, found, -⟩ := sound.escrowed escrow prepared
    exact absurd found (unbound bound)
  · intro receipt found
    exact absurd (sound.receipted receipt found) (unbound _)

theorem keeps_countersign {materials : Materials} (proposal : BtcChatProposalV2) :
    Keeps (OnLock fun view => before.Kept runtime request view ∧ view.unsignedDraft = some materials.draft)
      (countersign runtime request draw materials proposal) := by
  intro session held
  refine leaves_check_bind held fun _ matched => ?_
  rw [ensure_ok_iff] at matched
  obtain ⟨-, -, -, -, same⟩ := matched
  have drafted : OnLock (fun view => before.Kept runtime request view ∧
      view.unsignedDraft = some (⟨proposal.proposal, draw.signature⟩ : BtcAgreementV1).body) session.state := by
    refine ⟨held.1, ?_⟩
    rw [same]
    exact held.2
  rw [← same]
  exact keeps_bind (keeps_persistAndBind _ _) (fun _ => keeps_pure _) session drafted

theorem LockView.Sound.open {view : LockView} (sound : view.Sound runtime request)
    (closed : view.record.sessions = none) (sessions : LegSessions) :
    { view with record := { view.record with sessions := some sessions } }.Sound runtime request := by
  refine { sound with active := fun marked => ?_ }
  obtain ⟨agreement, held, -, opened, -⟩ := sound.active marked
  cases closed.symm.trans opened

theorem keeps_settleSessions : Keeps (OnLock (before.Kept runtime request)) (settleSessions draw) := by
  intro session kept
  refine leaves_load_bind kept fun record loaded => ?_
  cases loaded
  split
  · exact keeps_pure _ session kept
  · rename_i closed
    exact leaves_bind (leaves_commit kept ⟨kept.1.open closed _, kept.2⟩) fun _ recorded _ kept =>
      keeps_pure _ recorded kept

theorem settleSessions_records (session : Session TakerSwap) :
    Ends (fun sessions swap => (recordOf swap).sessions = some sessions) (settleSessions draw) session := by
  refine ends_load_bind fun record loaded => ?_
  cases loaded
  split
  · rename_i sessions found
    exact ends_pure found
  · refine ends_commit_bind fun recorded made => ends_pure ?_
    rw [made]
    rfl

theorem keeps_openCeremony (agreement : BtcAgreementV1) :
    Keeps (OnLock (before.Kept runtime request)) (openCeremony request draw agreement) := by
  refine keeps_bind (keeps_check _) fun runId =>
    keeps_bind (keeps_still (still_ensureSidecar ignoresSidecar _ _)) fun sidecar => ?_
  refine keeps_bind (keeps_still (still_load _)) fun claim => keeps_bind keeps_settleSessions fun sessions => ?_
  refine keeps_bind (keeps_check _) fun _ => ?_
  exact keeps_bind (keeps_reserve survives_kept _) fun bitcoin =>
    keeps_bind (keeps_reserve survives_kept _) fun lez => keeps_pure _

variable {session : Session TakerSwap}

theorem openCeremony_opens (agreement : BtcAgreementV1)
    (kept : OnLock (before.Kept runtime request) session.state) :
    Ends (fun opening => OnLock (before.Opened runtime request opening.sessions))
      (openCeremony request draw agreement) session := by
  refine ends_check_bind fun runId _ => ends_bind fun sidecar started ran => ?_
  have kept := (keeps_still (still_ensureSidecar ignoresSidecar _ _)).ends kept _ _ ran
  refine ends_load_bind fun claim _ => ends_bind fun sessions settled ran => ?_
  have opened : OnLock (before.Opened runtime request sessions) settled.state :=
    ⟨keeps_settleSessions.ends kept _ _ ran, settleSessions_records _ _ _ ran⟩
  refine ends_check_bind fun _ _ => ends_bind fun bitcoin reserved ran => ?_
  have opened := (keeps_reserve survives_opened _).ends opened _ _ ran
  refine ends_bind fun lez reserved ran => ends_pure ?_
  exact (keeps_reserve survives_opened _).ends opened _ _ ran

section Signing

variable {sessions : LegSessions} {agreement : BtcAgreementV1}

theorem keeps_acceptReserve (opening : Opening) (reserve : BtcCeremonyReserveResponseV1) :
    Keeps (OnLock (before.Opened runtime request sessions)) (acceptReserve agreement opening reserve) := by
  refine keeps_bind ?_ fun claim => ?_
  · unfold settleClaim
    split
    · exact keeps_pure _
    · refine keeps_bind (keeps_check _) fun prepared => keeps_bind (keeps_check _) fun _ => ?_
      exact keeps_bind (keeps_still (still_writePrivateExact fun _ => rfl)) fun _ => keeps_pure _
  · refine keeps_bind (keeps_acceptCommitment survives_opened _) fun _ =>
      keeps_bind (keeps_acceptCommitment survives_opened _) fun _ => ?_
    exact keeps_bind keeps_revealNonce fun _ =>
      keeps_bind keeps_revealNonce fun _ => keeps_pure _

theorem keeps_sign (maker : LegPackets Bytes32) :
    Keeps (OnLock (before.Opened runtime request sessions)) (sign agreement sessions maker) :=
  keeps_bind (keeps_acceptNonceSign survives_opened _) fun _ =>
    keeps_bind (keeps_acceptNonceSign survives_opened _) fun _ => keeps_pure _

theorem keeps_finish (maker : LegPackets AdaptorPartialSignature) (answer : BtcCeremonyPartialResponseV1) :
    Keeps (OnLock (before.Opened runtime request sessions)) (finish agreement sessions maker answer) :=
  keeps_bind (keeps_acceptPeerPartial survives_opened _) fun _ =>
    keeps_bind (keeps_acceptPeerPartial survives_opened _) fun _ =>
      keeps_bind (keeps_check _) fun _ => keeps_check _

end Signing

variable {claim : PrepareWitnessedClaimResult} {opening : Opening}

theorem keeps_activate (config : ActorConfig) :
    Keeps (OnLock (before.Opened runtime request sessions)) (activate config) := by
  intro session opened
  refine leaves_read_bind (leaves_check_bind opened fun agreement bound => ?_)
  refine leaves_check_bind opened fun _ _ => leaves_check_bind opened fun _ _ =>
    leaves_check_bind opened fun _ _ => ?_
  split
  · exact keeps_check _ session opened
  · rename_i empty
    refine leaves_commit opened ⟨⟨{ opened.1.1 with active := ?_ }, opened.1.2⟩, opened.2⟩
    intro marked
    obtain ⟨bound, held, -, -, -, state, found, -⟩ := opened.1.1.active marked
    cases empty.symm.trans found

theorem keeps_startActor (agreement : BtcAgreementV1) (opening : Opening) (claim : PrepareWitnessedClaimResult) :
    Keeps (OnLock (before.Opened runtime request sessions)) (startActor runtime draw agreement opening claim) :=
  keeps_bind (keeps_still (still_synthesize ignoresBundle _ _)) fun config =>
    keeps_bind (keeps_activate config) fun _ => keeps_pure _

theorem startActor_activates (opened : OnLock (before.Opened runtime request opening.sessions) session.state) :
    Ends (fun _ swap => (lockView swap).Active agreement opening.sessions)
      (startActor runtime draw agreement opening claim) session := by
  refine ends_bind fun config synthesized ran => ?_
  have opened := (keeps_still (still_synthesize ignoresBundle _ _)).ends opened _ _ ran
  have same := synthesize_config _ _ _ _ _ ran
  refine ends_bind fun _ activated ran => ends_pure ?_
  obtain ⟨bound, presigned, made⟩ := activate_activates _ _ _ _ ran
  rw [same] at bound presigned made
  exact ⟨bound, ((keeps_activate config).ends opened _ _ ran).2, presigned, made⟩

theorem LockView.Sound.mark {view : LockView} (sound : view.Sound runtime request)
    (active : view.Active agreement sessions) :
    { view with record := { view.record with actorActivated := true } }.Sound runtime request :=
  { sound with active := fun _ => ⟨agreement, sessions, active⟩ }

theorem activateTake_sound (opened : OnLock (before.Opened runtime request opening.sessions) session.state) :
    Leaves (OnLock (LockView.Sound runtime request)) (activateTake runtime draw agreement opening claim)
      session := by
  refine leaves_load_bind opened.1.1 fun record loaded => ?_
  unfold onlyIf
  split
  · refine Leaves.bind (keeps_startActor agreement opening claim session opened) (fun _ held => held.1.1)
      fun config started ran held => ?_
    have active := startActor_activates opened _ _ ran
    have bound : OnLock (fun view => view.Sound runtime request ∧ view.agreement = some agreement)
        started.state := ⟨held.1.1, active.1⟩
    refine Leaves.bind (leaves_commit bound ⟨held.1.1.mark active, active.1⟩) (fun _ held => held.1)
      fun _ marked _ held => ?_
    refine Leaves.mono (OnLock fun view => view.Sound runtime request ∧ view.agreement = some agreement)
      (fun _ held => held.1) (keeps_granted (keeps_writePrivateExact fun swap held _ => ?_) marked held)
    refine ⟨{ held.1 with receipted := ?_ }, held.2⟩
    intro receipt found
    cases found
    exact held.2
  · exact opened.1.1

end Execute

section Lock

variable {agreement : BtcAgreementV1} {escrow : PreparedEscrow}

theorem LockView.Sound.prepare {view : LockView} (sound : view.Sound runtime request)
    (bound : view.agreement = some agreement)
    (terms : escrow.terms = agreementTerms runtime.primitives agreement) :
    { view with escrow := some escrow }.Sound runtime request := by
  refine { sound with escrowed := ?_ }
  intro held found
  rcases found with reserved | stored
  · cases reserved
    exact ⟨agreement, bound, terms⟩
  · exact sound.escrowed held (.inr stored)

theorem LockView.Sound.store {view : LockView} (sound : view.Sound runtime request)
    (bound : view.agreement = some agreement)
    (terms : escrow.terms = agreementTerms runtime.primitives agreement) :
    { view with escrowResult := some escrow }.Sound runtime request := by
  refine { sound with escrowed := ?_ }
  intro held found
  rcases found with reserved | stored
  · exact sound.escrowed held (.inl reserved)
  · cases stored
    exact ⟨agreement, bound, terms⟩

theorem keeps_storeEscrow (terms : escrow.terms = agreementTerms runtime.primitives agreement) :
    Keeps (OnLock fun view => before.Kept runtime request view ∧ view.agreement = some agreement)
      (storeEscrow escrow) := by
  refine keeps_bind (keeps_still (still_writePrivateExact fun _ => rfl)) fun _ => ?_
  refine keeps_writePrivateExact fun swap held _ => ?_
  exact ⟨⟨held.1.1.store held.2 terms, held.1.2⟩, held.2⟩

theorem keeps_lockEscrow :
    Keeps (OnLock fun view => before.Kept runtime request view ∧ view.agreement = some agreement)
      (lockEscrow runtime request draw agreement) := by
  refine keeps_bind (keeps_check _) fun runId =>
    keeps_bind (keeps_still (still_ensureSidecar ignoresSidecar _ _)) fun _ =>
    keeps_bind (keeps_still still_read) fun swap => ?_
  split
  · exact keeps_pure _
  · intro session held
    refine leaves_bind ?_ fun escrow prepared ran held => ?_
    · refine leaves_read_bind ?_
      split
      · exact leaves_check_bind held fun _ _ => keeps_pure _ session held
      · exact leaves_bind (leaves_commit held ⟨⟨held.1.1.prepare held.2 rfl, held.1.2⟩, held.2⟩)
          fun _ reserved _ held => keeps_pure _ reserved held
    · have terms := prepareEscrow_terms _ _ _ _ ran
      exact keeps_bind (keeps_storeEscrow terms) (fun _ => keeps_pure _) prepared held

theorem storeEscrow_stores (session : Session TakerSwap) :
    Ends (fun _ swap => swap.escrowResult = some escrow) (storeEscrow escrow) session :=
  ends_bind fun _ _ _ => writePrivateExact_holds (fun _ => rfl) _

theorem lockEscrow_stores {session : Session TakerSwap}
    (held : OnLock (fun view => before.Kept runtime request view ∧ view.agreement = some agreement)
      session.state) :
    Ends (fun escrow swap => swap.escrowResult = some escrow ∧
        escrow.terms = agreementTerms runtime.primitives agreement)
      (lockEscrow runtime request draw agreement) session := by
  refine ends_check_bind fun runId _ => ends_bind fun _ started ran => ends_read_bind ?_
  have held := (keeps_still (still_ensureSidecar ignoresSidecar _ _)).ends held _ _ ran
  split
  · rename_i escrow stored
    obtain ⟨bound, found, terms⟩ := held.1.1.escrowed escrow (.inr stored)
    cases held.2.symm.trans found
    exact ends_pure ⟨stored, terms⟩
  · refine ends_bind fun escrow prepared ran => ends_bind fun _ kept written => ends_pure ⟨?_, ?_⟩
    · exact storeEscrow_stores prepared _ _ written
    · exact prepareEscrow_terms _ _ _ _ ran

theorem keeps_lock : Keeps (OnLock (before.Kept runtime request)) (lock runtime request draw) := by
  refine keeps_bind (keeps_still (still_load _)) fun _ => keeps_bind (keeps_still (still_load _)) fun record =>
    keeps_bind (keeps_check _) fun _ => ?_
  split
  · exact keeps_pure _
  · exact keeps_pure _
  · refine keeps_bind (keeps_still (still_commit fun _ => rfl)) fun _ => keeps_bind (keeps_check _) fun _ => ?_
    exact keeps_bind (keeps_updateRecord fun view kept => ⟨kept.1.rewrite rfl rfl rfl, kept.2⟩) fun _ =>
      keeps_pure _
  · intro session kept
    refine leaves_check_bind kept fun _ _ => leaves_load_bind kept fun agreement bound => ?_
    rw [present_ok_iff] at bound
    refine leaves_check_bind kept fun _ _ => leaves_check_bind kept fun ⟨nonce, waited⟩ _ => ?_
    refine Leaves.mono (OnLock fun view => before.Kept runtime request view ∧ view.agreement = some agreement)
      (fun _ held => held.1) ?_
    refine keeps_bind keeps_lockEscrow (fun escrow => ?_) session ⟨kept, bound⟩
    refine keeps_bind (keeps_still (still_commit fun _ => rfl)) fun _ =>
      keeps_bind (keeps_still (still_commit fun _ => rfl)) fun _ => ?_
    exact keeps_bind (keeps_updateRecord fun view held =>
      ⟨⟨held.1.1.rewrite rfl rfl rfl, held.1.2⟩, held.2⟩) fun _ => keeps_pure _

theorem NonceRead.bounded_le (timeout : Nat) (nonceRead : NonceRead) :
    (nonceRead.bounded timeout).tookMillis ≤ timeout := by
  unfold NonceRead.bounded
  split
  · assumption
  · exact Nat.le_refl timeout

/-- A wait that succeeds ends within the bound, one pause and one request after it was last looked at. -/
theorem waitForLezNonce_bounded {target nonce : UInt64} {timeout elapsed : Nat} {reads : List NonceRead}
    {last : Option UInt64} {waited : Nat} (inside : waited ≤ lezNonceWaitMillis + lezNoncePollMillis)
    (reached : waitForLezNonce target timeout last waited reads = .ok (nonce, elapsed)) :
    elapsed ≤ lezNonceWaitMillis + lezNoncePollMillis + timeout := by
  induction reads generalizing last waited with
  | nil => cases reached
  | cons nonceRead later induction =>
    have bounded := NonceRead.bounded_le timeout nonceRead
    unfold waitForLezNonce at reached
    dsimp only at reached
    split at reached
    · cases reached
      omega
    · rw [ensure_bind_ok_iff] at reached
      exact induction (by omega) reached.2

example : (waitForLezNonce 4 500 none 0 [⟨200, some 2⟩, ⟨700, some 4⟩, ⟨100, some 4⟩]).toOption =
    some (4, 6800) := by decide +kernel

/-- The latest that a lock hands anything over, counted from its call. -/
def latestMillis (timeout : Nat) (lock : LockDraw) : Nat :=
  max lock.untilBroadcastMillis
    (lock.untilGateMillis + (lezNonceWaitMillis + lezNoncePollMillis + timeout) +
      lock.untilInitializationMillis + lock.untilFundingMillis)

/-- The agreement commits to these bytes: it names the transaction, or the escrow is for its terms and is
    the one the directory keeps. -/
def CommittedBy (primitives : Primitives) (agreement : BtcAgreementV1) (stored : Option PreparedEscrow) :
    Submission → Prop
  | .bitcoinFunding transactionHex =>
    primitives.transactionId transactionHex = agreement.body.funding.transactionId
  | .lezInitialization escrow | .lezFunding escrow =>
    lezDepositor agreement.body.direction = .taker ∧ stored = some escrow ∧
      escrow.terms = agreementTerms primitives agreement

/-- What a lock may hand over for the agreement, and until when. -/
def Allowed (runtime : TakerRuntime) (draw : TakerDraw) (agreement : BtcAgreementV1)
    (stored : Option PreparedEscrow) (handover : Handover) : Prop :=
  CommittedBy runtime.primitives agreement stored handover.submission ∧
    handover.timeMillis ≤ draw.now * 1000 + latestMillis runtime.requestTimeoutMillis draw.lock

def Hands (earlier : List Handover) (allowed : Option PreparedEscrow → Handover → Prop) (swap : TakerSwap) : Prop :=
  ∃ added, swap.own.handed = earlier ++ added ∧ ∀ handover ∈ added, allowed swap.escrowResult handover

/-- The same while the directory keeps one escrow, against which the next handover is made. -/
def HandsFrom (stored : Option PreparedEscrow) (earlier : List Handover)
    (allowed : Option PreparedEscrow → Handover → Prop) (swap : TakerSwap) : Prop :=
  swap.escrowResult = stored ∧ Hands earlier allowed swap

variable {stored : Option PreparedEscrow} {earlier : List Handover}
  {allowed : Option PreparedEscrow → Handover → Prop}

theorem hands_nothing {swap : TakerSwap} (same : swap.own.handed = earlier) : Hands earlier allowed swap := by
  refine ⟨[], ?_, ?_⟩
  · rw [List.append_nil, same]
  · intro handover member
    cases member

theorem keeps_hand {timeMillis : Nat} {submission : Submission} (fine : allowed stored ⟨timeMillis, submission⟩) :
    Keeps (HandsFrom stored earlier allowed) (hand timeMillis submission) := by
  refine keeps_commit fun swap held => ?_
  obtain ⟨same, added, handed, each⟩ := held
  refine ⟨same, added ++ [⟨timeMillis, submission⟩], ?_, ?_⟩
  · rw [← List.append_assoc, ← handed]
    rfl
  · intro other member
    rcases List.mem_append.mp member with old | new
    · exact each other old
    · rw [List.mem_singleton.mp new]
      exact same ▸ fine

theorem keeps_updateRecord_hands (change : TakerSwapRecordV1 → TakerSwapRecordV1) :
    Keeps (HandsFrom stored earlier allowed) (updateRecord change) :=
  keeps_commit fun _ held => held

theorem apart_lockEscrow (agreement : BtcAgreementV1) :
    Still (fun swap : TakerSwap => swap.own.handed) (lockEscrow runtime request draw agreement) := by
  refine still_bind (still_check _) fun runId =>
    still_bind (still_ensureSidecar (fun _ _ _ => rfl) _ _) fun _ => still_bind still_read fun swap => ?_
  split
  · exact still_pure _
  · refine still_bind (still_prepareEscrow (fun _ _ => rfl) _) fun escrow => ?_
    exact still_bind (still_bind (still_writePrivateExact fun _ => rfl) fun _ =>
      still_writePrivateExact fun _ => rfl) fun _ => still_pure _

theorem lockBitcoin_hands {swap : TakerSwap} {plan : FundingPlan}
    (fine : CommittedBy runtime.primitives agreement swap.escrowResult (.bitcoinFunding plan.transactionHex))
    (life : Option Nat) :
    Leaves (Hands swap.own.handed (Allowed runtime draw agreement)) (lockBitcoin draw plan) ⟨swap, life⟩ := by
  refine Leaves.mono (HandsFrom swap.escrowResult swap.own.handed (Allowed runtime draw agreement))
    (fun _ held => held.2) ?_
  have timely : draw.now * 1000 + draw.lock.untilBroadcastMillis ≤
      draw.now * 1000 + latestMillis runtime.requestTimeoutMillis draw.lock :=
    Nat.add_le_add_left (Nat.le_max_left _ _) _
  exact keeps_bind (keeps_hand ⟨fine, timely⟩) (fun _ => keeps_bind (keeps_check _) fun _ =>
    keeps_bind (keeps_updateRecord_hands _) fun _ => keeps_pure _) ⟨swap, life⟩ ⟨rfl, hands_nothing rfl⟩

theorem lockLez_hands {swap : TakerSwap} (sound : (lockView swap).Sound runtime request)
    (bound : swap.role.agreement = some agreement) (record : TakerSwapRecordV1) (life : Option Nat) :
    Leaves (Hands swap.own.handed (Allowed runtime draw agreement)) (lockLez runtime request draw record)
      ⟨swap, life⟩ := by
  have nothing : Hands swap.own.handed (Allowed runtime draw agreement) swap := hands_nothing rfl
  refine leaves_check_bind nothing fun _ _ => leaves_load_bind nothing fun loaded found => ?_
  rw [present_ok_iff] at found
  cases bound.symm.trans found
  refine leaves_check_bind nothing fun _ depositor => leaves_check_bind nothing fun ⟨nonce, waited⟩ reached => ?_
  rw [ensure_ok_iff] at depositor
  have within := waitForLezNonce_bounded (Nat.zero_le _) reached
  have untouched : Leaves (fun reached : TakerSwap => reached.own.handed = swap.own.handed)
      (lockEscrow runtime request draw agreement) ⟨swap, life⟩ := apart_lockEscrow agreement ⟨swap, life⟩
  refine Leaves.bind untouched (fun _ same => hands_nothing same) fun escrow prepared ran same => ?_
  have kept : OnLock (fun view => (lockView swap).Kept runtime request view ∧
      view.agreement = some agreement) (⟨swap, life⟩ : Session TakerSwap).state :=
    ⟨⟨sound, rfl, rfl⟩, bound⟩
  obtain ⟨stores, terms⟩ := lockEscrow_stores kept _ _ ran
  -- both submissions are of the stored escrow, and the later one is still in time
  have latest : draw.lock.untilGateMillis + waited + draw.lock.untilInitializationMillis +
      draw.lock.untilFundingMillis ≤ latestMillis runtime.requestTimeoutMillis draw.lock := by
    refine Nat.le_trans ?_ (Nat.le_max_right _ _)
    omega
  refine Leaves.mono (HandsFrom (some escrow) swap.own.handed (Allowed runtime draw agreement))
    (fun _ held => held.2) ?_
  refine keeps_bind (keeps_hand ⟨⟨depositor, rfl, terms⟩, ?_⟩) (fun _ =>
    keeps_bind (keeps_hand ⟨⟨depositor, rfl, terms⟩, ?_⟩) fun _ =>
    keeps_bind (keeps_updateRecord_hands _) fun _ => keeps_pure _) prepared ⟨stores, hands_nothing same⟩
  · dsimp only
    omega
  · dsimp only
    omega

/-- From a sound directory, a lock hands over only what the bound agreement commits to. -/
theorem lock_hands {swap : TakerSwap} (sound : (lockView swap).Sound runtime request)
    (bound : swap.role.agreement = some agreement) (life : Option Nat) :
    Leaves (Hands swap.own.handed (Allowed runtime draw agreement)) (lock runtime request draw)
      ⟨swap, life⟩ := by
  have nothing : Hands swap.own.handed (Allowed runtime draw agreement) swap := hands_nothing rfl
  refine leaves_load_bind nothing fun _ _ => leaves_load_bind nothing fun record loaded => ?_
  cases loaded
  refine leaves_check_bind nothing fun _ active => ?_
  split
  · exact nothing
  · exact nothing
  · rename_i plan _ _ planned
    refine lockBitcoin_hands ?_ life
    obtain ⟨sells, named⟩ := sound.planned plan planned
    obtain ⟨held, recorded, same⟩ := sound.drafted _ (sound.bound agreement bound) sells
    cases planned.symm.trans recorded
    exact named.symm.trans same.symm
  · exact lockLez_hands sound bound _ life

end Lock

section Takes

variable {Peer : Type} {chat : Chat Peer} {agreement : BtcAgreementV1} {materials : Materials}
  {opening : Opening}

def OnTake (part : LockView → Prop) (take : Take Peer) : Prop := part (lockView take.taker)

variable {session : Session (Take Peer)} {work : TakerWork α}

theorem leaves_onTaker (left : Leaves (OnLock part) work ⟨session.state.taker, session.life⟩) :
    Leaves (OnTake part) (onTaker work) session :=
  leaves_within (fun _ _ => rfl) left

theorem ends_onTaker {after : α → LockView → Prop}
    (ended : Ends (fun value => OnLock (after value)) work ⟨session.state.taker, session.life⟩) :
    Ends (fun value => OnTake (after value)) (onTaker work) session :=
  ends_within (fun _ _ => rfl) ended

theorem keeps_onTaker (kept : Keeps (OnLock part) work) : Keeps (OnTake part : Take Peer → Prop) (onTaker work) :=
  keeps_within (fun _ _ => rfl) kept

/-- Whatever the Maker does, it does not do it in the Taker's directory. -/
theorem keeps_onPeer (work : Durable Peer LifecycleError α) :
    Keeps (OnTake part : Take Peer → Prop) (onPeer work) :=
  (still_within fun _ _ => rfl : Still (fun take : Take Peer => lockView take.taker) (onPeer work)).keeps

theorem keeps_prepare : Keeps (OnTake (before.Kept runtime request)) (prepare runtime request draw chat) := by
  refine keeps_bind (fun _ sound => sound) fun prepared => ?_
  split
  · exact keeps_pure _
  · exact keeps_bind (keeps_onTaker keeps_openTake) fun opened => keeps_bind (keeps_onPeer _) fun reserve =>
      keeps_onTaker (keeps_configureTake _ _ _)

theorem keeps_bindAgreement :
    Keeps (OnTake fun view => before.Kept runtime request view ∧ view.unsignedDraft = some materials.draft)
      (bindAgreement runtime request draw chat materials) := by
  unfold bindAgreement
  split
  · exact keeps_pure _
  · refine keeps_bind (keeps_onPeer _) fun proposal =>
      keeps_bind (keeps_onTaker (keeps_countersign proposal)) fun agreement => ?_
    exact keeps_bind (keeps_onPeer _) fun completion => keeps_bind (keeps_check _) fun _ => keeps_pure _

theorem loadMaterials_draft {swap : TakerSwap}
    (loaded : loadMaterials swap = .ok materials) : swap.own.unsignedDraft = some materials.draft := by
  simp only [loadMaterials, checked_ok, present_ok_iff] at loaded
  obtain ⟨-, taker, -, maker, -, draft, drafted, pair, -, key, -, made⟩ := loaded
  cases made
  exact drafted

theorem keeps_rounds :
    Keeps (OnTake (before.Opened runtime request opening.sessions))
      (rounds request chat agreement opening) :=
  keeps_bind (keeps_onPeer _) fun _ => keeps_bind (keeps_onTaker (keeps_acceptReserve _ _)) fun _ =>
    keeps_bind (keeps_onPeer _) fun _ => keeps_bind (keeps_onTaker (keeps_sign _)) fun _ =>
      keeps_bind (keeps_onPeer _) fun _ => keeps_bind (keeps_onTaker (keeps_finish _ _)) fun _ =>
        keeps_pure _

theorem keeps_signTake : Keeps (OnTake (before.Kept runtime request)) (signTake runtime request draw chat) := by
  intro session kept
  refine leaves_load_bind kept fun materials loaded => ?_
  refine Leaves.bind (keeps_bindAgreement session ⟨kept, loadMaterials_draft loaded⟩) (fun _ held => held.1)
    fun agreement bound _ held => ?_
  refine leaves_bind (keeps_onTaker (keeps_openCeremony agreement) bound held.1) fun opening opened ran _ => ?_
  have ready : OnTake (before.Opened runtime request opening.sessions) opened.state :=
    ends_onTaker (openCeremony_opens agreement held.1) _ _ ran
  refine Leaves.bind (keeps_rounds opened ready) (fun _ held => held.1) fun claim signed _ ready => ?_
  exact keeps_pure _ signed ready.1

theorem signTake_opens (kept : OnTake (before.Kept runtime request) session.state) :
    Ends (fun signed => OnTake (before.Opened runtime request signed.opening.sessions))
      (signTake runtime request draw chat) session := by
  refine ends_load_bind fun materials loaded => ends_bind fun agreement bound ran => ?_
  have held := keeps_bindAgreement.ends ⟨kept, loadMaterials_draft loaded⟩ _ _ ran
  refine ends_bind fun opening opened ran => ?_
  have ready : OnTake (before.Opened runtime request opening.sessions) opened.state :=
    ends_onTaker (openCeremony_opens agreement held.1) _ _ ran
  refine ends_bind fun claim signed ran => ends_pure ?_
  exact keeps_rounds.ends ready _ _ ran

theorem execute_sound (session : Session (Take Peer))
    (kept : OnTake (before.Kept runtime request) session.state) :
    Leaves (OnTake (LockView.Sound runtime request)) (execute runtime request draw chat) session := by
  refine Leaves.bind (keeps_signTake session kept) (fun _ held => held.1) fun signed reached ran _ => ?_
  exact leaves_onTaker (activateTake_sound (signTake_opens kept _ _ ran))

def LockView.Receipted (view : LockView) : Prop := view.record.actorActivated → view.receipt.isSome

theorem LockView.Receipted.kept {view : LockView} (receipted : before.Receipted)
    (kept : before.Kept runtime request view) : view.Receipted := by
  intro marked
  rw [kept.2.2]
  exact receipted (kept.2.1.symm.trans marked)

/-- An attempt that comes to write the receipt leaves no mark without one, wherever else it is cut. -/
theorem activateTake_receipts
    {claim : PrepareWitnessedClaimResult} {session : Session TakerSwap} (receipted : before.Receipted)
    (opened : OnLock (before.Opened runtime request opening.sessions) session.state)
    (written : draw.receiptWritten = true) :
    Leaves (OnLock LockView.Receipted) (activateTake runtime draw agreement opening claim) session := by
  refine leaves_load_bind (receipted.kept opened.1) fun record loaded => ?_
  unfold onlyIf
  split
  · refine Leaves.bind (keeps_startActor agreement opening claim session opened)
      (fun _ held => receipted.kept held.1) fun config started _ held => ?_
    refine leaves_commit_bind (receipted.kept held.1) fun marked _ => ?_
    refine Leaves.mono (fun swap : TakerSwap => swap.own.receipt.isSome) (fun _ found _ => found) ?_
    refine leaves_granted (fun denied => ?_) fun _ => writePrivateExact_leaves fun _ => rfl
    cases denied.symm.trans written
  · exact receipted.kept opened.1

theorem execute_receipts (session : Session (Take Peer)) (receipted : before.Receipted)
    (kept : OnTake (before.Kept runtime request) session.state) (written : draw.receiptWritten = true) :
    Leaves (OnTake LockView.Receipted) (execute runtime request draw chat) session := by
  refine Leaves.bind (keeps_signTake session kept) (fun _ held => receipted.kept held)
    fun signed reached ran _ => ?_
  exact leaves_onTaker (activateTake_receipts receipted (signTake_opens kept _ _ ran) written)

theorem execute_marked (session : Session (Take Peer)) (marked : before.record.actorActivated)
    (kept : OnTake (before.Kept runtime request) session.state) :
    Leaves (OnTake (before.Kept runtime request)) (execute runtime request draw chat) session := by
  refine leaves_bind (keeps_signTake session kept) fun signed reached _ kept => leaves_onTaker ?_
  refine leaves_load_bind kept fun record loaded => ?_
  cases loaded
  have found : (recordOf reached.state.taker).actorActivated = true := kept.2.1.trans marked
  unfold onlyIf
  rw [found, if_neg (by decide)]
  exact keeps_pure _ _ kept

end Takes

end Steps

end Taker

end AtomicSwaps.Btc
