import AtomicSwaps.Btc.DirectoryFrames
import AtomicSwaps.Btc.MakerNode
import AtomicSwaps.Btc.RefundOrder

namespace AtomicSwaps.Btc

open AtomicSwaps.Core Fallible Durable SwapDirectory CeremonySeat Leaves

section View

/-- The part of a reservation that the slot depends on. -/
structure SlotView where
  directories : Nat
  contribution : Option BtcRoleContributionV1
  agreement : Option BtcAgreementV1
  sidecarRecord : Option SidecarRecordV1
  escrow : Option PreparedEscrow
  state : Option ActorState
  record : Option ReservationRecordV1
  negotiation : Option MakerBtcNegotiationV1
  progress : Option MakerActorProgress

def slotView (swap : MakerSwap) : SlotView where
  directories := swap.directories
  contribution := swap.role.contribution
  agreement := swap.role.agreement
  sidecarRecord := swap.sidecar.record
  escrow := swap.sidecar.escrow
  state := swap.actor.state
  record := swap.own.record
  negotiation := swap.own.negotiation
  progress := swap.own.progress

def Drafted (record : ReservationRecordV1) (body : BtcAgreementBodyV1) : Prop :=
  body.direction = record.direction ∧
    body.recovery.makerSecondLockCutoffUnixSeconds = record.plan.makerSecondLockCutoffUnixSeconds

structure SlotView.Sound (view : SlotView) : Prop where
  unmade : view.directories = 0 → view.record = none ∧ view.contribution = none
  sameDirection : ∀ record contribution, view.record = some record →
    view.contribution = some contribution → contribution.direction = record.direction
  staged : ∀ negotiation, view.negotiation = some negotiation →
    ∃ record, view.record = some record ∧ Drafted record negotiation.proposal
  bound : ∀ agreement, view.agreement = some agreement →
    ∃ record, view.record = some record ∧ Drafted record agreement.body
  active : ∀ state, view.state = some state →
    view.agreement = some state.agreement ∧ view.sidecarRecord.isSome
  truthful : ∀ progress, view.progress = some progress → progress.settled →
    ∃ state, view.state = some state ∧ state.settled
  escrowed : ∀ escrow, view.escrow = some escrow → view.sidecarRecord.isSome ∧
    ∃ agreement, view.agreement = some agreement ∧ lezDepositor agreement.body.direction = .maker

def OnView (part : SlotView → Prop) (swap : MakerSwap) : Prop := part (slotView swap)

variable {view : SlotView}

theorem SlotView.Sound.sidecar (sound : view.Sound) (record : SidecarRecordV1) :
    { view with sidecarRecord := some record }.Sound where
  unmade := sound.unmade
  sameDirection := sound.sameDirection
  staged := sound.staged
  bound := sound.bound
  active state found := ⟨(sound.active state found).1, rfl⟩
  truthful := sound.truthful
  escrowed escrow found := ⟨rfl, (sound.escrowed escrow found).2⟩

def SlotView.Recorded (record : ReservationRecordV1) (view : SlotView) : Prop :=
  ∃ held, view.record = some held ∧ held.direction = record.direction ∧ held.plan = record.plan

theorem SlotView.Sound.rewrite (sound : view.Sound) {record written : ReservationRecordV1}
    (recorded : view.Recorded record) (direction : written.direction = record.direction)
    (plan : written.plan = record.plan) : { view with record := some written }.Sound := by
  obtain ⟨held, found, sameDirection, samePlan⟩ := recorded
  have redraft : ∀ {body : BtcAgreementBodyV1}, Drafted held body → Drafted written body := by
    intro body drafted
    refine ⟨drafted.1.trans (sameDirection.trans direction.symm), drafted.2.trans ?_⟩
    rw [samePlan, plan]
  refine ⟨fun none => ?_, fun record contribution recorded contributed => ?_, fun negotiation staged => ?_,
    fun agreement bound => ?_, sound.active, sound.truthful, sound.escrowed⟩
  · have missing := (sound.unmade none).1
    rw [found] at missing
    cases missing
  · cases recorded
    rw [sound.sameDirection held contribution found contributed, sameDirection, direction]
  · obtain ⟨record, recorded, drafted⟩ := sound.staged negotiation staged
    cases found.symm.trans recorded
    exact ⟨written, rfl, redraft drafted⟩
  · obtain ⟨record, recorded, drafted⟩ := sound.bound agreement bound
    cases found.symm.trans recorded
    exact ⟨written, rfl, redraft drafted⟩

def SlotView.Kept (state : Option ActorState) (view : SlotView) : Prop :=
  view.Sound ∧ view.state = state

/-- A reservation being made: it has no record yet, and its contribution is for the requested direction. -/
structure SlotView.Making (direction : SwapDirection) (state : Option ActorState) (view : SlotView) : Prop where
  kept : view.Kept state
  made : 0 < view.directories
  unrecorded : view.record = none
  contributed : ∀ contribution, view.contribution = some contribution → contribution.direction = direction

theorem SlotView.Making.record {direction : SwapDirection} {state : Option ActorState}
    (making : view.Making direction state) {record : ReservationRecordV1}
    (same : record.direction = direction) : { view with record := some record }.Kept state := by
  obtain ⟨⟨sound, kept⟩, made, unrecorded, contributed⟩ := making
  have unbound : ∀ agreement, view.agreement = some agreement → False := by
    intro agreement bound
    obtain ⟨held, found, -⟩ := sound.bound agreement bound
    cases unrecorded.symm.trans found
  refine ⟨⟨fun zero => absurd zero (Nat.pos_iff_ne_zero.mp made), ?_, ?_, fun agreement bound =>
    (unbound agreement bound).elim, sound.active, sound.truthful, sound.escrowed⟩, kept⟩
  · intro held contribution found contribution_found
    cases found
    rw [contributed contribution contribution_found, same]
  · intro negotiation staged
    obtain ⟨held, found, -⟩ := sound.staged negotiation staged
    cases unrecorded.symm.trans found

structure SlotView.Grown (before view : SlotView) : Prop where
  sound : view.Sound
  made : ∀ state, before.state = some state → view.state = some state
  direction : view.record.map (·.direction) = before.record.map (·.direction)

def SlotView.Deposits (view : SlotView) : Prop :=
  ∃ agreement, view.agreement = some agreement ∧ lezDepositor agreement.body.direction = .maker

end View

namespace Maker

variable {part : SlotView → Prop} {session : Session MakerSwap} {α : Type} {holds : MakerSwap → Prop}

theorem keeps_still {work : MakerWork α} (still : Still slotView work) : Keeps (OnView part) work :=
  still.keeps

theorem ignoresJournals : IgnoresJournals slotView := fun domain _ _ => by cases domain <;> rfl

theorem ignoresBundle : IgnoresBundle slotView :=
  ⟨fun _ _ => rfl, fun _ _ => rfl, fun _ _ => rfl, fun _ _ => rfl, fun _ _ => rfl⟩

section Rounds

variable {runtime : MakerRuntime} {draw : MakerDraw} {state : Option ActorState} {before : SlotView}
  {record : ReservationRecordV1} {direction : SwapDirection}

theorem keeps_ensureSidecar {runId : String} {sidecar : SidecarDraw}
    (grows : ∀ view record, part view → part { view with sidecarRecord := some record }) :
    Keeps (OnView part) (ensureSidecar runId sidecar) := by
  intro session before
  refine leaves_read_bind ?_
  split
  · exact leaves_check_bind before fun _ _ => keeps_pure _ session before
  · refine keeps_bind (keeps_still (still_writePrivateExact fun _ => rfl)) (fun _ => ?_) session before
    refine keeps_bind (keeps_still still_read) fun _ => keeps_bind (keeps_check _) fun _ => ?_
    refine keeps_bind (keeps_still (still_commit fun _ => rfl)) fun _ => ?_
    exact keeps_bind (keeps_commit fun _ held => grows _ _ held) fun _ => keeps_pure _

theorem ensureSidecar_records (runId : String) (sidecar : SidecarDraw) (session : Session MakerSwap) :
    Ends (fun _ swap => swap.sidecar.record.isSome) (ensureSidecar runId sidecar) session := by
  refine ends_read_bind ?_
  split
  · rename_i record found
    refine ends_check_bind fun _ _ => ends_pure ?_
    rw [found]
    rfl
  · refine ends_bind fun _ written _ => ends_read_bind (ends_check_bind fun _ _ => ?_)
    refine ends_commit_bind fun _ _ => ends_commit_bind fun reached recorded => ends_pure ?_
    rw [recorded]
    rfl

theorem kept_sidecar (view : SlotView) (record : SidecarRecordV1) (kept : view.Kept state) :
    { view with sidecarRecord := some record }.Kept state :=
  ⟨kept.1.sidecar record, kept.2⟩

theorem still_nonceRound (agreement : BtcAgreementV1) (sessions : LegSessions) (taker : LegPackets Bytes32) :
    Still slotView (nonceRound agreement sessions taker) :=
  still_bind still_revealNonce fun _ => still_bind still_revealNonce fun _ =>
    still_bind (still_acceptNonceSign ignoresJournals _) fun _ =>
      still_bind (still_acceptNonceSign ignoresJournals _) fun _ => still_pure _

theorem still_ceremonyNonce (request : BtcCeremonyNonceRequestV1) : Still slotView (ceremonyNonce request) := by
  refine still_bind (still_load _) fun _ => still_bind still_read fun swap =>
    still_bind (still_check _) fun replayed => ?_
  split
  · exact still_pure _
  · exact still_bind (still_load _) fun _ => still_bind (still_check _) fun _ =>
      still_bind (still_load _) fun _ => still_bind (still_nonceRound _ _ _) fun _ =>
        still_bind (still_commit fun _ => rfl) fun _ => still_pure _

theorem still_reserveRound (agreement : BtcAgreementV1) (sessions : LegSessions)
    (taker : LegPackets AdaptorNonceCommitment) : Still slotView (reserveRound draw agreement sessions taker) :=
  still_bind (still_reserve ignoresJournals _) fun _ =>
    still_bind (still_reserve ignoresJournals _) fun _ =>
      still_bind (still_acceptCommitment ignoresJournals _) fun _ =>
        still_bind (still_acceptCommitment ignoresJournals _) fun _ => still_pure _

theorem still_exchangeClaim (agreement : BtcAgreementV1) (runId : String)
    (sent : Option PrepareWitnessedClaimResult) : Still slotView (exchangeClaim agreement runId sent) := by
  unfold exchangeClaim
  split
  · exact still_bind (still_check _) fun _ => still_bind (still_check _) fun _ =>
      still_bind (still_writePrivateExact fun _ => rfl) fun _ => still_pure _
  · exact still_bind still_read fun _ => still_bind (still_check _) fun _ =>
      still_bind (still_check _) fun _ => still_pure _

theorem keeps_ceremonyReserve (request : BtcCeremonyReserveRequestV1) :
    Keeps (OnView (SlotView.Kept state)) (ceremonyReserve draw request) := by
  intro session kept
  refine leaves_load_bind kept fun _ _ => leaves_read_bind (leaves_check_bind kept fun replayed _ => ?_)
  split
  · exact keeps_pure _ session kept
  · refine leaves_load_bind kept fun record loaded => ?_
    rw [present_ok_iff] at loaded
    refine mono (OnView fun view => view.Kept state ∧ view.Recorded record)
      (fun _ held => held.1) ?_
    refine keeps_bind (keeps_still (still_load _)) (fun agreement => ?_) session
      ⟨kept, record, loaded, rfl, rfl⟩
    refine keeps_bind (keeps_check _) fun _ => keeps_bind (keeps_check _) fun runId => ?_
    refine keeps_bind (keeps_ensureSidecar fun view held kept => ⟨kept_sidecar view held kept.1, kept.2⟩)
      fun _ => ?_
    refine keeps_bind (keeps_still (still_exchangeClaim _ _ _)) fun claim => ?_
    refine keeps_bind (keeps_check _) fun _ => ?_
    refine keeps_bind (keeps_still (still_reserveRound _ _ _)) fun commitments => ?_
    refine keeps_bind (keeps_commit fun swap held => ?_) fun _ =>
      keeps_bind (keeps_still (still_commit fun _ => rfl)) fun _ => keeps_pure _
    exact ⟨⟨held.1.1.rewrite held.2 rfl rfl, held.1.2⟩, _, rfl, rfl, rfl⟩

theorem still_partialRound (agreement : BtcAgreementV1) (sessions : LegSessions)
    (taker : LegPackets AdaptorPartialSignature) : Still slotView (partialRound agreement sessions taker) :=
  still_bind (still_acceptPeerPartial ignoresJournals _) fun _ =>
    still_bind (still_acceptPeerPartial ignoresJournals _) fun _ => still_pure _

theorem still_registerMakerActor (config : ActorConfig) : Still slotView (registerMakerActor config) := by
  refine still_bind still_read fun _ => ?_
  split
  · exact still_check _
  · exact still_commit fun _ => rfl

theorem keeps_activate (config : ActorConfig) :
    Keeps (OnView fun view => (before.Grown view ∧ view.Recorded record) ∧ view.sidecarRecord.isSome)
      (activate config) := by
  intro session held
  refine leaves_read_bind (leaves_check_bind held fun agreement bound => ?_)
  rw [present_ok_iff] at bound
  refine leaves_check_bind held fun _ _ => leaves_check_bind held fun _ _ =>
    leaves_check_bind held fun _ _ => ?_
  split
  · exact keeps_check _ session held
  · rename_i empty
    obtain ⟨⟨⟨sound, made, direction⟩, recorded⟩, sidecar⟩ := held
    refine leaves_commit ⟨⟨⟨sound, made, direction⟩, recorded⟩, sidecar⟩
      ⟨⟨⟨?_, ?_, direction⟩, recorded⟩, sidecar⟩
    · refine { sound with active := ?_, truthful := ?_ }
      · intro state found
        cases found
        exact ⟨bound, sidecar⟩
      · intro progress observed settled
        obtain ⟨state, found, -⟩ := sound.truthful progress observed settled
        cases empty.symm.trans found
    · intro state found
      cases empty.symm.trans (made state found)

theorem keeps_ceremonyPartial (request : BtcCeremonyPartialRequestV1) :
    Keeps (OnView before.Grown) (ceremonyPartial runtime draw request) := by
  intro session grown
  refine leaves_load_bind grown fun _ _ => leaves_read_bind (leaves_check_bind grown fun replayed _ => ?_)
  split
  · exact keeps_pure _ session grown
  · refine leaves_load_bind grown fun record loaded => ?_
    rw [present_ok_iff] at loaded
    have direction : some record.direction = before.record.map (·.direction) := by
      rw [← grown.direction]
      exact (congrArg (Option.map (·.direction)) loaded).symm
    refine mono (OnView fun view => before.Grown view ∧ view.Recorded record)
      (fun _ held => held.1) ?_
    refine keeps_bind (keeps_check _) (fun sessions => ?_) session ⟨grown, record, loaded, rfl, rfl⟩
    refine keeps_bind (keeps_still (still_load _)) fun agreement => ?_
    refine keeps_bind (keeps_still (still_partialRound _ _ _)) fun presignatures => ?_
    refine keeps_bind (keeps_check _) fun runId => ?_
    intro session held
    refine leaves_bind (keeps_ensureSidecar (fun view sidecar held =>
      ⟨⟨held.1.sound.sidecar sidecar, held.1.made, held.1.direction⟩, held.2⟩) session held)
      fun sidecar reached ran held => ?_
    refine mono (OnView fun view => (before.Grown view ∧ view.Recorded record) ∧
      view.sidecarRecord.isSome) (fun _ held => held.1) ?_
    refine keeps_bind (keeps_still still_read) (fun material => ?_) reached
      ⟨held, ensureSidecar_records _ _ _ _ _ ran⟩
    refine keeps_bind (keeps_check _) fun claim => keeps_bind (keeps_check _) fun transaction => ?_
    refine keeps_bind (keeps_still (still_synthesize ignoresBundle _ _)) fun config => ?_
    refine keeps_bind (keeps_activate config) fun _ => ?_
    refine keeps_bind (keeps_still (still_registerMakerActor config)) fun _ => ?_
    refine keeps_bind (keeps_commit fun swap held => ?_) fun _ =>
      keeps_bind (keeps_still (still_commit fun _ => rfl)) fun _ => keeps_pure _
    obtain ⟨⟨⟨sound, made, -⟩, recorded⟩, sidecar⟩ := held
    exact ⟨⟨⟨sound.rewrite recorded rfl rfl, made, direction⟩, _, rfl, rfl, rfl⟩, sidecar⟩

variable {negotiation : MakerBtcNegotiationV1}

theorem stageNegotiation_drafted (drafted : Drafted record negotiation.proposal) :
    Keeps (OnView fun view => view.Kept state ∧ view.record = some record)
      (stageNegotiation negotiation) := by
  intro session held
  refine leaves_read_bind ?_
  split
  · exact leaves_check_bind held fun _ _ => keeps_pure _ session held
  · refine leaves_check_bind held fun _ _ => ?_
    refine leaves_bind (leaves_commit held ?_) fun _ reached _ held => keeps_pure _ reached held
    obtain ⟨⟨sound, same⟩, recorded⟩ := held
    refine ⟨⟨{ sound with staged := ?_ }, same⟩, recorded⟩
    intro staged found
    cases found
    exact ⟨record, recorded, drafted⟩

theorem keeps_propose (request : BtcChatProposeRequestV2) :
    Keeps (OnView (SlotView.Kept state)) (propose runtime draw request) := by
  intro session kept
  refine leaves_check_bind kept fun _ _ => leaves_check_bind kept fun pair paired => ?_
  refine leaves_read_bind (leaves_check_bind kept fun _ known => ?_)
  refine leaves_check_bind kept fun lezUnits _ => leaves_check_bind kept fun _ matched => ?_
  refine leaves_load_bind kept fun record loaded => leaves_check_bind kept fun _ validated => ?_
  simp only [ContributionPair.new, checked_ok] at paired
  cases paired.2
  rw [ensure_ok_iff] at known matched
  rw [present_ok_iff] at loaded
  rw [mapError_ok_iff] at validated
  have drafted : Drafted record request.unsignedDraft := by
    obtain ⟨-, -, offered, direction, -⟩ := matched
    refine ⟨direction.trans (offered.symm.trans (kept.1.sameDirection record _ loaded known.2)), ?_⟩
    exact (validateDraft_ok validated).2.1.1
  refine mono (OnView fun view => view.Kept state ∧ view.record = some record)
    (fun _ held => held.1) ?_
  exact keeps_bind (stageNegotiation_drafted drafted) (fun _ => keeps_pure _) session ⟨kept, loaded⟩

theorem keeps_persistAndBind {agreement : BtcAgreementV1}
    (staged : agreement.body = negotiation.proposal) (peer : BtcRoleContributionV1) (acceptedAt : Nat) :
    Keeps (OnView fun view => view.Kept state ∧ view.negotiation = some negotiation)
      (persistAndBindCountersignedAgreement runtime.primitives peer agreement acceptedAt) := by
  refine keeps_bind (keeps_still still_read) fun _ => keeps_bind (keeps_check _) fun bound => ?_
  refine keeps_bind (keeps_still (still_onlyIf (still_commit fun _ => rfl))) fun _ => ?_
  refine keeps_bind (keeps_still (still_writePrivateExact fun _ => rfl)) fun _ => ?_
  refine keeps_bind (keeps_writePrivateExact fun swap held missing => ?_) fun _ => keeps_pure _
  obtain ⟨⟨sound, same⟩, held⟩ := held
  -- Nothing that rests on a bound agreement exists before it.
  refine ⟨⟨{ sound with bound := ?_, active := ?_, escrowed := ?_ }, same⟩, held⟩
  · intro bound found
    cases found
    obtain ⟨record, recorded, drafted⟩ := sound.staged negotiation held
    exact ⟨record, recorded, by rw [staged]; exact drafted⟩
  · intro made found
    have bound : swap.role.agreement = some made.agreement := (sound.active made found).1
    cases missing.symm.trans bound
  · intro escrow found
    obtain ⟨-, bound, found, -⟩ := sound.escrowed escrow found
    have bound : swap.role.agreement = some bound := found
    cases missing.symm.trans bound

theorem keeps_acceptNegotiation (request : BtcChatCompleteRequestV2) :
    Keeps (OnView fun view => view.Kept state ∧
      ∃ held, view.negotiation = some held ∧ held.proposal = negotiation.proposal)
      (acceptNegotiation request negotiation) := by
  refine keeps_bind (keeps_still still_read) fun _ => ?_
  split
  · exact keeps_bind (keeps_check _) fun _ => keeps_pure _
  · refine keeps_bind (keeps_check _) fun _ => keeps_bind (keeps_commit fun swap held => ?_) fun _ =>
      keeps_pure _
    obtain ⟨⟨sound, same⟩, held, found, proposal⟩ := held
    refine ⟨⟨{ sound with staged := ?_ }, same⟩, _, rfl, rfl⟩
    intro accepted replaced
    cases replaced
    obtain ⟨record, recorded, drafted⟩ := sound.staged held found
    exact ⟨record, recorded, by rw [← proposal]; exact drafted⟩

theorem keeps_complete (request : BtcChatCompleteRequestV2) :
    Keeps (OnView (SlotView.Kept state)) (complete runtime draw request) := by
  intro session kept
  refine leaves_read_bind (leaves_check_bind kept fun negotiation loaded => ?_)
  refine leaves_check_bind kept fun _ staged => leaves_check_bind kept fun _ _ => ?_
  rw [present_ok_iff] at loaded
  rw [ensure_ok_iff] at staged
  refine mono (OnView fun view => view.Kept state ∧
    ∃ held, view.negotiation = some held ∧ held.proposal = negotiation.proposal) (fun _ held => held.1) ?_
  refine bind (keeps_persistAndBind staged _ _ session ⟨kept, loaded⟩)
    (fun _ held => ⟨held.1, negotiation, held.2, rfl⟩) fun _ reached _ held => ?_
  exact keeps_bind (keeps_acceptNegotiation request) (fun _ => keeps_pure _) reached
    ⟨held.1, negotiation, held.2, rfl⟩

theorem create_keeps :
    Keeps (OnView fun view => view.Kept state ∧ view.record = none ∧ view.contribution = none) create := by
  have grows : ∀ count, Keeps (OnView fun view => view.Kept state ∧ view.record = none ∧
      view.contribution = none)
      (commit fun swap => { swap with directories := count + 1 } : MakerWork Unit) := by
    intro count
    refine keeps_commit fun swap held => ?_
    exact ⟨⟨{ held.1.1 with unmade := fun zero => nomatch zero }, held.1.2⟩, held.2⟩
  refine keeps_bind (keeps_still still_read) fun _ => keeps_bind (keeps_check _) fun _ => ?_
  exact keeps_bind (grows 0) fun _ => keeps_bind (grows 1) fun _ => keeps_bind (grows 2) fun _ =>
    keeps_bind (grows 3) fun _ => grows 4

theorem create_makes (session : Session MakerSwap) : Ends (fun _ swap => 0 < swap.directories) create session := by
  refine ends_read_bind (ends_check_bind fun _ _ => ?_)
  exact ends_commit_bind fun _ _ => ends_commit_bind fun _ _ => ends_commit_bind fun _ _ =>
    ends_commit_bind fun _ _ => ends_commit (Nat.succ_pos _)

theorem keeps_bootstrap {input : RoleBootstrapInput} {secrets : RoleSecrets} :
    Keeps (OnView (SlotView.Making input.preSessionId.direction state))
      (bootstrapRoleInProcess runtime.primitives input secrets) := by
  refine keeps_bind (keeps_still still_read) fun _ => keeps_bind (keeps_check _) fun _ => ?_
  refine keeps_bind (keeps_still (still_commit fun _ => rfl)) fun _ =>
    keeps_bind (keeps_still (still_commit fun _ => rfl)) fun _ =>
    keeps_bind (keeps_still (still_commit fun _ => rfl)) fun _ =>
    keeps_bind (keeps_still (still_commit fun _ => rfl)) fun _ => ?_
  refine keeps_bind (keeps_still (still_writeOptional _ fun _ _ => rfl)) fun _ =>
    keeps_bind (keeps_still (still_commit fun _ => rfl)) fun _ =>
    keeps_bind (keeps_still (still_writeOptional _ fun _ _ => rfl)) fun _ => ?_
  refine keeps_bind (keeps_commit fun swap making => ?_) fun _ =>
    keeps_bind (keeps_still (still_commit fun _ => rfl)) fun _ => keeps_pure _
  refine ⟨⟨{ making.kept.1 with unmade := ?_, sameDirection := ?_ }, making.kept.2⟩, making.made,
    making.unrecorded, ?_⟩
  · intro zero
    exact absurd zero (Nat.pos_iff_ne_zero.mp making.made)
  · intro record contribution recorded
    cases making.unrecorded.symm.trans recorded
  · intro contribution found
    cases found
    rfl

theorem making_sidecar (view : SlotView) (record : SidecarRecordV1) (making : view.Making direction state) :
    { view with sidecarRecord := some record }.Making direction state :=
  ⟨kept_sidecar view record making.kept, making.made, making.unrecorded, making.contributed⟩

theorem keeps_makerFacts (request : BtcReserveRequestV1) (runId : String) (pair : ContributionPair) :
    Keeps (OnView (SlotView.Making direction state)) (makerFacts runtime draw request runId pair) := by
  unfold makerFacts
  split
  · exact keeps_pure _
  · refine keeps_bind (keeps_check _) fun _ => ?_
    refine keeps_bind (keeps_still (still_writePrivateExact fun _ => rfl)) fun _ => ?_
    refine keeps_bind (keeps_ensureSidecar making_sidecar) fun _ => ?_
    refine keeps_bind (keeps_still (still_prepareClaim (fun _ _ => rfl) _)) fun _ => ?_
    exact keeps_bind (keeps_still (still_writePrivateExact fun _ => rfl)) fun _ => keeps_pure _

theorem keeps_reserve (request : BtcReserveRequestV1) (slotOwed : Bool) :
    Keeps (OnView (SlotView.Kept state)) (reserve runtime draw request slotOwed) := by
  intro session kept
  refine leaves_read_bind ?_
  split
  · refine leaves_check_bind kept fun replayed _ => ?_
    split
    · exact keeps_pure _ session kept
    · exact keeps_check _ session kept
  · rename_i absent
    refine leaves_check_bind kept fun runId _ => ?_
    obtain ⟨unrecorded, uncontributed⟩ := kept.1.unmade (Nat.eq_zero_of_not_pos absent)
    refine bind (create_keeps session ⟨kept, unrecorded, uncontributed⟩) (fun _ held => held.1)
      fun _ made ran held => ?_
    have making : OnView (SlotView.Making request.direction state) made.state := by
      refine ⟨held.1, create_makes _ _ _ ran, held.2.1, fun contribution found => ?_⟩
      cases held.2.2.symm.trans found
    refine bind (keeps_still (still_writePrivateExact fun _ => rfl) made making)
      (fun _ held => held.kept) fun _ written _ making => ?_
    refine bind (keeps_bootstrap written making) (fun _ held => held.kept)
      fun maker rooted _ making => leaves_check_bind making.kept fun pair _ => ?_
    refine bind (keeps_makerFacts request runId pair rooted making) (fun _ held => held.kept)
      fun facts prepared _ making => ?_
    refine leaves_bind (leaves_commit making.kept (making.record rfl)) fun _ recorded _ kept => ?_
    dsimp only
    refine keeps_bind (keeps_still (still_commit fun _ => ?_)) (fun _ => keeps_pure _) recorded kept
    rfl

theorem reserve_refused (request : BtcReserveRequestV1) (locksLez : request.direction = .takerSellsForeign)
    {swap : MakerSwap} (unrecorded : swap.own.record = none)
    (life : Option Nat) : ((reserve runtime draw request true).run life swap).2.own.record = none := by
  have left : Leaves (fun swap => swap.own.record = none) (reserve runtime draw request true)
      ⟨swap, life⟩ := by
    refine leaves_read_bind ?_
    split
    · refine leaves_check_bind unrecorded fun replayed _ => ?_
      split
      · exact unrecorded
      · exact unrecorded
    · refine leaves_check_bind unrecorded fun runId admitted => ?_
      simp only [admitReservation, checked_ok, locksLez, and_self, not_true_eq_false, false_and, and_false,
        exists_false] at admitted
  exact left

theorem keeps_prepareEscrow (answer : PreparedEscrow) :
    Keeps (OnView fun view => (view.Kept state ∧ view.Deposits) ∧ view.sidecarRecord.isSome)
      (prepareEscrow answer) := by
  refine keeps_bind (keeps_still still_read) fun _ => ?_
  split
  · exact keeps_bind (keeps_check _) fun _ => keeps_pure _
  · refine keeps_bind (keeps_commit fun swap held => ?_) fun _ => keeps_pure _
    obtain ⟨⟨⟨sound, same⟩, deposits⟩, sidecar⟩ := held
    refine ⟨⟨⟨{ sound with escrowed := fun _ _ => ⟨sidecar, deposits⟩ }, same⟩, deposits⟩, sidecar⟩

theorem keeps_prepareDueEscrow (id : RequestId) :
    Keeps (OnView fun view => view.Kept state ∧ view.Deposits) (prepareDueEscrow runtime draw id) := by
  refine keeps_bind (keeps_still (still_load _)) fun agreement => keeps_bind (keeps_check _) fun runId => ?_
  intro session held
  refine leaves_bind (keeps_ensureSidecar (fun view sidecar held =>
    ⟨kept_sidecar view sidecar held.1, held.2⟩) session held) fun sidecar reached ran held => ?_
  refine mono (OnView fun view => (view.Kept state ∧ view.Deposits) ∧ view.sidecarRecord.isSome)
    (fun _ held => held.1) ?_
  refine keeps_bind (keeps_prepareEscrow _) (fun escrow => ?_) reached
    ⟨held, ensureSidecar_records _ _ _ _ _ ran⟩
  exact keeps_bind (keeps_still (still_writePrivateExact fun _ => rfl)) fun _ =>
    keeps_still (still_writePrivateExact fun _ => rfl)

end Rounds

end Maker

end AtomicSwaps.Btc
