import AtomicSwaps.BtcSdk.Lifecycle
import AtomicSwaps.Core.Transitions
import AtomicSwaps.Transition.Run

namespace AtomicSwaps.BtcSdk

open AtomicSwaps.Core Fallible Transition ActiveBtcSwap BtcPairSdk SwapCoordinator
open Store.PublicEffect (Bytes)
open Store.MakerLock (ExpectedPublicEffectId ExactPublicEffectBytes)

variable {lib : Libraries} {active next start : ActiveBtcSwap lib} {transition : BtcLifecycleTransitionV1 lib}
variable {outcome : BtcLifecycleTransitionOutcomeV1} {sdk : BtcPairSdk}

section Applying

def ActiveBtcSwap.advanced (active : ActiveBtcSwap lib) (coordinator : SwapCoordinator)
    (transition : BtcLifecycleTransitionV1 lib) : ActiveBtcSwap lib :=
  { active with coordinator, transitions := active.transitions ++ [transition], revision := active.revision + 1 }

theorem applyTransition_fresh (fresh : transition ∉ active.transitions) :
    active.applyTransition transition = do
      ensure (active.revision < 4) (.unsupportedResumeRevision (active.revision + 1))
      let coordinator ← active.applyNewTransition transition
      return (.applied (active.revision + 1), active.advanced coordinator transition) := by
  have absent : active.transitions.findIdx? (· = transition) = none := by
    rw [List.findIdx?_eq_none_iff]
    intro existing member
    exact decide_eq_false fun same => fresh (same ▸ member)
  rw [applyTransition, absent]
  rfl

theorem applyTransition_ok (applied : active.applyTransition transition = .ok (outcome, next)) :
    (∃ index, active.transitions.findIdx? (· = transition) = some index ∧
      outcome = .alreadyApplied (index + 1) ∧ next = active) ∨
    (transition ∉ active.transitions ∧ active.revision < 4 ∧ outcome = .applied (active.revision + 1) ∧
      ∃ coordinator, active.applyNewTransition transition = .ok coordinator ∧
        next = active.advanced coordinator transition) := by
  by_cases known : transition ∈ active.transitions
  · left
    unfold applyTransition at applied
    split at applied
    · rename_i index found
      cases applied
      exact ⟨index, found, rfl, rfl⟩
    · rename_i absent
      have differs := List.findIdx?_eq_none_iff.mp absent transition known
      simp at differs
  · right
    rw [applyTransition_fresh known] at applied
    simp only [checked_ok, pure_ok, Prod.mk.injEq] at applied
    obtain ⟨room, coordinator, performed, rfl, rfl⟩ := applied
    exact ⟨known, room, rfl, coordinator, performed, rfl⟩

def Applies (active : ActiveBtcSwap lib) (transition : BtcLifecycleTransitionV1 lib) (next : ActiveBtcSwap lib) :
    Prop :=
  ∃ outcome, active.applyTransition transition = .ok (outcome, next)

theorem replayTransitions_append {earlier : List (BtcLifecycleTransitionV1 lib)} :
    replayTransitions start (earlier ++ [transition]) =
      (do
        let active ← replayTransitions start earlier
        let (_, next) ← active.applyTransition transition
        return next) := by
  induction earlier generalizing start with
  | nil =>
    simp only [List.nil_append, replayTransitions, ok_bind]
    rfl
  | cons first rest ih =>
    simp only [List.cons_append, replayTransitions, bind_assoc]
    congr 1
    funext ⟨_, next⟩
    exact ih

/-- What the live path keeps: it is the replay of its own log over the value it started from. -/
structure Replays (start active : ActiveBtcSwap lib) : Prop where
  accepted : active.accepted = start.accepted
  lockEffects : active.lockEffects = start.lockEffects
  preparedProtocol : active.preparedProtocol = start.preparedProtocol
  counted : active.revision = active.transitions.length
  bounded : active.revision ≤ 4
  replayed : replayTransitions start active.transitions = .ok active

theorem Replays.step (replays : Replays start active) (applied : Applies active transition next) :
    Replays start next := by
  obtain ⟨outcome, applied⟩ := applied
  rcases applyTransition_ok applied with ⟨_, _, _, rfl⟩ | ⟨_, room, _, coordinator, _, rfl⟩
  · exact replays
  · have again : replayTransitions start (active.transitions ++ [transition]) =
        .ok (active.advanced coordinator transition) := by
      rw [replayTransitions_append, replays.replayed, ok_bind, applied]
      rfl
    exact
      { accepted := replays.accepted
        lockEffects := replays.lockEffects
        preparedProtocol := replays.preparedProtocol
        counted := by simp [advanced, replays.counted]
        bounded := Nat.succ_le_of_lt room
        replayed := again }

theorem Replays.run {history : List (BtcLifecycleTransitionV1 lib)} (revision : start.revision = 0)
    (unused : start.transitions = []) (run : Run Applies start history active) : Replays start active := by
  refine run.invariant ?_ fun _ _ _ replays applied => replays.step applied
  constructor <;> simp [revision, unused, replayTransitions]

end Applying

section Restart

variable {accepted : AcceptedBtcAgreementV1 lib} {history : List (BtcLifecycleTransitionV1 lib)}
  {lockEffects : BtcPreparedLockEffectsV1 lib} {prepared : BtcPreparedProtocolV1 lib}

theorem activate_ok (activated : sdk.activate accepted lockEffects = .ok active) :
    accepted.localParticipant = sdk.localParticipant ∧ lockEffects.validate accepted.agreement = .ok () ∧
      active = ⟨accepted, lockEffects, accepted.agreement.coordinator, 0, none, []⟩ := by
  simp only [activate, ensureLocalParticipant, checked_ok, pure_ok] at activated
  exact ⟨activated.1, activated.2.1, activated.2.2.symm⟩

theorem activatePrepared_ok (activated : sdk.activatePrepared accepted prepared = .ok active) :
    accepted.localParticipant = sdk.localParticipant ∧ prepared.agreement = accepted.agreement ∧
      prepared.agreement.bitcoinChainPolicy = sdk.bitcoinPolicy ∧
      active = ⟨accepted, prepared.terms.lockEffects, accepted.agreement.coordinator, 0, some prepared, []⟩ := by
  simp only [activatePrepared, ensureLocalParticipant, ensureBitcoinPolicy,
    checked_ok, pure_ok] at activated
  obtain ⟨role, same, policy, _, _, _, rfl⟩ := activated
  exact ⟨role, same, policy, rfl⟩

theorem acceptWire_wire (role : accepted.localParticipant = sdk.localParticipant) :
    sdk.acceptWire accepted.wire = .ok accepted ↔ accepted.agreement.bitcoinChainPolicy = sdk.bitcoinPolicy := by
  obtain ⟨agreement, wire, participant, decoded⟩ := accepted
  dsimp only at role ⊢
  subst role
  unfold acceptWire
  split
  · rename_i failed
    rw [decoded] at failed
    cases failed
  · rename_i other decodedOther
    cases decoded.symm.trans decodedOther
    have valid := agreement.validPolicy
    simp only [ensureBitcoinPolicy, checked_ok, pure, Except.pure, and_true]
    constructor
    · exact And.right
    · intro policy
      exact ⟨policy ▸ valid, policy⟩

theorem acceptWire_ok {wire : Bytes} (ok : sdk.acceptWire wire = .ok accepted) :
    accepted.wire = wire ∧ accepted.localParticipant = sdk.localParticipant ∧
      accepted.agreement.bitcoinChainPolicy = sdk.bitcoinPolicy := by
  unfold acceptWire at ok
  split at ok
  · cases ok
  · simp only [ensureBitcoinPolicy, checked_ok, pure_ok] at ok
    obtain ⟨_, policy, rfl⟩ := ok
    exact ⟨rfl, rfl, policy⟩

def BtcPairSdk.Starts (sdk : BtcPairSdk) (active : ActiveBtcSwap lib) : Prop :=
  (∃ accepted lockEffects, sdk.activate accepted lockEffects = .ok active) ∨
    ∃ accepted prepared, sdk.activatePrepared accepted prepared = .ok active

def BtcPairSdk.Reachable (sdk : BtcPairSdk) (active : ActiveBtcSwap lib) : Prop :=
  ∃ start history, sdk.Starts start ∧ Run Applies start history active

def BtcPairSdk.Recoverable (sdk : BtcPairSdk) (active : ActiveBtcSwap lib) : Prop :=
  active.preparedProtocol.isSome ∨
    active.transitions = [] ∧ active.agreement.bitcoinChainPolicy = sdk.bitcoinPolicy

instance (sdk : BtcPairSdk) (active : ActiveBtcSwap lib) : Decidable (sdk.Recoverable active) :=
  inferInstanceAs (Decidable (_ ∨ _))

theorem resume_prepared
    (activated : sdk.activatePrepared accepted prepared = .ok start) (replays : Replays start active) :
    sdk.resume active.durableEnvelope = .ok active := by
  obtain ⟨role, same, policy, rfl⟩ := activatePrepared_ok activated
  have again : sdk.acceptWire accepted.wire = .ok accepted := (acceptWire_wire role).mpr (same ▸ policy)
  simp only [resume, durableEnvelope, replays.accepted, replays.lockEffects,
    replays.preparedProtocol, ensureLocalParticipant, ensure_ok replays.bounded,
    ensure_ok replays.counted, ensure_ok role, again, activated, ok_bind]
  rw [ensure_ok trivial, ok_bind]
  exact replays.replayed

theorem resume_unprepared
    (activated : sdk.activate accepted lockEffects = .ok start) (replays : Replays start active) :
    sdk.resume active.durableEnvelope = .ok active ↔
      active.transitions = [] ∧ active.agreement.bitcoinChainPolicy = sdk.bitcoinPolicy := by
  obtain ⟨role, valid, rfl⟩ := activate_ok activated
  have agreed : active.agreement = accepted.agreement := congrArg (·.agreement) replays.accepted
  have empty : active.revision = 0 ↔ active.transitions = [] := by
    rw [replays.counted, List.length_eq_zero_iff]
  rw [agreed, ← empty]
  constructor
  · intro resumed
    simp only [resume, durableEnvelope, replays.accepted, replays.preparedProtocol,
      checked_ok] at resumed
    obtain ⟨_, _, _, again, accepts, opens⟩ := resumed
    obtain ⟨wire, _, policy⟩ := acceptWire_ok accepts
    have same : again.agreement = accepted.agreement :=
      Option.some.inj (again.decoded.symm.trans (wire ▸ accepted.decoded))
    split at opens
    · exact ⟨by assumption, same ▸ policy⟩
    · cases opens
  · rintro ⟨zero, policy⟩
    have again : sdk.acceptWire accepted.wire = .ok accepted := (acceptWire_wire role).mpr policy
    simp only [resume, durableEnvelope, replays.accepted, replays.lockEffects,
      replays.preparedProtocol, ensureLocalParticipant, ensure_ok replays.bounded,
      ensure_ok replays.counted, ensure_ok role, again, ok_bind, if_pos zero, activated]
    rw [ensure_ok trivial, ok_bind]
    exact replays.replayed

theorem starts_zero (starts : sdk.Starts start) : start.revision = 0 ∧ start.transitions = [] := by
  rcases starts with ⟨_, _, activated⟩ | ⟨_, _, activated⟩
  · obtain ⟨_, _, rfl⟩ := activate_ok activated
    exact ⟨rfl, rfl⟩
  · obtain ⟨_, _, _, rfl⟩ := activatePrepared_ok activated
    exact ⟨rfl, rfl⟩

/-- A restart gives back exactly the live value, for the values that hold what it asks for. -/
theorem restart_lossless (sdk : BtcPairSdk) (active : ActiveBtcSwap lib) (reachable : sdk.Reachable active) :
    sdk.resume active.durableEnvelope = .ok active ↔ sdk.Recoverable active := by
  obtain ⟨start, history, starts, run⟩ := reachable
  obtain ⟨zero, unused⟩ := starts_zero starts
  have replays := Replays.run zero unused run
  rcases starts with ⟨_, _, activated⟩ | ⟨_, _, activated⟩
  · have resumes := resume_unprepared activated replays
    obtain ⟨_, _, rfl⟩ := activate_ok activated
    rw [resumes, BtcPairSdk.Recoverable, replays.preparedProtocol]
    simp
  · have resumes := resume_prepared activated replays
    obtain ⟨_, _, _, rfl⟩ := activatePrepared_ok activated
    exact iff_of_true resumes (.inl (by rw [replays.preparedProtocol]; rfl))

/-- A swap whose taker sells LEZ, over libraries that know one funding and one claim transaction. -/
def sampleAgreement : BtcAgreementV1 where
  agreementCommitment := 1
  swapId := ⟨"btc-swap", by decide +kernel⟩
  direction := .takerSellsLez
  bitcoinChainPolicy := ⟨1, 1⟩
  funding := ⟨7, 0, 5⟩
  scriptPubkey := [2]
  lezTerms := ⟨3, 4, 5, 6⟩
  recoverySchedule := ⟨.deadline ⟨.bitcoin, .blockHeight, 10⟩, ⟨.lez, .timestamp, 20⟩,
    some ⟨.bitcoin, .lez, 10, 20, 5, by decide, by decide, by decide⟩⟩
  claimSequence := 0
  claimOutput := []
  validPolicy := by decide +kernel
  realOutpoint := by decide +kernel

def sampleFunding : Transaction := ⟨2, 0, [⟨(1, 0), [], 0, [[0]]⟩], [⟨5, [2]⟩]⟩

def sampleSignature : Signature := ⟨List.replicate 64 1, List.length_replicate⟩

def sampleLib : Libraries where
  Record := Unit
  decodeRecord _ := some ()
  validateRecord _ := some sampleAgreement
  deserialize bytes :=
    if bytes = [0] then some sampleFunding
    else if bytes.length = 64 then some (sampleAgreement.cooperativeClaim [bytes]) else none
  serialize transaction := transaction.input.flatMap (·.witness.flatten)
  computeTxid transaction := if transaction = sampleFunding then 7 else 9
  txidText _ := List.replicate 64 0x61
  sha256 := id
  verifiedPresignature _ _ _ := true
  checkedAdaptorSecret _ secret := secret = 5
  adapt _ _ _ secret := if secret = 5 then some sampleSignature else none
  revealSecret _ _ _ _ := some 5
  verifyFinal _ _ _ := true
  verifyKeyPath _ _ := true
  finalizeRefund _ _ := some sampleFunding

def sampleId (byte : UInt8) (length : Nat)
    (valid : List.replicate length byte ≠ [] ∧ (List.replicate length byte).length ≤ 512 ∧
      (List.replicate length byte).all Store.PublicEffect.isAsciiGraphic = true) : ExpectedPublicEffectId :=
  ⟨List.replicate length byte, valid⟩

def sampleLez (fundingPublicId : ExpectedPublicEffectId)
    (distinct : sampleId 0x69 1 (by decide +kernel) ≠ fundingPublicId) : PreparedLezFundingV1 :=
  ⟨sampleId 0x69 1 (by decide +kernel), ⟨[1], by decide +kernel⟩, fundingPublicId, ⟨[2], by decide +kernel⟩, distinct⟩

def sampleLocks (lez : PreparedLezFundingV1) : BtcPreparedLockEffectsV1 sampleLib :=
  ⟨⟨sampleFunding, sampleId 0x61 64 (by decide +kernel), ⟨[0], by decide +kernel⟩, by rfl, by rfl⟩, lez⟩

def sampleFundingId : ExpectedPublicEffectId := sampleId 0x66 1 (by decide +kernel)

def sampleAccepted : AcceptedBtcAgreementV1 sampleLib := ⟨sampleAgreement, [], .taker, rfl⟩

def sampleSdk : BtcPairSdk := ⟨.taker, sampleAgreement.bitcoinChainPolicy⟩

def sampleFirstLock (lez : PreparedLezFundingV1) : BtcLifecycleTransitionV1 sampleLib :=
  .firstLockConfirmed (.lez ⟨3, lez.initializationPublicId, lez.exactInitialization, lez.fundingPublicId,
    lez.exactFunding, 4, 5, 6, true⟩)

theorem run_of_replay
    (replayed : replayTransitions start history = .ok active) : Run Applies start history active := by
  induction history generalizing start with
  | nil =>
    cases replayed
    exact .nil
  | cons transition rest ih =>
    simp only [replayTransitions, bind_ok_iff, Prod.exists] at replayed
    obtain ⟨outcome, next, applied, later⟩ := replayed
    exact .cons ⟨outcome, applied⟩ (ih later)

theorem reachable_of_replay {opened : Result (ActiveBtcSwap lib)}
    (starts : ∀ start, opened = .ok start → sdk.Starts start)
    (computed : (opened >>= fun start => replayTransitions start history) = .ok active) : sdk.Reachable active := by
  obtain ⟨start, opens, replayed⟩ := bind_ok_iff.mp computed
  exact ⟨start, history, starts start opens, run_of_replay replayed⟩

def sampleLezFunding : PreparedLezFundingV1 := sampleLez sampleFundingId (by decide +kernel)

def sampleUnprepared : Result (ActiveBtcSwap sampleLib) :=
  sampleSdk.activate sampleAccepted (sampleLocks sampleLezFunding) >>= fun start =>
    replayTransitions start [sampleFirstLock sampleLezFunding]

theorem sampleUnprepared_some : sampleUnprepared.toOption.isSome := by decide

/-- The lock-only value after its first lock: the lock is accepted without any preparation, and the
    restart then asks for it. -/
theorem restart_without_preparation :
    ∃ active : ActiveBtcSwap sampleLib, sampleSdk.Reachable active ∧ active.coordinator.phase = .takerLockConfirmed ∧
      sampleSdk.resume active.durableEnvelope = .error .missingLifecyclePreparation := by
  refine ⟨_, reachable_of_replay (fun _ opens => .inl ⟨_, _, opens⟩) (ok_get sampleUnprepared_some), ?_, ?_⟩
  · decide
  · apply error_of_raised
    decide

def sampleClaims (publicId : ExpectedPublicEffectId) : BtcPreparedClaimEffectsV1 :=
  let presignature := ⟨List.replicate 65 0, List.length_replicate⟩
  ⟨1, presignature, presignature, publicId, ⟨List.replicate 64 0, by decide +kernel⟩, 0, by decide +kernel⟩

theorem sampleRefund_some :
    (PreparedBitcoinRefundV1.new sampleLib sampleAgreement sampleSignature).toOption.isSome := by
  decide +kernel

def sampleRecovery : BtcPreparedRecoveryEffectsV1 :=
  ⟨(PreparedBitcoinRefundV1.new sampleLib sampleAgreement sampleSignature).toOption.get sampleRefund_some,
    ⟨1, sampleFundingId, ⟨[3], by decide +kernel⟩⟩⟩

def sampleTerms (lez : PreparedLezFundingV1) (publicId : ExpectedPublicEffectId) : BtcProtocolTermsV1 sampleLib :=
  ⟨(), sampleLocks lez, some (sampleClaims publicId), some sampleRecovery⟩

def samplePrepared (lez : PreparedLezFundingV1) (publicId : ExpectedPublicEffectId)
    (history : List (BtcLifecycleTransitionV1 sampleLib)) : Result (ActiveBtcSwap sampleLib) :=
  (do
    let terms ← sampleSdk.validateTerms (sampleTerms lez publicId)
    let prepared ← prepare terms
    sampleSdk.activatePrepared sampleAccepted prepared) >>= fun start => replayTransitions start history

theorem samplePrepared_starts {lez : PreparedLezFundingV1} {publicId : ExpectedPublicEffectId}
    {start : ActiveBtcSwap sampleLib}
    (opens : (do
      let terms ← sampleSdk.validateTerms (sampleTerms lez publicId)
      let prepared ← prepare terms
      sampleSdk.activatePrepared sampleAccepted prepared) = .ok start) :
    ∃ accepted prepared, sampleSdk.activatePrepared accepted prepared = .ok start := by
  simp only [bind_ok_iff] at opens
  obtain ⟨_, _, prepared, _, activated⟩ := opens
  exact ⟨_, prepared, activated⟩

theorem samplePrepared_run {lez : PreparedLezFundingV1} {publicId : ExpectedPublicEffectId}
    {history : List (BtcLifecycleTransitionV1 sampleLib)} {active : ActiveBtcSwap sampleLib}
    (made : samplePrepared lez publicId history = .ok active) :
    ∃ accepted prepared start, sampleSdk.activatePrepared accepted prepared = .ok start ∧
      Run Applies start history active := by
  obtain ⟨start, opens, replayed⟩ := bind_ok_iff.mp made
  obtain ⟨accepted, prepared, activated⟩ := samplePrepared_starts opens
  exact ⟨accepted, prepared, start, activated, run_of_replay replayed⟩

theorem sampleShort_some : (samplePrepared sampleLezFunding sampleFundingId []).toOption.isSome := by decide +kernel

theorem sampleLocked_some :
    (samplePrepared sampleLezFunding sampleFundingId [sampleFirstLock sampleLezFunding]).toOption.isSome := by
  decide +kernel

theorem restart_lossless_sample :
    ∃ active : ActiveBtcSwap sampleLib, active.revision = 1 ∧
      sampleSdk.resume active.durableEnvelope = .ok active := by
  refine ⟨(samplePrepared sampleLezFunding sampleFundingId [sampleFirstLock sampleLezFunding]).toOption.get
    sampleLocked_some, by decide +kernel, ?_⟩
  apply (restart_lossless sampleSdk _ _).mpr
  · decide +kernel
  · exact reachable_of_replay (fun _ opens => .inr (samplePrepared_starts opens)) (ok_get sampleLocked_some)

end Restart

section Shapes

variable {participant : Participant}

inductive Entry
  | firstLock | secondLock | revealingClaim | followupClaim | makerRefund | takerRefund
deriving DecidableEq

/-- A recovery entry is the taker's refund once the taker leg is refunded, and the maker's before. -/
def entryOf (agreement : BtcAgreementV1) : BtcLifecycleTransitionV1 lib → Entry
  | .firstLockConfirmed _ => .firstLock
  | .secondLockConfirmed _ => .secondLock
  | .revealingClaimConfirmed _ => .revealingClaim
  | .followupClaimConfirmed _ => .followupClaim
  | .recoveryObserved state =>
    if recoveryStatus state (agreement.coordinator.fundedChain .taker) = .refunded then .takerRefund else .makerRefund

def ActiveBtcSwap.entries (active : ActiveBtcSwap lib) : List Entry :=
  active.transitions.map (entryOf active.agreement)

def legalLogs : List (List Entry) :=
  [[.firstLock, .secondLock, .revealingClaim, .followupClaim],
    [.firstLock, .secondLock, .makerRefund, .takerRefund], [.firstLock, .takerRefund]]

def logPhases : List (List Entry × Phase) :=
  [([], .offered), ([.firstLock], .takerLockConfirmed), ([.firstLock, .secondLock], .bothLegsLocked),
    ([.firstLock, .secondLock, .revealingClaim], .claimEvidenceAvailable),
    ([.firstLock, .secondLock, .revealingClaim, .followupClaim], .completed),
    ([.firstLock, .secondLock, .makerRefund], .makerLegRefunded),
    ([.firstLock, .secondLock, .makerRefund, .takerRefund], .refunded), ([.firstLock, .takerRefund], .refunded)]

inductive Advances (coordinator : SwapCoordinator) : Entry → SwapCoordinator → Prop
  | firstLock (id : Identifier) (phase : coordinator.phase = .offered) :
      Advances coordinator .firstLock { coordinator with
        takerLockTransactionId := some id, takerFundingConfirmed := true, phase := .takerLockConfirmed }
  | secondLock (id : Identifier) (phase : coordinator.phase = .takerLockConfirmed) :
      Advances coordinator .secondLock { coordinator with
        makerLockTransactionId := some id, makerFundingConfirmed := true, phase := .bothLegsLocked }
  | revealingClaim (id : Identifier) (evidence : ClaimEvidence) (phase : coordinator.phase = .bothLegsLocked) :
      Advances coordinator .revealingClaim { coordinator with
        revealingClaimTransactionId := some id, claimEvidence := some evidence, phase := .claimEvidenceAvailable }
  | followupClaim (id : Identifier) (phase : coordinator.phase = .claimEvidenceAvailable) :
      Advances coordinator .followupClaim { coordinator with
        followupClaimTransactionId := some id, phase := .completed }
  | makerRefund (phase : coordinator.phase = .bothLegsLocked) :
      Advances coordinator .makerRefund { coordinator with phase := .makerLegRefunded }
  | takerRefund (phase : coordinator.phase = .takerLockConfirmed ∨ coordinator.phase = .makerLegRefunded) :
      Advances coordinator .takerRefund { coordinator with phase := .refunded }

def SameTerms (left right : SwapCoordinator) : Prop :=
  left.pair = right.pair ∧ left.direction = right.direction ∧
    left.confirmationPolicy = right.confirmationPolicy ∧
    left.makerConfirmationPolicy = right.makerConfirmationPolicy

variable {coordinator after : SwapCoordinator} {agreement : BtcAgreementV1} {entry : Entry}

theorem Advances.sameTerms (advances : Advances coordinator entry after) : SameTerms after coordinator := by
  cases advances <;> exact ⟨rfl, rfl, rfl, rfl⟩

theorem fundedChain_of_sameTerms (same : SameTerms coordinator agreement.coordinator) (participant : Participant) :
    coordinator.fundedChain participant = agreement.coordinator.fundedChain participant := by
  cases participant <;> simp only [fundedChain, same.1, same.2.1]

theorem requiredConfirmations_of_sameTerms (same : SameTerms coordinator agreement.coordinator)
    (participant : Participant) :
    coordinator.requiredConfirmations participant = agreement.coordinator.requiredConfirmations participant := by
  cases participant <;> simp only [requiredConfirmations, same.2.2.1, same.2.2.2]

theorem required_of_bitcoin (funds : agreement.coordinator.fundedChain participant = .bitcoin) :
    agreement.coordinator.requiredConfirmations participant = agreement.bitcoinChainPolicy.requiredConfirmations := by
  unfold BtcAgreementV1.coordinator at funds ⊢
  cases direction : agreement.direction <;> cases participant <;> rw [direction] at funds <;>
    first
    | rfl
    | cases funds

theorem chainProof_ok {id : Bytes} {confirmations : Nat} {proof : ChainProof}
    (proves : chainProof id confirmations = .ok proof) : proof.confirmations = confirmations := by
  simp only [chainProof, bind_ok_iff, pure_ok] at proves
  obtain ⟨_, _, rfl⟩ := proves
  rfl

theorem applyLock_ok {phase : Phase} {evidence : BtcFirstLockEvidenceV1 lib}
    (same : SameTerms active.coordinator active.agreement.coordinator)
    (applied : active.applyLock phase participant evidence = .ok after) :
    active.coordinator.phase = phase ∧ ∃ proof : ChainProof,
      active.coordinator.requiredConfirmations participant ≤ proof.confirmations ∧
      active.coordinator.observeFunding participant proof = .ok after := by
  simp only [applyLock, requirePhase, checked_ok, mapError_ok_iff] at applied
  obtain ⟨waits, valid, proof, proves, observed⟩ := applied
  refine ⟨waits, proof, ?_, observed⟩
  cases evidence with
  | lez funding => exact Nat.le_of_eq (chainProof_ok proves).symm
  | bitcoin funding =>
    rw [chainProof_ok proves]
    unfold validateLockForParticipant at valid
    split at valid
    · rename_i funds isBitcoin
      cases isBitcoin
      rw [requiredConfirmations_of_sameTerms same, required_of_bitcoin funds]
      simp only [validateBitcoinFirstLock, checked_ok] at valid
      obtain ⟨_, _, _, _, _, _, deep⟩ := valid
      exact deep
    · rename_i isLez
      cases isLez
    · cases valid

theorem applyRecoveryTransition_ok {prepared : BtcPreparedProtocolV1 lib} {state : BtcCanonicalRecoveryStateV1}
    (applied : applyRecoveryTransition coordinator prepared state = .ok after) :
    (recoveryStatus state (coordinator.fundedChain .taker) = .refunded ∧
      (coordinator.phase = .takerLockConfirmed ∨ coordinator.phase = .makerLegRefunded) ∧
      after = { coordinator with phase := .refunded }) ∨
    (recoveryStatus state (coordinator.fundedChain .taker) ≠ .refunded ∧ coordinator.phase = .bothLegsLocked ∧
      after = { coordinator with phase := .makerLegRefunded }) := by
  simp only [applyRecoveryTransition, checked_ok] at applied
  obtain ⟨_, applied⟩ := applied
  split at applied
  · rename_i phase _ taker
    obtain ⟨_, ⟨_, rfl⟩ | ⟨other, _⟩⟩ := refundTakerLeg_ok (mapError_ok_iff.mp applied)
    · exact .inl ⟨taker, .inl phase, rfl⟩
    · simp [phase] at other
  · rename_i phase _ taker
    obtain ⟨_, ⟨_, rfl⟩ | ⟨other, _⟩⟩ := refundTakerLeg_ok (mapError_ok_iff.mp applied)
    · exact .inl ⟨taker, .inr phase, rfl⟩
    · simp [phase] at other
  · rename_i phase _ taker
    obtain ⟨_, _, rfl⟩ := refundMakerLeg_ok (mapError_ok_iff.mp applied)
    exact .inr ⟨by simp [taker], phase, by simp [phase]⟩
  · cases applied

theorem applyNewTransition_advances (same : SameTerms active.coordinator active.agreement.coordinator)
    (applied : active.applyNewTransition transition = .ok after) :
    Advances active.coordinator (entryOf active.agreement transition) after := by
  cases transition with
  | firstLockConfirmed evidence =>
    obtain ⟨phase, proof, deep, observed⟩ := applyLock_ok same applied
    obtain ⟨terminal, _⟩ | ⟨_, rfl⟩ := observeTakerLock_ok observed
    · simp [phase] at terminal
    · have confirmed : active.coordinator.confirmationPolicy.required ≤ proof.confirmations := deep
      simpa [confirmed, phase, takerLockPhase, entryOf] using
        Advances.firstLock proof.transactionId phase
  | secondLockConfirmed evidence =>
    obtain ⟨phase, proof, deep, observed⟩ := applyLock_ok same applied
    have confirmed : active.coordinator.makerConfirmationPolicy.required ≤ proof.confirmations := deep
    obtain ⟨other, _⟩ | ⟨_, rfl⟩ | ⟨_, _, other⟩ := observeMakerLock_ok observed
    · simp [phase] at other
    · simpa [confirmed, entryOf] using Advances.secondLock proof.transactionId phase
    · simp [phase] at other
  | revealingClaimConfirmed evidence =>
    simp only [applyNewTransition, requirePhase, checked_ok, mapError_ok_iff] at applied
    obtain ⟨phase, _, _, _, _, proof, _, observed⟩ := applied
    obtain ⟨_, ⟨⟨late, _⟩, _⟩ | ⟨_, rfl⟩⟩ := observeRevealingClaim_ok observed
    · exact absurd phase late
    · exact .revealingClaim _ _ phase
  | followupClaimConfirmed evidence =>
    simp only [applyNewTransition, requirePhase, checked_ok, mapError_ok_iff] at applied
    obtain ⟨phase, _, _, _, _, _, _, _, _, _, proof, _, observed⟩ := applied
    obtain ⟨_, ⟨⟨other, _⟩, _⟩ | ⟨_, rfl⟩⟩ := observeFollowupClaim_ok observed
    · exact absurd phase other
    · exact .followupClaim _ phase
  | recoveryObserved state =>
    simp only [applyNewTransition, bind_ok_iff] at applied
    obtain ⟨prepared, _, applied⟩ := applied
    rcases applyRecoveryTransition_ok applied with ⟨taker, phase, rfl⟩ | ⟨taker, phase, rfl⟩ <;>
      rw [fundedChain_of_sameTerms same] at taker
    · rw [entryOf, if_pos taker]
      exact .takerRefund phase
    · rw [entryOf, if_neg taker]
      exact .makerRefund phase

variable {entries : List Entry}

theorem Advances.logPhases (known : (entries, coordinator.phase) ∈ logPhases)
    (advances : Advances coordinator entry after) : (entries ++ [entry], after.phase) ∈ logPhases := by
  have table : ∀ log ∈ BtcSdk.logPhases, log.2 = coordinator.phase → log.1 = entries →
      (entries ++ [entry], after.phase) ∈ BtcSdk.logPhases := by
    cases advances <;> rename_i phase <;> (try rcases phase with phase | phase) <;> rw [phase] <;>
      simp only [BtcSdk.logPhases, List.forall_mem_cons] <;> simp <;> rintro rfl <;> simp
  exact table _ known rfl rfl

/-- The coordinator is the one the entries of the log lead to, from the agreement's own. -/
structure Follows (active : ActiveBtcSwap lib) : Prop where
  counted : active.revision = active.transitions.length
  path : Run Advances active.agreement.coordinator active.entries active.coordinator

theorem fresh_phase (agreement : BtcAgreementV1) : agreement.coordinator.phase = .offered := by
  unfold BtcAgreementV1.coordinator
  split <;> rfl

theorem path_sameTerms (path : Run Advances agreement.coordinator entries coordinator) :
    SameTerms coordinator agreement.coordinator := by
  induction path with
  | nil => exact ⟨rfl, rfl, rfl, rfl⟩
  | snoc _ advances before =>
    have terms := advances.sameTerms
    exact ⟨terms.1.trans before.1, terms.2.1.trans before.2.1, terms.2.2.1.trans before.2.2.1,
      terms.2.2.2.trans before.2.2.2⟩

theorem path_phase (path : Run Advances agreement.coordinator entries coordinator) :
    (entries, coordinator.phase) ∈ logPhases := by
  induction path with
  | nil =>
    rw [fresh_phase]
    exact List.mem_cons_self
  | snoc _ advances known => exact advances.logPhases known

theorem Follows.sameTerms (follows : Follows active) :
    SameTerms active.coordinator active.agreement.coordinator := path_sameTerms follows.path

theorem Follows.phase (follows : Follows active) : (active.entries, active.coordinator.phase) ∈ logPhases :=
  path_phase follows.path

theorem Follows.step (follows : Follows active) (applied : Applies active transition next) : Follows next := by
  obtain ⟨outcome, applied⟩ := applied
  rcases applyTransition_ok applied with ⟨_, _, _, rfl⟩ | ⟨_, _, _, coordinator, performed, rfl⟩
  · exact follows
  · have longer := Run.snoc follows.path (applyNewTransition_advances follows.sameTerms performed)
    rw [entries, ← List.map_singleton (f := entryOf active.agreement), ← List.map_append] at longer
    exact ⟨by simp [advanced, follows.counted], longer⟩

theorem Follows.run {history : List (BtcLifecycleTransitionV1 lib)} (starts : sdk.Starts start)
    (run : Run Applies start history active) : Follows active := by
  refine run.invariant ?_ fun _ _ _ follows applied => follows.step applied
  rcases starts with ⟨_, _, activated⟩ | ⟨_, _, activated⟩
  · obtain ⟨_, _, rfl⟩ := activate_ok activated
    exact ⟨rfl, .nil⟩
  · obtain ⟨_, _, _, rfl⟩ := activatePrepared_ok activated
    exact ⟨rfl, .nil⟩

def Entry.isClaim : Entry → Bool
  | .revealingClaim | .followupClaim => true
  | _ => false

def Entry.isRecovery : Entry → Bool
  | .makerRefund | .takerRefund => true
  | _ => false

structure LegalLog (active : ActiveBtcSwap lib) : Prop where
  counted : active.revision = active.transitions.length
  bounded : active.revision ≤ 4
  shaped : ∃ log ∈ legalLogs, active.entries <+: log
  phase : logPhases.lookup active.entries = some active.coordinator.phase
  separate : ¬(active.entries.any Entry.isClaim ∧ active.entries.any Entry.isRecovery)

theorem Follows.legal (follows : Follows active) : LegalLog active := by
  have table : ∀ log ∈ logPhases, log.1.length ≤ 4 ∧ (∃ legal ∈ legalLogs, log.1 <+: legal) ∧
      logPhases.lookup log.1 = some log.2 ∧ ¬(log.1.any Entry.isClaim ∧ log.1.any Entry.isRecovery) := by
    decide
  obtain ⟨short, shaped, phase, separate⟩ := table _ follows.phase
  rw [entries, List.length_map] at short
  exact ⟨follows.counted, follows.counted ▸ short, shaped, phase, separate⟩

/-- The value a caller holds after a call, which works on a copy until it succeeds. -/
def ActiveBtcSwap.afterCall (active : ActiveBtcSwap lib) (transition : BtcLifecycleTransitionV1 lib) :
    ActiveBtcSwap lib :=
  match active.applyTransition transition with
  | .ok (_, next) => next
  | .error _ => active

def Answers (active : ActiveBtcSwap lib) (transition : BtcLifecycleTransitionV1 lib) : Prop :=
  match active.applyTransition transition with
  | .ok (.applied revision, next) =>
    revision = active.revision + 1 ∧ next.revision = revision ∧
      next.transitions = active.transitions ++ [transition] ∧ next.accepted = active.accepted ∧
      next.lockEffects = active.lockEffects ∧ next.preparedProtocol = active.preparedProtocol
  | .ok (.alreadyApplied revision, next) =>
    next = active ∧ 0 < revision ∧ active.transitions[revision - 1]? = some transition ∧
      transition ∉ active.transitions.take (revision - 1)
  | .error _ => active.afterCall transition = active

theorem answers (active : ActiveBtcSwap lib) (transition : BtcLifecycleTransitionV1 lib) :
    Answers active transition := by
  unfold Answers
  split
  · rename_i revision next applied
    rcases applyTransition_ok applied with ⟨_, _, other, _⟩ | ⟨_, _, same, coordinator, _, rfl⟩
    · cases other
    · cases same
      exact ⟨rfl, rfl, rfl, rfl, rfl, rfl⟩
  · rename_i revision next applied
    rcases applyTransition_ok applied with ⟨index, found, same, rfl⟩ | ⟨_, _, other, _⟩
    · cases same
      obtain ⟨inside, equal, first⟩ := List.findIdx?_eq_some_iff_getElem.mp found
      simp only [Nat.add_sub_cancel]
      refine ⟨trivial, Nat.succ_pos index, ?_, ?_⟩
      · rw [List.getElem?_eq_getElem inside, of_decide_eq_true equal]
      · intro earlier
        obtain ⟨position, before, same⟩ := List.mem_take_iff_getElem.mp earlier
        exact first position (by omega) (decide_eq_true same)
    · cases other
  · rename_i error failed
    rw [afterCall, failed]

theorem Follows.exhausted (follows : Follows active) (last : 4 ≤ active.revision) :
    active.applyNewTransition transition ≠ .ok coordinator := by
  intro performed
  have advances := applyNewTransition_advances follows.sameTerms performed
  have longer := (advances.logPhases follows.phase)
  have table : ∀ log ∈ logPhases, log.1.length ≤ 4 := by decide
  have short := table _ longer
  simp only [List.length_append, entries, List.length_map, List.length_singleton,
    ← follows.counted] at short
  omega

theorem lifecycle_log_legal (sdk : BtcPairSdk) (accepted : AcceptedBtcAgreementV1 lib)
    (prepared : BtcPreparedProtocolV1 lib) (start active : ActiveBtcSwap lib)
    (history : List (BtcLifecycleTransitionV1 lib)) (activated : sdk.activatePrepared accepted prepared = .ok start)
    (run : Run Applies start history active) :
    LegalLog active ∧ (∀ transition, Answers active transition) ∧
      (4 ≤ active.revision → ∀ transition coordinator, active.applyNewTransition transition ≠ .ok coordinator) := by
  have follows := Follows.run (.inr ⟨accepted, prepared, activated⟩) run
  exact ⟨follows.legal, answers active, fun last _ _ => follows.exhausted last⟩

def sampleSecondLock : BtcLifecycleTransitionV1 sampleLib :=
  .secondLockConfirmed (.bitcoin ⟨1, sampleFunding, ⟨[0], by decide +kernel⟩, 1, by rfl, by rfl⟩)

def sampleSigned : ExactPublicEffectBytes := ⟨List.replicate 64 1, by decide +kernel⟩

def sampleReveal : BtcLifecycleTransitionV1 sampleLib :=
  .revealingClaimConfirmed (.bitcoin ⟨.taker, 1, sampleAgreement.cooperativeClaim [sampleSignature.bytes],
    sampleSigned, sampleSignature, 1, by rfl, by rfl, by rfl⟩)

def sampleRecovered (bitcoin lez : CanonicalRecoveryStatusV1) : BtcLifecycleTransitionV1 sampleLib :=
  .recoveryObserved ⟨1, .takerSellsLez, 10, 20, ⟨bitcoin, some 1, some 7, some 7, 1, false⟩,
    ⟨lez, some 3, some sampleLezFunding.initializationPublicId, some sampleFundingId,
      if lez = .refunded then some sampleFundingId else none, true, lez = .locked⟩⟩

/-- One history for each way a swap can end: both claims, both refunds, and the taker's refund alone. -/
def sampleHistories : List (List (BtcLifecycleTransitionV1 sampleLib)) :=
  [[sampleFirstLock sampleLezFunding, sampleSecondLock, sampleReveal,
      .followupClaimConfirmed (.lez ⟨3, sampleFundingId, sampleSigned, true⟩)],
    [sampleFirstLock sampleLezFunding, sampleSecondLock, sampleRecovered .refunded .locked,
      sampleRecovered .refunded .refunded],
    [sampleFirstLock sampleLezFunding, sampleRecovered .absent .refunded]]

def sampleSwaps : List (ActiveBtcSwap sampleLib) :=
  sampleHistories.filterMap fun history => (samplePrepared sampleLezFunding sampleFundingId history).toOption

theorem lifecycle_log_legal_sample :
    sampleSwaps.map ActiveBtcSwap.entries = legalLogs ∧ ∀ active ∈ sampleSwaps, LegalLog active := by
  refine ⟨by decide +kernel, fun active listed => ?_⟩
  obtain ⟨history, _, made⟩ := List.mem_filterMap.mp listed
  obtain ⟨accepted, prepared, start, activated, run⟩ := samplePrepared_run (ok_of_toOption made)
  exact (lifecycle_log_legal sampleSdk accepted prepared start active history activated run).1

end Shapes

end AtomicSwaps.BtcSdk
