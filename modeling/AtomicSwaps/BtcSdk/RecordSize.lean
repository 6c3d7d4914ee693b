import AtomicSwaps.BtcSdk.OwnPlan
import AtomicSwaps.BtcSdk.Records

namespace AtomicSwaps.BtcSdk

open AtomicSwaps.Core Fallible Json Transition BtcLifecycleRecordV1 DurableRecordV1 ActiveBtcSwap
open Store.PublicEffect (Bytes)
open Store.MakerLock (ExpectedPublicEffectId ExactPublicEffectBytes PublicEffectStepV1 ExactPublicEffectPlanV1)

section Rebuild

variable {lib : Libraries} {prepared : BtcPreparedProtocolV1 lib} {recovery : BtcPreparedRecoveryEffectsV1}
  {record : PreparedRecordV1}

theorem attest_ok {check : Result Unit} (passed : check = .ok ()) : attest check = .ok ⟨passed⟩ := by
  subst passed
  rfl

theorem claimEffects_back (stored : PreparedRecordV1.fromPrepared prepared = some record) :
    record.claimEffects prepared.agreement = .ok prepared.claimEffects := by
  obtain ⟨_, _, rfl⟩ := Option.map_eq_some_iff.mp stored
  simp only [PreparedRecordV1.claimEffects, expectedId_mirrors.back, exactBytes_mirrors.back, (fixed_mirrors 65).back,
    PreparedLezClaimTemplateV1.new, dif_pos prepared.claimEffects.lezClaim.slot, ok_bind]
  rw [← (prepared_claims prepared).2.2]
  rfl

theorem recoveryEffects_back (has : prepared.terms.recoveryEffects = some recovery)
    (stored : PreparedRecordV1.fromPrepared prepared = some record) :
    record.recoveryEffects lib prepared.agreement = .ok recovery := by
  rw [PreparedRecordV1.fromPrepared, has] at stored
  cases stored
  have valid := prepared.terms.recoveryValid
  rw [has] at valid
  simp only [validateOptional, BtcPreparedRecoveryEffectsV1.validate, checked_ok] at valid
  obtain ⟨bitcoin, rebuilt, built, ⟨sameId, samePlan⟩, lez⟩ := valid
  have same : rebuilt = recovery.bitcoin := by
    have kept := built
    simp only [PreparedBitcoinRefundV1.new, bind_ok_iff, pure_ok] at kept
    obtain ⟨_, _, _, _, rfl⟩ := kept
    obtain ⟨⟨_, _, _, _⟩, _⟩ := recovery
    cases bitcoin
    cases sameId
    cases samePlan
    rfl
  have built : PreparedBitcoinRefundV1.new lib prepared.agreement recovery.bitcoin.signature = .ok recovery.bitcoin :=
    same ▸ built
  have lez : prepared.agreement.agreementCommitment = recovery.lez.agreementCommitment := lez.symm
  simp only [PreparedRecordV1.recoveryEffects, (fixed_mirrors 64).back, built, PreparedLezRefundV1.plan, lez, ok_bind,
    mapError_ok, ensure_ok]
  rfl

theorem validateTerms_back {record : lib.Record} {localParticipant : Participant}
    (validated : lib.validateRecord record = some prepared.agreement)
    (has : prepared.terms.recoveryEffects = some recovery) :
    BtcPairSdk.validateTerms ⟨localParticipant, prepared.agreement.bitcoinChainPolicy⟩
      ⟨record, prepared.terms.lockEffects, some prepared.claimEffects, some recovery⟩ = .ok prepared.terms := by
  obtain ⟨⟨agreement, _, _, _, locksValid, claimsValid, recoveryValid⟩, _, complete⟩ := prepared
  cases complete
  cases has
  have validated : lib.validateRecord record = some agreement := validated
  have policy : agreement.bitcoinChainPolicy.valid = true := agreement.validPolicy
  simp only [BtcPairSdk.validateTerms, BtcPairSdk.ensureBitcoinPolicy, BtcPreparedProtocolV1.agreement, validated,
    policy, required, ensure_ok, ok_bind]
  exact bind_ok_iff.mpr ⟨_, attest_ok locksValid, bind_ok_iff.mpr ⟨_, attest_ok claimsValid,
    bind_ok_iff.mpr ⟨_, attest_ok recoveryValid, rfl⟩⟩⟩

theorem prepare_back (has : prepared.terms.recoveryEffects = some recovery) :
    BtcPairSdk.prepare prepared.terms = .ok prepared := by
  unfold BtcPairSdk.prepare
  split
  · rename_i missing
    cases prepared.complete.symm.trans missing
  · rename_i claims found
    obtain rfl : prepared.claimEffects = claims := Option.some.inj (prepared.complete.symm.trans found)
    simp only [required, has, ok_bind]
    rfl

variable {sdk : BtcPairSdk} {accepted : AcceptedBtcAgreementV1 lib} {start active : ActiveBtcSwap lib}

theorem intoEnvelope_back (activated : sdk.activatePrepared accepted prepared = .ok start)
    (replays : Replays start active) :
    (fromEnvelope lib active.durableEnvelope).intoEnvelope lib = .ok active.durableEnvelope := by
  have recovers := activated
  simp only [BtcPairSdk.activatePrepared, BtcPreparedProtocolV1.requiredRecoveryEffects, checked_ok,
    required_ok_iff] at recovers
  obtain ⟨_, _, _, _, recovery, has, _⟩ := recovers
  obtain ⟨_, same, _, rfl⟩ := activatePrepared_ok activated
  obtain ⟨record, decoded, validated⟩ := Option.bind_eq_some_iff.mp accepted.decoded
  rw [← same] at validated
  obtain ⟨stored, found⟩ : ∃ stored, PreparedRecordV1.fromPrepared prepared = some stored := by
    rw [PreparedRecordV1.fromPrepared, has]
    exact ⟨_, rfl⟩
  simp only [fromEnvelope, intoEnvelope, durableEnvelope,
    replays.accepted, replays.lockEffects, replays.preparedProtocol, decoded, validated, required, found,
    lockEffects_mirrors.back, transitions_mirrors.back, claimEffects_back found, recoveryEffects_back has found,
    validateTerms_back validated has, prepare_back has, Option.bind_some, mapError_ok, ok_bind]
  rfl

end Rebuild

section Size

variable {lib : Libraries} (codec : Codec) {sdk : BtcPairSdk} {accepted : AcceptedBtcAgreementV1 lib}
variable {prepared : BtcPreparedProtocolV1 lib} {start active : ActiveBtcSwap lib}

def ActiveBtcSwap.record (active : ActiveBtcSwap lib) : DurableRecordV1 := .fromEnvelope lib active.durableEnvelope

theorem resumeOwn_back (activated : sdk.activatePrepared accepted prepared = .ok start)
    (replays : Replays start active) : resumeOwn lib active.durableEnvelope = .ok active := by
  have resumed := resume_prepared activated replays
  obtain ⟨role, same, policy, rfl⟩ := activatePrepared_ok activated
  have own : sdk = ⟨accepted.localParticipant, accepted.agreement.bitcoinChainPolicy⟩ := by
    rw [role, ← same, policy]
  have kept : active.accepted = accepted := replays.accepted
  have decoded := active.accepted.decoded
  rw [own, ← kept] at resumed
  simp only [resumeOwn, durableEnvelope, decoded, required, ok_bind]
  exact mapError_ok_iff.mpr resumed

/-- A prepared swap is written down exactly when its text fits, by a writer whose text is read back. -/
theorem fromActive_ok_iff (activated : sdk.activatePrepared accepted prepared = .ok start)
    (replays : Replays start active) (writes : ∀ record, codec.toVec record = record.json)
    (reads : codec.parse active.record.json = some active.record) :
    (∃ record, fromActive lib codec active = .ok record) ↔
      active.record.json.length ≤ maxBtcLifecycleRecordBytes := by
  have into : active.record.intoEnvelope lib = .ok active.durableEnvelope := intoEnvelope_back activated replays
  have schema : active.record.schemaVersion = btcLifecycleRecordSchemaV1 := rfl
  have written : codec.toVec (.fromEnvelope lib active.durableEnvelope) = active.record.json := writes _
  simp only [fromActive, fromExactBytes, written, reads, required,
    schema, into, writes, resumeOwn_back activated replays, ensure_ok, ok_bind, checked_ok]
  constructor
  · rintro ⟨_, ⟨_, fits⟩, _⟩
    exact fits
  · intro fits
    exact ⟨_, ⟨List.cons_ne_nil _ _, fits⟩, rfl⟩

theorem fromActive_text {record : BtcLifecycleRecordV1} (writes : ∀ record, codec.toVec record = record.json)
    (stored : fromActive lib codec active = .ok record) : record.exactBytes = active.record.json := by
  simp only [fromActive, fromExactBytes, checked_ok, pure_ok,
    writes] at stored
  obtain ⟨_, _, _, _, _, _, _, _, _, rfl⟩ := stored
  rfl

/-- The text of a later state is the text of the first one and the texts of the log. -/
theorem record_length (replays : Replays start active) (zero : start.revision = 0) (unused : start.transitions = []) :
    active.record.json.length = start.record.json.length +
      (joined (active.record.transitions.map TransitionRecordV1.json)).length := by
  have digit : ∀ revision ≤ 4, (number revision).length = 1 := by decide +kernel
  have later := digit active.revision replays.bounded
  have first := digit 0 (Nat.zero_le 4)
  simp only [record, fromEnvelope, durableEnvelope, json,
    replays.accepted, replays.lockEffects, replays.preparedProtocol, zero, unused, length_object, length_array,
    List.map_cons, List.map_nil, List.sum_cons, List.length_cons, joined, List.length_nil, later, first]
  omega

/-- A stored swap stays storable while its first record and the transitions it accepted fit the limit together. -/
theorem persisted_swap_persistable_iff (lib : Libraries) (codec : Codec) (sdk : BtcPairSdk)
    (accepted : AcceptedBtcAgreementV1 lib) (prepared : BtcPreparedProtocolV1 lib) (start active : ActiveBtcSwap lib)
    (history : List (BtcLifecycleTransitionV1 lib)) (first : BtcLifecycleRecordV1)
    (activated : sdk.activatePrepared accepted prepared = .ok start)
    (stored : fromActive lib codec start = .ok first) (run : Run Applies start history active)
    (writes : ∀ record, codec.toVec record = record.json)
    (reads : codec.parse active.record.json = some active.record) :
    (∃ record, fromActive lib codec active = .ok record) ↔
      first.exactBytes.length + (joined (active.record.transitions.map TransitionRecordV1.json)).length ≤
        maxBtcLifecycleRecordBytes := by
  have zero : start.revision = 0 ∧ start.transitions = [] := starts_zero (.inr ⟨accepted, prepared, activated⟩)
  have replays := Replays.run zero.1 zero.2 run
  rw [fromActive_ok_iff codec activated replays writes reads, record_length replays zero.1 zero.2,
    fromActive_text codec writes stored]

theorem sampleRecovery_valid : sampleRecovery.validate sampleLib sampleAgreement = .ok () :=
  ok_get (by decide +kernel)

def sampleFresh (lez : PreparedLezFundingV1) : BtcPreparedProtocolV1 sampleLib :=
  ⟨⟨sampleAgreement, sampleLocks lez, some (sampleClaims sampleFundingId), some sampleRecovery, by rfl, by rfl,
      sampleRecovery_valid⟩,
    sampleClaims sampleFundingId, rfl⟩

def sampleOpening (lez : PreparedLezFundingV1) : ActiveBtcSwap sampleLib :=
  ⟨sampleAccepted, sampleLocks lez, sampleAgreement.coordinator, 0, some (sampleFresh lez), []⟩

theorem sampleOpening_activated (lez : PreparedLezFundingV1) :
    sampleSdk.activatePrepared sampleAccepted (sampleFresh lez) = .ok (sampleOpening lez) := by
  rfl

def sampleSized (exact : ExactPublicEffectBytes) : PreparedLezFundingV1 :=
  { sampleLezFunding with exactInitialization := exact }

theorem sampleSized_locks (exact : ExactPublicEffectBytes) :
    ∃ active, Applies (sampleOpening (sampleSized exact)) (sampleFirstLock (sampleSized exact)) active ∧
      active.transitions = [sampleFirstLock (sampleSized exact)] := by
  have activated := sampleOpening_activated (sampleSized exact)
  have follows := Follows.run (.inr ⟨_, _, activated⟩) .nil
  have own : OwnStep (sampleOpening (sampleSized exact)) (sampleFirstLock (sampleSized exact)) :=
    .firstLock rfl (.lez rfl)
  have short : (publicId (sampleFirstLock (sampleSized exact))).length ≤ 128 := by
    show sampleFundingId.bytes.length ≤ 128
    decide
  obtain ⟨fresh, room⟩ := follows.fresh own.waits
  obtain ⟨coordinator, performed⟩ := (own.accepts sampleLib_lawful follows (Prepares.run activated .nil)).mpr short
  refine ⟨(sampleOpening (sampleSized exact)).advanced coordinator _, ⟨.applied 1, ?_⟩, rfl⟩
  rw [applyTransition_fresh fresh, ensure_ok room, performed]
  rfl

theorem sampleSized_grows {exact : ExactPublicEffectBytes} {active : ActiveBtcSwap sampleLib}
    (log : active.transitions = [sampleFirstLock (sampleSized exact)]) :
    (bytes exact.bytes).length < (joined (active.record.transitions.map TransitionRecordV1.json)).length := by
  rw [record, fromEnvelope, durableEnvelope, log]
  simp only [List.map_cons, List.map_nil, joined, sampleFirstLock, TransitionRecordV1.fromTransition,
    FirstLockRecordV1.fromEvidence, TransitionRecordV1.json, FirstLockRecordV1.json, sampleSized, length_object,
    List.sum_cons, List.length_cons, List.length_nil]
  omega

theorem sampleTexts : (bytes sampleLezFunding.exactInitialization.bytes).length = 3 ∧
    (number (255 : UInt8).toNat).length = 3 ∧
    (joined [(TransitionRecordV1.fromTransition (sampleFirstLock sampleLezFunding)).json]).length < 4096 ∧
    0 < (sampleOpening sampleLezFunding).record.json.length ∧
    (sampleOpening sampleLezFunding).record.json.length < 4096 := by decide +kernel

theorem sampleOpening_length (exact : ExactPublicEffectBytes) :
    (sampleOpening (sampleSized exact)).record.json.length + 3 =
      (sampleOpening sampleLezFunding).record.json.length + (bytes exact.bytes).length := by
  have small := sampleTexts.1
  simp only [record, fromEnvelope, durableEnvelope, json,
    sampleOpening, sampleLocks, LockEffectsRecordV1.fromEffects, LockEffectsRecordV1.json, PreparedLezFundingV1.plan,
    planJson, stepJson, sampleSized, sampleFresh, PreparedRecordV1.fromPrepared, Option.bind_some, Option.map_some,
    length_object, length_array, length_joined, List.map_cons, List.map_nil, List.sum_cons, List.length_cons,
    List.length_nil, small]
  omega

def sampleLongest : ExactPublicEffectBytes :=
  ⟨List.replicate Store.MakerLock.maxExactEffectBytes 255,
    fun empty => absurd (congrArg List.length empty) (by rw [List.length_replicate]; decide),
    Nat.le_of_eq List.length_replicate⟩

theorem sampleLongest_length : (bytes sampleLongest.bytes).length = 16777217 := by
  rw [sampleLongest, length_bytes_replicate 255 (by decide), sampleTexts.2.1]
  rfl

/-- The first record of the swap is stored; the record after its first lock is refused for its length. -/
theorem published_lock_unpersistable :
    ∃ (codec : Codec) (start active : ActiveBtcSwap sampleLib) (first : BtcLifecycleRecordV1) (transition : _),
      (∀ record, codec.toVec record = record.json) ∧
      (∃ accepted prepared, sampleSdk.activatePrepared accepted prepared = .ok start) ∧
      fromActive sampleLib codec start = .ok first ∧ Applies start transition active ∧
      fromActive sampleLib codec active = .error .invalidLength := by
  have activated := sampleOpening_activated (sampleSized sampleLongest)
  obtain ⟨active, locked, log⟩ := sampleSized_locks sampleLongest
  have replays := Replays.run rfl rfl (.cons locked .nil)
  have opening := sampleOpening_length sampleLongest
  have short := sampleTexts.2.2.2
  rw [sampleLongest_length] at opening
  obtain ⟨first, stored⟩ := (fromActive_ok_iff _ activated (Replays.run rfl rfl .nil) (fun _ => rfl)
    (sampleReader_first _)).mpr (by unfold maxBtcLifecycleRecordBytes; omega)
  refine ⟨_, _, active, first, _, fun _ => rfl, ⟨_, _, activated⟩, stored, locked, ?_⟩
  have grown := sampleSized_grows log
  rw [sampleLongest_length] at grown
  have long : ¬(active.record.json ≠ [] ∧ active.record.json.length ≤ maxBtcLifecycleRecordBytes) := by
    rw [record_length replays rfl rfl]
    unfold maxBtcLifecycleRecordBytes
    omega
  exact (congrArg (· >>= _) (if_neg long)).trans rfl

theorem persisted_swap_persistable_iff_sample :
    ∃ (codec : Codec) (active : ActiveBtcSwap sampleLib), active.transitions.length = 1 ∧
      ∃ record, fromActive sampleLib codec active = .ok record := by
  have activated := sampleOpening_activated sampleLezFunding
  obtain ⟨active, locked, log⟩ := sampleSized_locks sampleLezFunding.exactInitialization
  have run : Run Applies (sampleOpening sampleLezFunding) [sampleFirstLock sampleLezFunding] active :=
    .cons locked .nil
  have longer := record_length (Replays.run rfl rfl run) rfl rfl
  have grown := sampleSized_grows log
  obtain ⟨_, _, lock, short⟩ := sampleTexts
  let codec := sampleReader [(sampleOpening sampleLezFunding).record, active.record]
  have different : (sampleOpening sampleLezFunding).record.json ≠ active.record.json := by
    intro same
    rw [same] at longer
    omega
  obtain ⟨first, stored⟩ := (fromActive_ok_iff codec activated (Replays.run rfl rfl .nil) (fun _ => rfl)
    (by simp [codec, sampleReader])).mpr (by unfold maxBtcLifecycleRecordBytes; omega)
  refine ⟨codec, active, by rw [log]; rfl, (persisted_swap_persistable_iff sampleLib codec sampleSdk _ _ _ _ _ first
    activated stored run (fun _ => rfl) ?_).mpr ?_⟩
  · simp [codec, sampleReader, different]
  · have written : active.record.transitions = [.fromTransition (sampleFirstLock sampleLezFunding)] := by
      rw [record, fromEnvelope, durableEnvelope, log]
      rfl
    rw [fromActive_text codec (fun _ => rfl) stored, written]
    unfold maxBtcLifecycleRecordBytes
    exact Nat.le_of_lt (Nat.lt_of_lt_of_le (Nat.add_lt_add short.2 lock) (by decide))

end Size

section Bound

/-- The exact bytes that an entry of the log repeats. -/
def TransitionRecordV1.exact : TransitionRecordV1 → Bytes
  | .firstLockConfirmed (.bitcoin _ exact _) | .secondLockConfirmed (.bitcoin _ exact _)
  | .revealingClaimConfirmed (.bitcoin _ _ exact _) | .revealingClaimConfirmed (.lez _ _ _ exact _ _)
  | .followupClaimConfirmed (.bitcoin _ exact _) | .followupClaimConfirmed (.lez _ _ exact _) => exact
  | .firstLockConfirmed (.lez _ _ exact _ funding _ _ _ _)
  | .secondLockConfirmed (.lez _ _ exact _ funding _ _ _ _) => exact ++ funding
  | .recoveryObserved _ => []

variable {lib : Libraries} {prepared : BtcPreparedProtocolV1 lib} {start active : ActiveBtcSwap lib}
  {transition : BtcLifecycleTransitionV1 lib} {coordinator : SwapCoordinator} {largest : Nat}

/-- What is prepared for one entry, or a signed claim of the agreed Bitcoin output, is at most so many bytes. -/
structure BtcPreparedProtocolV1.Within (prepared : BtcPreparedProtocolV1 lib) (largest : Nat) : Prop where
  bitcoinLock : prepared.terms.lockEffects.bitcoin.exactSigned.bytes.length ≤ largest
  lezLock : prepared.terms.lockEffects.lez.exactInitialization.bytes.length +
    prepared.terms.lockEffects.lez.exactFunding.bytes.length ≤ largest
  lezClaim : prepared.claimEffects.lezClaim.exactTemplate.bytes.length ≤ largest
  bitcoinClaim : ∀ transaction signature, withoutWitness transaction = prepared.agreement.cooperativeClaim [] →
    bitcoinClaimSignature transaction = .ok signature → (lib.serialize transaction).length ≤ largest

variable (within : prepared.Within largest)
include within

theorem materialize_within {signature : Signature} {exact : ExactPublicEffectBytes}
    (made : prepared.claimEffects.lezClaim.materialize signature = .ok exact) : exact.bytes.length ≤ largest := by
  obtain ⟨_, same, sized⟩ := materialize_ok prepared.claimEffects.lezClaim signature
  cases made.symm.trans same
  exact sized ▸ within.lezClaim

omit within in
theorem singleStepPlan_exact {text : String} {id exact : Bytes} {plan : ExactPublicEffectPlanV1}
    (made : singleStepPlan text id exact = .ok plan) : ∀ step ∈ plan.steps, step.exactBytes.bytes = exact := by
  simp only [singleStepPlan, bind_ok_iff, mapError_ok_iff, ExactPublicEffectBytes.new, ExactPublicEffectPlanV1.new,
    checked_ok, pure_ok] at made
  obtain ⟨_, _, _, _, _, fits, _, _, _, rfl⟩ := made
  split at fits <;> cases fits
  simp

theorem buildFollowup_within {material : BtcRecoveredClaimMaterialV1} {plan : ExactPublicEffectPlanV1}
    (built : buildFollowupClaimForLifecycle prepared material = .ok plan) :
    ∀ step ∈ plan.steps, step.exactBytes.bytes.length ≤ largest := by
  intro step member
  simp only [buildFollowupClaimForLifecycle, bind_ok_iff, exists_unit] at built
  obtain ⟨_, built⟩ := built
  split at built
  · simp only [finalizeClaim, checked_ok, pure_ok] at built
    obtain ⟨signature, _, _, ⟨_, rfl⟩, made⟩ := built
    rw [singleStepPlan_exact made step member]
    exact within.bitcoinClaim _ signature rfl (claimSignature_cooperative signature)
  · simp only [bind_ok_iff] at built
    obtain ⟨signature, _, exact, made, built⟩ := built
    rw [singleStepPlan_exact built step member]
    exact materialize_within within made

/-- An accepted transition repeats no more than was prepared for it. -/
theorem accepted_within (prepares : Prepares active prepared)
    (performed : active.applyNewTransition transition = .ok coordinator) :
    (TransitionRecordV1.fromTransition transition).exact.length ≤ largest := by
  cases transition with
  | firstLockConfirmed evidence | secondLockConfirmed evidence =>
    simp only [applyNewTransition, applyLock, checked_ok] at performed
    obtain ⟨_, valid, _⟩ := performed
    rw [prepares.lockEffects] at valid
    unfold validateLockForParticipant at valid
    split at valid
    · simp only [validateBitcoinFirstLock, checked_ok] at valid
      have sized := within.bitcoinLock
      rwa [← valid.2.1] at sized
    · simp only [validateLezFirstLock, checked_ok] at valid
      have sized := within.lezLock
      rwa [← valid.2.2.1.1, ← valid.2.2.1.2, ← List.length_append] at sized
    · cases valid
  | revealingClaimConfirmed evidence =>
    simp only [applyNewTransition, ActiveBtcSwap.prepared, prepares.stored, required, ok_bind,
      checked_ok] at performed
    obtain ⟨_, _, valid, _⟩ := performed
    unfold validateRevealingClaimForLifecycle at valid
    dsimp only at valid
    split at valid
    · rename_i observed _ _
      simp only [validateBitcoinRevealingClaim, checked_ok] at valid
      obtain ⟨_, _, ⟨_, _, unsigned, _⟩, _⟩ := valid
      have sized := within.bitcoinClaim _ _ unsigned observed.signed
      rwa [observed.canonical] at sized
    · simp only [validateLezRevealingClaim, checked_ok] at valid
      obtain ⟨_, _, ⟨_, _, exact, made, ⟨_, same⟩, _⟩, _⟩ := valid
      have sized := materialize_within within made
      rwa [← same] at sized
    · cases valid
  | followupClaimConfirmed evidence =>
    simp only [applyNewTransition, ActiveBtcSwap.prepared, prepares.stored, required, ok_bind,
      checked_ok] at performed
    obtain ⟨_, _, _, material, _, plan, built, valid, _⟩ := performed
    unfold validateFollowupClaim at valid
    split at valid
    · rename_i step single
      have sized := buildFollowup_within within built step (by simp [single])
      split at valid <;> simp only [checked_ok, reduceCtorEq] at valid <;> rwa [← valid.2.2.2] at sized
    · cases valid
  | recoveryObserved state => exact Nat.zero_le _

variable {sdk : BtcPairSdk} {accepted : AcceptedBtcAgreementV1 lib} {history : List (BtcLifecycleTransitionV1 lib)}
  (activated : sdk.activatePrepared accepted prepared = .ok start) (run : Run Applies start history active)
include activated run

theorem run_within : ∀ transition ∈ active.transitions,
    (TransitionRecordV1.fromTransition transition).exact.length ≤ largest := by
  induction run with
  | nil => simp [(starts_zero (.inr ⟨accepted, prepared, activated⟩)).2]
  | snoc before applied earlier =>
    obtain ⟨_, applied⟩ := applied
    rcases applyTransition_ok applied with ⟨_, _, _, rfl⟩ | ⟨_, _, _, coordinator, performed, rfl⟩
    · exact earlier
    · intro transition member
      rcases List.mem_append.mp member with old | new
      · exact earlier transition old
      · rw [List.mem_singleton.mp new]
        exact accepted_within within (Prepares.run activated before) performed

/-- A bound that is known at activation: each of at most four entries takes four characters for a byte of what was
    prepared, beside the rest of its text. -/
theorem fromActive_of_sizes {codec : Codec} {first : BtcLifecycleRecordV1} {fields : Nat}
    (stored : fromActive lib codec start = .ok first) (writes : ∀ record, codec.toVec record = record.json)
    (reads : codec.parse active.record.json = some active.record)
    (fixed : ∀ entry ∈ active.record.transitions, entry.json.length ≤ fields + (bytes entry.exact).length)
    (fits : first.exactBytes.length + 4 * (fields + 4 * largest + 3) ≤ maxBtcLifecycleRecordBytes) :
    ∃ record, fromActive lib codec active = .ok record := by
  have zero : start.revision = 0 ∧ start.transitions = [] := starts_zero (.inr ⟨accepted, prepared, activated⟩)
  have replays := Replays.run zero.1 zero.2 run
  have entries : (joined (active.record.transitions.map TransitionRecordV1.json)).length ≤
      (active.record.transitions.map TransitionRecordV1.json).length * (fields + 4 * largest + 2 + 1) := by
    refine length_joined_le fun text member => ?_
    obtain ⟨entry, logged, rfl⟩ := List.mem_map.mp member
    have short := fixed entry logged
    obtain ⟨transition, applied, rfl⟩ := List.mem_map.mp logged
    have sized := run_within within activated run transition applied
    have text := length_bytes_le (TransitionRecordV1.fromTransition transition).exact
    omega
  have count : (active.record.transitions.map TransitionRecordV1.json).length = active.revision := by
    simp [record, fromEnvelope, durableEnvelope, replays.counted]
  have most := Nat.mul_le_mul_right (fields + 4 * largest + 2 + 1) (count ▸ replays.bounded)
  rw [fromActive_ok_iff codec activated replays writes reads, record_length replays zero.1 zero.2,
    ← fromActive_text codec writes stored]
  omega

end Bound

end AtomicSwaps.BtcSdk
