import AtomicSwaps.BtcSdk.Log

namespace AtomicSwaps.BtcSdk

open AtomicSwaps.Core Fallible Transition SwapCoordinator ActiveBtcSwap
open Store.PublicEffect (Bytes isAsciiGraphic)
open Store.MakerLock (ExpectedPublicEffectId ExactPublicEffectBytes PublicEffectStepId PublicEffectStepV1
  ExactPublicEffectPlanV1 maxExactEffectBytes maxExpectedIdBytes)

variable {lib : Libraries} {active start : ActiveBtcSwap lib} {transition : BtcLifecycleTransitionV1 lib}
variable {prepared : BtcPreparedProtocolV1 lib} {agreement : BtcAgreementV1} {sdk : BtcPairSdk}

/-- The documented behaviour of the libraries: transaction ids print as short graphic text, a verified
    presignature is completed by the committed scalar and gives it back, a completed Bitcoin signature
    passes BIP-340, and a signed cooperative claim survives consensus encoding within the effect bound. -/
structure Libraries.Lawful (lib : Libraries) : Prop where
  txidText : ∀ id, lib.txidText id ≠ [] ∧ (lib.txidText id).length ≤ 128 ∧
    (lib.txidText id).all isAsciiGraphic = true
  adapts : ∀ agreement domain presignature secret,
    lib.verifiedPresignature agreement domain presignature = true →
    lib.checkedAdaptorSecret agreement secret = true →
    ∃ signature, lib.adapt agreement domain presignature secret = some signature ∧
      lib.verifyFinal agreement domain signature = true
  reveals : ∀ agreement domain presignature secret signature,
    lib.adapt agreement domain presignature secret = some signature →
    lib.revealSecret agreement domain presignature signature = some secret
  keyPath : ∀ agreement signature, lib.verifyFinal agreement .bitcoin signature = true →
    lib.verifyKeyPath agreement signature = true
  encodes : ∀ record agreement (signature : Signature), lib.validateRecord record = some agreement →
    lib.deserialize (lib.serialize (agreement.cooperativeClaim [signature.bytes])) =
      some (agreement.cooperativeClaim [signature.bytes]) ∧
    lib.serialize (agreement.cooperativeClaim [signature.bytes]) ≠ [] ∧
    (lib.serialize (agreement.cooperativeClaim [signature.bytes])).length ≤ maxExactEffectBytes

section Matching

inductive OwnLock (active : ActiveBtcSwap lib) (participant : Participant) : BtcFirstLockEvidenceV1 lib → Prop
  | bitcoin {observed : BitcoinFirstLockEvidenceV1 lib}
      (funds : active.agreement.coordinator.fundedChain participant = .bitcoin)
      (network : observed.genesisBlockHash = active.agreement.bitcoinChainPolicy.genesisBlockHash)
      (exact : observed.exactTransaction = active.lockEffects.bitcoin.exactSigned)
      (deep : active.agreement.bitcoinChainPolicy.requiredConfirmations ≤ observed.confirmations) :
      OwnLock active participant (.bitcoin observed)
  | lez (funds : active.agreement.coordinator.fundedChain participant = .lez) :
      OwnLock active participant (.lez
        { genesisBlockHash := active.agreement.lezTerms.genesisBlockHash
          initializationPublicId := active.lockEffects.lez.initializationPublicId
          exactInitialization := active.lockEffects.lez.exactInitialization
          fundingPublicId := active.lockEffects.lez.fundingPublicId
          exactFunding := active.lockEffects.lez.exactFunding
          metadataAccount := active.agreement.lezTerms.metadataAccount
          custodyAccount := active.agreement.lezTerms.custodyAccount
          amount := active.agreement.lezTerms.amount
          finalized := true })

inductive OwnReveal (prepared : BtcPreparedProtocolV1 lib) : BtcRevealingClaimEvidenceV1 lib → Prop
  | bitcoin {observed : BitcoinRevealingClaimEvidenceV1 lib} {secret : Bytes32} {signature : Signature}
      (direction : prepared.agreement.direction = .takerSellsLez)
      (claimant : observed.claimant = prepared.agreement.bitcoinClaimant)
      (network : observed.genesisBlockHash = prepared.agreement.bitcoinChainPolicy.genesisBlockHash)
      (deep : prepared.agreement.bitcoinChainPolicy.requiredConfirmations ≤ observed.confirmations)
      (adapted : adaptPresignature lib prepared.agreement .bitcoin prepared.claimEffects.bitcoinPresignature secret =
        .ok signature)
      (built : observed.transaction = prepared.agreement.cooperativeClaim [signature.bytes]) :
      OwnReveal prepared (.bitcoin observed)
  | lez {secret : Bytes32} {signature : Signature} {exact : ExactPublicEffectBytes}
      (direction : prepared.agreement.direction = .takerSellsForeign)
      (adapted : adaptPresignature lib prepared.agreement .lez prepared.claimEffects.lezPresignature secret =
        .ok signature)
      (built : prepared.claimEffects.lezClaim.materialize signature = .ok exact) :
      OwnReveal prepared (.lez ⟨prepared.agreement.lezClaimant, prepared.agreement.lezTerms.genesisBlockHash,
        prepared.claimEffects.lezClaim.expectedPublicId, exact, signature, true⟩)

/-- What the stored log and preparation reconstruct of the follow-up claim. -/
structure Reconstructed (active : ActiveBtcSwap lib) (prepared : BtcPreparedProtocolV1 lib)
    (step : PublicEffectStepV1) : Prop where
  stored : active.preparedProtocol = some prepared
  built : ∃ revealing material plan, active.transitions.findSome? revealingEvidence = some revealing ∧
    validateRevealingClaimForLifecycle prepared revealing = .ok material ∧
    buildFollowupClaimForLifecycle prepared material = .ok plan ∧ plan.steps = [step]

inductive OwnFollowup (prepared : BtcPreparedProtocolV1 lib) (step : PublicEffectStepV1) :
    BtcFollowupClaimEvidenceV1 lib → Prop
  | bitcoin {observed : BitcoinFollowupClaimEvidenceV1 lib}
      (direction : prepared.agreement.direction = .takerSellsForeign)
      (network : observed.genesisBlockHash = prepared.agreement.bitcoinChainPolicy.genesisBlockHash)
      (deep : prepared.agreement.bitcoinChainPolicy.requiredConfirmations ≤ observed.confirmations)
      (exact : observed.exactTransaction = step.exactBytes) : OwnFollowup prepared step (.bitcoin observed)
  | lez (direction : prepared.agreement.direction = .takerSellsLez) :
      OwnFollowup prepared step (.lez ⟨prepared.agreement.lezTerms.genesisBlockHash, step.expectedPublicId,
        step.exactBytes, true⟩)

inductive OwnStep (active : ActiveBtcSwap lib) : BtcLifecycleTransitionV1 lib → Prop
  | firstLock {evidence : BtcFirstLockEvidenceV1 lib} (phase : active.coordinator.phase = .offered)
      (own : OwnLock active .taker evidence) : OwnStep active (.firstLockConfirmed evidence)
  | secondLock {evidence : BtcFirstLockEvidenceV1 lib} (phase : active.coordinator.phase = .takerLockConfirmed)
      (own : OwnLock active .maker evidence) : OwnStep active (.secondLockConfirmed evidence)
  | reveal {prepared : BtcPreparedProtocolV1 lib} {evidence : BtcRevealingClaimEvidenceV1 lib}
      (phase : active.coordinator.phase = .bothLegsLocked) (stored : active.preparedProtocol = some prepared)
      (own : OwnReveal prepared evidence) : OwnStep active (.revealingClaimConfirmed evidence)
  | followup {prepared : BtcPreparedProtocolV1 lib} {step : PublicEffectStepV1}
      {evidence : BtcFollowupClaimEvidenceV1 lib} (phase : active.coordinator.phase = .claimEvidenceAvailable)
      (reconstructed : Reconstructed active prepared step) (own : OwnFollowup prepared step evidence) :
      OwnStep active (.followupClaimConfirmed evidence)

def publicId : BtcLifecycleTransitionV1 lib → Bytes
  | .firstLockConfirmed (.bitcoin observed) | .secondLockConfirmed (.bitcoin observed) =>
    lib.txidText (lib.computeTxid observed.transaction)
  | .firstLockConfirmed (.lez observed) | .secondLockConfirmed (.lez observed) => observed.fundingPublicId.bytes
  | .revealingClaimConfirmed (.bitcoin observed) => lib.txidText (lib.computeTxid observed.transaction)
  | .revealingClaimConfirmed (.lez observed) => observed.publicId.bytes
  | .followupClaimConfirmed (.bitcoin observed) => lib.txidText (lib.computeTxid observed.transaction)
  | .followupClaimConfirmed (.lez observed) => observed.publicId.bytes
  | .recoveryObserved _ => []

end Matching

section Identifiers

variable {id : Bytes}

theorem graphic_utf8Size {byte : UInt8} (graphic : isAsciiGraphic byte = true) :
    (Char.ofNat byte.toNat).utf8Size = 1 := by
  have small : byte.toNat ≤ 0x7e := by
    simp only [isAsciiGraphic, decide_eq_true_eq] at graphic
    exact UInt8.le_iff_toNat_le.mp graphic.2
  have table : ∀ code ≤ 0x7e, (Char.ofNat code).utf8Size = 1 := by decide
  exact table _ small

theorem idText_size (graphic : id.all isAsciiGraphic = true) : (idText id).utf8ByteSize = id.length := by
  induction id with
  | nil => rfl
  | cons byte rest ih =>
    simp only [List.all_cons, Bool.and_eq_true] at graphic
    have tail := ih graphic.2
    unfold idText at tail ⊢
    rw [List.map_cons, String.ofList_cons, String.utf8ByteSize_append, String.utf8ByteSize_singleton,
      graphic_utf8Size graphic.1, tail, List.length_cons, Nat.add_comm]

theorem chainProof_iff {confirmations : Nat} (nonempty : id ≠ []) (graphic : id.all isAsciiGraphic = true) :
    (∃ proof, chainProof id confirmations = .ok proof) ↔ id.length ≤ 128 := by
  have positive : 0 < id.length := List.length_pos_iff.mpr nonempty
  simp only [chainProof, Identifier.new, idText_size graphic]
  split
  · rename_i bounded
    exact iff_of_true ⟨_, rfl⟩ bounded.2
  · rename_i unbounded
    refine iff_of_false ?_ fun short => unbounded ⟨positive, short⟩
    rintro ⟨_, impossible⟩
    cases impossible

end Identifiers

section Coordinator

variable {coordinator : SwapCoordinator} {proof : ChainProof}

structure Ready (coordinator : SwapCoordinator) : Prop where
  offered : coordinator.phase = .offered → coordinator.takerLockTransactionId = none
  locked : coordinator.phase = .takerLockConfirmed →
    coordinator.takerFundingConfirmed = true ∧ coordinator.takerLockTransactionId.isSome
  funded : coordinator.phase = .bothLegsLocked ∨ coordinator.phase = .claimEvidenceAvailable →
    coordinator.bothLegsFunded = .ok ()

theorem path_ready {entries : List Entry} (path : Run Advances agreement.coordinator entries coordinator) :
    Ready coordinator := by
  induction path with
  | nil =>
    have phase := fresh_phase agreement
    refine ⟨fun _ => ?_, fun other => ?_, fun other => ?_⟩
    · unfold BtcAgreementV1.coordinator
      split <;> rfl
    · simp [phase] at other
    · simp [phase] at other
  | snoc _ advances ready =>
    cases advances with
    | firstLock id phase => exact ⟨nofun, fun _ => ⟨rfl, rfl⟩, nofun⟩
    | secondLock id phase =>
      obtain ⟨confirmed, known⟩ := ready.locked phase
      refine ⟨nofun, nofun, fun _ => ?_⟩
      simp [bothLegsFunded, confirmed, Option.isSome_iff_ne_none.mp known]
    | revealingClaim id evidence phase => exact ⟨nofun, nofun, fun _ => ready.funded (.inl phase)⟩
    | followupClaim id phase => exact ⟨nofun, nofun, nofun⟩
    | makerRefund phase => exact ⟨nofun, nofun, nofun⟩
    | takerRefund phase => exact ⟨nofun, nofun, nofun⟩

theorem Ready.observeTakerLock (ready : Ready coordinator) (phase : coordinator.phase = .offered) :
    ∃ after, coordinator.observeFunding .taker proof = .ok after := by
  simp [observeFunding, SwapCoordinator.observeTakerLock, ready.offered phase, phase]

theorem observeMakerLock_first (phase : coordinator.phase = .takerLockConfirmed) :
    ∃ after, coordinator.observeFunding .maker proof = .ok after := by
  simp [observeFunding, observeMakerLock, phase]

theorem Ready.observeRevealingClaim {evidence : ClaimEvidence} (ready : Ready coordinator)
    (phase : coordinator.phase = .bothLegsLocked) :
    ∃ after, coordinator.observeRevealingClaim coordinator.firstClaimant proof evidence = .ok after := by
  simp [SwapCoordinator.observeRevealingClaim, claimAuthorized, phase, ready.funded (.inl phase)]

theorem Ready.observeFollowupClaim (ready : Ready coordinator) (phase : coordinator.phase = .claimEvidenceAvailable) :
    ∃ after, coordinator.observeFollowupClaim coordinator.firstClaimant.other proof = .ok after := by
  simp [SwapCoordinator.observeFollowupClaim, claimAuthorized, phase, ready.funded (.inr phase)]

end Coordinator

section Locks

variable {participant : Participant} {evidence : BtcFirstLockEvidenceV1 lib}

theorem OwnLock.validates (own : OwnLock active participant evidence)
    (valid : active.lockEffects.validate active.agreement = .ok ()) :
    validateLockForParticipant active.agreement active.lockEffects participant evidence = .ok () := by
  cases own with
  | lez funds => simp [validateLockForParticipant, funds, validateLezFirstLock, ensure, bind, Except.bind]
  | @bitcoin observed funds network exact deep =>
    have parsed := observed.parsed
    rw [exact, active.lockEffects.bitcoin.parsed] at parsed
    have same : observed.transaction = active.lockEffects.bitcoin.transaction := (Except.ok.inj parsed).symm
    simp only [BtcPreparedLockEffectsV1.validate, checked_ok, required_ok_iff] at valid
    obtain ⟨_, output, found, terms⟩ := valid
    simp only [validateLockForParticipant, funds, validateBitcoinFirstLock, checked_ok, required_ok_iff, same]
    exact ⟨network, exact, active.lockEffects.bitcoin.identified.symm, output, found, terms, deep⟩

theorem OwnLock.accepts {phase : Phase} (own : OwnLock active participant evidence)
    (valid : active.lockEffects.validate active.agreement = .ok ()) (waits : active.coordinator.phase = phase)
    (observes : ∀ proof, ∃ after, active.coordinator.observeFunding participant proof = .ok after) :
    (∃ after, active.applyLock phase participant evidence = .ok after) ↔
      ∃ proof, fundingProof evidence (active.coordinator.requiredConfirmations participant) = .ok proof := by
  simp only [applyLock, requirePhase, ensure_ok waits, own.validates valid, ok_bind, bind_ok_iff,
    mapError_ok_iff]
  constructor
  · rintro ⟨_, proof, proves, _⟩
    exact ⟨proof, proves⟩
  · rintro ⟨proof, proves⟩
    obtain ⟨after, observed⟩ := observes proof
    exact ⟨after, proof, proves, observed⟩

end Locks

section Claims

variable {domain : BtcAdaptorSessionDomain} {presignature : Presignature} {secret : Bytes32}
  {signature : Signature} {material : BtcRecoveredClaimMaterialV1}

theorem adaptPresignature_ok (adapted : adaptPresignature lib agreement domain presignature secret = .ok signature) :
    lib.verifiedPresignature agreement domain presignature = true ∧ lib.checkedAdaptorSecret agreement secret = true ∧
      lib.adapt agreement domain presignature secret = some signature ∧
      lib.verifyFinal agreement domain signature = true := by
  simp only [adaptPresignature, checked_ok, required_ok_iff, pure_ok] at adapted
  obtain ⟨verified, checked, _, adapts, final, rfl⟩ := adapted
  exact ⟨verified, checked, adapts, final⟩

theorem extract_adapted (lawful : lib.Lawful)
    (adapted : adaptPresignature lib agreement domain presignature secret = .ok signature) :
    extractAdaptorSecret lib agreement domain presignature signature = .ok secret := by
  obtain ⟨verified, checked, adapts, final⟩ := adaptPresignature_ok adapted
  have reveals := lawful.reveals _ _ _ _ _ adapts
  simp [extractAdaptorSecret, ensure, required, bind, Except.bind, verified, final, reveals, checked, pure,
    Except.pure]

theorem claimSignature_cooperative (signature : Signature) :
    bitcoinClaimSignature (agreement.cooperativeClaim [signature.bytes]) = .ok signature := by
  simp [bitcoinClaimSignature, BtcAgreementV1.cooperativeClaim, signature.sized]

variable {evidence : BtcRevealingClaimEvidenceV1 lib}

theorem OwnReveal.validates (lawful : lib.Lawful) (own : OwnReveal prepared evidence) :
    ∃ material, validateRevealingClaimForLifecycle prepared evidence = .ok material := by
  cases own with
  | @bitcoin observed secret signature direction claimant network deep adapted built =>
    have signed := observed.signed
    rw [built, claimSignature_cooperative] at signed
    have same : observed.signature = signature := (Except.ok.inj signed).symm
    have unsigned : withoutWitness observed.transaction = prepared.agreement.cooperativeClaim [] := by
      rw [built]
      rfl
    have final := (adaptPresignature_ok adapted).2.2.2
    simp only [validateRevealingClaimForLifecycle, direction, claimOrder, claimantForLeg, claimant,
      validateRevealingClaimant, validateBitcoinRevealingClaim, ensure_ok network, ensure_ok deep, ensure_ok unsigned,
      same, ensure_ok final, extract_adapted lawful adapted, ensure_ok trivial, ok_bind]
    exact ⟨_, rfl⟩
  | @lez secret signature exact direction adapted built =>
    have final := (adaptPresignature_ok adapted).2.2.2
    simp only [validateRevealingClaimForLifecycle, direction, claimOrder, claimantForLeg, validateRevealingClaimant,
      validateLezRevealingClaim, built, ensure_ok final, extract_adapted lawful adapted, ok_bind, true_and,
      ensure_ok trivial]
    exact ⟨_, rfl⟩

theorem materialize_ok (template : PreparedLezClaimTemplateV1) (signature : Signature) :
    ∃ exact, template.materialize signature = .ok exact ∧
      exact.bytes.length = template.exactTemplate.bytes.length := by
  have length : (template.exactTemplate.bytes.take template.signatureOffset ++ signature.bytes ++
      template.exactTemplate.bytes.drop (template.signatureOffset + 64)).length =
      template.exactTemplate.bytes.length := by
    have slot := congrArg List.length template.slot
    rw [List.length_take, List.length_drop, List.length_replicate] at slot
    simp only [List.length_append, List.length_take, List.length_drop, signature.sized]
    omega
  have valid := template.exactTemplate.valid
  unfold PreparedLezClaimTemplateV1.materialize ExactPublicEffectBytes.new
  rw [dif_pos]
  · exact ⟨_, rfl, length⟩
  · refine ⟨List.ne_nil_of_length_pos ?_, length ▸ valid.2⟩
    rw [length]
    exact List.length_pos_iff.mpr valid.1

theorem singleStepPlan_ok {text : String} {step : PublicEffectStepId} {id exact : Bytes}
    (named : stepId text = .ok step)
    (identified : id ≠ [] ∧ id.length ≤ maxExpectedIdBytes ∧ id.all isAsciiGraphic = true)
    (sized : exact ≠ [] ∧ exact.length ≤ maxExactEffectBytes) :
    singleStepPlan text id exact = .ok ⟨1, [⟨step, ⟨id, identified⟩, ⟨exact, sized⟩⟩]⟩ := by
  have total : exact.length ≤ Store.MakerLock.maxPlanExactBytes := by
    have bound := sized.2
    unfold maxExactEffectBytes at bound
    unfold Store.MakerLock.maxPlanExactBytes
    omega
  have known : ExpectedPublicEffectId.new id = .ok ⟨id, identified⟩ := dif_pos identified
  have fits : ExactPublicEffectBytes.new exact = .ok ⟨exact, sized⟩ := dif_pos sized
  simp [singleStepPlan, named, known, fits, mapError_ok, ExactPublicEffectPlanV1.new,
    Store.MakerLock.checkSteps, ensure, total, Store.MakerLock.maxPlanSteps, bind, Except.bind, pure, Except.pure,
    Store.MakerLock.exactPublicEffectPlanSchemaV1]

theorem stepId_some (text : String) (valid : (stepId text).toOption.isSome) : ∃ step, stepId text = .ok step :=
  ⟨_, ok_get valid⟩

theorem prepared_claims (prepared : BtcPreparedProtocolV1 lib) :
    lib.verifiedPresignature prepared.agreement .bitcoin prepared.claimEffects.bitcoinPresignature = true ∧
      lib.verifiedPresignature prepared.agreement .lez prepared.claimEffects.lezPresignature = true ∧
      prepared.claimEffects.agreementCommitment = prepared.agreement.agreementCommitment := by
  have valid := prepared.terms.claimsValid
  rw [prepared.complete] at valid
  simp only [validateOptional, BtcPreparedClaimEffectsV1.validate, checked_ok] at valid
  exact ⟨valid.2.1, valid.2.2, valid.1⟩

theorem extractAdaptorSecret_ok
    (extracted : extractAdaptorSecret lib agreement domain presignature signature = .ok secret) :
    lib.checkedAdaptorSecret agreement secret = true := by
  simp only [extractAdaptorSecret, checked_ok, required_ok_iff, pure_ok] at extracted
  obtain ⟨_, _, _, _, checked, rfl⟩ := extracted
  exact checked

theorem revealing_material (valid : validateRevealingClaimForLifecycle prepared evidence = .ok material) :
    lib.checkedAdaptorSecret prepared.agreement material.adaptorSecret = true ∧
      material.agreementCommitment = prepared.agreement.agreementCommitment ∧
      material.direction = prepared.agreement.direction ∧
      material.revealingClaimant = claimantForLeg prepared.agreement (claimOrder prepared.agreement.direction).1 ∧
      material.followupClaimant = claimantForLeg prepared.agreement (claimOrder prepared.agreement.direction).2 := by
  unfold validateRevealingClaimForLifecycle at valid
  dsimp only at valid
  split at valid
  · simp only [validateBitcoinRevealingClaim, checked_ok, pure_ok] at valid
    obtain ⟨_, _, ⟨_, _, _, _, extracted⟩, rfl⟩ := valid
    exact ⟨extractAdaptorSecret_ok extracted, rfl, rfl, rfl, rfl⟩
  · simp only [validateLezRevealingClaim, checked_ok, pure_ok] at valid
    obtain ⟨_, _, ⟨_, _, _, _, _, _, extracted⟩, rfl⟩ := valid
    exact ⟨extractAdaptorSecret_ok extracted, rfl, rfl, rfl, rfl⟩
  · cases valid

theorem adaptPresignature_complete
    (lawful : lib.Lawful) (verified : lib.verifiedPresignature agreement domain presignature = true)
    (checked : lib.checkedAdaptorSecret agreement secret = true) :
    ∃ signature, adaptPresignature lib agreement domain presignature secret = .ok signature ∧
      lib.verifyFinal agreement domain signature = true := by
  obtain ⟨signature, adapts, final⟩ := lawful.adapts _ _ _ _ verified checked
  refine ⟨signature, ?_, final⟩
  simp [adaptPresignature, ensure, required, bind, Except.bind, pure, Except.pure, verified, checked, adapts, final]

def Claims (prepared : BtcPreparedProtocolV1 lib) (step : PublicEffectStepV1) : Prop :=
  match prepared.agreement.direction with
  | .takerSellsForeign => ∃ signature : Signature,
      step.expectedPublicId.bytes =
        lib.txidText (lib.computeTxid (prepared.agreement.cooperativeClaim [signature.bytes])) ∧
      step.exactBytes.bytes = lib.serialize (prepared.agreement.cooperativeClaim [signature.bytes])
  | .takerSellsLez => step.expectedPublicId = prepared.claimEffects.lezClaim.expectedPublicId

theorem buildFollowup_complete {record : lib.Record} (lawful : lib.Lawful)
    (validated : lib.validateRecord record = some prepared.agreement)
    (valid : validateRevealingClaimForLifecycle prepared evidence = .ok material) :
    ∃ plan step, buildFollowupClaimForLifecycle prepared material = .ok plan ∧ plan.steps = [step] ∧
      Claims prepared step := by
  obtain ⟨checked, bound⟩ := revealing_material valid
  obtain ⟨bitcoinVerified, lezVerified, _⟩ := prepared_claims prepared
  unfold buildFollowupClaimForLifecycle Claims
  simp only [ensure_ok bound, ok_bind]
  cases sells : prepared.agreement.direction with
  | takerSellsForeign =>
    obtain ⟨signature, adapted, final⟩ := adaptPresignature_complete lawful bitcoinVerified checked
    obtain ⟨_, nonempty, bounded⟩ := lawful.encodes record prepared.agreement signature validated
    obtain ⟨texts, short, graphic⟩ := lawful.txidText
      (lib.computeTxid (prepared.agreement.cooperativeClaim [signature.bytes]))
    obtain ⟨step, named⟩ := stepId_some "bitcoin.claim" (by decide +kernel)
    have plan := singleStepPlan_ok named ⟨texts, Nat.le_trans short (by decide), graphic⟩ ⟨nonempty, bounded⟩
    simp only [claimOrder, adapted, ok_bind, finalizeClaim, ensure_ok (lawful.keyPath _ _ final), pure,
      Except.pure, plan]
    refine ⟨_, _, rfl, rfl, ?_⟩
    exact ⟨signature, rfl, rfl⟩
  | takerSellsLez =>
    obtain ⟨signature, adapted, _⟩ := adaptPresignature_complete lawful lezVerified checked
    obtain ⟨exact, materialized, _⟩ := materialize_ok prepared.claimEffects.lezClaim signature
    obtain ⟨step, named⟩ := stepId_some "lez.claim" (by decide +kernel)
    have plan := singleStepPlan_ok named prepared.claimEffects.lezClaim.expectedPublicId.valid exact.valid
    simp only [claimOrder, adapted, ok_bind, materialized, plan]
    refine ⟨_, _, rfl, rfl, ?_⟩
    rfl

end Claims

section Revealed

variable {next : ActiveBtcSwap lib}

def Revealed (active : ActiveBtcSwap lib) : Prop :=
  active.coordinator.phase = .claimEvidenceAvailable →
    ∃ prepared evidence material, active.preparedProtocol = some prepared ∧
      active.transitions.findSome? revealingEvidence = some evidence ∧
      validateRevealingClaimForLifecycle prepared evidence = .ok material

theorem entryOf_revealing (reveals : entryOf agreement transition = .revealingClaim) :
    ∃ evidence, transition = .revealingClaimConfirmed evidence := by
  cases transition with
  | revealingClaimConfirmed evidence => exact ⟨evidence, rfl⟩
  | recoveryObserved state =>
    simp only [entryOf] at reveals
    split at reveals <;> contradiction
  | _ => cases reveals

theorem unrevealed (follows : Follows active) (phase : active.coordinator.phase = .bothLegsLocked) :
    active.transitions.findSome? revealingEvidence = none := by
  have table : ∀ log ∈ logPhases, log.2 = .bothLegsLocked → Entry.revealingClaim ∉ log.1 := by decide
  rw [List.findSome?_eq_none_iff]
  intro transition member
  cases transition with
  | revealingClaimConfirmed evidence =>
    exact absurd (List.mem_map_of_mem (f := entryOf active.agreement) member) (table _ follows.phase phase)
  | _ => rfl

theorem Revealed.step (follows : Follows active) (revealed : Revealed active)
    (applied : Applies active transition next) : Revealed next := by
  obtain ⟨outcome, applied⟩ := applied
  rcases applyTransition_ok applied with ⟨_, _, _, rfl⟩ | ⟨_, _, _, coordinator, performed, rfl⟩
  · exact revealed
  · intro phase
    have advances := applyNewTransition_advances follows.sameTerms performed
    have entry : entryOf active.agreement transition = .revealingClaim := by
      generalize entryOf active.agreement transition = entry at advances
      cases advances <;> first | rfl | cases phase
    obtain ⟨evidence, rfl⟩ := entryOf_revealing entry
    simp only [applyNewTransition, requirePhase, ActiveBtcSwap.prepared, checked_ok,
      required_ok_iff] at performed
    obtain ⟨waits, prepared, stored, material, valid, _⟩ := performed
    refine ⟨prepared, evidence, material, stored, ?_, valid⟩
    rw [advanced, List.findSome?_append, unrevealed follows waits]
    rfl

theorem Revealed.run {history : List (BtcLifecycleTransitionV1 lib)} (starts : sdk.Starts start)
    (run : Run Applies start history active) : Revealed active := by
  induction run with
  | nil =>
    intro phase
    have offered : start.coordinator.phase = .offered := by
      rcases starts with ⟨_, _, activated⟩ | ⟨_, _, activated⟩
      · obtain ⟨_, _, rfl⟩ := activate_ok activated
        exact fresh_phase _
      · obtain ⟨_, _, _, rfl⟩ := activatePrepared_ok activated
        exact fresh_phase _
    rw [offered] at phase
    cases phase
  | snoc before applied revealed => exact revealed.step (Follows.run starts before) applied

end Revealed

section Advancing

variable {step : PublicEffectStepV1} {evidence : BtcFollowupClaimEvidenceV1 lib}

/-- The entries that a log in a given phase takes next. -/
def awaited : List (Phase × Entry) :=
  [(.offered, .firstLock), (.takerLockConfirmed, .secondLock), (.bothLegsLocked, .revealingClaim),
    (.claimEvidenceAvailable, .followupClaim), (.bothLegsLocked, .makerRefund), (.takerLockConfirmed, .takerRefund),
    (.makerLegRefunded, .takerRefund)]

theorem Follows.fresh (follows : Follows active)
    (waits : (active.coordinator.phase, entryOf active.agreement transition) ∈ awaited) :
    transition ∉ active.transitions ∧ active.revision < 4 := by
  have table : ∀ log ∈ logPhases, ∀ waiting ∈ awaited, log.2 = waiting.1 → waiting.2 ∉ log.1 ∧ log.1.length < 4 := by
    decide
  obtain ⟨absent, room⟩ := table _ follows.phase _ waits rfl
  refine ⟨fun member => absent (List.mem_map_of_mem member), ?_⟩
  rwa [entries, List.length_map, ← follows.counted] at room

theorem OwnStep.waits (own : OwnStep active transition) :
    (active.coordinator.phase, entryOf active.agreement transition) ∈ awaited := by
  cases own with
  | firstLock phase => simp [phase, entryOf, awaited]
  | secondLock phase => simp [phase, entryOf, awaited]
  | reveal phase => simp [phase, entryOf, awaited]
  | followup phase => simp [phase, entryOf, awaited]

theorem fundingProof_iff {evidence : BtcFirstLockEvidenceV1 lib} {confirmations : Nat} (lawful : lib.Lawful) :
    (∃ proof, fundingProof evidence confirmations = .ok proof) ↔
      (publicId (.firstLockConfirmed evidence)).length ≤ 128 := by
  cases evidence with
  | bitcoin observed => exact chainProof_iff (lawful.txidText _).1 (lawful.txidText _).2.2
  | lez observed => exact chainProof_iff observed.fundingPublicId.valid.1 observed.fundingPublicId.valid.2.2

theorem publicId_lock (evidence : BtcFirstLockEvidenceV1 lib) :
    publicId (.firstLockConfirmed evidence) = publicId (.secondLockConfirmed evidence) := by
  cases evidence <;> rfl

theorem revealingClaimProof_iff {evidence : BtcRevealingClaimEvidenceV1 lib} (lawful : lib.Lawful) :
    (∃ proof, revealingClaimProof evidence = .ok proof) ↔
      (publicId (.revealingClaimConfirmed evidence)).length ≤ 128 := by
  cases evidence with
  | bitcoin observed => exact chainProof_iff (lawful.txidText _).1 (lawful.txidText _).2.2
  | lez observed => exact chainProof_iff observed.publicId.valid.1 observed.publicId.valid.2.2

theorem followupClaimProof_iff (lawful : lib.Lawful) :
    (∃ proof, followupClaimProof evidence = .ok proof) ↔
      (publicId (.followupClaimConfirmed evidence)).length ≤ 128 := by
  cases evidence with
  | bitcoin observed => exact chainProof_iff (lawful.txidText _).1 (lawful.txidText _).2.2
  | lez observed => exact chainProof_iff observed.publicId.valid.1 observed.publicId.valid.2.2

theorem OwnFollowup.validates {record : lib.Record} {plan : ExactPublicEffectPlanV1} (lawful : lib.Lawful)
    (validated : lib.validateRecord record = some prepared.agreement) (single : plan.steps = [step])
    (claims : Claims prepared step) (own : OwnFollowup prepared step evidence) :
    validateFollowupClaim prepared.agreement plan evidence = .ok () := by
  cases own with
  | @bitcoin observed direction network deep exact =>
    simp only [Claims, direction] at claims
    obtain ⟨signature, identified, encoded⟩ := claims
    obtain ⟨decodes, _⟩ := lawful.encodes record prepared.agreement signature validated
    have parsed := observed.parsed
    simp only [parseBitcoinRevealingClaim, exact, encoded, decodes, required, ok_bind, bind_ok_iff,
      pure_ok] at parsed
    obtain ⟨_, _, _, _, same⟩ := parsed
    simp only [validateFollowupClaim, single, direction, claimOrder, checked_ok]
    exact ⟨network, deep, by rw [← same, identified], exact⟩
  | lez direction =>
    simp [validateFollowupClaim, single, direction, claimOrder, ensure, bind, Except.bind]

structure Prepares (active : ActiveBtcSwap lib) (prepared : BtcPreparedProtocolV1 lib) : Prop where
  stored : active.preparedProtocol = some prepared
  agreement : active.agreement = prepared.agreement
  lockEffects : active.lockEffects = prepared.terms.lockEffects

theorem Prepares.run {accepted : AcceptedBtcAgreementV1 lib} {history : List (BtcLifecycleTransitionV1 lib)}
    (activated : sdk.activatePrepared accepted prepared = .ok start) (run : Run Applies start history active) :
    Prepares active prepared := by
  obtain ⟨_, same, _, rfl⟩ := activatePrepared_ok activated
  have replays := Replays.run rfl rfl run
  exact ⟨replays.preparedProtocol, (congrArg (·.agreement) replays.accepted).trans same.symm, replays.lockEffects⟩

theorem Prepares.record (prepares : Prepares active prepared) :
    ∃ record, lib.validateRecord record = some prepared.agreement := by
  have decoded := active.accepted.decoded
  rw [Option.bind_eq_some_iff] at decoded
  obtain ⟨record, _, validated⟩ := decoded
  exact ⟨record, validated.trans (congrArg some prepares.agreement)⟩

theorem reconstructs (lawful : lib.Lawful) (prepares : Prepares active prepared) (revealed : Revealed active)
    (phase : active.coordinator.phase = .claimEvidenceAvailable) :
    ∃ step, Reconstructed active prepared step ∧ Claims prepared step := by
  obtain ⟨other, evidence, material, stored, found, valid⟩ := revealed phase
  cases stored.symm.trans prepares.stored
  obtain ⟨record, validated⟩ := prepares.record
  obtain ⟨plan, step, built, single, claims⟩ := buildFollowup_complete lawful validated valid
  exact ⟨step, ⟨stored, evidence, material, plan, found, valid, built, single⟩, claims⟩

theorem OwnStep.accepts (lawful : lib.Lawful) (follows : Follows active) (prepares : Prepares active prepared)
    (own : OwnStep active transition) :
    (∃ after, active.applyNewTransition transition = .ok after) ↔ (publicId transition).length ≤ 128 := by
  have ready := path_ready follows.path
  have valid : active.lockEffects.validate active.agreement = .ok () := by
    rw [prepares.lockEffects, prepares.agreement]
    exact prepared.terms.locksValid
  cases own with
  | firstLock phase own =>
    exact (own.accepts valid phase fun _ => ready.observeTakerLock phase).trans (fundingProof_iff lawful)
  | secondLock phase own =>
    refine (own.accepts valid phase fun _ => observeMakerLock_first phase).trans ?_
    rw [fundingProof_iff lawful, publicId_lock]
  | @reveal _ evidence phase stored own =>
    obtain ⟨material, validates⟩ := own.validates lawful
    rw [← revealingClaimProof_iff lawful]
    simp only [applyNewTransition, requirePhase, ensure_ok phase, ActiveBtcSwap.prepared, stored, required,
      validates, ok_bind, bind_ok_iff, mapError_ok_iff]
    constructor
    · rintro ⟨_, proof, proves, _⟩
      exact ⟨proof, proves⟩
    · rintro ⟨proof, proves⟩
      obtain ⟨after, observed⟩ := ready.observeRevealingClaim phase
      exact ⟨after, proof, proves, observed⟩
  | @followup other step evidence phase reconstructed own =>
    cases reconstructed.stored.symm.trans prepares.stored
    obtain ⟨revealing, material, plan, found, validates, built, single⟩ := reconstructed.built
    obtain ⟨record, validated⟩ := prepares.record
    obtain ⟨_, again, rebuilt, alone, claims⟩ := buildFollowup_complete lawful validated validates
    cases built.symm.trans rebuilt
    cases single.symm.trans alone
    have followed := own.validates lawful validated single claims
    rw [← followupClaimProof_iff lawful]
    simp only [applyNewTransition, requirePhase, ensure_ok phase, ActiveBtcSwap.prepared,
      prepares.stored, found, required, validates, built, followed, ok_bind, bind_ok_iff, mapError_ok_iff]
    constructor
    · rintro ⟨_, proof, proves, _⟩
      exact ⟨proof, proves⟩
    · rintro ⟨proof, proves⟩
      obtain ⟨after, observed⟩ := ready.observeFollowupClaim phase
      exact ⟨after, proof, proves, observed⟩

def ActiveBtcSwap.Advances (active : ActiveBtcSwap lib) (transition : BtcLifecycleTransitionV1 lib) : Prop :=
  ∃ next, active.applyTransition transition = .ok (.applied (active.revision + 1), next)

/-- The evidence of the stored plan is accepted in every phase that waits for it, where its public id
    fits a coordinator identifier; and the follow-up claim can always be reconstructed. -/
theorem own_plan_advances (lawful : lib.Lawful) (sdk : BtcPairSdk) (accepted : AcceptedBtcAgreementV1 lib)
    (prepared : BtcPreparedProtocolV1 lib) (start active : ActiveBtcSwap lib)
    (history : List (BtcLifecycleTransitionV1 lib)) (activated : sdk.activatePrepared accepted prepared = .ok start)
    (run : Run Applies start history active) :
    (∀ transition, OwnStep active transition → (active.Advances transition ↔ (publicId transition).length ≤ 128)) ∧
      (active.coordinator.phase = .claimEvidenceAvailable → ∃ step, Reconstructed active prepared step) := by
  have starts : sdk.Starts start := .inr ⟨accepted, prepared, activated⟩
  have follows := Follows.run starts run
  have revealed := Revealed.run starts run
  have prepares := Prepares.run activated run
  constructor
  · intro transition own
    obtain ⟨fresh, room⟩ := follows.fresh own.waits
    rw [← own.accepts lawful follows prepares]
    simp only [ActiveBtcSwap.Advances, applyTransition_fresh fresh, ensure_ok room, ok_bind, bind_ok_iff,
      pure_ok, Prod.mk.injEq, true_and]
    constructor
    · rintro ⟨_, coordinator, performed, _⟩
      exact ⟨coordinator, performed⟩
    · rintro ⟨coordinator, performed⟩
      exact ⟨_, coordinator, performed, rfl⟩
  · intro phase
    obtain ⟨step, reconstructed, _⟩ := reconstructs lawful prepares revealed phase
    exact ⟨step, reconstructed⟩

theorem sampleLib_lawful : sampleLib.Lawful where
  txidText _ := by
    have text : List.replicate 64 (0x61 : UInt8) ≠ [] ∧ (List.replicate 64 (0x61 : UInt8)).length ≤ 128 ∧
        (List.replicate 64 (0x61 : UInt8)).all isAsciiGraphic = true := by decide
    exact text
  adapts _ _ _ secret _ checked := by
    have known : secret = 5 := of_decide_eq_true checked
    exact ⟨sampleSignature, if_pos known, rfl⟩
  reveals _ _ _ secret signature adapted := by
    by_cases known : secret = 5
    · rw [known]
      rfl
    · cases (if_neg known).symm.trans adapted
  keyPath _ _ _ := rfl
  encodes _ agreement signature validated := by
    cases validated
    have encoded : sampleLib.serialize (sampleAgreement.cooperativeClaim [signature.bytes]) = signature.bytes := by
      simp [sampleLib, BtcAgreementV1.cooperativeClaim]
    have long : signature.bytes ≠ [0] := by
      intro same
      have sized := signature.sized
      rw [same] at sized
      cases sized
    rw [encoded]
    refine ⟨(if_neg long).trans (if_pos signature.sized), ?_, ?_⟩
    · intro empty
      have sized := signature.sized
      rw [empty] at sized
      cases sized
    · rw [signature.sized]
      decide

/-- A funding id that activation admits and a coordinator identifier does not. -/
def sampleLongId : ExpectedPublicEffectId := sampleId 0x66 129 (by decide +kernel)

def sampleLongLez : PreparedLezFundingV1 := sampleLez sampleLongId (by decide +kernel)

theorem sampleLong_some : (samplePrepared sampleLongLez sampleFundingId []).toOption.isSome := by decide +kernel

theorem own_lock_refused : ∃ (start : ActiveBtcSwap sampleLib) (transition : BtcLifecycleTransitionV1 sampleLib),
      (∃ accepted prepared, sampleSdk.activatePrepared accepted prepared = .ok start) ∧ OwnStep start transition ∧
      start.applyTransition transition = .error (.invalidCoordinatorTransition .invalidIdentifier) := by
  obtain ⟨start, opens, replayed⟩ := bind_ok_iff.mp (ok_get sampleLong_some)
  cases replayed
  refine ⟨_, _, samplePrepared_starts opens, .firstLock ?_ (.lez ?_), error_of_raised ?_⟩ <;> decide +kernel

def sampleReached (history : List (BtcLifecycleTransitionV1 sampleLib))
    (made : (samplePrepared sampleLezFunding sampleFundingId history).toOption.isSome) : ActiveBtcSwap sampleLib :=
  (samplePrepared sampleLezFunding sampleFundingId history).toOption.get made

def sampleBothLocked : List (BtcLifecycleTransitionV1 sampleLib) :=
  [sampleFirstLock sampleLezFunding, sampleSecondLock]

theorem sampleBothLocked_some :
    (samplePrepared sampleLezFunding sampleFundingId sampleBothLocked).toOption.isSome := by decide +kernel

theorem sampleRevealed_some : (samplePrepared sampleLezFunding sampleFundingId
    (sampleBothLocked ++ [sampleReveal])).toOption.isSome := by decide +kernel

theorem sampleBothLocked_prepared :
    (sampleReached sampleBothLocked sampleBothLocked_some).preparedProtocol.isSome := by decide +kernel

def sampleHeld : BtcPreparedProtocolV1 sampleLib := Option.get _ sampleBothLocked_prepared

theorem sampleReveal_own : OwnStep (sampleReached sampleBothLocked sampleBothLocked_some) sampleReveal := by
  have adapted : adaptPresignature sampleLib sampleHeld.agreement .bitcoin
      sampleHeld.claimEffects.bitcoinPresignature 5 = .ok sampleSignature := ok_of_toOption (by decide +kernel)
  refine .reveal ?_ (Option.some_get sampleBothLocked_prepared).symm (.bitcoin ?_ ?_ ?_ ?_ adapted ?_) <;>
    decide +kernel

/-- The first lock of a fresh swap, the claim once both legs are locked, and the follow-up claim after it. -/
theorem own_plan_advances_sample : ∃ start locked revealed : ActiveBtcSwap sampleLib,
    (∃ evidence, OwnStep start (.firstLockConfirmed evidence) ∧ start.Advances (.firstLockConfirmed evidence)) ∧
    (OwnStep locked sampleReveal ∧ locked.Advances sampleReveal) ∧
    ∃ prepared step, Reconstructed revealed prepared step := by
  have plan := own_plan_advances sampleLib_lawful sampleSdk
  refine ⟨sampleReached [] sampleShort_some, sampleReached sampleBothLocked sampleBothLocked_some,
    sampleReached _ sampleRevealed_some, ?_, ⟨sampleReveal_own, ?_⟩, ?_⟩
  · obtain ⟨_, _, _, activated, run⟩ := samplePrepared_run (ok_get sampleShort_some)
    have own : OwnStep (sampleReached [] sampleShort_some) (.firstLockConfirmed _) :=
      .firstLock (by decide +kernel) (.lez (by decide +kernel))
    exact ⟨_, own, ((plan _ _ _ _ _ activated run).1 _ own).mpr (by decide +kernel)⟩
  · obtain ⟨_, _, _, activated, run⟩ := samplePrepared_run (ok_get sampleBothLocked_some)
    exact ((plan _ _ _ _ _ activated run).1 _ sampleReveal_own).mpr (by decide +kernel)
  · obtain ⟨_, prepared, _, activated, run⟩ := samplePrepared_run (ok_get sampleRevealed_some)
    obtain ⟨step, reconstructed⟩ := (plan _ _ _ _ _ activated run).2 (by decide +kernel)
    exact ⟨prepared, step, reconstructed⟩

end Advancing

end AtomicSwaps.BtcSdk
