import Mathlib.Logic.Relation
import AtomicSwaps.Zec.StoreSteps

namespace AtomicSwaps.Zec

open AtomicSwaps.Core Fallible

/-- A transition read back from the file. A claim is compared by what is durable of it. -/
def Store.Rereads (primitives : StorePrimitives) (store : Store) (revision : Nat) : CommittedTransition → Prop
  | .firstLock transition =>
    store.loadFirstLockTransition primitives revision = .ok (some transition)
  | .observedTakerFirstLock transition =>
    store.loadObservedTakerFirstLockTransition primitives revision = .ok (some transition)
  | .makerLock transition =>
    store.loadMakerLockTransition primitives revision = .ok (some transition)
  | .observedMakerLock transition =>
    store.loadObservedMakerLockTransition primitives revision = .ok (some transition)
  | .claim transition => ∃ step found,
    (store.loadOwnedClaimTransition primitives step revision = .ok (some found) ∨
      store.loadObservedClaimTransition primitives step revision = .ok (some found)) ∧
    found.record primitives.toPrimitives = transition.record primitives.toPrimitives
  | .refund transition =>
    store.loadRefundTransition primitives revision = .ok (some transition)

namespace SdkCall

def takerLockAnswer : SdkCall → Option (Answer (Option ObservedTakerFirstLockEvidenceV1))
  | .observeTakerFirstLock answer | .refreshMakerFundingEligibility answer
  | .driveMakerLock _ answer _ => some answer
  | _ => none

/-- An intent or a secret a call writes to the file, with what the SDK knew then. -/
inductive Stages (primitives : StorePrimitives) (world : World) (store : Store) : SdkCall → Prop
  | claimMaterial {preimage : Bytes32} {nonce : BitVec 192} {outcome : CreateOutcome}
      (created : world.store.createAgreementWithLocalClaimMaterial primitives preimage nonce =
        .ok (outcome, store)) :
      Stages primitives world store (.activateWithClaimPreimage preimage nonce)
  | firstLockIntent {plan : FirstLockPlanV1} {intent : FirstLockIntentV1} {outcome : CreateOutcome}
      (created : world.store.createFirstLockIntent primitives intent = .ok (outcome, store)) :
      Stages primitives world store (.stageFirstLock plan)
  | makerLockIntent {plan : FirstLockPlanV1}
      {answer : Answer (Option ObservedTakerFirstLockEvidenceV1)} {ports : LockPorts}
      {intent : MakerLockIntentV1} {outcome : CreateOutcome}
      (confirmed : world.active.status = .takerLockConfirmed)
      (current : intent.stagedRevision = world.active.revision)
      (created : world.store.createMakerLockIntent primitives intent = .ok (outcome, store)) :
      Stages primitives world store (.driveMakerLock plan answer ports)
  | claimIntent {ports : ClaimPorts} {prepared : PreparedSubmission ClaimStepV1}
      {intent : ClaimIntentV1} {payload : ProtectedClaimPayloadEnvelope} {outcome : CreateOutcome}
      (told : ports.prepareClaim = .ok prepared)
      (sealed : world.store.protectClaimSubmission primitives world.active.agreement
        world.active.localParticipant world.active.revision prepared ports.nonce = .ok payload)
      (built : ClaimIntentV1.fromActive world.active.agreement world.active.coordinator
        world.active.localParticipant world.active.revision prepared
        (primitives.payloadFingerprint payload) = .ok intent)
      (created : world.store.createClaimIntent primitives intent payload = .ok (outcome, store)) :
      Stages primitives world store (.driveClaim ports)
  | refundIntent {ports : RefundPorts} {intent : RefundIntentV1} {outcome : CreateOutcome}
      (told : ports.prepareRefund = .ok intent.prepared)
      (created : world.store.createRefundIntent primitives intent = .ok (outcome, store)) :
      Stages primitives world store (.driveRefund ports)

/-- A transition a call commits, with what the SDK has checked before it asks the store. -/
inductive Commits (primitives : StorePrimitives) (world : World) (outcome : ProjectionCommit)
    (store : Store) : SdkCall → CommittedTransition → Prop
  | firstLock {evidence : FirstLockConfirmedEvidenceV1} {transition : FirstLockTransitionV1}
      (committed : world.store.commitFirstLockTransition primitives transition =
        .ok (outcome, store)) :
      Commits primitives world outcome store (.projectFirstLock evidence) (.firstLock transition)
  | makerLock {evidence : FirstLockConfirmedEvidenceV1} {transition : MakerLockTransitionV1}
      (committed : world.store.commitMakerLockTransition primitives transition =
        .ok (outcome, store)) :
      Commits primitives world outcome store (.projectMakerLock evidence) (.makerLock transition)
  | observedMakerLock {transition : ObservedMakerLockTransitionV1}
      (confirmed : world.active.status = .takerLockConfirmed)
      (committed : world.store.commitObservedMakerLockTransition primitives transition =
        .ok (outcome, store)) :
      Commits primitives world outcome store
        (.observeMakerLock (.ok (.confirmed transition.evidence))) (.observedMakerLock transition)
  | observedTakerFirstLock {call : SdkCall} {transition : ObservedTakerFirstLockTransitionV1}
      (told : call.takerLockAnswer = some (.ok (some transition.evidence)))
      (observable : Sdk.takerLockObservable world.active.status = true)
      (committed : world.store.commitObservedTakerFirstLockTransition primitives transition =
        .ok (outcome, store)) :
      Commits primitives world outcome store call (.observedTakerFirstLock transition)
  | ownedClaim {ports : ClaimPorts} {transition : ClaimTransitionV1}
      (committed : world.store.commitOwnedClaimTransition primitives transition =
        .ok (outcome, store)) :
      Commits primitives world outcome store (.driveClaim ports) (.claim transition)
  | observedClaim {ports : ClaimPorts} {transition : ClaimTransitionV1}
      (committed : world.store.commitObservedClaimTransition primitives transition ports.nonce =
        .ok (outcome, store)) :
      Commits primitives world outcome store (.driveClaim ports) (.claim transition)
  | ownedRefund {ports : RefundPorts} {transition : RefundTransitionV1}
      (owned : transition.owned = true)
      (committed : world.store.commitRefundTransition primitives transition = .ok (outcome, store)) :
      Commits primitives world outcome store (.driveRefund ports) (.refund transition)
  | observedRefund {ports : RefundPorts} {transition : RefundTransitionV1}
      (told : ports.observeCounterpartyRefund = .ok (.confirmed transition.evidence))
      (committed : world.store.commitRefundTransition primitives transition = .ok (outcome, store)) :
      Commits primitives world outcome store (.driveRefund ports) (.refund transition)

end SdkCall

namespace Sdk

open Program

/-- One thing a call does to the world. A call is a sequence of these, whatever its answer. -/
inductive Effect (primitives : StorePrimitives) (call : SdkCall) (world : World) : World → Prop
  | freshened {agreement : ZecAgreementV1}
      (read : world.store.validatedAgreement primitives = .ok agreement) :
      Effect primitives call world { world with
        active := .fresh agreement world.store.localParticipant
          world.store.agreementRow.acceptedRevision }
  | moved {transition : CommittedTransition} {next : ActiveZecSwap}
      (reread : world.store.Rereads primitives world.active.revision transition)
      (applied : transition.applyTo primitives world.active = .ok next) :
      Effect primitives call world { world with
        active := { next with revision := world.active.revision + 1 } }
  | staged {store : Store} (stages : call.Stages primitives world store) :
      Effect primitives call world { world with store }
  | recorded {transition : CommittedTransition} {next : ActiveZecSwap} {outcome : ProjectionCommit}
      {store : Store} (applied : transition.applyTo primitives world.active = .ok next)
      (commits : call.Commits primitives world outcome store transition) :
      Effect primitives call world { world with
        store
        committed := if outcome.wasReplay then world.committed else world.committed ++ [transition] }
  | projected {transition : CommittedTransition} {next : ActiveZecSwap} {outcome : ProjectionCommit}
      {store : Store} (applied : transition.applyTo primitives world.active = .ok next)
      (commits : call.Commits primitives world outcome store transition)
      (expected : outcome.revision = world.active.revision + 1) :
      Effect primitives call world { world with
        store
        active := { next with revision := world.active.revision + 1 }
        committed := if outcome.wasReplay then world.committed else world.committed ++ [transition] }
  | handed {submission : HandedSubmission} :
      Effect primitives call world { world with handed := world.handed ++ [submission] }

def Reached (primitives : StorePrimitives) (call : SdkCall) (start world : World) : Prop :=
  Relation.ReflTransGen (Effect primitives call) start world

variable {primitives : StorePrimitives} {call : SdkCall} {start world : World}

theorem Reached.step {next : World} (reached : Reached primitives call start world)
    (effect : Effect primitives call world next) : Reached primitives call start next :=
  Relation.ReflTransGen.tail reached effect

theorem persisted_run {α : Type} (call : Store → Except StoreError α) (world : World) :
    persisted call world = ((call world.store).mapError .persistence, world) := rfl

theorem active_run (world : World) : Sdk.active world = (.ok world.active, world) := rfl

theorem answered_run {α : Type} (answer : Answer α) (world : World) :
    answered answer world = (answer.mapError .port, world) := rfl

section Rules

variable {α β : Type} {holds : World → Prop} {step : Sdk Bool}

theorem leaves_active_bind {rest : ActiveZecSwap → Sdk α}
    (after : holds (rest world.active world).2) : holds ((Sdk.active >>= rest) world).2 := after

variable {rest : α → Sdk β}

theorem leaves_persisted_bind {call : Store → Except StoreError α} (before : holds world)
    (after : ∀ value, call world.store = .ok value → holds (rest value world).2) :
    holds ((persisted call >>= rest) world).2 := by
  refine leaves_bind before fun value reached ran _ => ?_
  rw [persisted_run, Prod.mk.injEq, mapError_ok_iff] at ran
  obtain ⟨read, rfl⟩ := ran
  exact after value read

theorem leaves_answered_bind {answer : Answer α} (before : holds world)
    (after : ∀ value, answer = .ok value → holds (rest value world).2) :
    holds ((answered answer >>= rest) world).2 := by
  refine leaves_bind before fun value reached ran _ => ?_
  rw [answered_run, Prod.mk.injEq, mapError_ok_iff] at ran
  obtain ⟨read, rfl⟩ := ran
  exact after value read

theorem leaves_checked_bind {ε : Type} {value : Except ε α} {wrap : ε → ZecSdkError} (before : holds world)
    (after : ∀ result, value = .ok result → holds (rest result world).2) :
    holds ((lift (value.mapError wrap) >>= rest) world).2 :=
  leaves_lift_bind before fun result checked => after result (mapError_ok_iff.mp checked)

theorem requireRole_keeps (role : Participant) : Keeps holds (requireRole role) :=
  fun _ before => before

theorem answered_keeps (answer : Answer α) : Keeps holds (answered answer) :=
  fun _ before => before

theorem replayLoop_keeps (kept : Keeps holds step) (fuel : Nat) : Keeps holds (replayLoop step fuel) := by
  induction fuel with
  | zero => exact keeps_throw _
  | succ fuel rest =>
    refine keeps_bind kept fun more => ?_
    cases more with
    | true => exact rest
    | false => exact keeps_pure _

theorem replayAll_keeps (kept : Keeps holds step) : Keeps holds (replayAll step) :=
  fun world before => replayLoop_keeps kept (world.store.activeRevision + 1) world before

end Rules

variable {reached : World} {store : Store} {outcome : CreateOutcome} {holds : World → Prop} {store' : Store}

theorem replayStep_reaches {Transition : Type} (wrap : Transition → CommittedTransition)
    {load : Store → Nat → Except StoreError (Option Transition)}
    {apply : Transition → ActiveZecSwap → Except ZecSdkError ActiveZecSwap}
    (reread : ∀ {store : Store} {revision transition}, load store revision = .ok (some transition) →
      store.Rereads primitives revision (wrap transition))
    (applies : ∀ transition active, apply transition active =
      (wrap transition).applyTo primitives active) :
    Keeps (Reached primitives call start) (replayStep load apply) := by
  intro world before
  refine leaves_active_bind (leaves_persisted_bind before fun loaded read => ?_)
  cases loaded with
  | none => exact before
  | some transition =>
    refine leaves_lift_bind before fun next applied => leaves_lift_bind before fun _ _ => ?_
    rw [applies] at applied
    exact before.step (.moved (reread read) applied)

theorem replayObservedTakerFirstLockTransition_reaches :
    Keeps (Reached primitives call start) (replayObservedTakerFirstLockTransition primitives) :=
  replayAll_keeps (replayStep_reaches .observedTakerFirstLock (fun read => read) fun _ _ => rfl)

theorem replayFirstLockTransition_reaches :
    Keeps (Reached primitives call start) (replayFirstLockTransition primitives) := by
  intro world before
  refine leaves_active_bind ?_
  split
  · refine keeps_bind replayObservedTakerFirstLockTransition_reaches (fun _ => ?_) world before
    exact keeps_bind (replayStep_reaches .makerLock (fun read => read) fun _ _ => rfl)
      fun _ => keeps_pure _
  · refine keeps_bind (replayStep_reaches .firstLock (fun read => read) fun _ _ => rfl) (fun _ => ?_)
      world before
    exact keeps_bind (replayStep_reaches .observedMakerLock (fun read => read) fun _ _ => rfl)
      fun _ => keeps_pure _

theorem replayClaimTransitions_reaches :
    Keeps (Reached primitives call start) (replayClaimTransitions primitives) := by
  refine replayAll_keeps fun world before => leaves_active_bind ?_
  cases claimAwaited world.active with
  | none => exact before
  | some awaited =>
    obtain ⟨step, own⟩ := awaited
    cases own with
    | true =>
      exact replayStep_reaches .claim (fun read => ⟨step, _, .inl read, rfl⟩) (fun _ _ => rfl)
        world before
    | false =>
      exact replayStep_reaches .claim (fun read => ⟨step, _, .inr read, rfl⟩) (fun _ _ => rfl)
        world before

theorem replayRefundTransitions_reaches :
    Keeps (Reached primitives call start) (replayRefundTransitions primitives) :=
  replayAll_keeps (replayStep_reaches .refund (fun read => read) fun _ _ => rfl)

theorem project_reaches {transition : CommittedTransition} {next : ActiveZecSwap}
    {commit : Store → Except StoreError (ProjectionCommit × Store)}
    {probe : Store → Nat → Except StoreError Bool}
    (before : Reached primitives call start world)
    (applied : transition.applyTo primitives world.active = .ok next)
    (commits : ∀ outcome store, commit world.store = .ok (outcome, store) →
      call.Commits primitives world outcome store transition)
    (probes : probe world.store world.active.revision = .ok true →
      world.store.Rereads primitives world.active.revision transition) :
    Reached primitives call start (project transition next commit probe world).2 := by
  unfold project
  refine leaves_bind before fun value reached ran _ => ?_
  cases ran
  refine leaves_lift_bind before fun _ _ => ?_
  cases committed : commit world.store with
  | error error =>
    simp only
    refine leaves_persisted_bind before fun found read => ?_
    cases found with
    | false => exact before
    | true => exact before.step (.moved (probes read) applied)
  | ok result =>
    obtain ⟨outcome, store⟩ := result
    have commits := commits outcome store committed
    refine leaves_bind (by exact before.step (.recorded applied commits)) fun _ reached ran _ => ?_
    cases ran
    refine leaves_lift_bind (before.step (.recorded applied commits)) fun _ expected => ?_
    exact before.step (.projected applied commits (ensure_ok_iff.mp expected))

theorem probe_returned {Transition : Type} [DecidableEq Transition]
    {load : Except StoreError (Option Transition)} {transition : Transition}
    (probed : (do let found ← load; return decide (found = some transition)) = Except.ok true) :
    load = .ok (some transition) := by
  obtain ⟨found, read, same⟩ := bind_ok_iff.mp probed
  simp only [pure_ok, decide_eq_true_eq] at same
  rw [read, same]

theorem claim_probe_returned {load : Except StoreError (Option ClaimTransitionV1)}
    {transition : ClaimTransitionV1}
    (probed : (do
      let found ← load
      return decide (found.map (ClaimTransitionV1.record primitives.toPrimitives) =
        some (transition.record primitives.toPrimitives))) = Except.ok true) :
    ∃ found, load = .ok (some found) ∧
      found.record primitives.toPrimitives = transition.record primitives.toPrimitives := by
  obtain ⟨found, read, same⟩ := bind_ok_iff.mp probed
  simp only [pure_ok, decide_eq_true_eq, Option.map_eq_some_iff] at same
  obtain ⟨durable, rfl, same⟩ := same
  exact ⟨durable, read, same⟩

theorem persist_reaches {α : Type} {called : Store → Except StoreError (α × Store)}
    (before : Reached primitives call start world)
    (stages : ∀ value store, called world.store = .ok (value, store) → call.Stages primitives world store) :
    Reached primitives call start (persist called world).2 := by
  unfold persist
  cases created : called world.store with
  | error error => exact before
  | ok result =>
    obtain ⟨value, store⟩ := result
    exact before.step (.staged (stages value store created))

theorem stageFirstLock_reaches (plan : FirstLockPlanV1) :
    Keeps (Reached primitives (.stageFirstLock plan) start) (stageFirstLock primitives plan) := by
  refine keeps_bind (requireRole_keeps _) fun _ world before => leaves_active_bind ?_
  refine leaves_lift_bind before fun _ _ => leaves_lift_bind before fun intent _ => ?_
  refine leaves_bind (persist_reaches before fun _ _ created => .firstLockIntent created)
    fun outcome reached _ held => ?_
  split
  · exact held
  · exact held

theorem observeMakerLock_reaches (answer : Answer (PortObservation FirstLockConfirmedEvidenceV1)) :
    Keeps (Reached primitives (.observeMakerLock answer) start)
      (observeMakerLock primitives answer) := by
  refine keeps_bind (requireRole_keeps _) fun _ => keeps_bind replayFirstLockTransition_reaches
    fun _ world before => leaves_active_bind ?_
  split
  · exact before
  · refine leaves_lift_bind before fun _ confirmed => leaves_answered_bind before fun observed told => ?_
    rw [ensure_ok_iff] at confirmed
    cases observed with
    | absent => exact before
    | unstable => exact before
    | confirmed evidence =>
      refine leaves_checked_bind before fun transition built => ?_
      refine leaves_lift_bind before fun next applied => ?_
      have carried : transition.evidence = evidence := by
        simp only [ObservedMakerLockTransitionV1.fromActive, checked_ok] at built
        obtain ⟨-, -, -, returned⟩ := built
        cases returned
        rfl
      subst carried
      subst told
      exact leaves_bind (project_reaches before applied
        (fun _ _ committed => .observedMakerLock confirmed committed)
        fun probed => probe_returned probed) fun _ _ _ held => held

variable {answer : Answer (Option ObservedTakerFirstLockEvidenceV1)}

theorem observeTakerFirstLock_reaches (asked : call.takerLockAnswer = some answer) :
    Keeps (Reached primitives call start) (observeTakerFirstLock primitives answer) := by
  refine keeps_bind (requireRole_keeps _) fun _ => keeps_bind
    replayObservedTakerFirstLockTransition_reaches fun _ world before => leaves_active_bind ?_
  refine leaves_lift_bind before fun _ observable => leaves_answered_bind before fun observed told => ?_
  rw [ensure_ok_iff] at observable
  cases observed with
  | none => exact before
  | some evidence =>
    refine leaves_checked_bind before fun transition built => leaves_lift_bind before
      fun proposes _ => ?_
    have carried : transition.evidence = evidence := by
      simp only [ObservedTakerFirstLockTransitionV1.fromActive, checked_ok] at built
      obtain ⟨-, -, -, returned⟩ := built
      cases returned
      rfl
    subst carried
    subst told
    cases proposes with
    | false => exact before
    | true =>
      refine leaves_lift_bind before fun next applied => ?_
      refine leaves_bind (project_reaches before applied
        (fun _ _ committed => .observedTakerFirstLock asked observable committed)
        fun probed => probe_returned probed) fun _ _ _ held => ?_
      exact keeps_bind replayObservedTakerFirstLockTransition_reaches (fun _ => keeps_pure _) _ held

theorem refreshMakerFundingEligibility_reaches (asked : call.takerLockAnswer = some answer) :
    Keeps (Reached primitives call start) (refreshMakerFundingEligibility primitives answer) := by
  refine keeps_bind (requireRole_keeps _) fun _ => keeps_bind (observeTakerFirstLock_reaches asked)
    fun outcome => ?_
  cases outcome with
  | unchanged step => exact fun world before => before
  | awaitingStableObservation step => exact keeps_pure _
  | projected commit => exact keeps_pure _

theorem refreshMakerFundingEligibility_eligible {revision : Nat}
    (ran : refreshMakerFundingEligibility primitives answer world =
      (.ok (.eligible revision), reached)) : reached.active.status = .takerLockConfirmed := by
  obtain ⟨_, checked, -, ran⟩ := bind_ok_run ran
  obtain ⟨outcome, observed, -, ran⟩ := bind_ok_run ran
  cases outcome with
  | awaitingStableObservation step => cases ran
  | projected commit => cases ran
  | unchanged step =>
    simp only [bind_run (active_run observed), pure_run, Prod.mk.injEq, Except.ok.injEq] at ran
    obtain ⟨eligible, rfl⟩ := ran
    cases direction : observed.active.agreement.direction with
    | takerSellsForeign =>
      simp only [direction, classifyUnchangedMakerEligibility] at eligible
      split at eligible
      · assumption
      · cases eligible
    | takerSellsLez =>
      simp only [direction, classifyUnchangedLezMakerEligibility] at eligible
      split at eligible
      · cases eligible
      · split at eligible
        · cases eligible
        · rename_i short
          exact Decidable.byContradiction fun other => short (.inl other)

theorem projectFirstLock_reaches (evidence : FirstLockConfirmedEvidenceV1) :
    Keeps (Reached primitives (.projectFirstLock evidence) start)
      (projectFirstLock primitives evidence) := by
  intro world before
  refine leaves_active_bind (leaves_persisted_bind before fun loaded _ => ?_)
  cases loaded with
  | none => exact before
  | some intent =>
    refine leaves_lift_bind before fun transition _ => leaves_lift_bind before fun next applied => ?_
    exact project_reaches before applied (fun _ _ committed => .firstLock committed)
      fun probed => probe_returned probed

theorem projectMakerLock_reaches (evidence : FirstLockConfirmedEvidenceV1) :
    Keeps (Reached primitives (.projectMakerLock evidence) start)
      (projectMakerLock primitives evidence) := by
  refine keeps_bind (requireRole_keeps _) fun _ world before => ?_
  refine leaves_active_bind (leaves_persisted_bind before fun loaded _ => ?_)
  cases loaded with
  | none => exact before
  | some intent =>
    refine leaves_lift_bind before fun transition _ => leaves_lift_bind before fun next applied => ?_
    exact project_reaches before applied (fun _ _ committed => .makerLock committed)
      fun probed => probe_returned probed

theorem driveLockStep_reaches (ports : LockPorts) (submission : PreparedSubmission FirstLockStepV1) :
    Keeps (Reached primitives call start) (driveLockStep ports submission) := by
  refine keeps_bind (answered_keeps _) fun observed => ?_
  cases observed with
  | absent =>
    exact keeps_bind (fun world before => before.step .handed) fun _ =>
      keeps_bind (answered_keeps _) fun _ => keeps_pure _
  | unstable => exact keeps_pure _
  | confirmed evidence =>
    exact fun world before => leaves_active_bind (leaves_lift_bind before fun _ _ => before)

theorem driveLockPlan_reaches (ports : LockPorts) (plan : FirstLockPlanV1) :
    Keeps (Reached primitives call start) (driveLockPlan ports plan) := by
  cases plan with
  | zcash funding _ => exact driveLockStep_reaches ports funding
  | lez initialization fund _ _ _ =>
    refine keeps_bind (driveLockStep_reaches ports initialization) fun outcome => ?_
    cases outcome with
    | readyForFundingProjection => exact driveLockStep_reaches ports fund
    | submitted => exact keeps_pure _
    | awaitingStableObservation => exact keeps_pure _

theorem driveFirstLock_reaches (ports : LockPorts) :
    Keeps (Reached primitives (.driveFirstLock ports) start) (driveFirstLock primitives ports) := by
  refine fun world before => leaves_active_bind (leaves_persisted_bind before fun loaded _ => ?_)
  cases loaded with
  | none => exact before
  | some intent => exact leaves_lift_bind before fun _ _ => driveLockPlan_reaches ports _ world before

variable {plan : FirstLockPlanV1}

theorem makerLockIntent_reaches {ports : LockPorts}
    (before : Reached primitives (.driveMakerLock plan answer ports) start world)
    (confirmed : world.active.status = .takerLockConfirmed) :
    Reached primitives (.driveMakerLock plan answer ports) start
      (makerLockIntent primitives plan world).2 := by
  refine leaves_active_bind (leaves_persisted_bind before fun loaded _ => ?_)
  cases loaded with
  | some intent =>
    refine leaves_lift_bind before fun _ _ => ?_
    split
    · exact before
    · exact before
  | none =>
    refine leaves_checked_bind before fun intent built => ?_
    have current : intent.stagedRevision = world.active.revision := by
      simp only [MakerLockIntentV1.fromActive, checked_ok] at built
      obtain ⟨-, -, returned⟩ := built
      cases returned
      rfl
    refine leaves_bind (persist_reaches before fun _ _ created =>
      .makerLockIntent confirmed current created) fun outcome reached _ held => ?_
    split
    · exact held
    · exact held

theorem persist_ok {α : Type} {called : Store → Except StoreError (α × Store)} {value : α}
    (ran : persist called world = (.ok value, reached)) :
    ∃ store, called world.store = .ok (value, store) ∧ reached = { world with store } := by
  unfold persist at ran
  split at ran
  · rename_i result store created
    cases ran
    exact ⟨store, created, rfl⟩
  · cases ran

theorem driveMakerLock_reaches (plan : FirstLockPlanV1)
    (answer : Answer (Option ObservedTakerFirstLockEvidenceV1)) (ports : LockPorts) :
    Keeps (Reached primitives (.driveMakerLock plan answer ports) start)
      (driveMakerLock primitives plan answer ports) := by
  refine keeps_bind (requireRole_keeps _) fun _ => keeps_bind replayFirstLockTransition_reaches
    fun _ world before => leaves_active_bind ?_
  split
  · exact before
  · refine leaves_bind (refreshMakerFundingEligibility_reaches rfl world before)
      fun outcome eligible ran held => ?_
    cases outcome with
    | eligible revision =>
      have confirmed := refreshMakerFundingEligibility_eligible ran
      exact leaves_bind (makerLockIntent_reaches held confirmed) fun _ staged _ held =>
        leaves_bind (driveLockPlan_reaches ports _ staged held) fun _ _ _ held => held
    | _ => exact held

variable {ports : ClaimPorts}

theorem stageClaimIntent_reaches
    {prepared : PreparedSubmission ClaimStepV1} (told : ports.prepareClaim = .ok prepared) :
    Keeps (Reached primitives (.driveClaim ports) start)
      (stageClaimIntent primitives prepared ports.nonce) := by
  refine fun world before => leaves_active_bind (leaves_persisted_bind before fun payload sealed => ?_)
  refine leaves_checked_bind before fun intent built => leaves_bind before fun _ _ ran _ => ?_
  cases ran
  cases created : world.store.createClaimIntent primitives intent payload with
  | error error =>
    refine leaves_persisted_bind before fun loaded _ => ?_
    split
    · exact before
    · exact before
  | ok result =>
    obtain ⟨outcome, store⟩ := result
    have after : Reached primitives (.driveClaim ports) start { world with store } :=
      before.step (.staged (.claimIntent told sealed built created))
    cases outcome with
    | conflict => exact before
    | created => exact after
    | existingSame => exact after

theorem claimIntent_reaches (ports : ClaimPorts) :
    Keeps (Reached primitives (.driveClaim ports) start)
      (claimIntent primitives ports) := by
  refine fun world before => leaves_persisted_bind before fun loaded _ => ?_
  cases loaded with
  | some retained => exact before
  | none =>
    refine leaves_persisted_bind before fun material _ => ?_
    cases material with
    | none => exact before
    | some _ =>
      refine leaves_answered_bind before fun prepared told => ?_
      refine keeps_bind (stageClaimIntent_reaches told)
        (fun _ reached held => leaves_persisted_bind held fun staged _ => ?_) world before
      cases staged with
      | some _ => exact held
      | none => exact held

theorem commitOwnedClaim_reaches (transition : ClaimTransitionV1) :
    Keeps (Reached primitives (.driveClaim ports) start) (commitOwnedClaim primitives transition) := by
  refine fun world before => leaves_active_bind (leaves_lift_bind before fun next applied => ?_)
  refine leaves_bind (project_reaches before applied (fun _ _ committed => .ownedClaim committed)
    fun probed => ?_) fun _ _ _ held => held
  obtain ⟨found, read, same⟩ := claim_probe_returned probed
  exact ⟨_, found, .inl read, same⟩

theorem commitObservedClaim_reaches (transition : ClaimTransitionV1) :
    Keeps (Reached primitives (.driveClaim ports) start)
      (commitObservedClaim primitives transition ports.nonce) := by
  refine fun world before => leaves_active_bind (leaves_lift_bind before fun next applied => ?_)
  refine leaves_bind (project_reaches before applied (fun _ _ committed => .observedClaim committed)
    fun probed => ?_) fun _ _ _ held => held
  obtain ⟨found, read, same⟩ := claim_probe_returned probed
  exact ⟨_, found, .inr read, same⟩

theorem driveOwnedRevealingClaim_reaches (ports : ClaimPorts) :
    Keeps (Reached primitives (.driveClaim ports) start) (driveOwnedRevealingClaim primitives ports) := by
  refine keeps_bind (claimIntent_reaches ports) fun retained world before => ?_
  refine leaves_active_bind (leaves_persisted_bind before fun prepared _ =>
    leaves_answered_bind before fun observed _ => ?_)
  cases observed with
  | unstable => exact before
  | confirmed evidence =>
    exact leaves_lift_bind before fun transition _ => commitOwnedClaim_reaches transition world before
  | absent =>
    refine leaves_active_bind (leaves_checked_bind before fun context _ =>
      leaves_answered_bind before fun funding _ => ?_)
    cases funding with
    | waiting reason => exact before
    | confirmed canonical unspent =>
      refine leaves_checked_bind before fun _ _ => leaves_bind (by exact before.step .handed) ?_
      exact fun _ sent _ held => keeps_bind (answered_keeps _) (fun _ => keeps_pure _) sent held

theorem observeRevealingClaim_reaches (ports : ClaimPorts) :
    Keeps (Reached primitives (.driveClaim ports) start) (observeRevealingClaim primitives ports) := by
  refine fun world before => leaves_active_bind (leaves_answered_bind before fun observed _ => ?_)
  cases observed with
  | absent => exact before
  | unstable => exact before
  | confirmed evidence =>
    exact leaves_lift_bind before fun transition _ =>
      commitObservedClaim_reaches transition world before

theorem driveOwnedFollowupClaim_reaches (ports : ClaimPorts) :
    Keeps (Reached primitives (.driveClaim ports) start) (driveOwnedFollowupClaim primitives ports) := by
  refine fun world before => leaves_active_bind (leaves_lift_bind before fun _ _ => ?_)
  refine keeps_bind (claimIntent_reaches ports) (fun retained reached held => ?_) world before
  refine leaves_persisted_bind held fun prepared _ => leaves_answered_bind held fun observed _ => ?_
  cases observed with
  | unstable => exact held
  | confirmed evidence =>
    exact leaves_lift_bind held fun transition _ => commitOwnedClaim_reaches transition reached held
  | absent =>
    exact leaves_bind (by exact held.step .handed)
      fun _ sent _ held => keeps_bind (answered_keeps _) (fun _ => keeps_pure _) sent held

theorem observeFollowupClaim_reaches (ports : ClaimPorts) :
    Keeps (Reached primitives (.driveClaim ports) start) (observeFollowupClaim primitives ports) := by
  refine fun world before => leaves_active_bind (leaves_lift_bind before fun _ _ =>
    leaves_answered_bind before fun observed _ => ?_)
  cases observed with
  | absent => exact before
  | unstable => exact before
  | confirmed evidence =>
    exact leaves_lift_bind before fun transition _ =>
      commitObservedClaim_reaches transition world before

theorem driveClaim_reaches (ports : ClaimPorts) :
    Keeps (Reached primitives (.driveClaim ports) start) (driveClaim primitives ports) := by
  refine keeps_bind replayClaimTransitions_reaches fun _ world before => leaves_active_bind ?_
  cases claimAwaited world.active with
  | none =>
    simp only
    split
    · exact before
    · exact before
  | some claim =>
    obtain ⟨step, own⟩ := claim
    cases step with
    | revealingLez =>
      cases own with
      | true => exact driveOwnedRevealingClaim_reaches ports world before
      | false => exact observeRevealingClaim_reaches ports world before
    | followupZcash =>
      cases own with
      | true => exact driveOwnedFollowupClaim_reaches ports world before
      | false => exact observeFollowupClaim_reaches ports world before

theorem requireRefundContext_keeps (step : RefundStepV1) : Keeps holds (requireRefundContext step) := by
  intro world before
  cases step with
  | lez => exact before
  | zcash => exact leaves_active_bind (leaves_lift_bind before fun _ _ => before)

theorem checkRefundEligibility_keeps (step : RefundStepV1) (answer : Answer RefundEligibilityObservationV1) :
    Keeps holds (checkRefundEligibility step answer) := by
  refine keeps_bind (requireRefundContext_keeps step) fun _ =>
    keeps_bind (answered_keeps answer) fun observed => ?_
  cases observed with
  | unstable => exact keeps_pure _
  | fundingUnavailable reason => exact keeps_pure _
  | canonical position =>
    refine fun world before => leaves_active_bind ?_
    cases step.validateDeadline world.active.agreement position with
    | ok => exact before
    | error error => cases error <;> exact before

variable {step : RefundStepV1}

theorem commitRefundTransition_reaches {ports : RefundPorts} {transition : RefundTransitionV1}
    (before : Reached primitives (.driveRefund ports) start world)
    (commits : ∀ outcome store,
      world.store.commitRefundTransition primitives transition = .ok (outcome, store) →
      (SdkCall.driveRefund ports).Commits primitives world outcome store (.refund transition)) :
    Reached primitives (.driveRefund ports) start (commitRefundTransition primitives transition world).2 :=
  leaves_active_bind (leaves_lift_bind before fun _ applied =>
    leaves_bind (project_reaches before applied commits fun probed => probe_returned probed)
      fun _ _ _ held => held)

theorem submitPreparedRefund_reaches {ports : RefundPorts} (intent : RefundIntentV1) :
    Keeps (Reached primitives (.driveRefund ports) start) (submitPreparedRefund primitives step ports intent) := by
  refine fun world before => leaves_active_bind (leaves_lift_bind before fun _ _ => leaves_lift_bind before
    fun _ _ => ?_)
  refine keeps_bind (requireRefundContext_keeps _) (fun _ reached before =>
    leaves_answered_bind before fun observed _ => ?_) world before
  cases observed with
  | unstable => exact before
  | confirmed evidence =>
    refine leaves_checked_bind before fun transition built =>
      commitRefundTransition_reaches before fun _ _ committed => .ownedRefund ?_ committed
    simp only [RefundTransitionV1.fromOwned, checked_ok] at built
    obtain ⟨-, -, -, returned⟩ := built
    cases returned
    rfl
  | absent =>
    refine keeps_bind (checkRefundEligibility_keeps _ _) (fun wait => ?_) reached before
    cases wait with
    | some outcome => exact keeps_pure _
    | none =>
      refine keeps_bind (requireRefundContext_keeps _) fun _ =>
        keeps_bind (fun world before => before.step .handed) fun _ =>
        keeps_bind (answered_keeps _) fun outcome => ?_
      cases outcome <;> exact keeps_pure _

theorem stageRefundIntent_reaches {ports : RefundPorts}
    {prepared : PreparedSubmission RefundStepV1} (told : ports.prepareRefund = .ok prepared) :
    Keeps (Reached primitives (.driveRefund ports) start)
      (stageRefundIntent primitives prepared) := by
  refine fun world before => leaves_active_bind (leaves_checked_bind before fun intent built =>
    leaves_bind before fun _ _ ran _ => ?_)
  cases ran
  have same : intent.prepared = prepared := by
    simp only [RefundIntentV1.fromActive, checked_ok] at built
    obtain ⟨-, -, returned⟩ := built
    cases returned
    rfl
  cases created : world.store.createRefundIntent primitives intent with
  | error error =>
    refine leaves_persisted_bind before fun loaded _ => ?_
    split
    · exact before
    · exact before
  | ok result =>
    obtain ⟨outcome, store⟩ := result
    have after : Reached primitives (.driveRefund ports) start { world with store } :=
      before.step (.staged (.refundIntent (by rw [same]; exact told) created))
    cases outcome with
    | conflict => exact before
    | created => exact after
    | existingSame => exact after

theorem driveOwnedRefund_reaches (ports : RefundPorts) :
    Keeps (Reached primitives (.driveRefund ports) start) (driveOwnedRefund primitives step ports) := by
  refine fun world before => leaves_persisted_bind before fun loaded _ => ?_
  cases loaded with
  | some intent => exact submitPreparedRefund_reaches intent world before
  | none =>
    refine keeps_bind (checkRefundEligibility_keeps _ _) (fun wait => ?_) world before
    cases wait with
    | some outcome => exact keeps_pure _
    | none =>
      refine keeps_bind (requireRefundContext_keeps _) fun _ world before =>
        leaves_answered_bind before fun prepared told => ?_
      refine keeps_bind (stageRefundIntent_reaches told) (fun _ reached held =>
        leaves_persisted_bind held fun loaded _ => ?_) world before
      cases loaded with
      | none => exact held
      | some intent => exact submitPreparedRefund_reaches intent reached held

theorem observeCounterpartyRefund_reaches (ports : RefundPorts) :
    Keeps (Reached primitives (.driveRefund ports) start) (observeCounterpartyRefund primitives step ports) := by
  refine keeps_bind (requireRefundContext_keeps _) fun _ world before =>
    leaves_active_bind (leaves_answered_bind before fun observed told => ?_)
  cases observed with
  | absent => exact before
  | unstable => exact before
  | confirmed evidence =>
    refine leaves_checked_bind before fun transition built =>
      commitRefundTransition_reaches before fun _ _ committed => .observedRefund ?_ committed
    simp only [RefundTransitionV1.fromObserved, checked_ok] at built
    obtain ⟨-, -, returned⟩ := built
    cases returned
    exact told

theorem driveRefund_reaches (ports : RefundPorts) :
    Keeps (Reached primitives (.driveRefund ports) start) (driveRefund primitives ports) := by
  refine keeps_bind replayRefundTransitions_reaches fun _ world before => leaves_active_bind ?_
  split
  · exact before
  · cases refundAwaited world.active with
    | none => exact before
    | some step =>
      simp only
      split
      · exact driveOwnedRefund_reaches ports world before
      · exact observeCounterpartyRefund_reaches ports world before

theorem activate_reaches : Keeps (Reached primitives call start) (activate primitives) := by
  intro world before
  refine leaves_persisted_bind before fun agreement read => leaves_bind before fun _ _ ran _ => ?_
  cases ran
  refine leaves_lift_bind before fun _ accepted => ?_
  have fresh := before.step (.freshened read)
  rw [ensure_ok_iff] at accepted
  rw [accepted] at fresh
  exact fresh

theorem createAgreementWithLocalClaimMaterial_agreement {preimage : Bytes32}
    {nonce : BitVec 192}
    (created : store.createAgreementWithLocalClaimMaterial primitives preimage nonce =
      .ok (outcome, store')) : store'.agreementRow = store.agreementRow := by
  simp only [Store.createAgreementWithLocalClaimMaterial, checked_ok] at created
  obtain ⟨agreement, -, -, created⟩ := created
  split at created
  · cases created
    rfl
  · cases secret : store.claimMaterial with
    | none =>
      simp only [secret] at created
      cases created
      rfl
    | some material =>
      simp only [secret] at created
      split at created
      · obtain ⟨existing, -, returned⟩ := bind_ok_iff.mp created
        cases returned
        rfl
      · cases created
        rfl

theorem activateWithClaimPreimage_reaches (preimage : Bytes32) (nonce : BitVec 192) :
    Keeps (Reached primitives (.activateWithClaimPreimage preimage nonce) start)
      (activateWithClaimPreimage primitives preimage nonce) := by
  intro world before
  refine leaves_persisted_bind before fun agreement read => leaves_bind before fun _ _ ran _ => ?_
  cases ran
  refine leaves_lift_bind before fun _ accepted => leaves_lift_bind before fun _ _ =>
    leaves_lift_bind before fun _ _ => ?_
  refine leaves_bind (persist_reaches before fun _ _ created => .claimMaterial created)
    fun outcome reached ran held => ?_
  obtain ⟨store, created, rfl⟩ := persist_ok ran
  have kept := createAgreementWithLocalClaimMaterial_agreement created
  split
  · exact held
  · have reread : store.validatedAgreement primitives = .ok agreement := by
      unfold Store.validatedAgreement
      rw [kept]
      exact read
    have fresh := held.step (.freshened reread)
    rw [ensure_ok_iff] at accepted
    simp only [kept, accepted] at fresh
    exact fresh

theorem resumeAllCapable_reaches : Keeps (Reached primitives call start) (resumeAllCapable primitives) := by
  intro world before
  refine leaves_persisted_bind before fun agreement read => ?_
  refine leaves_bind (by exact before.step (.freshened read)) fun _ reached _ held => ?_
  exact keeps_bind replayFirstLockTransition_reaches
    (fun _ => keeps_bind replayClaimTransitions_reaches fun _ => replayRefundTransitions_reaches)
    reached held

/-- Every call is a sequence of effects. -/
theorem after_reaches (world : World) (call : SdkCall) :
    Reached primitives call world (world.after primitives call) := by
  have ignored {α : Type} {program : Sdk α}
      (kept : Keeps (Reached primitives call world) program) :
      Reached primitives call world ((do let _ ← program : Sdk Unit) world).2 :=
    leaves_bind (kept world .refl) fun _ _ _ held => held
  cases call with
  | activate => exact activate_reaches world .refl
  | activateWithClaimPreimage preimage nonce =>
    exact activateWithClaimPreimage_reaches preimage nonce world .refl
  | resumeAllCapable => exact resumeAllCapable_reaches world .refl
  | stageFirstLock plan => exact ignored (stageFirstLock_reaches plan)
  | driveFirstLock ports => exact ignored (driveFirstLock_reaches ports)
  | projectFirstLock evidence => exact ignored (projectFirstLock_reaches evidence)
  | observeMakerLock answer => exact ignored (observeMakerLock_reaches answer)
  | observeTakerFirstLock answer => exact ignored (observeTakerFirstLock_reaches rfl)
  | refreshMakerFundingEligibility answer =>
    exact ignored (refreshMakerFundingEligibility_reaches rfl)
  | driveMakerLock plan answer ports => exact ignored (driveMakerLock_reaches plan answer ports)
  | projectMakerLock evidence => exact ignored (projectMakerLock_reaches evidence)
  | driveClaim ports => exact ignored (driveClaim_reaches ports)
  | driveRefund ports => exact ignored (driveRefund_reaches ports)

end Sdk

end AtomicSwaps.Zec
