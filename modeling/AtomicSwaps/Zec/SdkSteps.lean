import AtomicSwaps.Zec.SdkEffects
import AtomicSwaps.Zec.StoreReads

namespace AtomicSwaps.Zec

open AtomicSwaps.Core Fallible

variable (primitives : StorePrimitives)

def CommittedTransition.advance (active : ActiveZecSwap)
    (transition : CommittedTransition) : Except ZecSdkError ActiveZecSwap := do
  let next ← transition.applyTo primitives active
  return { next with revision := active.revision + 1 }

def CommittedTransition.predecessorRevision : CommittedTransition → Nat
  | .firstLock transition => transition.predecessorRevision
  | .observedTakerFirstLock transition => transition.predecessorRevision
  | .makerLock transition => transition.predecessorRevision
  | .observedMakerLock transition => transition.predecessorRevision
  | .claim transition => transition.predecessorRevision
  | .refund transition => transition.predecessorRevision

variable (agreement : ZecAgreementV1)

/-- The committed transitions, folded over the agreement's initial coordinator. -/
def World.folded (world : World) : Except ZecSdkError ActiveZecSwap :=
  world.committed.foldlM (CommittedTransition.advance primitives)
    (.fresh agreement world.store.localParticipant 0)

def Store.Follows (store : Store) (active : ActiveZecSwap) : Prop :=
  active.revision ≤ store.activeRevision ∧ ∃ current,
    store.replayJournal primitives agreement active.revision = .ok current ∧
      active = current.resumed agreement store.localParticipant active.revision

/-- The file is sound, its head is the fold of what was committed, and the swap in memory follows
    it. -/
structure World.SoundAt (primitives : StorePrimitives) (agreement : ZecAgreementV1) (world : World)
    (state : JournalState) : Prop where
  sound : Store.Sound primitives world.store agreement state
  folded : world.folded primitives agreement =
    .ok (state.resumed agreement world.store.localParticipant world.store.activeRevision)
  follows : world.store.Follows primitives agreement world.active

def World.Sound (world : World) : Prop :=
  ∃ state, world.SoundAt primitives agreement state

variable {primitives : StorePrimitives} {agreement : ZecAgreementV1} {store store' : Store}
  {state : JournalState} {world : World} {active next : ActiveZecSwap}

variable {transition : CommittedTransition}

theorem CommittedTransition.applyTo_revision (applied : transition.applyTo primitives active = .ok next) :
    transition.predecessorRevision = active.revision := by
  cases transition with
  | firstLock transition =>
    obtain ⟨_, projected, -⟩ := bind_ok_iff.mp applied
    simp only [mapError_ok_iff, FirstLockTransitionV1.applyTo, ensure_bind_ok_iff] at projected
    exact projected.1.2.1
  | observedTakerFirstLock transition =>
    simp only [applyTo, ActiveZecSwap.applyObservedTakerFirstLock, bind_ok_iff] at applied
    obtain ⟨_, -, _, -, _, projected, -⟩ := applied
    simp only [mapError_ok_iff, ObservedTakerFirstLockTransitionV1.applyTo, ensure_bind_ok_iff]
      at projected
    exact projected.1.2.1
  | makerLock transition =>
    obtain ⟨_, projected, -⟩ := bind_ok_iff.mp applied
    simp only [mapError_ok_iff, MakerLockTransitionV1.applyTo, ensure_bind_ok_iff] at projected
    exact projected.1.2.1
  | observedMakerLock transition =>
    obtain ⟨_, projected, -⟩ := bind_ok_iff.mp applied
    simp only [mapError_ok_iff, ObservedMakerLockTransitionV1.applyTo, ensure_bind_ok_iff]
      at projected
    exact projected.1.2.1
  | claim transition =>
    obtain ⟨_, projected, -⟩ := bind_ok_iff.mp applied
    obtain ⟨⟨⟩, header, -⟩ := bind_ok_iff.mp (mapError_ok_iff.mp projected)
    exact (ClaimTransitionV1.validateHeader_ok header).2.2
  | refund transition =>
    obtain ⟨_, projected, -⟩ := bind_ok_iff.mp applied
    simp only [mapError_ok_iff, RefundTransitionV1.applyTo, ensure_bind_ok_iff] at projected
    exact projected.1.2.2

namespace Store.Follows

/-- A transition the journal holds takes the swap to where the journal leads next. -/
theorem step (follows : store.Follows primitives agreement active)
    (sound : Store.Sound primitives store agreement state) {transition : CommittedTransition}
    (held : store.Holds primitives active.revision transition)
    (applied : transition.applyTo primitives active = .ok next) :
    store.Follows primitives agreement { next with revision := active.revision + 1 } := by
  obtain ⟨-, current, read, resumed⟩ := follows
  obtain ⟨row, found, records⟩ := held
  obtain ⟨before, after, readBefore, entryApplied, readAfter⟩ := sound.row_applies found
  obtain ⟨_, _, -, inside, -⟩ := sound.row_facts found
  rw [read] at readBefore
  cases readBefore
  have replayed := applyEntry_records records entryApplied
  rw [← resumed, applied] at replayed
  cases replayed
  exact ⟨inside, after, readAfter, rfl⟩

theorem mono (follows : store.Follows primitives agreement active)
    (contiguous : store.Contiguous) (renumbered : store'.Contiguous)
    (extended : Extends store store') (grown : store.activeRevision ≤ store'.activeRevision) :
    store'.Follows primitives agreement active := by
  obtain ⟨bound, current, read, resumed⟩ := follows
  refine ⟨Nat.le_trans bound grown, current, ?_, ?_⟩
  · exact extended.replayJournal_ok contiguous renumbered bound read
  · rw [extended.role]
    exact resumed

theorem at_head (follows : store.Follows primitives agreement active)
    (sound : Store.Sound primitives store agreement state) (current : active.revision = store.activeRevision) :
    active = state.resumed agreement store.localParticipant store.activeRevision := by
  obtain ⟨-, reached, read, resumed⟩ := follows
  rw [current, sound.replayed] at read
  cases read
  rw [← current]
  exact resumed

end Store.Follows

namespace World

theorem SoundAt.of_staged (before : world.SoundAt primitives agreement state)
    (staged : Store.Staged primitives agreement world.store state store') :
    SoundAt primitives agreement { world with store := store' } state where
  sound := staged.sound
  folded := by
    simp only [World.folded, staged.active, staged.extended.role]
    exact before.folded
  follows := before.follows.mono before.sound.contiguous staged.sound.contiguous staged.extended
    (Nat.le_of_eq staged.active.symm)

theorem foldlM_concat {State ε α : Type} {step : State → α → Except ε State} {start middle final : State}
    {items : List α} {item : α} (read : items.foldlM step start = .ok middle)
    (last : step middle item = .ok final) : (items ++ [item]).foldlM step start = .ok final := by
  rw [List.foldlM_append, read]
  simp [ok_bind, last]

theorem SoundAt.of_grown (before : world.SoundAt primitives agreement state)
    {transition : CommittedTransition} {state' : JournalState}
    (grown : Store.Grown primitives agreement world.store state transition store' state') :
    SoundAt primitives agreement
      { world with store := store', committed := world.committed ++ [transition] } state' where
  sound := grown.sound
  folded := by
    simp only [World.folded, grown.active, grown.extended.role]
    refine foldlM_concat before.folded ?_
    simp only [CommittedTransition.advance, grown.applied, ok_bind]
    rfl
  follows := before.follows.mono before.sound.contiguous grown.sound.contiguous grown.extended
    (by rw [grown.active]; exact Nat.le_succ _)

theorem SoundAt.move (before : world.SoundAt primitives agreement state)
    (follows : world.store.Follows primitives agreement active) :
    SoundAt primitives agreement { world with active } state where
  sound := before.sound
  folded := before.folded
  follows := follows

end World

variable {call : SdkCall}

theorem Store.Rereads.holds {revision : Nat} (reread : store.Rereads primitives revision transition)
    (sound : Store.Sound primitives store agreement state) : store.Holds primitives revision transition := by
  cases transition with
  | firstLock transition =>
    cases role : store.localParticipant with
    | taker => exact (Store.reads_firstLock sound role).returned reread
    | maker =>
      simp only [Store.Rereads, Store.loadFirstLockTransition, sound.validatedAgreement_ok, sound.makerObserves role,
        ok_bind, checked_ok] at reread
      split at reread <;> simp [bind_ok_iff, pure, Except.pure] at reread
  | observedTakerFirstLock transition =>
    have role := (ensure_bind_ok_iff.mp reread).1
    exact (Store.reads_observedTaker sound role).returned reread
  | makerLock transition =>
    have role := (ensure_bind_ok_iff.mp reread).1
    exact (Store.reads_makerLock sound role).returned reread
  | observedMakerLock transition =>
    have role := (ensure_bind_ok_iff.mp reread).1
    exact (Store.reads_observedMaker sound role).returned reread
  | refund transition => exact (Store.reads_refund sound).returned reread
  | claim transition =>
    obtain ⟨step, found, read, same⟩ := reread
    obtain ⟨row, stored, records⟩ : store.Holds primitives revision (.claim found) := by
      rcases read with read | read
      · exact (Store.reads_ownedClaim sound step).returned read
      · exact (Store.reads_observedClaim sound step).returned read
    refine ⟨row, stored, ?_⟩
    cases entry : row.entry <;> rw [entry] at records <;>
      simp only [JournalEntry.Records] at records ⊢ <;> exact records.trans same

theorem SdkCall.Stages.staged (stages : call.Stages primitives world store)
    (sound : world.SoundAt primitives agreement state) :
    Store.Staged primitives agreement world.store state store := by
  cases stages with
  | claimMaterial created =>
    exact Store.createAgreementWithLocalClaimMaterial_ok sound.sound created
  | firstLockIntent created => exact Store.createFirstLockIntent_ok sound.sound created
  | makerLockIntent _ _ created => exact Store.createMakerLockIntent_ok sound.sound created
  | claimIntent _ _ _ created => exact Store.createClaimIntent_ok sound.sound created
  | refundIntent _ created => exact Store.createRefundIntent_ok sound.sound created

theorem takerLockObservable_stage {phase : Phase}
    (observable : Sdk.takerLockObservable phase = true) : phaseStage phase = 0 := by
  cases phase <;> simp [Sdk.takerLockObservable] at observable <;> rfl

theorem World.SoundAt.at_head_of_applied (sound : world.SoundAt primitives agreement state)
    (applied : transition.applyTo primitives world.active = .ok next)
    (head : transition.predecessorRevision = world.store.activeRevision) :
    world.active = state.resumed agreement world.store.localParticipant world.store.activeRevision :=
  sound.follows.at_head sound.sound ((CommittedTransition.applyTo_revision applied).symm.trans head)

def Store.hasOpenClaimIntent (store : Store) : Bool :=
  store.claimIntent.any fun row => row.closedRevision.isNone

theorem Store.claim_idle (idle : store.hasOpenClaimIntent = false) :
    ∀ row, store.claimIntent = some row → row.closedRevision.isSome := by
  intro row staged
  cases closed : row.closedRevision with
  | some => rfl
  | none => simp [hasOpenClaimIntent, staged, closed] at idle

/-- No confirmed refund of the counterparty is recorded over an open claim intent. -/
def SdkCall.KeepsClaim (world : World) : SdkCall → Prop
  | .driveRefund ports => (∃ evidence, ports.observeCounterpartyRefund = .ok (.confirmed evidence)) →
      world.store.hasOpenClaimIntent = false
  | _ => True

/-- What the store answers to a commit of the SDK. An observed refund needs that no claim is open. -/
theorem SdkCall.Commits.commits
    {outcome : ProjectionCommit} (commits : call.Commits primitives world outcome store transition)
    (sound : world.SoundAt primitives agreement state)
    (applied : transition.applyTo primitives world.active = .ok next)
    (allowed : call.KeepsClaim world) :
    Store.Commits primitives agreement world.store state transition outcome store := by
  cases commits with
  | @firstLock _ transition committed =>
    obtain ⟨coordinator, projected, -⟩ := bind_ok_iff.mp applied
    have offered (head : transition.predecessorRevision = world.store.activeRevision) :
        transition.applyTo agreement state.coordinator world.store.activeRevision =
          .ok coordinator := by
      rw [sound.at_head_of_applied applied head] at projected
      exact mapError_ok_iff.mp projected
    exact Store.commitFirstLockTransition_ok sound.sound offered committed
  | makerLock committed => exact Store.commitMakerLockTransition_ok sound.sound committed
  | observedMakerLock confirmed committed =>
    refine Store.commitObservedMakerLockTransition_ok sound.sound (fun head => ?_) committed
    rw [sound.at_head_of_applied applied head] at confirmed
    exact confirmed
  | observedTakerFirstLock _ observable committed =>
    refine Store.commitObservedTakerFirstLockTransition_ok sound.sound (fun head => ?_) committed
    rw [sound.at_head_of_applied applied head] at observable
    exact takerLockObservable_stage observable
  | ownedClaim committed => exact Store.commitOwnedClaimTransition_ok sound.sound committed
  | observedClaim committed => exact Store.commitObservedClaimTransition_ok sound.sound committed
  | ownedRefund owned committed =>
    exact (Store.commitRefundTransition_ok sound.sound (by simp [owned]) committed).1
  | observedRefund told committed =>
    exact (Store.commitRefundTransition_ok sound.sound (fun _ => Store.claim_idle (allowed ⟨_, told⟩)) committed).1

namespace World.SoundAt

variable {outcome : ProjectionCommit}

theorem record (sound : world.SoundAt primitives agreement state) {transition : CommittedTransition}
    (commits : Store.Commits primitives agreement world.store state transition outcome store) :
    World.Sound primitives agreement { world with
      store
      committed := if outcome.wasReplay then world.committed else world.committed ++ [transition] } := by
  rcases commits with ⟨replay, rfl, -⟩ | ⟨rfl, state', grown⟩
  · rw [if_pos replay]
    exact ⟨state, sound⟩
  · exact ⟨state', sound.of_grown grown⟩

theorem project (sound : world.SoundAt primitives agreement state) {transition : CommittedTransition}
    (commits : Store.Commits primitives agreement world.store state transition outcome store)
    (applied : transition.applyTo primitives world.active = .ok next)
    (expected : outcome.revision = world.active.revision + 1) :
    World.Sound primitives agreement { world with
      store
      active := { next with revision := world.active.revision + 1 }
      committed := if outcome.wasReplay then world.committed else world.committed ++ [transition] } := by
  rcases commits with ⟨replay, rfl, revision, numbered, held⟩ | ⟨rfl, state', grown⟩
  · rw [if_pos replay]
    rw [numbered, Nat.add_right_cancel_iff] at expected
    rw [expected] at held
    exact ⟨state, sound.move (sound.follows.step sound.sound held applied)⟩
  · have current : world.store.activeRevision = world.active.revision := Nat.succ.inj expected
    have head := sound.follows.at_head sound.sound current.symm
    have same := grown.applied
    rw [← head, applied] at same
    cases same
    refine ⟨state', (sound.of_grown grown).move ⟨?_, state', ?_, ?_⟩⟩
    · have reached := grown.active
      rw [current] at reached
      exact Nat.le_of_eq reached.symm
    · have replayed := grown.sound.replayed
      rw [grown.active, current] at replayed
      exact replayed
    · rw [grown.extended.role]
      rfl

end World.SoundAt

namespace Sdk

variable {call : SdkCall} {after : World}

/-- Each effect keeps the file sound, given that no refund is observed over an open claim. -/
theorem Effect.sound (effect : Effect primitives call world after) (before : world.Sound primitives agreement)
    (allowed : call.KeepsClaim world) : after.Sound primitives agreement := by
  obtain ⟨state, sound⟩ := before
  cases effect with
  | freshened read =>
    rw [sound.sound.validatedAgreement_ok] at read
    cases read
    rw [sound.sound.accepted]
    exact ⟨state, sound.move ⟨Nat.zero_le _, agreement.initialState, rfl, rfl⟩⟩
  | moved reread applied =>
    exact ⟨state, sound.move (sound.follows.step sound.sound (reread.holds sound.sound) applied)⟩
  | staged stages => exact ⟨state, sound.of_staged (stages.staged sound)⟩
  | recorded applied commits => exact sound.record (commits.commits sound applied allowed)
  | projected applied commits expected =>
    exact sound.project (commits.commits sound applied allowed) applied expected
  | handed => exact ⟨state, ⟨sound.sound, sound.folded, sound.follows⟩⟩

theorem createRefundIntent_claimIntent {intent : RefundIntentV1} {outcome : CreateOutcome}
    (created : store.createRefundIntent primitives intent = .ok (outcome, store')) :
    store'.claimIntent = store.claimIntent := by
  simp only [Store.createRefundIntent, checked_ok] at created
  obtain ⟨-, -, head, -, -, -, created⟩ := created
  cases staged : store.refundIntent with
  | none =>
    simp only [staged] at created
    cases created
    rfl
  | some existing =>
    simp only [staged, pure_ok, Prod.mk.injEq] at created
    rw [← created.2]

theorem Effect.claimIntent_kept {ports : RefundPorts}
    (effect : Effect primitives (.driveRefund ports) world after) (sound : world.Sound primitives agreement)
    (allowed : SdkCall.KeepsClaim world (.driveRefund ports)) :
    after.store.claimIntent = world.store.claimIntent := by
  obtain ⟨state, sound⟩ := sound
  have committed {outcome : ProjectionCommit} {store : Store} {transition : CommittedTransition}
      (commits : (SdkCall.driveRefund ports).Commits primitives world outcome store transition) :
      store.claimIntent = world.store.claimIntent := by
    cases commits with
    | observedTakerFirstLock told => cases told
    | ownedRefund owned committed =>
      exact (Store.commitRefundTransition_ok sound.sound (by simp [owned]) committed).2
    | observedRefund told committed =>
      exact (Store.commitRefundTransition_ok sound.sound (fun _ => Store.claim_idle (allowed ⟨_, told⟩)) committed).2
  cases effect with
  | freshened => rfl
  | moved => rfl
  | handed => rfl
  | recorded _ commits => exact committed commits
  | projected _ commits => exact committed commits
  | staged stages =>
    cases stages with
    | refundIntent _ created => exact createRefundIntent_claimIntent created

theorem Reached.sound (reached : Reached primitives call world after)
    (sound : world.Sound primitives agreement) (allowed : call.KeepsClaim world) :
    after.Sound primitives agreement ∧ ∀ ports, call = .driveRefund ports →
      after.store.claimIntent = world.store.claimIntent := by
  induction reached with
  | refl => exact ⟨sound, fun _ _ => rfl⟩
  | tail _ effect previous =>
    obtain ⟨sound, kept⟩ := previous
    cases call with
    | driveRefund ports =>
      have same := kept ports rfl
      have still : SdkCall.KeepsClaim _ (.driveRefund ports) := fun told => by
        rw [Store.hasOpenClaimIntent, same]
        exact allowed told
      refine ⟨effect.sound sound still, fun _ driven => ?_⟩
      cases driven
      exact (effect.claimIntent_kept sound still).trans same
    | _ => exact ⟨effect.sound sound trivial, by rintro _ ⟨⟩⟩

/-- Every call keeps the file sound, but for a counterparty's refund over an open claim intent. -/
theorem after_sound (sound : world.Sound primitives agreement) (allowed : call.KeepsClaim world) :
    (world.after primitives call).Sound primitives agreement :=
  ((after_reaches world call).sound sound allowed).1

end Sdk

end AtomicSwaps.Zec
