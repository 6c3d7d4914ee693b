import Mathlib.Logic.Relation
import AtomicSwaps.Escrow.Program
import AtomicSwaps.Transition.Run
import AtomicSwaps.Xmr.Sdk
import AtomicSwaps.Xmr.Workflow

namespace AtomicSwaps.Xmr

open AtomicSwaps.Core Fallible Escrow SqliteXmrWorkflowJournal

def punishAt (escrow : EscrowMetadata) : Option Nat :=
  match escrow.claimAuthority with
  | .xmrDualAdaptor _ _ _ _ _ _ _ _ punishAt => some punishAt
  | _ => none

/-- The escrow program takes a signed refund now: its status and its validity window allow it. -/
def refundAccepted (escrow : EscrowMetadata) (lezTime : Nat) : Bool :=
  XmrWitnessPurpose.refund.statusAllowed escrow.status &&
    (punishAt escrow).any fun stop =>
      (⟨some escrow.refundAt, some stop⟩ : ValidityWindow).contains lezTime

/-- What the escrow program answers to a refund is what `refundAccepted` says of its record. -/
theorem refundAccepted_of_refundNativeXmr {ctx : ProgramContext}
    {metadata custody depositor authority : AccountWithMetadata} {swapId : Bytes32}
    {output : SpelOutput} {escrow : EscrowMetadata} {lezTime : Nat}
    (accepted : refundNativeXmr ctx metadata custody depositor authority swapId = .ok output)
    (recorded : readMetadata metadata = .ok escrow)
    (inWindow : output.window.contains lezTime = true) : refundAccepted escrow lezTime = true := by
  simp only [refundNativeXmr, validatedXmrNativeWitnessState, recorded, checked_ok, Except.ok.injEq,
    exists_eq_left', Prod.exists] at accepted
  obtain ⟨-, -, -, written, stop, ⟨allowed, -, _, witness, same⟩, -, returned⟩ := accepted
  cases returned
  cases same
  have named : punishAt escrow = some stop := by
    unfold requireXmrWitnessAuthority at witness
    split at witness
    · rename_i authority
      simp only [checked_ok] at witness
      cases witness.2
      simp only [punishAt, authority]
    · cases witness
  unfold refundAccepted
  rw [allowed, named]
  exact inWindow

/-- The Taker's side of one swap after activation, with the LEZ chain it sees. -/
structure TakerWorld where
  snapshot : XmrLifecycleSnapshotV1
  workflow : SqliteXmrWorkflowJournal
  escrow : EscrowMetadata
  lezTime : Nat
  refundHanded : Bool

/-- What the Taker can do: commands of the lifecycle, each with what its actor answers, and calls of
    the workflow journal. A caller that is given an invocation may die before it makes it. -/
inductive TakerCommand
  | lifecycle (command : XmrLifecycleCommandV1) (answer : Option XmrLifecycleSnapshotV1)
  | initializeIdentity (identity : XmrWorkflowIdentityV1)
  | selectBranch (identity : XmrWorkflowIdentityV1) (branch : XmrWorkflowBranch)
  | prepareStep (identity : XmrWorkflowIdentityV1) (step : XmrWorkflowStep)
  | authorizeOnce (identity : XmrWorkflowIdentityV1) (step : XmrWorkflowStep) (invokes : Bool)
  | markUnknown (identity : XmrWorkflowIdentityV1) (step : XmrWorkflowStep)
  | reconcileSucceeded (identity : XmrWorkflowIdentityV1) (step : XmrWorkflowStep)
      (reconciliation : XmrWorkflowReconciliationV2)

namespace TakerWorld

variable (world : TakerWorld)

def keep (called : Except StoreError SqliteXmrWorkflowJournal) : Option TakerWorld :=
  called.toOption.map fun workflow => { world with workflow }

def handsRefund (step : XmrWorkflowStep) (decision : XmrWorkflowDecision) (invokes : Bool) : Bool :=
  decide (step = .refundLezTag16 ∧ decision = .invokeOnce) && invokes &&
    refundAccepted world.escrow world.lezTime

def take : TakerCommand → Option TakerWorld
  | .lifecycle command answer =>
    (perform world.snapshot command answer).toOption.map fun snapshot => { world with snapshot }
  | .initializeIdentity identity => world.keep (world.workflow.initializeIdentity identity)
  | .selectBranch identity branch => world.keep (world.workflow.selectBranch identity branch)
  | .prepareStep identity step => world.keep (world.workflow.prepareStep identity step)
  | .authorizeOnce identity step invokes =>
    (world.workflow.authorizeOnce identity step).toOption.map fun authorized =>
      { world with
        workflow := authorized.2
        refundHanded := world.refundHanded || world.handsRefund step authorized.1 invokes }
  | .markUnknown identity step => world.keep (world.workflow.markUnknown identity step)
  | .reconcileSucceeded identity step reconciliation =>
    world.keep (world.workflow.reconcileSucceeded identity step reconciliation)

end TakerWorld

/-- Refused commands leave the world; restarts adopt what the actor kept; the chain moves freely. -/
inductive TakerEvent
  | commanded (command : TakerCommand)
  | restarted (stored : XmrLifecycleSnapshotV1)
  | chainMoved (escrow : EscrowMetadata) (lezTime : Nat)

namespace TakerWorld

variable (world : TakerWorld)

def advance : TakerEvent → TakerWorld
  | .commanded command => (world.take command).getD world
  | .restarted stored =>
    match resume world.snapshot.identity stored with
    | .ok snapshot => { world with snapshot }
    | .error _ => world
  | .chainMoved escrow lezTime => { world with escrow, lezTime }

structure Initial (world : TakerWorld) : Prop where
  taker : world.snapshot.identity.role = .taker
  activated : world.snapshot.phase = .activated ∧ world.snapshot.revision = 0
  empty : world.workflow = createNew
  nothingHanded : world.refundHanded = false

def Reached (start : TakerWorld) (history : List TakerEvent) (world : TakerWorld) : Prop :=
  Transition.Run (fun before event after => after = before.advance event) start history world

def Step (world next : TakerWorld) : Prop := ∃ command, world.take command = some next

def Accepted : TakerWorld → TakerWorld → Prop := Relation.ReflTransGen Step

/-- Accepted commands lead to the refund being handed to the LEZ node. -/
def CanRefund : Prop := ∃ reached, world.Accepted reached ∧ reached.refundHanded = true

def AfterLezLock : Prop :=
  ∃ row, world.workflow.steps .fundLezTag13 = some row ∧ row.state ≠ .prepared

/-- The branch that was selected, or the attempt that was spent, rules the refund out. -/
def Spent : Prop :=
  world.workflow.selectedBranch = some .claim ∨ world.workflow.selectedBranch = some .punish ∨
    ∃ row, world.workflow.steps .refundLezTag16 = some row ∧ row.state ≠ .prepared

/-- The exit the Taker keeps: the refund was handed already, or its branch and its one attempt are still
    free. -/
def RefundKept : Prop := world.refundHanded = true ∨ ¬world.Spent

section Steps

variable {world next : TakerWorld}

theorem Step.cases (step : world.Step next) :
    (∃ command answer snapshot, perform world.snapshot command answer = .ok snapshot ∧
      next = { world with snapshot }) ∨
    (∃ workflow handed, Changed world.workflow workflow ∧
      next = { world with workflow, refundHanded := handed } ∧
      (handed = true → world.refundHanded = true ∨ ¬world.Spent)) := by
  obtain ⟨command, taken⟩ := step
  have journal : ∀ {called : Except StoreError SqliteXmrWorkflowJournal},
      (∀ workflow, called = .ok workflow → Changed world.workflow workflow) →
      world.keep called = some next →
      ∃ workflow handed, Changed world.workflow workflow ∧
        next = { world with workflow, refundHanded := handed } ∧
        (handed = true → world.refundHanded = true ∨ ¬world.Spent) := by
    intro called changes kept
    cases called with
    | error error => cases kept
    | ok workflow =>
      cases kept
      exact ⟨workflow, world.refundHanded, changes workflow rfl, rfl, .inl⟩
  cases command with
  | lifecycle command answer =>
    cases performed : perform world.snapshot command answer with
    | error error => simp [take, performed, Except.toOption] at taken
    | ok snapshot =>
      simp only [take, performed, Except.toOption, Option.map_some, Option.some.injEq] at taken
      exact .inl ⟨command, answer, snapshot, performed, taken.symm⟩
  | initializeIdentity identity => exact .inr (journal (fun _ => initializeIdentity_changed) taken)
  | selectBranch identity branch => exact .inr (journal (fun _ => selectBranch_changed) taken)
  | prepareStep identity step => exact .inr (journal (fun _ => prepareStep_changed) taken)
  | markUnknown identity step => exact .inr (journal (fun _ => markUnknown_changed) taken)
  | reconcileSucceeded identity step reconciliation =>
    exact .inr (journal (fun _ => reconcileSucceeded_changed) taken)
  | authorizeOnce identity step invokes =>
    cases authorized : world.workflow.authorizeOnce identity step with
    | error error => simp [take, authorized, Except.toOption] at taken
    | ok result =>
      obtain ⟨decision, workflow⟩ := result
      simp only [take, authorized, Except.toOption, Option.map_some, Option.some.injEq] at taken
      obtain ⟨changed, invoked⟩ := authorizeOnce_ok authorized
      refine .inr ⟨workflow, _, changed, taken.symm, fun handed => ?_⟩
      rw [Bool.or_eq_true] at handed
      rcases handed with before | now
      · exact .inl before
      · simp only [handsRefund, Bool.and_eq_true, decide_eq_true_eq] at now
        obtain ⟨⟨⟨rfl, rfl⟩, -⟩, -⟩ := now
        obtain ⟨owned, row, stored, ready⟩ := invoked rfl
        have branch : world.workflow.selectedBranch = some .refund := owned .refund rfl
        refine .inr ?_
        rintro (claimed | punished | ⟨other, held, started⟩)
        · rw [branch] at claimed
          cases claimed
        · rw [branch] at punished
          cases punished
        · rw [stored] at held
          cases held
          exact started ready

theorem Spent.step (sound : world.workflow.Sound) (spent : world.Spent) (taken : world.Step next) : next.Spent := by
  rcases taken.cases with ⟨_, _, snapshot, -, rfl⟩ | ⟨workflow, handed, changed, rfl, -⟩
  · exact spent
  · cases changed with
    | same => exact spent
    | initialized identity fresh =>
      rcases spent with claimed | punished | ⟨row, stored, started⟩
      · rw [sound.unselected fresh] at claimed
        cases claimed
      · rw [sound.unselected fresh] at punished
        cases punished
      · exact .inr (.inr ⟨row, stored, started⟩)
    | selected branch free named =>
      rcases spent with claimed | punished | ⟨row, stored, started⟩
      · rw [free] at claimed
        cases claimed
      · rw [free] at punished
        cases punished
      · exact .inr (.inr ⟨row, stored, started⟩)
    | prepared identity step named role absent after =>
      rcases spent with claimed | punished | ⟨row, stored, started⟩
      · exact .inl claimed
      · exact .inr (.inl punished)
      · have differs : XmrWorkflowStep.refundLezTag16 ≠ step := by
          rintro rfl
          rw [absent] at stored
          cases stored
        exact .inr (.inr ⟨row, (setStep_other differs).trans stored, started⟩)
    | moved step held state stored later owned sourced =>
      rcases spent with claimed | punished | ⟨row, found, started⟩
      · exact .inl claimed
      · exact .inr (.inl punished)
      · by_cases same : XmrWorkflowStep.refundLezTag16 = step
        · subst same
          exact .inr (.inr ⟨_, setStep_same, later⟩)
        · exact .inr (.inr ⟨row, (setStep_other same).trans found, started⟩)

theorem sound_step (taken : world.Step next) (sound : world.workflow.Sound) : next.workflow.Sound := by
  rcases taken.cases with ⟨_, _, _, -, rfl⟩ | ⟨_, _, changed, rfl, -⟩
  · exact sound
  · exact sound.changed changed

theorem RefundKept.before (kept : next.RefundKept) (taken : world.Step next)
    (sound : world.workflow.Sound) : world.RefundKept := by
  rcases kept with handed | free
  · rcases taken.cases with ⟨_, _, _, -, rfl⟩ | ⟨_, _, -, rfl, earlier⟩
    · exact .inl handed
    · exact earlier handed
  · exact .inr fun spent => free (spent.step sound taken)

/-- An accepted sequence that hands the refund started where the exit was kept. -/
theorem refundKept_of_handed (accepted : world.Accepted next) (handed : next.refundHanded = true)
    (sound : world.workflow.Sound) : world.RefundKept := by
  induction accepted using Relation.ReflTransGen.head_induction_on with
  | refl => exact .inl handed
  | head taken _ rest => exact (rest (sound_step taken sound)).before taken sound

end Steps

theorem afterLezLock_of {world : TakerWorld}
    (invoked : (world.workflow.steps .fundLezTag13).any (·.state ≠ .prepared) = true) : world.AfterLezLock := by
  cases stored : world.workflow.steps .fundLezTag13 with
  | none => simp [stored] at invoked
  | some row =>
    refine ⟨row, stored, ?_⟩
    simpa [stored] using invoked

section Exit

variable {world : TakerWorld}

theorem Accepted.trans {middle final : TakerWorld} (first : world.Accepted middle)
    (second : middle.Accepted final) : world.Accepted final :=
  Relation.ReflTransGen.trans first second

theorem accepted_take {next : TakerWorld} (command : TakerCommand)
    (taken : world.take command = some next) : world.Accepted next :=
  Relation.ReflTransGen.single ⟨command, taken⟩

/-- While the branch and the attempt are free, the journal leads to the invocation of the refund. -/
theorem hands_refund (sound : world.workflow.Sound) (locked : world.AfterLezLock)
    (accepts : refundAccepted world.escrow world.lezTime = true) (free : ¬world.Spent) :
    ∃ workflow, world.Accepted { world with workflow, refundHanded := true } := by
  obtain ⟨fund, funded, invoked⟩ := locked
  obtain ⟨identity, named, -, role, -⟩ := sound.named _ fund funded
  have refundRole : identity.localRole = XmrWorkflowStep.refundLezTag16.role := role
  -- The lock is final, so its step is reconciled first.
  obtain ⟨reconciliation, reconciledJournal, held, called, stored, reconciled, sameIdentity,
    sameBranch, others⟩ := sound.reconcileSucceeded named funded invoked (by rintro _ ⟨⟩)
  have sound₁ := sound.changed (reconcileSucceeded_changed called)
  have first : world.Accepted { world with workflow := reconciledJournal } :=
    accepted_take (.reconcileSucceeded identity .fundLezTag13 reconciliation) (by
      simp [take, keep, called, Except.toOption])
  -- Neither other branch is selected, so the refund is selected or can be.
  have selectable : reconciledJournal.selectedBranch = none ∨
      reconciledJournal.selectedBranch = some .refund := by
    rw [sameBranch]
    rcases chosen : world.workflow.selectedBranch with _ | _ | _ | _
    · exact .inl rfl
    · exact absurd (.inl chosen) free
    · exact .inr rfl
    · exact absurd (.inr (.inl chosen)) free
  obtain ⟨selectedJournal, selection, chosen, sameIdentity₂, sameSteps⟩ :=
    sound₁.selectBranch (sameIdentity.trans named) role stored selectable
  have sound₂ := sound₁.changed (selectBranch_changed selection)
  have named₂ : selectedJournal.identity = some identity :=
    sameIdentity₂.trans (sameIdentity.trans named)
  have second : TakerWorld.Accepted { world with workflow := reconciledJournal }
      { world with workflow := selectedJournal } :=
    accepted_take (.selectBranch identity .refund) (by simp [take, keep, selection, Except.toOption])
  have owned : ∀ branch, XmrWorkflowStep.refundLezTag16.scope.branch = some branch →
      selectedJournal.selectedBranch = some branch := by
    rintro _ ⟨⟩
    exact chosen
  -- The refund step is new or still prepared.
  have fresh : ∀ row, selectedJournal.steps .refundLezTag16 = some row → row.state = .prepared := by
    intro row found
    rw [sameSteps, others _ (by decide)] at found
    by_cases ready : row.state = .prepared
    · exact ready
    · exact absurd (.inr (.inr ⟨row, found, ready⟩)) free
  obtain ⟨preparedJournal, row, preparation, planned, ready, sameIdentity₃, sameBranch₃⟩ :=
    sound₂.prepareStep named₂ refundRole owned rfl (by rw [sameSteps]; exact stored) reconciled fresh
  have sound₃ := sound₂.changed (prepareStep_changed preparation)
  have third : TakerWorld.Accepted { world with workflow := selectedJournal }
      { world with workflow := preparedJournal } :=
    accepted_take (.prepareStep identity .refundLezTag16) (by
      simp [take, keep, preparation, Except.toOption])
  obtain ⟨startedJournal, authorized⟩ := sound₃.authorizeOnce (sameIdentity₃.trans named₂) planned ready
    (by rw [sameBranch₃]; exact owned)
  refine ⟨startedJournal, ((first.trans second).trans third).trans ?_⟩
  exact accepted_take (.authorizeOnce identity .refundLezTag16 true) (by
    simp [take, authorized, Except.toOption, handsRefund, accepts])

end Exit

theorem sound_advance {world : TakerWorld} (sound : world.workflow.Sound) (event : TakerEvent) :
    (world.advance event).workflow.Sound := by
  cases event with
  | commanded command =>
    simp only [TakerWorld.advance]
    cases taken : world.take command with
    | none => exact sound
    | some next => exact sound_step ⟨command, taken⟩ sound
  | restarted stored =>
    simp only [TakerWorld.advance]
    split <;> exact sound
  | chainMoved escrow lezTime => exact sound

theorem Reached.sound {start world : TakerWorld} {history : List TakerEvent}
    (initial : start.Initial) (reached : Reached start history world) : world.workflow.Sound := by
  induction reached with
  | nil =>
    rw [initial.empty]
    exact sound_createNew
  | snoc _ step sound =>
    rw [step]
    exact sound_advance sound _

/-- In the refund window of an escrow that nobody has settled, the Taker can hand its refund to the
    LEZ node exactly where it has kept that exit. -/
theorem taker_refund_exit_iff {start world : TakerWorld} {history : List TakerEvent} {stop : Nat}
    (initial : start.Initial) (reached : Reached start history world) (locked : world.AfterLezLock)
    (status : world.escrow.status = .funded ∨ world.escrow.status = .xmrClaimAuthorized)
    (authority : punishAt world.escrow = some stop)
    (opened : world.escrow.refundAt ≤ world.lezTime) (before : world.lezTime < stop) :
    world.CanRefund ↔ world.RefundKept := by
  have sound := reached.sound initial
  have accepts : refundAccepted world.escrow world.lezTime = true := by
    simp [refundAccepted, XmrWitnessPurpose.statusAllowed, status, authority,
      ValidityWindow.contains, opened, before]
  constructor
  · rintro ⟨final, accepted, handed⟩
    exact refundKept_of_handed accepted handed sound
  · rintro (handed | free)
    · exact ⟨world, .refl, handed⟩
    · obtain ⟨workflow, handing⟩ := hands_refund sound locked accepts free
      exact ⟨_, handing, rfl⟩

section Samples

def sampleIdentity : XmrWorkflowIdentityV1 where
  swapId := "a7a7a7a7a7a7a7a7a7a7a7a7a7a7a7a7a7a7a7a7a7a7a7a7a7a7a7a7a7a7a7a7"
  localRole := .taker
  runId := "run-1"
  agreementCommitment := 2
  activationCommitment := 3
  authoritySha256 := 5
  canonicalSwap := by decide
  canonicalRun := by decide
  committed := by decide

def sampleSnapshot (phase : XmrLifecyclePhaseV1) (revision : Nat) : XmrLifecycleSnapshotV1 :=
  ⟨⟨7, .taker, 2, 3⟩, phase, revision⟩

def sampleEscrow (status : EscrowStatus) : EscrowMetadata where
  version := xmrEscrowMetadataVersion
  swapId := 7
  termsHash := 11
  claimAuthority := .xmrDualAdaptor 13 (witnessedAccountId 13) 17 (witnessedAccountId 17) 19 23 29 31 2000
  depositor := .zero
  depositorAsset := .zero
  claimant := .zero
  claimantAsset := .zero
  custody := .zero
  assetProgram := 37
  custodyProgram := 37
  assetDefinition := .zero
  amount := 100
  refundAt := 1000
  status := status

def sampleStart : TakerWorld :=
  ⟨sampleSnapshot .activated 0, createNew, sampleEscrow .empty, 0, false⟩

def sampleEvidence (step : XmrWorkflowStep) : XmrWorkflowReconciliationV2 :=
  ⟨1, 1, step.reconciliationSource, by decide⟩

def sampleInvocation (step : XmrWorkflowStep) : List TakerEvent :=
  [.commanded (.prepareStep sampleIdentity step), .commanded (.authorizeOnce sampleIdentity step true),
    .commanded (.reconcileSucceeded sampleIdentity step (sampleEvidence step))]

def lockedHistory (status : EscrowStatus) : List TakerEvent :=
  [.commanded (.initializeIdentity sampleIdentity)] ++ sampleInvocation .initializeLezTag13 ++
    sampleInvocation .fundLezTag13 ++
    [.commanded (.lifecycle .advance (some (sampleSnapshot .lezLocked 1))),
      .commanded (.lifecycle .advance (some (sampleSnapshot .bothLocked 2))),
      .chainMoved (sampleEscrow status) 1500]

/-- The Taker authorises the Maker's claim; the Maker stays silent. -/
def authorizedHistory : List TakerEvent :=
  lockedHistory .xmrClaimAuthorized ++
    [.commanded (.selectBranch sampleIdentity .claim)] ++ sampleInvocation .authorizeLezTag14 ++
    [.commanded (.lifecycle .claim (some (sampleSnapshot .claimAuthorized 3)))]

theorem Reached.foldl (start : TakerWorld) (history : List TakerEvent) :
    Reached start history (history.foldl TakerWorld.advance start) :=
  (Transition.run_foldl start fun _ _ _ => True.intro).of_restrict

theorem sampleStart_initial : sampleStart.Initial := ⟨rfl, ⟨rfl, rfl⟩, rfl, rfl⟩

theorem taker_refund_exit_iff_sample :
    ((lockedHistory .funded).foldl TakerWorld.advance sampleStart).CanRefund := by
  have reached := Reached.foldl sampleStart (lockedHistory .funded)
  have stop : punishAt ((lockedHistory .funded).foldl TakerWorld.advance sampleStart).escrow =
      some 2000 := rfl
  refine (taker_refund_exit_iff sampleStart_initial reached ?_ (.inl rfl) stop (by decide)
    (by decide)).mpr ?_
  · exact afterLezLock_of (by decide +kernel)
  · have free : ((lockedHistory .funded).foldl TakerWorld.advance sampleStart).workflow.selectedBranch =
        none := by decide +kernel
    have unplanned : ((lockedHistory .funded).foldl TakerWorld.advance sampleStart).workflow.steps
        .refundLezTag16 = none := by decide +kernel
    refine .inr ?_
    rintro (claimed | punished | ⟨row, stored, -⟩)
    · rw [free] at claimed
      cases claimed
    · rw [free] at punished
      cases punished
    · rw [unplanned] at stored
      cases stored

theorem silent_maker_locks_taker_out :
    let world := authorizedHistory.foldl TakerWorld.advance sampleStart
    Reached sampleStart authorizedHistory world ∧ world.AfterLezLock ∧
      world.escrow = sampleEscrow .xmrClaimAuthorized ∧ world.lezTime = 1500 ∧ ¬world.CanRefund := by
  have reached := Reached.foldl sampleStart authorizedHistory
  have locked : (authorizedHistory.foldl TakerWorld.advance sampleStart).AfterLezLock :=
    afterLezLock_of (by decide +kernel)
  refine ⟨reached, locked, by decide +kernel, by decide +kernel, ?_⟩
  have claimed : (authorizedHistory.foldl TakerWorld.advance sampleStart).workflow.selectedBranch =
      some .claim := by decide +kernel
  have unhanded : (authorizedHistory.foldl TakerWorld.advance sampleStart).refundHanded = false := by
    decide +kernel
  rintro ⟨final, accepted, handed⟩
  rcases refundKept_of_handed accepted handed (reached.sound sampleStart_initial) with handed | free
  · rw [unhanded] at handed
    cases handed
  · exact free (.inl claimed)

end Samples

end TakerWorld

end AtomicSwaps.Xmr
