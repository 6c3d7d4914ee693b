import AtomicSwaps.Core.Types
import AtomicSwaps.Transition.Fallible

namespace AtomicSwaps.Xmr

open AtomicSwaps.Core Fallible

inductive XmrWorkflowBranch
  | claim | refund | punish
deriving DecidableEq

inductive XmrWorkflowStepScope
  | common | claim | refund | punish
deriving DecidableEq

def XmrWorkflowStepScope.branch : XmrWorkflowStepScope → Option XmrWorkflowBranch
  | .common => none
  | .claim => some .claim
  | .refund => some .refund
  | .punish => some .punish

inductive XmrWorkflowReconciliationSource
  | lezFinalizedEvent | moneroWalletTransaction
deriving DecidableEq

structure XmrWorkflowReconciliationV2 where
  (effectEvidenceSha256 toolPlanIdentitySha256 : Bytes32)
  source : XmrWorkflowReconciliationSource
  nonzero : effectEvidenceSha256 ≠ 0 ∧ toolPlanIdentitySha256 ≠ 0
deriving DecidableEq

inductive XmrWorkflowStep
  | initializeLezTag13
  | fundLezTag13
  | fundMonero
  | authorizeLezTag14
  | claimLezTag15
  | sweepMoneroClaim
  | refundLezTag16
  | sweepMoneroRefund
  | punishLezTag17
deriving DecidableEq

namespace XmrWorkflowStep

def role : XmrWorkflowStep → Participant
  | .fundMonero | .claimLezTag15 | .sweepMoneroRefund | .punishLezTag17 => .maker
  | .initializeLezTag13 | .fundLezTag13 | .authorizeLezTag14 | .sweepMoneroClaim
  | .refundLezTag16 => .taker

def reconciliationSource : XmrWorkflowStep → XmrWorkflowReconciliationSource
  | .fundMonero | .sweepMoneroClaim | .sweepMoneroRefund => .moneroWalletTransaction
  | .initializeLezTag13 | .fundLezTag13 | .authorizeLezTag14 | .claimLezTag15
  | .refundLezTag16 | .punishLezTag17 => .lezFinalizedEvent

def scope : XmrWorkflowStep → XmrWorkflowStepScope
  | .initializeLezTag13 | .fundLezTag13 | .fundMonero => .common
  | .authorizeLezTag14 | .claimLezTag15 | .sweepMoneroClaim => .claim
  | .refundLezTag16 | .sweepMoneroRefund => .refund
  | .punishLezTag17 => .punish

def predecessor : XmrWorkflowStep → Option XmrWorkflowStep
  | .initializeLezTag13 | .fundMonero => none
  | .fundLezTag13 => some .initializeLezTag13
  | .authorizeLezTag14 | .refundLezTag16 => some .fundLezTag13
  | .claimLezTag15 | .sweepMoneroRefund | .punishLezTag17 => some .fundMonero
  | .sweepMoneroClaim => some .authorizeLezTag14

end XmrWorkflowStep

inductive XmrWorkflowDecision
  | invokeOnce | observeOnly | complete
deriving DecidableEq

/-- The state of a step fixes its revision; a succeeded step keeps whether it was reconciled from `unknown`. -/
inductive StepState
  | prepared
  | started
  | unknown
  | succeeded (fromUnknown : Bool) (reconciliation : XmrWorkflowReconciliationV2)
deriving DecidableEq

def StepState.revision : StepState → Nat
  | .prepared => 0
  | .started => 1
  | .unknown => 2
  | .succeeded fromUnknown _ => if fromUnknown then 3 else 2

def StepState.reconciliation : StepState → Option XmrWorkflowReconciliationV2
  | .succeeded _ reconciliation => some reconciliation
  | _ => none

structure StepSnapshot where
  role : Participant
  scope : XmrWorkflowStepScope
  state : StepState

def maxRunIdBytes : Nat := 128

structure XmrWorkflowIdentityV1 where
  swapId : String
  localRole : Participant
  runId : String
  (agreementCommitment activationCommitment authoritySha256 : Bytes32)
  canonicalSwap : swapId.utf8ByteSize = 64 ∧
    swapId.toList.all (fun char => char.isDigit || ('a' ≤ char && char ≤ 'f')) = true
  canonicalRun : 0 < runId.utf8ByteSize ∧ runId.utf8ByteSize ≤ maxRunIdBytes ∧
    runId.toList.all (fun char => '!' ≤ char && char ≤ '~') = true
  committed : agreementCommitment ≠ 0 ∧ activationCommitment ≠ 0 ∧ authoritySha256 ≠ 0
deriving DecidableEq

inductive StoreError
  | missingXmrWorkflowIdentity
  | missingXmrWorkflowStep
  | xmrWorkflowConflict
  | invalidXmrWorkflowReconciliation
  | corruptXmrWorkflowState

/-- The identity row with its selected branch, and the step table by its primary key. -/
structure SqliteXmrWorkflowJournal where
  identity : Option XmrWorkflowIdentityV1
  selectedBranch : Option XmrWorkflowBranch
  steps : XmrWorkflowStep → Option StepSnapshot

namespace SqliteXmrWorkflowJournal

variable {other : XmrWorkflowStep}

def createNew : SqliteXmrWorkflowJournal := ⟨none, none, fun _ => none⟩

variable (journal : SqliteXmrWorkflowJournal)

def setStep (step : XmrWorkflowStep) (row : StepSnapshot) : SqliteXmrWorkflowJournal :=
  { journal with steps := fun other => if other = step then some row else journal.steps other }

def ensureIdentity (requested : XmrWorkflowIdentityV1) : Except StoreError Unit :=
  match journal.identity with
  | none => .error .missingXmrWorkflowIdentity
  | some durable => ensure (requested = durable) .xmrWorkflowConflict

variable (identity : XmrWorkflowIdentityV1) (step : XmrWorkflowStep)

def ensureStepRole : Except StoreError Unit :=
  ensure (identity.localRole = step.role) .xmrWorkflowConflict

def ensureScope (expected : XmrWorkflowStepScope) : Except StoreError Unit := do
  journal.ensureIdentity identity
  match expected.branch with
  | none => return
  | some branch => ensure (journal.selectedBranch = some branch) .xmrWorkflowConflict

def loadStep : Except StoreError StepSnapshot :=
  match journal.steps step with
  | none => .error .missingXmrWorkflowStep
  | some row => .ok row

def validateStep (expected : XmrWorkflowStep) (row : StepSnapshot) : Except StoreError Unit :=
  ensure (row.role = identity.localRole ∧ row.role = expected.role ∧ row.scope = expected.scope ∧
    row.state.reconciliation.all (·.source = expected.reconciliationSource) = true)
    .corruptXmrWorkflowState

def ensureCommonStep (role : Participant) (step : XmrWorkflowStep) : Except StoreError Unit := do
  let row ← journal.loadStep step
  ensure (row.role = role ∧ row.scope = .common) .corruptXmrWorkflowState

def ensureCommonPrepared : Participant → Except StoreError Unit
  | .maker => journal.ensureCommonStep .maker .fundMonero
  | .taker => do
    journal.ensureCommonStep .taker .initializeLezTag13
    journal.ensureCommonStep .taker .fundLezTag13

def ensurePredecessor : Except StoreError Unit :=
  match step.predecessor with
  | none => .ok ()
  | some predecessor => do
    let row ← journal.loadStep predecessor
    ensure (row.state.reconciliation.isSome = true) .xmrWorkflowConflict

def initializeIdentity : Except StoreError SqliteXmrWorkflowJournal :=
  match journal.identity with
  | none => .ok { journal with identity := some identity, selectedBranch := none }
  | some durable => if durable = identity then .ok journal else .error .xmrWorkflowConflict

def selectBranch (branch : XmrWorkflowBranch) : Except StoreError SqliteXmrWorkflowJournal := do
  journal.ensureIdentity identity
  match journal.selectedBranch with
  | none =>
    journal.ensureCommonPrepared identity.localRole
    return { journal with selectedBranch := some branch }
  | some current =>
    ensure (current = branch) .xmrWorkflowConflict
    return journal

def prepareStep : Except StoreError SqliteXmrWorkflowJournal := do
  ensureStepRole identity step
  match journal.steps step with
  | some row =>
    validateStep identity step row
    return journal
  | none =>
    journal.ensureScope identity step.scope
    journal.ensurePredecessor step
    return journal.setStep step ⟨identity.localRole, step.scope, .prepared⟩

def currentStep : Except StoreError StepSnapshot := do
  ensureStepRole identity step
  journal.ensureScope identity step.scope
  let row ← journal.loadStep step
  validateStep identity step row
  return row

def authorizeOnce : Except StoreError (XmrWorkflowDecision × SqliteXmrWorkflowJournal) := do
  let row ← journal.currentStep identity step
  match row.state with
  | .prepared => return (.invokeOnce, journal.setStep step { row with state := .started })
  | .started | .unknown => return (.observeOnly, journal)
  | .succeeded _ _ => return (.complete, journal)

def markUnknown : Except StoreError SqliteXmrWorkflowJournal := do
  let row ← journal.currentStep identity step
  match row.state with
  | .started => return journal.setStep step { row with state := .unknown }
  | .unknown => return journal
  | .prepared | .succeeded _ _ => throw .xmrWorkflowConflict

def reconcileSucceeded (reconciliation : XmrWorkflowReconciliationV2) :
    Except StoreError SqliteXmrWorkflowJournal := do
  ensureStepRole identity step
  ensure (reconciliation.source = step.reconciliationSource) .invalidXmrWorkflowReconciliation
  let row ← journal.currentStep identity step
  match row.state with
  | .started => return journal.setStep step { row with state := .succeeded false reconciliation }
  | .unknown => return journal.setStep step { row with state := .succeeded true reconciliation }
  | .succeeded _ stored =>
    ensure (stored = reconciliation) .xmrWorkflowConflict
    return journal
  | .prepared => throw .xmrWorkflowConflict

variable {journal next : SqliteXmrWorkflowJournal} {identity : XmrWorkflowIdentityV1}
  {step : XmrWorkflowStep} {row : StepSnapshot}

@[simp] theorem setStep_same : (journal.setStep step row).steps step = some row := by
  simp [setStep]

theorem setStep_other (differs : other ≠ step) : (journal.setStep step row).steps other = journal.steps other := by
  simp [setStep, differs]

theorem setStep_cases {found : StepSnapshot} (stored : (journal.setStep step row).steps other = some found) :
    (other = step ∧ found = row) ∨ (other ≠ step ∧ journal.steps other = some found) := by
  by_cases same : other = step
  · subst same
    rw [setStep_same, Option.some.injEq] at stored
    exact .inl ⟨rfl, stored.symm⟩
  · rw [setStep_other same] at stored
    exact .inr ⟨same, stored⟩

theorem setStep_kept (kept : ∃ held, journal.steps other = some held) :
    ∃ held, (journal.setStep step row).steps other = some held := by
  by_cases same : other = step
  · exact ⟨row, by rw [same]; exact setStep_same⟩
  · rw [setStep_other same]
    exact kept

theorem ensureIdentity_ok {result : Unit} :
    journal.ensureIdentity identity = .ok result ↔ journal.identity = some identity := by
  unfold ensureIdentity
  split
  · rename_i missing
    simp [missing]
  · rename_i durable found
    rw [ensure_ok_iff, found, Option.some.injEq, eq_comm]

theorem loadStep_ok : journal.loadStep step = .ok row ↔ journal.steps step = some row := by
  unfold loadStep
  split <;> simp_all

theorem currentStep_ok (found : journal.currentStep identity step = .ok row) :
    identity.localRole = step.role ∧ journal.identity = some identity ∧
      (∀ branch, step.scope.branch = some branch → journal.selectedBranch = some branch) ∧
      journal.steps step = some row := by
  simp only [currentStep, ensureStepRole, ensureScope, checked_ok, ensureIdentity_ok, loadStep_ok] at found
  obtain ⟨role, ⟨named, inScope⟩, loaded, stored, -, returned⟩ := found
  cases returned
  refine ⟨role, named, fun branch owns => ?_, stored⟩
  rw [owns] at inScope
  exact ensure_ok_iff.mp inScope

inductive Changed (journal : SqliteXmrWorkflowJournal) : SqliteXmrWorkflowJournal → Prop
  | same : Changed journal journal
  | initialized (identity : XmrWorkflowIdentityV1) (fresh : journal.identity = none) :
      Changed journal { journal with identity := some identity, selectedBranch := none }
  | selected (branch : XmrWorkflowBranch) (free : journal.selectedBranch = none)
      (named : journal.identity ≠ none) :
      Changed journal { journal with selectedBranch := some branch }
  | prepared (identity : XmrWorkflowIdentityV1) (step : XmrWorkflowStep)
      (named : journal.identity = some identity) (role : identity.localRole = step.role)
      (absent : journal.steps step = none)
      (after : ∀ predecessor, step.predecessor = some predecessor →
        ∃ row, journal.steps predecessor = some row) :
      Changed journal (journal.setStep step ⟨identity.localRole, step.scope, .prepared⟩)
  | moved (step : XmrWorkflowStep) (row : StepSnapshot) (state : StepState)
      (stored : journal.steps step = some row) (later : state ≠ .prepared)
      (owned : ∀ branch, step.scope.branch = some branch → journal.selectedBranch = some branch)
      (sourced : state.reconciliation.all (·.source = step.reconciliationSource) = true) :
      Changed journal (journal.setStep step { row with state })

theorem initializeIdentity_changed (accepted : journal.initializeIdentity identity = .ok next) :
    Changed journal next := by
  unfold initializeIdentity at accepted
  split at accepted
  · cases accepted
    exact .initialized identity (by assumption)
  · split at accepted
    · cases accepted
      exact .same
    · cases accepted

theorem selectBranch_changed {branch : XmrWorkflowBranch}
    (accepted : journal.selectBranch identity branch = .ok next) : Changed journal next := by
  simp only [selectBranch, checked_ok] at accepted
  obtain ⟨named, continued⟩ := accepted
  rw [ensureIdentity_ok] at named
  split at continued
  · rename_i free
    simp only [checked_ok] at continued
    cases continued.2
    exact .selected branch free (by rw [named]; nofun)
  · simp only [checked_ok] at continued
    cases continued.2
    exact .same

theorem prepareStep_changed (accepted : journal.prepareStep identity step = .ok next) : Changed journal next := by
  simp only [prepareStep, ensureStepRole, checked_ok] at accepted
  obtain ⟨role, continued⟩ := accepted
  split at continued
  · simp only [checked_ok] at continued
    cases continued.2
    exact .same
  · rename_i absent
    simp only [ensureScope, checked_ok, ensureIdentity_ok] at continued
    obtain ⟨⟨named, -⟩, precedes, returned⟩ := continued
    cases returned
    refine .prepared identity step named role absent fun predecessor before => ?_
    unfold ensurePredecessor at precedes
    rw [before] at precedes
    simp only [bind_ok_iff, loadStep_ok] at precedes
    obtain ⟨row, stored, -⟩ := precedes
    exact ⟨row, stored⟩

/-- The one way to an invocation: the branch is selected and the step is still prepared. -/
theorem authorizeOnce_ok {decision : XmrWorkflowDecision}
    (accepted : journal.authorizeOnce identity step = .ok (decision, next)) :
    Changed journal next ∧ (decision = .invokeOnce →
      (∀ branch, step.scope.branch = some branch → journal.selectedBranch = some branch) ∧
        ∃ row, journal.steps step = some row ∧ row.state = .prepared) := by
  simp only [authorizeOnce, bind_ok_iff] at accepted
  obtain ⟨row, found, continued⟩ := accepted
  obtain ⟨-, -, owned, stored⟩ := currentStep_ok found
  split at continued
  · rename_i ready
    cases continued
    exact ⟨.moved step row .started stored nofun owned rfl, fun _ => ⟨owned, row, stored, ready⟩⟩
  · cases continued
    exact ⟨.same, nofun⟩
  · cases continued
    exact ⟨.same, nofun⟩
  · cases continued
    exact ⟨.same, nofun⟩

theorem markUnknown_changed (accepted : journal.markUnknown identity step = .ok next) : Changed journal next := by
  simp only [markUnknown, bind_ok_iff] at accepted
  obtain ⟨row, found, continued⟩ := accepted
  obtain ⟨-, -, owned, stored⟩ := currentStep_ok found
  split at continued
  · cases continued
    exact .moved step row .unknown stored nofun owned rfl
  · cases continued
    exact .same
  · cases continued
  · cases continued

theorem reconcileSucceeded_changed {reconciliation : XmrWorkflowReconciliationV2}
    (accepted : journal.reconcileSucceeded identity step reconciliation = .ok next) : Changed journal next := by
  simp only [reconcileSucceeded, checked_ok] at accepted
  obtain ⟨-, sourced, row, found, continued⟩ := accepted
  obtain ⟨-, -, owned, stored⟩ := currentStep_ok found
  split at continued
  · cases continued
    exact .moved step row (.succeeded false reconciliation) stored nofun owned
      (by simpa [StepState.reconciliation] using sourced)
  · cases continued
    exact .moved step row (.succeeded true reconciliation) stored nofun owned
      (by simpa [StepState.reconciliation] using sourced)
  · simp only [checked_ok] at continued
    cases continued.2
    exact .same
  · cases continued

structure Sound (journal : SqliteXmrWorkflowJournal) : Prop where
  unselected : journal.identity = none → journal.selectedBranch = none
  named : ∀ step row, journal.steps step = some row → ∃ identity, journal.identity = some identity ∧
    row.role = identity.localRole ∧ identity.localRole = step.role ∧ row.scope = step.scope
  sourced : ∀ step row, journal.steps step = some row →
    row.state.reconciliation.all (·.source = step.reconciliationSource) = true
  ordered : ∀ step row predecessor, journal.steps step = some row →
    step.predecessor = some predecessor → ∃ earlier, journal.steps predecessor = some earlier

theorem sound_createNew : createNew.Sound := ⟨fun _ => rfl, nofun, nofun, nofun⟩

theorem Sound.changed (sound : journal.Sound) (change : Changed journal next) : next.Sound := by
  cases change with
  | same => exact sound
  | initialized identity fresh =>
    refine ⟨nofun, fun step row stored => ?_, sound.sourced, sound.ordered⟩
    obtain ⟨other, held, -⟩ := sound.named step row stored
    rw [fresh] at held
    cases held
  | selected branch free named =>
    exact ⟨fun missing => absurd missing named, sound.named, sound.sourced, sound.ordered⟩
  | prepared identity step named role absent after =>
    refine ⟨sound.unselected, fun other row stored => ?_, fun other row stored => ?_,
      fun other row predecessor stored before => setStep_kept ?_⟩
    · rcases setStep_cases stored with ⟨rfl, rfl⟩ | ⟨-, old⟩
      · exact ⟨identity, named, rfl, role, rfl⟩
      · exact sound.named other row old
    · rcases setStep_cases stored with ⟨rfl, rfl⟩ | ⟨-, old⟩
      · rfl
      · exact sound.sourced other row old
    · rcases setStep_cases stored with ⟨rfl, rfl⟩ | ⟨-, old⟩
      · exact after predecessor before
      · exact sound.ordered other row predecessor old before
  | moved step held state stored later owned sourced =>
    refine ⟨sound.unselected, fun other row found => ?_, fun other row found => ?_,
      fun other row predecessor found before => setStep_kept ?_⟩
    · rcases setStep_cases found with ⟨rfl, rfl⟩ | ⟨-, old⟩
      · exact sound.named other held stored
      · exact sound.named other row old
    · rcases setStep_cases found with ⟨rfl, rfl⟩ | ⟨-, old⟩
      · exact sourced
      · exact sound.sourced other row old
    · rcases setStep_cases found with ⟨rfl, rfl⟩ | ⟨-, old⟩
      · exact sound.ordered other held predecessor stored before
      · exact sound.ordered other row predecessor old before

theorem ensureScope_of {scope : XmrWorkflowStepScope} (named : journal.identity = some identity)
    (owned : ∀ branch, scope.branch = some branch → journal.selectedBranch = some branch) :
    journal.ensureScope identity scope = .ok () := by
  have identified : journal.ensureIdentity identity = .ok () := ensureIdentity_ok.mpr named
  unfold ensureScope
  rw [identified]
  cases needs : scope.branch with
  | none => rfl
  | some branch => exact ensure_ok_iff.mpr (owned branch needs)

section Calls

variable (sound : journal.Sound) (named : journal.identity = some identity)
include sound named

section Stored

variable (stored : journal.steps step = some row)
include stored

theorem Sound.ownRow :
    identity.localRole = step.role ∧ validateStep identity step row = .ok () ∧
      row.role = step.role ∧ row.scope = step.scope := by
  obtain ⟨owner, held, role, own, scope⟩ := sound.named step row stored
  rw [named, Option.some.injEq] at held
  subst held
  refine ⟨own, ?_, role.trans own, scope⟩
  unfold validateStep
  exact ensure_ok_iff.mpr ⟨role, role.trans own, scope, sound.sourced step row stored⟩

theorem Sound.currentStep
    (owned : ∀ branch, step.scope.branch = some branch → journal.selectedBranch = some branch) :
    journal.currentStep identity step = .ok row := by
  obtain ⟨role, valid, -⟩ := sound.ownRow named stored
  have allowed : ensureStepRole identity step = .ok () := ensure_ok_iff.mpr role
  simp only [SqliteXmrWorkflowJournal.currentStep, allowed, ensureScope_of named owned,
    loadStep_ok.mpr stored, valid, ok_bind]
  rfl

theorem Sound.ensureCommonStep (role : step.role = .taker)
    (common : step.scope = .common) : journal.ensureCommonStep .taker step = .ok () := by
  obtain ⟨-, -, owner, scope⟩ := sound.ownRow named stored
  simp only [SqliteXmrWorkflowJournal.ensureCommonStep, loadStep_ok.mpr stored, ok_bind]
  exact ensure_ok_iff.mpr ⟨owner.trans role, scope.trans common⟩

omit stored in
theorem Sound.selectBranch (taker : identity.localRole = .taker)
    (planned : journal.steps .fundLezTag13 = some row) {branch : XmrWorkflowBranch}
    (free : journal.selectedBranch = none ∨ journal.selectedBranch = some branch) :
    ∃ next, journal.selectBranch identity branch = .ok next ∧ next.selectedBranch = some branch ∧
      next.identity = journal.identity ∧ next.steps = journal.steps := by
  have identified : journal.ensureIdentity identity = .ok () := ensureIdentity_ok.mpr named
  rcases free with free | chosen
  · obtain ⟨first, opened⟩ := sound.ordered _ row .initializeLezTag13 planned rfl
    have common : journal.ensureCommonPrepared .taker = .ok () := by
      simp only [ensureCommonPrepared, sound.ensureCommonStep named opened rfl rfl,
        sound.ensureCommonStep named planned rfl rfl, ok_bind]
    simp only [SqliteXmrWorkflowJournal.selectBranch, identified, free, taker, common, ok_bind]
    exact ⟨_, rfl, rfl, rfl, rfl⟩
  · simp only [SqliteXmrWorkflowJournal.selectBranch, identified, chosen, ok_bind]
    exact ⟨journal, rfl, chosen, rfl, rfl⟩

omit stored in
theorem Sound.prepareStep {predecessor : XmrWorkflowStep} {earlier : StepSnapshot}
    (role : identity.localRole = step.role)
    (owned : ∀ branch, step.scope.branch = some branch → journal.selectedBranch = some branch)
    (before : step.predecessor = some predecessor) (stored : journal.steps predecessor = some earlier)
    (reconciled : earlier.state.reconciliation.isSome = true)
    (fresh : ∀ row, journal.steps step = some row → row.state = .prepared) :
    ∃ next row, journal.prepareStep identity step = .ok next ∧ next.steps step = some row ∧
      row.state = .prepared ∧ next.identity = journal.identity ∧
      next.selectedBranch = journal.selectedBranch := by
  have allowed : ensureStepRole identity step = .ok () := ensure_ok_iff.mpr role
  cases held : journal.steps step with
  | some row =>
    simp only [SqliteXmrWorkflowJournal.prepareStep, allowed, held, (sound.ownRow named held).2.1, ok_bind]
    exact ⟨journal, row, rfl, held, fresh row held, rfl, rfl⟩
  | none =>
    have precedes : journal.ensurePredecessor step = .ok () := by
      unfold ensurePredecessor
      rw [before]
      simp only [loadStep_ok.mpr stored, ok_bind]
      exact ensure_ok_iff.mpr reconciled
    simp only [SqliteXmrWorkflowJournal.prepareStep, allowed, held, ensureScope_of named owned, precedes, ok_bind]
    exact ⟨_, _, rfl, setStep_same, rfl, rfl, rfl⟩

theorem Sound.authorizeOnce (ready : row.state = .prepared)
    (owned : ∀ branch, step.scope.branch = some branch → journal.selectedBranch = some branch) :
    ∃ next, journal.authorizeOnce identity step = .ok (.invokeOnce, next) := by
  simp only [SqliteXmrWorkflowJournal.authorizeOnce, sound.currentStep named stored owned, ready, ok_bind]
  exact ⟨_, rfl⟩

theorem Sound.reconcileSucceeded (invoked : row.state ≠ .prepared)
    (owned : ∀ branch, step.scope.branch = some branch → journal.selectedBranch = some branch) :
    ∃ reconciliation next held, journal.reconcileSucceeded identity step reconciliation = .ok next ∧
      next.steps step = some held ∧ held.state.reconciliation.isSome = true ∧
      next.identity = journal.identity ∧ next.selectedBranch = journal.selectedBranch ∧
      ∀ other, other ≠ step → next.steps other = journal.steps other := by
  have found := sound.currentStep named stored owned
  have allowed : ensureStepRole identity step = .ok () :=
    ensure_ok_iff.mpr (sound.ownRow named stored).1
  let evidence : XmrWorkflowReconciliationV2 := ⟨1, 1, step.reconciliationSource, by decide⟩
  have suits : ensure (evidence.source = step.reconciliationSource)
      StoreError.invalidXmrWorkflowReconciliation = .ok () := ensure_ok_iff.mpr rfl
  cases state : row.state with
  | prepared => exact absurd state invoked
  | started =>
    refine ⟨evidence, journal.setStep step { row with state := .succeeded false evidence }, _, ?_,
      setStep_same, rfl, rfl, rfl, fun other differs => setStep_other differs⟩
    simp only [SqliteXmrWorkflowJournal.reconcileSucceeded, allowed, suits, found, state, ok_bind]
    rfl
  | unknown =>
    refine ⟨evidence, journal.setStep step { row with state := .succeeded true evidence }, _, ?_,
      setStep_same, rfl, rfl, rfl, fun other differs => setStep_other differs⟩
    simp only [SqliteXmrWorkflowJournal.reconcileSucceeded, allowed, suits, found, state, ok_bind]
    rfl
  | succeeded fromUnknown reconciliation =>
    have sources := sound.sourced step row stored
    rw [state] at sources
    have own : ensure (reconciliation.source = step.reconciliationSource)
        StoreError.invalidXmrWorkflowReconciliation = .ok () :=
      ensure_ok_iff.mpr (by simpa [StepState.reconciliation] using sources)
    refine ⟨reconciliation, journal, row, ?_, stored, by rw [state]; rfl, rfl, rfl, fun _ _ => rfl⟩
    simp only [SqliteXmrWorkflowJournal.reconcileSucceeded, allowed, own, found, state, ok_bind]
    rfl

end Stored

end Calls

end SqliteXmrWorkflowJournal

end AtomicSwaps.Xmr
