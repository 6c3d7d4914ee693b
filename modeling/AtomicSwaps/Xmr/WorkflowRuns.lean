import AtomicSwaps.Relational.Served
import AtomicSwaps.Xmr.RefundExit

namespace AtomicSwaps.Xmr.SqliteXmrWorkflowJournal

open Fallible Relational Transition

inductive Request
  | initializeIdentity
  | selectBranch (branch : XmrWorkflowBranch)
  | prepareStep (step : XmrWorkflowStep)
  | authorizeOnce (step : XmrWorkflowStep)
  | markUnknown (step : XmrWorkflowStep)
  | reconcileSucceeded (step : XmrWorkflowStep) (reconciliation : XmrWorkflowReconciliationV2)

/-- The transactions of any number of handles. Only `authorizeOnce` answers with a decision. -/
def perform (journal : SqliteXmrWorkflowJournal) (call : XmrWorkflowIdentityV1 × Request) :
    Except StoreError (Option XmrWorkflowDecision × SqliteXmrWorkflowJournal) := do
  match call.2 with
  | .initializeIdentity => return (none, ← journal.initializeIdentity call.1)
  | .selectBranch branch => return (none, ← journal.selectBranch call.1 branch)
  | .prepareStep step => return (none, ← journal.prepareStep call.1 step)
  | .authorizeOnce step =>
    let (decision, next) ← journal.authorizeOnce call.1 step
    return (some decision, next)
  | .markUnknown step => return (none, ← journal.markUnknown call.1 step)
  | .reconcileSucceeded step reconciliation =>
    return (none, ← journal.reconcileSucceeded call.1 step reconciliation)

abbrev Event : Type :=
  (XmrWorkflowIdentityV1 × Request) × Option (Except StoreError (Option XmrWorkflowDecision))

def invokes (step : XmrWorkflowStep) : Event → Bool
  | ((_, .authorizeOnce named), some (.ok (some .invokeOnce))) => named = step
  | _ => false

variable (journal next : SqliteXmrWorkflowJournal) (step : XmrWorkflowStep)

def Past (done : StepState → Prop) : Prop := ∃ row, journal.steps step = some row ∧ done row.state

/-- What `prepareStep` checks of a step it stores. -/
structure Owned : Prop where
  branch : ∀ branch, step.scope.branch = some branch → journal.selectedBranch = some branch
  follows : ∀ predecessor, step.predecessor = some predecessor →
    ∃ evidence, journal.Past predecessor (·.reconciliation = some evidence)

structure Guarded : Prop where
  unselected : journal.identity = none → journal.selectedBranch = none
  owned : ∀ step, journal.steps step ≠ none → journal.Owned step

structure Kept : Prop where
  branch : ∀ branch, journal.selectedBranch = some branch → next.selectedBranch = some branch
  spent : ∀ step, journal.Past step (· ≠ .prepared) → next.Past step (· ≠ .prepared)
  evidence : ∀ step evidence, journal.Past step (·.reconciliation = some evidence) →
    next.Past step (·.reconciliation = some evidence)

variable {journal next step} {identity : XmrWorkflowIdentityV1} {row : StepSnapshot}

theorem Kept.refl : Kept journal journal :=
  ⟨fun _ held => held, fun _ held => held, fun _ _ held => held⟩

theorem Kept.owned (kept : Kept journal next) (owned : journal.Owned step) : next.Owned step := by
  refine ⟨fun _ own => kept.branch _ (owned.branch _ own), fun _ before => ?_⟩
  obtain ⟨evidence, recorded⟩ := owned.follows _ before
  exact ⟨evidence, kept.evidence _ _ recorded⟩

/-- What a call does: it keeps the journal, and a step it stores has passed the checks. -/
structure Taken (journal next : SqliteXmrWorkflowJournal) : Prop extends Kept journal next where
  unselected : next.identity = none → next.selectedBranch = none
  stored : ∀ step, next.steps step ≠ none → journal.steps step ≠ none ∨ journal.Owned step

theorem Guarded.same (guarded : journal.Guarded) : Taken journal journal :=
  ⟨.refl, guarded.unselected, fun _ => .inl⟩

theorem Guarded.put (guarded : journal.Guarded) (ready : journal.steps step ≠ none ∨ journal.Owned step)
    (opened : ∀ held, journal.steps step = some held → held.state.reconciliation = none ∧ row.state ≠ .prepared) :
    Taken journal (journal.setStep step row) := by
  refine ⟨⟨Kept.refl.branch, ?_, ?_⟩, guarded.unselected, fun other stored => ?_⟩
  · rintro other ⟨held, stored, begun⟩
    by_cases same : other = step
    · exact ⟨row, same ▸ setStep_same, (opened held (same ▸ stored)).2⟩
    · exact ⟨held, (setStep_other same).trans stored, begun⟩
  · rintro other evidence ⟨held, stored, recorded⟩
    refine ⟨held, (setStep_other ?_).trans stored, recorded⟩
    rintro rfl
    cases (opened held stored).1.symm.trans recorded
  · by_cases same : other = step
    · exact same ▸ ready
    · exact .inl (setStep_other same ▸ stored)

theorem Guarded.move {state : StepState} (guarded : journal.Guarded)
    (found : journal.currentStep identity step = .ok row)
    (pending : row.state.reconciliation = none) (later : state ≠ .prepared) :
    Taken journal (journal.setStep step { row with state }) := by
  have stored := (currentStep_ok found).2.2.2
  refine guarded.put (.inl (by rw [stored]; exact Option.some_ne_none row)) fun held same => ?_
  cases stored.symm.trans same
  exact ⟨pending, later⟩

theorem prepareStep_taken (guarded : journal.Guarded) (accepted : journal.prepareStep identity step = .ok next) :
    Taken journal next := by
  simp only [prepareStep, checked_ok] at accepted
  obtain ⟨-, preparing⟩ := accepted
  split at preparing <;> simp only [ensureScope, ensurePredecessor, checked_ok] at preparing
  · cases preparing.2
    exact guarded.same
  · rename_i absent
    obtain ⟨⟨-, inScope⟩, precedes, ⟨⟩⟩ := preparing
    refine guarded.put (.inr ⟨fun branch own => ?_, fun predecessor before => ?_⟩) fun _ stored => ?_
    · rw [own] at inScope
      exact ensure_ok_iff.mp inScope
    · rw [before] at precedes
      simp only [bind_ok_iff, loadStep_ok, ensure_ok_iff, Option.isSome_iff_exists] at precedes
      obtain ⟨row, stored, evidence, recorded⟩ := precedes
      exact ⟨evidence, row, stored, recorded⟩
    · cases absent.symm.trans stored

theorem perform_taken {call : XmrWorkflowIdentityV1 × Request} {decision : Option XmrWorkflowDecision}
    (guarded : journal.Guarded) (performed : journal.perform call = .ok (decision, next)) : Taken journal next := by
  unfold perform at performed
  split at performed <;> simp only [bind_ok_iff, pure_ok] at performed <;> obtain ⟨_, accepted, ⟨⟩⟩ := performed
  · unfold initializeIdentity at accepted
    split at accepted
    · rename_i fresh
      cases accepted
      refine ⟨⟨fun _ selected => ?_, Kept.refl.spent, Kept.refl.evidence⟩, fun _ => rfl, fun _ => .inl⟩
      cases (guarded.unselected fresh).symm.trans selected
    · split at accepted <;> cases accepted
      exact guarded.same
  · simp only [selectBranch, checked_ok, ensureIdentity_ok] at accepted
    obtain ⟨named, selecting⟩ := accepted
    split at selecting <;> simp only [checked_ok] at selecting <;> cases selecting.2
    · rename_i free
      refine ⟨⟨fun _ selected => ?_, Kept.refl.spent, Kept.refl.evidence⟩, fun missing => ?_, fun _ => .inl⟩
      · cases free.symm.trans selected
      · cases named.symm.trans missing
    · exact guarded.same
  · exact prepareStep_taken guarded accepted
  · simp only [authorizeOnce, bind_ok_iff] at accepted
    obtain ⟨row, found, moving⟩ := accepted
    split at moving <;> rename_i state <;> cases moving
    · exact guarded.move found (by rw [state]; rfl) (by rintro ⟨⟩)
    all_goals exact guarded.same
  · simp only [markUnknown, bind_ok_iff] at accepted
    obtain ⟨row, found, moving⟩ := accepted
    split at moving <;> rename_i state <;> cases moving
    · exact guarded.move found (by rw [state]; rfl) (by rintro ⟨⟩)
    · exact guarded.same
  · simp only [reconcileSucceeded, checked_ok] at accepted
    obtain ⟨-, -, row, found, moving⟩ := accepted
    split at moving <;> rename_i state
    · cases moving
      exact guarded.move found (by rw [state]; rfl) (by rintro ⟨⟩)
    · cases moving
      exact guarded.move found (by rw [state]; rfl) (by rintro ⟨⟩)
    · simp only [checked_ok] at moving
      cases moving.2
      exact guarded.same
    · cases moving

theorem served_kept {event : Event} (guarded : journal.Guarded) (served : Served perform journal event next) :
    Kept journal next ∧ next.Guarded := by
  rcases served.cases_db with rfl | ⟨decision, performed, -⟩
  · exact ⟨.refl, guarded⟩
  · have taken := perform_taken guarded performed
    refine ⟨taken.toKept, taken.unselected, fun step stored => taken.owned ?_⟩
    exact (taken.stored step stored).elim (guarded.owned step) id

theorem guarded_createNew : createNew.Guarded := ⟨fun _ => rfl, fun _ stored => absurd rfl stored⟩

theorem served_invokes {event : Event} (served : Served perform journal event next)
    (invoked : invokes step event = true) :
    ¬journal.Past step (· ≠ .prepared) ∧ next.Past step (· ≠ .prepared) := by
  unfold invokes at invoked
  split at invoked
  · rename_i identity named
    obtain rfl := of_decide_eq_true invoked
    have performed := served.answer rfl
    simp only [perform, authorizeOnce, bind_ok_iff, pure_ok] at performed
    obtain ⟨_, ⟨row, found, moving⟩, answered⟩ := performed
    split at moving <;> cases moving <;> cases answered
    rename_i ready
    refine ⟨?_, _, setStep_same, by rintro ⟨⟩⟩
    rintro ⟨held, stored, begun⟩
    cases (currentStep_ok found).2.2.2.symm.trans stored
    exact begun ready
  · cases invoked

variable {history : List Event} (run : Run (Served perform) createNew history journal)
include run

theorem guarded_run : journal.Guarded :=
  run.invariant guarded_createNew fun _ _ _ held served => (served_kept held served).2

theorem workflow_invokes_once_in_order :
    (∀ step, history.countP (invokes step) ≤ 1 ∧
      (0 < history.countP (invokes step) → journal.Owned step)) ∧
      (∀ step, journal.steps step ≠ none → journal.Owned step) ∧
      ∀ later final, Run (Served perform) journal later final → Kept journal final := by
  have guarded := guarded_run run
  refine ⟨fun step => ?_, guarded.owned, fun later final more => ?_⟩
  · obtain ⟨once, spent⟩ := run.once (·.Past step (· ≠ .prepared)) guarded_createNew
      (fun _ _ _ held served => (served_kept held served).2)
      (fun _ _ _ held served => (served_kept held served).1.spent step) fun _ _ _ _ => served_invokes
    refine ⟨once, fun invoked => ?_⟩
    obtain ⟨row, stored, -⟩ := spent invoked
    exact guarded.owned step (by rw [stored]; exact Option.some_ne_none row)
  · induction more with
    | nil => exact .refl
    | snoc before served kept =>
      have more := (served_kept (guarded_run (run.append before)) served).1
      exact ⟨fun _ old => more.branch _ (kept.branch _ old), fun _ old => more.spent _ (kept.spent _ old),
        fun _ _ old => more.evidence _ _ (kept.evidence _ _ old)⟩

def sampleSettled (step : XmrWorkflowStep) : List Request :=
  [.prepareStep step, .authorizeOnce step, .reconcileSucceeded step (TakerWorld.sampleEvidence step)]

def sampleRefund : List Request :=
  .initializeIdentity :: sampleSettled .initializeLezTag13 ++ sampleSettled .fundLezTag13 ++
    [.selectBranch .refund, .prepareStep .refundLezTag16, .authorizeOnce .refundLezTag16,
      .authorizeOnce .refundLezTag16]

omit run in
theorem workflow_invokes_once_in_order_sample :
    let served := replay (serve perform) createNew (sampleRefund.map (TakerWorld.sampleIdentity, ·))
    served.2.countP (invokes .refundLezTag16) = 1 ∧ served.1.selectedBranch = some .refund ∧
      ∃ evidence, served.1.Past .fundLezTag13 (·.reconciliation = some evidence) := by
  intro served
  have run := run_replay (serve_served perform) createNew (sampleRefund.map (TakerWorld.sampleIdentity, ·))
  have once : served.2.countP (invokes .refundLezTag16) = 1 := by decide +kernel
  have owned := ((workflow_invokes_once_in_order run).1 .refundLezTag16).2 (by rw [once]; decide)
  exact ⟨once, owned.branch .refund rfl, owned.follows .fundLezTag13 rfl⟩

end AtomicSwaps.Xmr.SqliteXmrWorkflowJournal
