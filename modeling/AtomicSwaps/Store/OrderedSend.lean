import AtomicSwaps.Relational.Served
import AtomicSwaps.Store.MakerLock

namespace AtomicSwaps.Store.MakerLock

open AtomicSwaps.Core (Bytes32 Identifier)
open AtomicSwaps.Store.PublicEffect (Bytes i64Max)
open Fallible Relational Transition StoreError ExactPublicEffectPlanV1

/-- The errors that are a caller's doing: the database is as it should be. -/
def StoreError.harmless (error : StoreError) : Prop := error ≠ .sqlite ∧ error ≠ .corruptBtcMakerLockIntent

theorem harmless_invalid : harmless .invalidBtcMakerLockIntent := ⟨nofun, nofun⟩

theorem harmless_conflict : harmless .btcMakerLockConflict := ⟨nofun, nofun⟩

theorem harmless_missing : harmless .missingBtcMakerLockIntent := ⟨nofun, nofun⟩

/-- A step whose counters fit its state, and whose recorded acceptance names its own effect. -/
structure BtcMakerLockStepSnapshot.Sound (step : BtcMakerLockStepSnapshot) : Prop where
  shaped : validateStepShape step = .ok ()
  named : ∀ expectedId, step.submissionResult = some (.accepted expectedId) →
    expectedId = step.step.expectedPublicId.bytes

/-- What every durable intent keeps to. -/
structure Consistent (snapshot : BtcMakerLockIntentSnapshot) : Prop where
  valid : snapshot.intent.validate = .ok ()
  steps : snapshot.steps.map (·.step) = snapshot.intent.plan.steps
  sound : ∀ step ∈ snapshot.steps, step.Sound
  ordered : ∀ (i j : Nat) (earlier later : BtcMakerLockStepSnapshot), i < j → snapshot.steps[i]? = some earlier →
    snapshot.steps[j]? = some later → later.state = .accepted → earlier.state = .accepted
  closed : snapshot.closedRevision = none ∨
    (snapshot.closedRevision = some 2 ∧ ∀ step ∈ snapshot.steps, step.state = .accepted)

section Rows

variable (sha256 : Bytes → Bytes32) (swapId : Identifier) {step : BtcMakerLockStepSnapshot}

def headerRow (snapshot : BtcMakerLockIntentSnapshot) : IntentRow where
  swapId := snapshot.intent.swapId
  localRole := .maker
  predecessorRevision := snapshot.intent.predecessorRevision
  agreementCommitment := snapshot.intent.agreementCommitment
  planSchemaVersion := snapshot.intent.plan.schemaVersion
  planCommitment := snapshot.intent.plan.commitment sha256
  closedRevision := snapshot.closedRevision

def stepRow (index : Nat) (step : BtcMakerLockStepSnapshot) : StepRow :=
  { preparedRow sha256 swapId index step.step with
    submissionResult := step.submissionResult.map (·.name), state := step.state
    attemptCount := step.attemptCount, revision := step.revision }

def rowsFrom (index : Nat) : List BtcMakerLockStepSnapshot → List StepRow
  | [] => []
  | step :: rest => stepRow sha256 swapId index step :: rowsFrom (index + 1) rest

variable {sha256 swapId}

theorem rowsFrom_append (index : Nat) (first second : List BtcMakerLockStepSnapshot) :
    rowsFrom sha256 swapId index (first ++ second) =
      rowsFrom sha256 swapId index first ++ rowsFrom sha256 swapId (index + first.length) second := by
  induction first generalizing index with
  | nil => rfl
  | cons step rest tail =>
    have shift : index + 1 + rest.length = index + (rest.length + 1) := by omega
    simp only [List.cons_append, rowsFrom, tail, List.length_cons, shift]

variable {steps : List BtcMakerLockStepSnapshot}

theorem mem_rowsFrom {row : StepRow} {index : Nat} :
    row ∈ rowsFrom sha256 swapId index steps ↔
      ∃ (i : Nat) (step : BtcMakerLockStepSnapshot), steps[i]? = some step ∧
        row = stepRow sha256 swapId (index + i) step := by
  induction steps generalizing index with
  | nil => simp [rowsFrom]
  | cons first rest tail =>
    rw [rowsFrom, List.mem_cons, tail]
    constructor
    · rintro (rfl | ⟨i, step, found, rfl⟩)
      · exact ⟨0, first, rfl, rfl⟩
      · refine ⟨i + 1, step, found, ?_⟩
        rw [Nat.add_right_comm, Nat.add_assoc]
    · rintro ⟨i, step, found, rfl⟩
      cases i with
      | zero =>
        cases found
        exact .inl rfl
      | succ i =>
        refine .inr ⟨i, step, found, ?_⟩
        rw [Nat.add_right_comm, Nat.add_assoc]

theorem rowsFrom_sorted (index : Nat) (steps : List BtcMakerLockStepSnapshot) :
    (rowsFrom sha256 swapId index steps).Pairwise fun first second => first.stepIndex ≤ second.stepIndex := by
  induction steps generalizing index with
  | nil => exact .nil
  | cons step rest tail =>
    refine .cons (fun row member => ?_) (tail (index + 1))
    obtain ⟨i, later, _, rfl⟩ := mem_rowsFrom.mp member
    show index ≤ index + 1 + i
    omega

theorem rowsFrom_untouched {new : StepRow} {index position : Nat} (below : position < index) :
    (rowsFrom sha256 swapId index steps).map (fun old =>
      if btcMakerLockSteps.key old = (swapId, position) then new else old) =
      rowsFrom sha256 swapId index steps := by
  have same : ∀ row ∈ rowsFrom sha256 swapId index steps,
      (if btcMakerLockSteps.key row = (swapId, position) then new else row) = id row := by
    intro row member
    obtain ⟨i, step, _, rfl⟩ := mem_rowsFrom.mp member
    apply if_neg
    intro keys
    have indices : index + i = position := (Prod.mk.inj keys).2
    omega
  rw [List.map_congr_left same, List.map_id]

theorem rowsFrom_set {next : BtcMakerLockStepSnapshot} (index i : Nat) :
    (rowsFrom sha256 swapId index steps).map (fun old =>
      if btcMakerLockSteps.key old = (swapId, index + i) then stepRow sha256 swapId (index + i) next else old) =
      rowsFrom sha256 swapId index (steps.set i next) := by
  induction steps generalizing index i with
  | nil => rfl
  | cons first rest tail =>
    cases i with
    | zero =>
      have own : btcMakerLockSteps.key (stepRow sha256 swapId index first) = (swapId, index) := rfl
      rw [Nat.add_zero, rowsFrom, List.map_cons, rowsFrom_untouched (Nat.lt_succ_self index), if_pos own]
      rfl
    | succ i =>
      have shift : index + (i + 1) = index + 1 + i := by omega
      have other : ¬btcMakerLockSteps.key (stepRow sha256 swapId index first) = (swapId, index + (i + 1)) := by
        intro keys
        have indices : index = index + (i + 1) := (Prod.mk.inj keys).2
        omega
      rw [rowsFrom, List.map_cons, if_neg other, shift, tail (index + 1) i]
      rfl

theorem submission_round_trip (sound : step.Sound) :
    (step.submissionResult.map (·.name)).map (BtcMakerLockSubmissionResult.parse step.step) =
      step.submissionResult := by
  cases recorded : step.submissionResult with
  | none => rfl
  | some result =>
    cases result with
    | accepted expectedId =>
      rw [sound.named expectedId recorded]
      rfl
    | unknown => rfl

theorem decodeStep_ok (sound : step.Sound) (index : Nat) :
    decodeStep sha256 index (stepRow sha256 swapId index step) = .ok step := by
  have stepId : PublicEffectStepId.new step.step.step.bytes = .ok step.step.step := dif_pos step.step.step.valid
  have publicId : ExpectedPublicEffectId.new step.step.expectedPublicId.bytes = .ok step.step.expectedPublicId :=
    dif_pos step.step.expectedPublicId.valid
  have exact : ExactPublicEffectBytes.new step.step.exactBytes.bytes = .ok step.step.exactBytes :=
    dif_pos step.step.exactBytes.valid
  simp only [decodeStep, stepRow, preparedRow, and_self, ensure_ok, ok_bind, stepId, publicId, exact, corrupted,
    mapError_ok, submission_round_trip sound, sound.shaped]
  rfl

theorem decodeSteps_ok (sound : ∀ step ∈ steps, step.Sound) (index : Nat) :
    decodeSteps sha256 index (rowsFrom sha256 swapId index steps) = .ok steps := by
  induction steps generalizing index with
  | nil => rfl
  | cons step rest tail =>
    rw [rowsFrom, decodeSteps, decodeStep_ok (sound step List.mem_cons_self), ok_bind,
      tail (fun later member => sound later (List.mem_cons_of_mem _ member)), ok_bind]
    rfl

end Rows

section Loading

variable {sha256 : Bytes → Bytes32} {journal next : Journal} {snapshot : BtcMakerLockIntentSnapshot}
  {swapId : Identifier} {steps : List PublicEffectStepV1}

theorem validate_plan {intent : BtcMakerLockIntentV1} (valid : intent.validate = .ok ()) :
    new intent.plan.steps = .ok intent.plan ∧ intent.localRole = .maker ∧
      intent.predecessorRevision = 1 ∧ intent.agreementCommitment ≠ 0 := by
  simp only [BtcMakerLockIntentV1.validate, checked_ok, mapError_ok_iff] at valid
  obtain ⟨plan, made, role, predecessor, agreement, _, rfl⟩ := valid
  exact ⟨made, role, predecessor, agreement⟩

theorem checkSteps_nodup {seen : List PublicEffectStepId} {totalBytes : Nat}
    (checked : checkSteps seen totalBytes steps = .ok ()) :
    (steps.map (·.step)).Nodup ∧ ∀ step ∈ steps, step.step ∉ seen := by
  induction steps generalizing seen totalBytes with
  | nil => exact ⟨.nil, fun _ member => nomatch member⟩
  | cons step rest tail =>
    simp only [checkSteps, checked_ok] at checked
    obtain ⟨fresh, _, checked⟩ := checked
    obtain ⟨nodup, unseen⟩ := tail checked
    constructor
    · rw [List.map_cons, List.nodup_cons]
      refine ⟨fun listed => ?_, nodup⟩
      obtain ⟨later, member, same⟩ := List.mem_map.mp listed
      exact unseen later member (by rw [same]; exact List.mem_cons_self)
    · intro other member
      rcases List.mem_cons.mp member with rfl | later
      · exact fresh
      · exact fun old => unseen other later (List.mem_cons_of_mem _ old)

theorem plan_made {plan : ExactPublicEffectPlanV1} (made : new steps = .ok plan) :
    steps ≠ [] ∧ steps.length ≤ 32 ∧ (steps.map (·.step)).Nodup ∧ plan.schemaVersion = 1 := by
  simp only [new, checked_ok, pure_ok] at made
  obtain ⟨nonempty, bounded, checked, rfl⟩ := made
  exact ⟨nonempty, bounded, (checkSteps_nodup checked).1, rfl⟩

/-- The tables hold this intent and nothing else under its swap id. -/
structure Holds (sha256 : Bytes → Bytes32) (journal : Journal) (snapshot : BtcMakerLockIntentSnapshot) : Prop where
  header : journal.intents.find? snapshot.intent.swapId = some (headerRow sha256 snapshot)
  rows : journal.steps.rows.filter (·.swapId = snapshot.intent.swapId) =
    rowsFrom sha256 snapshot.intent.swapId 0 snapshot.steps
  consistent : Consistent snapshot

def Absent (journal : Journal) (swapId : Identifier) : Prop :=
  journal.intents.find? swapId = none ∧ journal.steps.rows.filter (·.swapId = swapId) = []

def Journal.Sound (sha256 : Bytes → Bytes32) (journal : Journal) : Prop :=
  ∀ swapId, Absent journal swapId ∨ ∃ snapshot, snapshot.intent.swapId = swapId ∧ Holds sha256 journal snapshot

theorem loadExactStepPlan_holds (holds : Holds sha256 journal snapshot) :
    loadExactStepPlan sha256 journal snapshot.intent.swapId = .ok (snapshot.intent.plan, snapshot.steps) := by
  have made := (validate_plan holds.consistent.valid).1
  have nonempty : rowsFrom sha256 snapshot.intent.swapId 0 snapshot.steps ≠ [] := by
    have steps := (plan_made made).1
    rw [← holds.consistent.steps] at steps
    cases held : snapshot.steps with
    | nil =>
      rw [held] at steps
      exact absurd rfl steps
    | cons step rest => exact nofun
  unfold loadExactStepPlan
  rw [holds.rows, orderBy_sorted (rowsFrom_sorted 0 snapshot.steps)]
  simp only [ensure_ok nonempty, ok_bind, decodeSteps_ok holds.consistent.sound, holds.consistent.steps, made,
    corrupted, mapError_ok]
  rfl

theorem load_holds (holds : Holds sha256 journal snapshot) :
    loadIntentSnapshot sha256 journal snapshot.intent.swapId = .ok (some snapshot) := by
  obtain ⟨made, role, predecessor, _⟩ := validate_plan holds.consistent.valid
  have version := (plan_made made).2.2.2
  have rebuilt : BtcMakerLockIntentV1.new snapshot.intent.swapId snapshot.intent.agreementCommitment .maker
      snapshot.intent.predecessorRevision snapshot.intent.plan = .ok snapshot.intent := by
    unfold BtcMakerLockIntentV1.new
    rw [← role]
    dsimp only
    rw [holds.consistent.valid]
    rfl
  have closed : snapshot.closedRevision = none ∨
      (snapshot.closedRevision = some (snapshot.intent.predecessorRevision + 1) ∧
        ∀ step ∈ snapshot.steps, step.state = .accepted) := by
    rw [predecessor]
    exact holds.consistent.closed
  unfold loadIntentSnapshot
  rw [holds.header]
  simp only [headerRow, version, exactPublicEffectPlanSchemaV1, and_self, ensure_ok, ok_bind,
    loadExactStepPlan_holds holds, rebuilt, corrupted, mapError_ok, ensure_ok closed]
  rfl

theorem Holds.unique {other : BtcMakerLockIntentSnapshot} (holds : Holds sha256 journal snapshot)
    (otherHolds : Holds sha256 journal other) (same : snapshot.intent.swapId = other.intent.swapId) :
    snapshot = other := by
  have loaded := load_holds holds
  rw [same, load_holds otherHolds] at loaded
  exact (Option.some.inj (Except.ok.inj loaded)).symm

theorem load_sound (sound : journal.Sound sha256) (swapId : Identifier) :
    (loadIntentSnapshot sha256 journal swapId = .ok none ∧ Absent journal swapId) ∨
      ∃ snapshot, loadIntentSnapshot sha256 journal swapId = .ok (some snapshot) ∧
        snapshot.intent.swapId = swapId ∧ Holds sha256 journal snapshot := by
  rcases sound swapId with absent | ⟨snapshot, rfl, holds⟩
  · left
    constructor
    · unfold loadIntentSnapshot
      rw [absent.1]
    · exact absent
  · exact .inr ⟨snapshot, load_holds holds, rfl, holds⟩

end Loading

def BtcMakerLockStepState.rank : BtcMakerLockStepState → Nat
  | .prepared => 0
  | .started => 1
  | .unknown => 2
  | .accepted => 3

structure Follows (old new : BtcMakerLockStepSnapshot) : Prop where
  step : new.step = old.step
  state : new = old ∨ old.state.rank < new.state.rank

theorem Follows.refl (step : BtcMakerLockStepSnapshot) : Follows step step := ⟨rfl, .inl rfl⟩

theorem Follows.trans {first second third : BtcMakerLockStepSnapshot} (early : Follows first second)
    (late : Follows second third) : Follows first third where
  step := late.step.trans early.step
  state := by
    rcases early.state with same | grown
    · rw [← same]
      exact late.state
    · rcases late.state with same | further
      · rw [same]
        exact .inr grown
      · exact .inr (Nat.lt_trans grown further)

theorem Follows.accepted {old new : BtcMakerLockStepSnapshot} (follows : Follows old new)
    (accepted : old.state = .accepted) : new = old := by
  rcases follows.state with same | grown
  · exact same
  · have highest : new.state.rank ≤ 3 := by cases new.state <;> decide
    rw [accepted] at grown
    exact absurd grown (Nat.not_lt.mpr highest)

theorem Follows.spent {old new : BtcMakerLockStepSnapshot} (follows : Follows old new)
    (spent : old.state ≠ .prepared) : new.state ≠ .prepared := by
  rcases follows.state with same | grown
  · rw [same]
    exact spent
  · intro prepared
    rw [prepared] at grown
    exact Nat.not_lt_zero _ grown

structure Continues (old new : BtcMakerLockIntentSnapshot) : Prop where
  intent : new.intent = old.intent
  steps : ∀ (i : Nat) step, old.steps[i]? = some step → ∃ later, new.steps[i]? = some later ∧ Follows step later
  closed : ∀ revision, old.closedRevision = some revision → new.closedRevision = some revision

theorem Continues.refl (snapshot : BtcMakerLockIntentSnapshot) : Continues snapshot snapshot :=
  ⟨rfl, fun _ step found => ⟨step, found, .refl step⟩, fun _ closed => closed⟩

theorem Continues.trans {first second third : BtcMakerLockIntentSnapshot} (early : Continues first second)
    (late : Continues second third) : Continues first third where
  intent := late.intent.trans early.intent
  steps := by
    intro i step found
    obtain ⟨middle, foundMiddle, follows⟩ := early.steps i step found
    obtain ⟨later, foundLater, followsLater⟩ := late.steps i middle foundMiddle
    exact ⟨later, foundLater, follows.trans followsLater⟩
  closed := fun revision closed => late.closed revision (early.closed revision closed)

def BtcMakerLockIntentSnapshot.setStep (snapshot : BtcMakerLockIntentSnapshot) (index : Nat)
    (step : BtcMakerLockStepSnapshot) : BtcMakerLockIntentSnapshot :=
  { snapshot with steps := snapshot.steps.set index step }

section Steps

variable {snapshot : BtcMakerLockIntentSnapshot} {index : Nat} {step next : BtcMakerLockStepSnapshot}

theorem predecessorsAccepted_iff : snapshot.predecessorsAccepted index = true ↔
    ∀ (i : Nat) earlier, i < index → snapshot.steps[i]? = some earlier → earlier.state = .accepted := by
  unfold BtcMakerLockIntentSnapshot.predecessorsAccepted
  simp only [List.all_eq_true, decide_eq_true_eq, List.mem_iff_getElem?, List.getElem?_take]
  constructor
  · intro all i earlier before found
    exact all earlier ⟨i, by rw [if_pos before]; exact found⟩
  · rintro all earlier ⟨i, found⟩
    split at found
    · rename_i before
      exact all i earlier before found
    · cases found

theorem setStep_at (found : snapshot.steps[index]? = some step) (i : Nat) :
    (snapshot.setStep index next).steps[i]? = if index = i then some next else snapshot.steps[i]? := by
  have bound := (List.getElem?_eq_some_iff.mp found).1
  simp only [BtcMakerLockIntentSnapshot.setStep, List.getElem?_set, if_pos bound]

theorem setStep_same (found : snapshot.steps[index]? = some step) : snapshot.setStep index step = snapshot := by
  have steps : snapshot.steps.set index step = snapshot.steps := by
    apply List.ext_getElem?
    intro i
    have read : (snapshot.steps.set index step)[i]? = if index = i then some step else snapshot.steps[i]? :=
      setStep_at found i
    rw [read]
    split
    · rename_i same
      rw [← same, found]
    · rfl
  rw [BtcMakerLockIntentSnapshot.setStep, steps]

theorem setStep_continues (found : snapshot.steps[index]? = some step) (follows : Follows step next) :
    Continues snapshot (snapshot.setStep index next) := by
  refine ⟨rfl, fun i old foundOld => ?_, fun _ closed => closed⟩
  rw [setStep_at found]
  split
  · rename_i same
    rw [← same, found] at foundOld
    cases foundOld
    exact ⟨next, rfl, follows⟩
  · exact ⟨old, foundOld, .refl old⟩

theorem Consistent.set (consistent : Consistent snapshot) (found : snapshot.steps[index]? = some step)
    (follows : Follows step next) (sound : next.Sound)
    (order : next.state = .accepted → snapshot.predecessorsAccepted index = true) :
    Consistent (snapshot.setStep index next) where
  valid := consistent.valid
  steps := by
    show (snapshot.setStep index next).steps.map (·.step) = snapshot.intent.plan.steps
    rw [← consistent.steps]
    apply List.ext_getElem?
    intro i
    rw [List.getElem?_map, List.getElem?_map, setStep_at found]
    split
    · rename_i same
      rw [← same, found, Option.map_some, Option.map_some, follows.step]
    · rfl
  sound := by
    intro other member
    rcases List.mem_or_eq_of_mem_set member with old | rfl
    · exact consistent.sound other old
    · exact sound
  ordered := by
    intro i j earlier later before foundEarlier foundLater accepted
    rw [setStep_at found] at foundEarlier foundLater
    by_cases atLater : index = j
    · rw [if_pos atLater] at foundLater
      rw [if_neg (by omega)] at foundEarlier
      cases foundLater
      apply predecessorsAccepted_iff.mp (order accepted) i earlier _ foundEarlier
      omega
    · rw [if_neg atLater] at foundLater
      by_cases atEarlier : index = i
      · rw [if_pos atEarlier] at foundEarlier
        cases foundEarlier
        have stepAccepted := consistent.ordered index j step later (by omega) found foundLater accepted
        rw [follows.accepted stepAccepted]
        exact stepAccepted
      · rw [if_neg atEarlier] at foundEarlier
        exact consistent.ordered i j earlier later before foundEarlier foundLater accepted
  closed := by
    rcases consistent.closed with isOpen | ⟨closed, all⟩
    · exact .inl isOpen
    · right
      refine ⟨closed, fun other member => ?_⟩
      rcases List.mem_or_eq_of_mem_set member with old | rfl
      · exact all other old
      · have accepted := all step (List.mem_of_getElem? found)
        rw [follows.accepted accepted]
        exact accepted

end Steps

section Methods

variable {sha256 : Bytes → Bytes32} {journal next : Journal} {durable snapshot : BtcMakerLockIntentSnapshot}
  {index : Nat} {step after : BtcMakerLockStepSnapshot} {intent : BtcMakerLockIntentV1}

structure Rewritten (sha256 : Bytes → Bytes32) (journal : Journal) (snapshot : BtcMakerLockIntentSnapshot)
    (next : Journal) : Prop where
  holds : Holds sha256 next snapshot
  others : ∀ swapId, swapId ≠ snapshot.intent.swapId →
    next.intents.find? swapId = journal.intents.find? swapId ∧
      next.steps.rows.filter (·.swapId = swapId) = journal.steps.rows.filter (·.swapId = swapId)

theorem Rewritten.sound (rewritten : Rewritten sha256 journal snapshot next) (sound : journal.Sound sha256) :
    next.Sound sha256 := by
  intro swapId
  by_cases same : swapId = snapshot.intent.swapId
  · exact .inr ⟨snapshot, same.symm, rewritten.holds⟩
  · obtain ⟨intents, steps⟩ := rewritten.others swapId same
    rcases sound swapId with absent | ⟨other, rfl, holds⟩
    · left
      unfold Absent
      rw [intents, steps]
      exact absent
    · right
      refine ⟨other, rfl, ?_, ?_, holds.consistent⟩
      · rw [intents]
        exact holds.header
      · rw [steps]
        exact holds.rows

def Evolves (sha256 : Bytes → Bytes32) (journal next : Journal) : Prop :=
  ∀ snapshot, Holds sha256 journal snapshot → ∃ later, Holds sha256 next later ∧ Continues snapshot later

theorem Evolves.refl (journal : Journal) : Evolves sha256 journal journal :=
  fun snapshot holds => ⟨snapshot, holds, .refl snapshot⟩

theorem Evolves.trans {first second third : Journal} (early : Evolves sha256 first second)
    (late : Evolves sha256 second third) : Evolves sha256 first third := by
  intro snapshot holds
  obtain ⟨middle, holdsMiddle, continues⟩ := early snapshot holds
  obtain ⟨later, holdsLater, continuesLater⟩ := late middle holdsMiddle
  exact ⟨later, holdsLater, continues.trans continuesLater⟩

theorem Rewritten.evolves (rewritten : Rewritten sha256 journal snapshot next)
    (before : ∀ old, Holds sha256 journal old → old.intent.swapId = snapshot.intent.swapId → Continues old snapshot) :
    Evolves sha256 journal next := by
  intro other holds
  by_cases same : other.intent.swapId = snapshot.intent.swapId
  · exact ⟨snapshot, rewritten.holds, before other holds same⟩
  · obtain ⟨intents, steps⟩ := rewritten.others other.intent.swapId same
    refine ⟨other, ⟨?_, ?_, holds.consistent⟩, .refl other⟩
    · rw [intents]
      exact holds.header
    · rw [steps]
      exact holds.rows

theorem Rewritten.moves (rewritten : Rewritten sha256 journal snapshot next)
    (holds : Holds sha256 journal durable) (continues : Continues durable snapshot) :
    Evolves sha256 journal next := by
  apply rewritten.evolves
  intro old oldHolds same
  rw [oldHolds.unique holds (same.trans (by rw [continues.intent]))]
  exact continues

theorem Rewritten.same (holds : Holds sha256 journal durable) : Rewritten sha256 journal durable journal :=
  ⟨holds, fun _ _ => ⟨rfl, rfl⟩⟩

variable {new : StepRow} {steps table : Table btcMakerLockSteps} {swapId : Identifier}

theorem written_rows (written : table.write new = some steps) (swapId : Identifier) :
    steps.rows.filter (·.swapId = swapId) = (table.rows.filter (·.swapId = swapId)).map fun old =>
      if btcMakerLockSteps.key old = btcMakerLockSteps.key new then new else old := by
  rw [Table.write_rows written, List.filter_map]
  congr 1
  apply List.filter_congr
  intro old _
  simp only [Function.comp_apply]
  split
  · rename_i same
    rw [(Prod.mk.inj same).1]
  · rfl

theorem validated_shaped (valid : validateStepShape step = .ok ()) :
    (stepRow sha256 swapId index step).shaped = true ∧ (step.attemptCount = 0 ∨ step.attemptCount = 1) ∧
      step.revision ≤ 3 := by
  obtain ⟨effect, state, attemptCount, revision, submissionResult⟩ := step
  rw [validateStepShape, ensure_ok_iff] at valid
  cases state <;> simp [StepRow.shaped, stepRow, preparedRow] at valid ⊢ <;> grind

theorem stepRow_check (low : index ≤ 31) (sound : step.Sound) :
    btcMakerLockSteps.check (stepRow sha256 swapId index step) = true := by
  have idLength := List.length_pos_iff.mpr step.step.step.valid.1
  have publicIdLength := List.length_pos_iff.mpr step.step.expectedPublicId.valid.1
  have bytesLength := List.length_pos_iff.mpr step.step.exactBytes.valid.1
  have shaped := @validated_shaped sha256 index step swapId sound.shaped
  apply decide_eq_true
  exact ⟨low, ⟨idLength, step.step.step.valid.2.1⟩, ⟨publicIdLength, step.step.expectedPublicId.valid.2.1⟩,
    ⟨bytesLength, step.step.exactBytes.valid.2⟩, shaped.2.1, shaped.2.2, shaped.1⟩

theorem accepted_sound (sound : step.Sound) (unsettled : step.state ≠ .accepted) :
    step.revision ≤ 2 ∧
      ({ step with state := .accepted, revision := step.revision + 1 } : BtcMakerLockStepSnapshot).Sound := by
  obtain ⟨shaped, named⟩ := sound
  obtain ⟨effect, state, attemptCount, revision, submissionResult⟩ := step
  rw [validateStepShape, ensure_ok_iff] at shaped
  have fits : revision ≤ 2 ∧ validateStepShape
      ⟨effect, .accepted, attemptCount, revision + 1, submissionResult⟩ = .ok () := by
    rw [validateStepShape, ensure_ok_iff]
    cases state <;> simp at shaped unsettled ⊢ <;> grind
  exact ⟨fits.1, fits.2, named⟩

section Held

variable (holds : Holds sha256 journal durable) (found : durable.steps[index]? = some step)
include holds found

theorem Holds.row :
    journal.steps.find? (durable.intent.swapId, index) = some (stepRow sha256 durable.intent.swapId index step) := by
  have listed : stepRow sha256 durable.intent.swapId index step ∈
      rowsFrom sha256 durable.intent.swapId 0 durable.steps :=
    mem_rowsFrom.mpr ⟨index, step, found, by rw [Nat.zero_add]⟩
  rw [← holds.rows] at listed
  exact journal.steps.mem_find? (List.mem_filter.mp listed).1

omit holds found in
theorem written_elsewhere (written : table.write new = some steps) (other : swapId ≠ new.swapId) :
    steps.rows.filter (·.swapId = swapId) = table.rows.filter (·.swapId = swapId) := by
  have same : ∀ row ∈ table.rows.filter (·.swapId = swapId),
      (if btcMakerLockSteps.key row = btcMakerLockSteps.key new then new else row) = id row := by
    intro row member
    have own : row.swapId = swapId := of_decide_eq_true (List.mem_filter.mp member).2
    apply if_neg
    intro keys
    exact other (own.symm.trans (Prod.mk.inj keys).1)
  rw [written_rows written, List.map_congr_left same, List.map_id]

theorem updateStep_meets
    (follows : Follows step after) (sound : after.Sound)
    (order : after.state = .accepted → durable.predecessorsAccepted index = true) :
    Meets (updateStep journal durable.intent index step after)
      (fun result => result.1 = after ∧ Rewritten sha256 journal (durable.setStep index after) result.2)
      harmless := by
  have present := holds.row found
  have changed : ({ stepRow sha256 durable.intent.swapId index step with
      state := after.state, attemptCount := after.attemptCount, revision := after.revision
      submissionResult := after.submissionResult.map (·.name) } : StepRow) =
      stepRow sha256 durable.intent.swapId index after := by
    simp only [stepRow, preparedRow, follows.step]
  have low : index ≤ 31 := by
    have bound := (List.getElem?_eq_some_iff.mp found).1
    have length := (plan_made (validate_plan holds.consistent.valid).1).2.1
    rw [← holds.consistent.steps, List.length_map] at length
    omega
  have fits : journal.steps.fits (stepRow sha256 durable.intent.swapId index after) = true := by
    apply Table.fits_of_kept present (stepRow_check low sound)
    intro other
    simp only [btcMakerLockSteps, stepRow, preparedRow, follows.step, and_self]
  obtain ⟨steps, written⟩ := Option.isSome_iff_exists.mp (Table.write_isSome fits)
  have rows := Table.write_rows written
  unfold updateStep revisionToSql
  apply Meets.check harmless_conflict
  intro _
  apply Meets.check harmless_invalid
  intro _
  apply Meets.check harmless_invalid
  intro _
  rw [Table.updateWhere_of_find? present (decide_eq_true ⟨rfl, rfl, rfl, rfl, rfl⟩)
    (by rw [changed]; exact written)]
  refine ⟨rfl, ⟨holds.header, ?_, holds.consistent.set found follows sound order⟩, fun swapId other => ?_⟩
  · have set := @rowsFrom_set sha256 durable.intent.swapId durable.steps after 0 index
    rw [Nat.zero_add, ← holds.rows] at set
    exact (written_rows written durable.intent.swapId).trans set
  · exact ⟨rfl, written_elsewhere written other⟩

structure Observed (sha256 : Bytes → Bytes32) (journal : Journal) (durable : BtcMakerLockIntentSnapshot)
    (index : Nat) (step : BtcMakerLockStepSnapshot) (submitOnce : Bool) (after : BtcMakerLockStepSnapshot)
    (next : Journal) : Prop where
  follows : Follows step after
  rewritten : Rewritten sha256 journal (durable.setStep index after) next
  granted : submitOnce = true → durable.closedRevision = none ∧ durable.predecessorsAccepted index = true ∧
    step.state = .prepared ∧ after.state = .started

theorem Observed.kept : Observed sha256 journal durable index step false step journal := by
  refine ⟨.refl step, ?_, nofun⟩
  rw [setStep_same found]
  exact .same holds

theorem attemptStep_meets :
    Meets (attemptStep journal durable index step)
      (fun result => Observed sha256 journal durable index step result.1 result.2.1 result.2.2)
      harmless := by
  unfold attemptStep
  split
  · rename_i ready
    obtain ⟨isOpen, accepted, prepared⟩ := ready
    have follows : Follows step
        { step with state := .started, attemptCount := 1, revision := 1, submissionResult := none } := by
      refine ⟨rfl, .inr ?_⟩
      rw [prepared]
      exact Nat.zero_lt_one
    apply Meets.bind (updateStep_meets holds found follows ⟨rfl, nofun⟩ nofun)
    rintro ⟨_, next⟩ ⟨rfl, rewritten⟩
    exact ⟨follows, rewritten, fun _ => ⟨isOpen, accepted, prepared, rfl⟩⟩
  · exact Observed.kept holds found

theorem observeStep_meets
    (observation : BtcMakerLockStepObservation) :
    Meets (observeStep journal durable index step observation)
      (fun result => Observed sha256 journal durable index step result.1 result.2.1 result.2.2)
      harmless := by
  have stepSound := holds.consistent.sound step (List.mem_of_getElem? found)
  cases observation with
  | presentExact expectedPublicId exactPublicBytes =>
    apply Meets.check harmless_conflict
    intro _
    apply Meets.check harmless_conflict
    intro predecessors
    split
    · exact Observed.kept holds found
    · rename_i unsettled
      obtain ⟨low, sound⟩ := accepted_sound stepSound unsettled
      have follows : Follows step { step with state := .accepted, revision := step.revision + 1 } := by
        refine ⟨rfl, .inr ?_⟩
        show step.state.rank < 3
        cases state : step.state <;> first | exact absurd state unsettled | decide
      have fits : step.revision + 1 < 2 ^ 64 := by omega
      unfold advanceStepToAccepted
      rw [ensure_ok fits, ok_bind]
      apply Meets.bind (updateStep_meets holds found follows sound fun _ => predecessors)
      rintro ⟨_, next⟩ ⟨rfl, rewritten⟩
      exact ⟨follows, rewritten, nofun⟩
  | exactIdempotentSubmissionSafe expectedPublicId exactPublicBytes =>
    apply Meets.check harmless_conflict
    intro _
    exact attemptStep_meets holds found
  | absent => exact attemptStep_meets holds found
  | uncertain => exact Observed.kept holds found
  | conflictingPresence =>
    unfold observeStep
    dsimp only
    split
    · rename_i prepared
      have follows : Follows step
          { step with state := .unknown, attemptCount := 1, revision := 2, submissionResult := none } := by
        refine ⟨rfl, .inr ?_⟩
        rw [prepared]
        exact Nat.zero_lt_two
      apply Meets.bind (updateStep_meets holds found follows ⟨rfl, nofun⟩ nofun)
      rintro ⟨_, next⟩ ⟨rfl, rewritten⟩
      exact ⟨follows, rewritten, nofun⟩
    · exact Observed.kept holds found
    · exact Observed.kept holds found
    · exact harmless_conflict

end Held

theorem loadIntent_meets (sound : journal.Sound sha256) (swapId : Identifier) :
    Meets (loadIntentSnapshot sha256 journal swapId)
      (fun loaded => (loaded = none ∧ Absent journal swapId) ∨
        ∃ snapshot, loaded = some snapshot ∧ snapshot.intent.swapId = swapId ∧ Holds sha256 journal snapshot)
      harmless := by
  rcases load_sound sound swapId with ⟨loaded, absent⟩ | ⟨snapshot, loaded, same, holds⟩
  · rw [loaded]
    exact .inl ⟨rfl, absent⟩
  · rw [loaded]
    exact .inr ⟨snapshot, rfl, same, holds⟩

theorem loaded_meets {α : Type} {rest : BtcMakerLockIntentSnapshot → Result α} {returns : α → Prop}
    (sound : journal.Sound sha256)
    (each : ∀ durable, durable.intent.swapId = swapId → Holds sha256 journal durable →
      Meets (rest durable) returns harmless) :
    Meets (do
      let durable ← required (← loadIntentSnapshot sha256 journal swapId) .missingBtcMakerLockIntent
      rest durable) returns harmless := by
  apply Meets.bind (loadIntent_meets sound swapId)
  rintro _ (⟨rfl, _⟩ | ⟨durable, rfl, same, holds⟩)
  · exact harmless_missing
  · exact each durable same holds

theorem requireMatchingIntent_meets (sound : journal.Sound sha256) (intent : BtcMakerLockIntentV1) :
    Meets (requireMatchingIntent sha256 journal intent)
      (fun durable => durable.intent = intent ∧ Holds sha256 journal durable) harmless := by
  apply loaded_meets sound
  intro durable _ holds
  apply Meets.check harmless_conflict
  intro same
  exact ⟨same, holds⟩

theorem confirmStep_ok (holds : Holds sha256 journal durable)
    (same : durable.intent = intent) (found : durable.steps[index]? = some step) :
    confirmStep sha256 journal intent index step = .ok () := by
  subst same
  unfold confirmStep loadStepSnapshot
  simp only [load_holds holds, ok_bind, required, found, ensure_ok]

theorem validate_meets (intent : BtcMakerLockIntentV1) :
    Meets intent.validate (fun _ => intent.validate = .ok ()) harmless := by
  cases valid : intent.validate with
  | ok => rfl
  | error error =>
    unfold BtcMakerLockIntentV1.validate at valid
    cases made : new intent.plan.steps with
    | ok plan =>
      rw [made] at valid
      have raised := (Meets.ensure fun _ => harmless_invalid).raised valid
      exact raised
    | error raised =>
      rw [made] at valid
      cases valid
      exact harmless_invalid

theorem stepIndex_meets {stepId : PublicEffectStepId} :
    Meets (stepIndex durable stepId)
      (fun index => ∃ step, durable.steps[index]? = some step ∧ step.step.step = stepId) harmless := by
  apply (Meets.required fun _ => harmless_conflict).mono
  intro index located
  obtain ⟨bound, matched, _⟩ := List.findIdx?_eq_some_iff_getElem.mp located
  exact ⟨_, List.getElem?_eq_getElem bound, of_decide_eq_true matched⟩

def Reconciled (sha256 : Bytes → Bytes32) (journal : Journal) (intent : BtcMakerLockIntentV1)
    (stepId : PublicEffectStepId) (decision : BtcMakerLockStepDecision) (next : Journal) : Prop :=
  ∃ durable index step submitOnce after, durable.intent = intent ∧ Holds sha256 journal durable ∧
    durable.steps[index]? = some step ∧ step.step.step = stepId ∧
    Observed sha256 journal durable index step submitOnce after next ∧
    decision = if submitOnce then .submitOnce after else .observeOnly after

theorem Holds.predecessors (holds : Holds sha256 journal durable) (found : durable.steps[index]? = some step)
    (accepted : step.state = .accepted) : durable.predecessorsAccepted index = true := by
  rw [predecessorsAccepted_iff]
  intro i earlier before foundEarlier
  exact holds.consistent.ordered i index earlier step before foundEarlier found accepted

theorem setStep_found (found : durable.steps[index]? = some step) :
    (durable.setStep index after).steps[index]? = some after := by
  rw [setStep_at found, if_pos rfl]

theorem reconcileStep_meets (sound : journal.Sound sha256) (intent : BtcMakerLockIntentV1)
    (stepId : PublicEffectStepId) (observation : BtcMakerLockStepObservation) :
    Meets (reconcileStep sha256 journal intent stepId observation)
      (fun result => Reconciled sha256 journal intent stepId result.1 result.2) harmless := by
  apply Meets.bind (validate_meets intent)
  intro _ _
  apply Meets.bind (requireMatchingIntent_meets sound intent)
  rintro durable ⟨rfl, holds⟩
  apply Meets.bind stepIndex_meets
  rintro index ⟨step, found, named⟩
  simp only [found, required, ok_bind]
  rw [ensure_ok fun accepted => holds.predecessors found accepted, ok_bind]
  apply Meets.bind (observeStep_meets holds found observation)
  rintro ⟨submitOnce, after, next⟩ observed
  have confirmed : confirmStep sha256 next durable.intent index after = .ok () :=
    confirmStep_ok observed.rewritten.holds rfl (setStep_found found)
  dsimp only
  rw [confirmed, ok_bind]
  exact ⟨durable, index, step, submitOnce, after, rfl, holds, found, named, observed, rfl⟩

theorem recordSubmissionResult_meets (sound : journal.Sound sha256) (intent : BtcMakerLockIntentV1)
    (stepId : PublicEffectStepId) (result : BtcMakerLockSubmissionResult) :
    Meets (recordSubmissionResult sha256 journal intent stepId result)
      (fun recorded => ∃ durable index step after, Holds sha256 journal durable ∧
        durable.steps[index]? = some step ∧ Follows step after ∧
        Rewritten sha256 journal (durable.setStep index after) recorded.2) harmless := by
  apply Meets.bind (validate_meets intent)
  intro _ _
  apply Meets.bind (requireMatchingIntent_meets sound intent)
  rintro durable ⟨rfl, holds⟩
  apply Meets.check harmless_conflict
  intro _
  apply Meets.bind stepIndex_meets
  rintro index ⟨step, found, _⟩
  apply Meets.check harmless_conflict
  intro _
  simp only [found, required, ok_bind]
  apply Meets.check harmless_conflict
  intro names
  split
  · rename_i started
    have follows : Follows step
        { step with state := .unknown, attemptCount := 1, revision := 2, submissionResult := some result } := by
      refine ⟨rfl, .inr ?_⟩
      rw [started]
      exact Nat.one_lt_two
    have stepSound : BtcMakerLockStepSnapshot.Sound
        { step with state := .unknown, attemptCount := 1, revision := 2, submissionResult := some result } := by
      refine ⟨rfl, fun expectedId recorded => ?_⟩
      cases recorded
      exact of_decide_eq_true names
    apply Meets.bind (updateStep_meets holds found follows stepSound (by rintro ⟨⟩))
    rintro ⟨_, next⟩ ⟨rfl, rewritten⟩
    have confirmed : confirmStep sha256 next durable.intent index
        { step with state := .unknown, attemptCount := 1, revision := 2, submissionResult := some result } =
        .ok () := confirmStep_ok rewritten.holds rfl (setStep_found found)
    dsimp only
    rw [confirmed, ok_bind]
    exact ⟨durable, index, step, _, holds, found, follows, rewritten⟩
  · apply Meets.check harmless_conflict
    intro _
    rw [confirmStep_ok holds rfl found, ok_bind]
    refine ⟨durable, index, step, step, holds, found, .refl step, ?_⟩
    rw [setStep_same found]
    exact .same holds

def freshStep (step : PublicEffectStepV1) : BtcMakerLockStepSnapshot := ⟨step, .prepared, 0, 0, none⟩

theorem freshStep_sound (step : PublicEffectStepV1) : (freshStep step).Sound := ⟨rfl, nofun⟩

theorem next_step_fits {done rest : List PublicEffectStepV1} {new : PublicEffectStepV1}
    (rows : journal.steps.rows.filter (·.swapId = swapId) = rowsFrom sha256 swapId 0 (done.map freshStep))
    (bounded : (done ++ new :: rest).length ≤ 32) (nodup : ((done ++ new :: rest).map (·.step)).Nodup) :
    journal.steps.find? (swapId, done.length) = none ∧
      journal.steps.fits (preparedRow sha256 swapId done.length new) = true := by
  have own : ∀ row ∈ journal.steps.rows, row.swapId = swapId →
      ∃ (i : Nat) (step : PublicEffectStepV1), done[i]? = some step ∧
        row = stepRow sha256 swapId i (freshStep step) := by
    intro row member same
    have listed : row ∈ journal.steps.rows.filter (·.swapId = swapId) :=
      List.mem_filter.mpr ⟨member, decide_eq_true same⟩
    rw [rows] at listed
    obtain ⟨i, step, found, rfl⟩ := mem_rowsFrom.mp listed
    rw [List.getElem?_map] at found
    obtain ⟨source, foundSource, rfl⟩ := Option.map_eq_some_iff.mp found
    exact ⟨i, source, foundSource, by rw [Nat.zero_add]⟩
  constructor
  · rw [Table.find?_none]
    intro row member keys
    obtain ⟨same, position⟩ := Prod.mk.inj keys
    obtain ⟨i, step, found, rfl⟩ := own row member same
    have bound := (List.getElem?_eq_some_iff.mp found).1
    have index : i = done.length := position
    omega
  · rw [Table.fits_iff]
    have low : done.length ≤ 31 := by
      rw [List.length_append, List.length_cons] at bounded
      omega
    refine ⟨stepRow_check low (freshStep_sound new), fun row member _ => ?_⟩
    have apart : row.swapId ≠ swapId ∨ row.stepId ≠ new.step.bytes := by
      by_cases same : row.swapId = swapId
      · right
        obtain ⟨i, step, found, rfl⟩ := own row member same
        intro ids
        have steps : step.step = new.step := by
          cases first : step.step
          cases second : new.step
          simp only [stepRow, preparedRow, freshStep, first, second] at ids
          simp only [PublicEffectStepId.mk.injEq]
          exact ids
        rw [List.map_append, List.map_cons, List.nodup_append] at nodup
        exact nodup.2.2 step.step (List.mem_map_of_mem (List.mem_of_getElem? found)) new.step
          List.mem_cons_self steps
      · exact .inl same
    exact ⟨decide_eq_true (apart.imp Ne.symm Ne.symm), decide_eq_true apart⟩

theorem inserted_rows (inserted : table.insert new = some steps) (swapId : Identifier) :
    steps.rows.filter (·.swapId = swapId) =
      table.rows.filter (·.swapId = swapId) ++ if new.swapId = swapId then [new] else [] := by
  rw [Table.insert_rows inserted, List.filter_append]
  congr 1
  split
  · rename_i same
    exact List.filter_eq_self.mpr fun row member => by
      rw [List.mem_singleton.mp member]
      exact decide_eq_true same
  · rename_i other
    exact List.filter_eq_nil_iff.mpr fun row member => by
      rw [List.mem_singleton.mp member]
      exact fun same => other (of_decide_eq_true same)

theorem insertSteps_meets {header : IntentRow} (done rest : List PublicEffectStepV1)
    (named : journal.intents.find? swapId = some header)
    (rows : journal.steps.rows.filter (·.swapId = swapId) = rowsFrom sha256 swapId 0 (done.map freshStep))
    (bounded : (done ++ rest).length ≤ 32) (nodup : ((done ++ rest).map (·.step)).Nodup) :
    Meets (insertSteps sha256 journal swapId done.length rest)
      (fun next => next.intents = journal.intents ∧
        next.steps.rows.filter (·.swapId = swapId) = rowsFrom sha256 swapId 0 ((done ++ rest).map freshStep) ∧
        ∀ other, other ≠ swapId → next.steps.rows.filter (·.swapId = other) =
          journal.steps.rows.filter (·.swapId = other)) harmless := by
  induction rest generalizing journal done with
  | nil =>
    rw [List.append_nil]
    exact ⟨rfl, rows, fun _ _ => rfl⟩
  | cons new rest tail =>
    obtain ⟨free, fits⟩ := next_step_fits rows bounded nodup
    obtain ⟨steps, inserted⟩ := Option.isSome_iff_exists.mp (Table.insert_isSome free fits)
    have regroup : done ++ new :: rest = (done ++ [new]) ++ rest := by simp
    unfold insertSteps
    apply Meets.check harmless_invalid
    intro _
    rw [ensure_ok (by rw [named]; rfl), ok_bind, inserted]
    have length : done.length + 1 = (done ++ [new]).length := by simp
    have grown : steps.rows.filter (·.swapId = swapId) =
        rowsFrom sha256 swapId 0 ((done ++ [new]).map freshStep) := by
      have own : (preparedRow sha256 swapId done.length new).swapId = swapId := rfl
      rw [inserted_rows inserted, rows, if_pos own, List.map_append, rowsFrom_append, List.length_map, Nat.zero_add]
      rfl
    rw [regroup] at bounded nodup ⊢
    have remaining := @tail { journal with steps } (done ++ [new]) named grown bounded nodup
    rw [← length] at remaining
    apply remaining.mono
    rintro next ⟨intents, own, others⟩
    refine ⟨intents, own, fun other different => ?_⟩
    rw [others other different, inserted_rows inserted, if_neg fun same => different same.symm, List.append_nil]

theorem createIntent_meets (sound : journal.Sound sha256) (intent : BtcMakerLockIntentV1) :
    Meets (createIntent sha256 journal intent)
      (fun result => (result.2 = journal ∧ result.1 ≠ .created) ∨
        (Absent journal intent.swapId ∧
          Rewritten sha256 journal ⟨intent, intent.plan.steps.map freshStep, none⟩ result.2))
      harmless := by
  apply Meets.bind (validate_meets intent)
  intro _ valid
  apply Meets.bind (loadIntent_meets sound intent.swapId)
  rintro _ (⟨rfl, absent⟩ | ⟨existing, rfl, _, _⟩)
  · obtain ⟨made, role, predecessor, agreement⟩ := validate_plan valid
    obtain ⟨_, bounded, nodup, version⟩ := plan_made made
    have check : btcMakerLockIntents.check ⟨intent.swapId, .maker, intent.predecessorRevision,
        intent.agreementCommitment, intent.plan.schemaVersion, intent.plan.commitment sha256, none⟩ = true :=
      decide_eq_true ⟨rfl, predecessor, agreement, version, .inl rfl⟩
    obtain ⟨intents, inserted⟩ := Option.isSome_iff_exists.mp
      (Table.insert_isSome absent.1 (Table.fits_iff.mpr ⟨check, fun _ _ _ => ⟨rfl, rfl⟩⟩))
    have lookup := Table.insert_find? inserted
    apply Meets.check harmless_invalid
    intro _
    rw [inserted]
    have named : intents.find? intent.swapId = some (headerRow sha256
        ⟨intent, intent.plan.steps.map freshStep, none⟩) := (lookup intent.swapId).trans (if_pos rfl)
    apply Meets.bind (@insertSteps_meets sha256 { journal with intents } intent.swapId _ [] intent.plan.steps
      named absent.2 bounded nodup)
    rintro next ⟨same, rows, others⟩
    have consistent : Consistent ⟨intent, intent.plan.steps.map freshStep, none⟩ := by
      refine ⟨valid, ?_, ?_, ?_, .inl rfl⟩
      · rw [List.map_map]
        exact List.map_id _
      · intro step member
        obtain ⟨source, _, rfl⟩ := List.mem_map.mp member
        exact freshStep_sound source
      · intro i j earlier later _ _ found accepted
        rw [List.getElem?_map] at found
        obtain ⟨source, _, rfl⟩ := Option.map_eq_some_iff.mp found
        cases accepted
    have holds : Holds sha256 next ⟨intent, intent.plan.steps.map freshStep, none⟩ := by
      refine ⟨?_, rows, consistent⟩
      rw [same]
      exact named
    have loaded := load_holds holds
    dsimp only at loaded
    rw [loaded]
    simp only [ok_bind, required]
    rw [ensure_ok, ok_bind]
    · right
      refine ⟨absent, holds, fun other different => ⟨?_, others other different⟩⟩
      rw [same]
      exact (lookup other).trans (if_neg different)
    · refine ⟨trivial, trivial, fun step member => ?_⟩
      obtain ⟨source, _, rfl⟩ := List.mem_map.mp member
      exact ⟨rfl, rfl, rfl, rfl⟩
  · refine .inl ⟨rfl, ?_⟩
    dsimp only
    split
    · rintro ⟨⟩
    · rintro ⟨⟩

theorem closeReady_meets (sound : journal.Sound sha256) (swapId : Identifier) (agreementCommitment : Bytes32)
    (predecessorRevision committedRevision : Nat) :
    Meets (closeReadyBtcMakerLockIntent sha256 journal swapId agreementCommitment predecessorRevision
        committedRevision)
      (fun result => result.2 = journal ∨ ∃ durable, Holds sha256 journal durable ∧
        durable.closedRevision = none ∧ Rewritten sha256 journal { durable with closedRevision := some 2 } result.2)
      harmless := by
  apply Meets.check harmless_conflict
  rintro ⟨first, rfl⟩
  apply loaded_meets sound
  rintro durable rfl holds
  apply Meets.check harmless_conflict
  rintro ⟨_, _, predecessor, accepted⟩
  split
  · exact .inl rfl
  · apply Meets.check harmless_conflict
    intro isOpen
    apply Meets.check harmless_invalid
    intro _
    apply Meets.check harmless_invalid
    intro _
    have second : predecessorRevision + 1 = 2 := by
      rw [first]
      rfl
    rw [second]
    have closed : Consistent { durable with closedRevision := some 2 } :=
      { holds.consistent with closed := .inr ⟨rfl, accepted⟩ }
    obtain ⟨made, _, start, agreement⟩ := validate_plan holds.consistent.valid
    have version := (plan_made made).2.2.2
    have check : btcMakerLockIntents.check (headerRow sha256 { durable with closedRevision := some 2 }) = true := by
      apply decide_eq_true
      refine ⟨rfl, start, agreement, version, .inr ?_⟩
      simp only [headerRow, start]
    have present : journal.intents.find? (btcMakerLockIntents.key
        (headerRow sha256 { durable with closedRevision := some 2 })) = some (headerRow sha256 durable) :=
        holds.header
    have fits := Table.fits_of_kept present check fun _ => ⟨rfl, rfl⟩
    obtain ⟨intents, written⟩ := Option.isSome_iff_exists.mp (Table.write_isSome fits)
    have lookup := Table.write_find? written present
    rw [Table.updateWhere_of_find? holds.header (decide_eq_true ⟨predecessor, isOpen⟩) written]
    refine .inr ⟨durable, holds, isOpen, ⟨(lookup _).trans (if_pos rfl), holds.rows, closed⟩, ?_⟩
    exact fun other different => ⟨(lookup other).trans (if_neg different), rfl⟩

theorem perform_meets (sound : journal.Sound sha256) (call : Call) :
    Meets (perform sha256 journal call)
      (fun result => Journal.Sound sha256 result.2 ∧ Evolves sha256 journal result.2) harmless := by
  cases call with
  | createIntent intent =>
    apply Meets.bind (createIntent_meets sound intent)
    rintro ⟨outcome, next⟩ (⟨rfl, _⟩ | ⟨absent, rewritten⟩)
    · exact ⟨sound, .refl _⟩
    · refine ⟨rewritten.sound sound, rewritten.evolves fun old holds same => ?_⟩
      have present := holds.header
      rw [same] at present
      cases absent.1.symm.trans present
  | loadIntent swapId =>
    apply Meets.bind (loadIntent_meets sound swapId)
    intro _ _
    exact ⟨sound, .refl journal⟩
  | reconcileStep intent stepId observation =>
    apply Meets.bind (reconcileStep_meets sound intent stepId observation)
    rintro ⟨decision, next⟩ ⟨durable, index, step, submitOnce, after, _, holds, found, _, observed, _⟩
    exact ⟨observed.rewritten.sound sound, observed.rewritten.moves holds (setStep_continues found observed.follows)⟩
  | recordSubmissionResult intent stepId result =>
    apply Meets.bind (recordSubmissionResult_meets sound intent stepId result)
    rintro ⟨commit, next⟩ ⟨durable, index, step, after, holds, found, follows, rewritten⟩
    exact ⟨rewritten.sound sound, rewritten.moves holds (setStep_continues found follows)⟩
  | closeReady swapId agreementCommitment predecessorRevision committedRevision =>
    apply Meets.bind (closeReady_meets sound swapId agreementCommitment predecessorRevision committedRevision)
    rintro ⟨wasReplay, next⟩ (rfl | ⟨durable, holds, isOpen, rewritten⟩)
    · exact ⟨sound, .refl _⟩
    · refine ⟨rewritten.sound sound, rewritten.moves holds ⟨rfl, ?_, ?_⟩⟩
      · exact fun i step found => ⟨step, found, .refl step⟩
      · intro revision closed
        cases isOpen.symm.trans closed

/-- A transaction that grants a send is a reconciliation of a fresh step whose predecessors are accepted. -/
theorem perform_submits {call : Call} {after : BtcMakerLockStepSnapshot} (sound : journal.Sound sha256)
    (performed : perform sha256 journal call = .ok (.decision (.submitOnce after), next)) :
    ∃ intent stepId observation durable index step, call = .reconcileStep intent stepId observation ∧
      durable.intent = intent ∧ Holds sha256 journal durable ∧ durable.steps[index]? = some step ∧
      step.step.step = stepId ∧ durable.closedRevision = none ∧ durable.predecessorsAccepted index = true ∧
      step.state = .prepared ∧ after.step = step.step ∧ after.state = .started ∧
      Holds sha256 next (durable.setStep index after) := by
  cases call <;>
    simp only [perform, bind_ok_iff, pure_ok, Prod.mk.injEq, reduceCtorEq, false_and, and_false, exists_false,
      Reply.decision.injEq] at performed
  case reconcileStep intent stepId observation =>
    obtain ⟨⟨decision, reached⟩, reconciled, rfl, rfl⟩ := performed
    obtain ⟨durable, index, step, submitOnce, moved, same, holds, found, named, observed, decided⟩ :=
      (reconcileStep_meets sound intent stepId observation).value reconciled
    dsimp only at decided observed
    cases submitOnce with
    | false => cases decided
    | true =>
      cases decided
      obtain ⟨isOpen, predecessors, prepared, started⟩ := observed.granted rfl
      exact ⟨intent, stepId, observation, durable, index, step, rfl, same, holds, found, named, isOpen, predecessors,
        prepared, observed.follows.step, started, observed.rewritten.holds⟩

theorem perform_created (sound : journal.Sound sha256)
    (performed : perform sha256 journal (.createIntent intent) = .ok (.outcome .created, next)) :
    ∃ snapshot, Holds sha256 next snapshot ∧ snapshot.intent = intent := by
  simp only [perform, bind_ok_iff, pure_ok, Prod.mk.injEq, Reply.outcome.injEq]
    at performed
  obtain ⟨⟨outcome, reached⟩, created, rfl, rfl⟩ := performed
  rcases (createIntent_meets sound intent).value created with ⟨_, other⟩ | ⟨_, rewritten⟩
  · exact absurd rfl other
  · exact ⟨_, rewritten.holds, rfl⟩

end Methods

section Runs

variable {sha256 : Bytes → Bytes32} {start journal later : Journal}

abbrev Event := Call × Option (Result Reply)

def Event.submits (swapId : Identifier) (stepId : PublicEffectStepId) (event : Event) : Bool :=
  match event.1, event.2 with
  | .reconcileStep intent asked _, some (.ok (.decision (.submitOnce _))) => intent.swapId = swapId ∧ asked = stepId
  | _, _ => false

variable {event : Event} {history more : List Event} {swapId : Identifier} {stepId : PublicEffectStepId}

theorem empty_sound : Journal.empty.Sound sha256 := fun _ => .inl ⟨rfl, rfl⟩

theorem served_kept (sound : journal.Sound sha256) (served : Served (perform sha256) journal event later) :
    later.Sound sha256 ∧ Evolves sha256 journal later := by
  rcases served.cases_db with same | ⟨reply, performed, _⟩
  · rw [same]
    exact ⟨sound, .refl journal⟩
  · exact (perform_meets sound event.1).value performed

theorem run_kept (sound : start.Sound sha256) (run : Run (Served (perform sha256)) start history journal) :
    journal.Sound sha256 ∧ Evolves sha256 start journal := by
  induction run with
  | nil => exact ⟨sound, .refl start⟩
  | snoc _ served earlier =>
    have kept := served_kept earlier.1 served
    exact ⟨kept.1, earlier.2.trans kept.2⟩

def Spent (sha256 : Bytes → Bytes32) (swapId : Identifier) (stepId : PublicEffectStepId) (journal : Journal) : Prop :=
  ∃ snapshot, Holds sha256 journal snapshot ∧ snapshot.intent.swapId = swapId ∧
    ∃ (index : Nat) (step : BtcMakerLockStepSnapshot), snapshot.steps[index]? = some step ∧
      step.step.step = stepId ∧ step.state ≠ .prepared

theorem Evolves.spent (evolves : Evolves sha256 journal later) (spent : Spent sha256 swapId stepId journal) :
    Spent sha256 swapId stepId later := by
  obtain ⟨snapshot, holds, same, index, step, found, named, moved⟩ := spent
  obtain ⟨next, holdsNext, continues⟩ := evolves snapshot holds
  obtain ⟨after, foundAfter, follows⟩ := continues.steps index step found
  refine ⟨next, holdsNext, ?_, index, after, foundAfter, ?_, follows.spent moved⟩
  · rw [continues.intent]
    exact same
  · rw [follows.step]
    exact named

variable {snapshot : BtcMakerLockIntentSnapshot}

theorem Holds.step_unique {i j : Nat}
    {first second : BtcMakerLockStepSnapshot} (holds : Holds sha256 journal snapshot)
    (foundFirst : snapshot.steps[i]? = some first) (foundSecond : snapshot.steps[j]? = some second)
    (same : first.step.step = second.step.step) : first = second := by
  have nodup := (plan_made (validate_plan holds.consistent.valid).1).2.2.1
  rw [← holds.consistent.steps, List.map_map] at nodup
  have bound := (List.getElem?_eq_some_iff.mp foundFirst).1
  have equal : (snapshot.steps.map ((·.step) ∘ (·.step)))[i]? = (snapshot.steps.map ((·.step) ∘ (·.step)))[j]? := by
    rw [List.getElem?_map, List.getElem?_map, foundFirst, foundSecond]
    exact congrArg some same
  have positions : i = j := (List.getElem?_inj (by rw [List.length_map]; exact bound) nodup).mp equal
  rw [positions, foundSecond] at foundFirst
  exact (Option.some.inj foundFirst).symm

theorem submits_unspent (sound : journal.Sound sha256) (served : Served (perform sha256) journal event later)
    (submits : event.submits swapId stepId = true) :
    ¬Spent sha256 swapId stepId journal ∧ Spent sha256 swapId stepId later := by
  unfold Event.submits at submits
  split at submits
  · rename_i intent asked observation after called answered
    obtain ⟨rfl, rfl⟩ := of_decide_eq_true submits
    obtain ⟨_, _, _, durable, index, step, same, rfl, holds, found, named, _, _, prepared, kept, started,
      holdsNext⟩ := perform_submits sound (served.answer answered)
    rw [called] at same
    cases same
    constructor
    · rintro ⟨other, otherHolds, otherSwap, i, otherStep, foundOther, otherNamed, otherSpent⟩
      cases otherHolds.unique holds otherSwap
      cases otherHolds.step_unique foundOther found (otherNamed.trans named.symm)
      exact otherSpent prepared
    · refine ⟨_, holdsNext, rfl, index, after, setStep_found found, ?_, ?_⟩
      · rw [kept]
        exact named
      · rw [started]
        exact nofun
  · cases submits

theorem Consistent.acceptedPrefix (consistent : Consistent snapshot) :
    ∃ count, ∀ (i : Nat) step, snapshot.steps[i]? = some step → (step.state = .accepted ↔ i < count) := by
  refine ⟨snapshot.steps.findIdx (·.state ≠ .accepted), fun i step found => ?_⟩
  obtain ⟨bound, isStep⟩ := List.getElem?_eq_some_iff.mp found
  constructor
  · intro accepted
    apply Nat.lt_of_not_le
    intro past
    have inside := Nat.lt_of_le_of_lt past bound
    have first := of_decide_eq_true (List.findIdx_getElem (w := inside))
    rcases Nat.lt_or_eq_of_le past with before | same
    · exact first (consistent.ordered _ i _ step before (List.getElem?_eq_getElem inside) found accepted)
    · simp only [same, isStep] at first
      exact first accepted
  · intro before
    have passed := List.not_of_lt_findIdx before
    rw [isStep] at passed
    simpa using passed

theorem run_created (sound : start.Sound sha256) (run : Run (Served (perform sha256)) start history journal)
    {intent : BtcMakerLockIntentV1} (created : (.createIntent intent, some (.ok (.outcome .created))) ∈ history) :
    ∃ snapshot, Holds sha256 journal snapshot ∧ snapshot.intent = intent := by
  induction run with
  | nil => cases created
  | snoc before served earlier =>
    have held := (run_kept sound before).1
    rcases List.mem_append.mp created with old | last
    · obtain ⟨snapshot, holds, rfl⟩ := earlier old
      obtain ⟨next, holdsNext, continues⟩ := (served_kept held served).2 snapshot holds
      exact ⟨next, holdsNext, continues.intent⟩
    · cases List.mem_singleton.mp last
      exact perform_created held (served.answer rfl)

theorem load_some (sound : journal.Sound sha256)
    (loaded : loadIntentSnapshot sha256 journal swapId = .ok (some snapshot)) :
    snapshot.intent.swapId = swapId ∧ Holds sha256 journal snapshot := by
  rcases load_sound sound swapId with ⟨absent, _⟩ | ⟨held, present, same, holds⟩
  · cases absent.symm.trans loaded
  · cases present.symm.trans loaded
    exact ⟨same, holds⟩

theorem maker_lock_plan_sent_in_order (run : Run (Served (perform sha256)) Journal.empty history journal)
    (rest : Run (Served (perform sha256)) journal more later) :
    -- Every state reloads, with its plan, with an accepted prefix, and closed only when all is accepted.
    (∀ swapId, ∃ loaded, loadIntentSnapshot sha256 journal swapId = .ok loaded ∧
      ∀ snapshot, loaded = some snapshot →
        snapshot.intent.swapId = swapId ∧ snapshot.steps.map (·.step) = snapshot.intent.plan.steps ∧
        (∃ count, ∀ (i : Nat) step, snapshot.steps[i]? = some step → (step.state = .accepted ↔ i < count)) ∧
        (snapshot.closedRevision ≠ none → ∀ step ∈ snapshot.steps, step.state = .accepted)) ∧
    (∀ intent, (.createIntent intent, some (.ok (.outcome .created))) ∈ history →
      ∃ snapshot, loadIntentSnapshot sha256 journal intent.swapId = .ok (some snapshot) ∧
        snapshot.intent = intent) ∧
    (∀ swapId stepId, history.countP (Event.submits swapId stepId) ≤ 1) ∧
    (∀ event next after, Served (perform sha256) journal event next →
      event.2 = some (.ok (.decision (.submitOnce after))) →
      ∃ intent observation snapshot index, event.1 = .reconcileStep intent after.step.step observation ∧
        loadIntentSnapshot sha256 journal intent.swapId = .ok (some snapshot) ∧ snapshot.intent = intent ∧
        snapshot.closedRevision = none ∧ snapshot.steps[index]?.map (·.step) = some after.step ∧
        ∀ (i : Nat) earlier, i < index → snapshot.steps[i]? = some earlier → earlier.state = .accepted) ∧
    (∀ swapId snapshot, loadIntentSnapshot sha256 journal swapId = .ok (some snapshot) →
      ∃ next, loadIntentSnapshot sha256 later swapId = .ok (some next) ∧ next.intent = snapshot.intent ∧
        ∀ revision, snapshot.closedRevision = some revision → next.closedRevision = some revision) ∧
    ∀ event next error, Served (perform sha256) journal event next → event.2 = some (.error error) →
      error ≠ .sqlite ∧ error ≠ .corruptBtcMakerLockIntent := by
  obtain ⟨sound, _⟩ := run_kept empty_sound run
  refine ⟨?_, ?_, ?_, ?_, ?_, ?_⟩
  · intro swapId
    rcases load_sound sound swapId with ⟨absent, _⟩ | ⟨snapshot, present, same, holds⟩
    · exact ⟨none, absent, nofun⟩
    · refine ⟨some snapshot, present, ?_⟩
      intro held loaded
      cases loaded
      refine ⟨same, holds.consistent.steps, holds.consistent.acceptedPrefix, fun closed => ?_⟩
      rcases holds.consistent.closed with isOpen | ⟨_, accepted⟩
      · exact absurd isOpen closed
      · exact accepted
  · intro intent created
    obtain ⟨snapshot, holds, rfl⟩ := run_created empty_sound run created
    exact ⟨snapshot, load_holds holds, rfl⟩
  · intro swapId stepId
    refine (run.once (Spent sha256 swapId stepId) empty_sound
      (fun _ _ _ held served => (served_kept held served).1) ?_ ?_).1
    · exact fun _ _ _ held served spent => (served_kept held served).2.spent spent
    · exact fun _ _ _ held served submits => submits_unspent held served submits
  · intro event next after served answered
    obtain ⟨intent, stepId, observation, durable, index, step, called, rfl, holds, found, rfl, isOpen,
      predecessors, _, kept, _, _⟩ := perform_submits sound (served.answer answered)
    refine ⟨durable.intent, observation, durable, index, ?_, load_holds holds, rfl, isOpen, ?_,
      predecessorsAccepted_iff.mp predecessors⟩
    · rw [kept]
      exact called
    · rw [found, kept]
      rfl
  · intro swapId snapshot loaded
    obtain ⟨rfl, holds⟩ := load_some sound loaded
    obtain ⟨next, holdsNext, continues⟩ := (run_kept sound rest).2 snapshot holds
    have reloaded := load_holds holdsNext
    rw [continues.intent] at reloaded
    exact ⟨next, reloaded, continues.intent, continues.closed⟩
  · intro event next error served answered
    exact (perform_meets sound event.1).raised (served.refusal answered).1

end Runs

def sampleFirst : PublicEffectStepV1 :=
  ⟨⟨[0x61], by decide, by decide, by decide⟩, ⟨[0x31], by decide, by decide, by decide⟩, ⟨[11], by decide, by decide⟩⟩

def sampleSecond : PublicEffectStepV1 :=
  ⟨⟨[0x62], by decide, by decide, by decide⟩, ⟨[0x32], by decide, by decide, by decide⟩, ⟨[12], by decide, by decide⟩⟩

def sampleIntent : BtcMakerLockIntentV1 :=
  ⟨⟨"locked-swap", by decide⟩, 5, .maker, 1, ⟨1, [sampleFirst, sampleSecond]⟩⟩

def sampleSha256 (bytes : Bytes) : Bytes32 := BitVec.ofNat 256 bytes.length

-- The second step is asked for too early, and the first is sent, recorded and seen.
def sampleCalls : List Call :=
  [.createIntent sampleIntent, .reconcileStep sampleIntent sampleSecond.step .absent,
    .reconcileStep sampleIntent sampleFirst.step .absent,
    .recordSubmissionResult sampleIntent sampleFirst.step .unknown,
    .reconcileStep sampleIntent sampleFirst.step (.presentExact [0x31] [11]),
    .reconcileStep sampleIntent sampleSecond.step .absent]

theorem maker_lock_plan_sent_in_order_sample :
    let served := replay (serve (perform sampleSha256)) Journal.empty sampleCalls
    served.2.countP (Event.submits sampleIntent.swapId sampleFirst.step) = 1 ∧
      served.2.countP (Event.submits sampleIntent.swapId sampleSecond.step) = 1 ∧
      (∀ stepId, served.2.countP (Event.submits sampleIntent.swapId stepId) ≤ 1) ∧
      ∃ loaded, loadIntentSnapshot sampleSha256 served.1 sampleIntent.swapId = .ok loaded := by
  intro served
  have run := run_replay (serve_served (perform sampleSha256)) Journal.empty sampleCalls
  obtain ⟨reloads, _, once, _⟩ := maker_lock_plan_sent_in_order run .nil
  obtain ⟨loaded, reloaded, _⟩ := reloads sampleIntent.swapId
  exact ⟨by decide +kernel, by decide +kernel, once sampleIntent.swapId, loaded, reloaded⟩

end AtomicSwaps.Store.MakerLock
