import AtomicSwaps.Maker.Supervisor
import AtomicSwaps.Relational.Served

namespace AtomicSwaps.Maker

open AtomicSwaps.Core Fallible Relational Transition

def ActorCall.swapId : ActorCall → SwapId
  | .registerActor manifest => manifest.swapId
  | .queueManualAction _ swapId _ _ | .repinProgram _ swapId _ _ | .claimActor swapId _ => swapId
  | .claimManualAction lease | .recordChild lease _ _ | .clearChild lease _ _ | .resolveAttempt lease _
  | .resolveAttemptWithProgress lease _ _ | .recoverAbandoned lease _ _ => lease.record.swapId

def ActorCall.presents : ActorCall → Option MakerActorLeaseV1
  | .registerActor _ | .queueManualAction _ _ _ _ | .repinProgram _ _ _ _ | .claimActor _ _ => none
  | .claimManualAction lease | .recordChild lease _ _ | .clearChild lease _ _ | .resolveAttempt lease _
  | .resolveAttemptWithProgress lease _ _ | .recoverAbandoned lease _ _ => some lease

def ActorReply.granted : ActorReply → Option MakerActorLeaseV1
  | .claimed lease => lease
  | .recovered lease => some lease
  | .registered _ | .admitted _ | .manualAction _ | .done => none

variable {store next : ActorStore} {swapId : SwapId} {row record : MakerActorProcessRecordV1}
  {action : MakerActorManualActionSnapshot} {clock now : Nat}

section Loads

theorem process_check (found : store.processes.find? swapId = some row) :
    row.leaseGeneration ≤ i64Max ∧ row.createdAt ≤ row.updatedAt ∧ row.shaped = true := by
  have check := Table.find?_check found
  simp only [makerActorProcesses, Bool.and_eq_true, decide_eq_true_eq] at check
  exact ⟨check.1.1.1.1.1.2, check.1.2, check.2⟩

theorem process_key (found : store.processes.find? swapId = some row) : row.swapId = swapId :=
  Table.find?_key found

theorem process_puts {processes : Table makerActorProcesses} {changed : MakerActorProcessRecordV1}
    (found : store.processes.find? swapId = some row)
    (written : store.processes.write changed = some processes) (same : changed.swapId = row.swapId) :
    store.processes.Puts processes swapId changed := by
  have own : changed.swapId = swapId := same.trans (process_key found)
  rw [← own] at found ⊢
  exact Table.write_find? written found

theorem decodeRecord_shaped (shaped : row.shaped = true) : decodeRecord row = .ok row := by
  unfold decodeRecord
  rw [ensure_ok]
  · rfl
  · unfold MakerActorProcessRecordV1.shaped at shaped
    cases state : row.scheduleState <;> simp_all [Option.isNone_iff_eq_none]

theorem loadRecord_eq (processes : Table makerActorProcesses) (swapId : SwapId) :
    loadRecord processes swapId = .ok (processes.find? swapId) := by
  unfold loadRecord
  cases found : processes.find? swapId with
  | none => rfl
  | some row =>
    have check := Table.find?_check found
    simp only [makerActorProcesses, Bool.and_eq_true] at check
    simp only [decodeRecord_shaped check.2]
    rfl

variable {actions : Table makerActorManualActions} {requestId : RequestId}

theorem decodeManualAction_eq
    (found : actions.find? requestId = some action) : decodeManualAction action = .ok action := by
  have check := Table.find?_check found
  simp only [makerActorManualActions, Bool.and_eq_true] at check
  unfold decodeManualAction
  rw [ensure_ok]
  · rfl
  · cases state : action.state <;> simp_all

theorem action_unleased (found : actions.find? requestId = some action) (unleased : action.state ≠ .leased) :
    action.leaseOwner = none ∧ action.leaseGeneration = none := by
  have check := Table.find?_check found
  simp only [makerActorManualActions, Bool.and_eq_true, if_neg unleased, Option.isNone_iff_eq_none] at check
  exact check.2

theorem loadManualActionByRequest_eq (actions : Table makerActorManualActions) (requestId : RequestId) :
    loadManualActionByRequest actions requestId = .ok (actions.find? requestId) := by
  unfold loadManualActionByRequest
  cases found : actions.find? requestId with
  | none => rfl
  | some row =>
    simp only [decodeManualAction_eq found]
    rfl

theorem openManualAction_some (opened : openManualAction actions swapId = some action) :
    actions.find? action.requestId = some action ∧ action.swapId = swapId ∧ action.isOpen = true := by
  have member := List.mem_of_getLast? opened
  rw [List.mem_filter] at member
  obtain ⟨stored, selected⟩ := member
  simp only [Bool.and_eq_true, decide_eq_true_eq] at selected
  exact ⟨Table.mem_find? actions stored, selected⟩

/-- A swap has at most one open action: the partial unique index. -/
theorem openManualAction_of_open (found : actions.find? requestId = some action) (same : action.swapId = swapId)
    (isOpen : action.isOpen = true) : openManualAction actions swapId = some action := by
  have member : action ∈ actions.rows.filter fun row => row.swapId = swapId && row.isOpen := by
    rw [List.mem_filter]
    simp [Table.find?_mem found, same, isOpen]
  cases opened : openManualAction actions swapId with
  | none =>
    unfold openManualAction at opened
    rw [List.getLast?_eq_none_iff] at opened
    rw [opened] at member
    cases member
  | some other =>
    obtain ⟨otherFound, otherSwap, otherOpen⟩ := openManualAction_some opened
    by_cases sameKey : requestId = other.requestId
    · rw [← sameKey, found] at otherFound
      exact otherFound.symm
    · have separated := Table.find?_apart found otherFound sameKey
      simp [makerActorManualActions, same, otherSwap, isOpen, otherOpen] at separated

theorem action_puts {moved : MakerActorManualActionSnapshot}
    (stored : store.actions.find? action.requestId = some action)
    (written : store.actions.write moved = some actions) (same : moved.requestId = action.requestId) :
    store.actions.Puts actions action.requestId moved := by
  rw [← same] at stored ⊢
  exact Table.write_find? written stored

theorem loadOpenManualAction_eq (actions : Table makerActorManualActions) (swapId : SwapId) :
    loadOpenManualAction actions swapId = .ok (openManualAction actions swapId) := by
  unfold loadOpenManualAction
  cases opened : openManualAction actions swapId with
  | none => rfl
  | some row =>
    simp only [decodeManualAction_eq (openManualAction_some opened).1]
    rfl

end Loads

section Effects

variable {resolution : MakerActorAttemptResolution} {commit : MakerActorManualActionCommit}
  {newOwner : MakerActorLeaseOwner} {expectedGeneration : Nat} {requestId : RequestId} {call : ActorCall}

section UpdateOne

variable {Row Key : Type} [DecidableEq Key] {schema : Schema Row Key} {table after : Table schema} {key : Key}
  {selected : Row → Bool} {change : Row → Row} {conflict : MakerActorProcessError}

theorem updateOne_ok_iff :
    updateOne table key selected change conflict = .ok after ↔
      ∃ row, table.find? key = some row ∧ selected row = true ∧ table.write (change row) = some after := by
  simp only [updateOne, checked_ok, required_ok_iff, pure_ok]
  constructor
  · rintro ⟨⟨updated, changed⟩, found, rfl, rfl⟩
    exact Table.updateWhere_changed found Nat.one_ne_zero
  · rintro ⟨row, found, chosen, written⟩
    exact ⟨(after, 1), Table.updateWhere_of_find? found chosen written, rfl, rfl⟩

theorem updateOne_found {row : Row} (found : table.find? key = some row)
    (updated : updateOne table key selected change conflict = .ok after) : table.write (change row) = some after := by
  obtain ⟨_, same, _, written⟩ := updateOne_ok_iff.mp updated
  cases found.symm.trans same
  exact written

end UpdateOne

def ActorReply.Plain (reply : ActorReply) : Prop :=
  reply.granted = none ∧ ∀ action, reply ≠ .manualAction (some action)

inductive Performs (store : ActorStore) (now : Nat) : ActorCall → ActorReply → ActorStore → Prop
  | unchanged {call : ActorCall} {reply : ActorReply} (presents : call.presents = none) (plain : reply.Plain) :
      Performs store now call reply store
  | registers {row : MakerActorProcessRecordV1} {processes : Table makerActorProcesses} {wasReplay : Bool}
      (inserted : store.processes.insert row = some processes) (created : row.createdAt = timeToSql now)
      (queued : row.scheduleState = .queued) (untried : row.leaseGeneration = 0 ∧ row.attemptCount = 0) :
      Performs store now (.registerActor row.manifest) (.registered wasReplay) { store with processes }
  | asks {requestId : RequestId} {swapId : SwapId} {requested : MakerActorManualAction} {expectedGeneration : Nat}
      {commit : MakerActorManualActionCommit} {row : MakerActorProcessRecordV1}
      {action : MakerActorManualActionSnapshot} {processes : Table makerActorProcesses}
      {actions : Table makerActorManualActions} {mutations : Table makerApplicationMutations}
      (found : store.processes.find? swapId = some row) (ongoing : row.scheduleState ≠ .terminal)
      (closed : openManualAction store.actions swapId = none) (inserted : store.actions.insert action = some actions)
      (own : action.swapId = swapId) (queued : action.state = .queued) (created : action.createdAt = timeToSql now)
      (asked : action.requestedAfterGeneration = row.leaseGeneration)
      (requeued : row.scheduleState = .leased ∧ processes = store.processes ∨
        row.scheduleState ≠ .leased ∧ store.processes.write (row.requeue (timeToSql now)) = some processes) :
      Performs store now (.queueManualAction requestId swapId requested expectedGeneration) (.admitted commit)
        { store with mutations, processes, actions }
  | repins {requestId : RequestId} {swapId : SwapId} {expectedGeneration : Nat} {programSha256 : Bytes32}
      {commit : MakerActorManualActionCommit} {row : MakerActorProcessRecordV1}
      {processes : Table makerActorProcesses} {mutations : Table makerApplicationMutations}
      (found : store.processes.find? swapId = some row) (waits : row.scheduleState.waits = true)
      (written : store.processes.write (row.repin programSha256 (timeToSql now)) = some processes) :
      Performs store now (.repinProgram requestId swapId expectedGeneration programSha256) (.admitted commit)
        { store with mutations, processes }
  | claims {swapId : SwapId} {owner : MakerActorLeaseOwner} {row : MakerActorProcessRecordV1}
      {processes : Table makerActorProcesses} (found : store.processes.find? swapId = some row)
      (due : row.scheduleState = .queued ∨ row.scheduleState = .backoff)
      (written : store.processes.write (row.lease owner (timeToSql now)) = some processes) :
      Performs store now (.claimActor swapId owner)
        (.claimed (some ⟨row.lease owner (timeToSql now), owner, row.leaseGeneration + 1⟩)) { store with processes }
  | looks {lease : MakerActorLeaseV1} {row : MakerActorProcessRecordV1}
      {claimed : Option MakerActorManualActionSnapshot}
      (found : store.processes.find? lease.record.swapId = some row)
      (held : row.heldBy lease.owner lease.generation = true)
      (attached : ∀ action, claimed = some action → openManualAction store.actions lease.record.swapId = some action ∧
        action.heldBy lease.owner lease.generation = true) :
      Performs store now (.claimManualAction lease) (.manualAction claimed) store
  | attaches {lease : MakerActorLeaseV1} {row : MakerActorProcessRecordV1}
      {action : MakerActorManualActionSnapshot} {actions : Table makerActorManualActions}
      (found : store.processes.find? lease.record.swapId = some row)
      (held : row.heldBy lease.owner lease.generation = true)
      (opened : openManualAction store.actions lease.record.swapId = some action)
      (earlier : action.requestedAfterGeneration < lease.generation)
      (written : store.actions.write (action.attach lease.owner lease.generation) = some actions) :
      Performs store now (.claimManualAction lease)
        (.manualAction (some (action.attach lease.owner lease.generation))) { store with actions }
  | watches {call : ActorCall} {lease : MakerActorLeaseV1} {row : MakerActorProcessRecordV1}
      {child : Option (Nat × Nat)} {processes : Table makerActorProcesses} (presents : call.presents = some lease)
      (about : call.swapId = lease.record.swapId) (found : store.processes.find? lease.record.swapId = some row)
      (held : row.heldBy lease.owner lease.generation = true)
      (written : store.processes.write { row with childIdentity := child } = some processes) :
      Performs store now call .done { store with processes }
  | recovers {lease : MakerActorLeaseV1} {heldLock : ActorHeldLock} {newOwner : MakerActorLeaseOwner}
      {row : MakerActorProcessRecordV1} {processes : Table makerActorProcesses}
      {actions : Table makerActorManualActions} (found : store.processes.find? lease.record.swapId = some row)
      (held : row.heldBy lease.owner lease.generation = true)
      (written : store.processes.write (row.transfer newOwner (lease.generation + 1) (timeToSql now)) =
        some processes)
      (transferred : transferManualAction store.actions lease newOwner (lease.generation + 1) (timeToSql now) =
        .ok actions) :
      Performs store now (.recoverAbandoned lease heldLock newOwner)
        (.recovered ⟨row.transfer newOwner (lease.generation + 1) (timeToSql now), newOwner, lease.generation + 1⟩)
        { store with processes, actions }
  | resolves {call : ActorCall} {lease : MakerActorLeaseV1} {row : MakerActorProcessRecordV1}
      {resolution : MakerActorAttemptResolution} {state : MakerActorScheduleState} {notBefore : Nat}
      {failure : Option String} {processes : Table makerActorProcesses} {actions : Table makerActorManualActions}
      {observed : Table makerActorProgress} (presents : call.presents = some lease)
      (about : call.swapId = lease.record.swapId) (unleased : state ≠ .leased)
      (paired : resolution.manualState = .queued → state = .queued ∨ state = .backoff)
      (found : store.processes.find? lease.record.swapId = some row)
      (held : row.heldBy lease.owner lease.generation = true)
      (written : store.processes.write (row.release state notBefore failure (timeToSql now)) = some processes)
      (settled : settleManualAction store.actions lease resolution.manualState (timeToSql now) = .ok actions)
      (noted : observed = store.progress ∨ ∃ observation,
        upsertActorProgress store.progress lease observation (timeToSql now) = .ok observed) :
      Performs store now call .done { store with processes, actions, progress := observed }

theorem registerMakerActor_ok {manifest : MakerActorManifestV1} {wasReplay : Bool}
    (performed : registerMakerActorInTransaction store manifest now = .ok (wasReplay, next)) :
    Performs store now (.registerActor manifest) (.registered wasReplay) next := by
  simp only [registerMakerActorInTransaction, loadRecord_eq, bind_ok_iff, exists_unit, pure, Except.pure,
    Except.ok.injEq, exists_eq_left'] at performed
  obtain ⟨_, performed⟩ := performed
  split at performed
  · simp only [checked_ok, Except.ok.injEq, Prod.mk.injEq] at performed
    obtain ⟨_, _, rfl⟩ := performed
    exact .unchanged rfl ⟨rfl, by rintro _ ⟨⟩⟩
  · simp only [bind_ok_iff, required_ok_iff, Except.ok.injEq, Prod.mk.injEq] at performed
    obtain ⟨processes, inserted, _, rfl⟩ := performed
    exact .registers inserted rfl rfl ⟨rfl, rfl⟩

theorem queueMakerActorManualAction_ok {requested : MakerActorManualAction}
    (performed : queueMakerActorManualAction store requestId swapId requested expectedGeneration now =
      .ok (commit, next)) :
    Performs store now (.queueManualAction requestId swapId requested expectedGeneration)
      (.admitted commit) next := by
  simp only [queueMakerActorManualAction, loadRecord_eq, loadOpenManualAction_eq, bind_ok_iff, pure, Except.pure]
    at performed
  obtain ⟨replay, _, performed⟩ := performed
  split at performed
  · simp only [Except.ok.injEq, Prod.mk.injEq] at performed
    obtain ⟨_, rfl⟩ := performed
    exact .unchanged rfl ⟨rfl, by rintro _ ⟨⟩⟩
  · simp only [checked_ok, required_ok_iff, generationToSql, pure, Except.pure, Except.ok.injEq,
      Prod.mk.injEq, Option.isNone_iff_eq_none, exists_eq_left'] at performed
    obtain ⟨row, found, rfl, ongoing, closed, _, ⟨_, rfl⟩, actions, inserted, processes, requeued, mutations, _,
      _, rfl⟩ := performed
    apply Performs.asks found ongoing closed inserted rfl rfl rfl rfl
    by_cases leased : row.scheduleState = .leased
    · rw [if_pos leased] at requeued
      exact .inl ⟨leased, (Except.ok.inj requeued).symm⟩
    · rw [if_neg leased] at requeued
      have written := updateOne_found found requeued
      exact .inr ⟨leased, written⟩

theorem repinMakerActorProgram_ok {programSha256 : Bytes32}
    (performed : repinMakerActorProgram store requestId swapId expectedGeneration programSha256 now =
      .ok (commit, next)) :
    Performs store now (.repinProgram requestId swapId expectedGeneration programSha256) (.admitted commit) next := by
  simp only [repinMakerActorProgram, loadRecord_eq] at performed
  split at performed
  · simp only [checked_ok, pure, Except.pure, Except.ok.injEq, Prod.mk.injEq] at performed
    obtain ⟨_, _, rfl⟩ := performed
    exact .unchanged rfl ⟨rfl, by rintro _ ⟨⟩⟩
  · simp only [checked_ok, required_ok_iff, updateOne_ok_iff, pure, Except.pure, Except.ok.injEq,
      Prod.mk.injEq, exists_eq_left'] at performed
    obtain ⟨_, _, _, processes, ⟨row, found, waits, written⟩, mutations, _, _, rfl⟩ := performed
    exact .repins found waits written

theorem claimMakerActor_ok {owner : MakerActorLeaseOwner} {claimed : Option MakerActorLeaseV1}
    (performed : claimMakerActor store swapId owner now = .ok (claimed, next)) :
    Performs store now (.claimActor swapId owner) (.claimed claimed) next := by
  simp only [claimMakerActor, loadRecord_eq, bind_ok_iff, required_ok_iff] at performed
  obtain ⟨⟨processes, changed⟩, updated, performed⟩ := performed
  by_cases unchanged : changed = 0
  · simp only [unchanged, if_true, pure, Except.pure, Except.ok.injEq, Prod.mk.injEq] at performed
    obtain ⟨rfl, rfl⟩ := performed
    exact .unchanged rfl ⟨rfl, by rintro _ ⟨⟩⟩
  · simp only [unchanged, if_false, checked_ok, required_ok_iff, pure, Except.pure, Except.ok.injEq,
      Prod.mk.injEq, exists_eq_left'] at performed
    obtain ⟨record, loaded, _, rfl, rfl⟩ := performed
    obtain ⟨row, found, due, written⟩ := Table.updateWhere_changed updated unchanged
    have located := (process_puts found written rfl).self
    rw [located, Option.some.injEq] at loaded
    subst loaded
    simp only [Bool.and_eq_true, Bool.or_eq_true, decide_eq_true_eq] at due
    exact .claims found due.1.2 written

variable {lease : MakerActorLeaseV1}

theorem claimMakerActorManualAction_ok {claimed : Option MakerActorManualActionSnapshot}
    (performed : claimMakerActorManualAction store lease = .ok (claimed, next)) :
    Performs store now (.claimManualAction lease) (.manualAction claimed) next := by
  simp only [claimMakerActorManualAction, loadRecord_eq, loadOpenManualAction_eq,
    loadManualActionByRequest_eq, checked_ok, required_ok_iff, Except.ok.injEq, exists_eq_left'] at performed
  obtain ⟨row, found, held, performed⟩ := performed
  split at performed
  · simp only [pure, Except.pure, Except.ok.injEq, Prod.mk.injEq] at performed
    obtain ⟨rfl, rfl⟩ := performed
    exact .looks found held nofun
  · rename_i action opened
    have stored := (openManualAction_some opened).1
    split at performed
    · simp only [checked_ok] at performed
      obtain ⟨requested, performed⟩ := performed
      by_cases current : lease.generation = action.requestedAfterGeneration
      · simp only [current, if_true, pure, Except.pure, Except.ok.injEq, Prod.mk.injEq] at performed
        obtain ⟨rfl, rfl⟩ := performed
        exact .looks found held nofun
      · simp only [current, if_false, checked_ok, generationToSql, required_ok_iff, pure,
          Except.pure, Except.ok.injEq, Prod.mk.injEq, exists_eq_left'] at performed
        obtain ⟨_, ⟨_, rfl⟩, actions, updated, leased, loaded, rfl, rfl⟩ := performed
        have written := updateOne_found stored updated
        rw [(action_puts stored written rfl).self, Option.some.injEq] at loaded
        subst loaded
        exact .attaches found held opened (Nat.lt_of_le_of_ne requested (Ne.symm current)) written
    · simp only [checked_ok, required_ok_iff, pure, Except.pure, Except.ok.injEq, Prod.mk.injEq,
        exists_eq_left', stored, Option.some.injEq] at performed
      obtain ⟨attached, rfl, rfl⟩ := performed
      apply Performs.looks found held
      rintro _ ⟨⟩
      exact ⟨opened, attached⟩

theorem recordMakerActorChild_ok {pid startTicks : Nat}
    (performed : recordMakerActorChild store lease pid startTicks = .ok next) :
    Performs store now (.recordChild lease pid startTicks) .done next := by
  simp only [recordMakerActorChild, generationToSql, checked_ok, updateOne_ok_iff, pure_ok,
    Bool.and_eq_true] at performed
  obtain ⟨_, _, ⟨_, rfl⟩, processes, ⟨row, found, ⟨held, _⟩, written⟩, rfl⟩ := performed
  exact .watches rfl rfl found held written

theorem clearMakerActorChild_ok {pid startTicks : Nat}
    (performed : clearMakerActorChild store lease pid startTicks = .ok next) :
    Performs store now (.clearChild lease pid startTicks) .done next := by
  simp only [clearMakerActorChild, generationToSql, checked_ok, updateOne_ok_iff, pure_ok,
    Bool.and_eq_true] at performed
  obtain ⟨_, _, ⟨_, rfl⟩, processes, ⟨row, found, ⟨held, _⟩, written⟩, rfl⟩ := performed
  exact .watches rfl rfl found held written

theorem transferManualAction_ok {actions after : Table makerActorManualActions} {generation : Nat}
    (performed : transferManualAction actions lease newOwner generation now = .ok after) :
    ((∀ action, openManualAction actions lease.record.swapId = some action → action.state = .queued) ∧
      after = actions) ∨
    ∃ action, openManualAction actions lease.record.swapId = some action ∧
      action.heldBy lease.owner lease.generation = true ∧
      actions.write (action.transfer newOwner generation now) = some after := by
  simp only [transferManualAction, loadOpenManualAction_eq, bind_ok_iff, Except.ok.injEq,
    exists_eq_left'] at performed
  split at performed
  · rename_i closed
    simp only [pure_ok] at performed
    refine .inl ⟨fun action opened => ?_, performed.symm⟩
    rw [closed] at opened
    cases opened
  · rename_i action opened
    split at performed
    · rename_i queued
      simp only [pure_ok] at performed
      refine .inl ⟨fun other same => ?_, performed.symm⟩
      rw [opened] at same
      cases same
      exact queued
    · simp only [checked_ok] at performed
      obtain ⟨held, _, _, updated⟩ := performed
      exact .inr ⟨action, opened, held, updateOne_found (openManualAction_some opened).1 updated⟩

theorem recoverAbandonedMakerActor_ok {recovered : MakerActorLeaseV1} {heldLock : ActorHeldLock}
    (performed : recoverAbandonedMakerActor store lease heldLock newOwner now = .ok (recovered, next)) :
    Performs store now (.recoverAbandoned lease heldLock newOwner) (.recovered recovered) next := by
  simp only [recoverAbandonedMakerActor, loadRecord_eq, generationToSql, checked_ok, updateOne_ok_iff,
    required_ok_iff, pure, Except.pure, Except.ok.injEq, Prod.mk.injEq, exists_eq_left'] at performed
  obtain ⟨_, _, _, ⟨_, rfl⟩, _, ⟨_, rfl⟩, processes, ⟨row, found, held, written⟩, actions, transferred, record,
    loaded, _, rfl, rfl⟩ := performed
  rw [(process_puts found written rfl).self, Option.some.injEq] at loaded
  subst loaded
  exact .recovers found held written transferred

theorem settleManualAction_ok {actions after : Table makerActorManualActions}
    {manualState : MakerActorManualActionState}
    (performed : settleManualAction actions lease manualState now = .ok after) :
    ((∀ action, openManualAction actions lease.record.swapId = some action →
      action.state = .queued ∧ manualState = .queued) ∧ after = actions) ∨
    ∃ action settled, openManualAction actions lease.record.swapId = some action ∧
      actions.write settled = some after ∧ settled.requestId = action.requestId ∧
      settled.swapId = action.swapId ∧ settled.createdAt = action.createdAt ∧ settled.state = manualState ∧
      settled.requestedAfterGeneration = action.requestedAfterGeneration := by
  simp only [settleManualAction, loadOpenManualAction_eq, bind_ok_iff, Except.ok.injEq, exists_eq_left'] at performed
  split at performed
  · rename_i closed
    simp only [pure_ok] at performed
    refine .inl ⟨fun action opened => ?_, performed.symm⟩
    rw [closed] at opened
    cases opened
  · rename_i action opened
    have found := (openManualAction_some opened).1
    split at performed
    · rename_i queued
      simp only [checked_ok] at performed
      obtain ⟨_, performed⟩ := performed
      split at performed
      · simp only [pure_ok] at performed
        refine .inl ⟨fun other same => ?_, performed.symm⟩
        rw [opened] at same
        cases same
        exact ⟨queued, rfl⟩
      · exact .inr ⟨action, _, opened, updateOne_found found performed, rfl, rfl, rfl, rfl, rfl⟩
      · cases performed
    · simp only [checked_ok] at performed
      obtain ⟨_, _, _, updated⟩ := performed
      exact .inr ⟨action, _, opened, updateOne_found found updated, rfl, rfl, rfl, rfl, rfl⟩

theorem upsertActorProgress_ok {progress after : Table makerActorProgress}
    {observation : MakerActorProgressObservationV1}
    (performed : upsertActorProgress progress lease observation now = .ok after) :
    progress.Puts after lease.record.swapId
      ⟨lease.record.swapId, lease.record.manifest.kind, lease.generation, observation, now⟩ := by
  simp only [upsertActorProgress, generationToSql, checked_ok, pure_ok] at performed
  obtain ⟨_, ⟨_, rfl⟩, performed⟩ := performed
  split at performed
  · exact Table.insert_puts (required_ok_iff.mp performed)
  · rename_i old found
    simp only [checked_ok] at performed
    exact Table.write_find? (required_ok_iff.mp performed.2) found

theorem resolutionFields_state {state : MakerActorScheduleState} {notBefore : Nat} {failure : Option String}
    (fields : resolutionFields resolution = .ok (state, notBefore, failure)) :
    state ≠ .leased ∧ (resolution.manualState = .queued → state = .queued ∨ state = .backoff) := by
  cases resolution <;>
    simp only [resolutionFields, bind_ok_iff, exists_unit, pure, Except.pure, Except.ok.injEq,
      Prod.mk.injEq] at fields
  case requeue | terminal | manualActionCompleted =>
    rw [← fields.1]
    simp [MakerActorAttemptResolution.manualState]
  case backoff | failed =>
    rw [← fields.2.1]
    simp [MakerActorAttemptResolution.manualState]

theorem MakerActorAttemptResolution.manualState_ne_leased (resolution : MakerActorAttemptResolution) :
    resolution.manualState ≠ .leased := by
  cases resolution <;> exact nofun

theorem resolveMakerActorAttemptInner_ok {progress : Option MakerActorProgressObservationV1}
    (presents : call.presents = some lease) (about : call.swapId = lease.record.swapId)
    (performed : resolveMakerActorAttemptInner store lease resolution progress now = .ok next) :
    Performs store now call .done next := by
  simp only [resolveMakerActorAttemptInner, generationToSql, checked_ok, updateOne_ok_iff, pure_ok] at performed
  obtain ⟨⟨state, notBefore, failure⟩, fields, _, ⟨_, rfl⟩, processes, ⟨row, found, held, written⟩, actions, settled,
    observed, noted, rfl⟩ := performed
  obtain ⟨unleased, paired⟩ := resolutionFields_state fields
  apply Performs.resolves presents about unleased paired found held written settled
  cases progress with
  | none => exact .inl (Except.ok.inj noted).symm
  | some observation => exact .inr ⟨observation, noted⟩

theorem perform_ok {reply : ActorReply} (performed : call.perform store now = .ok (reply, next)) :
    Performs store now call reply next := by
  cases call <;> simp only [ActorCall.perform, resolveMakerActorAttemptWithProgress, checked_ok, pure_ok,
                   Prod.mk.injEq, Prod.exists] at performed
  case registerActor =>
    obtain ⟨_, _, performed, rfl, rfl⟩ := performed
    exact registerMakerActor_ok performed
  case queueManualAction =>
    obtain ⟨_, _, performed, rfl, rfl⟩ := performed
    exact queueMakerActorManualAction_ok performed
  case repinProgram =>
    obtain ⟨_, _, performed, rfl, rfl⟩ := performed
    exact repinMakerActorProgram_ok performed
  case claimActor =>
    obtain ⟨_, _, performed, rfl, rfl⟩ := performed
    exact claimMakerActor_ok performed
  case claimManualAction =>
    obtain ⟨_, _, performed, rfl, rfl⟩ := performed
    exact claimMakerActorManualAction_ok performed
  case recordChild =>
    obtain ⟨_, performed, rfl, rfl⟩ := performed
    exact recordMakerActorChild_ok performed
  case clearChild =>
    obtain ⟨_, performed, rfl, rfl⟩ := performed
    exact clearMakerActorChild_ok performed
  case resolveAttempt =>
    obtain ⟨_, performed, rfl, rfl⟩ := performed
    exact resolveMakerActorAttemptInner_ok rfl rfl performed
  case resolveAttemptWithProgress =>
    obtain ⟨_, ⟨_, performed⟩, rfl, rfl⟩ := performed
    exact resolveMakerActorAttemptInner_ok rfl rfl performed
  case recoverAbandoned =>
    obtain ⟨_, _, performed, rfl, rfl⟩ := performed
    exact recoverAbandonedMakerActor_ok performed

end Effects

section Fencing

variable {requestId : RequestId}

/-- An open action belongs to a known process and was requested at one of its generations; a leased
    one is attached to the lease the process is under. -/
def Attached (process : Option MakerActorProcessRecordV1) (action : MakerActorManualActionSnapshot) : Prop :=
  action.isOpen = true → ∃ row, process = some row ∧
    action.requestedAfterGeneration ≤ row.leaseGeneration ∧
    (action.state = .leased → row.scheduleState = .leased ∧ row.leaseOwner = action.leaseOwner ∧
      some row.leaseGeneration = action.leaseGeneration)

/-- What the rows of a scheduler agree on between two calls. -/
structure Fenced (store : ActorStore) (clock : Nat) : Prop where
  created : ∀ swapId row, store.processes.find? swapId = some row → row.createdAt ≤ timeToSql clock
  requested : ∀ requestId action, store.actions.find? requestId = some action →
    action.createdAt ≤ timeToSql clock
  positive : ∀ swapId row, store.processes.find? swapId = some row → row.scheduleState = .leased →
    0 < row.leaseGeneration
  attached : ∀ requestId action, store.actions.find? requestId = some action →
    Attached (store.processes.find? action.swapId) action
  observed : ∀ swapId snapshot, store.progress.find? swapId = some snapshot →
    ∃ row, store.processes.find? swapId = some row ∧ snapshot.sourceGeneration ≤ row.leaseGeneration

theorem timeToSql_mono (later : clock ≤ now) : timeToSql clock ≤ timeToSql now := by
  unfold timeToSql
  omega

theorem Fenced.later (fenced : Fenced store clock) (later : clock ≤ now) : Fenced store now where
  created swapId row found := Nat.le_trans (fenced.created swapId row found) (timeToSql_mono later)
  requested requestId action found :=
    Nat.le_trans (fenced.requested requestId action found) (timeToSql_mono later)
  positive := fenced.positive
  attached := fenced.attached
  observed := fenced.observed

theorem Fenced.open_attached (fenced : Fenced store clock) (found : store.processes.find? swapId = some row)
    (opened : openManualAction store.actions swapId = some action) :
    action.requestedAfterGeneration ≤ row.leaseGeneration ∧
    (action.state = .leased → row.scheduleState = .leased ∧ row.leaseOwner = action.leaseOwner ∧
      some row.leaseGeneration = action.leaseGeneration) := by
  obtain ⟨stored, same, isOpen⟩ := openManualAction_some opened
  obtain ⟨process, sameProcess, agrees⟩ := fenced.attached _ action stored isOpen
  rw [same, found] at sameProcess
  cases sameProcess
  exact agrees

variable {changed : MakerActorProcessRecordV1} {processes : Table makerActorProcesses}
  {mutations : Table makerApplicationMutations}

/-- What becomes of the owner's actions beside a change of their process row: the open one of the swap
    stays or is rewritten, and agrees with the new row either way. -/
inductive Follows (store : ActorStore) (swapId : SwapId) (changed : MakerActorProcessRecordV1) :
    Table makerActorManualActions → Prop
  | stays (agrees : ∀ action, openManualAction store.actions swapId = some action →
      Attached (some changed) action) : Follows store swapId changed store.actions
  | moves {action moved : MakerActorManualActionSnapshot} {actions : Table makerActorManualActions}
      (opened : openManualAction store.actions swapId = some action)
      (written : store.actions.write moved = some actions) (same : moved.requestId = action.requestId)
      (sameSwap : moved.swapId = action.swapId) (created : moved.createdAt = action.createdAt)
      (agrees : Attached (some changed) moved) : Follows store swapId changed actions

variable {actions : Table makerActorManualActions}

theorem Follows.attached (follows : Follows store swapId changed actions)
    (located : actions.find? requestId = some action) :
    (∃ old, store.actions.find? requestId = some old ∧ action.createdAt = old.createdAt ∧
      (action.swapId ≠ swapId → action = old)) ∧
    (action.swapId = swapId → Attached (some changed) action) := by
  cases follows with
  | stays agrees =>
    refine ⟨⟨action, located, rfl, fun _ => rfl⟩, fun own isOpen => ?_⟩
    exact agrees action (openManualAction_of_open located own isOpen) isOpen
  | @moves opening moved _ opened written same sameSwap created agrees =>
    obtain ⟨stored, own, _⟩ := openManualAction_some opened
    rw [action_puts stored written same] at located
    split at located
    · rename_i sameKey
      cases located
      rw [sameKey]
      exact ⟨⟨opening, stored, created, fun foreign => absurd (sameSwap.trans own) foreign⟩, fun _ => agrees⟩
    · rename_i different
      refine ⟨⟨action, located, rfl, fun _ => rfl⟩, fun ownToo isOpen => ?_⟩
      have both := openManualAction_of_open located ownToo isOpen
      rw [opened] at both
      cases both
      exact absurd (Table.find?_key located).symm different

theorem Fenced.put_process (fenced : Fenced store clock) (puts : store.processes.Puts processes swapId changed)
    (created : changed.createdAt ≤ timeToSql clock)
    (grows : ∀ row, store.processes.find? swapId = some row → row.leaseGeneration ≤ changed.leaseGeneration)
    (positive : changed.scheduleState = .leased → 0 < changed.leaseGeneration)
    (follows : Follows store swapId changed actions) :
    Fenced { store with processes, mutations, actions } clock := by
  refine ⟨puts.forall fenced.created created, ?_, puts.forall fenced.positive positive, ?_, ?_⟩
  · intro requestId action located
    obtain ⟨⟨old, stored, sameCreated, _⟩, _⟩ := follows.attached located
    rw [sameCreated]
    exact fenced.requested requestId old stored
  · intro requestId action located
    obtain ⟨⟨old, stored, _, unmoved⟩, own⟩ := follows.attached located
    show Attached (processes.find? action.swapId) action
    rw [puts]
    split
    · rename_i ownSwap
      exact own ownSwap
    · rename_i foreign
      rw [unmoved foreign]
      exact fenced.attached requestId old stored
  · intro key snapshot noted
    obtain ⟨process, located, within⟩ := fenced.observed key snapshot noted
    show ∃ process, processes.find? key = some process ∧ snapshot.sourceGeneration ≤ process.leaseGeneration
    rw [puts]
    split
    · rename_i own
      rw [own] at located
      exact ⟨changed, rfl, Nat.le_trans within (grows process located)⟩
    · exact ⟨process, located, within⟩

section Rewrite

variable (fenced : Fenced store clock) (found : store.processes.find? swapId = some row)
  (written : store.processes.write changed = some processes) (same : changed.swapId = row.swapId)
  (created : changed.createdAt = row.createdAt) (grows : row.leaseGeneration ≤ changed.leaseGeneration)
  (positive : changed.scheduleState = .leased → 0 < changed.leaseGeneration)
include fenced found written same created grows positive

theorem Fenced.rewrite (follows : Follows store swapId changed actions) :
    Fenced { store with processes, mutations, actions } clock := by
  apply fenced.put_process (process_puts found written same) _ _ positive follows
  · rw [created]
    exact fenced.created swapId row found
  · intro old located
    rw [found] at located
    cases located
    exact grows

theorem Fenced.rewrite_kept
    (kept : row.scheduleState = .leased → changed.scheduleState = .leased ∧
      changed.leaseOwner = row.leaseOwner ∧ changed.leaseGeneration = row.leaseGeneration) :
    Fenced { store with processes, mutations } clock := by
  apply fenced.rewrite found written same created grows positive
  apply Follows.stays
  intro action opened _
  obtain ⟨asked, leased⟩ := fenced.open_attached found opened
  refine ⟨changed, rfl, Nat.le_trans asked grows, fun attachedNow => ?_⟩
  obtain ⟨running, sameOwner, sameGeneration⟩ := leased attachedNow
  obtain ⟨stillLeased, ownerKept, generationKept⟩ := kept running
  rw [generationKept]
  exact ⟨stillLeased, ownerKept.trans sameOwner, sameGeneration⟩

end Rewrite

theorem Fenced.put_action (fenced : Fenced store clock)
    (puts : store.actions.Puts actions requestId action) (created : action.createdAt ≤ timeToSql clock)
    (attached : Attached (store.processes.find? action.swapId) action) : Fenced { store with actions } clock :=
  ⟨fenced.created, puts.forall fenced.requested created, fenced.positive,
    puts.forall fenced.attached attached, fenced.observed⟩

end Fencing

section Steps

theorem heldBy_iff {owner : MakerActorLeaseOwner} {generation : Nat} : row.heldBy owner generation = true ↔
    row.scheduleState = .leased ∧ row.leaseOwner = some owner ∧ row.leaseGeneration = generation := by
  simp only [MakerActorProcessRecordV1.heldBy, Bool.and_eq_true, decide_eq_true_eq, and_assoc]

variable {lease : MakerActorLeaseV1}

theorem Fenced.observe {observed : Table makerActorProgress} {observation : MakerActorProgressObservationV1}
    (fenced : Fenced store clock) (found : store.processes.find? lease.record.swapId = some row)
    (reached : lease.generation ≤ row.leaseGeneration)
    (noted : upsertActorProgress store.progress lease observation (timeToSql now) = .ok observed) :
    Fenced { store with progress := observed } clock :=
  ⟨fenced.created, fenced.requested, fenced.positive, fenced.attached,
    (upsertActorProgress_ok noted).forall fenced.observed ⟨row, found, reached⟩⟩

theorem Performs.fenced {call : ActorCall} {reply : ActorReply} (fenced : Fenced store now)
    (performs : Performs store now call reply next) : Fenced next now := by
  cases performs with
  | unchanged | looks => exact fenced
  | @registers row processes _ inserted created queued =>
    -- An action without a process is closed, so a process may be registered under its swap.
    have fresh : store.processes.find? row.swapId = none := (Table.insert_fresh inserted).1
    apply fenced.put_process (Table.insert_puts inserted) (Nat.le_of_eq created)
    · intro old present
      cases fresh.symm.trans present
    · intro leased
      cases queued.symm.trans leased
    · apply Follows.stays
      intro action opened isOpen
      obtain ⟨stored, own, _⟩ := openManualAction_some opened
      obtain ⟨process, present, _⟩ := fenced.attached _ action stored isOpen
      rw [own] at present
      cases fresh.symm.trans present
  | @asks _ _ _ _ _ row action _ _ _ found _ _ inserted own queued created asked requeued =>
    have attached : Attached (store.processes.find? action.swapId) action := by
      intro _
      refine ⟨row, by rw [own]; exact found, Nat.le_of_eq asked, fun leased => ?_⟩
      cases queued.symm.trans leased
    have admitted := fenced.put_action (Table.insert_puts inserted) (Nat.le_of_eq created) attached
    rcases requeued with ⟨_, rfl⟩ | ⟨unleased, written⟩
    · exact ⟨admitted.created, admitted.requested, admitted.positive, admitted.attached, admitted.observed⟩
    · exact admitted.rewrite_kept found written rfl rfl (Nat.le_refl _) nofun
        fun leased => absurd leased unleased
  | repins found waits written =>
    apply fenced.rewrite_kept found written rfl rfl (Nat.le_refl _) nofun
    intro leased
    rw [leased] at waits
    cases waits
  | claims found due written =>
    apply fenced.rewrite_kept found written rfl rfl (Nat.le_succ _) fun _ => Nat.succ_pos _
    intro leased
    rw [leased] at due
    rcases due with due | due <;> cases due
  | @attaches _ row action _ found held opened earlier written =>
    obtain ⟨leased, owned, generation⟩ := heldBy_iff.mp held
    obtain ⟨stored, own, _⟩ := openManualAction_some opened
    apply fenced.put_action (action_puts stored written rfl) (fenced.requested _ action stored)
    intro _
    rw [← own] at found
    refine ⟨row, found, ?_, fun _ => ⟨leased, owned, congrArg some generation⟩⟩
    rw [generation]
    exact Nat.le_of_lt earlier
  | @watches _ _ row _ _ _ _ found _ written =>
    exact fenced.rewrite_kept found written rfl rfl (Nat.le_refl _)
      (fun leased => fenced.positive _ row found leased) fun leased => ⟨leased, rfl, rfl⟩
  | @recovers lease _ _ row _ _ found held written transferred =>
    -- The process row and the action it holds move to the new owner together.
    obtain ⟨leased, _, generation⟩ := heldBy_iff.mp held
    have grows : row.leaseGeneration ≤ lease.generation + 1 := by omega
    apply fenced.rewrite found written rfl rfl grows fun _ => Nat.succ_pos _
    rcases transferManualAction_ok transferred with ⟨queued, rfl⟩ | ⟨action, opened, _, moved⟩
    · apply Follows.stays
      intro action opened _
      obtain ⟨asked, _⟩ := fenced.open_attached found opened
      refine ⟨_, rfl, Nat.le_trans asked grows, fun attachedNow => ?_⟩
      cases (queued action opened).symm.trans attachedNow
    · apply Follows.moves opened moved rfl rfl rfl
      intro _
      obtain ⟨asked, _⟩ := fenced.open_attached found opened
      exact ⟨_, rfl, Nat.le_trans asked grows, fun _ => ⟨leased, rfl, rfl⟩⟩
  | @resolves _ lease row resolution state notBefore failure processes actions _ _ _ unleased _ found held written
      settled noted =>
    -- The lease is dropped and the action that held it settled, so no action is left attached.
    obtain ⟨_, _, generation⟩ := heldBy_iff.mp held
    have follows : Follows store lease.record.swapId
        (row.release state notBefore failure (timeToSql now)) actions := by
      rcases settleManualAction_ok settled with ⟨queued, rfl⟩ |
        ⟨action, after, opened, moved, sameKey, sameSwap, created, reached, sameAsked⟩
      · apply Follows.stays
        intro action opened _
        obtain ⟨asked, _⟩ := fenced.open_attached found opened
        refine ⟨_, rfl, asked, fun attachedNow => ?_⟩
        cases (queued action opened).1.symm.trans attachedNow
      · apply Follows.moves opened moved sameKey sameSwap created
        intro _
        obtain ⟨asked, _⟩ := fenced.open_attached found opened
        refine ⟨_, rfl, ?_, fun attachedNow =>
          absurd (reached.symm.trans attachedNow) resolution.manualState_ne_leased⟩
        rw [sameAsked]
        exact asked
    have released : Fenced { store with processes, actions } now :=
      fenced.rewrite found written rfl rfl (Nat.le_refl _) (fun leased => absurd leased unleased) follows
    rcases noted with rfl | ⟨observation, noted⟩
    · exact released
    · exact released.observe (process_puts found written rfl).self (Nat.le_of_eq generation.symm) noted

end Steps

section Runs

structure TimedCall where
  now : Nat
  call : ActorCall

def TimedCall.perform (store : ActorStore) (timed : TimedCall) : ActorResult (ActorReply × ActorStore) :=
  timed.call.perform store timed.now

structure Scheduler where
  store : ActorStore
  clock : Nat

/-- One call on any connection, at a time that does not run back. -/
def Scheduler.Step (scheduler : Scheduler) (event : TimedCall × Option (ActorResult ActorReply))
    (next : Scheduler) : Prop :=
  scheduler.clock ≤ event.1.now ∧ Served TimedCall.perform scheduler.store event next.store ∧
    next.clock = event.1.now

/-- No actor is registered yet; the swaps and the log of other requests are whatever they are. -/
def ActorStore.Idle (store : ActorStore) : Prop :=
  store.processes = .empty ∧ store.actions = .empty ∧ store.progress = .empty

variable {start scheduler : Scheduler} {history : List (TimedCall × Option (ActorResult ActorReply))}

theorem idle_fenced (idle : store.Idle) : Fenced store clock := by
  obtain ⟨processes, actions, progress⟩ := idle
  constructor <;> intro _ _ found <;> simp only [processes, actions, progress] at found <;> cases found

def Scheduler.Fenced (scheduler : Scheduler) : Prop := Maker.Fenced scheduler.store scheduler.clock

theorem step_fenced {event : TimedCall × Option (ActorResult ActorReply)} {after : Scheduler}
    (fenced : scheduler.Fenced) (step : scheduler.Step event after) : after.Fenced := by
  obtain ⟨later, served, clock⟩ := step
  unfold Scheduler.Fenced
  rw [clock]
  have fenced : Fenced scheduler.store event.1.now := Fenced.later fenced later
  rcases served.cases_db with same | ⟨reply, performed, _⟩
  · rw [same]
    exact fenced
  · exact (perform_ok performed).fenced fenced

theorem run_fenced (idle : start.store.Idle) (run : Run Scheduler.Step start history scheduler) :
    scheduler.Fenced :=
  run.invariant (idle_fenced idle) fun _ _ _ => step_fenced

end Runs

section Resolution

variable {lease : MakerActorLeaseV1}

/-- No action of the owner still waits from before the lease. -/
def Settles (store : ActorStore) (lease : MakerActorLeaseV1) : Prop :=
  ∀ action, openManualAction store.actions lease.record.swapId = some action → action.state = .queued →
    lease.generation ≤ action.requestedAfterGeneration

theorem release_isSome {state : MakerActorScheduleState} (fenced : Fenced store now)
    (found : store.processes.find? swapId = some row) (unleased : state ≠ .leased) (notBefore : Nat)
    (failure : Option String) :
    ∃ processes, store.processes.write (row.release state (timeToSql notBefore) failure (timeToSql now)) =
      some processes := by
  rw [← Option.isSome_iff_exists]
  apply Table.write_isSome
  have check := Table.find?_check found
  have created := fenced.created swapId row found
  have bounded : timeToSql notBefore ≤ i64Max := Nat.min_le_right notBefore i64Max
  have present : store.processes.find? (makerActorProcesses.key
      (row.release state (timeToSql notBefore) failure (timeToSql now))) = some row := by
    show store.processes.find? row.swapId = some row
    rw [process_key found]
    exact found
  apply Table.fits_of_kept present
  · simp only [makerActorProcesses, Bool.and_eq_true, decide_eq_true_eq] at check
    simp [makerActorProcesses, MakerActorProcessRecordV1.release, MakerActorProcessRecordV1.shaped, bounded,
      created, unleased, check.1.1.1.1.1.2, check.1.1.1.1.2]
  · exact fun other => ⟨rfl, rfl⟩

theorem settle_isSome (changed : MakerActorManualActionSnapshot)
    (stored : store.actions.find? action.requestId = some action) (same : changed.requestId = action.requestId)
    (sameSwap : changed.swapId = action.swapId) (wasOpen : action.isOpen = true)
    (dated : changed.createdAt ≤ changed.updatedAt) (unleased : changed.state ≠ .leased)
    (owner : changed.leaseOwner = none) (generation : changed.leaseGeneration = none) :
    ∃ actions, store.actions.write changed = some actions := by
  rw [← Option.isSome_iff_exists]
  apply Table.write_isSome
  have present : store.actions.find? changed.requestId = some action := by
    rw [same]
    exact stored
  apply Table.fits_of_looser present
  · simp [makerActorManualActions, dated, unleased, owner, generation]
  · intro other
    simp only [makerActorManualActions, sameSwap, wasOpen, Bool.not_true, Bool.or_false, Bool.or_eq_true]
    grind

theorem lease_generation_bounded (found : store.processes.find? lease.record.swapId = some row)
    (held : row.heldBy lease.owner lease.generation = true) : lease.generation ≤ i64Max := by
  rw [← (heldBy_iff.mp held).2.2]
  exact (process_check found).1

section Held

variable (fenced : Fenced store now)
  (found : store.processes.find? lease.record.swapId = some row)
  (held : row.heldBy lease.owner lease.generation = true) {progress : Option MakerActorProgressObservationV1}
  {config : MakerActorSupervisorConfig} {attempt : ClaimedAttempt}
include fenced found held

theorem settleManualAction_succeeds {manualState : MakerActorManualActionState} (settles : Settles store lease)
    (chosen : manualState = .queued ∨ manualState = .failed) :
    ∃ actions, settleManualAction store.actions lease manualState (timeToSql now) = .ok actions := by
  obtain ⟨_, owned, generation⟩ := heldBy_iff.mp held
  simp only [settleManualAction, loadOpenManualAction_eq, ok_bind]
  cases opened : openManualAction store.actions lease.record.swapId with
  | none => exact ⟨_, rfl⟩
  | some action =>
    obtain ⟨stored, _, isOpen⟩ := openManualAction_some opened
    obtain ⟨asked, leased⟩ := fenced.open_attached found opened
    have dated := fenced.requested _ action stored
    cases state : action.state with
    | queued =>
      have current : action.requestedAfterGeneration = lease.generation := by
        have waits := settles action opened state
        omega
      simp only [state, ensure_ok current, ok_bind]
      rcases chosen with rfl | rfl
      · exact ⟨_, rfl⟩
      · have unleased := action_unleased stored (by rw [state]; nofun)
        obtain ⟨actions, written⟩ := settle_isSome { action with state := .failed, updatedAt := timeToSql now }
          stored rfl rfl isOpen dated nofun unleased.1 unleased.2
        exact ⟨actions, updateOne_ok_iff.mpr ⟨action, stored, by simp [state], written⟩⟩
    | leased =>
      obtain ⟨_, sameOwner, sameGeneration⟩ := leased state
      have attached : action.heldBy lease.owner lease.generation = true := by
        simp [MakerActorManualActionSnapshot.heldBy, state, ← sameOwner, owned, ← sameGeneration, generation]
      have bounded := lease_generation_bounded found held
      have unleased : manualState ≠ .leased := by
        rcases chosen with rfl | rfl <;> exact nofun
      obtain ⟨actions, written⟩ := settle_isSome (action.settle manualState (timeToSql now)) stored rfl rfl isOpen
        dated unleased rfl rfl
      simp only [state, ensure_ok attached, generationToSql, ensure_ok bounded, ok_bind]
      exact ⟨actions, updateOne_ok_iff.mpr ⟨action, stored, attached, written⟩⟩
    | completed | failed => simp [MakerActorManualActionSnapshot.isOpen, state] at isOpen

theorem upsertActorProgress_succeeds (observation : MakerActorProgressObservationV1) :
    ∃ progress, upsertActorProgress store.progress lease observation (timeToSql now) = .ok progress := by
  obtain ⟨leased, _, generation⟩ := heldBy_iff.mp held
  have bounded := lease_generation_bounded found held
  have positive : 0 < lease.generation := by
    rw [← generation]
    exact fenced.positive _ row found leased
  simp only [upsertActorProgress, generationToSql, ensure_ok bounded, ok_bind]
  have fits : store.progress.fits ⟨lease.record.swapId, lease.record.manifest.kind, lease.generation, observation,
      timeToSql now⟩ = true := by
    rw [Table.fits_iff]
    exact ⟨decide_eq_true positive, fun _ _ _ => ⟨rfl, rfl⟩⟩
  cases noted : store.progress.find? lease.record.swapId with
  | none =>
    obtain ⟨progress, inserted⟩ := Option.isSome_iff_exists.mp (Table.insert_isSome noted fits)
    exact ⟨progress, required_ok_iff.mpr inserted⟩
  | some old =>
    obtain ⟨process, located, within⟩ := fenced.observed _ old noted
    rw [found] at located
    cases located
    rw [generation] at within
    obtain ⟨progress, written⟩ := Option.isSome_iff_exists.mp (Table.write_isSome fits)
    simp only [pure, Except.pure, ok_bind, ensure_ok within]
    exact ⟨progress, required_ok_iff.mpr written⟩

omit fenced found held in
theorem resolutionFields_durable (config : MakerActorSupervisorConfig) (now : Nat) (attempt : ClaimedAttempt)
    (automatic : attempt ≠ .manualActionCompleted) :
    ∃ state notBefore failure,
      resolutionFields (attempt.durable config now) = .ok (state, notBefore, failure) ∧
      ((attempt.durable config now).manualState = .queued ∨ (attempt.durable config now).manualState = .failed) := by
  cases attempt with
  | requeue | blocked => exact ⟨_, _, _, rfl, .inl rfl⟩
  | backoff failureClass =>
    simp only [ClaimedAttempt.durable, resolutionFields, validateFailureClass, ensure_ok failureClass.text_valid,
      ok_bind]
    exact ⟨_, _, _, rfl, .inl rfl⟩
  | terminal => exact ⟨_, _, _, rfl, .inr rfl⟩
  | manualActionCompleted => exact absurd rfl automatic
  | failed failureClass =>
    simp only [ClaimedAttempt.durable, resolutionFields, validateFailureClass, ensure_ok failureClass.text_valid,
      ok_bind]
    exact ⟨_, _, _, rfl, .inr rfl⟩

def Unleased (store : ActorStore) (swapId : SwapId) : Prop :=
  ∃ row, store.processes.find? swapId = some row ∧ row.scheduleState ≠ .leased ∧ row.leaseOwner = none

theorem release_succeeds {state : MakerActorScheduleState} (unleased : state ≠ .leased) (notBefore : Nat)
    (failure : Option String) :
    ∃ processes, updateOne store.processes lease.record.swapId (·.heldBy lease.owner lease.generation)
      (·.release state (timeToSql notBefore) failure (timeToSql now)) .leaseConflict = .ok processes ∧
      processes.find? lease.record.swapId =
        some (row.release state (timeToSql notBefore) failure (timeToSql now)) := by
  obtain ⟨processes, written⟩ := release_isSome fenced found unleased notBefore failure
  exact ⟨processes, updateOne_ok_iff.mpr ⟨row, found, held, written⟩, (process_puts found written rfl).self⟩

theorem resolve_succeeds (settles : Settles store lease) (automatic : attempt ≠ .manualActionCompleted) :
    ∃ next, resolveMakerActorAttemptInner store lease (attempt.durable config now) progress now = .ok next ∧
      Unleased next lease.record.swapId := by
  obtain ⟨state, notBefore, failure, fields, chosen⟩ := resolutionFields_durable config now attempt automatic
  have unleased := (resolutionFields_state fields).1
  have bounded := lease_generation_bounded found held
  obtain ⟨processes, released, located⟩ := release_succeeds fenced found held unleased notBefore failure
  obtain ⟨actions, settled⟩ := settleManualAction_succeeds fenced found held settles chosen
  simp only [resolveMakerActorAttemptInner, fields, generationToSql, ensure_ok bounded, ok_bind, pure, Except.pure,
    released, settled]
  cases progress with
  | none => exact ⟨_, rfl, _, located, unleased, rfl⟩
  | some observation =>
    obtain ⟨observed, noted⟩ := upsertActorProgress_succeeds fenced found held observation
    simp only [noted, ok_bind]
    exact ⟨_, rfl, _, located, unleased, rfl⟩

/-- An action that waits from before the lease makes every resolution a conflict. -/
theorem resolve_conflicts (automatic : attempt ≠ .manualActionCompleted)
    (opened : openManualAction store.actions lease.record.swapId = some action) (queued : action.state = .queued)
    (waits : action.requestedAfterGeneration < lease.generation) :
    resolveMakerActorAttemptInner store lease (attempt.durable config now) progress now =
      .error .leaseConflict := by
  obtain ⟨state, notBefore, failure, fields, _⟩ := resolutionFields_durable config now attempt automatic
  have bounded := lease_generation_bounded found held
  obtain ⟨processes, released, _⟩ :=
    release_succeeds fenced found held (resolutionFields_state fields).1 notBefore failure
  have earlier : ¬action.requestedAfterGeneration = lease.generation := Nat.ne_of_lt waits
  simp only [resolveMakerActorAttemptInner, fields, generationToSql, ensure_ok bounded, ok_bind, pure, Except.pure,
    released, settleManualAction, loadOpenManualAction_eq, opened, queued, ensure_error earlier]
  rfl

end Held

end Resolution

section Attempts

variable {start scheduler : Scheduler} {history : List (TimedCall × Option (ActorResult ActorReply))}
  {lease : MakerActorLeaseV1}

theorem resolveClaimedAttempt_eq {config : MakerActorSupervisorConfig} {claimed : ClaimedAttemptResult}
    (valid : ∀ observation ∈ claimed.progress, observation.validate = .ok ()) :
    resolveClaimedAttempt store lease now config claimed =
      resolveMakerActorAttemptInner store lease (claimed.attempt.durable config now) claimed.progress now := by
  unfold resolveClaimedAttempt
  cases noted : claimed.progress with
  | none => rfl
  | some observation =>
    have checked := valid observation noted
    simp only [resolveMakerActorAttemptWithProgress, checked]
    rfl

/-- The holder of a lease can resolve its attempt exactly where no action of the owner still waits
    from before the lease. -/
theorem claimed_attempt_resolves_iff (idle : start.store.Idle) (run : Run Scheduler.Step start history scheduler)
    (found : scheduler.store.processes.find? lease.record.swapId = some row)
    (held : row.heldBy lease.owner lease.generation = true) (later : scheduler.clock ≤ now)
    (config : MakerActorSupervisorConfig) (claimed : ClaimedAttemptResult)
    (automatic : claimed.attempt ≠ .manualActionCompleted)
    (valid : ∀ observation ∈ claimed.progress, observation.validate = .ok ()) :
    (∃ next, resolveClaimedAttempt scheduler.store lease now config claimed = .ok next ∧
      Unleased next lease.record.swapId) ↔ Settles scheduler.store lease := by
  have fenced : Fenced scheduler.store now := (run_fenced idle run).later later
  rw [resolveClaimedAttempt_eq valid]
  constructor
  · rintro ⟨next, resolved, _⟩ action opened queued
    apply Nat.le_of_not_lt
    intro waits
    rw [resolve_conflicts fenced found held automatic opened queued waits] at resolved
    cases resolved
  · intro settles
    exact resolve_succeeds fenced found held settles automatic

end Attempts

section Samples

def sampleSwap : SwapCoordinator :=
  .new ⟨"swap-0001", by decide⟩ .bitcoin ⟨2, Nat.two_pos⟩
    ⟨.deadline ⟨.lez, .timestamp, 2000⟩, ⟨.bitcoin, .blockHeight, 900⟩, none⟩

def sampleManifest : MakerActorManifestV1 where
  swapId := sampleSwap.id
  kind := .bitcoin
  configPath := ⟨["maker", "config.json"], by decide, by decide⟩
  configSha256 := 1
  programPath := ⟨["usr", "actor"], by decide, by decide⟩
  programSha256 := 2
  stateDatabasePath := ⟨["maker", "state.sqlite"], by decide, by decide⟩
  distinct := by decide

def sampleOwner : MakerActorLeaseOwner := ⟨7, by decide⟩

def sampleStart : Scheduler where
  store := ⟨⟨[sampleSwap], by simp, fun _ _ => rfl, fun _ _ _ _ _ => rfl⟩, .empty, .empty, .empty, .empty⟩
  clock := 100

def Scheduler.advance (scheduler : Scheduler) (input : Nat × ActorCall) :
    Scheduler × (TimedCall × Option (ActorResult ActorReply)) :=
  let served := serve TimedCall.perform scheduler.store ⟨scheduler.clock + input.1, input.2⟩
  (⟨served.1, scheduler.clock + input.1⟩, served.2)

theorem advance_step (scheduler : Scheduler) (input : Nat × ActorCall) :
    scheduler.Step (scheduler.advance input).2 (scheduler.advance input).1 := by
  have answered : (scheduler.advance input).2.1 = ⟨scheduler.clock + input.1, input.2⟩ := by
    simp only [Scheduler.advance, serve]
    split <;> rfl
  refine ⟨?_, serve_served TimedCall.perform _ _, ?_⟩
  · rw [answered]
    exact Nat.le_add_right _ _
  · rw [answered]
    rfl

def sampleConfig : MakerActorSupervisorConfig := ⟨5, 30⟩

def askedThenLeased : List (Nat × ActorCall) :=
  [(0, .registerActor sampleManifest), (10, .queueManualAction "request-claim-1" sampleSwap.id .claim 0),
    (10, .claimActor sampleSwap.id sampleOwner)]

def sampleRecord (scheduler : Scheduler) (present : (scheduler.store.processes.find? sampleSwap.id).isSome) :
    MakerActorProcessRecordV1 :=
  (scheduler.store.processes.find? sampleSwap.id).get present

def asked : Scheduler := (replay Scheduler.advance sampleStart askedThenLeased).1

def askedLease : MakerActorLeaseV1 := ⟨sampleRecord asked (by decide +kernel), sampleOwner, 1⟩

def lockTaken : AttemptWorld where
  lock := .error .lockUnavailable
  cancelled := false
  effectCutoff := false
  status := .unstarted (.retry .actorSpawnFailed)
  effectCutoffBeforeEffect := false
  effect _ := .unstarted (.retry .actorSpawnFailed)

theorem waiting_action_strands_lease :
    Run Scheduler.Step sampleStart (replay Scheduler.advance sampleStart askedThenLeased).2 asked ∧
      sampleStart.store.Idle ∧
      asked.store.processes.find? sampleSwap.id = some askedLease.record ∧
      askedLease.record.heldBy sampleOwner 1 = true ∧
      (superviseClaimed asked.store askedLease asked.clock sampleConfig lockTaken).2 = .error .leaseConflict ∧
      (superviseClaimed asked.store askedLease asked.clock sampleConfig lockTaken).1.processes.find?
        sampleSwap.id = some askedLease.record := by
  have run := run_replay advance_step sampleStart askedThenLeased
  have fenced : Fenced asked.store asked.clock := run_fenced ⟨rfl, rfl, rfl⟩ run
  have present : asked.store.processes.find? sampleSwap.id = some askedLease.record :=
    (Option.some_get (by decide +kernel)).symm
  have held : askedLease.record.heldBy sampleOwner 1 = true := by decide +kernel
  have opened := Option.some_get (x := openManualAction asked.store.actions sampleSwap.id) (by decide +kernel)
  have conflict : resolveClaimedAttempt asked.store askedLease asked.clock sampleConfig
      ⟨.backoff .actorLockUnavailable, none⟩ = .error .leaseConflict := by
    rw [resolveClaimedAttempt_eq]
    · apply resolve_conflicts fenced
      · exact present
      · exact held
      · exact nofun
      · exact opened.symm
      · decide +kernel
      · decide +kernel
    · exact nofun
  refine ⟨run, ⟨rfl, rfl, rfl⟩, present, held, ?_⟩
  simp only [superviseClaimed, runClaimedAttempt, lockTaken, conflict]
  exact ⟨trivial, present⟩

def attached : Scheduler := (asked.advance (0, .claimManualAction askedLease)).1

def attachedLease : MakerActorLeaseV1 := ⟨sampleRecord attached (by decide +kernel), sampleOwner, 1⟩

theorem claimed_attempt_resolves_iff_sample : (openManualAction attached.store.actions sampleSwap.id).isSome ∧
      ∃ next, resolveClaimedAttempt attached.store attachedLease attached.clock sampleConfig
        ⟨.backoff .actorTimeout, some .notActivated⟩ = .ok next ∧ Unleased next sampleSwap.id := by
  have run : Run Scheduler.Step sampleStart _ attached :=
    .snoc (run_replay advance_step sampleStart askedThenLeased) (advance_step _ _)
  have opened := Option.some_get (x := openManualAction attached.store.actions sampleSwap.id) (by decide +kernel)
  have settles : Settles attached.store attachedLease := by
    intro action same queued
    have located : openManualAction attached.store.actions sampleSwap.id = some action := same
    rw [← opened, Option.some.injEq] at located
    rw [← located] at queued
    exact absurd queued (by decide +kernel)
  have resolves : (∃ next, resolveClaimedAttempt attached.store attachedLease attached.clock sampleConfig
      ⟨.backoff .actorTimeout, some .notActivated⟩ = .ok next ∧ Unleased next sampleSwap.id) ↔
      Settles attached.store attachedLease := by
    apply claimed_attempt_resolves_iff ⟨rfl, rfl, rfl⟩ run (Option.some_get (by decide +kernel)).symm
      (by decide +kernel) (Nat.le_refl _) sampleConfig
    · exact nofun
    · intro observation noted
      cases noted
      rfl
  exact ⟨by decide +kernel, resolves.mpr settles⟩

end Samples

end AtomicSwaps.Maker
