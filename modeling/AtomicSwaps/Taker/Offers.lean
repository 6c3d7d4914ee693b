import Mathlib.Data.Fintype.EquivFin
import AtomicSwaps.Taker.Lifecycle
import AtomicSwaps.Transition.Run

namespace AtomicSwaps.Taker

open AtomicSwaps.Core Fallible Durable TakerFacadeRegistry

namespace TakerFacadeRegistry

variable {registry : TakerFacadeRegistry} {swapId : SwapId} {requestId : RequestId}
  {parent : MonitorInitiationRow} {action : TakerFacadeActionV1} {generation : Nat}

def OneAdmission (registry : TakerFacadeRegistry) : Prop :=
  ∀ swapId, (registry.queryActionRows swapId).length ≤ 1

theorem oneAdmission_empty : empty.OneAdmission := fun _ => Nat.zero_le 1

section Single

variable (single : registry.OneAdmission)
include single

theorem loadValidActionRows_ok (swapId : SwapId) :
    registry.loadValidActionRows swapId = .ok (registry.queryActionRows swapId) :=
  if_neg (Nat.not_lt.mpr (single swapId))

theorem OneAdmission.cases (swapId : SwapId) :
    registry.queryActionRows swapId = [] ∨ ∃ row, registry.queryActionRows swapId = [row] := by
  have bound := single swapId
  match rows : registry.queryActionRows swapId with
  | [] => exact .inl rfl
  | [row] => exact .inr ⟨row, rfl⟩
  | first :: second :: rest =>
    rw [rows] at bound
    simp only [List.length_cons] at bound
    omega

theorem OneAdmission.of_actions {other : TakerFacadeRegistry}
    (same : other.actions = registry.actions) : other.OneAdmission := by
  intro swapId
  unfold queryActionRows
  rw [same]
  exact single swapId

variable {inserted : TakerFacadeRegistry} {row : TakerActionRow}

omit single in
theorem insertAction_ok (accepted : registry.insertAction row = .ok inserted) :
    inserted.actions = registry.actions ++ [row] ∧ inserted.initiations = registry.initiations := by
  unfold insertAction at accepted
  split at accepted
  · cases accepted
    exact ⟨rfl, rfl⟩
  · cases accepted

omit single in
theorem insertInitiation_ok {row : MonitorInitiationRow}
    (accepted : registry.insertInitiation row = .ok inserted) : inserted.actions = registry.actions := by
  unfold insertInitiation at accepted
  split at accepted
  · cases accepted
    rfl
  · cases accepted

theorem OneAdmission.insertAction (free : registry.queryActionRows row.swapId = [])
    (accepted : registry.insertAction row = .ok inserted) : inserted.OneAdmission := by
  intro swapId
  have rows : inserted.queryActionRows swapId =
      registry.queryActionRows swapId ++ [row].filter (·.swapId = swapId) := by
    unfold queryActionRows
    rw [(insertAction_ok accepted).1, List.filter_append]
  rw [rows]
  by_cases same : row.swapId = swapId
  · rw [← same, free]
    simp
  · have others : [row].filter (·.swapId = swapId) = [] := by simp [same]
    rw [others, List.append_nil]
    exact single swapId

theorem OneAdmission.deleteRequest (requestId : RequestId) : (registry.deleteRequest requestId).OneAdmission := by
  intro swapId
  have fewer : ((registry.deleteRequest requestId).queryActionRows swapId).Sublist
      (registry.queryActionRows swapId) := List.filter_sublist.filter _
  exact fewer.length_le.trans (single swapId)

theorem OneAdmission.admitAction
    {admitted : TakerActionAdmissionV1 × TakerFacadeRegistry}
    (accepted : registry.admitAction requestId swapId action generation = .ok admitted) :
    admitted.2.OneAdmission := by
  simp only [TakerFacadeRegistry.admitAction, bind_ok_iff] at accepted
  obtain ⟨replay, -, continued⟩ := accepted
  cases replay with
  | some replay =>
    cases continued
    exact single
  | none =>
    simp only [checked_ok] at continued
    obtain ⟨-, actions, loaded, none, inserted, insertion, returned⟩ := continued
    cases returned
    rw [loadValidActionRows_ok single, Except.ok.injEq] at loaded
    exact single.insertAction (loaded.trans (List.isEmpty_iff.mp none)) insertion

theorem OneAdmission.retireSupersededAction {admission : TakerActionAdmissionV1}
    {retired : Bool × TakerFacadeRegistry}
    (accepted : registry.retireSupersededAction admission = .ok retired) : retired.2.OneAdmission := by
  simp only [TakerFacadeRegistry.retireSupersededAction, bind_ok_iff] at accepted
  obtain ⟨rows, -, continued⟩ := accepted
  split at continued
  · cases continued
    exact single
  · cases continued
    exact single.deleteRequest _

theorem OneAdmission.admitInitiation {facts : TakerInitiationFactsV1} {authority : Bytes32}
    {admitted : Bool × TakerFacadeRegistry}
    (accepted : registry.admitInitiation requestId facts authority = .ok admitted) : admitted.2.OneAdmission := by
  unfold TakerFacadeRegistry.admitInitiation at accepted
  split at accepted
  · simp only [checked_ok] at accepted
    cases accepted.2
    exact single
  · split at accepted
    · simp [bind_ok_iff] at accepted
    · simp only [checked_ok] at accepted
      obtain ⟨-, inserted, insertion, returned⟩ := accepted
      cases returned
      exact single.of_actions (insertInitiation_ok insertion)

def Unused (registry : TakerFacadeRegistry) (requestId : RequestId) : Prop :=
  requestId ∉ registry.requestIds

omit single in
theorem exists_unused (registry : TakerFacadeRegistry) : ∃ requestId, registry.Unused requestId := by
  obtain ⟨requestId, fresh⟩ := Infinite.exists_notMem_finset registry.requestIds.toFinset
  exact ⟨requestId, fun used => fresh (List.mem_toFinset.mpr used)⟩

omit single in
theorem lookupExactAction_unused (unused : registry.Unused requestId) :
    registry.lookupExactAction requestId swapId action generation = .ok none := by
  unfold Unused requestIds at unused
  rw [List.mem_append, not_or] at unused
  obtain ⟨notInitiation, notAction⟩ := unused
  have initiations : registry.initiations.any (·.requestId = requestId) = false := by
    rw [List.any_eq_false]
    intro row listed same
    exact notInitiation (List.mem_map.mpr ⟨row, listed, of_decide_eq_true same⟩)
  have actions : registry.actions.find? (·.requestId = requestId) = none := by
    rw [List.find?_eq_none]
    intro row listed same
    exact notAction (List.mem_map.mpr ⟨row, listed, of_decide_eq_true same⟩)
  unfold lookupExactAction
  rw [initiations, if_neg (by decide), actions]

omit single in
theorem parent_exists (listed : row ∈ registry.actions) :
    ∃ parent, registry.queryMonitorInitiation row.swapId = some parent := by
  obtain ⟨parent, stored, same⟩ := List.mem_map.mp (registry.parents row listed)
  have found : (registry.queryMonitorInitiation row.swapId).isSome := by
    unfold queryMonitorInitiation
    rw [List.find?_isSome]
    exact ⟨parent, stored, by simpa using same⟩
  exact Option.isSome_iff_exists.mp found

theorem lookupExactAction_stored
    (stored : registry.queryActionRows swapId = [row]) :
    registry.lookupExactAction row.requestId swapId row.action row.expectedGeneration =
      .ok (some row.replayed) := by
  have listed : row ∈ registry.queryActionRows swapId := by
    rw [stored]
    exact List.mem_singleton_self row
  obtain ⟨inTable, owned⟩ := List.mem_filter.mp listed
  have owner : row.swapId = swapId := of_decide_eq_true owned
  have keys := List.nodup_append.mp registry.requestKeys
  have initiations : registry.initiations.any (·.requestId = row.requestId) = false := by
    rw [List.any_eq_false]
    intro initiation member same
    exact keys.2.2 _ (List.mem_map_of_mem member) _ (List.mem_map_of_mem inTable)
      (of_decide_eq_true same)
  have found : registry.actions.find? (·.requestId = row.requestId) = some row := by
    have some : (registry.actions.find? (·.requestId = row.requestId)).isSome := by
      rw [List.find?_isSome]
      exact ⟨row, inTable, by simp⟩
    obtain ⟨raw, picked⟩ := Option.isSome_iff_exists.mp some
    have sameId : raw.requestId = row.requestId := by simpa using List.find?_some picked
    rw [picked, List.inj_on_of_nodup_map keys.2.1 (List.mem_of_find?_eq_some picked) inTable sameId]
  obtain ⟨parent, joined⟩ := parent_exists inTable
  rw [owner] at joined
  unfold lookupExactAction
  rw [initiations, if_neg (by decide), found]
  simp only [validateActionParent, joined, loadValidActionRows_ok single, owner, stored, ok_bind]
  simp [owner]

theorem lookupActionForSwap_of_parent
    (joined : registry.queryMonitorInitiation swapId = some parent) :
    registry.lookupActionForSwap swapId =
      .ok ((registry.queryActionRows swapId).head?.map (·.replayed)) := by
  unfold lookupActionForSwap
  rw [joined]
  simp only [loadValidActionRows_ok single, ok_bind]
  rfl

omit single in
theorem admitAction_free (action : TakerFacadeActionV1) (generation : Nat) (single : registry.OneAdmission)
    (unused : registry.Unused requestId) (joined : registry.queryMonitorInitiation swapId = some parent)
    (free : registry.queryActionRows swapId = []) :
    ∃ admitted, registry.admitAction requestId swapId action generation = .ok admitted := by
  have keyed : requestId ∉ registry.requestIds ∧
      swapId ∈ registry.initiations.map (·.facts.swapId) := by
    refine ⟨unused, List.mem_map.mpr ⟨parent, List.mem_of_find?_eq_some joined, ?_⟩⟩
    simpa using List.find?_some joined
  simp only [admitAction, lookupExactAction_unused unused, validateActionParent, joined,
    loadValidActionRows_ok single, free, ok_bind, insertAction, dif_pos keyed]
  exact ⟨_, rfl⟩

theorem retireSupersededAction_stored
    (stored : registry.queryActionRows swapId = [row]) :
    registry.retireSupersededAction row.replayed = .ok (true, registry.deleteRequest row.requestId) ∧
      (registry.deleteRequest row.requestId).queryActionRows swapId = [] := by
  have listed : row ∈ registry.queryActionRows swapId := by
    rw [stored]
    exact List.mem_singleton_self row
  have owner : row.swapId = swapId := of_decide_eq_true (List.mem_filter.mp listed).2
  constructor
  · simp only [retireSupersededAction, TakerActionRow.replayed, owner, loadValidActionRows_ok single,
      stored, ok_bind]
    simp
    rfl
  · have emptied : (registry.queryActionRows swapId).filter (·.requestId ≠ row.requestId) = [] := by
      rw [stored]
      simp
    unfold queryActionRows deleteRequest at *
    simp only [List.filter_filter] at emptied ⊢
    rw [← emptied]
    congr 1
    funext other
    exact Bool.and_comm _ _

end Single

end TakerFacadeRegistry

theorem RouteActor.offered {actor : RouteActor} {phase : Phase} {revision : Nat} {state : TakerSwapStateV1}
    {action : TakerTerminalActionV1} {guidance : Option TakerPrivacyGuidanceV1}
    (offers : actor.status = .active phase revision state (some action) guidance) :
    state ≠ .completed ∧ state ≠ .refunded ∧ phase ≠ .takerLegRefunded := by
  unfold RouteActor.status at offers
  split at offers
  · cases offers
  · cases offers
  · rename_i held _ next
    simp only [LifecycleStatus.active.injEq] at offers
    obtain ⟨rfl, -, shown, given, -⟩ := offers
    cases held <;> simp only [btcActorProgress] at shown given <;> grind
  · rename_i held _ next
    simp only [LifecycleStatus.active.injEq] at offers
    obtain ⟨rfl, -, shown, given, -⟩ := offers
    cases held <;> simp only [zecActorProgress] at shown given <;> grind

namespace TakerNode

variable {node : TakerNode} {swapId : SwapId} {requestId : RequestId} {generation : Nat}
  {action : TakerTerminalActionV1} {reply : ActorReply} {facts : TakerInitiationFactsV1}

/-- The monitored view shows the action as available at this generation. -/
def Offers (node : TakerNode) (swapId : SwapId) (action : TakerTerminalActionV1) (generation : Nat) : Prop :=
  ∃ view, node.projectSwap swapId = .ok view ∧ view.availableAction = some action ∧
    view.progressGeneration = generation

/-- Whatever the actor answers, the uninterrupted call is admitted and invokes the actor's command. -/
def CarriesOut (node : TakerNode) (requestId : RequestId) (swapId : SwapId) (generation : Nat)
    (action : TakerTerminalActionV1) : Prop :=
  ∀ reply, let ended := (terminalAction requestId swapId generation action reply).run none node
    ended.2.commands = node.commands ++ [(swapId, action)] ∧
      ∀ refusal ∈ [ActionError.conflict, .unavailable, .progressChanged],
        ended.1 ≠ .error (.failed refusal)

/-- By a new request at the offered generation, or by the request of the stored admission. -/
def CanCarryOut (node : TakerNode) (swapId : SwapId) (action : TakerTerminalActionV1) (generation : Nat) : Prop :=
  (∀ requestId, node.registry.Unused requestId → node.CarriesOut requestId swapId generation action) ∨
    ∃ row ∈ node.registry.queryActionRows swapId, row.action = facadeAction action ∧
      node.CarriesOut row.requestId swapId row.expectedGeneration action

structure Offered (node : TakerNode) (swapId : SwapId) (action : TakerTerminalActionV1)
    (generation : Nat) (prepared : PreparedTakerInitiationV1) (phase : Phase) : Prop where
  held : node.prepared swapId = some prepared
  resolved : node.resolveActionAuthority swapId = .ok prepared
  joined : ∃ parent, node.registry.queryMonitorInitiation swapId = some parent
  status : ∃ state guidance,
    prepared.actor.status = .active phase generation state (some action) guidance
  notAfter : ∀ row ∈ node.registry.queryActionRows swapId, row.expectedGeneration ≤ generation
  notInProgress : ∀ row ∈ node.registry.queryActionRows swapId,
    row.action = facadeAction action → row.expectedGeneration < generation

theorem viewFromActorStatus_offers {status : LifecycleStatus}
    (offers : (viewFromActorStatus facts status).availableAction = some action) :
    ∃ phase state guidance, status = .active phase (viewFromActorStatus facts status).progressGeneration
      state (some action) guidance := by
  cases status with
  | notActivated => cases offers
  | active phase revision state available guidance =>
    have available : available = some action := offers
    exact ⟨phase, state, guidance, by rw [available]; rfl⟩

theorem overlayAdmittedAction_offers {actor : RouteActor}
    {view : TakerSwapViewV1} {admitted : Option TakerActionAdmissionV1}
    (shown : overlayAdmittedAction (viewFromActorStatus facts actor.status) admitted = .ok view)
    (offers : view.availableAction = some action) :
    view = viewFromActorStatus facts actor.status ∧
      ∀ admission, admitted = some admission →
        admission.requestedAfterGeneration ≤ view.progressGeneration ∧
        (admission.action = facadeAction action →
          admission.requestedAfterGeneration < view.progressGeneration) := by
  cases admitted with
  | none =>
    cases shown
    exact ⟨rfl, nofun⟩
  | some admission =>
    simp only [overlayAdmittedAction] at shown
    split at shown
    · cases shown
    · rename_i notAfter
      split at shown
      · rename_i history
        cases shown
        refine ⟨rfl, ?_⟩
        rintro _ ⟨⟩
        obtain ⟨phase, state, guidance, status⟩ := viewFromActorStatus_offers offers
        obtain ⟨notCompleted, notRefunded, -⟩ := RouteActor.offered status
        refine ⟨by omega, fun same => ?_⟩
        rcases history with passed | ended | ended
        · have later : admission.requestedAfterGeneration ≠
              (viewFromActorStatus facts actor.status).progressGeneration := by
            intro current
            exact passed ⟨current, by rw [offers, same]; rfl⟩
          omega
        · rw [status] at ended
          exact absurd ended notCompleted
        · rw [status] at ended
          exact absurd ended notRefunded
      · cases shown
        cases offers

theorem Offers.offered (single : node.registry.OneAdmission) (offers : node.Offers swapId action generation) :
    ∃ prepared phase, node.Offered swapId action generation prepared phase := by
  obtain ⟨view, shown, available, rfl⟩ := offers
  unfold projectSwap at shown
  split at shown
  · rename_i prepared held
    simp only [bind_ok_iff, mapError_ok_iff] at shown
    obtain ⟨found, looked, continued⟩ := shown
    cases found with
    | none => cases continued
    | some facts =>
      simp only [checked_ok] at continued
      obtain ⟨same, continued⟩ := continued
      split at continued
      · rename_i bound
        simp only [bind_ok_iff, mapError_ok_iff] at continued
        obtain ⟨admitted, stored, overlaid⟩ := continued
        obtain ⟨rfl, history⟩ := overlayAdmittedAction_offers overlaid available
        obtain ⟨phase, state, guidance, status⟩ := viewFromActorStatus_offers available
        have joined : ∃ parent, node.registry.queryMonitorInitiation swapId = some parent := by
          unfold lookupInitiationForMonitor at looked
          split at looked
          · cases looked
          · exact ⟨_, by assumption⟩
        obtain ⟨parent, row⟩ := joined
        rw [lookupActionForSwap_of_parent single row, Except.ok.injEq] at stored
        have past : ∀ row ∈ node.registry.queryActionRows swapId,
            admitted = some row.replayed := by
          intro row listed
          rcases single.cases swapId with free | ⟨only, held⟩
          · rw [free] at listed
            cases listed
          · rw [held] at listed
            rw [← stored, held, List.mem_singleton.mp listed]
            rfl
        refine ⟨prepared, phase, held, ?_, ⟨parent, row⟩, ⟨state, guidance, status⟩,
          fun row listed => (history _ (past row listed)).1,
          fun row listed => (history _ (past row listed)).2⟩
        unfold resolveActionAuthority
        rw [held]
        simp only [looked, Except.mapError, ok_bind, checked_ok]
        exact ⟨same, bound, rfl⟩
      · cases continued
        cases available
  · cases shown

theorem executeTerminalActorCommand_uncut (node : TakerNode) (swapId : SwapId)
    (action : TakerTerminalActionV1) (reply : ActorReply) :
    executeTerminalActorCommand swapId action reply ⟨node, none⟩ =
      (if reply.accepted = true then .ok () else .error (.failed .dependencyUnavailable),
        ⟨node.invoke swapId action reply.after, none⟩) := by
  unfold executeTerminalActorCommand
  rw [Program.bind_run (commit_uncut _ node)]
  by_cases accepted : reply.accepted = true
  · rw [check_ok (ensure_ok_iff.mpr accepted), if_pos accepted]
  · rw [check_error (ensure_error accepted), if_neg accepted]

theorem ends_of_execute {admission : TakerActionAdmissionV1} {reached : TakerNode}
    (comesTo : terminalAction requestId swapId generation action reply ⟨node, none⟩ =
      (do executeTerminalActorCommand swapId action reply
          return actionCommit admission : Durable TakerNode ActionError _) ⟨reached, none⟩)
    (same : reached.commands = node.commands) :
    let ended := (terminalAction requestId swapId generation action reply).run none node
    ended.2.commands = node.commands ++ [(swapId, action)] ∧
      ∀ refusal ∈ [ActionError.conflict, .unavailable, .progressChanged],
        ended.1 ≠ .error (.failed refusal) := by
  have invoked : (reached.invoke swapId action reply.after).commands =
      node.commands ++ [(swapId, action)] := by
    rw [← same]
    rfl
  have executed := executeTerminalActorCommand_uncut reached swapId action reply
  by_cases accepted : reply.accepted = true
  · rw [if_pos accepted] at executed
    rw [Program.bind_run executed] at comesTo
    rw [run_eq comesTo]
    exact ⟨invoked, fun refusal _ => nofun⟩
  · rw [if_neg accepted] at executed
    rw [Program.bind_run_error executed] at comesTo
    rw [run_eq comesTo]
    refine ⟨invoked, fun refusal listed impossible => ?_⟩
    cases impossible
    simp at listed

theorem stored_ok {α : Type} {value : Except TakerFacadeStoreError α} {result : α}
    (checked : value = .ok result) : value.mapError mapActionStoreError = .ok result := by
  rw [checked]
  rfl

theorem admitTerminalAction_uncut (node : TakerNode) {admitted : TakerActionAdmissionV1 × TakerFacadeRegistry}
    (accepted : node.registry.admitAction requestId swapId (facadeAction action) generation = .ok admitted) :
    admitTerminalAction requestId swapId action generation ⟨node, none⟩ =
      (.ok admitted.1, ⟨node.setRegistry admitted.2, none⟩) := by
  unfold admitTerminalAction
  rw [read_bind, Program.bind_run (check_ok (stored_ok accepted) _),
    Program.bind_run (commit_uncut _ node)]
  rfl

section Calls

variable {prepared : PreparedTakerInitiationV1} {phase : Phase} {row : TakerActionRow}
  (offered : node.Offered swapId action generation prepared phase)
include offered

theorem Offered.ensured : ensureOffered prepared.actor.status action generation = .ok () := by
  obtain ⟨state, guidance, status⟩ := offered.status
  rw [status]
  simp [ensureOffered, bind_ok_iff]

theorem Offered.fresh_run (reply : ActorReply) (single : node.registry.OneAdmission)
    (unused : node.registry.Unused requestId) :
    terminalAction requestId swapId generation action reply ⟨node, none⟩ =
      (do let superseded ← check (supersededAdmission
            ((node.registry.queryActionRows swapId).head?.map (·.replayed)) action generation)
          check (ensureOffered prepared.actor.status action generation)
          retireSuperseded superseded
          let admission ← admitTerminalAction requestId swapId action generation
          executeTerminalActorCommand swapId action reply
          return actionCommit admission : Durable TakerNode ActionError _) ⟨node, none⟩ := by
  obtain ⟨parent, joined⟩ := offered.joined
  unfold terminalAction
  rw [read_bind]
  rw [Program.bind_run (check_ok offered.resolved _)]
  rw [Program.bind_run (check_ok (stored_ok
    (lookupExactAction_unused unused)) _)]
  dsimp only
  rw [Program.bind_run (check_ok (stored_ok
    (lookupActionForSwap_of_parent single joined)) _)]

section Unused

variable (single : node.registry.OneAdmission) (unused : node.registry.Unused requestId)
include single unused

theorem Offered.carriesOut_cleared {superseded : Option TakerActionAdmissionV1}
    (decided : supersededAdmission ((node.registry.queryActionRows swapId).head?.map (·.replayed))
      action generation = .ok superseded)
    {registry : TakerFacadeRegistry}
    (retired : retireSuperseded superseded ⟨node, none⟩ = (.ok (), ⟨node.setRegistry registry, none⟩))
    {admitted : TakerActionAdmissionV1 × TakerFacadeRegistry}
    (accepted : registry.admitAction requestId swapId (facadeAction action) generation =
      .ok admitted) :
    node.CarriesOut requestId swapId generation action := by
  intro reply
  have admission := admitTerminalAction_uncut (node.setRegistry registry) accepted
  have comesTo := offered.fresh_run reply single unused
  rw [Program.bind_run (check_ok decided _), Program.bind_run (check_ok offered.ensured _),
    Program.bind_run retired, Program.bind_run admission] at comesTo
  exact ends_of_execute comesTo rfl

theorem Offered.carriesOut_free (free : node.registry.queryActionRows swapId = []) :
    node.CarriesOut requestId swapId generation action := by
  obtain ⟨parent, joined⟩ := offered.joined
  obtain ⟨admitted, accepted⟩ :=
    admitAction_free (facadeAction action) generation single unused joined free
  have decided : supersededAdmission ((node.registry.queryActionRows swapId).head?.map (·.replayed))
      action generation = .ok none := by
    rw [free]
    rfl
  exact offered.carriesOut_cleared single unused decided rfl accepted

theorem Offered.carriesOut_superseding (stored : node.registry.queryActionRows swapId = [row])
    (other : row.action ≠ facadeAction action) (earlier : row.expectedGeneration < generation) :
    node.CarriesOut requestId swapId generation action := by
  obtain ⟨parent, joined⟩ := offered.joined
  obtain ⟨retired, freed⟩ := retireSupersededAction_stored single stored
  have decided : supersededAdmission ((node.registry.queryActionRows swapId).head?.map (·.replayed))
      action generation = .ok (some row.replayed) := by
    rw [stored]
    exact if_pos ⟨other, earlier⟩
  have unusedStill : (node.registry.deleteRequest row.requestId).Unused requestId := by
    intro used
    exact unused (((List.Sublist.refl _).append (List.filter_sublist.map _)).subset used)
  obtain ⟨admitted, accepted⟩ := admitAction_free (facadeAction action)
    generation (single.deleteRequest row.requestId) unusedStill joined freed
  refine offered.carriesOut_cleared single unused decided ?_ accepted
  simp only [retireSuperseded]
  rw [read_bind, Program.bind_run (check_ok (stored_ok retired) _)]
  rfl

theorem Offered.fresh_conflict (stored : node.registry.queryActionRows swapId = [row])
    (standing : ¬(row.action ≠ facadeAction action ∧ row.expectedGeneration < generation)) :
    (terminalAction requestId swapId generation action reply).run none node =
      (.error (.failed .conflict), node) := by
  have decided : supersededAdmission ((node.registry.queryActionRows swapId).head?.map (·.replayed))
      action generation = .error .conflict := by
    rw [stored]
    exact if_neg standing
  have comesTo := offered.fresh_run reply single unused
  rw [Program.bind_run_error (check_error decided _)] at comesTo
  exact run_eq comesTo

end Unused

theorem Offered.replay_run (reply : ActorReply) (single : node.registry.OneAdmission)
    (stored : node.registry.queryActionRows swapId = [row]) (same : row.action = facadeAction action) :
    terminalAction row.requestId swapId row.expectedGeneration action reply ⟨node, none⟩ =
      (if action = .refund ∧ phase = .makerLegRefunded then do
          executeTerminalActorCommand swapId action reply
          return actionCommit row.replayed
        else return actionCommit row.replayed : Durable TakerNode ActionError _) ⟨node, none⟩ := by
  have listed : row ∈ node.registry.queryActionRows swapId := by
    rw [stored]
    exact List.mem_singleton_self row
  obtain ⟨state, guidance, status⟩ := offered.status
  have required : replayActorEffectRequired prepared.actor.status row.expectedGeneration action =
      .ok (decide (action = .refund ∧ phase = .makerLegRefunded)) := by
    have earlier := offered.notInProgress row listed same
    have notTaker := (RouteActor.offered status).2.2
    rw [status]
    simp only [replayActorEffectRequired, if_pos earlier, notTaker, or_false]
  have found := lookupExactAction_stored single stored
  rw [same] at found
  unfold terminalAction
  rw [read_bind, Program.bind_run (check_ok offered.resolved _),
    Program.bind_run (check_ok (stored_ok found) _)]
  dsimp only
  rw [Program.bind_run (check_ok required _)]
  simp only [decide_eq_true_eq]

theorem Offered.canCarryOut_iff (single : node.registry.OneAdmission) :
    node.CanCarryOut swapId action generation ↔
      ∀ row ∈ node.registry.queryActionRows swapId,
        (row.action ≠ facadeAction action ∧ row.expectedGeneration < generation) ∨
        (row.action = facadeAction action ∧ action = .refund ∧ phase = .makerLegRefunded) := by
  rcases single.cases swapId with free | ⟨row, stored⟩
  · constructor
    · intro _ row listed
      rw [free] at listed
      cases listed
    · exact fun _ => .inl fun requestId unused => offered.carriesOut_free single unused free
  · have listed : row ∈ node.registry.queryActionRows swapId := by
      rw [stored]
      exact List.mem_singleton_self row
    constructor
    · rintro (fresh | ⟨other, member, same, carried⟩) held member'
      · rw [stored, List.mem_singleton] at member'
        subst member'
        obtain ⟨requestId, unused⟩ := node.registry.exists_unused
        by_cases standing : held.action ≠ facadeAction action ∧ held.expectedGeneration < generation
        · exact .inl standing
        · have refused := (fresh requestId unused ⟨true, prepared.actor⟩).1
          rw [offered.fresh_conflict single unused stored standing] at refused
          simp at refused
      · rw [stored, List.mem_singleton] at member member'
        subst member member'
        by_cases continues : action = .refund ∧ phase = .makerLegRefunded
        · exact .inr ⟨same, continues⟩
        · have unmoved := (carried ⟨true, prepared.actor⟩).1
          have comesTo := offered.replay_run ⟨true, prepared.actor⟩ single stored same
          rw [if_neg continues] at comesTo
          rw [run_eq (comesTo.trans (Program.pure_run _ _))] at unmoved
          simp at unmoved
    · intro fits
      rcases fits row listed with ⟨other, earlier⟩ | ⟨same, continues⟩
      · exact .inl fun requestId unused =>
          offered.carriesOut_superseding single unused stored other earlier
      · refine .inr ⟨row, listed, same, fun reply => ?_⟩
        have comesTo := offered.replay_run reply single stored same
        rw [if_pos continues] at comesTo
        exact ends_of_execute comesTo rfl

end Calls

def Single (node : TakerNode) : Prop := node.registry.OneAdmission

theorem keeps_executeTerminalActorCommand : Keeps Single (executeTerminalActorCommand swapId action reply) :=
  keeps_bind (keeps_commit fun _ single => single) fun _ => keeps_check _

theorem keeps_retireSuperseded (superseded : Option TakerActionAdmissionV1) :
    Keeps Single (retireSuperseded superseded) := by
  cases superseded with
  | none => exact keeps_pure ()
  | some stale =>
    intro session single
    refine leaves_read_bind ?_
    refine leaves_check_bind single fun retired accepted => ?_
    exact leaves_commit single
      (TakerFacadeRegistry.OneAdmission.retireSupersededAction single (mapError_ok_iff.mp accepted))

theorem keeps_admitTerminalAction : Keeps Single (admitTerminalAction requestId swapId action generation) := by
  intro session single
  refine leaves_read_bind ?_
  refine leaves_check_bind single fun admitted accepted => ?_
  refine leaves_bind (leaves_commit single ?_) fun _ reached _ held => keeps_pure _ reached held
  exact TakerFacadeRegistry.OneAdmission.admitAction single (mapError_ok_iff.mp accepted)

/-- No call, wherever it is cut, leaves a second admission behind. -/
theorem keeps_terminalAction : Keeps Single (terminalAction requestId swapId generation action reply) := by
  intro session single
  refine leaves_read_bind ?_
  refine leaves_check_bind single fun prepared _ => ?_
  refine leaves_check_bind single fun replay _ => ?_
  cases replay with
  | some admission =>
    refine leaves_check_bind single fun required _ => ?_
    cases required with
    | true => exact keeps_bind keeps_executeTerminalActorCommand (fun _ => keeps_pure _) session single
    | false => exact keeps_pure _ session single
  | none =>
    refine leaves_check_bind single fun admitted _ => ?_
    refine leaves_check_bind single fun superseded _ => ?_
    refine leaves_check_bind single fun _ _ => ?_
    exact keeps_bind (keeps_retireSuperseded superseded) (fun _ =>
      keeps_bind keeps_admitTerminalAction fun _ =>
        keeps_bind keeps_executeTerminalActorCommand fun _ => keeps_pure _) session single

def empty : TakerNode := ⟨.empty, fun _ => none, []⟩

end TakerNode

/-- What happens to a Taker node: initiations, prepared custody, progress its actors make by
    themselves, and terminal requests cut at any point. -/
inductive NodeEvent
  | initiated (requestId : RequestId) (facts : TakerInitiationFactsV1) (authority : Bytes32)
  | provisioned (swapId : SwapId) (prepared : PreparedTakerInitiationV1)
  | actorMoved (swapId : SwapId) (actor : RouteActor)
  | requested (requestId : RequestId) (swapId : SwapId) (generation : Nat)
      (action : TakerTerminalActionV1) (reply : ActorReply) (life : Option Nat)

namespace TakerNode

def advance (node : TakerNode) : NodeEvent → TakerNode
  | .initiated requestId facts authority =>
    match node.registry.admitInitiation requestId facts authority with
    | .ok admitted => node.setRegistry admitted.2
    | .error _ => node
  | .provisioned swapId prepared =>
    { node with
      prepared := fun other => if other = swapId then some prepared else node.prepared other }
  | .actorMoved swapId actor => node.setActor swapId actor
  | .requested requestId swapId generation action reply life =>
    ((terminalAction requestId swapId generation action reply).run life node).2

variable {node : TakerNode}

theorem single_advance (single : node.Single) (event : NodeEvent) : (node.advance event).Single := by
  cases event with
  | initiated requestId facts authority =>
    simp only [advance]
    split
    · rename_i accepted
      exact TakerFacadeRegistry.OneAdmission.admitInitiation single accepted
    · exact single
  | provisioned swapId prepared => exact single
  | actorMoved swapId actor => exact single
  | requested requestId swapId generation action reply life =>
    exact keeps_terminalAction.run life single

def phase (node : TakerNode) (swapId : SwapId) : Option Phase := do
  match (← node.prepared swapId).actor.status with
  | .notActivated => none
  | .active phase .. => some phase

/-- The stored admission leaves the offered action open: it is for the other action at an earlier
    generation, or it is the refund that stands between its two legs. -/
def LeavesOpen (node : TakerNode) (swapId : SwapId) (action : TakerTerminalActionV1) (generation : Nat) : Prop :=
  ∀ row ∈ node.registry.queryActionRows swapId,
    (row.action ≠ facadeAction action ∧ row.expectedGeneration < generation) ∨
    (row.action = facadeAction action ∧ action = .refund ∧
      node.phase swapId = some .makerLegRefunded)

def Reached (history : List NodeEvent) (node : TakerNode) : Prop :=
  Transition.Run (fun before event after => after = before.advance event) empty history node

theorem Reached.foldl (history : List NodeEvent) : Reached history (history.foldl advance empty) :=
  (Transition.run_foldl empty fun _ _ _ => True.intro).of_restrict

theorem Reached.single {history : List NodeEvent} (reached : Reached history node) : node.Single := by
  have initial : empty.Single := oneAdmission_empty
  apply Transition.Run.invariant initial _ reached
  rintro before event _ held rfl
  exact single_advance held event

theorem Offers.canCarryOut_iff (single : node.Single) (offers : node.Offers swapId action generation) :
    node.CanCarryOut swapId action generation ↔ node.LeavesOpen swapId action generation := by
  obtain ⟨prepared, phase, offered⟩ := offers.offered single
  obtain ⟨state, guidance, status⟩ := offered.status
  have stands : node.phase swapId = some phase := by
    simp [TakerNode.phase, offered.held, status]
  rw [offered.canCarryOut_iff single]
  unfold LeavesOpen
  rw [stands]
  simp only [Option.some.injEq]

/-- At most one admission is stored for each swap, and an offered action can be carried out exactly
    when that admission leaves it open. -/
theorem offered_action_carried_out_iff {history : List NodeEvent} {node : TakerNode}
    (reached : Reached history node) :
    (∀ swapId, (node.registry.queryActionRows swapId).length ≤ 1) ∧
      ∀ swapId action generation, node.Offers swapId action generation →
        (node.CanCarryOut swapId action generation ↔ node.LeavesOpen swapId action generation) :=
  ⟨reached.single, fun _ _ _ offers => offers.canCarryOut_iff reached.single⟩

section Samples

def sampleSwap : SwapId := ⟨"swap-take-0001", by decide⟩

def sampleFacts (pair : Pair) : TakerInitiationFactsV1 where
  swapId := sampleSwap
  offerId := "offer-1"
  pair := pair
  direction := .takerSellsForeign
  foreignUnits := 10000
  lezUnits := 5000

def sampleHistory (pair : Pair) (before after : RouteActor) (action : TakerTerminalActionV1)
    (generation : Nat) : List NodeEvent :=
  [.initiated "initiate-1" (sampleFacts pair) 5,
    .provisioned sampleSwap ⟨sampleFacts pair, 5, true, before⟩,
    .requested "request-1" sampleSwap generation action ⟨false, before⟩ none,
    .actorMoved sampleSwap after]

/-- The claim window closed, the Maker refunded, and the claim of generation 2 is still stored. -/
def claimHistory : List NodeEvent :=
  sampleHistory .bitcoin (.btc (.active .bothLegsLocked 2 .observeRevealingClaim))
    (.btc (.active .makerLegRefunded 3 .recoverTakerLeg)) .claim 2

theorem offered_action_carried_out_iff_sample : (claimHistory.foldl advance empty).Offers sampleSwap .refund 3 ∧
      (claimHistory.foldl advance empty).CanCarryOut sampleSwap .refund 3 := by
  have offers : (claimHistory.foldl advance empty).Offers sampleSwap .refund 3 := ⟨_, rfl, rfl, rfl⟩
  refine ⟨offers, ((offered_action_carried_out_iff (.foldl claimHistory)).2 _ _ _ offers).mpr ?_⟩
  have stored : (claimHistory.foldl advance empty).registry.queryActionRows sampleSwap =
      [⟨"request-1", sampleSwap, .claim, 2⟩] := by decide
  intro row listed
  rw [stored, List.mem_singleton] at listed
  subst listed
  exact .inl ⟨by decide, by decide⟩

/-- The refund is asked for too early, and asked for again once the actor's revision has moved. -/
def refundHistory : List NodeEvent :=
  sampleHistory .zcash (.zec (.active .awaitingTakerConfirmations 1 .wait))
    (.zec (.active .takerLockConfirmed 2 .wait)) .refund 1

theorem early_refund_request_blocks_offered_refund : Reached refundHistory (refundHistory.foldl advance empty) ∧
      (refundHistory.foldl advance empty).Offers sampleSwap .refund 2 ∧
      ¬(refundHistory.foldl advance empty).CanCarryOut sampleSwap .refund 2 := by
  have reached := Reached.foldl refundHistory
  have offers : (refundHistory.foldl advance empty).Offers sampleSwap .refund 2 := ⟨_, rfl, rfl, rfl⟩
  refine ⟨reached, offers, ?_⟩
  rw [offers.canCarryOut_iff reached.single]
  intro leavesOpen
  have stored : ⟨"request-1", sampleSwap, .refund, 1⟩ ∈
      (refundHistory.foldl advance empty).registry.queryActionRows sampleSwap := by decide
  rcases leavesOpen _ stored with ⟨other, -⟩ | ⟨-, -, stands⟩
  · exact other rfl
  · exact absurd stands (by decide)

end Samples

end TakerNode

end AtomicSwaps.Taker
