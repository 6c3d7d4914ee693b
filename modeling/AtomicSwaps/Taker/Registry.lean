import AtomicSwaps.Core.Types
import AtomicSwaps.Transition.Fallible

namespace AtomicSwaps.Taker

open AtomicSwaps.Core Fallible

abbrev SwapId := Identifier

abbrev RequestId := String

inductive TakerFacadeActionV1
  | claim | refund
deriving DecidableEq

inductive TakerFacadeStoreError
  | requestConflict
  | swapConflict
  | swapUnavailable
  | actionGenerationConflict
  | corruptState
  | storageUnavailable

structure TakerInitiationFactsV1 where
  swapId : SwapId
  offerId : String
  pair : Pair
  direction : SwapDirection
  (foreignUnits lezUnits : Nat)
deriving DecidableEq

/-- One swap's rows of the swap, authority and request tables: they are inserted together. -/
structure MonitorInitiationRow where
  requestId : RequestId
  facts : TakerInitiationFactsV1
  authority : Bytes32

structure TakerActionRow where
  requestId : RequestId
  swapId : SwapId
  action : TakerFacadeActionV1
  expectedGeneration : Nat
deriving DecidableEq

/-- The tables with the keys their schema declares. That a swap has one action row is no constraint
    of the schema. -/
structure TakerFacadeRegistry where
  initiations : List MonitorInitiationRow
  actions : List TakerActionRow
  swapKeys : (initiations.map (·.facts.swapId)).Nodup
  requestKeys : (initiations.map (·.requestId) ++ actions.map (·.requestId)).Nodup
  parents : ∀ row ∈ actions, row.swapId ∈ initiations.map (·.facts.swapId)

structure TakerActionAdmissionV1 where
  swapId : SwapId
  action : TakerFacadeActionV1
  requestedAfterGeneration : Nat
  wasReplay : Bool

def TakerActionRow.replayed (stored : TakerActionRow) : TakerActionAdmissionV1 where
  swapId := stored.swapId
  action := stored.action
  requestedAfterGeneration := stored.expectedGeneration
  wasReplay := true

namespace TakerFacadeRegistry

def empty : TakerFacadeRegistry where
  initiations := []
  actions := []
  swapKeys := List.nodup_nil
  requestKeys := List.nodup_nil
  parents := nofun

variable (registry : TakerFacadeRegistry)

def requestIds : List RequestId :=
  registry.initiations.map (·.requestId) ++ registry.actions.map (·.requestId)

def insertAction (row : TakerActionRow) : Except TakerFacadeStoreError TakerFacadeRegistry :=
  if keyed : row.requestId ∉ registry.requestIds ∧
      row.swapId ∈ registry.initiations.map (·.facts.swapId) then
    .ok
      { registry with
        actions := registry.actions ++ [row]
        requestKeys := by
          rw [List.map_append, ← List.append_assoc]
          exact List.nodup_append.mpr ⟨registry.requestKeys, by simp, by
            intro used listed new isNew same
            rw [List.map_singleton, List.mem_singleton] at isNew
            exact keyed.1 (isNew ▸ same ▸ listed)⟩
        parents := by
          intro stored listed
          rcases List.mem_append.mp listed with old | new
          · exact registry.parents stored old
          · rw [List.mem_singleton.mp new]
            exact keyed.2 }
  else .error .storageUnavailable

def insertInitiation (row : MonitorInitiationRow) : Except TakerFacadeStoreError TakerFacadeRegistry :=
  if keyed : row.requestId ∉ registry.requestIds ∧
      row.facts.swapId ∉ registry.initiations.map (·.facts.swapId) then
    .ok
      { registry with
        initiations := row :: registry.initiations
        swapKeys := List.nodup_cons.mpr ⟨keyed.2, registry.swapKeys⟩
        requestKeys := List.nodup_cons.mpr ⟨keyed.1, registry.requestKeys⟩
        parents := fun stored listed => List.mem_cons_of_mem _ (registry.parents stored listed) }
  else .error .storageUnavailable

def deleteRequest (requestId : RequestId) : TakerFacadeRegistry where
  initiations := registry.initiations
  actions := registry.actions.filter (·.requestId ≠ requestId)
  swapKeys := registry.swapKeys
  requestKeys := registry.requestKeys.sublist
    ((List.Sublist.refl _).append (List.filter_sublist.map _))
  parents := fun row listed => registry.parents row (List.mem_filter.mp listed).1

variable (swapId : SwapId)

def queryActionRows : List TakerActionRow :=
  registry.actions.filter (·.swapId = swapId)

def queryMonitorInitiation : Option MonitorInitiationRow :=
  registry.initiations.find? (·.facts.swapId = swapId)

def validateActionParent : Except TakerFacadeStoreError Unit :=
  match registry.queryMonitorInitiation swapId with
  | some _ => .ok ()
  | none => .error .swapUnavailable

def loadValidActionRows : Except TakerFacadeStoreError (List TakerActionRow) :=
  if 1 < (registry.queryActionRows swapId).length then .error .corruptState
  else .ok (registry.queryActionRows swapId)

variable (requestId : RequestId)

def lookupExactAction (swapId : SwapId) (action : TakerFacadeActionV1) (expectedGeneration : Nat) :
    Except TakerFacadeStoreError (Option TakerActionAdmissionV1) :=
  if registry.initiations.any (·.requestId = requestId) then .error .requestConflict
  else match registry.actions.find? (·.requestId = requestId) with
    | none => .ok none
    | some raw => do
      registry.validateActionParent raw.swapId
      let rows ← registry.loadValidActionRows raw.swapId
      match rows.find? (·.requestId = requestId) with
      | none => .error .corruptState
      | some stored =>
        if stored.swapId ≠ swapId ∨ stored.action ≠ action ∨
            stored.expectedGeneration ≠ expectedGeneration then .error .requestConflict
        else .ok (some stored.replayed)

def lookupActionForSwap : Except TakerFacadeStoreError (Option TakerActionAdmissionV1) :=
  match registry.queryMonitorInitiation swapId with
  | none => .ok none
  | some _ => do
    let rows ← registry.loadValidActionRows swapId
    return rows.head?.map (·.replayed)

def admitAction (swapId : SwapId) (action : TakerFacadeActionV1) (expectedGeneration : Nat) :
    Except TakerFacadeStoreError (TakerActionAdmissionV1 × TakerFacadeRegistry) := do
  match ← registry.lookupExactAction requestId swapId action expectedGeneration with
  | some replay => return (replay, registry)
  | none =>
    registry.validateActionParent swapId
    let actions ← registry.loadValidActionRows swapId
    ensure (actions.isEmpty = true) .actionGenerationConflict
    let inserted ← registry.insertAction { requestId, swapId, action, expectedGeneration }
    return ({ swapId, action, requestedAfterGeneration := expectedGeneration, wasReplay := false },
      inserted)

/-- Removes exactly the named admission; the caller decides that the actor has moved past it. -/
def retireSupersededAction (admission : TakerActionAdmissionV1) :
    Except TakerFacadeStoreError (Bool × TakerFacadeRegistry) := do
  let rows ← registry.loadValidActionRows admission.swapId
  match rows.find? fun row => row.action = admission.action ∧
      row.expectedGeneration = admission.requestedAfterGeneration with
  | none => return (false, registry)
  | some existing => return (true, registry.deleteRequest existing.requestId)

def admitInitiation (facts : TakerInitiationFactsV1) (authority : Bytes32) :
    Except TakerFacadeStoreError (Bool × TakerFacadeRegistry) := do
  match registry.initiations.find? (·.requestId = requestId) with
  | some row =>
    ensure (row.facts = facts ∧ row.authority = authority) .requestConflict
    return (true, registry)
  | none =>
    if let some raw := registry.actions.find? (·.requestId = requestId) then
      registry.validateActionParent raw.swapId
      let rows ← registry.loadValidActionRows raw.swapId
      ensure (rows.any (·.requestId = requestId) = true) .corruptState
      throw .requestConflict
    ensure ((registry.queryMonitorInitiation facts.swapId).isNone) .swapConflict
    return (false, ← registry.insertInitiation { requestId, facts, authority })

def lookupInitiationForMonitor (authority : Bytes32) : Except TakerFacadeStoreError (Option TakerInitiationFactsV1) :=
  match registry.queryMonitorInitiation swapId with
  | none => .ok none
  | some row => if row.authority = authority then .ok (some row.facts) else .error .swapConflict

end TakerFacadeRegistry

end AtomicSwaps.Taker
