import AtomicSwaps.Escrow.Effects
import Mathlib.Logic.Relation

namespace AtomicSwaps.Escrow

open AtomicSwaps.Core (Bytes32)
open Fallible Transition ChainedCall Ledger

structure Movement where
  (sender recipient : AccountId)
  amount : Nat

/-- The escrow as its parties see it: recorded once, funded once, paid out once. Each step lists what
    it moves. -/
inductive LifecycleStep : Option EscrowMetadata → EscrowMetadata → List Movement → Prop
  | record {state : EscrowMetadata} (empty : state.status = .empty) : LifecycleStep none state []
  | keep {state : EscrowMetadata} : LifecycleStep (some state) state []
  | fund {state : EscrowMetadata} (empty : state.status = .empty) :
      LifecycleStep (some state) { state with status := .funded }
        [⟨state.depositorAsset, state.custody, state.amount⟩]
  | authorize {state : EscrowMetadata} (funded : state.status = .funded) :
      LifecycleStep (some state) { state with status := .xmrClaimAuthorized } []
  | claim {state : EscrowMetadata} (funded : state.status.holdsFunds) :
      LifecycleStep (some state) { state with status := .claimed }
        [⟨state.custody, state.claimantAsset, state.amount⟩]
  | refund {state : EscrowMetadata} (funded : state.status.holdsFunds) :
      LifecycleStep (some state) { state with status := .refunded }
        [⟨state.custody, state.depositorAsset, state.amount⟩]

def Ledger.record (ledger : Ledger) (program : ProgramId) (swapId : Bytes32) (state : EscrowMetadata) : Ledger :=
  ledger.set (.metadata program swapId)
    { ledger (.metadata program swapId) with programOwner := program, data := .escrow state }

def ChainedCall.movement : ChainedCall → Option Movement
  | .nativeTransfer _ sender recipient amount _ => some ⟨sender, recipient, amount⟩
  | .ataTransfer _ _ sender recipient amount _ => some ⟨sender, recipient, amount⟩
  | .nativeInitialize _ _ | .ataCreate _ _ _ _ => none

def movements (swapId : Bytes32) (history : List LedgerEvent) : List Movement :=
  history.flatMap fun
    | .instruction id calls => if id = swapId then calls.filterMap movement else []
    | .external => []

def EscrowMetadata.settledMovements (state : EscrowMetadata) : List Movement :=
  let funding : Movement := ⟨state.depositorAsset, state.custody, state.amount⟩
  match state.status with
  | .empty => []
  | .funded | .xmrClaimAuthorized => [funding]
  | .claimed => [funding, ⟨state.custody, state.claimantAsset, state.amount⟩]
  | .refunded => [funding, ⟨state.custody, state.depositorAsset, state.amount⟩]

inductive StatusStep : EscrowStatus → EscrowStatus → Prop
  | fund : StatusStep .empty .funded
  | authorize : StatusStep .funded .xmrClaimAuthorized
  | claim : StatusStep .funded .claimed
  | refund : StatusStep .funded .refunded
  | authorizedClaim : StatusStep .xmrClaimAuthorized .claimed
  | authorizedRefund : StatusStep .xmrClaimAuthorized .refunded

/-- The terms an initialised escrow keeps for good. -/
structure EscrowMetadata.WellFormed (state : EscrowMetadata) (runtime : Runtime) (swapId : Bytes32) :
    Prop where
  identified : state.swapId = swapId
  supported : state.version = supportedVersion state.claimAuthority
  authority : validClaimAuthority state.claimAuthority state.claimant
  positive : state.amount ≠ 0
  xmrOrdered : state.XmrOrdered
  program : state.assetProgram ≠ defaultProgramId
  depositor : state.depositor.derivedBy runtime.selfProgramId = false ∧
    state.depositor.custodyOf runtime.selfProgramId = none
  layout : state.Native runtime.selfProgramId swapId ∨
    state.Token runtime.selfProgramId swapId ∧ state.claimAuthority.isXmr = false
  payee : state.claimantAsset ≠ state.custody ∧
    state.claimantAsset ≠ .metadata runtime.selfProgramId swapId

/-- What an account holds of the asset of an escrow. -/
def EscrowMetadata.heldBy (state : EscrowMetadata) (account : Account) : Option Nat :=
  if state.assetProgram = state.custodyProgram then some account.balance
  else match account.data with
    | .fungibleHolding definition balance =>
      if definition = state.assetDefinition then some balance else none
    | _ => none

def EscrowMetadata.Holds (state : EscrowMetadata) (ledger : Ledger) : Prop :=
  (ledger state.custody).programOwner = state.assetProgram ∧
    ∃ balance, state.heldBy (ledger state.custody) = some balance ∧ state.amount ≤ balance

/-- The sender is debited and the recipient credited by the amount exactly. -/
def Movement.Moves (movement : Movement) (state : EscrowMetadata) (before after : Ledger) : Prop :=
  ∃ left held, state.heldBy (before movement.sender) = some (left + movement.amount) ∧
    state.heldBy (before movement.recipient) = some held ∧
    state.heldBy (after movement.sender) = some left ∧
    state.heldBy (after movement.recipient) = some (held + movement.amount)

/-- Every transfer that the program named in the escrow accepts moves its amount exactly. -/
def Runtime.MovesExactly (runtime : Runtime) (state : EscrowMetadata) : Prop :=
  ∀ signers ledger call after movement, call.program = state.custodyProgram →
    call.movement = some movement → movement.sender ≠ movement.recipient →
    runtime.call signers ledger call = some after → movement.Moves state ledger after

section Calls

variable {runtime : Runtime} {signers : List AccountId} {ledger after : Ledger} {program : ProgramId}
  {swapId : Bytes32} {state : EscrowMetadata} {call : ChainedCall}

theorem escrow_congr
    (owner : (after (.metadata program swapId)).programOwner = (ledger (.metadata program swapId)).programOwner)
    (data : (after (.metadata program swapId)).data = (ledger (.metadata program swapId)).data) :
    after.escrow program swapId = ledger.escrow program swapId := by
  simp only [Ledger.escrow, owner, data]

theorem record_escrow_self (ledger : Ledger) (program : ProgramId) (swapId : Bytes32)
    (state : EscrowMetadata) : (ledger.record program swapId state).escrow program swapId = some state := by
  simp [Ledger.escrow, record]

theorem record_other {id : AccountId}
    (different : id ≠ .metadata program swapId) : ledger.record program swapId state id = ledger id := by
  simp [record, different]

theorem record_escrow_other {other : Bytes32} (different : other ≠ swapId) :
    (ledger.record program swapId state).escrow program other = ledger.escrow program other := by
  have same : ledger.record program swapId state (.metadata program other) =
      ledger (.metadata program other) := record_other (by simpa using different)
  exact escrow_congr (by rw [same]) (by rw [same])

theorem EscrowKept.refl (ledger : Ledger) : EscrowKept program ledger ledger :=
  ⟨fun _ owned => ⟨owned, rfl⟩, fun _ owned => owned⟩

theorem EscrowKept.escrow (kept : EscrowKept program ledger after) (swapId : Bytes32) :
    after.escrow program swapId = ledger.escrow program swapId := by
  by_cases owned : (ledger (.metadata program swapId)).programOwner = program
  · obtain ⟨owner, data⟩ := kept.kept _ owned
    exact escrow_congr (by rw [owner, owned]) data
  · have stillUnowned : ¬(after (.metadata program swapId)).programOwner = program :=
      fun taken => owned (kept.notCreated _ taken)
    simp [Ledger.escrow, owned, stillUnowned]

theorem callAll_singleton : ledger.callAll runtime signers [call] = runtime.call signers ledger call := by
  simp [callAll]

end Calls

section Refinement

variable {runtime : Runtime} {signers : List AccountId} {ledger after : Ledger} {instruction : Instruction}
  {state written : EscrowMetadata} {calls : List ChainedCall} {swapId : Bytes32}

theorem EscrowMetadata.WellFormed.native
    (formed : state.WellFormed runtime swapId) (programs : state.assetProgram = state.custodyProgram) :
    state.Native runtime.selfProgramId swapId := by
  rcases formed.layout with native | ⟨token, _⟩
  · exact native
  · exact absurd programs.symm token.programs

theorem EscrowMetadata.WellFormed.withStatus (formed : state.WellFormed runtime swapId) (status : EscrowStatus) :
    EscrowMetadata.WellFormed { state with status } runtime swapId :=
  ⟨formed.identified, formed.supported, formed.authority, formed.positive, formed.xmrOrdered,
    formed.program, formed.depositor, formed.layout.imp
      (fun native => ⟨native.1, native.2, native.3, native.4, native.5, native.6⟩)
      (fun token => ⟨⟨token.1.1, token.1.2, token.1.3, token.1.4, token.1.5, token.1.6⟩, token.2⟩),
    formed.payee⟩

section Effect

variable (known : ∀ state, ledger.escrow runtime.selfProgramId instruction.swapId = some state →
    state.WellFormed runtime instruction.swapId)
  (effect : Effect runtime.toProgramContext signers ledger instruction written calls)
include known effect

/-- The program refines the lifecycle: on well-formed records every effect is one of its steps. -/
theorem effect_lifecycle : LifecycleStep (ledger.escrow runtime.selfProgramId instruction.swapId) written
    (calls.filterMap movement) := by
  have unowned : ledger (.metadata runtime.selfProgramId instruction.swapId) = .default →
      ledger.escrow runtime.selfProgramId instruction.swapId = none := fun fresh => by
    simp [Ledger.escrow, fresh, Account.default, runtime.deployed.symm]
  cases effect with
  | openNative fresh _ opened => rw [unowned fresh]; exact .record opened.status
  | openToken fresh opened => rw [unowned fresh]; exact .record opened.status
  | createCustody recorded => rw [recorded]; exact .keep
  | fundNative recorded empty programs =>
    have layout := (known _ recorded).native programs
    rw [recorded]
    simpa [movement, layout.depositorAsset] using LifecycleStep.fund empty
  | fundToken recorded empty => rw [recorded]; exact .fund empty
  | authorize recorded funded => rw [recorded]; exact .authorize funded
  | settleNative recorded funded pays programs =>
    have layout := (known _ recorded).native programs
    rw [recorded]
    rcases pays with ⟨rfl, rfl⟩ | ⟨rfl, rfl⟩
    · simpa [movement, layout.claimantAsset] using LifecycleStep.claim funded
    · simpa [movement, layout.depositorAsset] using LifecycleStep.refund funded
  | settleToken recorded funded pays =>
    rw [recorded]
    rcases pays with ⟨rfl, rfl⟩ | ⟨rfl, rfl⟩
    · exact .claim funded
    · exact .refund funded

theorem effect_wellFormed (canSign : runtime.CanSign signers) : written.WellFormed runtime instruction.swapId := by
  cases effect with
  | openNative fresh custodyFresh opened layout signed program _ claimantOwner =>
    -- The claimant's account exists; the accounts that are opened do not.
    have notFresh : ledger written.claimant ≠ .default :=
      fun fresh => program (by rw [← claimantOwner, fresh]; rfl)
    refine ⟨opened.swapId, opened.supported, opened.authority, opened.positive, opened.xmrOrdered,
      program, canSign _ signed, .inl layout, ?_, ?_⟩
    · rw [layout.claimantAsset, layout.custody]
      exact fun same => notFresh (by rw [same, custodyFresh])
    · rw [layout.claimantAsset]
      exact fun same => notFresh (by rw [same, fresh])
  | openToken _ opened layout signed program plain =>
    refine ⟨opened.swapId, opened.supported, opened.authority, opened.positive, opened.xmrOrdered,
      program, canSign _ signed, .inr ⟨layout, plain⟩, ?_, ?_⟩
    · rw [layout.claimantAsset, layout.custody]
      simp [layout.claimant]
    · rw [layout.claimantAsset]
      simp
  | createCustody recorded => exact known _ recorded
  | fundNative recorded | fundToken recorded | authorize recorded | settleNative recorded
  | settleToken recorded => exact (known _ recorded).withStatus _

end Effect

theorem EscrowMetadata.WellFormed.foreign (formed : state.WellFormed runtime swapId) :
    state.custodyProgram ≠ runtime.selfProgramId :=
  formed.layout.elim (·.foreign) (·.1.foreign)

theorem EscrowMetadata.WellFormed.custodyOf (formed : state.WellFormed runtime swapId) :
    state.custody.custodyOf runtime.selfProgramId = some swapId := by
  rcases formed.layout with native | ⟨token, _⟩
  · rw [native.custody]
    simp [AccountId.custodyOf]
  · rw [token.custody]
    simp [AccountId.custodyOf]

theorem EscrowMetadata.WellFormed.depositorAsset (formed : state.WellFormed runtime swapId) :
    state.depositorAsset.custodyOf runtime.selfProgramId = none ∧
      state.depositorAsset ≠ .metadata runtime.selfProgramId swapId := by
  have underived := formed.depositor.1
  rcases formed.layout with native | ⟨token, _⟩
  · rw [native.depositorAsset]
    refine ⟨formed.depositor.2, fun same => ?_⟩
    simp [same, AccountId.derivedBy] at underived
  · rw [token.depositorAsset]
    revert underived
    cases state.depositor <;> simp [AccountId.custodyOf, AccountId.derivedBy]

theorem custody_ne_metadata {id : AccountId} (custody : id.custodyOf runtime.selfProgramId = some swapId)
    (other : Bytes32) : id ≠ .metadata runtime.selfProgramId other := by
  rintro rfl
  cases custody

/-- The program, the two accounts and the record of an escrow are all different. -/
theorem LifecycleStep.apart {before : Option EscrowMetadata} {moved : List Movement} {movement : Movement}
    (step : LifecycleStep before written moved) (formed : written.WellFormed runtime swapId)
    (member : movement ∈ moved) : movement.sender ≠ movement.recipient ∧
      movement.sender ≠ .metadata runtime.selfProgramId swapId ∧
      movement.recipient ≠ .metadata runtime.selfProgramId swapId := by
  have custody := custody_ne_metadata formed.custodyOf swapId
  have depositor : written.depositorAsset ≠ written.custody := fun same => by
    have owned := formed.custodyOf
    rw [← same, formed.depositorAsset.1] at owned
    cases owned
  cases step with
  | record | keep | authorize => cases member
  | fund =>
    obtain rfl := List.mem_singleton.mp member
    exact ⟨depositor, formed.depositorAsset.2, custody⟩
  | claim =>
    obtain rfl := List.mem_singleton.mp member
    exact ⟨formed.payee.1.symm, custody, formed.payee.2⟩
  | refund =>
    obtain rfl := List.mem_singleton.mp member
    exact ⟨depositor.symm, custody, formed.depositorAsset.2⟩

theorem LifecycleStep.sender {before : Option EscrowMetadata} {moved : List Movement}
    {movement : Movement} (step : LifecycleStep before written moved)
    (formed : written.WellFormed runtime swapId) (member : movement ∈ moved) :
    movement.sender.custodyOf runtime.selfProgramId = none ∨
      movement.sender.custodyOf runtime.selfProgramId = some swapId := by
  cases step with
  | record | keep | authorize => cases member
  | fund =>
    obtain rfl := List.mem_singleton.mp member
    exact .inl formed.depositorAsset.1
  | claim | refund =>
    obtain rfl := List.mem_singleton.mp member
    exact .inr formed.custodyOf

end Refinement

/-- An instruction that is accepted where the record, if there is one, is well formed. -/
structure Commits (runtime : Runtime) (signers : List AccountId) (ledger : Ledger) (instruction : Instruction)
    (written : EscrowMetadata) (calls : List ChainedCall) (after : Ledger) : Prop where
  effect : Effect runtime.toProgramContext signers ledger instruction written calls
  called : (ledger.record runtime.selfProgramId instruction.swapId written).callAll runtime signers calls = some after
  canSign : runtime.CanSign signers
  formed : written.WellFormed runtime instruction.swapId
  lifecycle : LifecycleStep (ledger.escrow runtime.selfProgramId instruction.swapId) written
    (calls.filterMap movement)

namespace Commits

variable {runtime : Runtime} {signers : List AccountId} {ledger after : Ledger}
  {instruction : Instruction} {state written : EscrowMetadata} {calls : List ChainedCall}
  {swapId : Bytes32} {id : AccountId}

theorem of_process {timestamp : Nat} {transaction : Transaction}
    (known : ∀ state, ledger.escrow runtime.selfProgramId transaction.instruction.swapId = some state →
      state.WellFormed runtime transaction.instruction.swapId)
    (processed : ledger.process runtime timestamp transaction = .ok (after, calls)) :
    ∃ written window, Writes runtime.toProgramContext transaction.signers ledger transaction.instruction written
        window ∧ window.contains timestamp ∧
      Commits runtime transaction.signers ledger transaction.instruction written calls after := by
  simp only [process, checked_ok, exists_const] at processed
  obtain ⟨distinct, signers, output, accepted, timely, committed⟩ := processed
  obtain ⟨written, id, account, writes, effect⟩ := dispatch_runs accepted
  have effect := effect distinct
  split at committed
  · rename_i final called
    cases committed
    rw [id, account] at called
    exact ⟨written, output.window, writes, timely, effect, called, signers, effect_wellFormed known effect signers,
      effect_lifecycle known effect⟩
  · cases committed

variable (commits : Commits runtime signers ledger instruction written calls after)
include commits

theorem authorised {call : ChainedCall} (member : call ∈ calls) (authorised : call.authorised = some id) :
    id.custodyOf runtime.selfProgramId = some instruction.swapId := by
  have custody := commits.formed.custodyOf
  cases commits.effect with
  | openToken | authorize => cases member
  | openNative =>
    obtain rfl := List.mem_singleton.mp member
    cases authorised
    simp [AccountId.custodyOf]
  | createCustody | fundNative | fundToken =>
    obtain rfl := List.mem_singleton.mp member
    cases authorised
  | settleNative | settleToken =>
    obtain rfl := List.mem_singleton.mp member
    simp only [ChainedCall.authorised] at authorised
    split at authorised
    · cases authorised
      exact custody
    · cases authorised

/-- An effect chains at most one call, into the program that the escrow names. -/
theorem calls_cases :
    calls = [] ∧ after = ledger.record runtime.selfProgramId instruction.swapId written ∨
      ∃ call, calls = [call] ∧ call.program = written.custodyProgram ∧
        runtime.call signers (ledger.record runtime.selfProgramId instruction.swapId written) call =
          some after := by
  have called := commits.called
  cases commits.effect with
  | openToken | authorize =>
    cases called
    exact .inl ⟨rfl, rfl⟩
  | openNative _ _ _ layout => exact .inr ⟨_, rfl, layout.programs.symm, callAll_singleton ▸ called⟩
  | fundNative _ _ programs | settleNative _ _ _ programs =>
    exact .inr ⟨_, rfl, programs, callAll_singleton ▸ called⟩
  | createCustody | fundToken | settleToken => exact .inr ⟨_, rfl, rfl, callAll_singleton ▸ called⟩

theorem kept {relation : Ledger → Ledger → Prop} (refl : ∀ ledger, relation ledger ledger)
    (keeps : runtime.Keeps fun _ => relation) :
    relation (ledger.record runtime.selfProgramId instruction.swapId written) after := by
  rcases commits.calls_cases with ⟨_, rfl⟩ | ⟨call, _, program, accepted⟩
  · exact refl _
  · exact keeps.called _ _ _ _ commits.canSign (program ▸ commits.formed.foreign) accepted

theorem escrow (keeps : runtime.KeepsEscrow) (swapId : Bytes32) :
    after.escrow runtime.selfProgramId swapId =
      if swapId = instruction.swapId then some written
      else ledger.escrow runtime.selfProgramId swapId := by
  rw [(commits.kept EscrowKept.refl keeps).escrow]
  split
  · rename_i same
    rw [same]
    exact record_escrow_self ..
  · rename_i different
    exact record_escrow_other different

theorem otherCustody (keeps : runtime.KeepsCustody) (different : swapId ≠ instruction.swapId)
    (custody : id.custodyOf runtime.selfProgramId = some swapId) (live : ledger id ≠ .default) :
    (ledger id).CreditedTo (after id) := by
  have untouched : ledger.record runtime.selfProgramId instruction.swapId written id = ledger id :=
    record_other (custody_ne_metadata custody _)
  rw [← untouched] at live ⊢
  rcases commits.calls_cases with ⟨_, rfl⟩ | ⟨call, rfl, program, accepted⟩
  · exact .native _ _ (Nat.le_refl _)
  · refine keeps.called _ _ _ _ commits.canSign (program ▸ commits.formed.foreign) accepted id
      (by rw [custody]; rfl) live ?_
    intro authorised
    have own := commits.authorised (List.mem_singleton_self _) authorised
    exact different (Option.some.inj (custody.symm.trans own))

theorem moves (moves : runtime.MovesExactly state) (program : state.custodyProgram = written.custodyProgram) :
    ∀ moved ∈ calls.filterMap movement, moved.Moves state ledger after := by
  intro moved member
  obtain ⟨different, sender, recipient⟩ := commits.lifecycle.apart commits.formed member
  rcases commits.calls_cases with ⟨rfl, _⟩ | ⟨call, rfl, same, accepted⟩
  · cases member
  · obtain ⟨_, single, moves_⟩ := List.mem_filterMap.mp member
    obtain rfl := List.mem_singleton.mp single
    have exact_ := moves _ _ _ _ _ (same.trans program.symm) moves_ different accepted
    rw [Movement.Moves, record_other sender, record_other recipient] at exact_
    exact exact_

end Commits

section Runs

variable {runtime : Runtime} {history : List LedgerEvent} {state next : LedgerState}
  {event : LedgerEvent} {swapId : Bytes32} {start : LedgerState}

/-- What a run has established about every swap id. -/
structure Accounted (runtime : Runtime) (history : List LedgerEvent) (state : LedgerState) : Prop where
  formed : ∀ swapId record, state.accounts.escrow runtime.selfProgramId swapId = some record →
    record.WellFormed runtime swapId
  moved : ∀ swapId record, state.accounts.escrow runtime.selfProgramId swapId = some record →
    movements swapId history = record.settledMovements
  unmoved : ∀ swapId, state.accounts.escrow runtime.selfProgramId swapId = none →
    movements swapId history = []
  separate : ∀ swapId, ∀ movement ∈ movements swapId history,
    movement.sender.custodyOf runtime.selfProgramId = none ∨
      movement.sender.custodyOf runtime.selfProgramId = some swapId

theorem movements_own (swapId : Bytes32) (history : List LedgerEvent) (calls : List ChainedCall) :
    movements swapId (history ++ [.instruction swapId calls]) =
      movements swapId history ++ calls.filterMap movement := by
  simp [movements]

theorem movements_other {other : Bytes32} {calls : List ChainedCall} (different : swapId ≠ other) :
    movements swapId (history ++ [.instruction other calls]) = movements swapId history := by
  simp [movements, different.symm]

variable {moved : List Movement} {written : EscrowMetadata}

theorem LifecycleStep.settledMovements {before : Option EscrowMetadata}
    {earlier : List Movement} (step : LifecycleStep before written moved)
    (recorded : ∀ record, before = some record → earlier = record.settledMovements)
    (unrecorded : before = none → earlier = []) : earlier ++ moved = written.settledMovements := by
  cases step with
  | record empty => simp [unrecorded rfl, EscrowMetadata.settledMovements, empty]
  | keep => simp [recorded _ rfl]
  | fund empty => simp [recorded _ rfl, EscrowMetadata.settledMovements, empty]
  | authorize funded => simp [recorded _ rfl, EscrowMetadata.settledMovements, funded]
  | @claim record funded | @refund record funded =>
    rw [recorded _ rfl]
    revert funded
    cases status : record.status <;>
      simp [EscrowStatus.holdsFunds, EscrowMetadata.settledMovements, status]

variable (keeps : runtime.KeepsEscrow)
include keeps

/-- What one event does to the escrow of a swap id: a step of its lifecycle, or nothing. -/
theorem LedgerStep.cases_escrow (accounted : Accounted runtime history state)
    (step : LedgerStep runtime state event next) (swapId : Bytes32) :
    (∃ calls written, event = .instruction swapId calls ∧
      next.accounts.escrow runtime.selfProgramId swapId = some written ∧ written.WellFormed runtime swapId ∧
      LifecycleStep (state.accounts.escrow runtime.selfProgramId swapId) written (calls.filterMap movement)) ∨
    next.accounts.escrow runtime.selfProgramId swapId = state.accounts.escrow runtime.selfProgramId swapId ∧
      movements swapId (history ++ [event]) = movements swapId history := by
  cases step with
  | @instruction timestamp transaction accounts calls later processed =>
    obtain ⟨written, _, _, _, commits⟩ := Commits.of_process (accounted.formed _) processed
    have escrow := commits.escrow keeps swapId
    by_cases same : swapId = transaction.instruction.swapId
    · subst same
      exact .inl ⟨calls, written, rfl, escrow.trans (if_pos rfl), commits.formed, commits.lifecycle⟩
    · exact .inr ⟨escrow.trans (if_neg same), movements_other same⟩
  | external later changed => exact .inr ⟨(keeps.external _ _ changed).escrow _, by simp [movements]⟩

theorem accounted_step (history : List LedgerEvent) (state : LedgerState) (event : LedgerEvent)
    (next : LedgerState) (accounted : Accounted runtime history state)
    (step : LedgerStep runtime state event next) : Accounted runtime (history ++ [event]) next := by
  refine ⟨fun swapId record recorded => ?_, fun swapId record recorded => ?_,
    fun swapId unrecorded => ?_, fun swapId movement member => ?_⟩
  all_goals rcases step.cases_escrow keeps accounted swapId with
    ⟨calls, written, rfl, escrow, formed, lifecycle⟩ | ⟨escrow, unmoved⟩
  · cases escrow.symm.trans recorded
    exact formed
  · exact accounted.formed _ _ (escrow ▸ recorded)
  · cases escrow.symm.trans recorded
    rw [movements_own]
    exact lifecycle.settledMovements (accounted.moved _) (accounted.unmoved _)
  · rw [unmoved]
    exact accounted.moved _ _ (escrow ▸ recorded)
  · cases escrow.symm.trans unrecorded
  · rw [unmoved]
    exact accounted.unmoved _ (escrow ▸ unrecorded)
  · rw [movements_own] at member
    rcases List.mem_append.mp member with member | member
    · exact accounted.separate _ _ member
    · exact lifecycle.sender formed member
  · rw [unmoved] at member
    exact accounted.separate _ _ member

omit keeps

/-- No account belongs to the escrow program before its first instruction. -/
def LedgerState.Fresh (runtime : Runtime) (state : LedgerState) : Prop :=
  ∀ id, (state.accounts id).programOwner ≠ runtime.selfProgramId

theorem LedgerState.Fresh.accounted (fresh : start.Fresh runtime) : Accounted runtime [] start := by
  have unrecorded : ∀ swapId, start.accounts.escrow runtime.selfProgramId swapId = none :=
    fun swapId => if_neg (fresh _)
  refine ⟨fun _ _ recorded => ?_, fun _ _ recorded => ?_, fun _ _ => rfl, fun _ _ member => ?_⟩
  all_goals first | cases member | (rw [unrecorded] at recorded; cases recorded)

theorem run_accounted (keeps : runtime.KeepsEscrow) (fresh : start.Fresh runtime)
    (run : Run (LedgerStep runtime) start history state) : Accounted runtime history state :=
  run.history_invariant fresh.accounted (accounted_step keeps)

def Progressed (record later : EscrowMetadata) : Prop :=
  later = { record with status := later.status } ∧
    Relation.ReflTransGen StatusStep record.status later.status

theorem LifecycleStep.opens (step : LifecycleStep none written moved) : written.status = .empty := by
  cases step with
  | record empty => exact empty

variable {record : EscrowMetadata}

theorem LifecycleStep.progressed
    (step : LifecycleStep (some record) written moved) : Progressed record written := by
  cases step with
  | keep => exact ⟨rfl, .refl⟩
  | fund empty => exact ⟨rfl, .single (by rw [empty]; exact .fund)⟩
  | authorize funded => exact ⟨rfl, .single (by rw [funded]; exact .authorize)⟩
  | claim funded =>
    refine ⟨rfl, .single ?_⟩
    revert funded
    cases record.status <;> simp [EscrowStatus.holdsFunds, StatusStep.claim, StatusStep.authorizedClaim]
  | refund funded =>
    refine ⟨rfl, .single ?_⟩
    revert funded
    cases record.status <;> simp [EscrowStatus.holdsFunds, StatusStep.refund, StatusStep.authorizedRefund]

theorem Progressed.trans {first second third : EscrowMetadata} (early : Progressed first second)
    (late : Progressed second third) : Progressed first third := by
  refine ⟨?_, early.2.trans late.2⟩
  rw [late.1, early.1]

theorem Progressed.terminal {later : EscrowMetadata} (progressed : Progressed record later)
    (settled : record.status = .claimed ∨ record.status = .refunded) : later = record := by
  have same : later.status = record.status := by
    rcases progressed.2.cases_head with same | ⟨next, step, _⟩
    · exact same.symm
    · rcases settled with settled | settled <;> rw [settled] at step <;> cases step
  rw [progressed.1, same]

section Accounted

variable (accounted : Accounted runtime history state)
  (recorded : state.accounts.escrow runtime.selfProgramId swapId = some record)
include accounted recorded keeps

theorem step_progressed (step : LedgerStep runtime state event next) :
    ∃ later, next.accounts.escrow runtime.selfProgramId swapId = some later ∧
      Progressed record later := by
  rcases step.cases_escrow keeps accounted swapId with ⟨_, written, _, escrow, _, lifecycle⟩ | ⟨escrow, _⟩
  · rw [recorded] at lifecycle
    exact ⟨written, escrow, lifecycle.progressed⟩
  · exact ⟨record, escrow.trans recorded, rfl, .refl⟩

theorem run_progressed {more : List LedgerEvent} {final : LedgerState}
    (run : Run (LedgerStep runtime) state more final) :
    ∃ later, final.accounts.escrow runtime.selfProgramId swapId = some later ∧
      Progressed record later := by
  have kept : Accounted runtime (history ++ more) final ∧
      ∃ later, final.accounts.escrow runtime.selfProgramId swapId = some later ∧
        Progressed record later := by
    induction run with
    | nil => exact ⟨by simpa using accounted, record, recorded, rfl, .refl⟩
    | snoc _ step previous =>
      obtain ⟨accounted, later, known, progressed⟩ := previous
      obtain ⟨latest, found, further⟩ := step_progressed keeps accounted known step
      rw [← List.append_assoc]
      exact ⟨accounted_step keeps _ _ _ _ accounted step, latest, found, progressed.trans further⟩
  exact kept.2

omit keeps in
theorem foreign_credit {other : Bytes32} {movement : Movement} (different : other ≠ swapId)
    (member : movement ∈ movements other history) (credits : movement.recipient = record.custody) :
    ∃ payer, state.accounts.escrow runtime.selfProgramId other = some payer ∧
      payer.status = .claimed ∧ movement = ⟨payer.custody, payer.claimantAsset, payer.amount⟩ := by
  cases known : state.accounts.escrow runtime.selfProgramId other with
  | none =>
    rw [accounted.unmoved _ known] at member
    cases member
  | some payer =>
    have formed := accounted.formed _ _ known
    have custody := (accounted.formed _ _ recorded).custodyOf
    have notFunding : payer.custody ≠ record.custody := fun same => by
      rw [← same, formed.custodyOf] at custody
      exact different (Option.some.inj custody)
    have notRefund : payer.depositorAsset ≠ record.custody := fun same => by
      rw [← same, formed.depositorAsset.1] at custody
      cases custody
    rw [accounted.moved _ _ known] at member
    refine ⟨payer, rfl, ?_⟩
    unfold EscrowMetadata.settledMovements at member
    cases status : payer.status with
    | empty => simp [status] at member
    | funded | xmrClaimAuthorized =>
      simp only [status, List.mem_singleton] at member
      subst member
      exact absurd credits notFunding
    | claimed =>
      simp only [status, List.mem_cons, List.not_mem_nil, or_false] at member
      rcases member with rfl | rfl
      · exact absurd credits notFunding
      · exact ⟨rfl, rfl⟩
    | refunded =>
      simp only [status, List.mem_cons, List.not_mem_nil, or_false] at member
      rcases member with rfl | rfl
      · exact absurd credits notFunding
      · exact absurd credits notRefund

end Accounted

theorem step_records_empty (keeps : runtime.KeepsEscrow) (accounted : Accounted runtime history state)
    (unrecorded : state.accounts.escrow runtime.selfProgramId swapId = none)
    (step : LedgerStep runtime state event next)
    (recorded : next.accounts.escrow runtime.selfProgramId swapId = some record) : record.status = .empty := by
  rcases step.cases_escrow keeps accounted swapId with ⟨_, _, _, escrow, _, lifecycle⟩ | ⟨escrow, _⟩
  · cases escrow.symm.trans recorded
    rw [unrecorded] at lifecycle
    exact lifecycle.opens
  · cases recorded.symm.trans (escrow.trans unrecorded)

end Runs

section Owners

variable {runtime : Runtime} {signers : List AccountId} {ledger after : Ledger}
  {instruction : Instruction} {record written : EscrowMetadata} {calls : List ChainedCall}
  {swapId : Bytes32}

theorem escrow_owner {program : ProgramId} {swapId : Bytes32} {state : EscrowMetadata}
    (recorded : ledger.escrow program swapId = some state) :
    (ledger (.metadata program swapId)).programOwner = program ∧
      (ledger (.metadata program swapId)).data = .escrow state := by
  unfold escrow at recorded
  split at recorded
  · rename_i owner
    split at recorded
    · rename_i data
      cases recorded
      exact ⟨owner, data⟩
    · cases recorded
  · cases recorded

theorem Commits.owners (commits : Commits runtime signers ledger instruction written calls after)
    (owners : runtime.KeepsOwners) : OwnersKept ledger after := by
  have metadataOwner : (ledger (.metadata runtime.selfProgramId instruction.swapId)).programOwner =
      defaultProgramId ∨
      (ledger (.metadata runtime.selfProgramId instruction.swapId)).programOwner =
        runtime.selfProgramId := by
    cases commits.effect with
    | openNative fresh | openToken fresh =>
      rw [fresh]
      exact .inl rfl
    | createCustody recorded | fundNative recorded | fundToken recorded | authorize recorded
    | settleNative recorded | settleToken recorded => exact .inr (escrow_owner recorded).1
  intro id owned
  have recordedOwner : (ledger.record runtime.selfProgramId instruction.swapId written id).programOwner =
      (ledger id).programOwner := by
    by_cases isMetadata : id = .metadata runtime.selfProgramId instruction.swapId
    · subst isMetadata
      simp only [Ledger.record, set_self]
      exact (metadataOwner.resolve_left owned).symm
    · rw [record_other isMetadata]
  rw [← recordedOwner] at owned ⊢
  exact commits.kept (fun _ _ _ => rfl) owners id owned

/-- The asset program owns the parties' native accounts, and custody once it is funded. -/
structure EscrowMetadata.Owned (record : EscrowMetadata) (ledger : Ledger) : Prop where
  parties : record.assetProgram = record.custodyProgram →
    ∀ party, party = record.claimant ∨ party = record.depositor →
      (ledger party).programOwner = record.assetProgram
  custody : record.status.holdsFunds → (ledger record.custody).programOwner = record.assetProgram

theorem EscrowMetadata.Owned.kept (owned : record.Owned ledger) (program : record.assetProgram ≠ defaultProgramId)
    (owners : OwnersKept ledger after) : record.Owned after := by
  have kept : ∀ id, (ledger id).programOwner = record.assetProgram →
      (after id).programOwner = record.assetProgram := fun id owner => by
    rw [owners id (by rw [owner]; exact program), owner]
  exact ⟨fun native party isParty => kept _ (owned.parties native party isParty),
    fun funded => kept _ (owned.custody funded)⟩

theorem effect_owned
    (owned : ∀ state, ledger.escrow runtime.selfProgramId instruction.swapId = some state → state.Owned ledger)
    (effect : Effect runtime.toProgramContext signers ledger instruction written calls) : written.Owned ledger := by
  cases effect with
  | openNative _ _ opened _ _ _ depositorOwner claimantOwner =>
    refine ⟨fun _ party isParty => ?_, fun funded => ?_⟩
    · rcases isParty with rfl | rfl
      · exact claimantOwner
      · exact depositorOwner
    · rw [opened.status] at funded
      cases funded
  | openToken _ opened layout =>
    refine ⟨fun native => absurd native.symm layout.programs, fun funded => ?_⟩
    rw [opened.status] at funded
    cases funded
  | createCustody recorded => exact owned _ recorded
  | fundNative recorded _ _ owner | fundToken recorded _ owner =>
    exact ⟨(owned _ recorded).parties, fun _ => owner⟩
  | authorize recorded funded =>
    exact ⟨(owned _ recorded).parties, fun _ => (owned _ recorded).custody (by rw [funded]; rfl)⟩
  | settleNative recorded funded | settleToken recorded funded =>
    exact ⟨(owned _ recorded).parties, fun _ => (owned _ recorded).custody funded⟩

theorem run_owned {start state : LedgerState} {history : List LedgerEvent} (keeps : runtime.KeepsEscrow)
    (owners : runtime.KeepsOwners) (fresh : start.Fresh runtime)
    (run : Run (LedgerStep runtime) start history state) :
    ∀ swapId record, state.accounts.escrow runtime.selfProgramId swapId = some record →
      record.Owned state.accounts := by
  induction run with
  | nil =>
    intro swapId record recorded
    exact absurd (escrow_owner recorded).1 (fresh _)
  | snoc previous step owned =>
    have accounted := run_accounted keeps fresh previous
    intro swapId record recorded
    cases step with
    | instruction later processed =>
      obtain ⟨written, _, _, _, commits⟩ := Commits.of_process (accounted.formed _) processed
      have kept := commits.owners owners
      rw [commits.escrow keeps] at recorded
      split at recorded
      · rename_i same
        subst same
        cases recorded
        exact (effect_owned (owned _) commits.effect).kept commits.formed.program kept
      · exact (owned _ _ recorded).kept (accounted.formed _ _ recorded).program kept
    | external later changed =>
      rw [(keeps.external _ _ changed).escrow] at recorded
      exact (owned _ _ recorded).kept (accounted.formed _ _ recorded).program (owners.external _ _ changed)

end Owners

section Holds

variable {runtime : Runtime} {ledger after : Ledger} {record : EscrowMetadata}

theorem heldBy_credited {account credited : Account} {balance : Nat}
    (held : record.heldBy account = some balance) (grown : account.CreditedTo credited) :
    ∃ more, record.heldBy credited = some more ∧ balance ≤ more := by
  unfold EscrowMetadata.heldBy at held ⊢
  cases grown with
  | native more grown =>
    split at held
    · rename_i native
      cases held
      exact ⟨more, if_pos native, grown⟩
    · rename_i token
      exact ⟨balance, by rw [if_neg token]; exact held, Nat.le_refl _⟩
  | token definition before more holding grown =>
    split at held
    · rename_i native
      exact ⟨balance, by rw [if_pos native]; exact held, Nat.le_refl _⟩
    · rename_i token
      simp only [holding] at held
      split at held
      · rename_i same
        cases held
        exact ⟨more, by simp [token, same], grown⟩
      · cases held

theorem EscrowMetadata.Holds.credited (holds : record.Holds ledger)
    (grown : (ledger record.custody).CreditedTo (after record.custody)) : record.Holds after := by
  obtain ⟨owner, balance, held, enough⟩ := holds
  obtain ⟨more, now, larger⟩ := heldBy_credited held grown
  refine ⟨?_, more, now, Nat.le_trans enough larger⟩
  rw [← owner]
  generalize after record.custody = credited at grown
  cases grown <;> rfl

theorem EscrowMetadata.Holds.live (holds : record.Holds ledger) (program : record.assetProgram ≠ defaultProgramId) :
    ledger record.custody ≠ .default := fun fresh => program (by rw [← holds.1, fresh]; rfl)

theorem Commits.holds {signers : List AccountId} {instruction : Instruction}
    {written : EscrowMetadata} {calls : List ChainedCall}
    (commits : Commits runtime signers ledger instruction written calls after)
    (holds : ∀ state, ledger.escrow runtime.selfProgramId instruction.swapId = some state →
      runtime.MovesExactly state → state.status.holdsFunds → state.Holds ledger)
    (moves : runtime.MovesExactly written) (funded : written.status.holdsFunds) :
    ∃ balance, written.heldBy (after written.custody) = some balance ∧ written.amount ≤ balance := by
  have moved := commits.moves moves rfl
  have called := commits.called
  have untouched : ledger.record runtime.selfProgramId instruction.swapId written written.custody =
      ledger written.custody := record_other (custody_ne_metadata commits.formed.custodyOf _)
  cases commits.effect with
  | openNative _ _ opened => rw [opened.status] at funded; cases funded
  | openToken _ opened => rw [opened.status] at funded; cases funded
  | createCustody _ empty => rw [empty] at funded; cases funded
  | fundNative | fundToken =>
    obtain ⟨left, held, _, _, _, now⟩ := moved _ List.mem_cons_self
    exact ⟨_, now, Nat.le_add_left _ _⟩
  | authorize recorded status =>
    cases called
    rw [untouched]
    exact (holds _ recorded moves (by rw [status]; rfl)).2
  | settleNative _ _ pays | settleToken _ _ pays => rcases pays with ⟨rfl, _⟩ | ⟨rfl, _⟩ <;> cases funded

theorem run_holds {start state : LedgerState} {history : List LedgerEvent} (keeps : runtime.KeepsEscrow)
    (owners : runtime.KeepsOwners) (custody : runtime.KeepsCustody) (fresh : start.Fresh runtime)
    (run : Run (LedgerStep runtime) start history state) :
    ∀ swapId record, state.accounts.escrow runtime.selfProgramId swapId = some record →
      runtime.MovesExactly record → record.status.holdsFunds → record.Holds state.accounts := by
  induction run with
  | nil =>
    intro swapId record recorded
    exact absurd (escrow_owner recorded).1 (fresh _)
  | snoc previous step holds =>
    have accounted := run_accounted keeps fresh previous
    have owned := run_owned keeps owners fresh (previous.snoc step)
    intro swapId record recorded moves funded
    have owner := (owned _ _ recorded).custody funded
    cases step with
    | instruction later processed =>
      obtain ⟨written, _, _, _, commits⟩ := Commits.of_process (accounted.formed _) processed
      rw [commits.escrow keeps] at recorded
      split at recorded
      · rename_i same
        subst same
        cases recorded
        exact ⟨owner, commits.holds (holds _) moves funded⟩
      · rename_i different
        have held := holds _ _ recorded moves funded
        have known := accounted.formed _ _ recorded
        exact held.credited (commits.otherCustody custody different known.custodyOf (held.live known.program))
    | external later changed =>
      rw [(keeps.external _ _ changed).escrow] at recorded
      have held := holds _ _ recorded moves funded
      have known := accounted.formed _ _ recorded
      exact held.credited (custody.external _ _ changed _ (by rw [known.custodyOf]; rfl)
        (held.live known.program) nofun)

theorem step_moves {start state next : LedgerState} {history : List LedgerEvent} {swapId : Bytes32}
    {calls : List ChainedCall} (keeps : runtime.KeepsEscrow) (fresh : start.Fresh runtime)
    (run : Run (LedgerStep runtime) start history state)
    (recorded : state.accounts.escrow runtime.selfProgramId swapId = some record)
    (moves : runtime.MovesExactly record) (step : LedgerStep runtime state (.instruction swapId calls) next) :
    ∀ moved ∈ calls.filterMap movement, moved.Moves record state.accounts next.accounts := by
  have accounted := run_accounted keeps fresh run
  cases step with
  | instruction later processed =>
    obtain ⟨written, _, _, _, commits⟩ := Commits.of_process (accounted.formed _) processed
    have lifecycle := commits.lifecycle
    refine commits.moves moves ?_
    rw [recorded] at lifecycle
    rw [lifecycle.progressed.1]

end Holds

section Sample

/-- A native transfer program (2) and an associated token program (3) over a token program (4). -/
def sampleCall (signers : List AccountId) (ledger : Ledger) : ChainedCall → Option Ledger
  | .nativeInitialize program custody =>
    if program = 2 ∧ ledger custody = .default then some (ledger.set custody ⟨2, 0, .none⟩) else none
  | .nativeTransfer program sender recipient amount lent =>
    if program = 2 ∧ (sender ∈ signers ∨ lent = some sender) ∧ sender ≠ recipient ∧
        (ledger sender).programOwner = 2 ∧ (ledger recipient).programOwner = 2 ∧
        amount ≤ (ledger sender).balance ∧ (ledger recipient).balance + amount < u128Limit then
      some ((ledger.set sender { ledger sender with balance := (ledger sender).balance - amount }).set
        recipient { ledger recipient with balance := (ledger recipient).balance + amount })
    else none
  | .ataCreate program owner definition account =>
    if program = 3 ∧ account = .associatedToken 3 owner definition ∧ ledger account = .default then
      some (ledger.set account ⟨4, 0, .fungibleHolding definition 0⟩)
    else none
  | .ataTransfer program owner sender recipient amount lent =>
    match (ledger sender).data, (ledger recipient).data with
    | .fungibleHolding definition available, .fungibleHolding other held =>
      if program = 3 ∧ (owner ∈ signers ∨ lent = some owner) ∧ sender ≠ recipient ∧
          (ledger sender).programOwner = 4 ∧ (ledger recipient).programOwner = 4 ∧
          sender = .associatedToken 3 owner definition ∧ other = definition ∧ amount ≤ available ∧
          held + amount < u128Limit then
        some ((ledger.set sender
          { ledger sender with data := .fungibleHolding definition (available - amount) }).set
          recipient { ledger recipient with data := .fungibleHolding definition (held + amount) })
      else none
    | _, _ => none

/-- Foreign transactions of the sample: one account that is not the escrow's is credited, or none. -/
def sampleExternal (before after : Ledger) : Prop :=
  after = before ∨ ∃ id account, (before id).programOwner ≠ 1 ∧ (before id).CreditedTo account ∧
    after = before.set id account

def sampleRuntime : Runtime where
  selfProgramId := 1
  sha256 := (· + 1)
  xmrClaimPartialCommitment := (· + ·)
  call := sampleCall
  external := sampleExternal
  deployed := by decide

/-- What the sample programs do to any one account. -/
def Rewritten (authorised : Option AccountId) (before after : Ledger) : Prop :=
  ∀ id, after id = before id ∨ (before id).programOwner ≠ 1 ∧ (after id).programOwner ≠ 1 ∧
    (before id = .default ∨ (after id).programOwner = (before id).programOwner ∧
      ((id.custodyOf 1).isSome → authorised ≠ some id → (before id).CreditedTo (after id)))

theorem sampleTransfer_rewritten {ledger : Ledger} {authorised : Option AccountId} {sender recipient : AccountId}
    {debited credited : Account} (different : sender ≠ recipient)
    (foreign : (ledger sender).programOwner ≠ 1 ∧ (ledger recipient).programOwner ≠ 1)
    (owner : debited.programOwner = (ledger sender).programOwner)
    (lent : (sender.custodyOf 1).isSome → authorised = some sender)
    (grown : (ledger recipient).CreditedTo credited) :
    Rewritten authorised ledger ((ledger.set sender debited).set recipient credited) := by
  intro id
  by_cases isRecipient : id = recipient
  · subst isRecipient
    have kept : credited.programOwner = (ledger id).programOwner := by cases grown <;> rfl
    rw [set_self]
    exact .inr ⟨foreign.2, kept ▸ foreign.2, .inr ⟨kept, fun _ _ => grown⟩⟩
  · rw [set_other _ _ isRecipient]
    by_cases isSender : id = sender
    · subst isSender
      rw [set_self]
      exact .inr ⟨foreign.1, owner ▸ foreign.1, .inr ⟨owner, fun custody other =>
        absurd (lent custody) other⟩⟩
    · exact .inl (set_other _ _ isSender)

theorem sampleCreation_rewritten {ledger : Ledger} {authorised : Option AccountId} {created : AccountId}
    {account : Account} (fresh : ledger created = .default) (foreign : account.programOwner ≠ 1) :
    Rewritten authorised ledger (ledger.set created account) := by
  intro id
  by_cases same : id = created
  · subst same
    rw [set_self, fresh]
    exact .inr ⟨by decide, foreign, .inl rfl⟩
  · exact .inl (set_other _ _ same)

theorem sampleRuntime_rewrites : sampleRuntime.Keeps Rewritten := by
  refine ⟨fun signers ledger call after canSign _ called => ?_, fun before after changed => ?_⟩
  · change sampleCall signers ledger call = some after at called
    cases call with
    | nativeInitialize program custody =>
      simp only [sampleCall, Option.ite_none_right_eq_some, Option.some.injEq] at called
      obtain ⟨⟨_, fresh⟩, rfl⟩ := called
      exact sampleCreation_rewritten fresh (by decide)
    | nativeTransfer program sender recipient amount lent =>
      simp only [sampleCall, Option.ite_none_right_eq_some, Option.some.injEq] at called
      obtain ⟨⟨_, authorised, different, owner, recipientOwner, _⟩, rfl⟩ := called
      refine sampleTransfer_rewritten different (by rw [owner, recipientOwner]; decide) rfl ?_
        (.native _ _ (Nat.le_add_right _ _))
      intro custody
      rcases authorised with signed | lent
      · have plain : sender.custodyOf 1 = none := (canSign sender signed).2
        rw [plain] at custody
        cases custody
      · exact if_pos lent
    | ataCreate program owner definition account =>
      simp only [sampleCall, Option.ite_none_right_eq_some, Option.some.injEq] at called
      obtain ⟨⟨_, _, fresh⟩, rfl⟩ := called
      exact sampleCreation_rewritten fresh (show (4 : ProgramId) ≠ 1 by decide)
    | ataTransfer program owner sender recipient amount lent =>
      simp only [sampleCall] at called
      split at called
      · rename_i definition available other held _ receives
        simp only [Option.ite_none_right_eq_some, Option.some.injEq] at called
        obtain ⟨⟨_, authorised, different, sendsOwner, recipientOwner, derived, rfl, _⟩, rfl⟩ := called
        refine sampleTransfer_rewritten different (by rw [sendsOwner, recipientOwner]; decide) rfl ?_
          (.token _ _ held _ receives (Nat.le_add_right _ _))
        intro custody
        rcases authorised with signed | lent
        · -- A token account in custody belongs to a metadata account, which cannot sign.
          have plain : owner.derivedBy 1 = false := (canSign owner signed).1
          rw [derived] at custody
          cases owner <;> simp_all [AccountId.custodyOf, AccountId.derivedBy]
        · exact if_pos lent
      · cases called
  · rcases changed with rfl | ⟨id, account, foreign, grown, rfl⟩
    · exact fun id => .inl rfl
    · intro other
      by_cases same : other = id
      · subst same
        have kept : account.programOwner = (before other).programOwner := by cases grown <;> rfl
        rw [set_self]
        exact .inr ⟨foreign, kept ▸ foreign, .inr ⟨kept, fun _ _ => grown⟩⟩
      · exact .inl (set_other _ _ same)

theorem Runtime.Keeps.mono {runtime : Runtime} {weak strong : Option AccountId → Ledger → Ledger → Prop}
    (keeps : runtime.Keeps strong)
    (weaker : ∀ authorised before after, strong authorised before after → weak authorised before after) :
    runtime.Keeps weak :=
  ⟨fun _ _ _ _ canSign foreign called => weaker _ _ _ (keeps.called _ _ _ _ canSign foreign called),
    fun _ _ changed => weaker _ _ _ (keeps.external _ _ changed)⟩

theorem sampleRuntime_keepsEscrow : sampleRuntime.KeepsEscrow :=
  sampleRuntime_rewrites.mono fun _ before after rewritten => by
    refine ⟨fun id owned => ?_, fun id owned => ?_⟩
    · rcases rewritten id with same | ⟨foreign, _⟩
      · rw [same]
        exact ⟨owned, rfl⟩
      · exact absurd owned foreign
    · rcases rewritten id with same | ⟨_, foreign, _⟩
      · rw [← same]
        exact owned
      · exact absurd owned foreign

theorem sampleRuntime_keepsOwners : sampleRuntime.KeepsOwners :=
  sampleRuntime_rewrites.mono fun _ before after rewritten id owned => by
    rcases rewritten id with same | ⟨_, _, fresh | ⟨owner, _⟩⟩
    · rw [same]
    · exact absurd (by rw [fresh]; rfl) owned
    · exact owner

theorem sampleRuntime_keepsCustody : sampleRuntime.KeepsCustody :=
  sampleRuntime_rewrites.mono fun authorised before after rewritten id custody live other => by
    rcases rewritten id with same | ⟨_, _, fresh | ⟨_, grown⟩⟩
    · rw [same]
      exact .native _ _ (Nat.le_refl _)
    · exact absurd fresh live
    · exact grown custody other

theorem sampleRuntime_movesExactly {record : EscrowMetadata} (native : record.assetProgram = record.custodyProgram)
    (program : record.custodyProgram = 2) : sampleRuntime.MovesExactly record := by
  intro signers ledger call after movement named moves different called
  change sampleCall signers ledger call = some after at called
  cases call with
  | nativeInitialize | ataCreate => cases moves
  | nativeTransfer =>
    cases moves
    simp only [sampleCall, Option.ite_none_right_eq_some, Option.some.injEq] at called
    obtain ⟨⟨_, _, _, _, _, enough, _⟩, rfl⟩ := called
    simp only [Movement.Moves, EscrowMetadata.heldBy, if_pos native, set_self, set_other _ _ different]
    exact ⟨_, _, by rw [Nat.sub_add_cancel enough], rfl, rfl, rfl⟩
  | ataTransfer =>
    have same := named.trans program
    simp only [sampleCall] at called
    split at called
    · simp only [Option.ite_none_right_eq_some] at called
      cases called.1.1.symm.trans same
    · cases called

def sampleDepositor : AccountId := .witnessed 10

def sampleClaimant : AccountId := .witnessed 11

def sampleDefinition : AccountId := .witnessed 12

def sampleStart : LedgerState where
  accounts := fun id =>
    if id = sampleDepositor then ⟨2, 100, .none⟩
    else if id = sampleClaimant then ⟨2, 0, .none⟩
    else if id = sampleDefinition then ⟨4, 0, .fungibleDefinition⟩
    else if id = .associatedToken 3 sampleDepositor sampleDefinition then
      ⟨4, 0, .fungibleHolding sampleDefinition 100⟩
    else .default
  timestamp := 0

theorem sampleStart_fresh : sampleStart.Fresh sampleRuntime := by
  intro id
  simp only [sampleStart, sampleRuntime]
  repeat' split
  all_goals decide

def sampleInputs : List (Nat × Transaction) :=
  let metadata := AccountId.metadata 1 7
  let custody := AccountId.custody 1 7
  [(10, ⟨.initializeNative 7 3 6 100 50 2, [metadata, custody, sampleDepositor, sampleClaimant],
      [sampleDepositor]⟩),
    (20, ⟨.fundNative 7, [metadata, custody, sampleDepositor], [sampleDepositor]⟩),
    (30, ⟨.claimNative 7 5, [metadata, custody, sampleClaimant], [sampleClaimant]⟩)]

theorem sampleExternal_idle (ledger : Ledger) : sampleRuntime.external ledger ledger := .inl rfl

def sampleFunded : LedgerState × List LedgerEvent :=
  replay (LedgerState.submit sampleRuntime) sampleStart (sampleInputs.take 2)

def sampleRecord : EscrowMetadata where
  version := 2
  swapId := 7
  termsHash := 3
  claimAuthority := .sha256Preimage 6
  depositor := sampleDepositor
  depositorAsset := sampleDepositor
  claimant := sampleClaimant
  claimantAsset := sampleClaimant
  custody := .custody 1 7
  assetProgram := 2
  custodyProgram := 2
  assetDefinition := .zero
  amount := 100
  refundAt := 50
  status := .funded

end Sample

end AtomicSwaps.Escrow
