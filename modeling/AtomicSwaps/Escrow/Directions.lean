import AtomicSwaps.Escrow.Settlement

namespace AtomicSwaps.Escrow

variable {instruction : Instruction}

open AtomicSwaps.Core (Bytes32)
open Fallible Transition EscrowMetadata

inductive Direction
  | claim | refund | punish
deriving DecidableEq

def Instruction.direction : Instruction → Option Direction
  | .claimNative _ _ | .claimNativeWitnessed _ | .claimToken _ _ | .claimTokenWitnessed _
  | .claimNativeXmr _ => some .claim
  | .refundNative _ | .refundToken _ | .refundNativeXmr _ => some .refund
  | .punishNativeXmr _ => some .punish
  | _ => none

theorem Instruction.initializes_undirected (initializes : instruction.initializes = true) :
    instruction.direction = none := by
  cases instruction <;> first | rfl | cases initializes

theorem Instruction.prepares_undirected (prepares : instruction.prepares = true) :
    instruction.direction = none := by
  cases instruction <;> first | rfl | cases prepares

/-- When each direction is open under the recorded terms; only an XMR escrow can be punished. -/
def EscrowMetadata.opens (record : EscrowMetadata) (timestamp : Nat) : Direction → Prop
  | .claim => timestamp < record.refundAt
  | .refund => record.refundAt ≤ timestamp ∧
      ∀ punishAt, record.claimAuthority.punishAt = some punishAt → timestamp < punishAt
  | .punish => ∃ punishAt, record.claimAuthority.punishAt = some punishAt ∧ punishAt ≤ timestamp

/-- The custody account of a native escrow holds no token, whose definition would be the all-zero account. -/
def EscrowMetadata.PlainCustody (record : EscrowMetadata) (ledger : Ledger) : Prop :=
  record.assetProgram = record.custodyProgram →
    ∀ balance, (ledger record.custody).data ≠ .fungibleHolding .zero balance

section Windows

variable {runtime : Runtime} {signers : List AccountId} {ledger : Ledger} {record : EscrowMetadata}
  {instruction : Instruction} {status : EscrowStatus} {window : ValidityWindow} {swapId : Bytes32}
  {purpose : XmrWitnessPurpose} {ctx : ProgramContext} {timestamp : Nat} {state : EscrowMetadata}
  {aggregate : AccountId}

theorem ClaimAuthority.punishAt_plain {authority : ClaimAuthority} (plain : authority.isXmr = false) :
    authority.punishAt = none := by
  cases authority with
  | sha256Preimage | aggregateWitness => rfl
  | xmrDualAdaptor => cases plain

theorem tokenHolding_plain (formed : record.WellFormed runtime swapId) (plain : record.PlainCustody ledger)
    {amount : Nat} (held : (ledger record.custody).data = .fungibleHolding record.assetDefinition amount) :
    record.assetProgram ≠ record.custodyProgram ∧ record.claimAuthority.isXmr = false := by
  rcases formed.layout with native | ⟨token, notXmr⟩
  · exact absurd (native.definition ▸ held) (plain native.programs.symm _)
  · exact ⟨fun native => token.programs native.symm, notXmr⟩

theorem settles_window {direction : Direction} (formed : record.WellFormed runtime swapId)
    (plainCustody : record.claimAuthority.isXmr = true → record.PlainCustody ledger)
    (directed : instruction.direction = some direction)
    (settles : Settles ctx signers ledger record instruction status window) (timestamp : Nat) :
    window.contains timestamp ↔ record.opens timestamp direction := by
  cases settles with
  | claimNative | claimNativeWitnessed | claimToken | claimTokenWitnessed | claimNativeXmr =>
    cases directed
    exact windowBefore_contains
  | refundNative native plain =>
    cases directed
    simp [opens, ClaimAuthority.punishAt_plain plain]
  | refundToken held =>
    cases directed
    have notXmr : record.claimAuthority.isXmr = false := by
      cases xmr : record.claimAuthority.isXmr with
      | false => rfl
      | true => exact xmr ▸ (tokenHolding_plain formed (plainCustody xmr) held).2
    simp [opens, ClaimAuthority.punishAt_plain notXmr]
  | refundNativeXmr deadline =>
    cases directed
    simp [opens, deadline, ValidityWindow.contains]
  | punishNativeXmr deadline =>
    cases directed
    simp [opens, deadline]

theorem EscrowMetadata.XmrOrdered.punishAt {punishAt : Nat} (ordered : record.XmrOrdered)
    (deadline : record.claimAuthority.punishAt = some punishAt) : record.refundAt < punishAt := by
  unfold EscrowMetadata.XmrOrdered at ordered
  cases recorded : record.claimAuthority with
  | sha256Preimage | aggregateWitness =>
    rw [recorded] at deadline
    cases deadline
  | xmrDualAdaptor =>
    rw [recorded] at deadline ordered
    cases deadline
    exact ordered.1

theorem opens_exactly_one (ordered : record.XmrOrdered) (timestamp : Nat) :
    ∃ direction, record.opens timestamp direction ∧
      ∀ other, record.opens timestamp other → other = direction := by
  by_cases early : timestamp < record.refundAt
  · refine ⟨.claim, early, fun other opened => ?_⟩
    cases other with
    | claim => rfl
    | refund => exact absurd opened.1 (Nat.not_le.mpr early)
    | punish =>
      obtain ⟨punishAt, deadline, due⟩ := opened
      have := ordered.punishAt deadline
      omega
  · by_cases due : record.opens timestamp .punish
    · refine ⟨.punish, due, fun other opened => ?_⟩
      cases other with
      | claim => exact absurd opened early
      | refund =>
        obtain ⟨punishAt, deadline, reached⟩ := due
        have := opened.2 punishAt deadline
        omega
      | punish => rfl
    · refine ⟨.refund, ⟨Nat.not_lt.mp early, fun punishAt deadline => ?_⟩, fun other opened => ?_⟩
      · exact Nat.not_le.mp fun reached => due ⟨punishAt, deadline, reached⟩
      · cases other with
        | claim => exact absurd opened early
        | refund => rfl
        | punish => exact absurd opened due

def invalidRefundWindow : SpelError :=
  customError errorInvalidTerms "invalid XMR signed refund validity window"

theorem xmrWitnessAuthority_punishAt {punishAt : Nat}
    (proven : requireXmrWitnessAuthority state purpose aggregate = .ok punishAt) :
    state.claimAuthority.punishAt = some punishAt := by
  unfold requireXmrWitnessAuthority at proven
  split at proven
  · rename_i recorded
    simp only [bind_ok_iff, pure_ok] at proven
    obtain ⟨_, _, rfl⟩ := proven
    exact congrArg ClaimAuthority.punishAt recorded
  · cases proven

theorem requireOwned_ne_window {account : AccountWithMetadata} :
    requireOwned ctx account swapId ≠ .error invalidRefundWindow :=
  bind_ne_error (ensure_ne_error fun _ => nofun) fun _ _ => ensure_ne_error fun _ => nofun

theorem xmrWitnessAuthority_ne_window :
    requireXmrWitnessAuthority state purpose aggregate ≠ .error invalidRefundWindow := by
  unfold requireXmrWitnessAuthority
  split
  · exact bind_ne_error (ensure_ne_error fun _ => by decide) fun _ _ => nofun
  · exact fun same => absurd (Except.error.inj same) (by decide)

theorem validatedXmrNativeWitnessState_ne_window {metadata custody recipient aggregate : AccountWithMetadata} :
    validatedXmrNativeWitnessState metadata custody recipient aggregate swapId purpose ≠
      .error invalidRefundWindow := by
  unfold validatedXmrNativeWitnessState
  refine bind_ne_error ?_ fun state _ => ?_
  · unfold readMetadata
    split <;> nofun
  · refine bind_ne_error (ensure_ne_error fun _ => by decide) fun _ _ => ?_
    refine bind_ne_error (ensure_ne_error fun _ => by decide) fun _ _ => ?_
    exact bind_ne_error xmrWitnessAuthority_ne_window fun _ _ => nofun

/-- The last check of the signed refund is met by the recorded terms. -/
theorem refundNativeXmr_ne_window {metadata custody depositor authority : AccountId}
    (ordered : ∀ state, ledger.escrow ctx.selfProgramId swapId = some state → state.XmrOrdered) :
    refundNativeXmr ctx (ledger.load signers metadata) (ledger.load signers custody)
      (ledger.load signers depositor) (ledger.load signers authority) swapId ≠ .error invalidRefundWindow := by
  unfold refundNativeXmr
  refine bind_ne_error requireOwned_ne_window fun _ owned => ?_
  refine bind_ne_error (ensure_ne_error fun _ => by rintro ⟨⟩) fun _ _ => ?_
  refine bind_ne_error (ensure_ne_error fun _ => by rintro ⟨⟩) fun _ _ => ?_
  refine bind_ne_error validatedXmrNativeWitnessState_ne_window fun validated passed => ?_
  simp only [validatedXmrNativeWitnessState, checked_ok, readMetadata_ok, exists_const, pure_ok] at passed
  obtain ⟨state, data, _, _, punishAt, proven, rfl⟩ := passed
  have recorded := requireOwned_recorded owned data
  have due := (ordered state recorded).punishAt (xmrWitnessAuthority_punishAt proven)
  exact bind_ne_error (ensure_ne_error fun unordered => absurd due unordered) fun _ _ => by rintro ⟨⟩

end Windows

section Runs

variable {runtime : Runtime} {state : LedgerState} {record : EscrowMetadata} {swapId : Bytes32}
  {timestamp : Nat} {transaction : Transaction} {direction : Direction} {output : SpelOutput}

structure Reached (runtime : Runtime) (state : LedgerState) (swapId : Bytes32) (record : EscrowMetadata) :
    Prop where
  recorded : state.accounts.escrow runtime.selfProgramId swapId = some record
  formed : record.WellFormed runtime swapId
  plain : record.claimAuthority.isXmr = true → record.PlainCustody state.accounts

theorem run_reached {start : LedgerState} {history : List LedgerEvent} (keeps : runtime.KeepsEscrow)
    (fresh : start.Fresh runtime) (run : Run (LedgerStep runtime) start history state)
    (recorded : state.accounts.escrow runtime.selfProgramId swapId = some record)
    (plain : record.claimAuthority.isXmr = true → record.PlainCustody state.accounts) :
    Reached runtime state swapId record :=
  ⟨recorded, (run_accounted keeps fresh run).formed swapId record recorded, plain⟩

section Directed

variable (reached : Reached runtime state swapId record)
  (own : transaction.instruction.swapId = swapId)
  (directed : transaction.instruction.direction = some direction)
include reached own directed

theorem dispatch_window (accepted : dispatch runtime.toProgramContext transaction.instruction
      (transaction.accountIds.map (state.accounts.load transaction.signers)) = .ok output) (timestamp : Nat) :
    output.window.contains timestamp ↔ record.opens timestamp direction := by
  subst own
  obtain ⟨written, _, _, writes, _⟩ := dispatch_runs accepted
  generalize transaction.instruction = instruction at directed writes reached
  generalize output.window = window at writes
  cases writes with
  | opens initializes => cases (Instruction.initializes_undirected initializes).symm.trans directed
  | prepare _ prepares => cases (Instruction.prepares_undirected prepares).symm.trans directed
  | authorize => cases directed
  | settle recorded settles =>
    cases reached.recorded.symm.trans recorded
    exact settles_window reached.formed reached.plain directed settles timestamp

theorem process_opens (processed : (state.accounts.process runtime timestamp transaction).isOk) :
    record.opens timestamp direction := by
  obtain ⟨_, _, output, accepted, timely, _⟩ := process_isOk.mp processed
  exact (dispatch_window reached own directed accepted timestamp).mp timely

end Directed

theorem authorize_timely {claimPartial : Bytes32} (reached : Reached runtime state swapId record)
    (authorizes : transaction.instruction = .authorizeNativeXmrClaim swapId claimPartial)
    (processed : (state.accounts.process runtime timestamp transaction).isOk) : timestamp < record.refundAt := by
  obtain ⟨_, _, output, accepted, timely, _⟩ := process_isOk.mp processed
  rw [authorizes] at accepted
  obtain ⟨written, _, _, writes, _⟩ := dispatch_runs accepted
  generalize output.window = window at writes timely
  cases writes with
  | opens initializes => cases initializes
  | prepare _ prepares => cases prepares
  | authorize recorded =>
    cases reached.recorded.symm.trans recorded
    exact windowBefore_contains.mp timely
  | settle recorded settles => cases settles

end Runs

section Covered

variable {runtime : Runtime} {ledger : Ledger} {record : EscrowMetadata} {swapId : Bytes32} {timestamp : Nat}

/-- A handler of the direction accepts the recorded accounts and the right authority, and its window is open. -/
def EscrowMetadata.Serves (record : EscrowMetadata) (runtime : Runtime) (ledger : Ledger) (swapId : Bytes32)
    (timestamp : Nat) (direction : Direction) : Prop :=
  ∃ instruction others signers output, Instruction.swapId instruction = swapId ∧
    instruction.direction = some direction ∧
    dispatch runtime.toProgramContext instruction ((AccountId.metadata runtime.selfProgramId swapId ::
      record.custody :: others).map (ledger.load signers)) = .ok output ∧
    output.window.contains timestamp

/-- What the guards ask of the accounts and the claimant: custody holds the amount, the token accounts of a token
    escrow exist, and a preimage is known. -/
structure EscrowMetadata.Ready (record : EscrowMetadata) (runtime : Runtime) (ledger : Ledger) : Prop where
  held : record.HoldsExactly ledger
  holding : record.assetProgram ≠ record.custodyProgram →
    record.PaysHolding ledger record.claimantAsset ∧ record.PaysHolding ledger record.depositorAsset
  known : ∀ digest, record.claimAuthority = .sha256Preimage digest →
    ∃ preimage, runtime.sha256 preimage = digest

variable (settleable : Settleable runtime ledger record swapId) (ready : record.Ready runtime ledger)
include ready

theorem settled_serves (signers : List AccountId) {instruction : Instruction} {others : List AccountId}
    {status : EscrowStatus} {recipient : AccountId} {window : ValidityWindow} {direction : Direction}
    (settled : record.SettledBy runtime ledger signers swapId instruction others status recipient window)
    (paid : record.assetProgram ≠ record.custodyProgram → record.PaysHolding ledger recipient)
    (own : instruction.swapId = swapId) (directed : instruction.direction = some direction)
    (timely : window.contains timestamp) : record.Serves runtime ledger swapId timestamp direction :=
  ⟨instruction, others, signers, _, own, directed, (settled _).mpr ⟨paid, ready.held, rfl⟩, timely⟩

include settleable

theorem claim_serves (plain : record.claimAuthority.isXmr = false → record.status = .funded)
    (authorized : record.claimAuthority.isXmr = true → record.status = .xmrClaimAuthorized)
    (early : timestamp < record.refundAt) : record.Serves runtime ledger swapId timestamp .claim := by
  have timely := windowBefore_contains.mpr early
  cases authority : record.claimAuthority with
  | sha256Preimage digest =>
    have funded := plain (by rw [authority]; rfl)
    obtain ⟨preimage, opens⟩ := ready.known digest authority
    by_cases native : record.assetProgram = record.custodyProgram
    · have settled := claimNative_settles settleable native authority opens funded (List.mem_singleton_self _)
      exact settled_serves ready _ settled (absurd native) rfl rfl timely
    · have settled := claimToken_settles settleable native authority opens funded (List.mem_singleton_self _)
      exact settled_serves ready _ settled (ready.holding · |>.1) rfl rfl timely
  | aggregateWitness key account =>
    have funded := plain (by rw [authority]; rfl)
    by_cases native : record.assetProgram = record.custodyProgram
    · have settled := claimNativeWitnessed_settles settleable native authority funded (List.mem_singleton_self _)
      exact settled_serves ready _ settled (absurd native) rfl rfl timely
    · have settled := claimTokenWitnessed_settles settleable native authority funded (List.mem_singleton_self _)
      exact settled_serves ready _ settled (ready.holding · |>.1) rfl rfl timely
  | xmrDualAdaptor =>
    have settled := claimNativeXmr_settles settleable authority (authorized (by rw [authority]; rfl))
      (List.mem_singleton_self _)
    exact settled_serves ready _ settled (absurd (settleable.formed.xmrNative authority)) rfl rfl timely

theorem refund_serves (plain : record.claimAuthority.isXmr = false → record.status = .funded)
    (opened : record.opens timestamp .refund) : record.Serves runtime ledger swapId timestamp .refund := by
  obtain ⟨due, early⟩ := opened
  cases authority : record.claimAuthority with
  | sha256Preimage | aggregateWitness =>
    have notXmr : record.claimAuthority.isXmr = false := by rw [authority]; rfl
    by_cases native : record.assetProgram = record.custodyProgram
    · exact settled_serves ready [] (refundNative_settles settleable native notXmr (plain notXmr))
        (absurd native) rfl rfl (windowFrom_contains.mpr due)
    · exact settled_serves ready [] (refundToken_settles settleable native (plain notXmr))
        (ready.holding · |>.2) rfl rfl (windowFrom_contains.mpr due)
  | xmrDualAdaptor =>
    have settled := refundNativeXmr_settles settleable authority settleable.fundsHeld (List.mem_singleton_self _)
    refine settled_serves ready _ settled (absurd (settleable.formed.xmrNative authority)) rfl rfl ?_
    have before := early _ (congrArg ClaimAuthority.punishAt authority)
    simp [ValidityWindow.contains, due, before]

theorem punish_serves (opened : record.opens timestamp .punish) :
    record.Serves runtime ledger swapId timestamp .punish := by
  obtain ⟨punishAt, deadline, due⟩ := opened
  cases authority : record.claimAuthority with
  | sha256Preimage | aggregateWitness =>
    rw [authority] at deadline
    cases deadline
  | xmrDualAdaptor =>
    rw [authority] at deadline
    cases deadline
    have settled := punishNativeXmr_settles settleable authority settleable.fundsHeld (List.mem_singleton_self _)
    exact settled_serves ready _ settled (absurd (settleable.formed.xmrNative authority)) rfl rfl
      (windowFrom_contains.mpr due)

end Covered

section Status

variable {runtime : Runtime} {ledger : Ledger} {record : EscrowMetadata} {swapId : Bytes32}
  {status : EscrowStatus}

theorem Settleable.withStatus (settleable : Settleable runtime ledger record swapId)
    (funded : status.holdsFunds) :
    Settleable runtime (ledger.record runtime.selfProgramId swapId { record with status })
      { record with status } swapId := by
  have kept : ∀ id, id ≠ .metadata runtime.selfProgramId swapId →
      ledger.record runtime.selfProgramId swapId { record with status } id = ledger id :=
    fun id => record_other
  refine ⟨record_escrow_self .., settleable.formed.withStatus _, funded, fun native party isParty => ?_,
    fun _ => ?_⟩
  · rw [kept party (settleable.party native isParty).1]
    exact settleable.owned.parties native party isParty
  · rw [kept _ (custody_ne_metadata settleable.formed.custodyOf _)]
    exact settleable.owned.custody settleable.fundsHeld

theorem Settleable.ready (settleable : Settleable runtime ledger record swapId)
    (ready : record.Ready runtime ledger) (status : EscrowStatus) :
    EscrowMetadata.Ready { record with status } runtime
      (ledger.record runtime.selfProgramId swapId { record with status }) := by
  have kept : ∀ id, id ≠ .metadata runtime.selfProgramId swapId →
      ledger.record runtime.selfProgramId swapId { record with status } id = ledger id :=
    fun id => record_other
  refine ⟨?_, fun token => ?_, ready.known⟩
  · rw [HoldsExactly, kept _ (custody_ne_metadata settleable.formed.custodyOf _)]
    exact ready.held
  · rw [PaysHolding, PaysHolding, kept _ settleable.formed.payee.2, kept _ settleable.formed.depositorAsset.2]
    exact ready.holding token

end Status

section Sample

def sampleXmrInputs : List (Nat × Transaction) :=
  [(10, ⟨.initializeNativeXmr 9 3 ⟨20, 21, 1, 2, 3, 7, 2 ^ 64 - 1⟩ 100 (2 ^ 64 - 2) 2,
      [.metadata 1 9, .custody 1 9, sampleDepositor, sampleClaimant, .witnessed 20, .witnessed 21],
      [sampleDepositor]⟩),
    (20, ⟨.fundNative 9, [.metadata 1 9, .custody 1 9, sampleDepositor], [sampleDepositor]⟩)]

def sampleXmr : LedgerState × List LedgerEvent :=
  replay (LedgerState.submit sampleRuntime) sampleStart sampleXmrInputs

def sampleXmrPunish : Transaction :=
  ⟨.punishNativeXmr 9, [.metadata 1 9, .custody 1 9, sampleClaimant], [sampleClaimant]⟩

end Sample

end AtomicSwaps.Escrow
