import AtomicSwaps.Escrow.Directions

namespace AtomicSwaps.Escrow

open AtomicSwaps.Core (Bytes32)
open Fallible Transition

inductive TracedStep (runtime : Runtime) (state : LedgerState) : Option (Nat × Transaction) → LedgerState → Prop
  | instruction {timestamp : Nat} {transaction : Transaction} {accounts : Ledger}
      {calls : List ChainedCall} (later : state.timestamp ≤ timestamp)
      (processed : state.accounts.process runtime timestamp transaction = .ok (accounts, calls)) :
      TracedStep runtime state (some (timestamp, transaction)) ⟨accounts, timestamp⟩
  | external {timestamp : Nat} {accounts : Ledger} (later : state.timestamp ≤ timestamp)
      (changed : runtime.external state.accounts accounts) :
      TracedStep runtime state none ⟨accounts, timestamp⟩

/-- The depositor of an XMR escrow has released the claim partial they committed to. -/
def Released (runtime : Runtime) (trace : List (Option (Nat × Transaction))) (swapId : Bytes32)
    (record : EscrowMetadata) : Prop :=
  ∃ timestamp transaction claimPartial, some (timestamp, transaction) ∈ trace ∧
    transaction.instruction = .authorizeNativeXmrClaim swapId claimPartial ∧
    record.depositor ∈ transaction.signers ∧
    record.claimAuthority.commitsTo runtime.toProgramContext claimPartial

/-- The settlements that each recorded authority admits. -/
structure OwnAuthority (runtime : Runtime) (trace : List (Option (Nat × Transaction))) (swapId : Bytes32)
    (record : EscrowMetadata) (timestamp : Nat) (transaction : Transaction) (status : EscrowStatus) : Prop where
  preimage : ∀ digest, record.claimAuthority = .sha256Preimage digest → status = .claimed →
    ∃ preimage, transaction.instruction =
        (if record.assetProgram = record.custodyProgram then .claimNative swapId preimage
          else .claimToken swapId preimage) ∧
      record.claimant ∈ transaction.signers ∧ runtime.sha256 preimage = digest
  witness : ∀ key account, record.claimAuthority = .aggregateWitness key account → status = .claimed →
    transaction.instruction =
        (if record.assetProgram = record.custodyProgram then .claimNativeWitnessed swapId
          else .claimTokenWitnessed swapId) ∧
      witnessedAccountId key ∈ transaction.signers
  xmrClaim : ∀ punishAt, record.claimAuthority.punishAt = some punishAt → status = .claimed →
    timestamp < punishAt → transaction.instruction = .claimNativeXmr swapId ∧
      (∃ key, record.claimAuthority.claimKey = some key ∧ witnessedAccountId key ∈ transaction.signers) ∧
      Released runtime trace swapId record
  xmrRefund : record.claimAuthority.isXmr = true → status = .refunded →
    transaction.instruction = .refundNativeXmr swapId ∧
      ∃ key, record.claimAuthority.refundKey = some key ∧ witnessedAccountId key ∈ transaction.signers
  xmrOnly : record.claimAuthority.isXmr = true → status = .claimed ∨ status = .refunded →
    transaction.instruction ∈
      [.claimNativeXmr swapId, .refundNativeXmr swapId, .punishNativeXmr swapId]

section Steps

variable {runtime : Runtime} {state next start : LedgerState} {event : Option (Nat × Transaction)}
  {trace : List (Option (Nat × Transaction))} {swapId : Bytes32} {record later : EscrowMetadata}
  {timestamp : Nat} {transaction : Transaction} {after : Ledger} {calls : List ChainedCall}
  {status : EscrowStatus}

theorem TracedStep.ledger (step : TracedStep runtime state event next) :
    ∃ ledgerEvent, LedgerStep runtime state ledgerEvent next := by
  cases step with
  | instruction later processed => exact ⟨_, .instruction later processed⟩
  | external later changed => exact ⟨_, .external later changed⟩

theorem traced_run (run : Run (TracedStep runtime) start trace state) :
    ∃ history, Run (LedgerStep runtime) start history state := by
  induction run with
  | nil => exact ⟨_, .nil⟩
  | snoc _ step previous =>
    obtain ⟨history, ran⟩ := previous
    obtain ⟨event, taken⟩ := step.ledger
    exact ⟨_, .snoc ran taken⟩

variable (keeps : runtime.KeepsEscrow) (fresh : start.Fresh runtime)
  (run : Run (TracedStep runtime) start trace state)
include keeps fresh run

theorem process_writes (processed : state.accounts.process runtime timestamp transaction = .ok (after, calls)) :
    ∃ written window, Writes runtime.toProgramContext transaction.signers state.accounts
        transaction.instruction written window ∧ window.contains timestamp ∧
      ∀ swapId, after.escrow runtime.selfProgramId swapId =
        if swapId = transaction.instruction.swapId then some written
        else state.accounts.escrow runtime.selfProgramId swapId := by
  obtain ⟨history, ran⟩ := traced_run run
  have known := (run_accounted keeps fresh ran).formed transaction.instruction.swapId
  obtain ⟨written, window, writes, timely, commits⟩ := Commits.of_process known processed
  exact ⟨written, window, writes, timely, commits.escrow keeps⟩

theorem traced_step_escrow (step : TracedStep runtime state event next)
    (recorded : next.accounts.escrow runtime.selfProgramId swapId = some later)
    (changed : state.accounts.escrow runtime.selfProgramId swapId ≠ some later) :
    ∃ timestamp transaction window, event = some (timestamp, transaction) ∧
      transaction.instruction.swapId = swapId ∧
      Writes runtime.toProgramContext transaction.signers state.accounts transaction.instruction later window ∧
      window.contains timestamp := by
  cases step with
  | @instruction timestamp transaction _ _ _ processed =>
    obtain ⟨written, window, writes, timely, escrow⟩ := process_writes keeps fresh run processed
    rw [escrow] at recorded
    split at recorded
    · rename_i own
      cases recorded
      exact ⟨timestamp, transaction, window, rfl, own.symm, writes, timely⟩
    · exact absurd recorded changed
  | external _ external =>
    rw [(keeps.external _ _ external).escrow] at recorded
    exact absurd recorded changed

theorem traced_run_released :
    ∀ swapId record, state.accounts.escrow runtime.selfProgramId swapId = some record →
      record.status = .xmrClaimAuthorized → Released runtime trace swapId record := by
  induction run with
  | nil =>
    intro swapId record recorded
    exact absurd (escrow_owner recorded).1 (fresh _)
  | @snoc trace state next event previous step released =>
    intro swapId record recorded authorized
    by_cases same : state.accounts.escrow runtime.selfProgramId swapId = some record
    · obtain ⟨timestamp, transaction, claimPartial, member, rest⟩ := released swapId record same authorized
      exact ⟨timestamp, transaction, claimPartial, List.mem_append_left _ member, rest⟩
    · obtain ⟨timestamp, transaction, window, rfl, own, writes, _⟩ := traced_step_escrow keeps fresh previous step
        recorded same
      generalize named : transaction.instruction = instruction at writes own
      cases writes with
      | opens _ _ empty => cases authorized.symm.trans empty
      | prepare _ _ unsettled => rcases unsettled with rfl | rfl <;> cases authorized
      | @authorize _ claimPartial before found committed signed =>
        cases own
        exact ⟨timestamp, transaction, claimPartial, List.mem_append_right _ List.mem_cons_self, named, signed,
          committed⟩
      | settle found settles => cases settles <;> cases authorized

omit keeps fresh run

theorem ClaimAuthority.isXmr_of_punishAt {authority : ClaimAuthority} {punishAt : Nat}
    (deadline : authority.punishAt = some punishAt) : authority.isXmr = true := by
  cases authority with
  | sha256Preimage | aggregateWitness => cases deadline
  | xmrDualAdaptor => rfl

theorem OwnAuthority.plain (plain : record.claimAuthority.isXmr = false)
    (preimage : ∀ digest, record.claimAuthority = .sha256Preimage digest → status = .claimed →
      ∃ preimage, transaction.instruction =
          (if record.assetProgram = record.custodyProgram then .claimNative swapId preimage
            else .claimToken swapId preimage) ∧
        record.claimant ∈ transaction.signers ∧ runtime.sha256 preimage = digest)
    (witness : ∀ key account, record.claimAuthority = .aggregateWitness key account → status = .claimed →
      transaction.instruction =
          (if record.assetProgram = record.custodyProgram then .claimNativeWitnessed swapId
            else .claimTokenWitnessed swapId) ∧
        witnessedAccountId key ∈ transaction.signers) :
    OwnAuthority runtime trace swapId record timestamp transaction status := by
  constructor
  case preimage => exact preimage
  case witness => exact witness
  case xmrClaim =>
    intro punishAt deadline
    cases (ClaimAuthority.isXmr_of_punishAt deadline).symm.trans plain
  case xmrRefund => exact fun xmr => nomatch xmr.symm.trans plain
  case xmrOnly => exact fun xmr => nomatch xmr.symm.trans plain

theorem OwnAuthority.xmr (xmr : record.claimAuthority.isXmr = true)
    (claim : ∀ punishAt, record.claimAuthority.punishAt = some punishAt → status = .claimed →
      timestamp < punishAt → transaction.instruction = .claimNativeXmr swapId ∧
        (∃ key, record.claimAuthority.claimKey = some key ∧ witnessedAccountId key ∈ transaction.signers) ∧
        Released runtime trace swapId record)
    (refund : status = .refunded → transaction.instruction = .refundNativeXmr swapId ∧
      ∃ key, record.claimAuthority.refundKey = some key ∧ witnessedAccountId key ∈ transaction.signers)
    (only : transaction.instruction ∈
      [.claimNativeXmr swapId, .refundNativeXmr swapId, .punishNativeXmr swapId]) :
    OwnAuthority runtime trace swapId record timestamp transaction status := by
  constructor
  case preimage =>
    intro digest recorded
    rw [recorded] at xmr
    cases xmr
  case witness =>
    intro key account recorded
    rw [recorded] at xmr
    cases xmr
  case xmrClaim => exact claim
  case xmrRefund => exact fun _ => refund
  case xmrOnly => exact fun _ _ => only

theorem settles_ownAuthority {window : ValidityWindow}
    (formed : record.WellFormed runtime swapId) (plain : record.PlainCustody state.accounts)
    (released : record.status = .xmrClaimAuthorized → Released runtime trace swapId record)
    (own : transaction.instruction.swapId = swapId) (timely : window.contains timestamp)
    (settles : Settles runtime.toProgramContext transaction.signers state.accounts record
      transaction.instruction status window) :
    OwnAuthority runtime trace swapId record timestamp transaction status := by
  generalize named : transaction.instruction = instruction at own settles
  cases settles with
  | @claimNative _ preimage native opens signed =>
    cases own
    apply OwnAuthority.plain (by rw [opens]; rfl)
    · intro digest recorded _
      cases opens.symm.trans recorded
      exact ⟨preimage, named.trans (if_pos native).symm, signed, rfl⟩
    · intro key account recorded
      cases opens.symm.trans recorded
  | claimNativeWitnessed native authority signed =>
    cases own
    apply OwnAuthority.plain (by rw [authority]; rfl)
    · intro digest recorded
      cases authority.symm.trans recorded
    · intro key account recorded _
      cases authority.symm.trans recorded
      exact ⟨named.trans (if_pos native).symm, signed⟩
  | refundNative native plain => exact OwnAuthority.plain plain (fun _ _ => nofun) (fun _ _ _ => nofun)
  | @claimToken _ preimage held opens signed =>
    cases own
    have token := (tokenHolding_plain formed plain held).1
    apply OwnAuthority.plain (by rw [opens]; rfl)
    · intro digest recorded _
      cases opens.symm.trans recorded
      exact ⟨preimage, named.trans (if_neg token).symm, signed, rfl⟩
    · intro key account recorded
      cases opens.symm.trans recorded
  | claimTokenWitnessed held authority signed =>
    cases own
    have token := (tokenHolding_plain formed plain held).1
    apply OwnAuthority.plain (by rw [authority]; rfl)
    · intro digest recorded
      cases authority.symm.trans recorded
    · intro key account recorded _
      cases authority.symm.trans recorded
      exact ⟨named.trans (if_neg token).symm, signed⟩
  | refundToken held =>
    have plain := (tokenHolding_plain formed plain held).2
    exact OwnAuthority.plain plain (fun _ _ => nofun) (fun _ _ _ => nofun)
  | @claimNativeXmr _ key xmr authority signed authorized =>
    cases own
    apply OwnAuthority.xmr xmr
    · exact fun _ _ _ _ => ⟨named, ⟨key, authority, signed⟩, released authorized⟩
    · exact nofun
    · rw [named]
      exact List.mem_cons_self
  | @refundNativeXmr _ key punishAt deadline authority signed =>
    cases own
    apply OwnAuthority.xmr (ClaimAuthority.isXmr_of_punishAt deadline)
    · exact fun _ _ => nofun
    · exact fun _ => ⟨named, key, authority, signed⟩
    · rw [named]
      exact List.mem_cons_of_mem _ List.mem_cons_self
  | punishNativeXmr deadline signed =>
    cases own
    apply OwnAuthority.xmr (ClaimAuthority.isXmr_of_punishAt deadline)
    · intro punishAt recorded _ early
      cases deadline.symm.trans recorded
      exact absurd (windowFrom_contains.mp timely) (Nat.not_le.mpr early)
    · exact nofun
    · rw [named]
      exact List.mem_cons_of_mem _ (List.mem_cons_of_mem _ List.mem_cons_self)

theorem OwnAuthority.unsettled (claimed : status ≠ .claimed)
    (refunded : status ≠ .refunded) : OwnAuthority runtime trace swapId record timestamp transaction status := by
  constructor
  case preimage => exact fun _ _ settled => absurd settled claimed
  case witness => exact fun _ _ _ settled => absurd settled claimed
  case xmrClaim => exact fun _ _ settled => absurd settled claimed
  case xmrRefund => exact fun _ settled => absurd settled refunded
  case xmrOnly => exact fun _ settled => (settled.elim claimed refunded).elim

end Steps

/-- Each step of a run that moves an escrow on, with the authority that lets it. -/
theorem escrow_authorities_do_not_cross (runtime : Runtime) (keeps : runtime.KeepsEscrow)
    (start state next : LedgerState) (trace : List (Option (Nat × Transaction))) (fresh : start.Fresh runtime)
    (run : Run (TracedStep runtime) start trace state)
    (event : Option (Nat × Transaction)) (step : TracedStep runtime state event next) (swapId : Bytes32)
    (later : EscrowMetadata)
    (recorded : next.accounts.escrow runtime.selfProgramId swapId = some later)
    (plain : ∀ record, state.accounts.escrow runtime.selfProgramId swapId = some record →
      record.PlainCustody state.accounts) :
    (state.accounts.escrow runtime.selfProgramId swapId = none → later.status = .empty ∧
      ∃ timestamp transaction, event = some (timestamp, transaction) ∧
        transaction.instruction.swapId = swapId ∧ transaction.instruction.initializes) ∧
    ∀ record, state.accounts.escrow runtime.selfProgramId swapId = some record →
      later = { record with status := later.status } ∧
      (later.status ≠ record.status → ∃ timestamp transaction, event = some (timestamp, transaction) ∧
        OwnAuthority runtime trace swapId record timestamp transaction later.status) := by
  constructor
  · intro unrecorded
    obtain ⟨timestamp, transaction, window, rfl, rfl, writes, _⟩ :=
      traced_step_escrow keeps fresh run step recorded (by rw [unrecorded]; nofun)
    generalize named : transaction.instruction = instruction at writes unrecorded
    cases writes with
    | opens initializes _ empty => exact ⟨empty, timestamp, transaction, rfl, by rw [named], named ▸ initializes⟩
    | prepare found | authorize found | settle found => cases unrecorded.symm.trans found
  · intro record before
    by_cases same : later = record
    · subst same
      exact ⟨rfl, fun moved => absurd rfl moved⟩
    · have changed : state.accounts.escrow runtime.selfProgramId swapId ≠ some later :=
        fun kept => same (Option.some.inj (kept.symm.trans before))
      obtain ⟨timestamp, transaction, window, rfl, own, writes, timely⟩ :=
        traced_step_escrow keeps fresh run step recorded changed
      obtain ⟨history, ran⟩ := traced_run run
      have formed := (run_accounted keeps fresh ran).formed _ _ before
      have released := traced_run_released keeps fresh run swapId record before
      generalize named : transaction.instruction = instruction at writes own
      cases writes with
      | opens _ unrecorded =>
        cases own
        cases before.symm.trans unrecorded
      | prepare found prepares unsettled =>
        cases own
        cases before.symm.trans found
        refine ⟨rfl, fun _ => ⟨timestamp, transaction, rfl, ?_⟩⟩
        rcases unsettled with rfl | rfl <;> exact OwnAuthority.unsettled nofun nofun
      | authorize found =>
        cases own
        cases before.symm.trans found
        exact ⟨rfl, fun _ => ⟨timestamp, transaction, rfl, OwnAuthority.unsettled nofun nofun⟩⟩
      | settle found settles =>
        cases own
        cases before.symm.trans found
        refine ⟨rfl, fun _ => ⟨timestamp, transaction, rfl, ?_⟩⟩
        exact settles_ownAuthority formed (plain _ before) released (by rw [named]) timely
          (by rw [named]; exact settles)

section Sample

def LedgerState.submitTraced (runtime : Runtime) (state : LedgerState) (input : Nat × Transaction) :
    LedgerState × Option (Nat × Transaction) :=
  let timestamp := max state.timestamp input.1
  match state.accounts.process runtime timestamp input.2 with
  | .ok (accounts, _) => (⟨accounts, timestamp⟩, some (timestamp, input.2))
  | .error _ => (⟨state.accounts, timestamp⟩, none)

theorem LedgerState.submitTraced_step (state : LedgerState) (input : Nat × Transaction) :
    TracedStep sampleRuntime state (state.submitTraced sampleRuntime input).2
      (state.submitTraced sampleRuntime input).1 := by
  unfold LedgerState.submitTraced
  dsimp only
  split
  · rename_i processed
    exact .instruction (Nat.le_max_left _ _) processed
  · exact .external (Nat.le_max_left _ _) (sampleExternal_idle _)

def sampleXmrAuthorize : Nat × Transaction :=
  (30, ⟨.authorizeNativeXmrClaim 9 4, [.metadata 1 9, sampleDepositor], [sampleDepositor]⟩)

def sampleXmrClaim : Nat × Transaction :=
  (40, ⟨.claimNativeXmr 9, [.metadata 1 9, .custody 1 9, sampleClaimant, .witnessed 20], [.witnessed 20]⟩)

def sampleXmrAuthorized : LedgerState × List (Option (Nat × Transaction)) :=
  replay (LedgerState.submitTraced sampleRuntime) sampleStart (sampleXmrInputs ++ [sampleXmrAuthorize])

/-- The claim of the authorised XMR escrow, with what its run must have shown. -/
theorem escrow_authorities_do_not_cross_sample : ∃ record, sampleXmrAuthorized.1.accounts.escrow 1 9 = some record ∧
      (sampleXmrAuthorized.1.submitTraced sampleRuntime sampleXmrClaim).2 = some sampleXmrClaim ∧
      Released sampleRuntime sampleXmrAuthorized.2 9 record := by
  have run := run_replay LedgerState.submitTraced_step sampleStart (sampleXmrInputs ++ [sampleXmrAuthorize])
  have step := LedgerState.submitTraced_step sampleXmrAuthorized.1 sampleXmrClaim
  have moved := (escrow_authorities_do_not_cross sampleRuntime sampleRuntime_keepsEscrow _ _ _ _
    sampleStart_fresh run _ step 9 _ rfl (fun record known => by cases known; rintro _ _ ⟨⟩)).2 _ rfl
  obtain ⟨timestamp, transaction, named, authority⟩ := moved.2 (by decide)
  cases named
  exact ⟨_, rfl, rfl, (authority.xmrClaim _ rfl rfl (by decide)).2.2⟩

end Sample

end AtomicSwaps.Escrow
