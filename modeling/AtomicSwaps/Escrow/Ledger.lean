import AtomicSwaps.Escrow.Program
import AtomicSwaps.Transition.Run

namespace AtomicSwaps.Escrow

open AtomicSwaps.Core (Bytes32)
open Fallible

inductive Instruction
  | initializeNative (swapId termsHash secretDigest : Bytes32) (amount refundAt : Nat)
      (authenticatedTransferProgram : ProgramId)
  | initializeNativeWitnessed (swapId termsHash aggregateXOnlyPublicKey : Bytes32)
      (amount refundAt : Nat) (authenticatedTransferProgram : ProgramId)
  | fundNative (swapId : Bytes32)
  | claimNative (swapId preimage : Bytes32)
  | claimNativeWitnessed (swapId : Bytes32)
  | refundNative (swapId : Bytes32)
  | initializeToken (swapId termsHash secretDigest : Bytes32) (amount refundAt : Nat)
      (ataProgram : ProgramId)
  | createTokenCustody (swapId : Bytes32)
  | fundToken (swapId : Bytes32)
  | claimToken (swapId preimage : Bytes32)
  | refundToken (swapId : Bytes32)
  | initializeTokenWitnessed (swapId termsHash aggregateXOnlyPublicKey : Bytes32)
      (amount refundAt : Nat) (ataProgram : ProgramId)
  | claimTokenWitnessed (swapId : Bytes32)
  | initializeNativeXmr (swapId termsHash : Bytes32) (terms : XmrTerms) (amount refundAt : Nat)
      (authenticatedTransferProgram : ProgramId)
  | authorizeNativeXmrClaim (swapId claimPartial : Bytes32)
  | claimNativeXmr (swapId : Bytes32)
  | refundNativeXmr (swapId : Bytes32)
  | punishNativeXmr (swapId : Bytes32)

def Instruction.swapId : Instruction → Bytes32
  | .initializeNative swapId .. | .initializeNativeWitnessed swapId .. | .fundNative swapId
  | .claimNative swapId _ | .claimNativeWitnessed swapId | .refundNative swapId
  | .initializeToken swapId .. | .createTokenCustody swapId | .fundToken swapId
  | .claimToken swapId _ | .refundToken swapId | .initializeTokenWitnessed swapId ..
  | .claimTokenWitnessed swapId | .initializeNativeXmr swapId .. | .authorizeNativeXmrClaim swapId _
  | .claimNativeXmr swapId | .refundNativeXmr swapId | .punishNativeXmr swapId => swapId

def wrongAccountCount : Except SpelError SpelOutput := .error (.accountConstraint "account count")

/-- The generated entry point: one handler per instruction, with its accounts in order. -/
def dispatch (ctx : ProgramContext) (instruction : Instruction) (accounts : List AccountWithMetadata) :
    Except SpelError SpelOutput :=
  match instruction with
  | .initializeNative swapId termsHash secretDigest amount refundAt program => match accounts with
    | [metadata, custody, depositor, claimant] =>
      initializeNative ctx metadata custody depositor claimant swapId termsHash secretDigest amount
        refundAt program
    | _ => wrongAccountCount
  | .initializeNativeWitnessed swapId termsHash key amount refundAt program => match accounts with
    | [metadata, custody, depositor, claimant, aggregateAuthority] =>
      initializeNativeWitnessed ctx metadata custody depositor claimant aggregateAuthority swapId
        termsHash key amount refundAt program
    | _ => wrongAccountCount
  | .fundNative swapId => match accounts with
    | [metadata, custody, depositor] =>
      fundNative ctx metadata custody depositor swapId
    | _ => wrongAccountCount
  | .claimNative swapId preimage => match accounts with
    | [metadata, custody, claimant] =>
      claimNative ctx metadata custody claimant swapId preimage
    | _ => wrongAccountCount
  | .claimNativeWitnessed swapId => match accounts with
    | [metadata, custody, claimant, aggregateAuthority] =>
      claimNativeWitnessed ctx metadata custody claimant aggregateAuthority swapId
    | _ => wrongAccountCount
  | .refundNative swapId => match accounts with
    | [metadata, custody, depositor] =>
      refundNative ctx metadata custody depositor swapId
    | _ => wrongAccountCount
  | .initializeToken swapId termsHash secretDigest amount refundAt program => match accounts with
    | [metadata, depositorOwner, claimantOwner, definition] =>
      initializeToken ctx metadata depositorOwner claimantOwner definition swapId termsHash
        secretDigest amount refundAt program
    | _ => wrongAccountCount
  | .createTokenCustody swapId => match accounts with
    | [metadata, definition, custody] =>
      createTokenCustody ctx metadata definition custody swapId
    | _ => wrongAccountCount
  | .fundToken swapId => match accounts with
    | [metadata, depositorOwner, depositorAsset, custody] =>
      fundToken ctx metadata depositorOwner depositorAsset custody swapId
    | _ => wrongAccountCount
  | .claimToken swapId preimage => match accounts with
    | [metadata, custody, claimantOwner, claimantAsset] =>
      claimToken ctx metadata custody claimantOwner claimantAsset swapId preimage
    | _ => wrongAccountCount
  | .refundToken swapId => match accounts with
    | [metadata, custody, depositorAsset] =>
      refundToken ctx metadata custody depositorAsset swapId
    | _ => wrongAccountCount
  | .initializeTokenWitnessed swapId termsHash key amount refundAt program => match accounts with
    | [metadata, depositorOwner, claimantOwner, definition, aggregateAuthority] =>
      initializeTokenWitnessed ctx metadata depositorOwner claimantOwner definition
        aggregateAuthority swapId termsHash key amount refundAt program
    | _ => wrongAccountCount
  | .claimTokenWitnessed swapId => match accounts with
    | [metadata, custody, claimantOwner, claimantAsset, aggregateAuthority] =>
      claimTokenWitnessed ctx metadata custody claimantOwner claimantAsset aggregateAuthority swapId
    | _ => wrongAccountCount
  | .initializeNativeXmr swapId termsHash terms amount refundAt program => match accounts with
    | [metadata, custody, depositor, claimant, claimAggregate, refundAggregate] =>
      initializeNativeXmr ctx metadata custody depositor claimant claimAggregate refundAggregate
        swapId termsHash terms amount refundAt program
    | _ => wrongAccountCount
  | .authorizeNativeXmrClaim swapId claimPartial => match accounts with
    | [metadata, depositor] =>
      authorizeNativeXmrClaim ctx metadata depositor swapId claimPartial
    | _ => wrongAccountCount
  | .claimNativeXmr swapId => match accounts with
    | [metadata, custody, claimant, claimAggregate] =>
      claimNativeXmr ctx metadata custody claimant claimAggregate swapId
    | _ => wrongAccountCount
  | .refundNativeXmr swapId => match accounts with
    | [metadata, custody, depositor, refundAggregate] =>
      refundNativeXmr ctx metadata custody depositor refundAggregate swapId
    | _ => wrongAccountCount
  | .punishNativeXmr swapId => match accounts with
    | [metadata, custody, claimant] =>
      punishNativeXmr ctx metadata custody claimant swapId
    | _ => wrongAccountCount

theorem dispatch_nil (ctx : ProgramContext) (instruction : Instruction) :
    dispatch ctx instruction [] = wrongAccountCount := by
  cases instruction <;> simp only [dispatch]

abbrev Ledger := AccountId → Account

def Ledger.set (ledger : Ledger) (id : AccountId) (account : Account) : Ledger :=
  fun other => if other = id then account else ledger other

@[simp] theorem Ledger.set_self (ledger : Ledger) (id : AccountId) (account : Account) :
    ledger.set id account id = account := by
  simp [Ledger.set]

@[simp] theorem Ledger.set_other (ledger : Ledger) {id other : AccountId} (account : Account)
    (different : other ≠ id) : ledger.set id account other = ledger other := by
  simp [Ledger.set, different]

/-- The LEZ runtime around the escrow. `call` is a chained call, with the signers of its transaction, into
    whatever program it names, or `none` where that program or the runtime rejects it; `external` is what a
    transaction of another program can do. Neither is part of the escrow: what a result needs of them is one of
    the hypotheses below. -/
structure Runtime extends ProgramContext where
  call : List AccountId → Ledger → ChainedCall → Option Ledger
  external : Ledger → Ledger → Prop
  deployed : selfProgramId ≠ defaultProgramId

def Ledger.callAll (runtime : Runtime) (signers : List AccountId) : Ledger → List ChainedCall → Option Ledger
  | ledger, [] => some ledger
  | ledger, call :: calls => (runtime.call signers ledger call).bind (·.callAll runtime signers calls)

/-- The swap whose custody an account is: its native custody account, or a token account owned by
    its metadata account. -/
def AccountId.custodyOf (program : ProgramId) : AccountId → Option Bytes32
  | .custody owner swapId => if owner = program then some swapId else none
  | .associatedToken _ (.metadata owner swapId) _ => if owner = program then some swapId else none
  | _ => none

/-- No signer is an account that only the escrow could authorise. -/
def Runtime.CanSign (runtime : Runtime) (signers : List AccountId) : Prop :=
  ∀ signer ∈ signers, signer.derivedBy runtime.selfProgramId = false ∧
    signer.custodyOf runtime.selfProgramId = none

instance (runtime : Runtime) (signers : List AccountId) : Decidable (runtime.CanSign signers) :=
  inferInstanceAs (Decidable (∀ signer ∈ signers, _))

section Kept

def ChainedCall.program : ChainedCall → ProgramId
  | .nativeInitialize program _ | .nativeTransfer program .. | .ataCreate program ..
  | .ataTransfer program .. => program

/-- The account whose funds the escrow's seeds put at the disposal of a call. -/
def ChainedCall.authorised : ChainedCall → Option AccountId
  | .nativeInitialize _ custody => some custody
  | .nativeTransfer _ sender _ _ lent => if lent = some sender then some sender else none
  | .ataTransfer _ owner sender _ _ lent => if lent = some owner then some sender else none
  | .ataCreate .. => none

/-- Every call that the escrow chains into another program, and every transaction of one, keeps a relation
    between ledgers. The relation may except the account that the escrow authorised. -/
structure Runtime.Keeps (runtime : Runtime) (relation : Option AccountId → Ledger → Ledger → Prop) : Prop where
  called : ∀ signers ledger call after, runtime.CanSign signers → call.program ≠ runtime.selfProgramId →
    runtime.call signers ledger call = some after → relation call.authorised ledger after
  external : ∀ before after, runtime.external before after → relation none before after

/-- The accounts of the escrow program keep their data, and no other program makes one. -/
structure EscrowKept (program : ProgramId) (before after : Ledger) : Prop where
  kept : ∀ id, (before id).programOwner = program →
    (after id).programOwner = program ∧ (after id).data = (before id).data
  notCreated : ∀ id, (after id).programOwner = program → (before id).programOwner = program

def OwnersKept (before after : Ledger) : Prop :=
  ∀ id, (before id).programOwner ≠ defaultProgramId → (after id).programOwner = (before id).programOwner

/-- A native or token balance that can only have grown. -/
inductive Account.CreditedTo : Account → Account → Prop
  | native (account : Account) (balance : Nat) (grown : account.balance ≤ balance) :
      CreditedTo account { account with balance }
  | token (account : Account) (definition : AccountId) (held balance : Nat)
      (holding : account.data = .fungibleHolding definition held) (grown : held ≤ balance) :
      CreditedTo account { account with data := .fungibleHolding definition balance }

/-- The custody accounts that exist are at most credited, but for one that the escrow authorised. -/
def CustodyKept (program : ProgramId) (authorised : Option AccountId) (before after : Ledger) : Prop :=
  ∀ id, (id.custodyOf program).isSome → before id ≠ .default → authorised ≠ some id →
    (before id).CreditedTo (after id)

def Runtime.KeepsEscrow (runtime : Runtime) : Prop :=
  runtime.Keeps fun _ => EscrowKept runtime.selfProgramId

def Runtime.KeepsOwners (runtime : Runtime) : Prop :=
  runtime.Keeps fun _ => OwnersKept

/-- Only a call that the escrow authorised can debit a custody account. -/
def Runtime.KeepsCustody (runtime : Runtime) : Prop :=
  runtime.Keeps (CustodyKept runtime.selfProgramId)

end Kept

structure Transaction where
  instruction : Instruction
  (accountIds signers : List AccountId)

def Ledger.load (ledger : Ledger) (signers : List AccountId) (id : AccountId) : AccountWithMetadata :=
  ⟨id, ledger id, decide (id ∈ signers)⟩

@[simp] theorem Ledger.load_accountId (ledger : Ledger) (signers : List AccountId) (id : AccountId) :
    (ledger.load signers id).accountId = id := rfl

@[simp] theorem Ledger.load_account (ledger : Ledger) (signers : List AccountId) (id : AccountId) :
    (ledger.load signers id).account = ledger id := rfl

/-- One escrow transaction: the account ids are distinct, the output's window holds, and the metadata
    write and every chained call commit together or not at all. -/
def Ledger.process (runtime : Runtime) (ledger : Ledger) (timestamp : Nat) (transaction : Transaction) :
    Except SpelError (Ledger × List ChainedCall) := do
  ensure transaction.accountIds.Nodup (.accountConstraint "duplicate account")
  ensure (runtime.CanSign transaction.signers) (.accountConstraint "program-derived signer")
  let output ← dispatch runtime.toProgramContext transaction.instruction
    (transaction.accountIds.map (ledger.load transaction.signers))
  ensure (output.window.contains timestamp) (.accountConstraint "validity window")
  let written := ledger.set output.metadata.accountId
    { output.metadata.account with programOwner := runtime.selfProgramId }
  match written.callAll runtime transaction.signers output.calls with
  | some committed => return (committed, output.calls)
  | none => .error (.accountConstraint "chained call")

structure LedgerState where
  accounts : Ledger
  timestamp : Nat

inductive LedgerEvent
  | instruction (swapId : Bytes32) (calls : List ChainedCall)
  | external

inductive LedgerStep (runtime : Runtime) (state : LedgerState) : LedgerEvent → LedgerState → Prop
  | instruction {timestamp : Nat} {transaction : Transaction} {accounts : Ledger}
      {calls : List ChainedCall} (later : state.timestamp ≤ timestamp)
      (processed : state.accounts.process runtime timestamp transaction = .ok (accounts, calls)) :
      LedgerStep runtime state (.instruction transaction.instruction.swapId calls) ⟨accounts, timestamp⟩
  | external {timestamp : Nat} {accounts : Ledger} (later : state.timestamp ≤ timestamp)
      (changed : runtime.external state.accounts accounts) :
      LedgerStep runtime state .external ⟨accounts, timestamp⟩

/-- Submits a transaction at a time; a rejected one only lets the time pass. -/
def LedgerState.submit (runtime : Runtime) (state : LedgerState) (input : Nat × Transaction) :
    LedgerState × LedgerEvent :=
  let timestamp := max state.timestamp input.1
  match state.accounts.process runtime timestamp input.2 with
  | .ok (accounts, calls) => (⟨accounts, timestamp⟩, .instruction input.2.instruction.swapId calls)
  | .error _ => (⟨state.accounts, timestamp⟩, .external)

theorem LedgerState.submit_step {runtime : Runtime} (idle : ∀ ledger, runtime.external ledger ledger)
    (state : LedgerState) (input : Nat × Transaction) :
    LedgerStep runtime state (state.submit runtime input).2 (state.submit runtime input).1 := by
  unfold LedgerState.submit
  dsimp only
  split
  · rename_i processed
    exact .instruction (Nat.le_max_left _ _) processed
  · exact .external (Nat.le_max_left _ _) (idle _)

end AtomicSwaps.Escrow
