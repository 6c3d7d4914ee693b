import AtomicSwaps.Escrow.Guards

namespace AtomicSwaps.Escrow

open AtomicSwaps.Core (Bytes32)
open Fallible Ledger

/-- The escrow recorded under a swap id: the decoded data of its metadata account, if the escrow
    program owns it. -/
def Ledger.escrow (ledger : Ledger) (program : ProgramId) (swapId : Bytes32) : Option EscrowMetadata :=
  if (ledger (.metadata program swapId)).programOwner = program then
    match (ledger (.metadata program swapId)).data with
    | .escrow state => some state
    | _ => none
  else none

def Instruction.initializes : Instruction → Bool
  | .initializeNative .. | .initializeNativeWitnessed .. | .initializeToken .. | .initializeTokenWitnessed ..
  | .initializeNativeXmr .. => true
  | _ => false

def Instruction.prepares : Instruction → Bool
  | .createTokenCustody _ | .fundNative _ | .fundToken _ => true
  | _ => false

def ClaimAuthority.isXmr : ClaimAuthority → Bool
  | .xmrDualAdaptor .. => true
  | _ => false

def EscrowStatus.holdsFunds : EscrowStatus → Bool
  | .funded | .xmrClaimAuthorized => true
  | _ => false

def ClaimAuthority.punishAt : ClaimAuthority → Option Nat
  | .xmrDualAdaptor _ _ _ _ _ _ _ _ punishAt => some punishAt
  | _ => none

def ClaimAuthority.claimKey : ClaimAuthority → Option Bytes32
  | .aggregateWitness key _ | .xmrDualAdaptor key _ _ _ _ _ _ _ _ => some key
  | .sha256Preimage _ => none

def ClaimAuthority.refundKey : ClaimAuthority → Option Bytes32
  | .xmrDualAdaptor _ _ key _ _ _ _ _ _ => some key
  | _ => none

def ClaimAuthority.commitsTo (authority : ClaimAuthority) (ctx : ProgramContext) (claimPartial : Bytes32) : Prop :=
  match authority with
  | .xmrDualAdaptor _ _ _ _ _ _ binding commitment _ =>
    ctx.xmrClaimPartialCommitment binding claimPartial = commitment
  | _ => False

def EscrowMetadata.XmrOrdered (state : EscrowMetadata) : Prop :=
  match state.claimAuthority with
  | .xmrDualAdaptor _ claimAccount _ refundAccount _ _ _ _ punishAt =>
    state.refundAt < punishAt ∧ claimAccount ≠ state.depositor ∧ refundAccount ≠ state.depositor
  | _ => True

structure EscrowMetadata.Opened (state : EscrowMetadata) (swapId : Bytes32) : Prop where
  swapId : state.swapId = swapId
  status : state.status = .empty
  supported : state.version = supportedVersion state.claimAuthority
  authority : validClaimAuthority state.claimAuthority state.claimant
  positive : state.amount ≠ 0
  xmrOrdered : state.XmrOrdered

structure EscrowMetadata.Native (state : EscrowMetadata) (program : ProgramId) (swapId : Bytes32) : Prop where
  programs : state.custodyProgram = state.assetProgram
  definition : state.assetDefinition = .zero
  depositorAsset : state.depositorAsset = state.depositor
  claimantAsset : state.claimantAsset = state.claimant
  custody : state.custody = .custody program swapId
  foreign : state.custodyProgram ≠ program

structure EscrowMetadata.Token (state : EscrowMetadata) (program : ProgramId) (swapId : Bytes32) : Prop where
  programs : state.custodyProgram ≠ state.assetProgram
  depositorAsset : state.depositorAsset =
    .associatedToken state.custodyProgram state.depositor state.assetDefinition
  claimantAsset : state.claimantAsset =
    .associatedToken state.custodyProgram state.claimant state.assetDefinition
  custody : state.custody =
    .associatedToken state.custodyProgram (.metadata program swapId) state.assetDefinition
  claimant : state.claimant ≠ .metadata program swapId
  foreign : state.custodyProgram ≠ program

/-- What an accepted instruction does to the escrow of its swap id: the state it writes and the
    calls it chains, with what its guards established of the accounts. -/
inductive Effect (ctx : ProgramContext) (signers : List AccountId) (ledger : Ledger) (instruction : Instruction) :
    EscrowMetadata → List ChainedCall → Prop
  | openNative {state : EscrowMetadata}
      (fresh : ledger (.metadata ctx.selfProgramId instruction.swapId) = .default)
      (custodyFresh : ledger (.custody ctx.selfProgramId instruction.swapId) = .default)
      (opened : state.Opened instruction.swapId)
      (layout : state.Native ctx.selfProgramId instruction.swapId)
      (signed : state.depositor ∈ signers) (program : state.assetProgram ≠ defaultProgramId)
      (depositorOwner : (ledger state.depositor).programOwner = state.assetProgram)
      (claimantOwner : (ledger state.claimant).programOwner = state.assetProgram) :
      Effect ctx signers ledger instruction state
        [.nativeInitialize state.assetProgram (.custody ctx.selfProgramId instruction.swapId)]
  | openToken {state : EscrowMetadata}
      (fresh : ledger (.metadata ctx.selfProgramId instruction.swapId) = .default)
      (opened : state.Opened instruction.swapId)
      (layout : state.Token ctx.selfProgramId instruction.swapId)
      (signed : state.depositor ∈ signers) (program : state.assetProgram ≠ defaultProgramId)
      (plain : state.claimAuthority.isXmr = false) : Effect ctx signers ledger instruction state []
  | createCustody {state : EscrowMetadata}
      (recorded : ledger.escrow ctx.selfProgramId instruction.swapId = some state)
      (empty : state.status = .empty) :
      Effect ctx signers ledger instruction state
        [.ataCreate state.custodyProgram (.metadata ctx.selfProgramId instruction.swapId)
          state.assetDefinition state.custody]
  | fundNative {state : EscrowMetadata}
      (recorded : ledger.escrow ctx.selfProgramId instruction.swapId = some state)
      (empty : state.status = .empty) (programs : state.assetProgram = state.custodyProgram)
      (owner : (ledger state.custody).programOwner = state.assetProgram) :
      Effect ctx signers ledger instruction { state with status := .funded }
        [.nativeTransfer state.assetProgram state.depositor state.custody state.amount none]
  | fundToken {state : EscrowMetadata}
      (recorded : ledger.escrow ctx.selfProgramId instruction.swapId = some state)
      (empty : state.status = .empty)
      (owner : (ledger state.custody).programOwner = state.assetProgram) :
      Effect ctx signers ledger instruction { state with status := .funded }
        [.ataTransfer state.custodyProgram state.depositor state.depositorAsset state.custody
          state.amount none]
  | authorize {state : EscrowMetadata}
      (recorded : ledger.escrow ctx.selfProgramId instruction.swapId = some state)
      (funded : state.status = .funded) :
      Effect ctx signers ledger instruction { state with status := .xmrClaimAuthorized } []
  | settleNative {state : EscrowMetadata} {status : EscrowStatus} {recipient : AccountId}
      (recorded : ledger.escrow ctx.selfProgramId instruction.swapId = some state)
      (funded : state.status.holdsFunds)
      (pays : status = .claimed ∧ recipient = state.claimant ∨
        status = .refunded ∧ recipient = state.depositor)
      (programs : state.assetProgram = state.custodyProgram) :
      Effect ctx signers ledger instruction { state with status }
        [.nativeTransfer state.assetProgram state.custody recipient state.amount
          (some (.custody ctx.selfProgramId instruction.swapId))]
  | settleToken {state : EscrowMetadata} {status : EscrowStatus} {recipient : AccountId}
      (recorded : ledger.escrow ctx.selfProgramId instruction.swapId = some state)
      (funded : state.status.holdsFunds)
      (pays : status = .claimed ∧ recipient = state.claimantAsset ∨
        status = .refunded ∧ recipient = state.depositorAsset) :
      Effect ctx signers ledger instruction { state with status }
        [.ataTransfer state.custodyProgram (.metadata ctx.selfProgramId instruction.swapId)
          state.custody recipient state.amount (some (.metadata ctx.selfProgramId instruction.swapId))]

/-- Each settlement instruction with what it demands of the recorded escrow and the window it attaches. -/
inductive Settles (ctx : ProgramContext) (signers : List AccountId) (ledger : Ledger)
    (record : EscrowMetadata) : Instruction → EscrowStatus → ValidityWindow → Prop
  | claimNative {swapId preimage : Bytes32} (native : record.assetProgram = record.custodyProgram)
      (opens : record.claimAuthority = .sha256Preimage (ctx.sha256 preimage))
      (signed : record.claimant ∈ signers) :
      Settles ctx signers ledger record (.claimNative swapId preimage) .claimed
        (windowBefore record.refundAt)
  | claimNativeWitnessed {swapId key : Bytes32} (native : record.assetProgram = record.custodyProgram)
      (authority : record.claimAuthority = .aggregateWitness key (witnessedAccountId key))
      (signed : witnessedAccountId key ∈ signers) :
      Settles ctx signers ledger record (.claimNativeWitnessed swapId) .claimed
        (windowBefore record.refundAt)
  | refundNative {swapId : Bytes32} (native : record.assetProgram = record.custodyProgram)
      (plain : record.claimAuthority.isXmr = false) :
      Settles ctx signers ledger record (.refundNative swapId) .refunded (windowFrom record.refundAt)
  | claimToken {swapId preimage : Bytes32}
      (held : (ledger record.custody).data = .fungibleHolding record.assetDefinition record.amount)
      (opens : record.claimAuthority = .sha256Preimage (ctx.sha256 preimage))
      (signed : record.claimant ∈ signers) :
      Settles ctx signers ledger record (.claimToken swapId preimage) .claimed
        (windowBefore record.refundAt)
  | claimTokenWitnessed {swapId key : Bytes32}
      (held : (ledger record.custody).data = .fungibleHolding record.assetDefinition record.amount)
      (authority : record.claimAuthority = .aggregateWitness key (witnessedAccountId key))
      (signed : witnessedAccountId key ∈ signers) :
      Settles ctx signers ledger record (.claimTokenWitnessed swapId) .claimed
        (windowBefore record.refundAt)
  | refundToken {swapId : Bytes32}
      (held : (ledger record.custody).data = .fungibleHolding record.assetDefinition record.amount) :
      Settles ctx signers ledger record (.refundToken swapId) .refunded (windowFrom record.refundAt)
  | claimNativeXmr {swapId key : Bytes32} (xmr : record.claimAuthority.isXmr = true)
      (authority : record.claimAuthority.claimKey = some key) (signed : witnessedAccountId key ∈ signers)
      (authorized : record.status = .xmrClaimAuthorized) :
      Settles ctx signers ledger record (.claimNativeXmr swapId) .claimed (windowBefore record.refundAt)
  | refundNativeXmr {swapId key : Bytes32} {punishAt : Nat}
      (deadline : record.claimAuthority.punishAt = some punishAt)
      (authority : record.claimAuthority.refundKey = some key) (signed : witnessedAccountId key ∈ signers) :
      Settles ctx signers ledger record (.refundNativeXmr swapId) .refunded
        ⟨some record.refundAt, some punishAt⟩
  | punishNativeXmr {swapId : Bytes32} {punishAt : Nat}
      (deadline : record.claimAuthority.punishAt = some punishAt) (signed : record.claimant ∈ signers) :
      Settles ctx signers ledger record (.punishNativeXmr swapId) .claimed (windowFrom punishAt)

inductive Writes (ctx : ProgramContext) (signers : List AccountId) (ledger : Ledger) :
    Instruction → EscrowMetadata → ValidityWindow → Prop
  | opens {instruction : Instruction} {written : EscrowMetadata} {window : ValidityWindow}
      (initializes : instruction.initializes = true)
      (fresh : ledger.escrow ctx.selfProgramId instruction.swapId = none) (empty : written.status = .empty) :
      Writes ctx signers ledger instruction written window
  | prepare {instruction : Instruction} {record : EscrowMetadata} {status : EscrowStatus}
      {window : ValidityWindow} (recorded : ledger.escrow ctx.selfProgramId instruction.swapId = some record)
      (prepares : instruction.prepares = true) (unsettled : status = .empty ∨ status = .funded) :
      Writes ctx signers ledger instruction { record with status } window
  | authorize {swapId claimPartial : Bytes32} {record : EscrowMetadata}
      (recorded : ledger.escrow ctx.selfProgramId swapId = some record)
      (committed : record.claimAuthority.commitsTo ctx claimPartial) (signed : record.depositor ∈ signers) :
      Writes ctx signers ledger (.authorizeNativeXmrClaim swapId claimPartial)
        { record with status := .xmrClaimAuthorized } (windowBefore record.refundAt)
  | settle {instruction : Instruction} {record : EscrowMetadata} {status : EscrowStatus}
      {window : ValidityWindow} (recorded : ledger.escrow ctx.selfProgramId instruction.swapId = some record)
      (settles : Settles ctx signers ledger record instruction status window) :
      Writes ctx signers ledger instruction { record with status } window

section Handlers

variable {distinct : Prop} {ctx : ProgramContext} {signers : List AccountId} {timestamp : Nat} {ledger : Ledger}
  {output : SpelOutput} {metadata custody depositor claimant authority owner asset definition : AccountId}
  {swapId : Bytes32} {refundAt : Nat} {amount : Nat} {claimAuthority : ClaimAuthority}
  {instruction : Instruction} {window : ValidityWindow} {secretDigest : Bytes32} {status : EscrowStatus}
  {key : Bytes32} {balance : Nat} {recipient : AccountId}

/-- The output rewrites the metadata account of the swap id as the instruction may, and has the effect it
    should on distinct accounts. -/
def Runs (distinct : Prop) (ctx : ProgramContext) (signers : List AccountId) (ledger : Ledger)
    (instruction : Instruction) (output : SpelOutput) : Prop :=
  ∃ written, output.metadata.accountId = .metadata ctx.selfProgramId instruction.swapId ∧
    output.metadata.account =
      { ledger (.metadata ctx.selfProgramId instruction.swapId) with data := .escrow written } ∧
    Writes ctx signers ledger instruction written output.window ∧
    (distinct → Effect ctx signers ledger instruction written output.calls)

def RunsOn (distinct : Prop) (ctx : ProgramContext) (signers : List AccountId) (ledger : Ledger)
    (instruction : Instruction) (accountIds : List AccountId) : Prop :=
  ∀ output, dispatch ctx instruction (accountIds.map (ledger.load signers)) = .ok output →
    Runs distinct ctx signers ledger instruction output

variable {state : EscrowMetadata}

theorem escrow_of_owned (owner : (ledger (.metadata ctx.selfProgramId swapId)).programOwner = ctx.selfProgramId)
    (data : (ledger (.metadata ctx.selfProgramId swapId)).data = .escrow state) :
    ledger.escrow ctx.selfProgramId swapId = some state := by
  simp [escrow, owner, data]

theorem requireOwned_recorded (owned : requireOwned ctx (ledger.load signers metadata) swapId = .ok ())
    (data : (ledger metadata).data = .escrow state) : ledger.escrow ctx.selfProgramId swapId = some state := by
  obtain ⟨derived, programOwner⟩ := requireOwned_ok.mp owned
  simp only [load] at derived programOwner
  subst derived
  exact escrow_of_owned programOwner data

theorem requireInit_unrecorded (fresh : requireInit ctx (ledger.load signers metadata) swapId = .ok ()) :
    ledger.escrow ctx.selfProgramId swapId = none := by
  obtain ⟨derived, unused⟩ := requireInit_ok.mp fresh
  simp only [load] at derived unused
  subst derived
  simp [escrow, unused, Account.default]

@[simp] theorem windowBefore_contains {stop : Nat} :
    (windowBefore stop).contains timestamp = true ↔ timestamp < stop := by
  simp [windowBefore, ValidityWindow.contains]

@[simp] theorem windowFrom_contains {start : Nat} :
    (windowFrom start).contains timestamp = true ↔ start ≤ timestamp := by
  simp [windowFrom, ValidityWindow.contains]

variable {program : ProgramId} {termsHash : Bytes32}

theorem openNative_runs (instruction : Instruction) (version : Nat)
    (initializes : instruction.initializes = true)
    (fresh : requireInit ctx (ledger.load signers metadata) instruction.swapId = .ok ())
    (derived : requireCustody ctx (ledger.load signers custody) instruction.swapId = .ok ())
    (signed : requireSigner (ledger.load signers depositor) = .ok ())
    (initial : nativeInitialState ctx (ledger.load signers custody) (ledger.load signers depositor)
      (ledger.load signers claimant) instruction.swapId termsHash claimAuthority amount refundAt
      program = .ok state)
    (supported : version = supportedVersion claimAuthority)
    (ordered : EscrowMetadata.XmrOrdered { state with version }) :
    Runs distinct ctx signers ledger instruction
      (nativeOpening (ledger.load signers metadata) { state with version }
        (ledger.load signers custody)) := by
  have unrecorded := requireInit_unrecorded fresh
  obtain ⟨terms, accounts, rfl⟩ := nativeInitialState_ok.mp initial
  simp only [requireInit_ok, requireCustody_ok, requireSigner_ok, load, decide_eq_true_eq]
    at fresh derived signed accounts
  obtain ⟨rfl, fresh⟩ := fresh
  subst derived
  refine ⟨_, rfl, rfl, .opens initializes unrecorded rfl, fun _ => ?_⟩
  refine .openNative fresh accounts.1 ?_ ?_ signed terms.2.2.2.2.1 accounts.2.1 accounts.2.2
  · exact ⟨rfl, rfl, supported, terms.2.2.2.1, terms.1, ordered⟩
  · exact ⟨rfl, rfl, rfl, rfl, rfl, terms.2.2.2.2.2⟩

theorem initializeNative_runs :
    RunsOn distinct ctx signers ledger (.initializeNative swapId termsHash secretDigest amount refundAt program)
      [metadata, custody, depositor, claimant] := by
  intro output accepted
  simp only [dispatch, List.map, initializeNative, bind_ok_iff, pure_ok] at accepted
  obtain ⟨_, fresh, _, derived, _, signed, state, initial, rfl⟩ := accepted
  obtain ⟨_, _, rfl⟩ := nativeInitialState_ok.mp initial
  exact openNative_runs (.initializeNative swapId termsHash secretDigest amount refundAt program)
    escrowMetadataVersion rfl fresh derived signed initial rfl trivial

theorem initializeNativeWitnessed_runs :
    RunsOn distinct ctx signers ledger (.initializeNativeWitnessed swapId termsHash key amount refundAt program)
      [metadata, custody, depositor, claimant, authority] := by
  intro output accepted
  simp only [dispatch, List.map, initializeNativeWitnessed, bind_ok_iff, pure_ok] at accepted
  obtain ⟨_, fresh, _, derived, _, signed, state, initial, rfl⟩ := accepted
  obtain ⟨_, _, rfl⟩ := nativeInitialState_ok.mp initial
  exact openNative_runs (.initializeNativeWitnessed swapId termsHash key amount refundAt program)
    escrowMetadataVersion rfl fresh derived signed initial rfl trivial

theorem initializeNativeXmr_runs {terms : XmrTerms} {refundAuthority : AccountId} :
    RunsOn distinct ctx signers ledger (.initializeNativeXmr swapId termsHash terms amount refundAt program)
      [metadata, custody, depositor, claimant, authority, refundAuthority] := by
  intro output accepted
  simp only [dispatch, List.map, initializeNativeXmr, nativeXmrInitialState, bind_ok_iff, ensure_ok_iff, exists_const,
    pure_ok] at accepted
  obtain ⟨_, fresh, _, derived, _, signed, _, ⟨ordered, state, initial, rfl⟩, rfl⟩ := accepted
  obtain ⟨_, _, rfl⟩ := nativeInitialState_ok.mp initial
  exact openNative_runs (.initializeNativeXmr swapId termsHash terms amount refundAt program)
    xmrEscrowMetadataVersion rfl fresh derived signed initial rfl
    ⟨ordered.1, ordered.2.2.1.symm, ordered.2.2.2.symm⟩

theorem openToken_runs (initializes : instruction.initializes = true) (different : distinct → metadata ≠ claimant)
    (fresh : requireInit ctx (ledger.load signers metadata) instruction.swapId = .ok ())
    (signed : requireSigner (ledger.load signers depositor) = .ok ())
    (initial : tokenInitialState ctx (ledger.load signers metadata) (ledger.load signers depositor)
      (ledger.load signers claimant) (ledger.load signers definition) instruction.swapId termsHash
      claimAuthority amount refundAt program = .ok state)
    (plain : claimAuthority.isXmr = false) :
    Runs distinct ctx signers ledger instruction (tokenOpening (ledger.load signers metadata) state) := by
  have unrecorded := requireInit_unrecorded fresh
  obtain ⟨terms, _, rfl⟩ := tokenInitialState_ok.mp initial
  simp only [requireInit_ok, requireSigner_ok, load, decide_eq_true_eq] at fresh signed terms
  obtain ⟨rfl, fresh⟩ := fresh
  refine ⟨_, rfl, rfl, .opens initializes unrecorded rfl, fun apart => ?_⟩
  refine .openToken fresh ?_ ?_ signed terms.2.2.2.2.1 plain
  · refine ⟨rfl, rfl, ?_, terms.2.2.2.1, terms.1, ?_⟩
    · cases claimAuthority <;> first | rfl | cases plain
    · cases claimAuthority <;> trivial
  · exact ⟨terms.2.2.2.2.2.2.2.2, rfl, rfl, rfl, fun same => different apart same.symm,
      terms.2.2.2.2.2.2.2.1⟩

theorem initializeToken_runs (different : distinct → metadata ≠ claimant) :
    RunsOn distinct ctx signers ledger (.initializeToken swapId termsHash secretDigest amount refundAt program)
      [metadata, depositor, claimant, definition] := by
  intro output accepted
  simp only [dispatch, List.map, initializeToken, bind_ok_iff, pure_ok] at accepted
  obtain ⟨_, fresh, _, signed, state, initial, rfl⟩ := accepted
  exact openToken_runs rfl different fresh signed initial rfl

theorem initializeTokenWitnessed_runs (different : distinct → metadata ≠ claimant) :
    RunsOn distinct ctx signers ledger (.initializeTokenWitnessed swapId termsHash key amount refundAt program)
      [metadata, depositor, claimant, definition, authority] := by
  intro output accepted
  simp only [dispatch, List.map, initializeTokenWitnessed, bind_ok_iff, pure_ok] at accepted
  obtain ⟨_, fresh, _, signed, state, initial, rfl⟩ := accepted
  exact openToken_runs rfl different fresh signed initial rfl

theorem createTokenCustody_runs :
    RunsOn distinct ctx signers ledger (.createTokenCustody swapId) [metadata, definition, custody] := by
  intro output accepted
  simp only [dispatch, List.map, createTokenCustody, checked_ok, requireOwned_ok, readMetadata_ok,
    requireSupported_ok, requireFungibleDefinition_ok, exists_const, pure_ok] at accepted
  simp only [load] at accepted
  obtain ⟨⟨rfl, owner⟩, state, data, _, empty, ⟨_, sameDefinition, sameCustody, _, _⟩, _, rfl⟩ := accepted
  subst sameDefinition sameCustody
  have recorded := escrow_of_owned owner data
  refine ⟨state, rfl, ?_, .prepare recorded rfl (.inl empty), fun _ => .createCustody recorded empty⟩
  simp only [Instruction.swapId, ← data]

theorem fundNative_runs :
    RunsOn distinct ctx signers ledger (.fundNative swapId) [metadata, custody, depositor] := by
  intro output accepted
  simp only [dispatch, List.map, fundNative, checked_ok, requireOwned_ok, requireCustody_ok, requireSigner_ok,
    readMetadata_ok, requireSupported_ok, exists_const, pure_ok] at accepted
  simp only [load, decide_eq_true_eq] at accepted
  obtain ⟨⟨rfl, owner⟩, _, _, state, data, _, empty, ⟨_, _, programs, sameDepositor,
    sameCustody, _, custodyOwner, _⟩, rfl⟩ := accepted
  subst sameDepositor sameCustody
  have recorded := escrow_of_owned owner data
  exact ⟨_, rfl, rfl, .prepare recorded rfl (.inr rfl), fun _ => .fundNative recorded empty programs custodyOwner⟩

theorem holding_of_checks {data : AccountData} {definition : AccountId}
    (kind : data = .otherHolding definition ∨ ∃ held, data = .fungibleHolding definition held)
    (held : ∃ found, data = .fungibleHolding found balance) : data = .fungibleHolding definition balance := by
  obtain ⟨found, rfl⟩ := held
  rcases kind with kind | ⟨_, kind⟩
  · cases kind
  · cases kind
    rfl

theorem fundToken_runs :
    RunsOn distinct ctx signers ledger (.fundToken swapId) [metadata, owner, asset, custody] := by
  intro output accepted
  simp only [dispatch, List.map, fundToken, checked_ok, requireOwned_ok, requireSigner_ok, readMetadata_ok,
    requireSupported_ok, requireTokenDefinition_ok, fungibleBalance_ok, exists_const, pure_ok] at accepted
  simp only [load, decide_eq_true_eq] at accepted
  obtain ⟨⟨rfl, programOwner⟩, _, state, data, _, empty, ⟨_, sameDepositor, sameAsset,
    sameCustody, _, custodyOwner⟩, _, _, _, _, _, _, _, rfl, rfl⟩ := accepted
  subst sameDepositor sameAsset sameCustody
  have recorded := escrow_of_owned programOwner data
  exact ⟨_, rfl, rfl, .prepare recorded rfl (.inr rfl), fun _ => .fundToken recorded empty custodyOwner⟩

theorem authorizeNativeXmrClaim_runs {claimPartial : Bytes32} :
    RunsOn distinct ctx signers ledger (.authorizeNativeXmrClaim swapId claimPartial)
      [metadata, depositor] := by
  intro output accepted
  simp only [dispatch, List.map, authorizeNativeXmrClaim, validatedXmrClaimAuthorizationState, bind_ok_iff,
    requireOwned_ok, requireSigner_ok, readMetadata_ok, requireFunded_ok, exists_const, pure,
    Except.pure, Except.ok.injEq] at accepted
  obtain ⟨⟨derived, owner⟩, signed, written, ⟨state, data, ⟨_, funded⟩, authorized⟩, rfl⟩ := accepted
  split at authorized
  · rename_i authority
    simp only [ensure_bind_ok_iff, Except.ok.injEq] at authorized
    simp only [load, decide_eq_true_eq] at derived owner signed data authorized
    obtain ⟨⟨_, _, sameDepositor, _, _, committed⟩, rfl⟩ := authorized
    subst derived sameDepositor
    have recorded := escrow_of_owned owner data
    refine ⟨_, rfl, rfl, .authorize recorded ?_ signed, fun _ => .authorize recorded funded⟩
    rw [authority]
    exact committed
  · cases authorized

variable {preimage : Bytes32}

theorem preimage_opens (proven : requireClaimProof ctx state (.sha256Preimage preimage) = .ok ()) :
    state.claimAuthority = .sha256Preimage (ctx.sha256 preimage) := by
  simp only [requireClaimProof, requirePreimageAuthority] at proven
  split at proven
  · rename_i recorded
    rw [ensure_ok_iff.mp proven, recorded]
  · cases proven

theorem witness_derived (proven : requireClaimProof ctx state (.aggregateWitness authority) = .ok ()) :
    ∃ key, state.claimAuthority = .aggregateWitness key (witnessedAccountId key) ∧
      witnessedAccountId key = authority := by
  simp only [requireClaimProof, requireAggregateWitnessAuthority] at proven
  split at proven
  · rename_i key account recorded
    obtain ⟨derived, same, _⟩ := ensure_ok_iff.mp proven
    subst derived
    exact ⟨key, recorded, same⟩
  · cases proven

theorem nativePayout_runs
    {expected : AccountId}
    (owned : requireOwned ctx (ledger.load signers metadata) instruction.swapId = .ok ())
    (data : (ledger metadata).data = .escrow state)
    (bound : nativeBinding state (ledger.load signers custody) (ledger.load signers recipient) expected
      instruction.swapId = true)
    (pays : status = .claimed ∧ expected = state.claimant ∨
      status = .refunded ∧ expected = state.depositor)
    (settles : state.assetProgram = state.custodyProgram →
      Settles ctx signers ledger state instruction status window)
    (funded : state.status.holdsFunds) :
    Runs distinct ctx signers ledger instruction
      (nativePayout ctx (ledger.load signers metadata) { state with status }
        (ledger.load signers custody) (ledger.load signers recipient) instruction.swapId window) := by
  obtain ⟨derived, owner⟩ := requireOwned_ok.mp owned
  obtain ⟨_, _, programs, rfl, sameCustody, _⟩ := nativeBinding_ok.mp bound
  simp only [load] at derived owner pays sameCustody
  subst derived sameCustody
  have recorded := escrow_of_owned owner data
  exact ⟨_, rfl, rfl, .settle recorded (settles programs), fun _ => .settleNative recorded funded pays programs⟩

theorem tokenPayout_runs
    (owned : requireOwned ctx (ledger.load signers metadata) instruction.swapId = .ok ())
    (data : (ledger metadata).data = .escrow state) (same : state.custody = custody)
    (kind : (ledger custody).data = .otherHolding state.assetDefinition ∨
      ∃ held, (ledger custody).data = .fungibleHolding state.assetDefinition held)
    (held : ∃ found, (ledger custody).data = .fungibleHolding found balance)
    (exact_ : balance = state.amount)
    (pays : status = .claimed ∧ recipient = state.claimantAsset ∨
      status = .refunded ∧ recipient = state.depositorAsset)
    (settles : (ledger state.custody).data = .fungibleHolding state.assetDefinition state.amount →
      Settles ctx signers ledger state instruction status window)
    (funded : state.status.holdsFunds) :
    Runs distinct ctx signers ledger instruction
      (tokenPayout ctx (ledger.load signers metadata) { state with status }
        (ledger.load signers custody) (ledger.load signers recipient) instruction.swapId window) := by
  simp only [requireOwned_ok, load] at owned
  obtain ⟨rfl, owner⟩ := owned
  subst same exact_
  have recorded := escrow_of_owned owner data
  have holding := holding_of_checks kind held
  exact ⟨_, rfl, rfl, .settle recorded (settles holding), fun _ => .settleToken recorded funded pays⟩

theorem claimNative_runs :
    RunsOn distinct ctx signers ledger (.claimNative swapId preimage) [metadata, custody, claimant] := by
  intro output accepted
  simp only [dispatch, List.map, claimNative, validatedNativeClaimState, bind_ok_iff, ensure_ok_iff,
    requireCustody_ok, requireSigner_ok, readMetadata_ok, requireFunded_ok, exists_const, pure_ok] at accepted
  obtain ⟨_, owned, _, signed, written, ⟨state, data, ⟨_, funded⟩, bound, _, proven, rfl⟩, rfl⟩ := accepted
  have signer : state.claimant ∈ signers := (nativeBinding_ok.mp bound).2.2.2.1 ▸ of_decide_eq_true signed
  exact nativePayout_runs owned data bound (.inl ⟨rfl, rfl⟩)
    (fun native => .claimNative native (preimage_opens proven) signer) (by rw [funded]; rfl)

theorem claimNativeWitnessed_runs :
    RunsOn distinct ctx signers ledger (.claimNativeWitnessed swapId)
      [metadata, custody, claimant, authority] := by
  intro output accepted
  simp only [dispatch, List.map, claimNativeWitnessed, validatedNativeClaimState, bind_ok_iff, ensure_ok_iff,
    requireCustody_ok, requireSigner_ok, readMetadata_ok, requireFunded_ok, exists_const, pure_ok] at accepted
  obtain ⟨_, owned, _, signed, written, ⟨state, data, ⟨_, funded⟩, bound, _, proven, rfl⟩, rfl⟩ := accepted
  obtain ⟨key, recorded, same⟩ := witness_derived proven
  have signer : witnessedAccountId key ∈ signers := same ▸ of_decide_eq_true signed
  exact nativePayout_runs owned data bound (.inl ⟨rfl, rfl⟩)
    (fun native => .claimNativeWitnessed native recorded signer) (by rw [funded]; rfl)

theorem refundNative_runs :
    RunsOn distinct ctx signers ledger (.refundNative swapId) [metadata, custody, depositor] := by
  intro output accepted
  simp only [dispatch, List.map, refundNative, bind_ok_iff, requireCustody_ok, readMetadata_ok, requireFunded_ok,
    exists_const] at accepted
  obtain ⟨_, owned, _, state, data, ⟨_, funded⟩, accepted⟩ := accepted
  split at accepted
  · cases accepted
  · rename_i plain
    simp only [ensure_bind_ok_iff, pure_ok] at accepted
    obtain ⟨bound, rfl⟩ := accepted
    have notXmr : state.claimAuthority.isXmr = false := by
      cases recorded : state.claimAuthority with
      | sha256Preimage | aggregateWitness => rfl
      | xmrDualAdaptor => exact absurd recorded (plain _ _ _ _ _ _ _ _ _)
    exact nativePayout_runs owned data bound (.inr ⟨rfl, rfl⟩) (fun native => .refundNative native notXmr)
      (by rw [funded]; rfl)

theorem claimToken_runs :
    RunsOn distinct ctx signers ledger (.claimToken swapId preimage) [metadata, custody, owner, asset] := by
  intro output accepted
  simp only [dispatch, List.map, claimToken, validatedTokenClaimState, bind_ok_iff, ensure_ok_iff, requireSigner_ok,
    readMetadata_ok, requireFunded_ok, requireTokenDefinition_ok, fungibleBalance_ok, exists_const,
    pure_ok] at accepted
  obtain ⟨_, owned, signed, written, ⟨state, data, ⟨_, funded⟩, ⟨_, claims, pays, same, _⟩, _, kind,
    balance, held, amount, _, proven, rfl⟩, rfl⟩ := accepted
  have signer : state.claimant ∈ signers := claims ▸ of_decide_eq_true signed
  exact tokenPayout_runs owned data same kind held amount (.inl ⟨rfl, pays.symm⟩)
    (fun holding => .claimToken holding (preimage_opens proven) signer) (by rw [funded]; rfl)

theorem claimTokenWitnessed_runs :
    RunsOn distinct ctx signers ledger (.claimTokenWitnessed swapId)
      [metadata, custody, owner, asset, authority] := by
  intro output accepted
  simp only [dispatch, List.map, claimTokenWitnessed, validatedTokenClaimState, bind_ok_iff, ensure_ok_iff,
    requireSigner_ok, readMetadata_ok, requireFunded_ok, requireTokenDefinition_ok, fungibleBalance_ok,
    exists_const, pure_ok] at accepted
  obtain ⟨_, owned, signed, written, ⟨state, data, ⟨_, funded⟩, ⟨_, _, pays, same, _⟩, _, kind,
    balance, held, amount, _, proven, rfl⟩, rfl⟩ := accepted
  obtain ⟨key, recorded, derived⟩ := witness_derived proven
  have signer : witnessedAccountId key ∈ signers := derived ▸ of_decide_eq_true signed
  exact tokenPayout_runs owned data same kind held amount (.inl ⟨rfl, pays.symm⟩)
    (fun holding => .claimTokenWitnessed holding recorded signer) (by rw [funded]; rfl)

theorem refundToken_runs : RunsOn distinct ctx signers ledger (.refundToken swapId) [metadata, custody, asset] := by
  intro output accepted
  simp only [dispatch, List.map, refundToken, bind_ok_iff, ensure_ok_iff, readMetadata_ok, requireFunded_ok,
    requireTokenDefinition_ok, fungibleBalance_ok, exists_const, pure_ok] at accepted
  obtain ⟨_, owned, state, data, ⟨_, funded⟩, ⟨_, pays, same, _⟩, _, kind, balance, held, amount, rfl⟩ := accepted
  exact tokenPayout_runs owned data same kind held amount (.inr ⟨rfl, pays.symm⟩) .refundToken (by rw [funded]; rfl)

theorem holdsFunds_of (allowed : state.status = .funded ∨ state.status = .xmrClaimAuthorized) :
    state.status.holdsFunds := by
  rcases allowed with status | status <;> rw [status] <;> rfl

theorem claimNativeXmr_runs :
    RunsOn distinct ctx signers ledger (.claimNativeXmr swapId) [metadata, custody, claimant, authority] := by
  intro output accepted
  simp only [dispatch, List.map, claimNativeXmr, validatedXmrNativeWitnessState, requireXmrWitnessAuthority,
    bind_ok_iff, ensure_ok_iff, requireCustody_ok, requireSigner_ok, readMetadata_ok, exists_const, pure,
    Except.pure, Except.ok.injEq] at accepted
  obtain ⟨_, owned, _, signed, ⟨written, punishAt⟩, ⟨state, data, allowed, ⟨_, bound⟩, _, proven, same⟩,
    rfl⟩ := accepted
  obtain ⟨rfl, rfl⟩ := same
  split at proven
  · rename_i recorded
    simp only [ensure_bind_ok_iff, Except.ok.injEq] at proven
    obtain ⟨⟨derived, signer, _⟩, rfl⟩ := proven
    have key := congrArg ClaimAuthority.claimKey recorded
    have signs := derived.trans signer
    have signed := of_decide_eq_true signed
    have authorized := of_decide_eq_true allowed
    exact nativePayout_runs owned data bound (.inl ⟨rfl, rfl⟩)
      (fun _ => .claimNativeXmr (congrArg ClaimAuthority.isXmr recorded) key (signs ▸ signed) authorized)
      (by rw [authorized]; rfl)
  · cases proven

theorem refundNativeXmr_runs :
    RunsOn distinct ctx signers ledger (.refundNativeXmr swapId) [metadata, custody, depositor, authority] := by
  intro output accepted
  simp only [dispatch, List.map, refundNativeXmr, validatedXmrNativeWitnessState, requireXmrWitnessAuthority,
    bind_ok_iff, ensure_ok_iff, requireCustody_ok, requireSigner_ok, readMetadata_ok, exists_const, pure,
    Except.pure, Except.ok.injEq] at accepted
  obtain ⟨_, owned, _, signed, ⟨written, punishAt⟩, ⟨state, data, allowed, ⟨_, bound⟩, _, proven, same⟩,
    _, rfl⟩ := accepted
  obtain ⟨rfl, rfl⟩ := same
  split at proven
  · rename_i recorded
    simp only [ensure_bind_ok_iff, Except.ok.injEq] at proven
    obtain ⟨⟨derived, signer, _⟩, rfl⟩ := proven
    have key := congrArg ClaimAuthority.refundKey recorded
    have signs := derived.trans signer
    have signed := of_decide_eq_true signed
    exact nativePayout_runs owned data bound (.inr ⟨rfl, rfl⟩)
      (fun _ => .refundNativeXmr (congrArg ClaimAuthority.punishAt recorded) key (signs ▸ signed))
      (holdsFunds_of (of_decide_eq_true allowed))
  · cases proven

theorem punishNativeXmr_runs :
    RunsOn distinct ctx signers ledger (.punishNativeXmr swapId) [metadata, custody, claimant] := by
  intro output accepted
  simp only [dispatch, List.map, punishNativeXmr, validatedXmrNativePunishState, bind_ok_iff, ensure_ok_iff,
    requireCustody_ok, requireSigner_ok, readMetadata_ok, exists_const, pure, Except.pure,
    Except.ok.injEq] at accepted
  obtain ⟨_, owned, _, signed, ⟨written, punishAt⟩, ⟨state, data, allowed, ⟨_, bound⟩, proven⟩, rfl⟩ := accepted
  split at proven
  · rename_i recorded
    simp only [Except.ok.injEq, Prod.mk.injEq] at proven
    obtain ⟨rfl, rfl⟩ := proven
    have signer : state.claimant ∈ signers :=
      (nativeBinding_ok.mp bound).2.2.2.1 ▸ of_decide_eq_true signed
    exact nativePayout_runs owned data bound (.inl ⟨rfl, rfl⟩)
      (fun _ => .punishNativeXmr (congrArg ClaimAuthority.punishAt recorded) signer) (holdsFunds_of allowed)
  · cases proven

end Handlers

/-- Every accepted instruction has one of the eight effects. -/
theorem dispatch_runs {ctx : ProgramContext} {signers : List AccountId} {ledger : Ledger}
    {instruction : Instruction} {accountIds : List AccountId} {output : SpelOutput}
    (accepted : dispatch ctx instruction (accountIds.map (ledger.load signers)) = .ok output) :
    Runs accountIds.Nodup ctx signers ledger instruction output := by
  -- The handlers are told apart by the number of accounts first; a wrong count is an error.
  rcases accountIds with _ | ⟨first, _ | ⟨second, _ | ⟨third, _ | ⟨fourth, _ | ⟨fifth, _ |
    ⟨sixth, _ | ⟨seventh, rest⟩⟩⟩⟩⟩⟩⟩
  · rw [List.map_nil, dispatch_nil] at accepted
    cases accepted
  · cases instruction <;> cases accepted
  · cases instruction
    case authorizeNativeXmrClaim => exact authorizeNativeXmrClaim_runs _ accepted
    all_goals cases accepted
  · cases instruction
    case fundNative => exact fundNative_runs _ accepted
    case claimNative => exact claimNative_runs _ accepted
    case refundNative => exact refundNative_runs _ accepted
    case createTokenCustody => exact createTokenCustody_runs _ accepted
    case refundToken => exact refundToken_runs _ accepted
    case punishNativeXmr => exact punishNativeXmr_runs _ accepted
    all_goals cases accepted
  · cases instruction
    case initializeNative => exact initializeNative_runs _ accepted
    case claimNativeWitnessed => exact claimNativeWitnessed_runs _ accepted
    case initializeToken => exact initializeToken_runs (fun distinct => by simp_all) _ accepted
    case fundToken => exact fundToken_runs _ accepted
    case claimToken => exact claimToken_runs _ accepted
    case claimNativeXmr => exact claimNativeXmr_runs _ accepted
    case refundNativeXmr => exact refundNativeXmr_runs _ accepted
    all_goals cases accepted
  · cases instruction
    case initializeNativeWitnessed => exact initializeNativeWitnessed_runs _ accepted
    case initializeTokenWitnessed => exact initializeTokenWitnessed_runs (fun distinct => by simp_all) _ accepted
    case claimTokenWitnessed => exact claimTokenWitnessed_runs _ accepted
    all_goals cases accepted
  · cases instruction
    case initializeNativeXmr => exact initializeNativeXmr_runs _ accepted
    all_goals cases accepted
  · cases instruction <;> cases accepted

end AtomicSwaps.Escrow
