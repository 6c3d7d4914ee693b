import AtomicSwaps.Escrow.Ledger

namespace AtomicSwaps.Escrow

variable {claimAuthority : ClaimAuthority} {termsHash : Bytes32}

open AtomicSwaps.Core (Bytes32)
open Fallible

variable {ctx : ProgramContext} {metadata custody account : AccountWithMetadata}
  {state written : EscrowMetadata} {swapId : Bytes32} {result : Unit}

@[simp] theorem requireSigner_ok : requireSigner account = .ok result ↔ account.isAuthorized = true := by
  simp [requireSigner]

@[simp] theorem requireInit_ok : requireInit ctx metadata swapId = .ok result ↔
    metadata.accountId = .metadata ctx.selfProgramId swapId ∧ metadata.account = .default := by
  simp [requireInit, requirePda, ensure_bind_ok_iff]

@[simp] theorem requireOwned_ok : requireOwned ctx metadata swapId = .ok result ↔
    metadata.accountId = .metadata ctx.selfProgramId swapId ∧
      metadata.account.programOwner = ctx.selfProgramId := by
  simp [requireOwned, requirePda, ensure_bind_ok_iff]

@[simp] theorem requireCustody_ok : requireCustody ctx custody swapId = .ok result ↔
    custody.accountId = .custody ctx.selfProgramId swapId := by
  simp [requireCustody, requirePda]

@[simp] theorem readMetadata_ok : readMetadata metadata = .ok state ↔ metadata.account.data = .escrow state := by
  unfold readMetadata
  split <;> simp_all

@[simp] theorem requireSupported_ok :
    requireSupported state = .ok result ↔ state.version = supportedVersion state.claimAuthority := by
  simp [requireSupported]

@[simp] theorem requireFunded_ok : requireFunded state = .ok result ↔
    state.version = supportedVersion state.claimAuthority ∧ state.status = .funded := by
  simp [requireFunded, bind_ok_iff]

@[simp] theorem fungibleBalance_ok {balance : Nat} : fungibleBalance account = .ok balance ↔
    ∃ definition, account.account.data = .fungibleHolding definition balance := by
  unfold fungibleBalance
  split <;> simp_all

@[simp] theorem requireTokenDefinition_ok {message : String} :
    requireTokenDefinition state account message = .ok result ↔
      account.account.data = .otherHolding state.assetDefinition ∨
        ∃ balance, account.account.data = .fungibleHolding state.assetDefinition balance := by
  unfold requireTokenDefinition tokenDefinition
  split <;> simp_all [bind_ok_iff]

@[simp] theorem requireFungibleDefinition_ok {tokenProgram : ProgramId} :
    requireFungibleDefinition account tokenProgram = .ok result ↔
      account.account.programOwner = tokenProgram ∧ account.account.data = .fungibleDefinition := by
  simp [requireFungibleDefinition]

theorem nativeBinding_ok {recipient : AccountWithMetadata} {expected : AccountId} :
    nativeBinding state custody recipient expected swapId = true ↔
      state.swapId = swapId ∧ state.assetDefinition = .zero ∧
        state.assetProgram = state.custodyProgram ∧ expected = recipient.accountId ∧
        state.custody = custody.accountId ∧ recipient.account.programOwner = state.assetProgram ∧
        custody.account.programOwner = state.assetProgram ∧ custody.account.balance = state.amount := by
  simp [nativeBinding]

theorem nativeInitialState_ok {depositor claimant : AccountWithMetadata}
    {amount refundAt : Nat} {program : ProgramId} :
    nativeInitialState ctx custody depositor claimant swapId termsHash claimAuthority amount refundAt
        program = .ok state ↔
      (amount ≠ 0 ∧ refundAt ≠ 0 ∧ termsHash ≠ 0 ∧
        validClaimAuthority claimAuthority claimant.accountId ∧ program ≠ defaultProgramId ∧
        program ≠ ctx.selfProgramId) ∧
      (custody.account = .default ∧ depositor.account.programOwner = program ∧
        claimant.account.programOwner = program) ∧
      state = { version := escrowMetadataVersion, swapId, termsHash, claimAuthority
                depositor := depositor.accountId, depositorAsset := depositor.accountId
                claimant := claimant.accountId, claimantAsset := claimant.accountId
                custody := custody.accountId, assetProgram := program, custodyProgram := program
                assetDefinition := .zero, amount, refundAt, status := .empty } := by
  simp only [nativeInitialState, ensure_bind_ok_iff, pure_ok, eq_comm (a := state)]

theorem tokenInitialState_ok {depositorOwner claimantOwner definition : AccountWithMetadata}
    {amount refundAt : Nat} {ataProgram : ProgramId} :
    tokenInitialState ctx metadata depositorOwner claimantOwner definition swapId termsHash
        claimAuthority amount refundAt ataProgram = .ok state ↔
      (amount ≠ 0 ∧ refundAt ≠ 0 ∧ termsHash ≠ 0 ∧
        validClaimAuthority claimAuthority claimantOwner.accountId ∧
        definition.account.programOwner ≠ defaultProgramId ∧
        definition.account.programOwner ≠ ctx.selfProgramId ∧ ataProgram ≠ defaultProgramId ∧
        ataProgram ≠ ctx.selfProgramId ∧ ataProgram ≠ definition.account.programOwner) ∧
      definition.account.data = .fungibleDefinition ∧
      state = { version := escrowMetadataVersion, swapId, termsHash, claimAuthority
                depositor := depositorOwner.accountId
                depositorAsset :=
                  .associatedToken ataProgram depositorOwner.accountId definition.accountId
                claimant := claimantOwner.accountId
                claimantAsset :=
                  .associatedToken ataProgram claimantOwner.accountId definition.accountId
                custody := .associatedToken ataProgram metadata.accountId definition.accountId
                assetProgram := definition.account.programOwner, custodyProgram := ataProgram
                assetDefinition := definition.accountId, amount, refundAt, status := .empty } := by
  simp only [tokenInitialState, checked_ok, requireFungibleDefinition_ok, pure_ok, true_and, exists_const,
    eq_comm (a := state)]

end AtomicSwaps.Escrow
