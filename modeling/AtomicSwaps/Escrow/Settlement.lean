import AtomicSwaps.Escrow.Lifecycle

namespace AtomicSwaps.Escrow

open AtomicSwaps.Core (Bytes32)
open Fallible Transition Ledger

def EscrowMetadata.HoldsExactly (record : EscrowMetadata) (ledger : Ledger) : Prop :=
  record.heldBy (ledger record.custody) = some record.amount

/-- An account that the settlements of a token escrow take for a recipient: the token program owns it, and it
    is a holding of the escrow's token. -/
def EscrowMetadata.PaysHolding (record : EscrowMetadata) (ledger : Ledger) (recipient : AccountId) : Prop :=
  (ledger recipient).programOwner = record.assetProgram ∧
    ((ledger recipient).data = .otherHolding record.assetDefinition ∨
      ∃ held, (ledger recipient).data = .fungibleHolding record.assetDefinition held)

/-- The recipient can be credited; for a token escrow its token account exists. -/
def EscrowMetadata.CanReceive (record : EscrowMetadata) (creditable : Account → Nat → Prop) (ledger : Ledger)
    (recipient : AccountId) : Prop :=
  (record.assetProgram ≠ record.custodyProgram → record.PaysHolding ledger recipient) ∧
    creditable (ledger recipient) record.amount

/-- The program that an escrow names pays out of an account that is lent to it and holds the amount, to
    another account, exactly if it can credit that one. -/
structure Runtime.PaysOut (runtime : Runtime) (record : EscrowMetadata) (creditable : Account → Nat → Prop) :
    Prop where
  native : record.assetProgram = record.custodyProgram → ∀ signers ledger sender recipient amount,
    sender ≠ recipient → (ledger sender).programOwner = record.assetProgram →
    amount ≤ (ledger sender).balance →
    ((runtime.call signers ledger (.nativeTransfer record.assetProgram sender recipient amount
      (some sender))).isSome ↔ creditable (ledger recipient) amount)
  token : record.assetProgram ≠ record.custodyProgram → ∀ signers ledger owner sender recipient amount held,
    sender = .associatedToken record.custodyProgram owner record.assetDefinition → sender ≠ recipient →
    (ledger sender).programOwner = record.assetProgram →
    (ledger sender).data = .fungibleHolding record.assetDefinition held → amount ≤ held →
    ((runtime.call signers ledger (.ataTransfer record.custodyProgram owner sender recipient amount
      (some owner))).isSome ↔ creditable (ledger recipient) amount)

/-- The settlement that an escrow's terms make available at a time: the instruction, the recorded
    accounts and the authority that signs it, and the account it pays. -/
inductive Available (runtime : Runtime) (record : EscrowMetadata) (timestamp : Nat) :
    Transaction → AccountId → Prop
  | claimNative {digest preimage : Bytes32} (native : record.assetProgram = record.custodyProgram)
      (authority : record.claimAuthority = .sha256Preimage digest)
      (opens : runtime.sha256 preimage = digest) (funded : record.status = .funded)
      (timely : timestamp < record.refundAt) :
      Available runtime record timestamp
        ⟨.claimNative record.swapId preimage,
          [.metadata runtime.selfProgramId record.swapId, record.custody, record.claimant],
          [record.claimant]⟩ record.claimant
  | claimNativeWitnessed {key : Bytes32} {account : AccountId}
      (native : record.assetProgram = record.custodyProgram)
      (authority : record.claimAuthority = .aggregateWitness key account)
      (funded : record.status = .funded) (timely : timestamp < record.refundAt) :
      Available runtime record timestamp
        ⟨.claimNativeWitnessed record.swapId,
          [.metadata runtime.selfProgramId record.swapId, record.custody, record.claimant, account],
          [account]⟩ record.claimant
  | refundNative (native : record.assetProgram = record.custodyProgram)
      (authority : record.claimAuthority.isXmr = false) (funded : record.status = .funded)
      (timely : record.refundAt ≤ timestamp) :
      Available runtime record timestamp
        ⟨.refundNative record.swapId,
          [.metadata runtime.selfProgramId record.swapId, record.custody, record.depositor], []⟩
        record.depositor
  | claimToken {digest preimage : Bytes32} (token : record.assetProgram ≠ record.custodyProgram)
      (authority : record.claimAuthority = .sha256Preimage digest)
      (opens : runtime.sha256 preimage = digest) (funded : record.status = .funded)
      (timely : timestamp < record.refundAt) :
      Available runtime record timestamp
        ⟨.claimToken record.swapId preimage,
          [.metadata runtime.selfProgramId record.swapId, record.custody, record.claimant,
            record.claimantAsset], [record.claimant]⟩ record.claimantAsset
  | claimTokenWitnessed {key : Bytes32} {account : AccountId}
      (token : record.assetProgram ≠ record.custodyProgram)
      (authority : record.claimAuthority = .aggregateWitness key account)
      (funded : record.status = .funded) (timely : timestamp < record.refundAt) :
      Available runtime record timestamp
        ⟨.claimTokenWitnessed record.swapId,
          [.metadata runtime.selfProgramId record.swapId, record.custody, record.claimant,
            record.claimantAsset, account], [account]⟩ record.claimantAsset
  | refundToken (token : record.assetProgram ≠ record.custodyProgram)
      (funded : record.status = .funded) (timely : record.refundAt ≤ timestamp) :
      Available runtime record timestamp
        ⟨.refundToken record.swapId,
          [.metadata runtime.selfProgramId record.swapId, record.custody, record.depositorAsset], []⟩
        record.depositorAsset
  | claimNativeXmr {claimKey : Bytes32} {claimAccount : AccountId} {refundKey : Bytes32}
      {refundAccount : AccountId} {maker taker binding commitment : Bytes32} {punishAt : Nat}
      (authority : record.claimAuthority = .xmrDualAdaptor claimKey claimAccount refundKey refundAccount
        maker taker binding commitment punishAt)
      (authorized : record.status = .xmrClaimAuthorized) (timely : timestamp < record.refundAt) :
      Available runtime record timestamp
        ⟨.claimNativeXmr record.swapId,
          [.metadata runtime.selfProgramId record.swapId, record.custody, record.claimant,
            claimAccount], [claimAccount]⟩ record.claimant
  | refundNativeXmr {claimKey : Bytes32} {claimAccount : AccountId} {refundKey : Bytes32}
      {refundAccount : AccountId} {maker taker binding commitment : Bytes32} {punishAt : Nat}
      (authority : record.claimAuthority = .xmrDualAdaptor claimKey claimAccount refundKey refundAccount
        maker taker binding commitment punishAt)
      (funded : record.status.holdsFunds) (timely : record.refundAt ≤ timestamp)
      (early : timestamp < punishAt) :
      Available runtime record timestamp
        ⟨.refundNativeXmr record.swapId,
          [.metadata runtime.selfProgramId record.swapId, record.custody, record.depositor,
            refundAccount], [refundAccount]⟩ record.depositor
  | punishNativeXmr {claimKey : Bytes32} {claimAccount : AccountId} {refundKey : Bytes32}
      {refundAccount : AccountId} {maker taker binding commitment : Bytes32} {punishAt : Nat}
      (authority : record.claimAuthority = .xmrDualAdaptor claimKey claimAccount refundKey refundAccount
        maker taker binding commitment punishAt)
      (funded : record.status.holdsFunds) (timely : punishAt ≤ timestamp) :
      Available runtime record timestamp
        ⟨.punishNativeXmr record.swapId,
          [.metadata runtime.selfProgramId record.swapId, record.custody, record.claimant],
          [record.claimant]⟩ record.claimant

section Acceptance

variable {runtime : Runtime} {signers : List AccountId} {timestamp : Nat} {ledger : Ledger}
  {record : EscrowMetadata} {swapId : Bytes32} {recipient : AccountId} {creditable : Account → Nat → Prop}

theorem holdsExactly_native (native : record.assetProgram = record.custodyProgram) :
    record.HoldsExactly ledger ↔ (ledger record.custody).balance = record.amount := by
  simp [EscrowMetadata.HoldsExactly, EscrowMetadata.heldBy, native]

theorem holdsExactly_token (token : record.assetProgram ≠ record.custodyProgram) :
    record.HoldsExactly ledger ↔
      (ledger record.custody).data = .fungibleHolding record.assetDefinition record.amount := by
  simp only [EscrowMetadata.HoldsExactly, EscrowMetadata.heldBy, if_neg token]
  split
  · rename_i data
    rw [data]
    simp
  · rename_i other
    exact iff_of_false (by rintro ⟨⟩) fun held => other _ _ held

theorem process_isOk {transaction : Transaction} :
    (ledger.process runtime timestamp transaction).isOk ↔
      transaction.accountIds.Nodup ∧
      runtime.CanSign transaction.signers ∧
      ∃ output, dispatch runtime.toProgramContext transaction.instruction
          (transaction.accountIds.map (ledger.load transaction.signers)) = .ok output ∧
        output.window.contains timestamp ∧
        ((ledger.set output.metadata.accountId
          { output.metadata.account with programOwner := runtime.selfProgramId }).callAll runtime
            transaction.signers output.calls).isSome := by
  have accepted : (ledger.process runtime timestamp transaction).isOk ↔
      ∃ result, ledger.process runtime timestamp transaction = .ok result := by
    cases ledger.process runtime timestamp transaction <;> simp [Except.isOk, Except.toBool]
  rw [accepted]
  simp only [process, checked_ok, exists_const]
  constructor
  · rintro ⟨result, distinct, signable, output, dispatched, timely, committed⟩
    refine ⟨distinct, signable, output, dispatched, timely, ?_⟩
    split at committed
    · rename_i called
      rw [called]
      rfl
    · cases committed
  · rintro ⟨distinct, signable, output, dispatched, timely, called⟩
    obtain ⟨after, called⟩ := Option.isSome_iff_exists.mp called
    refine ⟨(after, output.calls), distinct, signable, output, dispatched, timely, ?_⟩
    rw [called]
    rfl

structure Settleable (runtime : Runtime) (ledger : Ledger) (record : EscrowMetadata) (swapId : Bytes32) :
    Prop where
  recorded : ledger.escrow runtime.selfProgramId swapId = some record
  formed : record.WellFormed runtime swapId
  fundsHeld : record.status.holdsFunds
  owned : record.Owned ledger

def EscrowMetadata.payout (record : EscrowMetadata) (program : ProgramId) (swapId : Bytes32)
    (recipient : AccountId) : ChainedCall :=
  if record.assetProgram = record.custodyProgram then
    .nativeTransfer record.assetProgram record.custody recipient record.amount (some (.custody program swapId))
  else
    .ataTransfer record.custodyProgram (.metadata program swapId) record.custody recipient record.amount
      (some (.metadata program swapId))

/-- On the metadata and custody of the record and the other accounts it needs, a settlement past its other
    guards pays what custody holds exactly. -/
def EscrowMetadata.SettledBy (record : EscrowMetadata) (runtime : Runtime) (ledger : Ledger)
    (signers : List AccountId) (swapId : Bytes32) (instruction : Instruction) (others : List AccountId)
    (status : EscrowStatus) (recipient : AccountId) (window : ValidityWindow) : Prop :=
  ∀ output, dispatch runtime.toProgramContext instruction
      ((.metadata runtime.selfProgramId swapId :: record.custody :: others).map (ledger.load signers)) =
        .ok output ↔
    (record.assetProgram ≠ record.custodyProgram → record.PaysHolding ledger recipient) ∧
      record.HoldsExactly ledger ∧
      output = ⟨writeMetadata (ledger.load signers (.metadata runtime.selfProgramId swapId)) { record with status },
        [record.payout runtime.selfProgramId swapId recipient], window⟩

section Settleable

variable (settleable : Settleable runtime ledger record swapId)
  (native : record.assetProgram = record.custodyProgram)
  (isParty : recipient = record.claimant ∨ recipient = record.depositor)
include settleable native isParty

theorem Settleable.party : recipient ≠ .metadata runtime.selfProgramId swapId ∧ recipient ≠ record.custody := by
  have layout := settleable.formed.native native
  have depositor := settleable.formed.depositorAsset
  rcases isParty with rfl | rfl
  · rw [← layout.claimantAsset]
    exact settleable.formed.payee.symm
  · rw [← layout.depositorAsset]
    refine ⟨depositor.2, fun same => ?_⟩
    rw [same, settleable.formed.custodyOf] at depositor
    cases depositor.1

theorem nativeBinding_iff :
    nativeBinding record (ledger.load signers record.custody) (ledger.load signers recipient) recipient
      swapId = true ↔ record.HoldsExactly ledger := by
  have layout := settleable.formed.native native
  have owner := settleable.owned.parties native recipient isParty
  have custodyOwner := settleable.owned.custody settleable.fundsHeld
  rw [nativeBinding_ok, holdsExactly_native native]
  exact ⟨fun bound => bound.2.2.2.2.2.2.2, fun held => ⟨settleable.formed.identified,
    layout.definition, native, rfl, rfl, owner, custodyOwner, held⟩⟩

end Settleable

section Settleable

variable (settleable : Settleable runtime ledger record swapId)
include settleable

theorem Settleable.ownedMetadata : requireOwned runtime.toProgramContext
      (ledger.load signers (.metadata runtime.selfProgramId swapId)) swapId = .ok () :=
  requireOwned_ok.mpr ⟨rfl, (escrow_owner settleable.recorded).1⟩

theorem Settleable.read :
    readMetadata (ledger.load signers (.metadata runtime.selfProgramId swapId)) = .ok record :=
  readMetadata_ok.mpr (escrow_owner settleable.recorded).2

theorem Settleable.custody (native : record.assetProgram = record.custodyProgram) :
    requireCustody runtime.toProgramContext (ledger.load signers record.custody) swapId = .ok () :=
  requireCustody_ok.mpr (settleable.formed.native native).custody

theorem Settleable.funded (funded : record.status = .funded) : requireFunded record = .ok () :=
  requireFunded_ok.mpr ⟨settleable.formed.supported, funded⟩

theorem Settleable.tokenLayout (token : record.assetProgram ≠ record.custodyProgram) :
    record.Token runtime.selfProgramId swapId := by
  rcases settleable.formed.layout with native | ⟨layout, _⟩
  · exact absurd native.programs.symm token
  · exact layout

variable (pays : runtime.PaysOut record creditable)
  (apart : recipient ≠ .metadata runtime.selfProgramId swapId ∧ recipient ≠ record.custody)
include pays apart

theorem payout_called (held : record.HoldsExactly ledger) (written : EscrowMetadata) :
    ((ledger.record runtime.selfProgramId swapId written).callAll runtime signers
      [record.payout runtime.selfProgramId swapId recipient]).isSome ↔
      creditable (ledger recipient) record.amount := by
  have custodyKept : ledger.record runtime.selfProgramId swapId written record.custody =
      ledger record.custody := record_other (custody_ne_metadata settleable.formed.custodyOf _)
  have recipientKept : ledger.record runtime.selfProgramId swapId written recipient =
      ledger recipient := record_other apart.1
  have owner := settleable.owned.custody settleable.fundsHeld
  rw [← custodyKept] at owner
  by_cases native : record.assetProgram = record.custodyProgram
  · rw [holdsExactly_native native, ← custodyKept] at held
    rw [callAll_singleton, EscrowMetadata.payout, if_pos native, ← (settleable.formed.native native).custody,
      pays.native native _ _ _ _ _ apart.2.symm owner (by omega), recipientKept]
  · rw [holdsExactly_token native, ← custodyKept] at held
    rw [callAll_singleton, EscrowMetadata.payout, if_neg native,
      pays.token native _ _ _ _ _ _ _ (settleable.tokenLayout native).custody apart.2.symm owner held
        (Nat.le_refl _), recipientKept]

theorem settlement_isOk {instruction : Instruction} {others : List AccountId} {status : EscrowStatus}
    {window : ValidityWindow} (signable : runtime.CanSign signers) (timely : window.contains timestamp)
    (settles : record.SettledBy runtime ledger signers swapId instruction others status recipient window) :
    let accountIds := .metadata runtime.selfProgramId swapId :: record.custody :: others
    (ledger.process runtime timestamp ⟨instruction, accountIds, signers⟩).isOk ↔
      (record.HoldsExactly ledger ∧ record.CanReceive creditable ledger recipient) ∧ accountIds.Nodup := by
  simp only [process_isOk, settles _]
  constructor
  · rintro ⟨distinct, _, output, ⟨holding, held, rfl⟩, _, called⟩
    exact ⟨⟨held, holding, (payout_called settleable pays apart held _).mp called⟩, distinct⟩
  · rintro ⟨⟨held, holding, room⟩, distinct⟩
    exact ⟨distinct, signable, _, ⟨holding, held, rfl⟩, timely,
      (payout_called settleable pays apart held _).mpr room⟩

end Settleable

theorem signer_loaded {id : AccountId} (signed : id ∈ signers) : requireSigner (ledger.load signers id) = .ok () :=
  requireSigner_ok.mpr (decide_eq_true signed)

theorem preimage_proven {digest preimage : Bytes32} (authority : record.claimAuthority = .sha256Preimage digest)
    (opens : runtime.sha256 preimage = digest) :
    requireClaimProof runtime.toProgramContext record (.sha256Preimage preimage) = .ok () := by
  simp [requireClaimProof, requirePreimageAuthority, authority, opens]

theorem witness_proven (formed : record.WellFormed runtime swapId) {key : Bytes32} {account : AccountId}
    (authority : record.claimAuthority = .aggregateWitness key account) :
    requireClaimProof runtime.toProgramContext record (.aggregateWitness account) = .ok () := by
  have valid := formed.authority
  simp only [authority, validClaimAuthority, decide_eq_true_eq] at valid
  simp [requireClaimProof, requireAggregateWitnessAuthority, authority, valid.2.1, valid.2.2]

section Native

variable (settleable : Settleable runtime ledger record swapId)
  (native : record.assetProgram = record.custodyProgram)
include settleable native

theorem claimNative_settles {digest preimage : Bytes32}
    (authority : record.claimAuthority = .sha256Preimage digest) (opens : runtime.sha256 preimage = digest)
    (funded : record.status = .funded) (signed : record.claimant ∈ signers) :
    record.SettledBy runtime ledger signers swapId (.claimNative swapId preimage) [record.claimant]
      .claimed record.claimant (windowBefore record.refundAt) := by
  intro output
  simp only [dispatch, List.map, claimNative, validatedNativeClaimState, settleable.ownedMetadata, settleable.read,
    settleable.custody native, signer_loaded signed, settleable.funded funded, preimage_proven authority opens,
    ok_bind, bind_assoc, ensure_bind_ok_iff, nativeBinding_iff settleable native (.inl rfl), pure_bind, pure_ok,
    forall_prop_of_false (not_not_intro native),
    nativePayout, load_accountId, EscrowMetadata.payout, if_pos native, true_and, eq_comm (a := output)]

theorem claimNativeWitnessed_settles {key : Bytes32} {account : AccountId}
    (authority : record.claimAuthority = .aggregateWitness key account)
    (funded : record.status = .funded) (signed : account ∈ signers) :
    record.SettledBy runtime ledger signers swapId (.claimNativeWitnessed swapId) [record.claimant, account]
      .claimed record.claimant (windowBefore record.refundAt) := by
  intro output
  have proven := witness_proven settleable.formed authority
  simp only [dispatch, List.map, claimNativeWitnessed, validatedNativeClaimState, settleable.ownedMetadata,
    settleable.read, settleable.custody native, signer_loaded signed, settleable.funded funded, load_accountId,
    proven, ok_bind, bind_assoc, ensure_bind_ok_iff, nativeBinding_iff settleable native (.inl rfl), pure_bind,
    pure_ok, forall_prop_of_false (not_not_intro native),
    nativePayout, load_accountId, EscrowMetadata.payout, if_pos native, true_and, eq_comm (a := output)]

theorem refundNative_settles (authority : record.claimAuthority.isXmr = false)
    (funded : record.status = .funded) :
    record.SettledBy runtime ledger signers swapId (.refundNative swapId) [record.depositor]
      .refunded record.depositor (windowFrom record.refundAt) := by
  intro output
  simp only [dispatch, List.map, refundNative, settleable.ownedMetadata, settleable.read, settleable.custody native,
    settleable.funded funded, ok_bind]
  split
  · rename_i xmr
    rw [xmr] at authority
    cases authority
  · simp only [ensure_bind_ok_iff, nativeBinding_iff settleable native (.inr rfl), pure_ok,
      forall_prop_of_false (not_not_intro native),
    nativePayout, load_accountId, EscrowMetadata.payout, if_pos native, true_and, eq_comm (a := output)]

end Native

section Xmr

variable (settleable : Settleable runtime ledger record swapId) {claimKey : Bytes32}
  {claimAccount : AccountId} {refundKey : Bytes32} {refundAccount : AccountId}
  {maker taker binding commitment : Bytes32} {punishAt : Nat}
  (authority : record.claimAuthority = .xmrDualAdaptor claimKey claimAccount refundKey refundAccount
    maker taker binding commitment punishAt)
include authority

theorem EscrowMetadata.WellFormed.xmrNative (formed : record.WellFormed runtime swapId) :
    record.assetProgram = record.custodyProgram := by
  rcases formed.layout with native | ⟨_, plain⟩
  · exact native.programs.symm
  · rw [authority] at plain
    cases plain

include settleable

theorem xmrVersion : record.version = xmrEscrowMetadataVersion := by
  rw [settleable.formed.supported, authority]
  rfl

theorem xmrWitness_proven : requireXmrWitnessAuthority record .claim claimAccount = .ok punishAt ∧
    requireXmrWitnessAuthority record .refund refundAccount = .ok punishAt := by
  have valid := settleable.formed.authority
  have ordered := settleable.formed.xmrOrdered
  simp only [authority, validClaimAuthority, decide_eq_true_eq] at valid
  simp only [EscrowMetadata.XmrOrdered, authority] at ordered
  simp only [requireXmrWitnessAuthority, authority, ensure_bind_ok_iff]
  exact ⟨⟨⟨valid.2.2.2.1, trivial, ordered.2.1, valid.2.2.2.2.2.2.1⟩, rfl⟩,
    ⟨valid.2.2.2.2.1, trivial, ordered.2.2, valid.2.2.2.2.2.2.2.1⟩, rfl⟩

theorem claimNativeXmr_settles (authorized : record.status = .xmrClaimAuthorized)
    (signed : claimAccount ∈ signers) :
    record.SettledBy runtime ledger signers swapId (.claimNativeXmr swapId) [record.claimant, claimAccount]
      .claimed record.claimant (windowBefore record.refundAt) := by
  intro output
  have native := settleable.formed.xmrNative authority
  have allowed : XmrWitnessPurpose.statusAllowed .claim record.status := by
    rw [authorized]
    rfl
  simp only [dispatch, List.map, claimNativeXmr, validatedXmrNativeWitnessState, settleable.ownedMetadata,
    settleable.read, settleable.custody native, signer_loaded signed, load_accountId,
    (xmrWitness_proven settleable authority).1, xmrVersion settleable authority, allowed, ok_bind, bind_assoc,
    ensure_bind_ok_iff, nativeBinding_iff settleable native (.inl rfl), true_and, pure_bind, pure_ok,
    forall_prop_of_false (not_not_intro native),
    nativePayout, load_accountId, EscrowMetadata.payout, if_pos native, true_and, eq_comm (a := output)]

theorem refundNativeXmr_settles (funded : record.status.holdsFunds) (signed : refundAccount ∈ signers) :
    record.SettledBy runtime ledger signers swapId (.refundNativeXmr swapId) [record.depositor, refundAccount]
      .refunded record.depositor ⟨some record.refundAt, some punishAt⟩ := by
  intro output
  have native := settleable.formed.xmrNative authority
  have ordered := settleable.formed.xmrOrdered
  simp only [EscrowMetadata.XmrOrdered, authority] at ordered
  have allowed : XmrWitnessPurpose.statusAllowed .refund record.status := by
    revert funded
    cases record.status <;> simp [EscrowStatus.holdsFunds, XmrWitnessPurpose.statusAllowed]
  simp only [dispatch, List.map, refundNativeXmr, validatedXmrNativeWitnessState, settleable.ownedMetadata,
    settleable.read, settleable.custody native, signer_loaded signed, load_accountId,
    (xmrWitness_proven settleable authority).2, xmrVersion settleable authority, allowed, ordered.1, ok_bind,
    bind_assoc, ensure_bind_ok_iff, nativeBinding_iff settleable native (.inr rfl), true_and, pure_bind, pure_ok,
    forall_prop_of_false (not_not_intro native),
    nativePayout, load_accountId, EscrowMetadata.payout, if_pos native, true_and, eq_comm (a := output)]

theorem punishNativeXmr_settles (funded : record.status.holdsFunds) (signed : record.claimant ∈ signers) :
    record.SettledBy runtime ledger signers swapId (.punishNativeXmr swapId) [record.claimant]
      .claimed record.claimant (windowFrom punishAt) := by
  intro output
  have native := settleable.formed.xmrNative authority
  have allowed : record.status = .funded ∨ record.status = .xmrClaimAuthorized := by
    revert funded
    cases record.status <;> simp [EscrowStatus.holdsFunds]
  simp only [dispatch, List.map, punishNativeXmr, validatedXmrNativePunishState, settleable.ownedMetadata,
    settleable.read, settleable.custody native, signer_loaded signed, authority, xmrVersion settleable authority,
    allowed, ok_bind, bind_assoc, ensure_bind_ok_iff, nativeBinding_iff settleable native (.inl rfl), true_and,
    pure_bind, pure_ok, forall_prop_of_false (not_not_intro native),
    nativePayout, load_accountId, EscrowMetadata.payout, if_pos native, true_and, eq_comm (a := output)]

end Xmr

section Token

variable (settleable : Settleable runtime ledger record swapId)
  (token : record.assetProgram ≠ record.custodyProgram)
include settleable token

omit settleable in
theorem tokenCustody_iff {rest : Prop} :
    (((ledger record.custody).data = .otherHolding record.assetDefinition ∨
        ∃ held, (ledger record.custody).data = .fungibleHolding record.assetDefinition held) ∧
      ∃ balance, (∃ definition, (ledger record.custody).data = .fungibleHolding definition balance) ∧
        balance = record.amount ∧ rest) ↔ record.HoldsExactly ledger ∧ rest := by
  rw [holdsExactly_token token]
  constructor
  · rintro ⟨kind, _, held, rfl, rest⟩
    exact ⟨holding_of_checks kind held, rest⟩
  · rintro ⟨held, rest⟩
    exact ⟨.inr ⟨_, held⟩, _, ⟨_, held⟩, rfl, rest⟩

theorem refundToken_settles (funded : record.status = .funded) :
    record.SettledBy runtime ledger signers swapId (.refundToken swapId) [record.depositorAsset]
      .refunded record.depositorAsset (windowFrom record.refundAt) := by
  intro output
  simp only [dispatch, List.map, refundToken, settleable.ownedMetadata, settleable.read,
    settleable.funded funded, ok_bind]
  simp only [checked_ok, requireTokenDefinition_ok, fungibleBalance_ok, exists_const, pure_ok,
    forall_prop_of_true token,
    tokenPayout, EscrowMetadata.payout, if_neg token, eq_comm (a := output)]
  simp only [load_accountId, settleable.formed.identified, load_account, tokenCustody_iff token,
    settleable.owned.custody settleable.fundsHeld, true_and, and_true, EscrowMetadata.PaysHolding, and_assoc]

theorem validatedTokenClaimState_ok {proof : ClaimProof} {claimed : EscrowMetadata} (funded : record.status = .funded)
    (proven : requireClaimProof runtime.toProgramContext record proof = .ok ()) :
    validatedTokenClaimState runtime.toProgramContext (ledger.load signers (.metadata runtime.selfProgramId swapId))
        (ledger.load signers record.custody) (ledger.load signers record.claimant)
        (ledger.load signers record.claimantAsset) swapId proof = .ok claimed ↔
      record.PaysHolding ledger record.claimantAsset ∧ record.HoldsExactly ledger ∧
        claimed = { record with status := .claimed } := by
  simp only [validatedTokenClaimState, settleable.read, settleable.funded funded, proven, ok_bind]
  simp only [checked_ok, requireTokenDefinition_ok, fungibleBalance_ok, pure_ok, eq_comm (b := claimed)]
  simp only [load_accountId, settleable.formed.identified, load_account, tokenCustody_iff token,
    settleable.owned.custody settleable.fundsHeld, true_and, and_true, EscrowMetadata.PaysHolding, and_assoc]

theorem claimToken_settles {digest preimage : Bytes32}
    (authority : record.claimAuthority = .sha256Preimage digest) (opens : runtime.sha256 preimage = digest)
    (funded : record.status = .funded) (signed : record.claimant ∈ signers) :
    record.SettledBy runtime ledger signers swapId (.claimToken swapId preimage)
      [record.claimant, record.claimantAsset]
      .claimed record.claimantAsset (windowBefore record.refundAt) := by
  intro output
  have proven := preimage_proven authority opens
  simp only [dispatch, List.map, claimToken, settleable.ownedMetadata, signer_loaded signed, ok_bind, bind_ok_iff,
    validatedTokenClaimState_ok settleable token funded proven, pure_ok, forall_prop_of_true token, and_assoc,
    exists_and_left, exists_eq_left, tokenPayout, EscrowMetadata.payout, if_neg token, load_accountId,
    eq_comm (a := output)]

theorem claimTokenWitnessed_settles {key : Bytes32} {account : AccountId}
    (authority : record.claimAuthority = .aggregateWitness key account)
    (funded : record.status = .funded) (signed : account ∈ signers) :
    record.SettledBy runtime ledger signers swapId (.claimTokenWitnessed swapId)
      [record.claimant, record.claimantAsset, account]
      .claimed record.claimantAsset (windowBefore record.refundAt) := by
  intro output
  have proven := witness_proven settleable.formed authority
  simp only [dispatch, List.map, claimTokenWitnessed, settleable.ownedMetadata, signer_loaded signed, ok_bind,
    bind_ok_iff, load_accountId, validatedTokenClaimState_ok settleable token funded proven, pure_ok,
    forall_prop_of_true token, and_assoc, exists_and_left, exists_eq_left, tokenPayout, EscrowMetadata.payout,
    if_neg token, eq_comm (a := output)]

end Token

section Distinct

variable (settleable : Settleable runtime ledger record swapId)
include settleable

theorem nativeAccounts_nodup (native : record.assetProgram = record.custodyProgram)
    (isParty : recipient = record.claimant ∨ recipient = record.depositor) :
    [.metadata runtime.selfProgramId swapId, record.custody, recipient].Nodup := by
  obtain ⟨notMetadata, notCustody⟩ := settleable.party native isParty
  have custody := custody_ne_metadata settleable.formed.custodyOf swapId
  simp [custody.symm, notMetadata.symm, notCustody.symm]

theorem witnessedAccounts_nodup (native : record.assetProgram = record.custodyProgram)
    (isParty : recipient = record.claimant ∨ recipient = record.depositor) {key : Bytes32}
    (different : recipient ≠ .witnessed key) :
    [.metadata runtime.selfProgramId swapId, record.custody, recipient, .witnessed key].Nodup := by
  have plain := nativeAccounts_nodup settleable native isParty
  rw [(settleable.formed.native native).custody] at plain ⊢
  simp_all

theorem tokenAccounts_nodup (token : record.assetProgram ≠ record.custodyProgram)
    (different : record.claimant ≠ record.custody) :
    [.metadata runtime.selfProgramId swapId, record.custody, record.claimant,
      record.claimantAsset].Nodup := by
  have layout := settleable.tokenLayout token
  have notOwnAsset : record.claimant ≠
      .associatedToken record.custodyProgram record.claimant record.assetDefinition := by
    intro same
    have size := congrArg sizeOf same
    simp only [AccountId.associatedToken.sizeOf_spec] at size
    omega
  rw [layout.custody] at different ⊢
  rw [layout.claimantAsset]
  simp [layout.claimant.symm, different.symm, notOwnAsset]

end Distinct

section Available

variable (settleable : Settleable runtime ledger record record.swapId) {transaction : Transaction}
  (available : Available runtime record timestamp transaction recipient)
  (signable : runtime.CanSign transaction.signers)
include settleable available signable

/-- A transaction that lists an account twice is refused. The claimant of a preimage claim signs, so it is not
    custody; the claimant of a witnessed claim may be. -/
theorem available_nodup : transaction.accountIds.Nodup ↔
    (transaction.instruction = .claimTokenWitnessed record.swapId → record.claimant ≠ record.custody) := by
  have valid := settleable.formed.authority
  have custody := settleable.formed.custodyOf
  cases available with
  | claimNative native =>
    exact iff_of_true (nativeAccounts_nodup settleable native (.inl rfl)) nofun
  | claimNativeWitnessed native authority =>
    simp only [authority, validClaimAuthority, decide_eq_true_eq] at valid
    obtain ⟨_, rfl, different⟩ := valid
    exact iff_of_true (witnessedAccounts_nodup settleable native (.inl rfl) different.symm) nofun
  | refundNative native =>
    exact iff_of_true (nativeAccounts_nodup settleable native (.inr rfl)) nofun
  | claimToken token =>
    refine iff_of_true (tokenAccounts_nodup settleable token fun same => ?_) nofun
    rw [← same, (signable record.claimant (by simp)).2] at custody
    cases custody
  | claimTokenWitnessed token authority =>
    have layout := settleable.tokenLayout token
    simp only [authority, validClaimAuthority, decide_eq_true_eq] at valid
    obtain ⟨_, rfl, notClaimant⟩ := valid
    refine ⟨fun distinct _ same => ?_, fun different => ?_⟩
    · simp [same] at distinct
    · have distinct := tokenAccounts_nodup settleable token (different rfl)
      have notWitness := notClaimant.symm
      rw [layout.custody, layout.claimantAsset] at distinct ⊢
      simp_all [witnessedAccountId]
  | refundToken token =>
    have layout := settleable.tokenLayout token
    have different : record.depositorAsset ≠ record.custody := fun same => by
      rw [← same, settleable.formed.depositorAsset.1] at custody
      cases custody
    rw [layout.depositorAsset, layout.custody] at different ⊢
    exact iff_of_true (by simp [different.symm]) nofun
  | claimNativeXmr authority =>
    have native := settleable.formed.xmrNative authority
    simp only [authority, validClaimAuthority, decide_eq_true_eq] at valid
    obtain ⟨_, _, _, rfl, _, _, different, _⟩ := valid
    exact iff_of_true (witnessedAccounts_nodup settleable native (.inl rfl) different.symm) nofun
  | refundNativeXmr authority =>
    have native := settleable.formed.xmrNative authority
    have ordered := settleable.formed.xmrOrdered
    simp only [EscrowMetadata.XmrOrdered, authority] at ordered
    simp only [authority, validClaimAuthority, decide_eq_true_eq] at valid
    obtain ⟨_, _, _, _, rfl, _⟩ := valid
    exact iff_of_true (witnessedAccounts_nodup settleable native (.inr rfl) ordered.2.2.symm) nofun
  | punishNativeXmr authority =>
    have native := settleable.formed.xmrNative authority
    exact iff_of_true (nativeAccounts_nodup settleable native (.inl rfl)) nofun

theorem available_isOk (pays : runtime.PaysOut record creditable) :
    (ledger.process runtime timestamp transaction).isOk ↔ (record.HoldsExactly ledger ∧
      record.CanReceive creditable ledger recipient) ∧ transaction.accountIds.Nodup := by
  have payee := settleable.formed.payee
  have custody := settleable.formed.custodyOf
  cases available with
  | claimNative native authority opens funded timely =>
    exact settlement_isOk settleable pays (settleable.party native (.inl rfl)) signable
      (windowBefore_contains.mpr timely)
      (claimNative_settles settleable native authority opens funded (by simp))
  | claimNativeWitnessed native authority funded timely =>
    exact settlement_isOk settleable pays (settleable.party native (.inl rfl)) signable
      (windowBefore_contains.mpr timely)
      (claimNativeWitnessed_settles settleable native authority funded (by simp))
  | refundNative native authority funded timely =>
    exact settlement_isOk settleable pays (settleable.party native (.inr rfl)) signable
      (windowFrom_contains.mpr timely)
      (refundNative_settles settleable native authority funded)
  | claimToken token authority opens funded timely =>
    exact settlement_isOk settleable pays payee.symm signable
      (windowBefore_contains.mpr timely)
      (claimToken_settles settleable token authority opens funded (by simp))
  | claimTokenWitnessed token authority funded timely =>
    exact settlement_isOk settleable pays payee.symm signable
      (windowBefore_contains.mpr timely)
      (claimTokenWitnessed_settles settleable token authority funded (by simp))
  | refundToken token funded timely =>
    have depositor := settleable.formed.depositorAsset
    refine settlement_isOk settleable pays ⟨depositor.2, fun same => ?_⟩ signable
      (windowFrom_contains.mpr timely) (refundToken_settles settleable token funded)
    rw [← same, depositor.1] at custody
    cases custody
  | claimNativeXmr authority authorized timely =>
    have native := settleable.formed.xmrNative authority
    exact settlement_isOk settleable pays (settleable.party native (.inl rfl)) signable
      (windowBefore_contains.mpr timely)
      (claimNativeXmr_settles settleable authority authorized (by simp))
  | refundNativeXmr authority funded timely early =>
    have native := settleable.formed.xmrNative authority
    exact settlement_isOk settleable pays (settleable.party native (.inr rfl)) signable
      (by simp [ValidityWindow.contains, timely, early])
      (refundNativeXmr_settles settleable authority funded (by simp))
  | punishNativeXmr authority funded timely =>
    have native := settleable.formed.xmrNative authority
    exact settlement_isOk settleable pays (settleable.party native (.inl rfl)) signable
      (windowFrom_contains.mpr timely)
      (punishNativeXmr_settles settleable authority funded (by simp))

end Available

end Acceptance

theorem run_settleable {runtime : Runtime} {start state : LedgerState} {history : List LedgerEvent}
    (keeps : runtime.KeepsEscrow) (owners : runtime.KeepsOwners) (fresh : start.Fresh runtime)
    (run : Run (LedgerStep runtime) start history state) {swapId : Bytes32} {record : EscrowMetadata}
    (recorded : state.accounts.escrow runtime.selfProgramId swapId = some record)
    (funded : record.status.holdsFunds) : Settleable runtime state.accounts record swapId :=
  ⟨recorded, (run_accounted keeps fresh run).formed _ _ recorded, funded,
    run_owned keeps owners fresh run _ _ recorded⟩

/-- In every reachable state of a funded escrow the settlement that its terms make available commits
    exactly if custody holds the recorded amount and no more, the recorded recipient can be credited, and the
    claimant of a witnessed token claim is not custody itself. -/
theorem settlement_accepted_iff (runtime : Runtime) (keeps : runtime.KeepsEscrow)
    (owners : runtime.KeepsOwners) (start state : LedgerState) (history : List LedgerEvent)
    (fresh : start.Fresh runtime) (run : Run (LedgerStep runtime) start history state) (swapId : Bytes32)
    (record : EscrowMetadata) (recorded : state.accounts.escrow runtime.selfProgramId swapId = some record)
    (funded : record.status.holdsFunds) (creditable : Account → Nat → Prop)
    (pays : runtime.PaysOut record creditable) (timestamp : Nat) (transaction : Transaction)
    (recipient : AccountId) (available : Available runtime record timestamp transaction recipient)
    (signable : runtime.CanSign transaction.signers) :
    (state.accounts.process runtime timestamp transaction).isOk ↔
      (record.HoldsExactly state.accounts ∧ record.CanReceive creditable state.accounts recipient) ∧
      (transaction.instruction = .claimTokenWitnessed swapId → record.claimant ≠ record.custody) := by
  have settleable := run_settleable keeps owners fresh run recorded funded
  obtain rfl := settleable.formed.identified
  rw [available_isOk settleable available signable pays, available_nodup settleable available signable]

section Sample

def sampleClaim : Transaction :=
  ⟨.claimNative 7 5, [.metadata 1 7, .custody 1 7, sampleClaimant], [sampleClaimant]⟩

def sampleRefund : Transaction :=
  ⟨.refundNative 7, [.metadata 1 7, .custody 1 7, sampleDepositor], []⟩

def sampleCreditable (account : Account) (amount : Nat) : Prop :=
  account.programOwner = 2 ∧ account.balance + amount < u128Limit

theorem sampleRuntime_paysOut : sampleRuntime.PaysOut sampleRecord sampleCreditable := by
  refine ⟨fun _ signers ledger sender recipient amount different owner enough => ?_, fun token => ?_⟩
  · change (sampleCall signers ledger (.nativeTransfer 2 sender recipient amount (some sender))).isSome ↔
      sampleCreditable (ledger recipient) amount
    simp only [sampleCall, sampleCreditable]
    have owned : (ledger sender).programOwner = 2 := owner
    split
    · rename_i allowed
      exact iff_of_true rfl ⟨allowed.2.2.2.2.1, allowed.2.2.2.2.2.2⟩
    · rename_i refused
      exact iff_of_false Bool.false_ne_true fun room =>
        refused ⟨trivial, .inr trivial, different, owned, room.1, enough, room.2⟩
  · exact absurd rfl token

theorem settlement_accepted_iff_sample : (sampleFunded.1.accounts.process sampleRuntime 30 sampleClaim).isOk := by
  have run := run_replay (LedgerState.submit_step sampleExternal_idle) sampleStart (sampleInputs.take 2)
  have accepted := settlement_accepted_iff sampleRuntime sampleRuntime_keepsEscrow sampleRuntime_keepsOwners
    _ _ _ sampleStart_fresh run 7 sampleRecord rfl rfl sampleCreditable sampleRuntime_paysOut 30 sampleClaim
    sampleClaimant (.claimNative rfl rfl rfl rfl (by decide)) (by decide)
  exact accepted.mpr ⟨⟨rfl, fun token => absurd rfl token, rfl, by decide⟩, nofun⟩

def sampleCredited : LedgerState where
  accounts := sampleFunded.1.accounts.set (.custody 1 7) ⟨2, 101, .none⟩
  timestamp := 20

def sampleTokenInputs : List (Nat × Transaction) :=
  let custody := AccountId.associatedToken 3 (.metadata 1 8) sampleDefinition
  let depositorAsset := AccountId.associatedToken 3 sampleDepositor sampleDefinition
  [(10, ⟨.initializeToken 8 3 6 100 50 3,
      [.metadata 1 8, sampleDepositor, sampleClaimant, sampleDefinition], [sampleDepositor]⟩),
    (10, ⟨.createTokenCustody 8, [.metadata 1 8, sampleDefinition, custody], []⟩),
    (20, ⟨.fundToken 8, [.metadata 1 8, sampleDepositor, depositorAsset, custody], [sampleDepositor]⟩)]

def sampleToken : LedgerState × List LedgerEvent :=
  replay (LedgerState.submit sampleRuntime) sampleStart sampleTokenInputs

def sampleTokenRecord : EscrowMetadata where
  version := 2
  swapId := 8
  termsHash := 3
  claimAuthority := .sha256Preimage 6
  depositor := sampleDepositor
  depositorAsset := .associatedToken 3 sampleDepositor sampleDefinition
  claimant := sampleClaimant
  claimantAsset := .associatedToken 3 sampleClaimant sampleDefinition
  custody := .associatedToken 3 (.metadata 1 8) sampleDefinition
  assetProgram := 4
  custodyProgram := 3
  assetDefinition := sampleDefinition
  amount := 100
  refundAt := 50
  status := .funded

def sampleTokenClaim : Transaction :=
  ⟨.claimToken 8 5, [.metadata 1 8, .associatedToken 3 (.metadata 1 8) sampleDefinition, sampleClaimant,
    .associatedToken 3 sampleClaimant sampleDefinition], [sampleClaimant]⟩

/-- One credited unit blocks the claim and the refund alike, and a claimant without a token account
    cannot be paid. -/
theorem credited_escrow_cannot_settle : sampleStart.Fresh sampleRuntime ∧
    (∃ history, Run (LedgerStep sampleRuntime) sampleStart history sampleCredited) ∧
    sampleCredited.accounts.escrow 1 7 = some sampleRecord ∧
    (Available sampleRuntime sampleRecord 30 sampleClaim sampleClaimant ∧
      (sampleCredited.accounts.process sampleRuntime 30 sampleClaim).isOk = false) ∧
    (Available sampleRuntime sampleRecord 60 sampleRefund sampleDepositor ∧
      (sampleCredited.accounts.process sampleRuntime 60 sampleRefund).isOk = false) ∧
    (∃ history, Run (LedgerStep sampleRuntime) sampleStart history sampleToken.1) ∧
    sampleToken.1.accounts.escrow 1 8 = some sampleTokenRecord ∧
    Available sampleRuntime sampleTokenRecord 30 sampleTokenClaim sampleTokenRecord.claimantAsset ∧
    (sampleToken.1.accounts.process sampleRuntime 30 sampleTokenClaim).isOk = false := by
  have step := LedgerState.submit_step sampleExternal_idle
  have funded := run_replay step sampleStart (sampleInputs.take 2)
  have credit : sampleExternal sampleFunded.1.accounts sampleCredited.accounts :=
    .inr ⟨.custody 1 7, _, by decide, .native _ 101 (by decide), rfl⟩
  have token := run_replay step sampleStart sampleTokenInputs
  refine ⟨sampleStart_fresh, ⟨_, .snoc funded (.external (by decide) credit)⟩, rfl,
    ⟨.claimNative rfl rfl rfl rfl (by decide), rfl⟩, ⟨.refundNative rfl rfl rfl (by decide), rfl⟩,
    ⟨_, token⟩, rfl, .claimToken (by decide) rfl rfl rfl (by decide), rfl⟩

end Sample

end AtomicSwaps.Escrow
