import AtomicSwaps.Core.Types

namespace AtomicSwaps.Zec

open AtomicSwaps.Core

abbrev Bytes := List UInt8

abbrev PubkeyHash := BitVec 160

def u32Limit : Nat := 2 ^ 32

/-- Zatoshi amounts stop at the money supply. -/
def maxMoney : Nat := 21000000 * 100000000

def bigEndian : Nat → Nat → Bytes
  | 0, _ => []
  | count + 1, value => UInt8.ofNat (value / 256 ^ count) :: bigEndian count value

def bytes32 (value : Bytes32) : Bytes := bigEndian 32 value.toNat

def bytes20 (value : PubkeyHash) : Bytes := bigEndian 20 value.toNat

inductive NetworkType
  | main | test | regtest
deriving DecidableEq

inductive BranchId
  | sprout | overwinter | sapling | blossom | heartwood | canopy | nu5 | nu6 | nu61 | nu62
deriving DecidableEq

inductive Opcode
  | push (data : Bytes)
  | number (value : Nat)
  | ifTrue
  | otherwise
  | endIf
  | sha256
  | hash160
  | dup
  | drop
  | equal
  | equalVerify
  | checkSig
  | checkLockTimeVerify

abbrev Script := List Opcode

/-- Script numbers are little endian, with one more byte where the top bit would read as a sign. -/
def scriptNumber : Nat → Nat → Bytes
  | 0, _ => []
  | fuel + 1, value =>
    if value < 128 then [UInt8.ofNat value]
    else if value < 256 then [UInt8.ofNat value, 0]
    else UInt8.ofNat (value % 256) :: scriptNumber fuel (value / 256)

def pushBytes (data : Bytes) : Bytes := UInt8.ofNat data.length :: data

def Opcode.encode : Opcode → Bytes
  | .push data => pushBytes data
  | .number value =>
    if value = 0 then [0x00]
    else if value ≤ 16 then [UInt8.ofNat (0x50 + value)]
    else pushBytes (scriptNumber 8 value)
  | .ifTrue => [0x63]
  | .otherwise => [0x67]
  | .endIf => [0x68]
  | .sha256 => [0xa8]
  | .hash160 => [0xa9]
  | .dup => [0x76]
  | .drop => [0x75]
  | .equal => [0x87]
  | .equalVerify => [0x88]
  | .checkSig => [0xac]
  | .checkLockTimeVerify => [0xb1]

def Script.encode (script : Script) : Bytes := script.flatMap Opcode.encode

/-- The SHA-256 / CLTV pay-to-public-key-hash contract of BIP-199, with the common tail. -/
structure Bip199Contract where
  refundLockTime : Nat
  refundPubkeyHash : PubkeyHash
  secretDigest : Bytes32
  claimantPubkeyHash : PubkeyHash

namespace Bip199Contract

variable (contract : Bip199Contract)

def claimBranch : Script :=
  [.sha256, .push (bytes32 contract.secretDigest), .equalVerify, .dup, .hash160,
    .push (bytes20 contract.claimantPubkeyHash)]

def refundBranch : Script :=
  [.number contract.refundLockTime, .checkLockTimeVerify, .drop, .dup, .hash160,
    .push (bytes20 contract.refundPubkeyHash)]

def opcodes : Script :=
  .ifTrue :: contract.claimBranch ++ .otherwise :: contract.refundBranch ++
    [.endIf, .equalVerify, .checkSig]

def redeemScript : Bytes := Script.encode contract.opcodes

def p2shScriptPubkey (hash160 : Bytes → PubkeyHash) (contract : Bip199Contract) : Bytes :=
  Script.encode [.hash160, .push (bytes20 (hash160 contract.redeemScript)), .equal]

end Bip199Contract

structure ExpectedBip199Output where
  network : NetworkType
  consensusBranchId : BranchId
  value : Nat
  contract : Bip199Contract

inductive ZecProfileId
  | deterministicLocalV1 | publicTestnetV1
deriving DecidableEq

inductive ProfileError
  | networkMismatch
  | consensusBranchMismatch
  | timestampOverflow
  | heightOverflow
  | missingSafetyCalibration
  | insufficientSafetyMargin
  | invalidSchedule (error : Error)

structure ZecRefundProfile where
  zcashNetwork : NetworkType
  consensusBranchId : BranchId
  (lezConfirmations zcashConfirmations lezRefundDelay zcashRefundBlocks requiredMargin expiryDeltaBlocks : Nat)

namespace ZecRefundProfile

def forId : ZecProfileId → ZecRefundProfile
  | .deterministicLocalV1 =>
    { zcashNetwork := .regtest, consensusBranchId := .nu62, lezConfirmations := 1
      zcashConfirmations := 1, lezRefundDelay := 60, zcashRefundBlocks := 4, requiredMargin := 30
      expiryDeltaBlocks := 40 }
  | .publicTestnetV1 =>
    { zcashNetwork := .test, consensusBranchId := .nu62, lezConfirmations := 2
      zcashConfirmations := 10, lezRefundDelay := 7200, zcashRefundBlocks := 192
      requiredMargin := 7200, expiryDeltaBlocks := 40 }

variable (profile : ZecRefundProfile)

def validateConsensus (network : NetworkType) (branchId : BranchId) : Except ProfileError Unit :=
  if network ≠ profile.zcashNetwork then .error .networkMismatch
  else if branchId ≠ profile.consensusBranchId then .error .consensusBranchMismatch
  else .ok ()

def lezRefundAt (fundingTime : Nat) : Except ProfileError Nat :=
  let deadline := fundingTime + profile.lezRefundDelay
  if u64Limit ≤ deadline ∨ u64Limit ≤ deadline * 1000 then .error .timestampOverflow
  else .ok (deadline * 1000)

def zcashRefundAt (fundingHeight : Nat) : Except ProfileError Nat :=
  if u32Limit ≤ fundingHeight + profile.zcashRefundBlocks then .error .heightOverflow
  else .ok (fundingHeight + profile.zcashRefundBlocks)

def toUnixSecondsCeil (milliseconds : Nat) : Nat :=
  milliseconds / 1000 + if milliseconds % 1000 = 0 then 0 else 1

def recoverySchedule (direction : SwapDirection)
    (lezRefundAt zcashRefundAt earlierRefundLatest : Nat) (laterRefundEarliest : Option Nat) :
    Except ProfileError RecoverySchedule :=
  match laterRefundEarliest with
  | none => .error .missingSafetyCalibration
  | some later =>
    match TimelockSafety.between .lez .zcash (toUnixSecondsCeil earlierRefundLatest) later
        profile.requiredMargin with
    | .error _ => .error .insufficientSafetyMargin
    | .ok safety =>
      let lez : ChainPosition := ⟨.lez, .timestamp, lezRefundAt⟩
      let zcash : ChainPosition := ⟨.zcash, .blockHeight, zcashRefundAt⟩
      let order := match direction with
        | .takerSellsForeign => (lez, zcash)
        | .takerSellsLez => (zcash, lez)
      (RecoverySchedule.new .zcash direction order.1 order.2 safety).mapError .invalidSchedule

end ZecRefundProfile

end AtomicSwaps.Zec
