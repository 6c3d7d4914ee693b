import AtomicSwaps.Core.Types
import AtomicSwaps.Transition.Fallible

namespace AtomicSwaps.Xmr

open AtomicSwaps.Core Fallible

inductive XmrLifecyclePhaseV1
  | activated
  | lezLocked
  | bothLocked
  | claimAuthorized
  | refundAuthorized
  | punishAuthorized
  | completed
  | refunded
  | punished
deriving DecidableEq

def XmrLifecyclePhaseV1.acceptsRevision : XmrLifecyclePhaseV1 → Nat → Bool
  | .activated, revision => revision = 0
  | .lezLocked, revision => revision = 1
  | .bothLocked, revision => revision = 2
  | .claimAuthorized, revision | .punishAuthorized, revision => revision = 3
  | .refundAuthorized, revision => revision = 2 ∨ revision = 3
  | .completed, revision | .punished, revision => revision = 4
  | .refunded, revision => revision = 3 ∨ revision = 4

def XmrLifecyclePhaseV1.terminal : XmrLifecyclePhaseV1 → Bool
  | .completed | .refunded | .punished => true
  | _ => false

inductive XmrLifecycleCommandV1
  | advance | claim | refund

structure XmrLifecycleIdentityV1 where
  swapId : Bytes32
  role : Participant
  (agreementCommitment activationCommitment : Bytes32)
deriving DecidableEq

structure XmrLifecycleSnapshotV1 where
  identity : XmrLifecycleIdentityV1
  phase : XmrLifecyclePhaseV1
  revision : Nat
deriving DecidableEq

inductive XmrSdkError
  | commandNotAvailable | actorIdentityMismatch | invalidActorRevision | invalidActorTransition | actor

def successorPhase : XmrLifecyclePhaseV1 → XmrLifecyclePhaseV1 → Bool
  | .activated, .lezLocked => true
  | .lezLocked, .bothLocked | .lezLocked, .refundAuthorized => true
  | .bothLocked, .claimAuthorized | .bothLocked, .refundAuthorized
  | .bothLocked, .punishAuthorized => true
  | .claimAuthorized, .completed => true
  | .refundAuthorized, .refunded => true
  | .punishAuthorized, .punished => true
  | _, _ => false

def XmrLifecycleCommandV1.mayReach : XmrLifecycleCommandV1 → XmrLifecyclePhaseV1 → Bool
  | .advance, _ => true
  | .claim, phase => phase = .claimAuthorized ∨ phase = .completed
  | .refund, phase =>
    phase = .refundAuthorized ∨ phase = .punishAuthorized ∨ phase = .refunded ∨ phase = .punished

def validateSuccessor (current next : XmrLifecycleSnapshotV1) (command : XmrLifecycleCommandV1) :
    Except XmrSdkError Unit := do
  ensure (current.identity = next.identity) .actorIdentityMismatch
  ensure (next.phase.acceptsRevision next.revision = true) .invalidActorRevision
  if current = next then return
  ensure (next.revision = current.revision + 1) .invalidActorRevision
  ensure (successorPhase current.phase next.phase = true) .invalidActorTransition
  ensure (command.mayReach next.phase = true) .invalidActorTransition

variable (current : XmrLifecycleSnapshotV1)

/-- One command: the actor's answer is what its port returns, `none` an actor failure. -/
def drive (command : XmrLifecycleCommandV1)
    (answer : Option XmrLifecycleSnapshotV1) : Except XmrSdkError XmrLifecycleSnapshotV1 :=
  if current.phase.terminal then .ok current
  else match answer with
    | none => .error .actor
    | some next => do
      validateSuccessor current next command
      return next

variable (answer : Option XmrLifecycleSnapshotV1)

def advance : Except XmrSdkError XmrLifecycleSnapshotV1 :=
  drive current .advance answer

def claim : Except XmrSdkError XmrLifecycleSnapshotV1 := do
  ensure (current.phase = .bothLocked ∨ current.phase = .claimAuthorized) .commandNotAvailable
  drive current .claim answer

def refund : Except XmrSdkError XmrLifecycleSnapshotV1 := do
  ensure (current.phase = .lezLocked ∨ current.phase = .bothLocked ∨
    current.phase = .refundAuthorized ∨ current.phase = .punishAuthorized) .commandNotAvailable
  drive current .refund answer

def perform : XmrLifecycleCommandV1 → Option XmrLifecycleSnapshotV1 → Except XmrSdkError XmrLifecycleSnapshotV1
  | .advance, answer => advance current answer
  | .claim, answer => claim current answer
  | .refund, answer => refund current answer

/-- A restart adopts the snapshot the actor kept, once its identity and revision are canonical. -/
def resume (identity : XmrLifecycleIdentityV1) (stored : XmrLifecycleSnapshotV1) :
    Except XmrSdkError XmrLifecycleSnapshotV1 := do
  ensure (stored.identity = identity ∧ stored.phase.acceptsRevision stored.revision = true)
    .actorIdentityMismatch
  return stored

end AtomicSwaps.Xmr
