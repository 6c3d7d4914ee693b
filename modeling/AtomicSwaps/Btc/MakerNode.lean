import AtomicSwaps.Btc.Maker
import AtomicSwaps.Transition.Run

namespace AtomicSwaps.Btc

open AtomicSwaps.Core Fallible Durable SwapDirectory

section Slot

def unboundReservationGraceSeconds : Nat := 900

/-- Whether a reservation can still need the Maker's LEZ escrow slot, before its actor's progress is
    consulted. -/
def reservationMayHoldEscrowSlot (direction : SwapDirection) (cutoff cutoffSeconds : Nat)
    (actorActivated : Bool) (now : Nat) : Bool :=
  if direction ≠ .takerSellsForeign ∨ cutoff ≤ now then false
  else actorActivated || decide (now ≤ cutoff - cutoffSeconds + unboundReservationGraceSeconds)

def settledAt (phase : Phase) (revision : Nat) : Bool :=
  decide (2 ≤ revision) || decide (phase = .completed) || decide (phase = .refunded)

def MakerActorProgress.settled (progress : MakerActorProgress) : Bool :=
  settledAt progress.phase progress.revision

def ActorState.settled (state : ActorState) : Bool := settledAt state.phase state.revision

end Slot

structure MakerNode where
  now : Nat
  swaps : RequestId → MakerSwap
  /-- The last reservation recorded in which this Maker locks LEZ; history that no round reads. -/
  lastRecorded : Option RequestId

namespace MakerNode

variable (runtime : MakerRuntime)

section Passes

variable (node : MakerNode) (listing : List RequestId)

def recordedSwaps : List RequestId :=
  listing.filter fun id => (node.swaps id).sidecar.record.isSome

def owesSlot (now : Nat) (id : RequestId) : Bool :=
  match (node.swaps id).own.record with
  | none => false
  | some record =>
    reservationMayHoldEscrowSlot record.direction record.plan.makerSecondLockCutoffUnixSeconds
      runtime.config.recovery.makerSecondLockCutoffSeconds record.actorActivated now &&
    !(node.swaps id).own.progress.any (·.settled)

def escrowSlotIsOwed (now : Nat) : Bool :=
  (node.recordedSwaps listing).any (node.owesSlot runtime now)

def depositAgreement (id : RequestId) : Option BtcAgreementV1 :=
  match (node.swaps id).role.agreement with
  | some agreement => if lezDepositor agreement.body.direction = .maker then some agreement else none
  | none => none

/-- One pass over the listing: an escrow in flight ends it, and the first swap that is due is kept. -/
def scan (now : Nat) : List RequestId → Option RequestId → Option RequestId
  | [], due => due
  | id :: rest, due =>
    match node.depositAgreement id with
    | none => scan now rest due
    | some agreement =>
      let cutoff := agreement.body.recovery.makerSecondLockCutoffUnixSeconds
      let progress := (node.swaps id).own.progress
      if (node.swaps id).escrowResult.isSome then
        if ¬progress.any (·.settled) ∧ now < cutoff then none else scan now rest due
      else if due.isNone ∧ progress.map (·.phase) = some .takerLockConfirmed ∧ now < cutoff then
        scan now rest (some id)
      else scan now rest due

def escrowDue (now : Nat) : Option RequestId :=
  node.scan now (node.recordedSwaps listing) none

end Passes

/-- What can happen to the node; a round lives for the operations its process still performs. -/
inductive Call
  | reserve (draw : MakerDraw) (listing : List RequestId) (request : BtcReserveRequestV1)
      (life : Option Nat)
  | propose (draw : MakerDraw) (request : BtcChatProposeRequestV2) (life : Option Nat)
  | complete (draw : MakerDraw) (request : BtcChatCompleteRequestV2) (life : Option Nat)
  | ceremonyReserve (draw : MakerDraw) (request : BtcCeremonyReserveRequestV1) (life : Option Nat)
  | ceremonyNonce (request : BtcCeremonyNonceRequestV1) (life : Option Nat)
  | ceremonyPartial (draw : MakerDraw) (request : BtcCeremonyPartialRequestV1) (life : Option Nat)
  | preparePass (draw : MakerDraw) (listing : List RequestId) (life : Option Nat)
  | actorMoves (id : RequestId) (phase : Phase) (revision : Nat)
  | actorObserved (id : RequestId)

variable (node : MakerNode)

def put (id : RequestId) (swap : MakerSwap) : MakerNode :=
  { node with swaps := fun other => if other = id then swap else node.swaps other }

def attempt {α : Type} (node : MakerNode) (id : RequestId) (work : MakerWork α) (life : Option Nat) : MakerNode :=
  node.put id (work.run life (node.swaps id)).2

def clocked (now : Nat) : MakerNode := { node with now := now }

def reserved (draw : MakerDraw) (listing : List RequestId)
    (request : BtcReserveRequestV1) (life : Option Nat) : MakerNode :=
  (node.clocked draw.now).attempt request.reservationId
    (Maker.reserve runtime draw request (node.escrowSlotIsOwed runtime listing draw.now)) life

def advance : Call → MakerNode
  | .reserve draw listing request life =>
    let served := node.reserved runtime draw listing request life
    { served with
      lastRecorded := if request.direction = .takerSellsForeign ∧
          (node.swaps request.reservationId).own.record = none ∧
          (served.swaps request.reservationId).own.record ≠ none then some request.reservationId
        else node.lastRecorded }
  | .propose draw request life =>
    (node.clocked draw.now).attempt request.reservationId (Maker.propose runtime draw request) life
  | .complete draw request life =>
    (node.clocked draw.now).attempt request.reservationId (Maker.complete runtime draw request) life
  | .ceremonyReserve draw request life =>
    (node.clocked draw.now).attempt request.reservationId (Maker.ceremonyReserve draw request) life
  | .ceremonyNonce request life =>
    node.attempt request.reservationId (Maker.ceremonyNonce request) life
  | .ceremonyPartial draw request life =>
    (node.clocked draw.now).attempt request.reservationId (Maker.ceremonyPartial runtime draw request) life
  | .preparePass draw listing life =>
    match node.escrowDue listing draw.now with
    | none => node.clocked draw.now
    | some id => (node.clocked draw.now).attempt id (Maker.prepareDueEscrow runtime draw id) life
  | .actorMoves id phase revision =>
    node.put id (setActor (fun files =>
      { files with state := files.state.map fun state => { state with phase, revision } }) (node.swaps id))
  | .actorObserved id =>
    node.put id (Maker.setOwn (fun own => { own with
      progress := (node.swaps id).actor.state.map fun state => ⟨state.phase, state.revision⟩ })
      (node.swaps id))

/-- Time does not run back, a listing shows every sidecar record, and an actor's progress only grows. -/
def Truthful : Call → Prop
  | .reserve draw listing _ _ | .preparePass draw listing _ =>
    node.now ≤ draw.now ∧ ∀ id, (node.swaps id).sidecar.record.isSome → id ∈ listing
  | .propose draw _ _ | .complete draw _ _ | .ceremonyReserve draw _ _ | .ceremonyPartial draw _ _ =>
    node.now ≤ draw.now
  | .actorMoves id phase revision =>
    ∀ state, (node.swaps id).actor.state = some state → state.settled → settledAt phase revision
  | .ceremonyNonce .. | .actorObserved _ => True

/-- Each ceremony ends before the next reservation of its kind is recorded, and a reservation is made
    only where every activated actor is marked in its record. -/
def Timely : Call → Prop
  | .reserve .. => ∀ id, (node.swaps id).actor.state.isSome →
      ∃ record, (node.swaps id).own.record = some record ∧ record.actorActivated
  | .ceremonyPartial _ request _ =>
    (node.swaps request.reservationId).actor.state = none →
      ∀ record, (node.swaps request.reservationId).own.record = some record →
        record.direction = .takerSellsForeign → node.lastRecorded = some request.reservationId
  | _ => True

def initial : MakerNode := ⟨0, fun _ => { own := {} }, none⟩

def step (call : Call) (next : MakerNode) : Prop :=
  node.Truthful call ∧ next = node.advance runtime call

abbrev TimelyRun := Transition.Run (Transition.restrict Timely (step runtime)) initial

/-- A swap whose activated actor still waits for the Maker's LEZ lock, before the cutoff for it. -/
def Owed (swap : MakerSwap) (now : Nat) : Prop :=
  ∃ state, swap.actor.state = some state ∧ state.agreement.body.direction = .takerSellsForeign ∧
    now < state.agreement.body.recovery.makerSecondLockCutoffUnixSeconds ∧ state.settled = false

def InFlight (swap : MakerSwap) (now : Nat) : Prop :=
  swap.sidecar.escrow.isSome ∧ ∃ agreement, swap.role.agreement = some agreement ∧
    now < agreement.body.recovery.makerSecondLockCutoffUnixSeconds ∧
    ∀ state, swap.actor.state = some state → state.settled = false

end MakerNode

end AtomicSwaps.Btc
