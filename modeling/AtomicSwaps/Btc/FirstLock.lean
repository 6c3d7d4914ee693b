import AtomicSwaps.Btc.ServedSlot
import AtomicSwaps.Btc.TakerSteps

namespace AtomicSwaps.Btc

open AtomicSwaps.Core Fallible Durable SwapDirectory

/-- What can happen to a take; each call may meet another Maker behaviour and live for other operations. -/
inductive TakeCall (Peer : Type)
  | prepare (draw : TakerDraw) (chat : Chat Peer) (life : Option Nat)
  | execute (draw : TakerDraw) (chat : Chat Peer) (life : Option Nat)
  | lock (draw : TakerDraw) (life : Option Nat)

namespace Take

open AtomicSwaps.Btc.Taker

variable {Peer : Type} (runtime : TakerRuntime) (request : TakeRequest)

def initial (peer : Peer) : Take Peer := ⟨{ own := {} }, peer⟩

variable (take : Take Peer)

def advance : TakeCall Peer → Take Peer
  | .prepare draw chat life => ((Taker.prepare runtime request draw chat).run life take).2
  | .execute draw chat life => ((Taker.execute runtime request draw chat).run life take).2
  | .lock draw life => ((onTaker (Taker.lock runtime request draw)).run life take).2

/-- An execute that finds no mark does not stop, by a crash or a failed read or write, between the mark it
    stores and the receipt. It may be cut anywhere else. -/
def Spared : TakeCall Peer → Prop
  | .execute draw _ _ => (recordOf take.taker).actorActivated = false → draw.receiptWritten = true
  | .prepare .. | .lock .. => True

def step (call : TakeCall Peer) (next : Take Peer) : Prop :=
  next = take.advance runtime request call

abbrev SparedRun (peer : Peer) :=
  Transition.Run (Transition.restrict Spared (step runtime request)) (initial peer)

/-- What monitoring, claiming and refunding need, all of it for this agreement. -/
structure Recoverable (swap : TakerSwap) (agreement : BtcAgreementV1) : Prop where
  bound : swap.role.agreement = some agreement
  presigned : ∃ sessions, (recordOf swap).sessions = some sessions ∧
    ∀ domain, swap.holdsPresignature (sessions.validated agreement domain) .taker
  activated : ∃ state, swap.actor.state = some state ∧ state.agreement = agreement
  receipted : ∃ receipt, swap.own.receipt = some receipt ∧ receipt.agreement = agreement

variable {runtime request} {peer : Peer} {take : Take Peer} {history : List (TakeCall Peer)}

def Ready (runtime : TakerRuntime) (request : TakeRequest) (view : LockView) : Prop :=
  view.Sound runtime request ∧ view.Receipted

theorem ready_initial : OnTake (Ready runtime request) (initial peer) := by
  refine ⟨⟨?_, ?_, ?_, ?_, ?_, ?_⟩, ?_⟩
  · intro plan found
    cases found
  · intro draft found
    cases found
  · intro agreement found
    cases found
  · intro marked
    cases marked
  · intro escrow found
    rcases found with reserved | stored
    · cases reserved
    · cases stored
  · intro receipt found
    cases found
  · intro marked
    cases marked

theorem ready_kept {next : Take Peer} (ready : OnTake (Ready runtime request) take)
    (kept : OnTake ((lockView take.taker).Kept runtime request) next) : OnTake (Ready runtime request) next :=
  ⟨kept.1, ready.2.kept kept⟩

theorem ready_advance {call : TakeCall Peer} (ready : OnTake (Ready runtime request) take)
    (spared : Spared take call) : OnTake (Ready runtime request) (take.advance runtime request call) := by
  have kept : OnTake ((lockView take.taker).Kept runtime request) take := ⟨ready.1, rfl, rfl⟩
  cases call with
  | prepare draw chat life => exact ready_kept ready (keeps_prepare.run life kept)
  | lock draw life => exact ready_kept ready ((keeps_onTaker keeps_lock).run life kept)
  | execute draw chat life =>
    by_cases marked : (recordOf take.taker).actorActivated = true
    · have left : OnTake _ (advance runtime request take (.execute draw chat life)) :=
        execute_marked ⟨take, life⟩ marked kept
      exact ready_kept ready left
    · have written := spared (Bool.eq_false_iff.mpr marked)
      exact ⟨execute_sound ⟨take, life⟩ kept, execute_receipts ⟨take, life⟩ ready.2 kept written⟩

theorem ready_run (run : SparedRun runtime request peer history take) : OnTake (Ready runtime request) take :=
  run.invariant ready_initial fun _ _ _ ready taken => by
    obtain ⟨spared, rfl⟩ := taken
    exact ready_advance ready spared

theorem lock_unmarked {swap : TakerSwap} {draw : TakerDraw} (unmarked : (recordOf swap).actorActivated = false)
    (life : Option Nat) : ((Taker.lock runtime request draw).run life swap).2 = swap := by
  have left : Leaves (fun reached => reached = swap) (Taker.lock runtime request draw) ⟨swap, life⟩ := by
    refine leaves_load_bind rfl fun _ _ => leaves_load_bind rfl fun record loaded => ?_
    cases loaded
    refine leaves_check_bind rfl fun _ active => ?_
    rw [ensure_ok_iff] at active
    cases unmarked.symm.trans active
  exact left

theorem ready_recoverable (ready : OnTake (Ready runtime request) take)
    (marked : (recordOf take.taker).actorActivated) : ∃ agreement, Recoverable take.taker agreement := by
  obtain ⟨agreement, sessions, bound, opened, presigned, activated⟩ := ready.1.active marked
  obtain ⟨receipt, found⟩ := Option.isSome_iff_exists.mp (ready.2 marked)
  refine ⟨agreement, bound, ⟨sessions, opened, presigned⟩, activated, receipt, found, ?_⟩
  have named := ready.1.receipted receipt found
  exact Option.some.inj (named.symm.trans bound)

section Samples

def sampleTaker : TakerRuntime where
  primitives := MakerNode.samplePrimitives
  config := sampleConfig
  chainIdentity := 1
  requiredConfirmations := 2
  lezOwnerAccount := 16
  requestTimeoutMillis := 5000

def sampleTake : TakeRequest where
  reservationId := "take-0001"
  offerId := "offer-take-0001"
  direction := .takerSellsForeign
  signedEnvelopeSha256 := 15
  foreignUnits := 10000
  expectedLezUnits := 5000
  offer := MakerNode.sampleOffer "take-0001"

def sampleTakerDraw (now : Nat) : TakerDraw where
  now := now
  secrets := ⟨20, 21, none, 22, none, 24⟩
  adaptor := 23
  wallet := ⟨"0200", 0, 800⟩
  sidecar := ⟨4001, 25⟩
  claimRequestId := 35
  claimMessageHash := 30
  signature := 32
  sessions := ⟨33, 34⟩
  bitcoinNonce := 36
  lezNonce := 37
  finalizedHeight := 50
  escrowRequestId := 38
  escrowInitialization := 39
  escrowFunding := 40
  receiptWritten := true
  reportedTransactionId := 4
  lock := ⟨40, 0, 0, [⟨20, some 0⟩], 900, 700⟩

def sampleChat : Chat MakerSwap := makerChat MakerNode.sampleRuntime MakerNode.sampleDraw false

def samplePrepared : Take MakerSwap :=
  (initial { own := {} }).advance sampleTaker sampleTake (.prepare (sampleTakerDraw 1000000) sampleChat none)

def sampleExecuted (receiptWritten : Bool) : Take MakerSwap :=
  samplePrepared.advance sampleTaker sampleTake
    (.execute { sampleTakerDraw 1000000 with receiptWritten } sampleChat none)

def sampleLocked (take : Take MakerSwap) (now : Nat) : List Handover :=
  (take.advance sampleTaker sampleTake (.lock (sampleTakerDraw now) none)).taker.own.handed

end Samples

end Take

end AtomicSwaps.Btc
