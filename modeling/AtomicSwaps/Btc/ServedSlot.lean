import AtomicSwaps.Btc.EscrowSlot

namespace AtomicSwaps.Btc

open AtomicSwaps.Core Fallible Durable SwapDirectory

namespace MakerNode

variable {runtime : MakerRuntime} {node : MakerNode} {id : RequestId} {now : Nat} {swap : MakerSwap}

theorem Owed.earlier {earlier later : Nat} (owed : Owed swap later)
    (ordered : earlier ≤ later) : Owed swap earlier := by
  obtain ⟨state, found, locksLez, before, unsettled⟩ := owed
  exact ⟨state, found, locksLez, by omega, unsettled⟩

theorem Owed.of_state {other : MakerSwap} (owed : Owed swap now)
    (same : swap.actor.state = other.actor.state) : Owed other now := by
  obtain ⟨state, found, rest⟩ := owed
  exact ⟨state, same.symm.trans found, rest⟩

theorem put_swaps (swap : MakerSwap) (other : RequestId) :
    (node.put id swap).swaps other = if other = id then swap else node.swaps other := rfl

/-- Every reservation is sound, and only the last one recorded can be owed a lock. -/
structure Served (node : MakerNode) : Prop where
  sound : ∀ id, (slotView (node.swaps id)).Sound
  last : ∀ id, Owed (node.swaps id) node.now → node.lastRecorded = some id

theorem served_initial : Served initial := by
  refine ⟨fun id => ⟨fun _ => ⟨rfl, rfl⟩, ?_, ?_, ?_, ?_, ?_, ?_⟩, ?_⟩
  · intro record contribution found
    cases found
  · intro negotiation found
    cases found
  · intro agreement found
    cases found
  · intro state found
    cases found
  · intro progress found
    cases found
  · intro escrow found
    cases found
  · intro id owed
    obtain ⟨state, found, -⟩ := owed
    cases found

theorem Served.clocked (served : Served node) (later : node.now ≤ now) : Served (node.clocked now) where
  sound := served.sound
  last id owed := served.last id (owed.earlier later)

theorem Served.put (served : Served node) (sound : (slotView swap).Sound)
    (last : Owed swap node.now → node.lastRecorded = some id) : Served (node.put id swap) where
  sound other := by
    rw [put_swaps]
    split
    · exact sound
    · exact served.sound other
  last other owed := by
    rw [put_swaps] at owed
    split at owed
    · rename_i same
      rw [same]
      exact last owed
    · exact served.last other owed

section Attempts

variable {α : Type} {work : MakerWork α} {life : Option Nat}

theorem Served.attempt_owed (served : Served node)
    (keeps : Keeps (OnView (SlotView.Kept (node.swaps id).actor.state)) work) {other : RequestId}
    (owed : Owed ((node.attempt id work life).swaps other) now) : Owed (node.swaps other) now := by
  rw [attempt, put_swaps] at owed
  split at owed
  · rename_i same
    rw [same]
    exact owed.of_state (keeps.run life ⟨served.sound id, rfl⟩).2
  · exact owed

theorem Served.attempt (served : Served node)
    (keeps : Keeps (OnView (SlotView.Kept (node.swaps id).actor.state)) work) :
    Served (node.attempt id work life) where
  sound other := by
    rw [MakerNode.attempt, put_swaps]
    split
    · exact (keeps.run life ⟨served.sound id, rfl⟩).1
    · exact served.sound other
  last other owed := served.last other (served.attempt_owed keeps owed)

end Attempts

variable {due : Option RequestId}

theorem depositAgreement_deposits (deposited : (node.depositAgreement id).isSome) :
    (slotView (node.swaps id)).Deposits := by
  unfold depositAgreement at deposited
  split at deposited
  · rename_i agreement bound
    split at deposited
    · rename_i depositor
      exact ⟨agreement, bound, depositor⟩
    · cases deposited
  · cases deposited

section Serving

variable (served : Served node)
include served

theorem Served.unsettled
    (waiting : ∀ state, (node.swaps id).actor.state = some state → state.settled = false) :
    (node.swaps id).own.progress.any (·.settled) = false := by
  match observed : (node.swaps id).own.progress with
  | none => rfl
  | some progress =>
    rw [Option.any_some, Bool.eq_false_iff]
    intro settled
    obtain ⟨state, found, ended⟩ := (served.sound id).truthful progress observed settled
    cases (waiting state found).symm.trans ended

variable {listing : List RequestId}

/-- An activated actor that waits for its lock is seen by the slot check once its record is marked. -/
theorem Served.slot_owed
    (listed : ∀ id, (node.swaps id).sidecar.record.isSome → id ∈ listing)
    (marked : ∀ id, (node.swaps id).actor.state.isSome →
      ∃ record, (node.swaps id).own.record = some record ∧ record.actorActivated)
    (owed : Owed (node.swaps id) now) : node.escrowSlotIsOwed runtime listing now = true := by
  obtain ⟨state, found, locksLez, before, unsettled⟩ := owed
  have sound := served.sound id
  obtain ⟨bound, sidecar⟩ := sound.active state found
  obtain ⟨record, recorded, drafted⟩ := sound.bound _ bound
  obtain ⟨held, heldFound, activated⟩ := marked id (by rw [found]; rfl)
  cases heldFound.symm.trans recorded
  have waits : (node.swaps id).own.progress.any (·.settled) = false := by
    refine served.unsettled fun held heldState => ?_
    cases found.symm.trans heldState
    exact unsettled
  have owes : node.owesSlot runtime now id = true := by
    have direction := drafted.1.symm.trans locksLez
    have cutoff := drafted.2
    unfold owesSlot
    rw [heldFound]
    dsimp only
    rw [waits]
    simp only [reservationMayHoldEscrowSlot, direction, activated]
    rw [if_neg (by rw [← cutoff]; simpa using before)]
    rfl
  unfold escrowSlotIsOwed recordedSwaps
  rw [List.any_eq_true]
  exact ⟨id, List.mem_filter.mpr ⟨listed id sidecar, sidecar⟩, owes⟩

variable {draw : MakerDraw} {life : Option Nat}

theorem Served.reserve {request : BtcReserveRequestV1}
    (truthful : node.Truthful (.reserve draw listing request life))
    (timely : node.Timely (.reserve draw listing request life)) :
    Served (node.advance runtime (.reserve draw listing request life)) := by
  have ticked := served.clocked truthful.1
  have kept : Served (node.reserved runtime draw listing request life) :=
    ticked.attempt (Maker.keeps_reserve _ _)
  refine ⟨kept.sound, fun id owed => ?_⟩
  dsimp only [advance] at owed ⊢
  split
  · -- A record appeared, so the slot was free and no earlier actor waited for its lock.
    rename_i recorded
    obtain ⟨locksLez, unrecorded, appeared⟩ := recorded
    have waiting : Owed (node.swaps id) draw.now := ticked.attempt_owed (Maker.keeps_reserve _ _) owed
    refine absurd ?_ appeared
    rw [reserved, served.slot_owed truthful.2 timely waiting, MakerNode.attempt, put_swaps, if_pos rfl]
    exact Maker.reserve_refused request locksLez unrecorded life
  · exact kept.last id owed

theorem Served.ceremonyPartial {request : BtcCeremonyPartialRequestV1}
    (truthful : node.Truthful (.ceremonyPartial draw request life))
    (timely : node.Timely (.ceremonyPartial draw request life)) :
    Served (node.advance runtime (.ceremonyPartial draw request life)) := by
  have ticked := served.clocked truthful
  have before := served.sound request.reservationId
  have keeps : Keeps (OnView (slotView (node.swaps request.reservationId)).Grown)
      (Maker.ceremonyPartial runtime draw request) := Maker.keeps_ceremonyPartial request
  have grown := keeps.run life ⟨before, fun _ found => found, rfl⟩
  refine ticked.put grown.sound fun owed => ?_
  match made : (node.swaps request.reservationId).actor.state with
  | some state => exact ticked.last _ (owed.of_state ((grown.made state made).trans made.symm))
  | none =>
    obtain ⟨state, found, locksLez, -⟩ := owed
    obtain ⟨record, recorded, drafted⟩ := grown.sound.bound _ (grown.sound.active state found).1
    have direction := grown.direction
    rw [recorded] at direction
    obtain ⟨held, heldFound, same⟩ := Option.map_eq_some_iff.mp direction.symm
    exact timely made held heldFound (same.trans (drafted.1.symm.trans locksLez))

omit served in
theorem scan_deposits (scanned : node.scan now listing due = some id) :
    due = some id ∨ (node.depositAgreement id).isSome := by
  induction listing generalizing due with
  | nil => exact .inl scanned
  | cons first rest hypothesis =>
    unfold scan at scanned
    split at scanned
    · exact hypothesis scanned
    · rename_i agreement deposited
      dsimp only at scanned
      split at scanned
      · split at scanned
        · cases scanned
        · exact hypothesis scanned
      · split at scanned
        · rcases hypothesis scanned with same | deposits
          · cases same
            exact .inr (by rw [deposited]; rfl)
          · exact .inr deposits
        · exact hypothesis scanned

theorem Served.preparePass (truthful : node.Truthful (.preparePass draw listing life)) :
    Served (node.advance runtime (.preparePass draw listing life)) := by
  have ticked := served.clocked truthful.1
  unfold advance
  dsimp only
  split
  · exact ticked
  · rename_i id due
    rcases scan_deposits due with missing | deposited
    · cases missing
    · have keeps : Keeps (OnView fun view => view.Kept (node.swaps id).actor.state ∧ view.Deposits)
          (Maker.prepareDueEscrow runtime draw id) := Maker.keeps_prepareDueEscrow id
      have kept := keeps.run life ⟨⟨served.sound id, rfl⟩, depositAgreement_deposits deposited⟩
      exact ticked.put kept.1.1 fun owed => ticked.last id (owed.of_state kept.1.2)

theorem Served.actorMoves {phase : Phase} {revision : Nat}
    (truthful : node.Truthful (.actorMoves id phase revision)) :
    Served (node.advance runtime (.actorMoves id phase revision)) := by
  have sound := served.sound id
  refine served.put { sound with active := ?_, truthful := ?_ } fun owed => ?_
  · intro state found
    obtain ⟨held, heldFound, rfl⟩ := Option.map_eq_some_iff.mp found
    exact sound.active held heldFound
  · intro progress observed settled
    obtain ⟨state, found, ended⟩ := sound.truthful progress observed settled
    refine ⟨{ state with phase, revision }, ?_, truthful state found ended⟩
    exact Option.map_eq_some_iff.mpr ⟨state, found, rfl⟩
  · obtain ⟨state, found, locksLez, before, unsettled⟩ := owed
    obtain ⟨held, heldFound, rfl⟩ := Option.map_eq_some_iff.mp found
    refine served.last id ⟨held, heldFound, locksLez, before, ?_⟩
    rw [Bool.eq_false_iff]
    intro ended
    cases (truthful held heldFound ended).symm.trans unsettled

theorem Served.actorObserved : Served (node.advance runtime (.actorObserved id)) := by
  have sound := served.sound id
  refine served.put { sound with truthful := ?_ } fun owed => served.last id (owed.of_state rfl)
  intro progress observed settled
  obtain ⟨state, found, rfl⟩ := Option.map_eq_some_iff.mp observed
  exact ⟨state, found, settled⟩

theorem Served.advance {call : Call} (truthful : node.Truthful call)
    (timely : node.Timely call) : Served (node.advance runtime call) := by
  cases call with
  | reserve draw listing request life => exact served.reserve truthful timely
  | propose draw request life =>
    exact (served.clocked truthful).attempt (Maker.keeps_propose request)
  | complete draw request life =>
    exact (served.clocked truthful).attempt (Maker.keeps_complete request)
  | ceremonyReserve draw request life =>
    exact (served.clocked truthful).attempt (Maker.keeps_ceremonyReserve request)
  | ceremonyNonce request life =>
    exact served.attempt (Maker.keeps_still (Maker.still_ceremonyNonce request))
  | ceremonyPartial draw request life => exact served.ceremonyPartial truthful timely
  | preparePass draw listing life => exact served.preparePass truthful
  | actorMoves id phase revision => exact served.actorMoves truthful
  | actorObserved id => exact served.actorObserved

end Serving

theorem served_run {history : List Call} (run : TimelyRun runtime history node) : Served node := by
  refine run.invariant served_initial fun node call next served taken => ?_
  obtain ⟨timely, truthful, rfl⟩ := taken
  exact served.advance truthful timely

theorem scan_blocked {agreement : BtcAgreementV1} (listed : id ∈ listing)
    (deposited : node.depositAgreement id = some agreement) (prepared : (node.swaps id).escrowResult.isSome)
    (unsettled : (node.swaps id).own.progress.any (·.settled) = false)
    (before : now < agreement.body.recovery.makerSecondLockCutoffUnixSeconds) :
    node.scan now listing due = none := by
  induction listing generalizing due with
  | nil => cases listed
  | cons first rest hypothesis =>
    by_cases here : first = id
    · subst here
      unfold scan
      rw [deposited]
      dsimp only
      rw [if_pos prepared, unsettled, if_pos ⟨by decide, before⟩]
    · have later : id ∈ rest := (List.mem_cons.mp listed).resolve_left fun same => here same.symm
      unfold scan
      split
      · exact hypothesis later
      · dsimp only
        split
        · split
          · rfl
          · exact hypothesis later
        · split
          · exact hypothesis later
          · exact hypothesis later

theorem Served.escrowDue_blocked (served : Served node)
    (listed : ∀ id, (node.swaps id).sidecar.record.isSome → id ∈ listing)
    (stored : (node.swaps id).sidecar.escrow.isSome → (node.swaps id).escrowResult.isSome)
    (inFlight : InFlight (node.swaps id) now) : node.escrowDue listing now = none := by
  obtain ⟨prepared, agreement, bound, before, waiting⟩ := inFlight
  obtain ⟨escrow, held⟩ := Option.isSome_iff_exists.mp prepared
  obtain ⟨sidecar, deposit, depositBound, depositor⟩ := (served.sound id).escrowed escrow held
  cases bound.symm.trans depositBound
  have deposited : node.depositAgreement id = some agreement := by
    unfold depositAgreement
    rw [bound]
    exact if_pos depositor
  exact scan_blocked (List.mem_filter.mpr ⟨listed id sidecar, sidecar⟩) deposited (stored prepared)
    (served.unsettled waiting) before

/-- Where each ceremony ends before the next reservation of its kind, at most one actor waits for a LEZ
    lock; and a pass that finds every preparation stored prepares nothing beside an escrow in flight. -/
theorem one_escrow_at_a_time {history : List Call} (run : TimelyRun runtime history node) :
    (∀ first second, Owed (node.swaps first) node.now → Owed (node.swaps second) node.now →
      first = second) ∧
    ∀ draw listing life, node.Truthful (.preparePass draw listing life) →
      (∀ id, (node.swaps id).sidecar.escrow.isSome → (node.swaps id).escrowResult.isSome) →
      ∀ id, InFlight (node.swaps id) draw.now → node.escrowDue listing draw.now = none := by
  have served := served_run run
  constructor
  · intro first second firstOwed secondOwed
    have same := (served.last first firstOwed).symm.trans (served.last second secondOwed)
    exact Option.some.inj same
  · intro draw listing life truthful stored id inFlight
    exact served.escrowDue_blocked truthful.2 (stored id) inFlight

section Samples

def samplePrimitives : Primitives where
  toDerivations := sampleDerivations
  publicKey scalar := scalar + 100
  jointSwapId maker taker := maker.roleEntropy + taker.roleEntropy
  aggregateInternalKey maker taker := maker + taker
  agreementCommitment body := body.swapId + 5
  transactionId hex := BitVec.ofNat 256 hex.length

def sampleRuntime : MakerRuntime where
  primitives := samplePrimitives
  config := sampleConfig
  chainIdentity := 1
  lezOwnerAccount := 2
  agreementKey := 3

def sampleDraw : MakerDraw where
  now := 1000000
  secrets := ⟨0, 4, none, 5, none, 6⟩
  wallet := ⟨"", 0, 800⟩
  sidecar := ⟨4000, 7⟩
  claimRequestId := 8
  claimMessageHash := 9
  bitcoinNonce := 10
  lezNonce := 11
  finalizedHeight := 50
  escrowRequestId := 12
  escrowInitialization := 13
  escrowFunding := 14

def sampleOffer (take : RequestId) : MakerOfferV1 where
  id := "offer-" ++ take
  commitment := 15
  direction := .takerSellsForeign
  createdAtUnixSeconds := 900000
  expiresAtUnixSeconds := 1100000
  minimumForeignUnits := 1000
  maximumForeignUnits := 100000
  lezUnitsPerLot := 1
  foreignUnitsPerLot := 2

variable (id : RequestId)

def sampleContribution : BtcRoleContributionV1 :=
  contributionOf samplePrimitives ⟨.taker, ⟨15, id, .takerSellsForeign⟩, 1, 16, 1100000⟩
    ⟨20, 21, none, 22, some 23, 24⟩

def sampleRunId : String := (swapRunId id).getD ""

def sampleTakePlan : BtcSwapPlanV1 :=
  nowPlan sampleConfig (sampleRunId id) .takerSellsForeign 1000000 10000 5000

def sampleReserve : BtcReserveRequestV1 where
  offerId := "offer-" ++ id
  reservationId := id
  direction := .takerSellsForeign
  signedOfferEnvelope := sampleOffer id
  takerContribution := sampleContribution id
  plan := sampleTakePlan id

def samplePair : ContributionPair where
  maker := contributionOf samplePrimitives (Maker.bootstrapInput sampleRuntime (sampleReserve id))
    { sampleDraw.secrets with agreement := 3, adaptor := none }
  taker := sampleContribution id

def sampleDraft : BtcAgreementBodyV1 where
  swapId := (samplePair id).swapId samplePrimitives
  direction := .takerSellsForeign
  requiredConfirmations := 2
  aggregateInternalKey := (samplePair id).aggregate samplePrimitives
  bitcoinRefundKey := (samplePair id).refundKey
  lez :=
    { aggregateAuthorityAccount := (samplePair id).aggregate samplePrimitives + 3
      metadataAccount := (samplePair id).swapId samplePrimitives + 1
      custodyAccount := (samplePair id).swapId samplePrimitives + 2
      amount := 5000, refundAtMs := (sampleTakePlan id).lezRefundAtMs, claimMessageHash := 30 }
  p2tr :=
    { aggregateInternalKey := (samplePair id).aggregate samplePrimitives, refundKey := 121
      refundCsvBlocks := 96, outputKey := (samplePair id).aggregate samplePrimitives + 121 + 96 }
  funding := { transactionId := 31, outputIndex := 0, valueSat := 10000 }
  recovery :=
    { bitcoinFundingAnchorHeight := 800, bitcoinRefundHeight := 896
      makerSecondLockCutoffUnixSeconds := (sampleTakePlan id).makerSecondLockCutoffUnixSeconds
      earlierRefundLatestUnixSeconds := (sampleTakePlan id).earlierRefundLatestUnixSeconds
      laterRefundEarliestUnixSeconds := (sampleTakePlan id).laterRefundEarliestUnixSeconds
      requiredMarginSeconds := (sampleTakePlan id).requiredMarginSeconds }

def sampleAgreement : BtcAgreementV1 := ⟨sampleDraft id, 32⟩

def sampleSessions : LegSessions := ⟨33, 34⟩

def sampleSession (domain : BtcAdaptorSessionDomain) : ValidatedSession :=
  sampleSessions.validated (sampleAgreement id) domain

def samplePackets {Payload : Type} (id : RequestId) (payload : BtcAdaptorSessionDomain → Payload) :
    LegPackets Payload :=
  ⟨⟨.taker, sampleSession id .bitcoin, payload .bitcoin⟩, ⟨.taker, sampleSession id .lez, payload .lez⟩⟩

def sampleMakerNonce : BtcAdaptorSessionDomain → Bytes32
  | .bitcoin => 10
  | .lez => 11

def sampleRounds : List Call :=
  [.propose sampleDraw ⟨"offer-" ++ id, id, 10000, sampleOffer id, (samplePair id).maker,
      (samplePair id).taker, sampleDraft id⟩ none,
    .complete sampleDraw ⟨"offer-" ++ id, id, sampleAgreement id⟩ none,
    .ceremonyReserve sampleDraw ⟨id, sampleSessions, some (claimResult (sampleRunId id) .taker 35 30),
      samplePackets id fun domain => ⟨sampleSession id domain, .taker, 36⟩⟩ none,
    .ceremonyNonce ⟨id, samplePackets id fun _ => 36⟩ none,
    .ceremonyPartial sampleDraw ⟨id, samplePackets id fun domain =>
      ⟨sampleSession id domain, .taker, sampleMakerNonce domain, 36⟩⟩ none]

instance (swap : MakerSwap) (now : Nat) : Decidable (Owed swap now) :=
  match made : swap.actor.state with
  | none => .isFalse fun ⟨_, found, _⟩ => nomatch made.symm.trans found
  | some state =>
    decidable_of_iff (state.agreement.body.direction = .takerSellsForeign ∧
        now < state.agreement.body.recovery.makerSecondLockCutoffUnixSeconds ∧ state.settled = false)
      ⟨fun waits => ⟨state, made, waits⟩, fun ⟨_, found, waits⟩ => by
        cases made.symm.trans found
        exact waits⟩

def sampleReserved (node : MakerNode) (id : RequestId) : MakerNode :=
  node.advance sampleRuntime (.reserve sampleDraw [] (sampleReserve id) none)

def sampleActivated (node : MakerNode) (id : RequestId) : MakerNode :=
  (sampleRounds id).foldl (advance sampleRuntime) node

theorem sampleActivated_run {node : MakerNode} (id : RequestId) (early : node.now ≤ 1000000) :
    Transition.Run (step sampleRuntime) node (sampleRounds id) (sampleActivated node id) :=
  .cons ⟨early, rfl⟩ (.cons ⟨Nat.le_refl 1000000, rfl⟩ (.cons ⟨Nat.le_refl 1000000, rfl⟩
    (.cons ⟨trivial, rfl⟩ (.cons ⟨Nat.le_refl 1000000, rfl⟩ .nil))))

def sampleTwice : MakerNode := sampleReserved (sampleReserved initial "take-0001") "take-0002"

def sampleReserves : List Call :=
  [.reserve sampleDraw [] (sampleReserve "take-0001") none, .reserve sampleDraw [] (sampleReserve "take-0002") none]

theorem sampleReserves_run : TimelyRun sampleRuntime sampleReserves sampleTwice := by
  have first : initial.Truthful (.reserve sampleDraw [] (sampleReserve "take-0001") none) := by
    refine ⟨by decide, fun id recorded => ?_⟩
    cases recorded
  have untouched : ∀ id ≠ "take-0001", (sampleReserved initial "take-0001").swaps id = initial.swaps id :=
    fun id other => if_neg other
  have second : (sampleReserved initial "take-0001").Truthful
      (.reserve sampleDraw [] (sampleReserve "take-0002") none) := by
    refine ⟨Nat.le_refl 1000000, fun id recorded => ?_⟩
    by_cases reserved : id = "take-0001"
    · subst reserved
      revert recorded
      decide +kernel
    · rw [untouched id reserved] at recorded
      cases recorded
  have unmade : ∀ id, ((sampleReserved initial "take-0001").swaps id).actor.state.isSome = false := by
    intro id
    by_cases reserved : id = "take-0001"
    · subst reserved
      decide +kernel
    · rw [untouched id reserved]
      rfl
  refine .cons ⟨fun id made => ?_, first, rfl⟩ (.cons ⟨fun id made => ?_, second, rfl⟩ .nil)
  · cases made
  · cases (unmade id).symm.trans made

/-- Two reservations are recorded, and only the ceremony of the later one ends. -/
theorem one_escrow_at_a_time_sample :
    (sampleTwice.swaps "take-0001").own.record.isSome ∧
    Owed ((sampleActivated sampleTwice "take-0002").swaps "take-0002") 1000000 ∧
    ∀ other, Owed ((sampleActivated sampleTwice "take-0002").swaps other) 1000000 → other = "take-0002" := by
  have owed : Owed ((sampleActivated sampleTwice "take-0002").swaps "take-0002") 1000000 := by decide +kernel
  have rounds : Transition.Run (Transition.restrict Timely (step sampleRuntime)) sampleTwice
      (sampleRounds "take-0002") (sampleActivated sampleTwice "take-0002") := by
    refine .cons ⟨trivial, Nat.le_refl 1000000, rfl⟩ (.cons ⟨trivial, Nat.le_refl 1000000, rfl⟩
      (.cons ⟨trivial, Nat.le_refl 1000000, rfl⟩ (.cons ⟨trivial, trivial, rfl⟩
      (.cons ⟨?_, Nat.le_refl 1000000, rfl⟩ .nil))))
    intro _ record _ _
    decide +kernel
  refine ⟨by decide +kernel, owed, fun other waits => ?_⟩
  exact (one_escrow_at_a_time (sampleReserves_run.append rounds)).1 other "take-0002" waits owed

/-- Two reservations are recorded before either has a sidecar, and both ceremonies end with an activated
    actor that waits for the one slot. -/
theorem two_actors_wait_for_the_slot : ∃ history node,
    Transition.Run (step sampleRuntime) initial history node ∧
      Owed (node.swaps "take-0001") node.now ∧ Owed (node.swaps "take-0002") node.now := by
  refine ⟨_, sampleActivated (sampleActivated sampleTwice "take-0001") "take-0002",
    .append (.append sampleReserves_run.of_restrict
      (sampleActivated_run "take-0001" (Nat.le_refl 1000000)))
    (sampleActivated_run "take-0002" (Nat.le_refl 1000000)), ?_, ?_⟩
  · decide +kernel
  · decide +kernel

end Samples

end MakerNode

end AtomicSwaps.Btc
