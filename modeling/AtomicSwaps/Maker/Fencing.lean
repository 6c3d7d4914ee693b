import AtomicSwaps.Maker.Leases

namespace AtomicSwaps.Maker

open AtomicSwaps.Core Fallible Relational Transition ActorStore MakerActorManualActionSnapshot

/-- What the scheduler holds of one actor: its process row and the action that is open for it. -/
structure Seat where
  process : Option MakerActorProcessRecordV1
  opened : Option MakerActorManualActionSnapshot

def ActorStore.seat (store : ActorStore) (swapId : SwapId) : Seat :=
  ⟨store.processes.find? swapId, openManualAction store.actions swapId⟩

/-- The moves of one actor, each with what it needs of the row it finds. -/
inductive Seat.Move : Seat → Seat → Prop
  | stays (seat : Seat) : Move seat seat
  | registers {row : MakerActorProcessRecordV1} {opened : Option MakerActorManualActionSnapshot}
      (queued : row.scheduleState = .queued) (untried : row.leaseGeneration = 0 ∧ row.attemptCount = 0) :
      Move ⟨none, opened⟩ ⟨some row, opened⟩
  | asks {row : MakerActorProcessRecordV1} {action : MakerActorManualActionSnapshot} {now : Nat}
      (ongoing : row.scheduleState ≠ .terminal) (queued : action.state = .queued) :
      Move ⟨some row, none⟩ ⟨some (if row.scheduleState = .leased then row else row.requeue now), some action⟩
  | repins {row : MakerActorProcessRecordV1} {opened : Option MakerActorManualActionSnapshot}
      {programSha256 : Bytes32} {now : Nat} (waits : row.scheduleState.waits = true) :
      Move ⟨some row, opened⟩ ⟨some (row.repin programSha256 now), opened⟩
  | grants {row : MakerActorProcessRecordV1} {opened : Option MakerActorManualActionSnapshot}
      {owner : MakerActorLeaseOwner} {now : Nat}
      (due : row.scheduleState = .queued ∨ row.scheduleState = .backoff) :
      Move ⟨some row, opened⟩ ⟨some (row.lease owner now), opened⟩
  | attaches {row : MakerActorProcessRecordV1} {action : MakerActorManualActionSnapshot}
      {owner : MakerActorLeaseOwner} {generation : Nat} (held : row.heldBy owner generation = true)
      (earlier : action.requestedAfterGeneration < generation) :
      Move ⟨some row, some action⟩ ⟨some row, some (action.attach owner generation)⟩
  | watches {row : MakerActorProcessRecordV1} {opened : Option MakerActorManualActionSnapshot}
      {child : Option (Nat × Nat)} (leased : row.scheduleState = .leased) :
      Move ⟨some row, opened⟩ ⟨some { row with childIdentity := child }, opened⟩
  | transfers {row : MakerActorProcessRecordV1} {opened : Option MakerActorManualActionSnapshot}
      {newOwner : MakerActorLeaseOwner} {now : Nat} (leased : row.scheduleState = .leased) :
      Move ⟨some row, opened⟩ ⟨some (row.transfer newOwner (row.leaseGeneration + 1) now),
        opened.map fun action => if action.state = .queued then action
          else action.transfer newOwner (row.leaseGeneration + 1) now⟩
  | releases {row : MakerActorProcessRecordV1} {opened left : Option MakerActorManualActionSnapshot}
      {state : MakerActorScheduleState} {notBefore : Nat} {failure : Option String} {now : Nat}
      (leased : row.scheduleState = .leased) (unleased : state ≠ .leased)
      (requeued : ∀ action, left = some action → action.state = .queued ∧ (state = .queued ∨ state = .backoff)) :
      Move ⟨some row, opened⟩ ⟨some (row.release state notBefore failure now), left⟩

variable {store next : ActorStore} {swapId : SwapId} {row changed : MakerActorProcessRecordV1}
  {action moved : MakerActorManualActionSnapshot} {opened : Option MakerActorManualActionSnapshot} {now : Nat}

section Seats

variable {seat : Seat} {after : Seat}

/-- An actor has as many attempts as leases, and an action is open for it only while it can still run;
    a leased action belongs to the lease the actor is under and was requested before it. -/
structure Seat.Sound (seat : Seat) : Prop where
  counted : ∀ row, seat.process = some row → row.attemptCount = row.leaseGeneration
  waiting : ∀ action, seat.opened = some action → ∃ row, seat.process = some row ∧
    (row.scheduleState = .queued ∨ row.scheduleState = .backoff ∨ row.scheduleState = .leased)
  attached : ∀ action row, seat.opened = some action → seat.process = some row → action.state = .leased →
    row.scheduleState = .leased ∧ row.leaseOwner = action.leaseOwner ∧
      some row.leaseGeneration = action.leaseGeneration ∧ action.requestedAfterGeneration < row.leaseGeneration

theorem Seat.sound_iff : Seat.Sound ⟨some row, opened⟩ ↔ row.attemptCount = row.leaseGeneration ∧
    ∀ action, opened = some action →
      (row.scheduleState = .queued ∨ row.scheduleState = .backoff ∨ row.scheduleState = .leased) ∧
      (action.state = .leased → row.scheduleState = .leased ∧ row.leaseOwner = action.leaseOwner ∧
        some row.leaseGeneration = action.leaseGeneration ∧
        action.requestedAfterGeneration < row.leaseGeneration) := by
  constructor
  · intro sound
    refine ⟨sound.counted row rfl, fun action isOpen => ⟨?_, sound.attached action row isOpen rfl⟩⟩
    obtain ⟨same, stands, ongoing⟩ := sound.waiting action isOpen
    cases stands
    exact ongoing
  · rintro ⟨counted, agrees⟩
    constructor
    · intro same stands
      cases stands
      exact counted
    · exact fun action isOpen => ⟨row, rfl, (agrees action isOpen).1⟩
    · intro action same isOpen stands
      cases stands
      exact (agrees action isOpen).2

theorem Seat.Move.sound (sound : seat.Sound) (move : seat.Move after) : after.Sound := by
  cases move with
  | stays => exact sound
  | registers queued untried =>
    rw [sound_iff]
    refine ⟨untried.2.trans untried.1.symm, fun action isOpen => ?_⟩
    obtain ⟨_, absent, _⟩ := sound.waiting action isOpen
    cases absent
  | @asks row action now ongoing queued =>
    rw [sound_iff] at sound ⊢
    by_cases leased : row.scheduleState = .leased
    · rw [if_pos leased]
      refine ⟨sound.1, fun same isOpen => ?_⟩
      cases isOpen
      exact ⟨.inr (.inr leased), fun attached => nomatch queued.symm.trans attached⟩
    · rw [if_neg leased]
      refine ⟨sound.1, fun same isOpen => ?_⟩
      cases isOpen
      exact ⟨.inl rfl, fun attached => nomatch queued.symm.trans attached⟩
  | repins waits =>
    rw [sound_iff] at sound ⊢
    refine ⟨sound.1, fun action isOpen => ⟨.inl rfl, fun attached => ?_⟩⟩
    rw [((sound.2 action isOpen).2 attached).1] at waits
    cases waits
  | grants due =>
    rw [sound_iff] at sound ⊢
    refine ⟨congrArg (· + 1) sound.1, fun action isOpen => ⟨.inr (.inr rfl), fun attached => ?_⟩⟩
    rw [((sound.2 action isOpen).2 attached).1] at due
    rcases due with due | due <;> cases due
  | attaches held earlier =>
    obtain ⟨leased, owned, rfl⟩ := heldBy_iff.mp held
    rw [sound_iff] at sound ⊢
    refine ⟨sound.1, fun same isOpen => ?_⟩
    cases isOpen
    exact ⟨.inr (.inr leased), fun _ => ⟨leased, owned, rfl, earlier⟩⟩
  | watches leased =>
    rw [sound_iff] at sound ⊢
    exact sound
  | @transfers row opened newOwner now leased =>
    rw [sound_iff] at sound ⊢
    refine ⟨congrArg (· + 1) sound.1, fun action isOpen => ⟨.inr (.inr leased), fun attached => ?_⟩⟩
    obtain ⟨before, wasOpen, rfl⟩ := Option.map_eq_some_iff.mp isOpen
    by_cases queued : before.state = .queued
    · rw [if_pos queued, queued] at attached
      cases attached
    · rw [if_neg queued] at attached ⊢
      have earlier := ((sound.2 before wasOpen).2 attached).2.2.2
      exact ⟨leased, rfl, rfl, Nat.lt_succ_of_lt earlier⟩
  | releases leased unleased requeued =>
    rw [sound_iff] at sound ⊢
    refine ⟨sound.1, fun action isOpen => ?_⟩
    obtain ⟨queued, state⟩ := requeued action isOpen
    refine ⟨?_, fun attached => nomatch queued.symm.trans attached⟩
    rcases state with state | state
    · exact .inl state
    · exact .inr (.inl state)

theorem Seat.Move.terminal (move : seat.Move after) (stands : seat.process = some row)
    (terminal : row.scheduleState = .terminal) : after.process = some row := by
  cases move with
  | stays => exact stands
  | registers => cases stands
  | asks ongoing =>
    cases stands
    exact absurd terminal ongoing
  | repins waits =>
    cases stands
    rw [terminal] at waits
    cases waits
  | grants due =>
    cases stands
    rw [terminal] at due
    rcases due with due | due <;> cases due
  | attaches => exact stands
  | watches leased | transfers leased | releases leased =>
    cases stands
    rw [terminal] at leased
    cases leased

def Seat.generation (seat : Seat) : Nat := (seat.process.map (·.leaseGeneration)).getD 0

def Seat.Holds (seat : Seat) (owner : MakerActorLeaseOwner) (generation : Nat) : Prop :=
  ∃ row, seat.process = some row ∧ row.heldBy owner generation = true

theorem Seat.Holds.generation {owner : MakerActorLeaseOwner} {generation : Nat}
    (holds : seat.Holds owner generation) : seat.generation = generation := by
  obtain ⟨row, stands, held⟩ := holds
  unfold Seat.generation
  rw [stands]
  exact (heldBy_iff.mp held).2.2

theorem Seat.Move.grants_next (move : seat.Move after) :
    (after.generation = seat.generation ∧ ∀ owner generation, after.Holds owner generation →
      seat.Holds owner generation) ∨
    ∃ owner, after.Holds owner (seat.generation + 1) := by
  cases move with
  | stays => exact .inl ⟨rfl, fun _ _ holds => holds⟩
  | registers queued untried =>
    refine .inl ⟨untried.1, ?_⟩
    rintro owner generation ⟨same, stands, held⟩
    cases stands
    exact nomatch queued.symm.trans (heldBy_iff.mp held).1
  | @asks row action now =>
    by_cases leased : row.scheduleState = .leased
    · rw [if_pos leased]
      exact .inl ⟨rfl, fun _ _ holds => holds⟩
    · rw [if_neg leased]
      refine .inl ⟨rfl, ?_⟩
      rintro owner generation ⟨same, stands, held⟩
      cases stands
      cases held
  | repins =>
    refine .inl ⟨rfl, ?_⟩
    rintro owner generation ⟨same, stands, held⟩
    cases stands
    cases held
  | @grants row opened owner now =>
    exact .inr ⟨owner, _, rfl, heldBy_iff.mpr ⟨rfl, rfl, rfl⟩⟩
  | attaches => exact .inl ⟨rfl, fun _ _ holds => holds⟩
  | @watches row opened child leased =>
    refine .inl ⟨rfl, ?_⟩
    rintro owner generation ⟨same, stands, held⟩
    cases stands
    exact ⟨row, rfl, held⟩
  | @transfers row opened newOwner now leased =>
    exact .inr ⟨newOwner, _, rfl, heldBy_iff.mpr ⟨leased, rfl, rfl⟩⟩
  | releases leased unleased =>
    refine .inl ⟨rfl, ?_⟩
    rintro owner generation ⟨same, stands, held⟩
    cases stands
    exact absurd (heldBy_iff.mp held).1 unleased

end Seats

section Refinement

variable {actions : Table makerActorManualActions} {reply : ActorReply}

theorem openManualAction_iff :
    openManualAction actions swapId = some action ↔
      actions.find? action.requestId = some action ∧ action.swapId = swapId ∧ action.isOpen = true :=
  ⟨openManualAction_some, fun ⟨found, same, isOpen⟩ => openManualAction_of_open found same isOpen⟩

/-- Everything a call leaves alone: the other actors and the actions that are closed. -/
structure Touches (store next : ActorStore) (swapId : SwapId) : Prop where
  others : ∀ other, other ≠ swapId → next.seat other = store.seat other
  closed : ∀ requestId action, store.actions.find? requestId = some action → action.isOpen = false →
    next.actions.find? requestId = some action

theorem Touches.refl : Touches store store swapId := ⟨fun _ _ => rfl, fun _ _ found _ => found⟩

theorem Touches.trans {middle : ActorStore} (first : Touches store middle swapId)
    (second : Touches middle next swapId) : Touches store next swapId where
  others other foreign := (second.others other foreign).trans (first.others other foreign)
  closed requestId action found isClosed :=
    second.closed requestId action (first.closed requestId action found isClosed) isClosed

theorem seat_process (store next : ActorStore) (puts : store.processes.Puts next.processes swapId changed)
    (sameActions : next.actions = store.actions) :
    next.seat swapId = ⟨some changed, (store.seat swapId).opened⟩ ∧ Touches store next swapId := by
  unfold seat
  refine ⟨by rw [puts.self, sameActions], fun other foreign => ?_, fun requestId action found _ => ?_⟩
  · unfold seat
    rw [puts.other foreign, sameActions]
  · rw [sameActions]
    exact found

theorem seat_action (store next : ActorStore) (puts : store.actions.Puts next.actions moved.requestId moved)
    (own : moved.swapId = swapId)
    (replaces : ∀ old, store.actions.find? moved.requestId = some old → (store.seat swapId).opened = some old)
    (single : ∀ old, (store.seat swapId).opened = some old → old.requestId = moved.requestId)
    (sameProcesses : next.processes = store.processes) :
    next.seat swapId = ⟨(store.seat swapId).process, if moved.isOpen then some moved else none⟩ ∧
      Touches store next swapId := by
  have owned : openManualAction next.actions swapId = if moved.isOpen then some moved else none := by
    apply Option.ext
    intro action
    rw [openManualAction_iff, puts]
    constructor
    · rintro ⟨located, ownToo, isOpen⟩
      split at located
      · cases located
        rw [if_pos isOpen]
      · rename_i different
        exact absurd (single action (openManualAction_iff.mpr ⟨located, ownToo, isOpen⟩)) different
    · intro located
      split at located
      · rename_i isOpen
        cases located
        exact ⟨if_pos rfl, own, isOpen⟩
      · cases located
  refine ⟨?_, fun other foreign => ?_, fun requestId action found isClosed => ?_⟩
  · unfold seat
    rw [owned, sameProcesses]
  · have sameOpen : openManualAction next.actions other = openManualAction store.actions other := by
      apply Option.ext
      intro action
      rw [openManualAction_iff, openManualAction_iff, puts]
      split
      · rename_i sameKey
        constructor
        · rintro ⟨located, theirs, _⟩
          cases located
          exact absurd (theirs.symm.trans own) foreign
        · rintro ⟨located, theirs, _⟩
          rw [sameKey] at located
          exact absurd (theirs.symm.trans (openManualAction_iff.mp (replaces action located)).2.1) foreign
      · exact Iff.rfl
    unfold seat
    rw [sameOpen, sameProcesses]
  · rw [puts.other]
    · exact found
    · intro sameKey
      rw [sameKey] at found
      have wasOpen := (openManualAction_iff.mp (replaces action found)).2.2
      rw [isClosed] at wasOpen
      cases wasOpen

theorem seat_rewritten (store next : ActorStore) (isOpen : (store.seat swapId).opened = some action)
    (written : store.actions.write moved = some next.actions) (same : moved.requestId = action.requestId)
    (sameSwap : moved.swapId = action.swapId) (sameProcesses : next.processes = store.processes) :
    next.seat swapId = ⟨(store.seat swapId).process, if moved.isOpen then some moved else none⟩ ∧
      Touches store next swapId := by
  obtain ⟨stored, own, _⟩ := openManualAction_iff.mp isOpen
  apply seat_action store next _ (sameSwap.trans own) _ _ sameProcesses
  · rw [same]
    exact action_puts stored written same
  · intro old found
    rw [same, stored] at found
    cases found
    exact isOpen
  · intro old alsoOpen
    rw [isOpen] at alsoOpen
    cases alsoOpen
    exact same.symm

/-- What a committed call says of its actor: a move of it, the lease it presented, and the lease or the
    action it was answered with. -/
structure Moves (store : ActorStore) (call : ActorCall) (reply : ActorReply) (next : ActorStore) : Prop where
  move : (store.seat call.swapId).Move (next.seat call.swapId)
  touches : Touches store next call.swapId
  presented : ∀ lease, call.presents = some lease →
    (store.seat lease.record.swapId).Holds lease.owner lease.generation
  granted : ∀ lease, reply.granted = some lease → lease.record.swapId = call.swapId ∧
    (next.seat call.swapId).process = some lease.record ∧
    lease.record.heldBy lease.owner lease.generation = true ∧
    lease.generation = (store.seat call.swapId).generation + 1
  handed : ∀ action, reply = .manualAction (some action) → (next.seat call.swapId).opened = some action ∧
    ∃ lease, call.presents = some lease ∧ action.heldBy lease.owner lease.generation = true

variable {call : ActorCall}

theorem moves_plain
    (move : (store.seat call.swapId).Move (next.seat call.swapId)) (touches : Touches store next call.swapId)
    (presented : ∀ lease, call.presents = some lease →
      (store.seat lease.record.swapId).Holds lease.owner lease.generation)
    (plain : reply.Plain) : Moves store call reply next where
  move := move
  touches := touches
  presented := presented
  granted _ granting := nomatch plain.1.symm.trans granting
  handed action handing := absurd handing (plain.2 action)

theorem moves_unleased (presents : call.presents = none)
    (move : (store.seat call.swapId).Move (next.seat call.swapId)) (touches : Touches store next call.swapId)
    (plain : reply.Plain) : Moves store call reply next :=
  moves_plain move touches (fun _ presented => nomatch presents.symm.trans presented) plain

theorem registered_plain {wasReplay : Bool} : (ActorReply.registered wasReplay).Plain := ⟨rfl, nofun⟩

theorem admitted_plain {commit : MakerActorManualActionCommit} : (ActorReply.admitted commit).Plain := ⟨rfl, nofun⟩

theorem done_plain : ActorReply.done.Plain := ⟨rfl, nofun⟩

variable {lease : MakerActorLeaseV1}

theorem holds_of_found (call_presents : call.presents = some lease)
    (found : store.processes.find? lease.record.swapId = some row)
    (held : row.heldBy lease.owner lease.generation = true) :
    ∀ other, call.presents = some other → (store.seat other.record.swapId).Holds other.owner other.generation := by
  intro other presents
  rw [call_presents] at presents
  cases presents
  exact ⟨row, found, held⟩

theorem recovers_moves {heldLock : ActorHeldLock} {newOwner : MakerActorLeaseOwner}
    {processes : Table makerActorProcesses}
    (found : store.processes.find? lease.record.swapId = some row)
    (held : row.heldBy lease.owner lease.generation = true)
    (written : store.processes.write (row.transfer newOwner (lease.generation + 1) (timeToSql now)) = some processes)
    (transferred : transferManualAction store.actions lease newOwner (lease.generation + 1) (timeToSql now) =
      .ok actions) :
    Moves store (.recoverAbandoned lease heldLock newOwner)
      (.recovered ⟨row.transfer newOwner (lease.generation + 1) (timeToSql now), newOwner, lease.generation + 1⟩)
      { store with processes, actions } := by
  obtain ⟨leased, _, same⟩ := heldBy_iff.mp held
  rw [← same] at written transferred ⊢
  have followed : (seat { store with actions } lease.record.swapId) =
      ⟨some row, (store.seat lease.record.swapId).opened.map fun action => if action.state = .queued then action
        else action.transfer newOwner (row.leaseGeneration + 1) (timeToSql now)⟩ ∧
      Touches store { store with actions } lease.record.swapId := by
    rcases transferManualAction_ok transferred with ⟨queued, rfl⟩ | ⟨action, isOpen, attached, moved⟩
    · refine ⟨?_, .refl⟩
      unfold seat
      rw [found]
      cases isOpen : openManualAction store.actions lease.record.swapId with
      | none => rfl
      | some action => simp [queued action isOpen]
    · obtain ⟨own, touches⟩ := seat_rewritten store { store with actions } isOpen moved rfl rfl rfl
      simp only [heldBy, Bool.and_eq_true, decide_eq_true_eq] at attached
      refine ⟨?_, touches⟩
      rw [own]
      simp [seat, found, isOpen, attached.1.1, MakerActorManualActionSnapshot.isOpen,
        transfer]
  obtain ⟨own, touches⟩ := seat_process { store with actions } { store with processes, actions }
    (process_puts found written rfl) rfl
  refine ⟨?_, followed.2.trans touches, holds_of_found rfl found held, ?_, by rintro _ ⟨⟩⟩
  · show (store.seat lease.record.swapId).Move (seat _ lease.record.swapId)
    rw [own, followed.1]
    simp only [seat, found]
    exact .transfers leased
  · intro granted granting
    cases granting
    show row.swapId = lease.record.swapId ∧ (seat _ lease.record.swapId).process = _ ∧ _ ∧
      _ = (store.seat lease.record.swapId).generation + 1
    rw [own]
    refine ⟨process_key found, rfl, heldBy_iff.mpr ⟨leased, rfl, rfl⟩, ?_⟩
    simp [Seat.generation, seat, found]

theorem settled_seat {resolution : MakerActorAttemptResolution}
    {state : MakerActorScheduleState} (paired : resolution.manualState = .queued → state = .queued ∨ state = .backoff)
    (found : store.processes.find? lease.record.swapId = some row)
    (settled : settleManualAction store.actions lease resolution.manualState (timeToSql now) = .ok actions) :
    ∃ left, seat { store with actions } lease.record.swapId = ⟨some row, left⟩ ∧
      (∀ action, left = some action → action.state = .queued ∧ (state = .queued ∨ state = .backoff)) ∧
      Touches store { store with actions } lease.record.swapId := by
  rcases settleManualAction_ok settled with ⟨queued, rfl⟩ |
    ⟨action, after, isOpen, moved, sameKey, sameSwap, _, reached, _⟩
  · refine ⟨openManualAction store.actions lease.record.swapId, by simp only [seat, found],
      fun action isOpen => ?_, .refl⟩
    obtain ⟨waits, manual⟩ := queued action isOpen
    exact ⟨waits, paired manual⟩
  · obtain ⟨own, touches⟩ := seat_rewritten store { store with actions } isOpen moved sameKey sameSwap rfl
    refine ⟨_, by rw [own, seat, found], fun kept stays => ?_, touches⟩
    split at stays
    · rename_i stillOpen
      cases stays
      have queued : after.state = .queued := by
        simp only [MakerActorManualActionSnapshot.isOpen, Bool.or_eq_true, decide_eq_true_eq] at stillOpen
        rcases stillOpen with queued | attached
        · exact queued
        · exact absurd (reached.symm.trans attached) resolution.manualState_ne_leased
      exact ⟨queued, paired (reached.symm.trans queued)⟩
    · cases stays

/-- Every committed call is a move of its own actor and leaves the others alone. -/
theorem Performs.moves (performs : Performs store now call reply next) : Moves store call reply next := by
  cases performs with
  | unchanged presents plain => exact moves_unleased presents (.stays _) .refl plain
  | @registers row processes _ inserted _ queued untried =>
    have puts : store.processes.Puts processes row.swapId row := Table.insert_puts inserted
    obtain ⟨own, touches⟩ := seat_process store { store with processes } puts rfl
    have absent : store.processes.find? row.swapId = none := (Table.insert_fresh inserted).1
    have move : (store.seat row.swapId).Move (seat { store with processes } row.swapId) := by
      rw [own, seat, absent]
      exact .registers queued untried
    exact moves_unleased rfl move touches registered_plain
  | @asks _ swapId _ _ _ row action processes actions mutations found ongoing closed inserted own queued _ _
      requeued =>
    have isOpen : action.isOpen = true := by
      simp [MakerActorManualActionSnapshot.isOpen, queued]
    obtain ⟨asked, first⟩ := seat_action store { store with actions } (Table.insert_puts inserted) own
      (fun old present => by cases (Table.insert_fresh inserted).1.symm.trans present)
      (fun old present => by cases closed.symm.trans present) rfl
    have puts : store.processes.Puts processes swapId
        (if row.scheduleState = .leased then row else row.requeue (timeToSql now)) := by
      rcases requeued with ⟨leased, rfl⟩ | ⟨unleased, written⟩
      · rw [if_pos leased]
        intro key
        split
        · rename_i same
          rw [same, found]
        · rfl
      · rw [if_neg unleased]
        exact process_puts found written rfl
    obtain ⟨seated, second⟩ := seat_process { store with actions }
      { store with mutations, processes, actions } puts rfl
    have move : (store.seat swapId).Move (seat { store with mutations, processes, actions } swapId) := by
      rw [seated, asked, if_pos isOpen, seat, found, closed]
      exact .asks ongoing queued
    exact moves_unleased rfl move (first.trans second) admitted_plain
  | @repins _ swapId _ _ _ _ processes mutations found waits written =>
    obtain ⟨own, touches⟩ := seat_process store { store with mutations, processes }
      (process_puts found written rfl) rfl
    have move : (store.seat swapId).Move (seat { store with mutations, processes } swapId) := by
      rw [own, seat, found]
      exact .repins waits
    exact moves_unleased rfl move touches admitted_plain
  | @claims swapId owner row processes found due written =>
    obtain ⟨own, touches⟩ := seat_process store { store with processes } (process_puts found written rfl) rfl
    have before : store.seat swapId = ⟨some row, (store.seat swapId).opened⟩ := by
      simp only [seat, found]
    refine ⟨?_, touches, (fun _ presented => by cases presented), ?_, (fun _ handing => by cases handing)⟩
    · show (store.seat swapId).Move (seat _ swapId)
      rw [own, before]
      exact .grants due
    · intro lease granted
      cases granted
      show row.swapId = swapId ∧ (seat _ swapId).process = _ ∧ _ ∧ _ = (store.seat swapId).generation + 1
      rw [own, before]
      exact ⟨process_key found, rfl, heldBy_iff.mpr ⟨rfl, rfl, rfl⟩, rfl⟩
  | @looks lease _ _ found held attached =>
    refine ⟨.stays _, .refl, holds_of_found rfl found held, (fun _ granting => by cases granting),
      fun action handing => ?_⟩
    cases handing
    obtain ⟨isOpen, own⟩ := attached action rfl
    exact ⟨isOpen, lease, rfl, own⟩
  | @attaches lease _ action actions found held opened earlier written =>
    obtain ⟨own, touches⟩ := seat_rewritten store { store with actions } opened written rfl rfl rfl
    refine ⟨?_, touches, holds_of_found rfl found held, (fun _ granting => by cases granting),
      fun handed handing => ?_⟩
    · show (store.seat lease.record.swapId).Move (seat _ lease.record.swapId)
      rw [own, seat, found, opened]
      exact .attaches held earlier
    · cases handing
      refine ⟨?_, lease, rfl, ?_⟩
      · show (seat _ lease.record.swapId).opened = _
        rw [own]
        rfl
      · simp [heldBy, attach]
  | @watches _ lease _ _ processes presents about found held written =>
    obtain ⟨own, touches⟩ := seat_process store { store with processes } (process_puts found written rfl) rfl
    rw [← about] at own touches found
    have move : (store.seat call.swapId).Move (seat { store with processes } call.swapId) := by
      rw [own, seat, found]
      exact .watches (heldBy_iff.mp held).1
    exact moves_plain move touches (holds_of_found presents (about ▸ found) held) done_plain
  | recovers found held written transferred => exact recovers_moves found held written transferred
  | @resolves _ lease _ _ _ _ _ processes actions observed presents about unleased paired found held written
      settled =>
    obtain ⟨left, settledSeat, requeued, first⟩ := settled_seat paired found settled
    obtain ⟨own, second⟩ := seat_process { store with actions }
      { store with processes, actions, progress := observed } (process_puts found written rfl) rfl
    have presented := holds_of_found presents found held
    have touches := first.trans second
    rw [← about] at own touches settledSeat found
    have move : (store.seat call.swapId).Move
        (seat { store with processes, actions, progress := observed } call.swapId) := by
      rw [own, settledSeat, seat, found]
      exact .releases (heldBy_iff.mp held).1 unleased requeued
    exact moves_plain move touches presented done_plain

end Refinement

section Runs

variable {start scheduler final : Scheduler} {event : TimedCall × Option (ActorResult ActorReply)}
  {history later : List (TimedCall × Option (ActorResult ActorReply))}

/-- Seen from one actor, a step of the scheduler is a move, and it touches no closed action. -/
theorem step_moves (step : scheduler.Step event final) (swapId : SwapId) :
    (scheduler.store.seat swapId).Move (final.store.seat swapId) ∧
      ∀ requestId action, scheduler.store.actions.find? requestId = some action → action.isOpen = false →
        final.store.actions.find? requestId = some action := by
  rcases step.2.1.cases_db with same | ⟨reply, performed, _⟩
  · rw [same]
    exact ⟨.stays _, fun _ _ found _ => found⟩
  · have moves := (perform_ok performed).moves
    refine ⟨?_, moves.touches.closed⟩
    by_cases own : swapId = event.1.call.swapId
    · rw [own]
      exact moves.move
    · rw [moves.touches.others swapId own]
      exact .stays _

def Scheduler.Sound (scheduler : Scheduler) : Prop := ∀ swapId, (scheduler.store.seat swapId).Sound

theorem run_sound (idle : start.store.Idle) (run : Run Scheduler.Step start history scheduler) :
    scheduler.Sound := by
  apply run.invariant
  · intro swapId
    obtain ⟨processes, actions, _⟩ := idle
    have vacant : start.store.seat swapId = ⟨none, none⟩ := by
      unfold seat
      rw [processes, actions]
      rfl
    rw [vacant]
    exact ⟨fun _ stands => (nomatch stands), fun _ isOpen => (nomatch isOpen), fun _ _ isOpen => (nomatch isOpen)⟩
  · exact fun state event next sound step swapId => (step_moves step swapId).1.sound (sound swapId)

def Current (store : ActorStore) (lease : MakerActorLeaseV1) : Prop :=
  (store.seat lease.record.swapId).Holds lease.owner lease.generation

structure CallFenced (store : ActorStore) (event : TimedCall × Option (ActorResult ActorReply))
    (next : ActorStore) : Prop where
  generations : ∀ swapId, ((next.seat swapId).generation = (store.seat swapId).generation ∧
      ∀ owner generation, (next.seat swapId).Holds owner generation →
        (store.seat swapId).Holds owner generation) ∨
    ∃ owner, (next.seat swapId).Holds owner ((store.seat swapId).generation + 1)
  granted : ∀ reply lease, event.2 = some (.ok reply) → reply.granted = some lease →
    Current next lease ∧ lease.generation = (store.seat lease.record.swapId).generation + 1 ∧
      lease.record.attemptCount = lease.generation
  stale : ∀ lease, event.1.call.presents = some lease → ¬Current store lease →
    (∃ error, event.1.perform store = .error error) ∧ next = store
  handed : ∀ action, event.2 = some (.ok (.manualAction (some action))) →
    ∃ lease, event.1.call.presents = some lease ∧ action.swapId = lease.record.swapId ∧
      action.leaseOwner = some lease.owner ∧ action.leaseGeneration = some lease.generation ∧
      action.requestedAfterGeneration < lease.generation

theorem step_fences (sound : scheduler.Sound) (step : scheduler.Step event final) :
    CallFenced scheduler.store event final.store := by
  constructor
  · exact fun swapId => (step_moves step swapId).1.grants_next
  · intro reply lease answered grants
    have performed := step.2.1.answer answered
    obtain ⟨own, stands, held, next⟩ := (perform_ok performed).moves.granted lease grants
    have counted := ((perform_ok performed).moves.move.sound (sound _)).counted lease.record stands
    rw [← own] at stands next
    exact ⟨⟨lease.record, stands, held⟩, next, counted.trans (heldBy_iff.mp held).2.2⟩
  · intro lease presents stale
    have refused : ∃ error, event.1.perform scheduler.store = .error error := by
      cases performed : event.1.perform scheduler.store with
      | error error => exact ⟨error, rfl⟩
      | ok result => exact absurd ((perform_ok performed).moves.presented lease presents) stale
    refine ⟨refused, ?_⟩
    obtain ⟨error, failed⟩ := refused
    rcases step.2.1.cases_db with same | ⟨reply, performed, _⟩
    · exact same
    · rw [failed] at performed
      cases performed
  · intro action answered
    have moves := (perform_ok (step.2.1.answer answered)).moves
    obtain ⟨isOpen, lease, presents, attached⟩ := moves.handed action rfl
    have about : event.1.call.swapId = lease.record.swapId := by
      cases call : event.1.call <;> rw [call] at presents <;> cases presents <;> rfl
    obtain ⟨row, stands, _⟩ := (moves.move.sound (sound _)).waiting action isOpen
    simp only [heldBy, Bool.and_eq_true, decide_eq_true_eq] at attached
    obtain ⟨_, _, sameGeneration, earlier⟩ :=
      (moves.move.sound (sound _)).attached action row isOpen stands attached.1.1
    rw [attached.2, Option.some.injEq] at sameGeneration
    rw [sameGeneration] at earlier
    exact ⟨lease, presents, (openManualAction_iff.mp isOpen).2.1.trans about, attached.1.2, attached.2, earlier⟩

/-- What never comes back: a closed action, an actor that is done, and a lease that was given up. -/
structure Absorbs (store later : ActorStore) : Prop where
  closed : ∀ requestId action, store.actions.find? requestId = some action → action.isOpen = false →
    later.actions.find? requestId = some action
  terminal : ∀ swapId row, store.processes.find? swapId = some row → row.scheduleState = .terminal →
    later.processes.find? swapId = some row
  generations : ∀ swapId, (store.seat swapId).generation ≤ (later.seat swapId).generation
  retired : ∀ lease, lease.generation ≤ (store.seat lease.record.swapId).generation → ¬Current store lease →
    ¬Current later lease

theorem step_absorbs (step : scheduler.Step event final) : Absorbs scheduler.store final.store := by
  constructor
  · exact (step_moves step event.1.call.swapId).2
  · exact fun swapId row stands terminal => (step_moves step swapId).1.terminal stands terminal
  · intro swapId
    rcases (step_moves step swapId).1.grants_next with ⟨same, _⟩ | ⟨owner, granted⟩
    · exact Nat.le_of_eq same.symm
    · rw [granted.generation]
      exact Nat.le_succ _
  · intro lease reached retired current
    rcases (step_moves step lease.record.swapId).1.grants_next with ⟨_, kept⟩ | ⟨owner, granted⟩
    · exact retired (kept _ _ current)
    · have next := granted.generation
      rw [Seat.Holds.generation current] at next
      omega

theorem run_absorbs (run : Run Scheduler.Step scheduler later final) : Absorbs scheduler.store final.store := by
  induction run with
  | nil => exact ⟨fun _ _ found _ => found, fun _ _ found _ => found, fun _ => Nat.le_refl _, fun _ _ gone => gone⟩
  | snoc _ step before =>
    have after := step_absorbs step
    constructor
    · exact fun requestId action found closed =>
        after.closed requestId action (before.closed requestId action found closed) closed
    · exact fun swapId row stands terminal =>
        after.terminal swapId row (before.terminal swapId row stands terminal) terminal
    · exact fun swapId => Nat.le_trans (before.generations swapId) (after.generations swapId)
    · intro lease reached retired
      exact after.retired lease (Nat.le_trans reached (before.generations _)) (before.retired lease reached retired)

/-- What the scheduler holds of one swap between two calls. -/
structure SwapFenced (store : ActorStore) (swapId : SwapId) : Prop where
  counted : ∀ row, store.processes.find? swapId = some row → row.attemptCount = row.leaseGeneration
  single : ∀ first second firstRow secondRow, store.actions.find? first = some firstRow →
    store.actions.find? second = some secondRow → firstRow.swapId = swapId → secondRow.swapId = swapId →
    firstRow.isOpen = true → secondRow.isOpen = true → firstRow = secondRow
  waiting : ∀ requestId action, store.actions.find? requestId = some action → action.swapId = swapId →
    action.isOpen = true → ∃ row, store.processes.find? swapId = some row ∧
      (row.scheduleState = .queued ∨ row.scheduleState = .backoff ∨ row.scheduleState = .leased)
  attached : ∀ requestId action, store.actions.find? requestId = some action → action.swapId = swapId →
    action.state = .leased → ∃ row, store.processes.find? swapId = some row ∧ row.scheduleState = .leased ∧
      row.leaseOwner = action.leaseOwner ∧ some row.leaseGeneration = action.leaseGeneration

theorem sound_fences (sound : (store.seat swapId).Sound) : SwapFenced store swapId := by
  constructor
  · exact sound.counted
  · intro first second firstRow secondRow found secondFound own secondOwn isOpen secondOpen
    have one := openManualAction_of_open found own isOpen
    rw [openManualAction_of_open secondFound secondOwn secondOpen, Option.some.injEq] at one
    exact one.symm
  · intro requestId action found own isOpen
    exact sound.waiting action (openManualAction_of_open found own isOpen)
  · intro requestId action found own leased
    have isOpen : action.isOpen = true := by
      simp [MakerActorManualActionSnapshot.isOpen, leased]
    have opened := openManualAction_of_open found own isOpen
    obtain ⟨row, stands, _⟩ := sound.waiting action opened
    obtain ⟨running, owned, generation, _⟩ := sound.attached action row opened stands leased
    exact ⟨row, stands, running, owned, generation⟩

/-- Whoever calls, leases are numbered one by one and only the last one that stands is worth anything;
    the owner's actions follow it, and what is closed or done stays so. -/
theorem actor_leases_fenced (idle : start.store.Idle) (run : Run Scheduler.Step start history scheduler) :
    (∀ swapId, SwapFenced scheduler.store swapId) ∧
    (∀ event next, scheduler.Step event next → CallFenced scheduler.store event next.store) ∧
    ∀ later final, Run Scheduler.Step scheduler later final → Absorbs scheduler.store final.store := by
  have sound := run_sound idle run
  refine ⟨fun swapId => sound_fences (sound swapId), fun event next step => step_fences sound step, ?_⟩
  exact fun later final more => run_absorbs more

def replacedCalls : List (Nat × ActorCall) :=
  [(0, .claimManualAction askedLease),
    (5, .recoverAbandoned askedLease ⟨sampleSwap.id, sampleManifest.stateDatabasePath, true, true⟩ ⟨8, by decide⟩)]

def replaced : Scheduler := (replay Scheduler.advance asked replacedCalls).1

theorem actor_leases_fenced_sample : (replaced.store.seat sampleSwap.id).generation = 2 ∧
      (replaced.advance (1, .resolveAttempt askedLease .terminal)).1.store = replaced.store := by
  have run := (run_replay advance_step sampleStart askedThenLeased).append
    (run_replay advance_step asked replacedCalls)
  have fenced := (actor_leases_fenced ⟨rfl, rfl, rfl⟩ run).2.1 _ _
    (advance_step replaced (1, .resolveAttempt askedLease .terminal))
  have generation : (replaced.store.seat sampleSwap.id).generation = 2 := by decide +kernel
  refine ⟨generation, (fenced.stale askedLease ?_ fun current => ?_).2⟩
  · decide +kernel
  · have stale := Seat.Holds.generation current
    exact absurd (generation.symm.trans stale) (by decide)

end Runs

end AtomicSwaps.Maker
