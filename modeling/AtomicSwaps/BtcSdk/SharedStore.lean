import AtomicSwaps.BtcSdk.Records

namespace AtomicSwaps.BtcSdk

open AtomicSwaps.Core Fallible Transition BtcLifecycleRecordV1

section Store

deriving instance DecidableEq for BtcLifecycleRecordV1

def BtcLifecycleRecordV1.key (record : BtcLifecycleRecordV1) : Identifier × Participant :=
  (record.swapId, record.localParticipant)

inductive BtcLifecycleStoreCreateV1
  | created
  | existingSame
  | conflict

inductive BtcLifecycleStoreCompareExchangeV1
  | applied
  | existingSame
  | conflict (actualRevision : Option Nat)

inductive InMemoryBtcLifecycleStoreError
  | invalidReplacement

abbrev InMemoryBtcLifecycleStore := List BtcLifecycleRecordV1

namespace InMemoryBtcLifecycleStore

variable (store : InMemoryBtcLifecycleStore)

def create (record : BtcLifecycleRecordV1) :
    Except InMemoryBtcLifecycleStoreError (BtcLifecycleStoreCreateV1 × InMemoryBtcLifecycleStore) := do
  ensure (record.revision = 0) .invalidReplacement
  match store.find? (·.key = record.key) with
  | some existing => return (if existing = record then .existingSame else .conflict, store)
  | none => return (.created, store ++ [record])

def load (swapId : Identifier) (localParticipant : Participant) : Option BtcLifecycleRecordV1 :=
  store.find? (·.key = (swapId, localParticipant))

def compareExchange (current replacement : BtcLifecycleRecordV1) :
    Except InMemoryBtcLifecycleStoreError (BtcLifecycleStoreCompareExchangeV1 × InMemoryBtcLifecycleStore) := do
  ensure (current.key = replacement.key ∧ replacement.revision = min (current.revision + 1) (2 ^ 64 - 1))
    .invalidReplacement
  match store.findIdx? (·.key = current.key) with
  | none => return (.conflict none, store)
  | some index =>
    if store[index]? = some replacement then return (.existingSame, store)
    else if store[index]? ≠ some current then return (.conflict (store[index]?.map (·.revision)), store)
    else return (.applied, store.set index replacement)

end InMemoryBtcLifecycleStore

end Store

section Clients

variable (lib : Libraries) (codec : Codec)

inductive StoredLifecycleError
  | protocol (error : BtcSdkError)
  | lifecycleCodec (error : BtcLifecycleCodecError)
  | lifecyclePersistenceUnavailable
  | lifecycleNotActivated
  | lifecycleStoreConflict

abbrev StoredResult (α : Type) := Except StoredLifecycleError α

def BtcPairSdk.activateStored (sdk : BtcPairSdk) (accepted : AcceptedBtcAgreementV1 lib)
    (prepared : BtcPreparedProtocolV1 lib) (store : InMemoryBtcLifecycleStore) :
    StoredResult (ActiveBtcSwap lib × InMemoryBtcLifecycleStore) := do
  let active ← (sdk.activatePrepared accepted prepared).mapError .protocol
  let record ← (fromActive lib codec active).mapError .lifecycleCodec
  let (outcome, next) ← (store.create record).mapError fun _ => .lifecyclePersistenceUnavailable
  match outcome with
  | .created | .existingSame => return (active, next)
  | .conflict => .error .lifecycleStoreConflict

/-- The access to the store that a call of `apply_transition` takes next. -/
inductive Access
  | load
  | compareExchange (current replacement : BtcLifecycleRecordV1) (outcome : BtcLifecycleTransitionOutcomeV1)
  | reload

/-- What a call waits for next, or its answer. -/
abbrev Progress := Access ⊕ BtcLifecycleTransitionOutcomeV1

structure ApplyCall where
  sdk : BtcPairSdk
  swapId : Identifier
  transition : BtcLifecycleTransitionV1 lib
  access : Access

variable {lib} (call : ApplyCall lib) (store : InMemoryBtcLifecycleStore)

def ApplyCall.resume (missing : StoredLifecycleError) : StoredResult (BtcLifecycleRecordV1 × ActiveBtcSwap lib) := do
  let record ← required (store.load call.swapId call.sdk.localParticipant) missing
  let envelope ← (record.decode lib codec).mapError .lifecycleCodec
  let active ← (call.sdk.resume envelope).mapError .protocol
  return (record, active)

def ApplyCall.loads : StoredResult Progress := do
  let (current, active) ← call.resume codec store .lifecycleNotActivated
  let (outcome, next) ← (active.applyTransition call.transition).mapError .protocol
  match outcome with
  | .alreadyApplied _ => return .inr outcome
  | .applied _ =>
    let replacement ← (fromActive lib codec next).mapError .lifecycleCodec
    return .inl (.compareExchange current replacement outcome)

def ApplyCall.reloads : StoredResult Progress := do
  let (_, winner) ← call.resume codec store .lifecycleStoreConflict
  match winner.applyTransition call.transition with
  | .ok (.alreadyApplied revision, _) => return .inr (.alreadyApplied revision)
  | _ => .error .lifecycleStoreConflict

/-- `apply_transition` over one atomic access to the store, up to the next access or to its answer. -/
def ApplyCall.advance : StoredResult Progress × InMemoryBtcLifecycleStore :=
  match call.access with
  | .load => (call.loads codec store, store)
  | .compareExchange current replacement outcome => match store.compareExchange current replacement with
    | .error _ => (.error .lifecyclePersistenceUnavailable, store)
    | .ok (.conflict _, next) => (.ok (.inl .reload), next)
    | .ok (_, next) => (.ok (.inr outcome), next)
  | .reload => (call.reloads codec store, store)

variable (lib)

structure Clients where
  store : InMemoryBtcLifecycleStore
  calls : List (ApplyCall lib)

/-- What happens next. A call whose process ends, or that the store fails, is not advanced again. -/
inductive Turn
  | activate (sdk : BtcPairSdk) (accepted : AcceptedBtcAgreementV1 lib) (prepared : BtcPreparedProtocolV1 lib)
  | call (sdk : BtcPairSdk) (swapId : Identifier) (transition : BtcLifecycleTransitionV1 lib)
  | advance (index : Nat)

abbrev Returned := Option (ApplyCall lib × BtcLifecycleTransitionOutcomeV1)

variable {lib}

/-- One turn, and what a call returns in it. -/
def Clients.turn (clients : Clients lib) : Turn lib → Clients lib × Returned lib
  | .activate sdk accepted prepared => match sdk.activateStored lib codec accepted prepared clients.store with
    | .ok (_, store) => ({ clients with store }, none)
    | .error _ => (clients, none)
  | .call sdk swapId transition =>
    ({ clients with calls := clients.calls ++ [⟨sdk, swapId, transition, .load⟩] }, none)
  | .advance index => match clients.calls[index]? with
    | none => (clients, none)
    | some call => match call.advance codec clients.store with
      | (.ok (.inl access), store) => (⟨store, clients.calls.set index { call with access }⟩, none)
      | (.ok (.inr outcome), store) => (⟨store, clients.calls.eraseIdx index⟩, some (call, outcome))
      | (.error _, store) => (⟨store, clients.calls.eraseIdx index⟩, none)

end Clients

section Logs

variable {lib : Libraries} (codec : Codec)

def BtcLifecycleRecordV1.log (record : BtcLifecycleRecordV1) : Option (List (BtcLifecycleTransitionV1 lib)) :=
  (record.decode lib codec).toOption.map (·.transitions)

def BtcLifecycleTransitionOutcomeV1.revision : BtcLifecycleTransitionOutcomeV1 → Nat
  | .applied revision | .alreadyApplied revision => revision

structure BtcLifecycleRecordV1.Valid (record : BtcLifecycleRecordV1) (log : List (BtcLifecycleTransitionV1 lib)) :
    Prop where
  accepted : fromExactBytes lib codec record.exactBytes = .ok record
  decoded : record.log codec = some log
  once : log.Nodup
  counted : record.revision = log.length

/-- What the JSON library writes, it reads back. -/
def Codec.Faithful : Prop := ∀ durable, codec.toVec durable ≠ [] → codec.parse (codec.toVec durable) = some durable

/-- What one access may do to a log: nothing, open it empty, or append one entry. -/
inductive Grows {α : Type} : Option (List α) → Option (List α) → Prop
  | same {log : Option (List α)} : Grows log log
  | opened : Grows none (some [])
  | appended {log : List α} {entry : α} : Grows (some log) (some (log ++ [entry]))

namespace InMemoryBtcLifecycleStore

variable (store : InMemoryBtcLifecycleStore)

def log (swapId : Identifier) (localParticipant : Participant) : Option (List (BtcLifecycleTransitionV1 lib)) :=
  (store.load swapId localParticipant).bind (·.log codec)

variable (lib)

def Sound : Prop := ∀ record ∈ store, ∃ log : List (BtcLifecycleTransitionV1 lib), record.Valid codec log

def GrowsTo (after : InMemoryBtcLifecycleStore) : Prop :=
  ∀ swapId localParticipant, Grows (store.log codec swapId localParticipant :
    Option (List (BtcLifecycleTransitionV1 lib)))
    (after.log codec swapId localParticipant)

end InMemoryBtcLifecycleStore

/-- Entry `revision` of the durable log is the submitted transition. -/
def Recorded (store : InMemoryBtcLifecycleStore) (call : ApplyCall lib) (outcome : BtcLifecycleTransitionOutcomeV1) :
    Prop :=
  ∃ log position, store.log codec call.swapId call.sdk.localParticipant = some log ∧
    outcome.revision = position + 1 ∧ log[position]? = some call.transition

def ApplyCall.Sound (call : ApplyCall lib) : Prop :=
  match call.access with
  | .compareExchange current replacement outcome => ∃ log, current.Valid codec log ∧
      replacement.Valid codec (log ++ [call.transition]) ∧
      current.key = (call.swapId, call.sdk.localParticipant) ∧ outcome = .applied (log.length + 1)
  | _ => True

/-- A call waits for a sound access, or has returned what is recorded. -/
def ApplyCall.Stands (call : ApplyCall lib) (store : InMemoryBtcLifecycleStore) :
    Progress → Prop
  | .inl access => { call with access }.Sound codec
  | .inr outcome => Recorded codec store call outcome

structure Clients.Sound (clients : Clients lib) : Prop where
  store : clients.store.Sound lib codec
  calls : ∀ call ∈ clients.calls, call.Sound codec

def Clients.Step (clients : Clients lib) (returned : Returned lib) (next : Clients lib) : Prop :=
  ∃ turn, clients.turn codec turn = (next, returned)

variable {codec} {record current replacement : BtcLifecycleRecordV1} {active : ActiveBtcSwap lib}
  {log : List (BtcLifecycleTransitionV1 lib)} {sdk : BtcPairSdk} {envelope : BtcActiveSwapEnvelopeV1 lib}
  {store after : InMemoryBtcLifecycleStore} {call : ApplyCall lib} {clients : Clients lib}
  {progress : Progress}

theorem Grows.entry {α : Type} {before later : Option (List α)} {log : List α} {entry : α} {position : Nat}
    (grows : Grows before later) (held : before = some log) (found : log[position]? = some entry) :
    ∃ longer, later = some longer ∧ longer[position]? = some entry := by
  cases grows with
  | same => exact ⟨log, held, found⟩
  | opened => cases held
  | appended =>
    cases held
    have inside := (List.getElem?_eq_some_iff.mp found).1
    exact ⟨_, rfl, by rw [List.getElem?_append_left inside, found]⟩

theorem resume_log (resumed : sdk.resume envelope = .ok active) (once : envelope.transitions.Nodup) :
    active.transitions = envelope.transitions ∧ active.revision = envelope.transitions.length := by
  obtain ⟨_, start, zero, unused, _, _, _, _, replayed⟩ := resume_ok resumed
  have replays := Replays.run zero unused (run_of_replay replayed)
  have entries := (replay_log replayed (by rw [unused]; exact List.nodup_nil)).2.2
  rw [unused, List.nil_append] at entries
  rw [replays.counted, entries once]
  exact ⟨rfl, rfl⟩

theorem fromActive_valid (faithful : codec.Faithful)
    (made : fromActive lib codec active = .ok record)
    (counted : active.revision = active.transitions.length) (once : active.transitions.Nodup) :
    record.Valid codec active.transitions := by
  have accepted := made
  simp only [fromActive, fromExactBytes, checked_ok, required_ok_iff,
    pure_ok] at made
  obtain ⟨⟨written, _⟩, durable, parsed, schema, _, envelope, into, resumed, again, rfl⟩ := made
  cases (faithful _ written).symm.trans parsed
  simp only [resumeOwn, bind_ok_iff, mapError_ok_iff] at again
  obtain ⟨_, _, again⟩ := again
  obtain ⟨revision, shape⟩ := intoEnvelope_ok schema into
  have revision : envelope.revision = active.revision := revision
  -- A record without a preparation loses its log, and is then refused unless the log was empty.
  have entries : envelope.transitions = active.transitions := by
    rcases shape with ⟨_, dropped, _⟩ | ⟨_, stored, _⟩
    · have length := (resume_ok again).1
      rw [revision, counted, dropped, List.length_nil] at length
      rw [dropped, List.length_eq_zero_iff.mp length]
    · exact transitions_mirrors.injective stored
  have restored := resume_log again (entries ▸ once)
  refine ⟨accepted, ?_, once, ?_⟩
  · simp only [BtcLifecycleRecordV1.log, decode, parsed, required, ok_bind, into,
      Except.toOption, Option.map_some, entries]
  · rw [← entries]
    exact restored.2

theorem find?_set {α Key : Type} [DecidableEq Key] {key : α → Key} {items : List α} {item : α} {index : Nat}
    {own : Key} (located : items.findIdx? (key · = own) = some index) (same : key item = own) (other : Key) :
    (items.set index item).find? (key · = other) =
      if own = other then some item else items.find? (key · = other) := by
  induction items generalizing index with
  | nil => cases located
  | cons first rest tail =>
    rw [List.findIdx?_cons] at located
    split at located
    · cases located
      grind
    · obtain ⟨position, found, rfl⟩ := Option.map_eq_some_iff.mp located
      rw [List.set_cons_succ, List.find?_cons, List.find?_cons, tail found]
      grind

theorem known_recorded {index : Nat} (read : store.log codec call.swapId call.sdk.localParticipant = some log)
    (entries : active.transitions = log) (found : active.transitions.findIdx? (· = call.transition) = some index) :
    Recorded codec store call (.alreadyApplied (index + 1)) := by
  obtain ⟨inside, same, _⟩ := List.findIdx?_eq_some_iff_getElem.mp found
  subst entries
  exact ⟨_, index, read, rfl, (List.getElem?_eq_getElem inside).trans (congrArg some (of_decide_eq_true same))⟩

section Kept

variable (sound : store.Sound lib codec)
include sound

theorem resume_valid {missing : StoredLifecycleError}
    (resumed : call.resume codec store missing = .ok (record, active)) :
    ∃ log, record.Valid codec log ∧ record.key = (call.swapId, call.sdk.localParticipant) ∧
      store.log codec call.swapId call.sdk.localParticipant = some log ∧ active.transitions = log ∧
      active.revision = log.length := by
  simp only [ApplyCall.resume, bind_ok_iff, required_ok_iff, mapError_ok_iff, pure_ok, Prod.mk.injEq] at resumed
  obtain ⟨_, loaded, envelope, decoded, _, resumed, rfl, rfl⟩ := resumed
  obtain ⟨log, valid⟩ := sound _ (List.mem_of_find?_eq_some loaded)
  have key := List.find?_some loaded
  have same := valid.decoded
  rw [BtcLifecycleRecordV1.log, decoded] at same
  cases same
  refine ⟨_, valid, of_decide_eq_true key, ?_, resume_log resumed valid.once⟩
  rw [InMemoryBtcLifecycleStore.log, loaded]
  exact valid.decoded

theorem create_grows {outcome : BtcLifecycleStoreCreateV1} {log : List (BtcLifecycleTransitionV1 lib)}
    (valid : record.Valid codec log) (empty : log = [])
    (created : store.create record = .ok (outcome, after)) :
    after.Sound lib codec ∧ store.GrowsTo lib codec after := by
  subst empty
  simp only [InMemoryBtcLifecycleStore.create, checked_ok] at created
  obtain ⟨_, created⟩ := created
  split at created
  · cases created
    exact ⟨sound, fun _ _ => .same⟩
  · rename_i absent
    cases created
    constructor
    · intro stored member
      rcases List.mem_append.mp member with old | new
      · exact sound stored old
      · exact ⟨[], List.mem_singleton.mp new ▸ valid⟩
    · intro swapId localParticipant
      simp only [InMemoryBtcLifecycleStore.log, InMemoryBtcLifecycleStore.load, List.find?_append,
        List.find?_singleton]
      by_cases own : record.key = (swapId, localParticipant)
      · rw [own] at absent
        simp only [absent, own, decide_true, if_true, Option.none_or, Option.bind_some, Option.bind_none,
          valid.decoded]
        exact .opened
      · simp only [own, decide_false, Bool.false_eq_true, if_false, Option.or_none]
        exact .same

theorem compareExchange_grows {outcome : BtcLifecycleStoreCompareExchangeV1}
    {entry : BtcLifecycleTransitionV1 lib} (old : current.Valid codec log)
    (new : replacement.Valid codec (log ++ [entry]))
    (exchanged : store.compareExchange current replacement = .ok (outcome, after)) :
    after.Sound lib codec ∧ store.GrowsTo lib codec after ∧
      ((∃ actual, outcome = .conflict actual) ∨ after.load current.key.1 current.key.2 = some replacement) := by
  simp only [InMemoryBtcLifecycleStore.compareExchange, checked_ok] at exchanged
  obtain ⟨⟨key, _⟩, exchanged⟩ := exchanged
  split at exchanged
  · cases exchanged
    exact ⟨sound, fun _ _ => .same, .inl ⟨_, rfl⟩⟩
  · rename_i index located
    have holds : store.find? (·.key = current.key) = store[index]? := by
      rw [List.find?_eq_bind_findIdx?_getElem?, located, Option.bind_some]
    split at exchanged
    · rename_i same
      cases exchanged
      exact ⟨sound, fun _ _ => .same, .inr (holds.trans same)⟩
    · split at exchanged
      · cases exchanged
        exact ⟨sound, fun _ _ => .same, .inl ⟨_, rfl⟩⟩
      · rename_i unchanged
        cases exchanged
        have reads := find?_set located key.symm
        refine ⟨fun stored member => ?_, fun swapId localParticipant => ?_, .inr ((reads _).trans (if_pos rfl))⟩
        · rcases List.mem_or_eq_of_mem_set member with kept | rfl
          · exact sound stored kept
          · exact ⟨_, new⟩
        · simp only [InMemoryBtcLifecycleStore.log, InMemoryBtcLifecycleStore.load, reads]
          split
          · rename_i own
            rw [← own, holds, Decidable.not_not.mp unchanged]
            simp only [Option.bind_some, old.decoded, new.decoded]
            exact .appended
          · exact .same

theorem loads_stands (faithful : codec.Faithful) (loaded : call.loads codec store = .ok progress) :
    call.Stands codec store progress := by
  simp only [ApplyCall.loads, bind_ok_iff, mapError_ok_iff, Prod.exists] at loaded
  obtain ⟨current, active, resumed, outcome, next, applied, loaded⟩ := loaded
  obtain ⟨log, valid, key, read, entries, revision⟩ := resume_valid sound resumed
  rcases applyTransition_ok applied with ⟨index, found, rfl, rfl⟩ | ⟨fresh, _, rfl, coordinator, _, rfl⟩
  · cases loaded
    exact known_recorded read entries found
  · simp only [bind_ok_iff, mapError_ok_iff, pure_ok] at loaded
    obtain ⟨replacement, made, rfl⟩ := loaded
    subst entries
    have once : (active.transitions ++ [call.transition]).Nodup := by
      rw [List.nodup_append]
      refine ⟨valid.once, List.nodup_singleton _, fun entry member last single same => ?_⟩
      exact fresh (List.mem_singleton.mp single ▸ same ▸ member)
    have counted : active.revision + 1 = (active.transitions ++ [call.transition]).length := by
      rw [revision, List.length_append]
      rfl
    exact ⟨_, valid, fromActive_valid faithful made counted once, key, by rw [revision]⟩

theorem reloads_stands (reloaded : call.reloads codec store = .ok progress) : call.Stands codec store progress := by
  simp only [ApplyCall.reloads, bind_ok_iff, Prod.exists] at reloaded
  obtain ⟨_, winner, resumed, reloaded⟩ := reloaded
  obtain ⟨log, _, _, read, entries, _⟩ := resume_valid sound resumed
  split at reloaded
  · rename_i revision after applied
    cases reloaded
    rcases applyTransition_ok applied with ⟨index, found, same, _⟩ | ⟨_, _, other, _⟩
    · cases same
      exact known_recorded read entries found
    · cases other
  · cases reloaded

theorem advance_stands {result : StoredResult Progress}
    (faithful : codec.Faithful) (ready : call.Sound codec)
    (advanced : call.advance codec store = (result, after)) :
    after.Sound lib codec ∧ store.GrowsTo lib codec after ∧
      ∀ progress, result = .ok progress → call.Stands codec after progress := by
  unfold ApplyCall.advance at advanced
  unfold ApplyCall.Sound at ready
  split at advanced
  · cases advanced
    exact ⟨sound, fun _ _ => .same, fun _ => loads_stands sound faithful⟩
  · rename_i current replacement outcome waits
    rw [waits] at ready
    obtain ⟨log, old, new, key, rfl⟩ := ready
    split at advanced <;> rename_i exchanged <;> cases advanced
    · exact ⟨sound, fun _ _ => .same, nofun⟩
    · obtain ⟨kept, grows, _⟩ := compareExchange_grows sound old new exchanged
      refine ⟨kept, grows, fun progress same => ?_⟩
      cases same
      trivial
    · rename_i other
      obtain ⟨kept, grows, ⟨actual, same⟩ | won⟩ := compareExchange_grows sound old new exchanged
      · exact absurd same (other actual)
      · refine ⟨kept, grows, fun progress same => ?_⟩
        cases same
        rw [key] at won
        refine ⟨_, _, ?_, rfl, List.getElem?_concat_length⟩
        rw [InMemoryBtcLifecycleStore.log, won]
        exact new.decoded
  · cases advanced
    exact ⟨sound, fun _ _ => .same, fun _ => reloads_stands sound⟩

theorem activateStored_grows {accepted : AcceptedBtcAgreementV1 lib} {prepared : BtcPreparedProtocolV1 lib}
    (faithful : codec.Faithful)
    (activated : sdk.activateStored lib codec accepted prepared store = .ok (active, after)) :
    after.Sound lib codec ∧ store.GrowsTo lib codec after := by
  simp only [BtcPairSdk.activateStored, bind_ok_iff, mapError_ok_iff, Prod.exists] at activated
  obtain ⟨start, opened, record, made, outcome, next, created, activated⟩ := activated
  obtain ⟨_, _, _, rfl⟩ := activatePrepared_ok opened
  have kept := create_grows sound (fromActive_valid faithful made rfl List.nodup_nil) rfl created
  split at activated
  · exact (Prod.mk.inj (pure_ok.mp activated)).2 ▸ kept
  · exact (Prod.mk.inj (pure_ok.mp activated)).2 ▸ kept
  · cases activated

end Kept

theorem turn_kept (faithful : codec.Faithful) (sound : clients.Sound codec) (turn : Turn lib) :
    (clients.turn codec turn).1.Sound codec ∧
      clients.store.GrowsTo lib codec (clients.turn codec turn).1.store ∧
      ∀ call outcome, (clients.turn codec turn).2 = some (call, outcome) →
        Recorded codec (clients.turn codec turn).1.store call outcome := by
  cases turn with
  | activate sdk accepted prepared =>
    unfold Clients.turn
    dsimp only
    split
    · rename_i activated
      obtain ⟨stored, grows⟩ := activateStored_grows sound.store faithful activated
      exact ⟨⟨stored, sound.calls⟩, grows, fun _ _ none => nomatch none⟩
    · exact ⟨sound, fun _ _ => .same, fun _ _ none => nomatch none⟩
  | call sdk swapId transition =>
    refine ⟨⟨sound.store, fun call member => ?_⟩, fun _ _ => .same, fun _ _ none => nomatch none⟩
    rcases List.mem_append.mp member with old | new
    · exact sound.calls call old
    · rw [List.mem_singleton.mp new]
      trivial
  | advance index =>
    unfold Clients.turn
    dsimp only
    split
    · exact ⟨sound, fun _ _ => .same, fun _ _ none => nomatch none⟩
    · rename_i call found
      have ready := sound.calls call (List.mem_of_getElem? found)
      have fewer : ∀ other ∈ clients.calls.eraseIdx index, other.Sound codec :=
        fun other member => sound.calls other (List.mem_of_mem_eraseIdx member)
      split <;> rename_i advanced <;>
        obtain ⟨stored, grows, stands⟩ := advance_stands sound.store faithful ready advanced
      · refine ⟨⟨stored, fun other member => ?_⟩, grows, fun _ _ none => nomatch none⟩
        rcases List.mem_or_eq_of_mem_set member with old | rfl
        · exact sound.calls other old
        · exact stands _ rfl
      · refine ⟨⟨stored, fewer⟩, grows, fun call outcome same => ?_⟩
        cases same
        exact stands _ rfl
      · exact ⟨⟨stored, fewer⟩, grows, fun _ _ none => nomatch none⟩

theorem run_recorded {history : List (Returned lib)} (faithful : codec.Faithful)
    (run : Run (Clients.Step codec) ⟨[], []⟩ history clients) :
    clients.Sound codec ∧
      ∀ call outcome, some (call, outcome) ∈ history → Recorded codec clients.store call outcome := by
  induction run with
  | nil => exact ⟨⟨fun _ none => (nomatch none), fun _ none => (nomatch none)⟩, fun _ _ none => (nomatch none)⟩
  | snoc _ step earlier =>
    obtain ⟨turn, turned⟩ := step
    have kept := turn_kept faithful earlier.1 turn
    rw [turned] at kept
    refine ⟨kept.1, fun call outcome member => ?_⟩
    rcases List.mem_append.mp member with old | last
    · obtain ⟨log, position, read, named, found⟩ := earlier.2 call outcome old
      obtain ⟨longer, grown, kept⟩ := (kept.2.1 _ _).entry read found
      exact ⟨longer, position, grown, named, kept⟩
    · exact kept.2.2 call outcome (List.mem_singleton.mp last).symm

theorem concurrent_writers_lose_nothing (faithful : codec.Faithful) (turns : List (Turn lib)) :
    let (reached, history) := replay (Clients.turn codec) ⟨[], []⟩ turns
    -- Each stored record is accepted as it is, with a log of its revision's length that repeats nothing.
    (∀ record ∈ reached.store, fromExactBytes lib codec record.exactBytes = .ok record ∧
      ∃ log : List (BtcLifecycleTransitionV1 lib), record.log codec = some log ∧ log.Nodup ∧
        record.revision = log.length) ∧
    (∀ turn, reached.store.GrowsTo lib codec (reached.turn codec turn).1.store) ∧
    ∀ call outcome, some (call, outcome) ∈ history → Recorded codec reached.store call outcome := by
  have run : Run (Clients.Step codec) ⟨[], []⟩ (replay (Clients.turn codec) ⟨[], []⟩ turns).2
      (replay (Clients.turn codec) ⟨[], []⟩ turns).1 := run_replay (fun _ turn => ⟨turn, rfl⟩) _ turns
  obtain ⟨sound, answers⟩ := run_recorded faithful run
  refine ⟨fun record member => ?_, fun turn => (turn_kept faithful sound turn).2.1, answers⟩
  obtain ⟨log, valid⟩ := sound.store record member
  exact ⟨valid.accepted, log, valid.decoded, valid.once, valid.counted⟩

def sampleKnown : List DurableRecordV1 := [sampleStored [], sampleStored [sampleFirstLock sampleLezFunding]]

/-- Writes the records it can read back, and nothing else. -/
def sampleShared : Codec :=
  { sampleReader sampleKnown with toVec := fun durable => if durable ∈ sampleKnown then durable.json else [] }

theorem sampleShared_faithful : sampleShared.Faithful := by
  have reads : ∀ durable ∈ sampleKnown, (sampleReader sampleKnown).parse durable.json = some durable := by
    decide +kernel
  intro durable written
  dsimp only [sampleShared] at written ⊢
  split
  · rename_i known
    exact reads durable known
  · rename_i unknown
    exact absurd (if_neg unknown) written

def sampleTurns : List (Turn sampleLib) :=
  [.activate sampleSdk sampleAccepted (sampleProtocol.toOption.get sampleProtocol_some),
    .call sampleSdk sampleAgreement.swapId (sampleFirstLock sampleLezFunding),
    .call sampleSdk sampleAgreement.swapId (sampleFirstLock sampleLezFunding),
    .advance 0, .advance 1, .advance 0, .advance 0]

/-- Two clients load, then exchange the same lock: both are told that it is entry one. -/
theorem concurrent_writers_lose_nothing_sample :
    let (reached, history) := replay (Clients.turn sampleShared) ⟨[], []⟩ sampleTurns
    (history.filterMap id).map (·.2.revision) = [1, 1] ∧
      ∀ call outcome, some (call, outcome) ∈ history → Recorded sampleShared reached.store call outcome :=
  ⟨by decide +kernel, (concurrent_writers_lose_nothing sampleShared_faithful sampleTurns).2.2⟩

end Logs

end AtomicSwaps.BtcSdk
