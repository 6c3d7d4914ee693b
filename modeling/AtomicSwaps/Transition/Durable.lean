import AtomicSwaps.Transition.Program

/-- What ends a program before its result: an error it reports, or the end of its process. -/
inductive Stop (ε : Type)
  | failed (error : ε)
  | cut

/-- A durable state and the operations its process still lives to perform; `none` sets no end. -/
structure Session (State : Type) where
  state : State
  life : Option Nat

/-- A program that works on durable state and can be cut before each of its operations. -/
abbrev Durable (State ε : Type) : Type → Type := Program (Session State) (Stop ε)

namespace Durable

open Program

variable {State ε α β : Type} {holds : State → Prop} {value : Except ε α} {change : State → State}
  {state : State}

def read : Durable State ε State := fun session => (.ok session.state, session)

/-- One operation that is either done whole or not at all. -/
def commit (change : State → State) : Durable State ε Unit := fun session =>
  match session.life with
  | none => (.ok (), ⟨change session.state, none⟩)
  | some 0 => (.error .cut, session)
  | some (life + 1) => (.ok (), ⟨change session.state, some life⟩)

/-- A result computed without touching anything durable. -/
def check (value : Except ε α) : Durable State ε α := lift (value.mapError .failed)

/-- A result computed from the durable state as it stands. -/
def load (value : State → Except ε α) : Durable State ε α := fun session =>
  check (value session.state) session

/-- Work that is left out where it is not needed. -/
def onlyIf (condition : Prop) [Decidable condition] (work : Durable State ε Unit) : Durable State ε Unit :=
  if condition then work else pure ()

/-- Work whose end is drawn apart from the count: it is done whole, or the attempt ends before it. -/
def granted (drawn : Bool) (work : Durable State ε α) : Durable State ε α := fun session =>
  if drawn then ((work ⟨session.state, none⟩).1, ⟨(work ⟨session.state, none⟩).2.state, session.life⟩)
  else (.error .cut, session)

/-- A program on one part of a larger state, which shares its process. -/
def within {Whole : Type} (get : Whole → State) (set : State → Whole → Whole) (program : Durable State ε α) :
    Durable Whole ε α := fun session =>
  let ran := program ⟨get session.state, session.life⟩
  (ran.1, ⟨set ran.2.state session.state, ran.2.life⟩)

def run (program : Durable State ε α) (life : Option Nat) (state : State) : Except (Stop ε) α × State :=
  ((program ⟨state, life⟩).1, (program ⟨state, life⟩).2.state)

theorem run_eq {program : Durable State ε α} {life remaining : Option Nat} {reached : State}
    {result : Except (Stop ε) α} (ran : program ⟨state, life⟩ = (result, ⟨reached, remaining⟩)) :
    program.run life state = (result, reached) := by
  unfold run
  rw [ran]

theorem read_bind {next : State → Durable State ε β} {life : Option Nat} :
    (read >>= next) ⟨state, life⟩ = next state ⟨state, life⟩ := rfl

theorem commit_uncut (change : State → State) (state : State) :
    (commit change : Durable State ε Unit) ⟨state, none⟩ = (.ok (), ⟨change state, none⟩) := rfl

theorem check_ok {result : α} (checked : value = .ok result)
    (session : Session State) : check value session = (.ok result, session) := by
  rw [checked]
  rfl

theorem check_error {error : ε} (checked : value = .error error)
    (session : Session State) : check value session = (.error (.failed error), session) := by
  rw [checked]
  rfl

/-- What is true of the durable state after an attempt from this session, wherever it is cut. -/
def Leaves (holds : State → Prop) (program : Durable State ε α) (session : Session State) : Prop :=
  holds (program session).2.state

/-- What every attempt preserves. -/
def Keeps (holds : State → Prop) (program : Durable State ε α) : Prop :=
  ∀ session, holds session.state → Leaves holds program session

variable {program : Durable State ε α} {next : α → Durable State ε β} {session : Session State}

theorem Keeps.run (kept : Keeps holds program) (life : Option Nat)
    (before : holds state) : holds (program.run life state).2 :=
  kept ⟨state, life⟩ before

theorem leaves_bind (first : Leaves holds program session)
    (rest : ∀ value reached, program session = (.ok value, reached) → holds reached.state →
      Leaves holds (next value) reached) : Leaves holds (program >>= next) session := by
  unfold Leaves at *
  match ran : program session with
  | (.ok value, reached) =>
    rw [bind_run ran]
    rw [ran] at first
    exact rest value reached ran first
  | (.error error, reached) =>
    rw [bind_run_error ran]
    rw [ran] at first
    exact first

theorem leaves_commit (before : holds session.state) (after : holds (change session.state)) :
    Leaves holds (commit change : Durable State ε Unit) session := by
  unfold Leaves commit
  split
  · exact after
  · exact before
  · exact after

theorem leaves_read_bind {next : State → Durable State ε β}
    (rest : Leaves holds (next session.state) session) : Leaves holds (read >>= next) session :=
  rest

theorem leaves_check_bind (before : holds session.state)
    (rest : ∀ result, value = .ok result → Leaves holds (next result) session) :
    Leaves holds (check value >>= next) session := by
  cases value with
  | error error => exact before
  | ok result => exact rest result rfl

theorem leaves_load_bind {value : State → Except ε α} (before : holds session.state)
    (rest : ∀ result, value session.state = .ok result → Leaves holds (next result) session) :
    Leaves holds (load value >>= next) session :=
  leaves_check_bind before rest

theorem keeps_bind (first : Keeps holds program) (rest : ∀ value, Keeps holds (next value)) :
    Keeps holds (program >>= next) :=
  fun session before => leaves_bind (first session before) fun value reached _ held =>
    rest value reached held

theorem keeps_commit (kept : ∀ state, holds state → holds (change state)) :
    Keeps holds (commit change : Durable State ε Unit) :=
  fun session before => leaves_commit before (kept session.state before)

theorem keeps_check (value : Except ε α) : Keeps holds (check value : Durable State ε α) :=
  fun _ before => before

theorem keeps_load (value : State → Except ε α) : Keeps holds (load value : Durable State ε α) :=
  fun _ before => before

theorem leaves_granted {drawn : Bool} (denied : drawn = false → holds session.state)
    (done : drawn = true → Leaves holds program ⟨session.state, none⟩) :
    Leaves holds (granted drawn program) session := by
  cases drawn with
  | false => exact denied rfl
  | true => exact done rfl

theorem keeps_granted {drawn : Bool} (kept : Keeps holds program) : Keeps holds (granted drawn program) :=
  fun session before => leaves_granted (fun _ => before) fun _ => kept ⟨session.state, none⟩ before

theorem keeps_pure (value : α) : Keeps holds (pure value : Durable State ε α) :=
  fun _ before => before

theorem Leaves.mono (stronger : State → Prop) (implied : ∀ state, stronger state → holds state)
    (left : Leaves stronger program session) : Leaves holds program session :=
  implied _ left

/-- The first part may leave more than is asked for, which the rest can use. -/
theorem Leaves.bind {stronger : State → Prop} (first : Leaves stronger program session)
    (implied : ∀ state, stronger state → holds state)
    (rest : ∀ value reached, program session = (.ok value, reached) → stronger reached.state →
      Leaves holds (next value) reached) : Leaves holds (program >>= next) session := by
  refine leaves_bind (first.mono stronger implied) fun value reached ran _ => rest value reached ran ?_
  unfold Leaves at first
  rw [ran] at first
  exact first

section Still

variable {View : Type} {view : State → View}

/-- Wherever an attempt is cut, it has not touched this part of the state. -/
def Still (view : State → View) (program : Durable State ε α) : Prop :=
  ∀ session, view (program session).2.state = view session.state

theorem still_bind (first : Still view program) (rest : ∀ value, Still view (next value)) :
    Still view (program >>= next) := by
  intro session
  have before := first session
  match ran : program session with
  | (.ok value, reached) =>
    rw [bind_run ran]
    rw [ran] at before
    exact (rest value reached).trans before
  | (.error error, reached) =>
    rw [bind_run_error ran]
    rw [ran] at before
    exact before

theorem still_read : Still view (read : Durable State ε State) := fun _ => rfl

theorem still_load (value : State → Except ε α) : Still view (load value : Durable State ε α) :=
  fun _ => rfl

theorem still_check (value : Except ε α) : Still view (check value : Durable State ε α) := fun _ => rfl

theorem still_pure (value : α) : Still view (pure value : Durable State ε α) := fun _ => rfl

theorem still_commit {change : State → State} (untouched : ∀ state, view (change state) = view state) :
    Still view (commit change : Durable State ε Unit) := by
  intro session
  unfold commit
  split
  · exact untouched _
  · rfl
  · exact untouched _

theorem still_onlyIf {condition : Prop} [Decidable condition] {work : Durable State ε Unit}
    (still : Still view work) : Still view (onlyIf condition work) := by
  unfold onlyIf
  split
  · exact still
  · exact still_pure ()

theorem Still.keeps {part : View → Prop} (still : Still view program) :
    Keeps (fun state => part (view state)) program := by
  intro session before
  have same := still session
  unfold Leaves
  dsimp only
  rw [same]
  exact before

end Still

section Ends

variable {after : α → State → Prop} {ending : β → State → Prop} {change : State → State}

/-- What is true of the result and the durable state once an attempt from this session has succeeded. -/
def Ends (after : α → State → Prop) (program : Durable State ε α) (session : Session State) : Prop :=
  ∀ value reached, program session = (.ok value, reached) → after value reached.state

theorem Keeps.ends (kept : Keeps holds program) (before : holds session.state) :
    Ends (fun _ => holds) program session := by
  intro value reached ran
  have left := kept session before
  unfold Leaves at left
  rw [ran] at left
  exact left

theorem ends_pure {value : α} (held : after value session.state) :
    Ends after (pure value : Durable State ε α) session := by
  intro result reached ran
  cases ran
  exact held

theorem ends_bind (rest : ∀ value reached, program session = (.ok value, reached) →
    Ends ending (next value) reached) : Ends ending (program >>= next) session := by
  intro result reached ran
  obtain ⟨value, middle, first, second⟩ := bind_ok_run ran
  exact rest value middle first result reached second

theorem ends_read_bind {next : State → Durable State ε β}
    (rest : Ends ending (next session.state) session) : Ends ending (read >>= next) session :=
  rest

theorem ends_check {value : Except ε α} (held : ∀ result, value = .ok result → after result session.state) :
    Ends after (check value : Durable State ε α) session := by
  cases value with
  | error error =>
    intro result reached ran
    cases ran
  | ok result => exact ends_pure (held result rfl)

theorem ends_check_bind {value : Except ε α}
    (rest : ∀ result, value = .ok result → Ends ending (next result) session) :
    Ends ending (check value >>= next) session := by
  cases value with
  | error error =>
    intro result reached ran
    cases ran
  | ok result => exact rest result rfl

theorem ends_load_bind {value : State → Except ε α}
    (rest : ∀ result, value session.state = .ok result → Ends ending (next result) session) :
    Ends ending (load value >>= next) session :=
  ends_check_bind rest

theorem commit_ok {reached : Session State}
    (ran : (commit change : Durable State ε Unit) session = (.ok (), reached)) :
    reached.state = change session.state := by
  unfold commit at ran
  split at ran
  · cases ran
    rfl
  · cases ran
  · cases ran
    rfl

theorem ends_commit {after : Unit → State → Prop} (made : after () (change session.state)) :
    Ends after (commit change : Durable State ε Unit) session := by
  intro _ reached ran
  rw [commit_ok ran]
  exact made

theorem ends_commit_bind {next : Unit → Durable State ε β}
    (rest : ∀ reached : Session State, reached.state = change session.state →
      Ends ending (next ()) reached) : Ends ending (commit change >>= next) session :=
  ends_bind fun _ reached ran => rest reached (commit_ok ran)

/-- The state between a write and what follows it need not be as the whole leaves it. -/
theorem leaves_commit_bind {next : Unit → Durable State ε β} (before : holds session.state)
    (rest : ∀ reached : Session State, reached.state = change session.state →
      Leaves holds (next ()) reached) : Leaves holds (commit change >>= next) session := by
  unfold Leaves
  match ran : (commit change : Durable State ε Unit) session with
  | (.ok _, reached) =>
    rw [bind_run ran]
    exact rest reached (commit_ok ran)
  | (.error error, reached) =>
    rw [bind_run_error ran]
    unfold commit at ran
    split at ran
    · cases ran
    · cases ran
      exact before
    · cases ran

end Ends

section Within

variable {Whole : Type} {get : Whole → State} {set : State → Whole → Whole} {whole : Session Whole}

section Part

variable (put : ∀ part state, get (set part state) = part)
include put

theorem leaves_within
    (left : Leaves holds program ⟨get whole.state, whole.life⟩) :
    Leaves (fun state => holds (get state)) (within get set program) whole := by
  show holds (get (set _ whole.state))
  rw [put]
  exact left

theorem keeps_within (kept : Keeps holds program) :
    Keeps (fun state => holds (get state)) (within get set program) :=
  fun whole before => leaves_within put (kept ⟨get whole.state, whole.life⟩ before)

omit put in
theorem still_within {View : Type} {view : Whole → View} (apart : ∀ part state, view (set part state) = view state) :
    Still view (within get set program) :=
  fun whole => apart _ whole.state

theorem ends_within {after : α → State → Prop}
    (ended : Ends after program ⟨get whole.state, whole.life⟩) :
    Ends (fun value state => after value (get state)) (within get set program) whole := by
  intro value reached ran
  match part : program ⟨get whole.state, whole.life⟩ with
  | (result, left) =>
    unfold within at ran
    rw [part] at ran
    cases ran
    dsimp only
    rw [put]
    exact ended value left part

end Part

end Within

end Durable
