import AtomicSwaps.Transition.Fallible

/-- A program over a state that outlives its failures: what was written before an error stays. -/
def Program (State ε α : Type) : Type := State → Except ε α × State

namespace Program

variable {State ε α β : Type} {state : State} {reached : State}

instance : Monad (Program State ε) where
  pure value := fun state => (.ok value, state)
  bind first next := fun state => match first state with
    | (.ok value, reached) => next value reached
    | (.error error, reached) => (.error error, reached)

instance : MonadExcept ε (Program State ε) where
  throw error := fun state => (.error error, state)
  tryCatch first recover := fun state => match first state with
    | (.ok value, reached) => (.ok value, reached)
    | (.error error, reached) => recover error reached

def get : Program State ε State := fun state => (.ok state, state)

def modify (change : State → State) : Program State ε Unit := fun state => (.ok (), change state)

def lift (value : Except ε α) : Program State ε α := fun state => (value, state)

theorem pure_run (value : α) (state : State) :
    (pure value : Program State ε α) state = (.ok value, state) := rfl

theorem get_run (state : State) : (get : Program State ε State) state = (.ok state, state) := rfl

theorem modify_run (change : State → State) (state : State) :
    (modify change : Program State ε Unit) state = (.ok (), change state) := rfl

theorem lift_run (value : Except ε α) (state : State) :
    (lift value : Program State ε α) state = (value, state) := rfl

variable {first : Program State ε α} {next : α → Program State ε β}

theorem bind_run {value : α} (ran : first state = (.ok value, reached)) :
    (first >>= next) state = next value reached := by
  change (match first state with
    | (.ok value, reached) => next value reached
    | (.error error, reached) => (.error error, reached)) = _
  rw [ran]

theorem bind_run_error {error : ε} (ran : first state = (.error error, reached)) :
    (first >>= next) state = (.error error, reached) := by
  change (match first state with
    | (.ok value, reached) => next value reached
    | (.error error, reached) => (.error error, reached)) = _
  rw [ran]

theorem bind_ok_run {final : State} {value : β} (ran : (first >>= next) state = (.ok value, final)) :
    ∃ middle reached, first state = (.ok middle, reached) ∧ next middle reached = (.ok value, final) := by
  match started : first state with
  | (.ok middle, reached) =>
    rw [bind_run started] at ran
    exact ⟨middle, reached, rfl, ran⟩
  | (.error error, reached) =>
    rw [bind_run_error started] at ran
    cases ran

/-- A property every run of the program keeps, failed runs included. -/
def Keeps (holds : State → Prop) (program : Program State ε α) : Prop :=
  ∀ state, holds state → holds (program state).2

variable {holds : State → Prop} {program : Program State ε α}

theorem keeps_pure (value : α) : Keeps holds (pure value : Program State ε α) :=
  fun _ before => before

theorem keeps_throw (error : ε) : Keeps holds (throw error : Program State ε α) :=
  fun _ before => before

/-- From one state: the first part keeps the property, and so does what follows where it succeeds. -/
theorem leaves_bind (first : holds (program state).2)
    (rest : ∀ value reached, program state = (.ok value, reached) → holds reached →
      holds (next value reached).2) : holds ((program >>= next) state).2 := by
  match ran : program state with
  | (.ok value, reached) =>
    rw [bind_run ran]
    rw [ran] at first
    exact rest value reached ran first
  | (.error error, reached) =>
    rw [bind_run_error ran]
    rw [ran] at first
    exact first

theorem keeps_bind (first : Keeps holds program)
    (rest : ∀ value, Keeps holds (next value)) : Keeps holds (program >>= next) :=
  fun state before => leaves_bind (first state before) fun value reached _ held =>
    rest value reached held

theorem leaves_lift_bind {value : Except ε α}
    (before : holds state) (rest : ∀ result, value = .ok result → holds (next result state).2) :
    holds ((lift value >>= next) state).2 := by
  cases value with
  | error error => exact before
  | ok result => exact rest result rfl

end Program
