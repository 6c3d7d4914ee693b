namespace Transition

universe u v w

variable {State : Type u} {Label : Type v}

/-- Labelled runs grow at the end, so each step is read in the state its history has reached. -/
inductive Run (step : State → Label → State → Prop) (start : State) : List Label → State → Prop
  | nil : Run step start [] start
  | snoc {history : List Label} {state next : State} {label : Label} :
      Run step start history state → step state label next → Run step start (history ++ [label]) next

/-- The steps of a system that are taken only where `allowed` holds before them. -/
def restrict (allowed : State → Label → Prop) (step : State → Label → State → Prop) :
    State → Label → State → Prop :=
  fun state label next => allowed state label ∧ step state label next

variable {step : State → Label → State → Prop} {start state : State} {history : List Label}

theorem Run.invariant {holds : State → Prop} (initial : holds start)
    (preserved : ∀ state label next, holds state → step state label next → holds next)
    (run : Run step start history state) : holds state := by
  induction run with
  | nil => exact initial
  | snoc _ taken previous => exact preserved _ _ _ previous taken

/-- The invariant may speak about the history as well as about the state it led to. -/
theorem Run.history_invariant {holds : List Label → State → Prop} (initial : holds [] start)
    (preserved : ∀ history state label next, holds history state → step state label next →
      holds (history ++ [label]) next)
    (run : Run step start history state) : holds history state := by
  induction run with
  | nil => exact initial
  | snoc _ taken previous => exact preserved _ _ _ _ previous taken

theorem Run.weaken {wider : State → Label → State → Prop}
    (included : ∀ state label next, step state label next → wider state label next)
    (run : Run step start history state) : Run wider start history state := by
  induction run with
  | nil => exact .nil
  | snoc _ taken previous => exact .snoc previous (included _ _ _ taken)

theorem Run.of_restrict {allowed : State → Label → Prop}
    (run : Run (restrict allowed step) start history state) : Run step start history state :=
  run.weaken fun _ _ _ taken => taken.2

theorem Run.append {more : List Label} {final : State} (first : Run step start history state)
    (second : Run step state more final) : Run step start (history ++ more) final := by
  induction second with
  | nil => simpa using first
  | snoc _ taken previous =>
    rw [← List.append_assoc]
    exact .snoc previous taken

theorem Run.cons {label : Label} {middle : State} (taken : step start label middle)
    (rest : Run step middle history state) : Run step start (label :: history) state :=
  append (.snoc .nil taken) rest

section Once

variable {holds : State → Prop} {fires : Label → Bool}

section Spent

variable (spent : State → Prop)
  (initial : holds start)
  (preserved : ∀ state label next, holds state → step state label next → holds next)
  (kept : ∀ state label next, holds state → step state label next → spent state → spent next)
include spent initial preserved kept

theorem Run.never
    (fired : ∀ state label next, holds state → step state label next → fires label = true → ¬spent state)
    (gone : spent start) (run : Run step start history state) :
    spent state ∧ ∀ label ∈ history, fires label = false := by
  induction run with
  | nil => exact ⟨gone, fun _ member => nomatch member⟩
  | @snoc history state next label before taken earlier =>
    have held := before.invariant initial preserved
    refine ⟨kept state label next held taken earlier.1, fun other member => ?_⟩
    rcases List.mem_append.mp member with old | last
    · exact earlier.2 other old
    · rw [List.mem_singleton.mp last]
      cases silent : fires label with
      | false => rfl
      | true => exact absurd earlier.1 (fired state label next held taken silent)

/-- What fires only unspent, and is spent by firing, fires at most once in a run. -/
theorem Run.once
    (fired : ∀ state label next, holds state → step state label next → fires label = true → ¬spent state ∧ spent next)
    (run : Run step start history state) : history.countP fires ≤ 1 ∧ (0 < history.countP fires → spent state) := by
  induction run with
  | nil => exact ⟨Nat.zero_le 1, fun impossible => absurd impossible (Nat.lt_irrefl 0)⟩
  | @snoc history state next label before taken earlier =>
    have held := before.invariant initial preserved
    rw [List.countP_append, List.countP_singleton]
    cases fires? : fires label with
    | false =>
      rw [if_neg Bool.false_ne_true, Nat.add_zero]
      exact ⟨earlier.1, fun some => kept state label next held taken (earlier.2 some)⟩
    | true =>
      have unspent := fired state label next held taken fires?
      have none : history.countP fires = 0 := by
        apply Nat.eq_zero_of_not_pos
        exact fun some => unspent.1 (earlier.2 some)
      rw [if_pos rfl, none]
      exact ⟨Nat.le_refl 1, fun _ => unspent.2⟩

end Spent

end Once

theorem run_foldl {advance : State → Label → State} {allowed : State → Label → Prop} {labels : List Label}
    (start : State) (each : ∀ state label, label ∈ labels → allowed state label) :
    Run (restrict allowed fun state label next => next = advance state label) start labels
      (labels.foldl advance start) := by
  induction labels generalizing start with
  | nil => exact .nil
  | cons label labels rest =>
    exact .cons ⟨each start label List.mem_cons_self, rfl⟩
      (rest _ fun state later member => each state later (List.mem_cons_of_mem _ member))

/-- Executes a list of inputs and records the label of each step. -/
def replay {Input : Type w} (advance : State → Input → State × Label) : State → List Input → State × List Label
  | state, [] => (state, [])
  | state, input :: inputs =>
    let taken := advance state input
    let rest := replay advance taken.1 inputs
    (rest.1, taken.2 :: rest.2)

theorem run_replay {Input : Type w} {advance : State → Input → State × Label}
    (sound : ∀ state input, step state (advance state input).2 (advance state input).1)
    (state : State) (inputs : List Input) :
    Run step state (replay advance state inputs).2 (replay advance state inputs).1 := by
  induction inputs generalizing state with
  | nil => exact .nil
  | cons input inputs rest => exact .cons (sound state input) (rest _)

end Transition
