import AtomicSwaps.Transition.Fallible

namespace Journal

variable {ε : Type} {State : Type} {slot slot' : Nat → State → Except ε State} {initial : State} {count : Nat}
  {state : State}

/-- Reads the first `count` slots of a journal in order, each in the state the earlier ones left. -/
def replay (slot : Nat → State → Except ε State) (initial : State) : Nat → Except ε State
  | 0 => .ok initial
  | count + 1 => replay slot initial count >>= slot count

theorem replay_succ_ok {next : State} :
    replay slot initial (count + 1) = .ok next ↔
      ∃ state, replay slot initial count = .ok state ∧ slot count state = .ok next :=
  Fallible.bind_ok_iff

theorem replay_before {shorter : Nat} (read : replay slot initial count = .ok state) (before : shorter ≤ count) :
    ∃ earlier, replay slot initial shorter = .ok earlier := by
  induction count generalizing state with
  | zero =>
    have start : shorter = 0 := by omega
    exact ⟨state, start ▸ read⟩
  | succ count step =>
    obtain ⟨previous, readPrevious, -⟩ := replay_succ_ok.mp read
    by_cases last : shorter = count + 1
    · exact ⟨state, last ▸ read⟩
    · exact step readPrevious (by omega)

theorem replay_mono (keeps : ∀ position, position < count → ∀ before after,
      slot position before = .ok after → slot' position before = .ok after)
    (read : replay slot initial count = .ok state) : replay slot' initial count = .ok state := by
  induction count generalizing state with
  | zero => exact read
  | succ count step =>
    obtain ⟨previous, readPrevious, last⟩ := replay_succ_ok.mp read
    have kept := step (fun position bound => keeps position (by omega)) readPrevious
    exact replay_succ_ok.mpr ⟨previous, kept, keeps count (by omega) previous state last⟩

theorem find?_numbered {Row : Type} {number : Row → Nat} {marked : Row → Prop}
    [DecidablePred marked] {rows : List Row} {start position : Nat}
    (numbered : rows.map number = List.range' start count) (reached : start ≤ position) :
    rows.find? (fun row => marked row ∧ number row = position) =
      (rows[position - start]?).filter marked := by
  induction rows generalizing start count with
  | nil => simp
  | cons row rows rest =>
    cases count with
    | zero => simp at numbered
    | succ count =>
      simp only [List.map_cons, List.range'_succ, List.cons.injEq] at numbered
      obtain ⟨first, others⟩ := numbered
      by_cases here : position = start
      · subst here
        have beyond : ∀ other ∈ rows, ¬ (marked other ∧ number other = position) := by
          intro other member both
          have listed : number other ∈ List.range' (position + 1) count :=
            others ▸ List.mem_map_of_mem member
          have bounds := List.mem_range'_1.mp listed
          omega
        by_cases chosen : marked row
        · simp [first, chosen, Option.filter]
        · have none : rows.find? (fun row => marked row ∧ number row = position) = none :=
            List.find?_eq_none.mpr fun other member => by simpa using beyond other member
          rw [List.find?_cons_of_neg (by simp [chosen]), none]
          simp [chosen, Option.filter]
      · have later := rest others (by omega : start + 1 ≤ position)
        have shifted : position - start = position - (start + 1) + 1 := by omega
        have other : ¬ (marked row ∧ number row = position) := by omega
        rw [List.find?_cons_of_neg (by simpa using other), later, shifted]
        simp

end Journal
