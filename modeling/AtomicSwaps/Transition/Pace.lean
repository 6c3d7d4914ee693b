namespace Transition

/-- A chain whose consecutive blocks keep between a fastest and a slowest spacing. -/
structure BlockHistory (fastest slowest : Nat) where
  time : Nat → Nat
  notFaster : ∀ height count, time height + count * fastest ≤ time (height + count)
  notSlower : ∀ height count, time (height + count) ≤ time height + count * slowest

namespace BlockHistory

variable {fastest slowest : Nat}

def steady (first spacing : Nat) (fast : fastest ≤ spacing) (slow : spacing ≤ slowest) :
    BlockHistory fastest slowest where
  time height := first + height * spacing
  notFaster height count := by
    have bound : count * fastest ≤ count * spacing := Nat.mul_le_mul_left count fast
    rw [Nat.add_mul]
    omega
  notSlower height count := by
    have bound : count * spacing ≤ count * slowest := Nat.mul_le_mul_left count slow
    rw [Nat.add_mul]
    omega

section Delay

variable (start delay : Nat)

/-- A delay counted in blocks from a block no earlier than `start` reaches `bound` at every pace
    exactly when it does at the fastest one. -/
theorem matures_after_iff (ordered : fastest ≤ slowest) (bound : Nat) :
    (∀ (history : BlockHistory fastest slowest) height, start ≤ history.time height →
      bound ≤ history.time (height + delay)) ↔ bound ≤ start + delay * fastest := by
  constructor
  · intro always
    have first := always (steady start fastest (Nat.le_refl _) ordered) 0
    simp only [steady, Nat.zero_mul, Nat.add_zero, Nat.zero_add] at first
    exact first (Nat.le_refl _)
  · intro covered history height included
    have pace := history.notFaster height delay
    omega

/-- From a block inside a window, the delay ends between two bounds at every pace exactly when it
    does from the window's start at the fastest pace and from its end at the slowest one. -/
theorem matures_between_iff (ordered : fastest ≤ slowest) (cutoff low high : Nat) :
    (∀ (history : BlockHistory fastest slowest) height, start ≤ history.time height →
      history.time height ≤ cutoff →
        low ≤ history.time (height + delay) ∧ history.time (height + delay) ≤ high) ↔
      (start ≤ cutoff → low ≤ start + delay * fastest ∧ cutoff + delay * slowest ≤ high) := by
  constructor
  · intro always window
    have first := always (steady start fastest (Nat.le_refl _) ordered) 0
    have last := always (steady cutoff slowest ordered (Nat.le_refl _)) 0
    simp only [steady, Nat.zero_mul, Nat.add_zero, Nat.zero_add] at first last
    exact ⟨(first (Nat.le_refl _) window).1, (last window (Nat.le_refl _)).2⟩
  · intro covered history height included inTime
    have fast := history.notFaster height delay
    have slow := history.notSlower height delay
    obtain ⟨earliest, latest⟩ := covered (Nat.le_trans included inTime)
    omega

end Delay

end BlockHistory

end Transition
