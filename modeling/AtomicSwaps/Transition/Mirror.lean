import AtomicSwaps.Transition.Fallible

namespace Fallible

universe u

variable {ε : Type u} {α Stored : Type}

/-- A stored form that is read back exactly, and that is never read as another value. -/
structure Mirrors (store : α → Stored) (read : Stored → Except ε α) : Prop where
  back : ∀ value, read (store value) = .ok value
  exact : ∀ {stored value}, read stored = .ok value → store value = stored

theorem Mirrors.injective {store : α → Stored} {read : Stored → Except ε α} (mirrors : Mirrors store read)
    {left right : α} (same : store left = store right) : left = right := by
  have read := mirrors.back left
  rw [same, mirrors.back right] at read
  exact (Except.ok.inj read).symm

end Fallible
