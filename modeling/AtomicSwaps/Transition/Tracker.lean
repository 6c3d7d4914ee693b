import AtomicSwaps.Transition.Fallible

namespace Tracker

open Fallible

universe u

variable {Canonical Removal : Type} {ε : Type u}

/-- What a chain says about one tracked item: it is canonical, it was removed, or it was removed and
    another inclusion took its place. -/
inductive Event (Canonical Removal : Type)
  | canonical (observation : Canonical)
  | removed (removal : Removal)
  | replaced (removal : Removal) (observation : Canonical)
deriving DecidableEq

def Event.head : Event Canonical Removal → Option Canonical
  | .canonical observation | .replaced _ observation => some observation
  | .removed _ => none

/-- How two kinds of evidence relate, and the further checks of a chain with finality. -/
structure Policy (Canonical Removal : Type) (ε : Type u) where
  previous : Removal → Canonical
  sameInclusion : Canonical → Canonical → Bool
  advance : Canonical → Canonical → Except ε Unit
  replace : Removal → Canonical → Except ε Unit
  (replacementProofRequired staleEvidence : ε)

variable [DecidableEq Canonical] [DecidableEq Removal] (policy : Policy Canonical Removal ε)

/-- The event to record for a reading, or nothing where the tracked item did not change. -/
def propose (current : Option Canonical) : Event Canonical Removal → Except ε (Option (Event Canonical Removal))
  | .canonical observation =>
    match current with
    | none => .ok (some (.canonical observation))
    | some known =>
      if known = observation then .ok none
      else if policy.sameInclusion known observation then do
        policy.advance known observation
        return some (.canonical observation)
      else .error policy.replacementProofRequired
  | .removed removal =>
    match current with
    | none => .ok none
    | some known =>
      if known = policy.previous removal then .ok (some (.removed removal))
      else .error policy.staleEvidence
  | .replaced removal observation =>
    match current with
    | none => .error policy.staleEvidence
    | some known =>
      if known = observation then .ok none
      else if known = policy.previous removal then do
        policy.replace removal observation
        return some (.replaced removal observation)
      else .error policy.staleEvidence

def applyCommitted (current : Option Canonical) (event : Event Canonical Removal) :
    Except ε (Option Canonical) := do
  let proposed ← propose policy current event
  if proposed = some event then return event.head else throw policy.staleEvidence

def Event.removal : Event Canonical Removal → Option Removal
  | .canonical _ => none
  | .removed removal | .replaced removal _ => some removal

variable {policy : Policy Canonical Removal ε} {current next : Option Canonical}
  {input event : Event Canonical Removal}

omit [DecidableEq Removal] in
theorem propose_some (proposed : propose policy current input = .ok (some event)) :
    event = input ∧
      ((current = none ∧ ∃ observation, input = .canonical observation) ∨
        ∃ known, current = some known ∧
          ((∃ observation, input = .canonical observation ∧ policy.sameInclusion known observation = true ∧
              policy.advance known observation = .ok ()) ∨
            (∃ removal, input = .removed removal ∧ policy.previous removal = known) ∨
            ∃ removal observation, input = .replaced removal observation ∧ policy.previous removal = known ∧
              policy.replace removal observation = .ok ())) := by
  cases input with
  | canonical observation =>
    cases current with
    | none =>
      cases proposed
      exact ⟨rfl, .inl ⟨rfl, observation, rfl⟩⟩
    | some known =>
      simp only [propose] at proposed
      split at proposed
      · cases proposed
      · split at proposed
        · rename_i same
          simp only [bind_ok_iff, exists_unit, pure_ok, Option.some.injEq] at proposed
          obtain ⟨advances, rfl⟩ := proposed
          exact ⟨rfl, .inr ⟨known, rfl, .inl ⟨observation, rfl, same, advances⟩⟩⟩
        · cases proposed
  | removed removal =>
    cases current with
    | none => cases proposed
    | some known =>
      simp only [propose] at proposed
      split at proposed <;> cases proposed
      rename_i same
      exact ⟨rfl, .inr ⟨known, rfl, .inr (.inl ⟨removal, rfl, same.symm⟩)⟩⟩
  | replaced removal observation =>
    cases current with
    | none => cases proposed
    | some known =>
      simp only [propose] at proposed
      split at proposed
      · cases proposed
      · split at proposed
        · rename_i same
          simp only [bind_ok_iff, exists_unit, pure_ok, Option.some.injEq] at proposed
          obtain ⟨replaces, rfl⟩ := proposed
          exact ⟨rfl, .inr ⟨known, rfl, .inr (.inr ⟨removal, observation, rfl, same.symm, replaces⟩)⟩⟩
        · cases proposed

theorem applyCommitted_ok (applied : applyCommitted policy current event = .ok next) :
    propose policy current event = .ok (some event) ∧ next = event.head := by
  simp only [applyCommitted, bind_ok_iff] at applied
  obtain ⟨proposed, proposes, applied⟩ := applied
  split at applied
  · rename_i same
    cases applied
    exact ⟨same ▸ proposes, rfl⟩
  · cases applied

theorem applyCommitted_first (observation : Canonical) :
    applyCommitted policy none (.canonical observation) = .ok (some observation) := by
  simp [applyCommitted, propose, Event.head, ok_bind, pure, Except.pure]

theorem applyCommitted_removed (removal : Removal) :
    applyCommitted policy (some (policy.previous removal)) (.removed removal) = .ok none := by
  simp [applyCommitted, propose, Event.head, ok_bind, pure, Except.pure]

end Tracker
