import Mathlib.Data.List.Infix

/-! Logs of the calls on a lock. -/

set_option autoImplicit false

namespace Ros2Graph.Foundation

variable {Event : Type} [DecidableEq Event]

/-- The lock is given as often as it is taken, and at no point more often. -/
structure Paired (take give : Event) (events : List Event) : Prop where
  settled : events.count give = events.count take
  neverAhead : ∀ early, early <+: events → early.count give ≤ early.count take

namespace Paired

variable {take give : Event}

theorem of_absent {events : List Event} (taken : take ∉ events) (given : give ∉ events) :
    Paired take give events where
  settled := by rw [List.count_eq_zero.mpr given, List.count_eq_zero.mpr taken]
  neverAhead := by
    intro early begins
    have few := begins.sublist.count_le give
    rw [List.count_eq_zero.mpr given] at few
    exact Nat.le_trans few (Nat.zero_le _)

/-- A section that is entered once and left once. -/
theorem section_between {inner : List Event} (different : take ≠ give) (taken : take ∉ inner)
    (given : give ∉ inner) : Paired take give (take :: (inner ++ [give])) where
  settled := by
    have noTake := List.count_eq_zero.mpr taken
    have noGive := List.count_eq_zero.mpr given
    simp [different, different.symm, noTake, noGive]
  neverAhead := by
    intro early begins
    rcases List.prefix_cons_iff.mp begins with rfl | ⟨rest, rfl, within⟩
    · exact Nat.le_refl _
    · have few : rest.count give ≤ (inner ++ [give]).count give := within.sublist.count_le give
      have noGive := List.count_eq_zero.mpr given
      have noTake : rest.count take = 0 := by
        refine List.count_eq_zero.mpr fun member => ?_
        rcases List.mem_append.mp (within.subset member) with inside | last
        · exact taken inside
        · exact different (List.mem_singleton.mp last)
      simp only [List.count_append, noGive, List.count_singleton_self] at few
      rw [List.count_cons_of_ne different, List.count_cons_self, noTake]
      exact few

end Paired

end Ros2Graph.Foundation
