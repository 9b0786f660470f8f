import Mathlib.Data.List.Basic

/-! Byte buffers that are filled from the front, and scans that walk backwards. -/

set_option autoImplicit false

namespace Ros2Graph.Foundation

/-- Copies the bytes to an offset of the buffer; `none` when they do not fit. -/
def memcpy (buffer : List UInt8) (offset : Nat) (bytes : List UInt8) : Option (List UInt8) :=
  if offset + bytes.length ≤ buffer.length then
    some (buffer.take offset ++ bytes ++ buffer.drop (offset + bytes.length))
  else none

/-- The buffer with its front replaced by the bytes copied so far. -/
def Filled (buffer front current : List UInt8) : Prop :=
  current = front ++ buffer.drop front.length

namespace Filled

variable {buffer front current : List UInt8}

theorem start (buffer : List UInt8) : Filled buffer [] buffer := rfl

theorem prefix_current (filled : Filled buffer front current) : front <+: current :=
  ⟨buffer.drop front.length, filled.symm⟩

/-- A piece is copied right behind the ones before it. -/
theorem memcpy_iff {bytes next : List UInt8} {offset : Nat} (filled : Filled buffer front current)
    (inside : front.length ≤ buffer.length) (behind : offset = front.length) :
    memcpy current offset bytes = some next ↔
      (front ++ bytes).length ≤ buffer.length ∧ Filled buffer (front ++ bytes) next := by
  unfold Filled at filled ⊢
  subst behind filled
  have room : front.length + bytes.length ≤ (front ++ buffer.drop front.length).length ↔
      (front ++ bytes).length ≤ buffer.length := by
    simp only [List.length_append, List.length_drop]
    omega
  unfold memcpy
  rw [Option.ite_none_right_eq_some, room, Option.some.injEq, List.take_left, ← List.drop_drop,
    List.drop_left, List.drop_drop, ← List.length_append]
  exact and_congr_right fun _ => eq_comm

/-- What is not reached keeps its last byte. -/
theorem getLast_eq (filled : Filled buffer front current) (short : front.length < buffer.length) :
    current.getLast? = buffer.getLast? := by
  have left : buffer.drop front.length ≠ [] := by
    intro empty
    exact absurd short (Nat.not_lt.mpr (List.drop_eq_nil_iff.mp empty))
  rw [filled, List.getLast?_append_of_ne_nil _ left, List.getLast?_drop,
    if_neg (Nat.not_le.mpr short)]

end Filled

/-- A text without NUL characters is read whole, and what is behind it up to a NUL. -/
theorem takeWhile_text_append {text : List UInt8} (noNul : 0 ∉ text) (rest : List UInt8) :
    (text ++ rest).takeWhile (· != 0) = text ++ rest.takeWhile (· != 0) := by
  refine List.takeWhile_append_of_pos ?_
  intro char member
  refine bne_iff_ne.mpr ?_
  rintro rfl
  exact noNul member

/-- Walks from an index down to the first one at which it stops, at latest to 0. -/
def scanBack (stop : Nat → Bool) : Nat → Nat
  | 0 => 0
  | index + 1 => if stop (index + 1) then index + 1 else scanBack stop index

theorem scanBack_le (stop : Nat → Bool) (start : Nat) : scanBack stop start ≤ start := by
  induction start with
  | zero => exact Nat.le_refl 0
  | succ index ih =>
      unfold scanBack
      split
      · exact Nat.le_refl _
      · exact Nat.le_succ_of_le ih

theorem scanBack_eq {stop : Nat → Bool} {start found : Nat} (inside : found ≤ start)
    (stops : stop found = true)
    (passed : ∀ index, found < index → index ≤ start → stop index = false) :
    scanBack stop start = found := by
  induction start with
  | zero => exact (Nat.le_zero.mp inside).symm
  | succ last ih =>
      unfold scanBack
      rcases Nat.le_succ_iff.mp inside with earlier | here
      · rw [if_neg (by simp [passed (last + 1) (Nat.lt_succ_of_le earlier) (Nat.le_refl _)])]
        exact ih earlier fun index after before => passed index after (Nat.le_succ_of_le before)
      · rw [here] at stops
        rw [if_pos stops, here]

/-- Nothing stops the walk between its start and its end. -/
theorem scanBack_passed {stop : Nat → Bool} {start index : Nat} (after : scanBack stop start < index)
    (before : index ≤ start) : stop index = false := by
  induction start with
  | zero => omega
  | succ last ih =>
      unfold scanBack at after
      split at after
      · omega
      · next passes =>
        rcases Nat.le_succ_iff.mp before with earlier | here
        · exact ih after earlier
        · rw [here]
          exact Bool.eq_false_iff.mpr passes

end Ros2Graph.Foundation
