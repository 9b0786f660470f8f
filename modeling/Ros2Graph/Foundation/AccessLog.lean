import Mathlib.Data.List.GetD
import Ros2Graph.Foundation.Buffer

/-! Computations that log their accesses to memory, and memory without an end. An
access outside a buffer is not refused, it is in the log. -/

set_option autoImplicit false

namespace Ros2Graph.Foundation

structure Logged (Access Value : Type) where
  value : Value
  accesses : List Access

namespace Logged

variable {Access Value Next : Type}

instance : Monad (Logged Access) where
  pure value := ⟨value, []⟩
  bind run next := ⟨(next run.value).value, run.accesses ++ (next run.value).accesses⟩

def access (entry : Access) : Logged Access Unit := ⟨(), [entry]⟩

@[simp] theorem value_pure (value : Value) : (pure value : Logged Access Value).value = value := rfl

@[simp] theorem value_bind (run : Logged Access Value) (next : Value → Logged Access Next) :
    (run >>= next).value = (next run.value).value := rfl

/-- All accesses that are made are allowed. -/
def Only (allowed : Access → Prop) (run : Logged Access Value) : Prop :=
  ∀ entry ∈ run.accesses, allowed entry

namespace Only

variable {allowed : Access → Prop} {run : Logged Access Value}

theorem pure (value : Value) : Only allowed (pure value : Logged Access Value) :=
  fun _ member => absurd member List.not_mem_nil

theorem access {entry : Access} (permitted : allowed entry) : Only allowed (Logged.access entry) := by
  intro other member
  rw [List.mem_singleton.mp member]
  exact permitted

/-- What comes next is run on the value that there is. -/
theorem bind {next : Value → Logged Access Next} (first : run.Only allowed)
    (rest : (next run.value).Only allowed) : (run >>= next).Only allowed := by
  intro entry member
  rcases List.mem_append.mp member with before | after
  · exact first entry before
  · exact rest entry after

end Only

end Logged

/-- Accesses to places by their indices, which nothing keeps from being negative. -/
inductive MemoryAccess (Place : Type) where
  | read (index : Int)
  | write (place : Place) (index : Int)
  deriving DecidableEq, Repr

/-- Memory from a pointer on. -/
abbrev Region := Nat → UInt8

namespace Region

variable {Place : Type}

/-- `memcpy`. -/
def copy (place : Place) (offset : Nat) (bytes : List UInt8) (region : Region) :
    Logged (MemoryAccess Place) Region where
  value index :=
    if offset ≤ index ∧ index < offset + bytes.length then bytes.getD (index - offset) 0
    else region index
  accesses := (List.range bytes.length).map fun index => .write place (offset + index : Nat)

theorem copy_only {allowed : MemoryAccess Place → Prop} {place : Place} {offset : Nat}
    {bytes : List UInt8} (region : Region)
    (inside : ∀ index, index < offset + bytes.length → allowed (.write place (index : Nat))) :
    (copy place offset bytes region).Only allowed := by
  intro entry member
  obtain ⟨index, below, rfl⟩ := List.mem_map.mp member
  exact inside _ (Nat.add_lt_add_left (List.mem_range.mp below) offset)

/-- The bytes up to a size. -/
def upTo (region : Region) (size : Nat) : List UInt8 := (List.range size).map region

@[simp] theorem length_upTo (region : Region) (size : Nat) : (region.upTo size).length = size := by
  simp [upTo]

/-- Inside of a buffer memory is copied to as the buffer is. -/
theorem memcpy_upTo (place : Place) {offset size : Nat} {bytes : List UInt8} (region : Region)
    (fits : offset + bytes.length ≤ size) :
    memcpy (region.upTo size) offset bytes =
      some ((copy place offset bytes region).value.upTo size) := by
  unfold memcpy
  rw [length_upTo, if_pos fits]
  congr 1
  refine List.ext_getElem ?_ ?_
  · simp only [List.length_append, List.length_take, List.length_drop, length_upTo]
    omega
  · intro index below _
    simp only [List.getElem_append, List.length_append, List.length_take, List.length_map,
      List.length_range, upTo, copy,
      List.getElem_take, List.getElem_drop, List.getElem_map, List.getElem_range]
    by_cases front : index < offset
    · rw [dif_pos (by omega), dif_pos (by omega), if_neg (by omega)]
    · by_cases copied : index < offset + bytes.length
      · have within : index - offset < bytes.length := by omega
        rw [dif_pos (by omega), dif_neg (by omega), if_pos (by omega),
          List.getD_eq_getElem _ _ within]
        congr 1
        omega
      · rw [dif_neg (by omega), if_neg (by omega)]
        congr 1
        omega

end Region

end Ros2Graph.Foundation
