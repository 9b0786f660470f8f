import Mathlib.Data.List.DropRight
import Mathlib.Data.List.Perm.Subperm

/-! A history that keeps the last items only. Pushing an item onto a full
history drops the oldest one. -/

set_option autoImplicit false

namespace Ros2Graph.Foundation

structure KeepLast (α : Type) (depth : Nat) where
  items : List α
  bounded : items.length ≤ depth

namespace KeepLast

variable {α : Type} {depth : Nat}

def empty : KeepLast α depth := ⟨[], Nat.zero_le _⟩

theorem length_rtake_le (items : List α) : (items.rtake depth).length ≤ depth := by
  rw [List.rtake, List.length_drop]
  omega

def push (history : KeepLast α depth) (item : α) : KeepLast α depth :=
  ⟨(history.items ++ [item]).rtake depth, length_rtake_le _⟩

def pushAll (history : KeepLast α depth) (items : List α) : KeepLast α depth :=
  items.foldl push history

theorem rtake_append_rtake (items later : List α) :
    (items.rtake depth ++ later).rtake depth = (items ++ later).rtake depth := by
  unfold List.rtake
  rw [List.drop_append, List.drop_append, List.length_drop, List.drop_drop, List.length_append,
    List.length_append, List.length_drop]
  congr 2 <;> omega

theorem items_pushAll (history : KeepLast α depth) (items : List α) :
    (history.pushAll items).items = (history.items ++ items).rtake depth := by
  induction items generalizing history with
  | nil =>
      have all : history.items.length - depth = 0 := Nat.sub_eq_zero_of_le history.bounded
      simp [pushAll, List.rtake, all]
  | cons item rest ih =>
      have pushed := ih (history.push item)
      unfold pushAll at pushed ⊢
      rw [List.foldl_cons, pushed, push, rtake_append_rtake, List.append_assoc]
      rfl

theorem items_ofAll (items : List α) :
    ((empty : KeepLast α depth).pushAll items).items = items.rtake depth :=
  items_pushAll empty items

/-- A batch of different items is kept whole exactly when it fits. -/
theorem keeps_batch_iff {earlier batch : List α} (different : batch.Nodup) :
    (∀ item ∈ batch, item ∈ (earlier ++ batch).rtake depth) ↔ batch.length ≤ depth := by
  constructor
  · intro kept
    have fewer := (List.Nodup.subperm different kept).length_le
    exact Nat.le_trans fewer (length_rtake_le _)
  · intro fits item member
    have earlierDropped : (earlier ++ batch).length - depth ≤ earlier.length := by
      rw [List.length_append]
      omega
    rw [List.rtake, List.drop_append_of_le_length earlierDropped]
    exact List.mem_append_right _ member

end KeepLast

end Ros2Graph.Foundation
