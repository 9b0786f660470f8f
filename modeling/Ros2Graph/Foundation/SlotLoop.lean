import Mathlib.Data.List.Forall2

/-! Loops that write the slots of a vector one after another, after it has been
resized to the number of items. -/

set_option autoImplicit false

namespace Ros2Graph.Foundation

variable {α β : Type}

/-- Keeps what fits, and fills up with default values. -/
def resize [Inhabited β] (slots : List β) (length : Nat) : List β :=
  slots.take length ++ List.replicate (length - slots.length) default

@[simp] theorem length_resize [Inhabited β] (slots : List β) (length : Nat) :
    (resize slots length).length = length := by
  simp only [resize, List.length_append, List.length_take, List.length_replicate]
  omega

/-- Writes the items into the slots from `index` on. -/
def overwrite (slots : List β) : Nat → List β → List β
  | _, [] => slots
  | index, item :: rest => overwrite (slots.set index item) (index + 1) rest

theorem take_set_succ {slots : List β} {index : Nat} (inside : index < slots.length) (item : β) :
    (slots.set index item).take (index + 1) = slots.take index ++ [item] := by
  rw [List.take_add_one, List.take_set_of_le (Nat.le_refl index)]
  simp [inside]

theorem overwrite_eq {slots items : List β} {index : Nat}
    (fits : slots.length = index + items.length) :
    overwrite slots index items = slots.take index ++ items := by
  induction items generalizing slots index with
  | nil =>
      have all : slots.take index = slots := List.take_of_length_le (Nat.le_of_eq fits)
      simp [overwrite, all]
  | cons item rest ih =>
      rw [List.length_cons] at fits
      rw [overwrite, ih (by rw [List.length_set]; omega), take_set_succ (by omega),
        List.append_assoc, List.singleton_append]

theorem overwrite_resize [Inhabited β] (slots items : List β) :
    overwrite (resize slots items.length) 0 items = items := by
  rw [overwrite_eq (by simp)]
  simp

/-- Updates the slots from `index` on, one for each item, until an update fails.
`none` stands for a use of a NULL reference. -/
def updateSlots (update : Nat → α → β → Option (Bool × β)) :
    List α → Nat → List β → Option (Bool × List β)
  | [], _, slots => some (true, slots)
  | item :: rest, index, slots =>
    match slots[index]? with
    | none => none
    | some slot =>
      match update index item slot with
      | none => none
      | some (false, slot) => some (false, slots.set index slot)
      | some (true, slot) => updateSlots update rest (index + 1) (slots.set index slot)

variable {update : Nat → α → β → Option (Bool × β)} {relates : α → β → Prop}

theorem updateSlots_true
    (updated : ∀ index item slot result, update index item slot = some (true, result) →
      relates item result)
    {items : List α} {index : Nat} {slots result : List β}
    (fits : slots.length = index + items.length)
    (ran : updateSlots update items index slots = some (true, result)) :
    ∃ written, result = slots.take index ++ written ∧ List.Forall₂ relates items written := by
  induction items generalizing index slots with
  | nil =>
      simp only [updateSlots, Option.some.injEq, Prod.mk.injEq, true_and] at ran
      have all : slots.take index = slots := List.take_of_length_le (Nat.le_of_eq fits)
      refine ⟨[], ?_, .nil⟩
      rw [all, List.append_nil, ran]
  | cons item rest ih =>
      rw [List.length_cons] at fits
      unfold updateSlots at ran
      split at ran
      · cases ran
      · split at ran
        · cases ran
        · cases ran
        · next slot _ _ value performed =>
          obtain ⟨written, whole, related⟩ := ih (by rw [List.length_set]; omega) ran
          refine ⟨value :: written, ?_, .cons (updated _ _ _ _ performed) related⟩
          rw [whole, take_set_succ (by omega), List.append_assoc, List.singleton_append]

/-- The loop ends when every update does, and goes through when none can fail. -/
theorem updateSlots_defined {unfailing : Prop} {items : List α} {index : Nat} {slots : List β}
    (updates : ∀ index, ∀ item ∈ items, ∀ slot, ∃ result,
      update index item slot = some result ∧ (unfailing → result.1 = true))
    (fits : slots.length = index + items.length) :
    ∃ result, updateSlots update items index slots = some result ∧
      (unfailing → result.1 = true) := by
  induction items generalizing index slots with
  | nil => exact ⟨(true, slots), rfl, fun _ => rfl⟩
  | cons item rest ih =>
      rw [List.length_cons] at fits
      have inside : index < slots.length := by omega
      obtain ⟨⟨continues, value⟩, performed, goesOn⟩ :=
        updates index item List.mem_cons_self slots[index]
      simp only [updateSlots, List.getElem?_eq_getElem inside, performed]
      cases continues with
      | false => exact ⟨_, rfl, goesOn⟩
      | true =>
          exact ih (fun index item member => updates index item (List.mem_cons_of_mem _ member))
            (by rw [List.length_set]; omega)

end Ros2Graph.Foundation
