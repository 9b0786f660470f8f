import Mathlib.Data.List.Basic
import Mathlib.Logic.Function.Basic

/-! Sequences over a buffer that is reused. Setting the length never touches
the slots, so a slot keeps what an earlier, possibly longer, use left in it. -/

set_option autoImplicit false

namespace Ros2Graph.Foundation

/-- `maximum` slots are allocated and the first `length` of them are in use. -/
structure ReusedSeq (α : Type) where
  maximum : Nat
  length : Nat
  slot : Nat → α

namespace ReusedSeq

variable {α : Type}

def empty [Inhabited α] : ReusedSeq α := ⟨0, 0, fun _ => default⟩

def toList (seq : ReusedSeq α) : List α := (List.range seq.length).map seq.slot

/-- Shrinks or grows within the allocated slots only. -/
def setLength (seq : ReusedSeq α) (length : Nat) : Option (ReusedSeq α) :=
  if length ≤ seq.maximum then some { seq with length } else none

/-- Allocates up to `maximum` slots when `length` does not fit; `granted` is
the answer of that allocation. -/
def ensureLength (seq : ReusedSeq α) (granted : Bool) (length maximum : Nat) :
    Option (ReusedSeq α) :=
  if length ≤ seq.maximum then some { seq with length }
  else if granted then some { seq with length, maximum } else none

def getReference (seq : ReusedSeq α) (index : Nat) : Option α :=
  if index < seq.length then some (seq.slot index) else none

def write (seq : ReusedSeq α) (index : Nat) (value : α) : ReusedSeq α :=
  { seq with slot := Function.update seq.slot index value }

@[simp] theorem write_length (seq : ReusedSeq α) (index : Nat) (value : α) :
    (seq.write index value).length = seq.length := rfl

@[simp] theorem write_slot_self (seq : ReusedSeq α) (index : Nat) (value : α) :
    (seq.write index value).slot index = value := by simp [write]

theorem write_slot_ne (seq : ReusedSeq α) {index other : Nat} (value : α)
    (different : other ≠ index) : (seq.write index value).slot other = seq.slot other := by
  simp [write, different]

theorem ensureLength_eq_some {seq result : ReusedSeq α} {granted : Bool}
    {length maximum : Nat} (accepted : seq.ensureLength granted length maximum = some result) :
    result.length = length ∧ result.slot = seq.slot := by
  unfold ensureLength at accepted
  split at accepted
  · cases accepted; exact ⟨rfl, rfl⟩
  · split at accepted
    · cases accepted; exact ⟨rfl, rfl⟩
    · cases accepted

theorem setLength_eq_some {seq result : ReusedSeq α} {length : Nat}
    (accepted : seq.setLength length = some result) :
    result.length = length ∧ result.slot = seq.slot := by
  unfold setLength at accepted
  split at accepted
  · cases accepted; exact ⟨rfl, rfl⟩
  · cases accepted

theorem ensureLength_granted (seq : ReusedSeq α) (length maximum : Nat) :
    ∃ result, seq.ensureLength true length maximum = some result := by
  unfold ensureLength
  split
  · exact ⟨_, rfl⟩
  · exact ⟨_, rfl⟩

theorem getElem?_toList (seq : ReusedSeq α) (index : Nat) :
    seq.toList[index]? = seq.getReference index := by
  unfold toList getReference
  split
  · next inside => simp [inside]
  · next outside => simpa using outside

@[simp] theorem length_toList (seq : ReusedSeq α) : seq.toList.length = seq.length := by
  simp [toList]

theorem toList_eq_iff {seq : ReusedSeq α} {items : List α} :
    seq.toList = items ↔
      seq.length = items.length ∧ ∀ index, index < items.length →
        items[index]? = some (seq.slot index) := by
  constructor
  · rintro rfl
    refine ⟨by simp [toList], fun index inside => ?_⟩
    have bound : index < seq.length := by simpa [toList] using inside
    simp [toList, bound]
  · rintro ⟨length, slots⟩
    apply List.ext_getElem?
    intro index
    by_cases inside : index < items.length
    · rw [slots index inside]
      simp [toList, length, inside]
    · simp [toList, length, inside]

section Filling

variable {Item : Type}

/-- What a slot holds once the visited items have been written to consecutive
slots: an accepted item takes the next slot, and one without content leaves
there what the slot contained before. -/
def filledSlot (accepts : Item → Bool) (content : Item → Option α) (before : Nat → α)
    (visited : List Item) (index : Nat) : α :=
  (((visited.filter accepts)[index]?).bind content).getD (before index)

variable {accepts : Item → Bool} {content : Item → Option α} {before : Nat → α}
  {visited : List Item} {item : Item}

private theorem getElem?_pastLast {items : List Item} {index : Nat}
    (outside : items.length < index) (last : Item) :
    items[index]? = none ∧ (items ++ [last])[index]? = none := by
  constructor
  · exact List.getElem?_eq_none (Nat.le_of_lt outside)
  · apply List.getElem?_eq_none
    rw [List.length_append, List.length_singleton]
    exact outside

theorem filledSlot_rejected (rejected : accepts item = false) :
    filledSlot accepts content before (visited ++ [item]) =
      filledSlot accepts content before visited := by
  unfold filledSlot
  simp [rejected]

theorem filledSlot_passed (accepted : accepts item = true) (empty : content item = none) :
    filledSlot accepts content before (visited ++ [item]) =
      filledSlot accepts content before visited := by
  funext index
  unfold filledSlot
  simp only [List.filter_append, List.filter_cons, accepted, if_true, List.filter_nil]
  rcases Nat.lt_trichotomy index (visited.filter accepts).length with inside | last | outside
  · rw [List.getElem?_append_left inside]
  · subst last
    simp [empty]
  · obtain ⟨before, after⟩ := getElem?_pastLast outside item
    rw [before, after]

theorem filledSlot_written (accepted : accepts item = true) {value : α}
    (written : content item = some value) :
    filledSlot accepts content before (visited ++ [item]) =
      Function.update (filledSlot accepts content before visited)
        (visited.filter accepts).length value := by
  funext index
  unfold filledSlot
  simp only [List.filter_append, List.filter_cons, accepted, if_true, List.filter_nil]
  rcases Nat.lt_trichotomy index (visited.filter accepts).length with inside | last | outside
  · rw [List.getElem?_append_left inside, Function.update_of_ne (Nat.ne_of_lt inside)]
  · subst last
    simp [written]
  · obtain ⟨before, after⟩ := getElem?_pastLast outside item
    rw [Function.update_of_ne (Nat.ne_of_gt outside), before, after]

theorem filterMap_getElem? {total : Item → Option α}
    (accepted : ∀ item, accepts item = (total item).isSome) (items : List Item) (index : Nat) :
    (items.filterMap total)[index]? = ((items.filter accepts)[index]?).bind total := by
  induction items generalizing index with
  | nil => simp
  | cons head tail ih =>
      cases value : total head with
      | none =>
          have rejected : accepts head = false := by rw [accepted, value]; rfl
          simp [value, rejected, ih]
      | some result =>
          have selected : accepts head = true := by rw [accepted, value]; rfl
          cases index with
          | zero => simp [value, selected]
          | succ index => simp [value, selected, ih]

/-- A sequence filled this way lists the accepted items exactly when the slots
that were passed over contained the right values already. -/
theorem toList_filled_iff {seq : ReusedSeq α} {total : Item → Option α}
    (length : seq.length = (visited.filter accepts).length)
    (slots : seq.slot = filledSlot accepts content before visited)
    (accepted : ∀ item, accepts item = (total item).isSome)
    (agrees : ∀ item value, content item = some value → total item = some value) :
    seq.toList = visited.filterMap total ↔
      ∀ index item value, (visited.filter accepts)[index]? = some item → content item = none →
        total item = some value → before index = value := by
  have listed := filterMap_getElem? accepted visited
  have total_length : (visited.filterMap total).length = (visited.filter accepts).length := by
    rw [List.length_filterMap_eq_countP, List.countP_eq_length_filter]
    congr 1
    exact List.filter_congr (fun item _ => (accepted item).symm)
  rw [toList_eq_iff, total_length]
  constructor
  · rintro ⟨_, contents⟩ index item value found empty present
    obtain ⟨inside, _⟩ := List.getElem?_eq_some_iff.mp found
    have read := contents index inside
    rw [listed, found, slots] at read
    simp only [filledSlot, found, Option.bind_some, empty, Option.getD_none, present,
      Option.some.injEq] at read
    exact read.symm
  · intro stale
    refine ⟨length, fun index inside => ?_⟩
    have found := List.getElem?_eq_getElem inside
    obtain ⟨value, present⟩ : ∃ value, total (visited.filter accepts)[index] = some value := by
      have selected := (List.mem_filter.mp (List.getElem_mem inside)).2
      exact Option.isSome_iff_exists.mp ((accepted _).symm.trans selected)
    rw [listed, found, Option.bind_some, present, slots]
    simp only [filledSlot, found, Option.bind_some]
    cases empty : content (visited.filter accepts)[index] with
    | none => rw [Option.getD_none, stale index _ value found empty present]
    | some written =>
        rw [agrees _ _ empty] at present
        rw [Option.getD_some, present]

end Filling

end ReusedSeq

end Ros2Graph.Foundation
