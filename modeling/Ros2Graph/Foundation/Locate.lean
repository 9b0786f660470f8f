import Mathlib.Data.List.Basic

/-! First-match search that returns the position with the element found there,
and the shape of a list around that position. A position plays the part of a
pointer to a linked element: it is read, overwritten and unlinked by position. -/

set_option autoImplicit false

namespace Ros2Graph.Foundation

/-- The first element that satisfies the test, with its position. -/
def locate {α : Type} (test : α → Bool) : List α → Option (Nat × α)
  | [] => none
  | head :: tail =>
      if test head then some (0, head)
      else (locate test tail).map (fun found => (found.1 + 1, found.2))

variable {α : Type}

theorem locate_eq_none_iff {test : α → Bool} {items : List α} :
    locate test items = none ↔ ∀ item ∈ items, test item = false := by
  induction items with
  | nil => simp [locate]
  | cons head tail ih =>
      by_cases selected : test head = true
      · simp [locate, selected]
      · simp [locate, selected, ih]

theorem locate_eq_some_iff {test : α → Bool} {items : List α} {position : Nat} {item : α} :
    locate test items = some (position, item) ↔
      ∃ front rest, items = front ++ item :: rest ∧ front.length = position ∧
        test item = true ∧ ∀ earlier ∈ front, test earlier = false := by
  induction items generalizing position with
  | nil => simp [locate]
  | cons head tail ih =>
      by_cases selected : test head = true
      · simp only [locate, selected, if_true, Option.some.injEq, Prod.mk.injEq]
        constructor
        · rintro ⟨rfl, rfl⟩
          exact ⟨[], tail, rfl, rfl, selected, by simp⟩
        · rintro ⟨front, rest, split, length, _, rejected⟩
          cases front with
          | nil =>
              obtain ⟨rfl, rfl⟩ := List.cons.inj split
              exact ⟨length, rfl⟩
          | cons first front =>
              obtain ⟨rfl, _⟩ := List.cons.inj split
              simp [rejected head (by simp)] at selected
      · simp only [locate, selected, Bool.false_eq_true, if_false, Option.map_eq_some_iff]
        constructor
        · rintro ⟨⟨index, found⟩, located, same⟩
          cases same
          obtain ⟨front, rest, rfl, rfl, accepted, rejected⟩ := ih.mp located
          refine ⟨head :: front, rest, rfl, rfl, accepted, ?_⟩
          intro earlier member
          rcases List.mem_cons.mp member with rfl | member
          · simpa using selected
          · exact rejected earlier member
        · rintro ⟨front, rest, split, rfl, accepted, rejected⟩
          cases front with
          | nil =>
              obtain ⟨rfl, _⟩ := List.cons.inj split
              exact absurd accepted selected
          | cons first front =>
              obtain ⟨rfl, rfl⟩ := List.cons.inj split
              exact ⟨(front.length, item), ih.mpr ⟨front, rest, rfl, rfl, accepted,
                fun earlier member => rejected earlier (by simp [member])⟩, rfl⟩

theorem locate_isSome_iff {test : α → Bool} {items : List α} :
    (locate test items).isSome = true ↔ ∃ item ∈ items, test item = true := by
  cases result : locate test items with
  | none =>
      have rejected := locate_eq_none_iff.mp result
      simp only [Option.isSome_none, Bool.false_eq_true, false_iff, not_exists, not_and]
      intro item member
      simp [rejected item member]
  | some found =>
      obtain ⟨front, rest, rfl, _, accepted, _⟩ := locate_eq_some_iff.mp result
      simp only [Option.isSome_some, true_iff]
      exact ⟨found.2, by simp, accepted⟩

theorem locate_mem {test : α → Bool} {items : List α} {position : Nat} {item : α}
    (found : locate test items = some (position, item)) :
    item ∈ items ∧ test item = true := by
  obtain ⟨front, rest, rfl, _, accepted, _⟩ := locate_eq_some_iff.mp found
  exact ⟨by simp, accepted⟩

theorem locate_getElem? {test : α → Bool} {items : List α} {position : Nat} {item : α}
    (found : locate test items = some (position, item)) : items[position]? = some item := by
  obtain ⟨front, rest, rfl, rfl, _, _⟩ := locate_eq_some_iff.mp found
  simp

theorem locate_isSome_eq_any (test : α → Bool) (items : List α) :
    (locate test items).isSome = items.any test := by
  rw [Bool.eq_iff_iff, locate_isSome_iff, List.any_eq_true]

theorem locate_append_of_rejected {test : α → Bool} (items : List α) {last : α}
    (rejected : test last = false) : locate test (items ++ [last]) = locate test items := by
  induction items with
  | nil => simp [locate, rejected]
  | cons head tail ih => simp only [List.cons_append, locate, ih]

theorem locate_append_accepted {test : α → Bool} {items : List α} {last : α}
    (absent : locate test items = none) (accepted : test last = true) :
    locate test (items ++ [last]) = some (items.length, last) :=
  locate_eq_some_iff.mpr ⟨items, [], rfl, rfl, accepted, locate_eq_none_iff.mp absent⟩

theorem locate_replace_rejected {test : α → Bool} (front rest : List α) {old new : α}
    (oldRejected : test old = false) (newRejected : test new = false) :
    locate test (front ++ new :: rest) = locate test (front ++ old :: rest) := by
  induction front with
  | nil => simp [locate, oldRejected, newRejected]
  | cons head front ih => simp only [List.cons_append, locate, ih]

theorem split_at_position {items : List α} {position : Nat} {item : α}
    (found : items[position]? = some item) :
    ∃ front rest, items = front ++ item :: rest ∧ front.length = position := by
  obtain ⟨inside, rfl⟩ := List.getElem?_eq_some_iff.mp found
  exact ⟨items.take position, items.drop (position + 1), by simp, by simp; omega⟩

@[simp] theorem set_at_split (front rest : List α) (old new : α) :
    (front ++ old :: rest).set front.length new = front ++ new :: rest := by
  simp

@[simp] theorem eraseIdx_at_split (front rest : List α) (item : α) :
    (front ++ item :: rest).eraseIdx front.length = front ++ rest := by
  simp [List.eraseIdx_append_of_length_le]

theorem mem_eraseIdx_of_ne {items : List α} {position : Nat} {item other : α}
    (found : items[position]? = some other) (member : item ∈ items) (different : item ≠ other) :
    item ∈ items.eraseIdx position := by
  obtain ⟨front, rest, rfl, rfl⟩ := split_at_position found
  rw [eraseIdx_at_split]
  rw [List.mem_append, List.mem_cons] at member
  rw [List.mem_append]
  exact member.imp id (fun behind => behind.resolve_left different)

theorem mem_set_of_ne {items : List α} {position : Nat} {item other : α}
    (found : items[position]? = some other) (member : item ∈ items) (different : item ≠ other)
    (new : α) : item ∈ items.set position new := by
  obtain ⟨front, rest, rfl, rfl⟩ := split_at_position found
  rw [set_at_split]
  rw [List.mem_append, List.mem_cons] at member
  rw [List.mem_append, List.mem_cons]
  exact member.imp id (fun behind => .inr (behind.resolve_left different))

end Ros2Graph.Foundation
