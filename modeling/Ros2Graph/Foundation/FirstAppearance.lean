import Mathlib.Data.List.Nodup
import Mathlib.Data.List.Induction

/-! The distinct elements of a list in the order of their first appearance, as
a loop that appends what it has not seen yet finds them. -/

set_option autoImplicit false

namespace Ros2Graph.Foundation

variable {α : Type} [BEq α] [LawfulBEq α]

theorem eraseDups_concat (items : List α) (last : α) :
    (items ++ [last]).eraseDups =
      if items.contains last then items.eraseDups else items.eraseDups ++ [last] := by
  rw [List.eraseDups_append]
  have rest : ([last].removeAll items).eraseDups =
      if items.contains last then [] else [last] := by
    cases seen : items.contains last with
    | true => simp only [List.removeAll, List.elem_eq_contains, List.filter_cons, seen]; rfl
    | false => simp only [List.removeAll, List.elem_eq_contains, List.filter_cons, seen]; rfl
  rw [rest]
  split
  · rw [List.append_nil]
  · rfl

theorem eraseDups_contains (items : List α) (item : α) :
    items.eraseDups.contains item = items.contains item := by
  rw [Bool.eq_iff_iff, List.contains_iff_mem, List.contains_iff_mem, List.mem_eraseDups]

theorem eraseDups_nodup (items : List α) : items.eraseDups.Nodup := by
  induction items using List.reverseRecOn with
  | nil => exact List.nodup_nil
  | append_singleton front last ih =>
      rw [eraseDups_concat]
      split
      · exact ih
      · next unseen =>
        rw [← List.concat_eq_append, List.nodup_concat]
        refine ⟨?_, ih⟩
        simpa using unseen

end Ros2Graph.Foundation
