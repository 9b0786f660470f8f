/-! Two deterministic systems driven by the same labels, step by step. -/

set_option autoImplicit false

namespace Ros2Graph.Foundation

variable {Left Right Label : Type}

/-- The two states agree before every step and at the end, and every step
answers alike in both. -/
def InStep (left : Left → Label → Left) (right : Right → Label → Right)
    (agree : Left → Right → Prop) (alike : Label → Left → Right → Prop) :
    Left → Right → List Label → Prop
  | here, there, [] => agree here there
  | here, there, label :: rest =>
      agree here there ∧ alike label here there ∧
        InStep left right agree alike (left here label) (right there label) rest

variable {left : Left → Label → Left} {right : Right → Label → Right}
  {agree : Left → Right → Prop} {alike : Label → Left → Right → Prop}

/-- The simulation rule: a relation that implies agreement, makes every step
answer alike and is kept by it. -/
theorem InStep.of_simulation {related : Left → Right → Prop}
    (agrees : ∀ here there, related here there → agree here there)
    (answers : ∀ here there label, related here there → alike label here there)
    (kept : ∀ here there label, related here there → related (left here label) (right there label))
    {here : Left} {there : Right} (start : related here there) (labels : List Label) :
    InStep left right agree alike here there labels := by
  induction labels generalizing here there with
  | nil => exact agrees here there start
  | cons label rest ih =>
      exact ⟨agrees here there start, answers here there label start,
        ih (kept here there label start)⟩

end Ros2Graph.Foundation
