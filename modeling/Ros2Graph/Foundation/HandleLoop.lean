import Ros2Graph.Foundation.HandleSearch

/-! Loops whose condition comes after the body, and the search for a handle as such a
loop. The machine counts the tries, so the loop is given fuel here, and that it ends
is a theorem. -/

set_option autoImplicit false

namespace Ros2Graph.Foundation

section DoWhile

variable {State : Type} {body : State → State} {again : State → Bool}

/-- `do body while (again)`, or `none` when the loop has not ended. -/
def doWhile (body : State → State) (again : State → Bool) : Nat → State → Option State
  | 0, _ => none
  | fuel + 1, state =>
      if again (body state) then doWhile body again fuel (body state) else some (body state)

/-- More fuel does not change how a loop has ended. -/
theorem doWhile_more {fuel more : Nat} {state last : State} (most : fuel ≤ more)
    (ended : doWhile body again fuel state = some last) :
    doWhile body again more state = some last := by
  induction fuel generalizing more state with
  | zero => cases ended
  | succ fuel ih =>
      obtain ⟨rest, rfl⟩ := Nat.exists_eq_add_of_le' (Nat.lt_of_lt_of_le fuel.succ_pos most)
      unfold doWhile at ended ⊢
      by_cases goesOn : again (body state) = true
      · rw [if_pos goesOn] at ended ⊢
        exact ih (Nat.le_of_succ_le_succ most) ended
      · rwa [if_neg goesOn] at ended ⊢

/-- A loop that keeps an invariant while its variant decreases ends, and as its last
iteration does. -/
theorem doWhile_total {holds post : State → Prop} (variant : State → Nat)
    (continues : ∀ state, holds state → again (body state) = true →
      holds (body state) ∧ variant (body state) < variant state)
    (leaves : ∀ state, holds state → again (body state) = false → post (body state))
    {fuel : Nat} {state : State} (start : holds state) (enough : variant state < fuel) :
    ∃ last, doWhile body again fuel state = some last ∧ post last := by
  induction fuel generalizing state with
  | zero => omega
  | succ fuel ih =>
      unfold doWhile
      cases goesOn : again (body state) with
      | true =>
          have ⟨kept, less⟩ := continues state start goesOn
          exact ih kept (by omega)
      | false => exact ⟨body state, rfl, leaves state start goesOn⟩

end DoWhile

/-- The counter that handles are taken from, and the locals of the loop that takes one. -/
structure HandleLoop where
  next : Int32
  candidate : Int32
  found : Bool
  tryCount : Int32
  deriving DecidableEq, Repr

namespace HandleLoop

def start (next invalid : Int32) : HandleLoop := ⟨next, invalid, false, 0⟩

/-- The body. The increment of the counter wraps. -/
def tryNext (taken : Int32 → Bool) (loop : HandleLoop) : HandleLoop :=
  let drawn := { loop with candidate := loop.next, next := loop.next + 1 }
  let restarted := if drawn.candidate < 0 then { drawn with candidate := 0, next := 0 } else drawn
  { restarted with found := !taken restarted.candidate, tryCount := restarted.tryCount + 1 }

/-- `!found && try_count < INT_MAX` -/
def again (loop : HandleLoop) : Bool := !loop.found && decide (loop.tryCount < Int32.maxValue)

/-- What a search returns when the loop ends here. -/
def answer (loop : HandleLoop) : Option Int32 × Int32 :=
  (if loop.found then some loop.candidate else none, loop.next)

def triesLeft (loop : HandleLoop) : Nat := (intMax - loop.tryCount.toInt).toNat

section Iteration

variable {taken : Int32 → Bool} {loop : HandleLoop}

@[simp] theorem tryNext_tryCount : (tryNext taken loop).tryCount = loop.tryCount + 1 := by
  unfold tryNext
  dsimp only
  split <;> rfl

/-- One iteration is one try. -/
theorem searchHandle_tryNext (tries : Nat) :
    searchHandle taken (tries + 1) loop.next =
      if (tryNext taken loop).found then (tryNext taken loop).answer
      else searchHandle taken tries (tryNext taken loop).next := by
  rw [searchHandle]
  unfold tryNext answer
  by_cases negative : loop.next < 0
  · by_cases busy : taken 0 = true
    · simp [negative, busy]
    · simp [negative, busy]
  · by_cases busy : taken loop.next = true
    · simp [negative, busy]
    · simp [negative, busy]

theorem again_iff : loop.again = true ↔ loop.found = false ∧ 0 < loop.triesLeft := by
  have last : Int32.maxValue.toInt = intMax := by decide
  unfold again triesLeft
  rw [Bool.and_eq_true, Bool.not_eq_true', decide_eq_true_eq, Int32.lt_iff_toInt_lt, last]
  exact and_congr_right fun _ => by omega

/-- What is left to be searched when the loop is entered or goes on. -/
structure Pending (taken : Int32 → Bool) (next : Int32) (loop : HandleLoop) : Prop where
  counted : 0 ≤ loop.tryCount.toInt
  goesOn : 0 < loop.triesLeft
  same : searchHandle taken loop.triesLeft loop.next = searchHandle taken intMax next

theorem Pending.start (taken : Int32 → Bool) (next invalid : Int32) :
    Pending taken next (start next invalid) where
  counted := show 0 ≤ (0 : Int32).toInt by decide
  goesOn := show 0 < (intMax - (0 : Int32).toInt).toNat by decide
  same := rfl

variable {next : Int32}

theorem Pending.triesLeft_tryNext (pending : Pending taken next loop) :
    0 ≤ (tryNext taken loop).tryCount.toInt ∧
      loop.triesLeft = (tryNext taken loop).triesLeft + 1 := by
  have bound : (intMax : Int) + 1 = 2 ^ 31 := by decide
  have ⟨counted, goesOn, _⟩ := pending
  unfold triesLeft at goesOn ⊢
  have counts := toInt_succ counted (by omega)
  rw [tryNext_tryCount, counts]
  omega

theorem Pending.continues (pending : Pending taken next loop)
    (goesOn : (tryNext taken loop).again = true) :
    Pending taken next (tryNext taken loop) := by
  obtain ⟨notFound, remain⟩ := again_iff.mp goesOn
  obtain ⟨counted, fewer⟩ := pending.triesLeft_tryNext
  refine ⟨counted, remain, ?_⟩
  rw [← pending.same, fewer, searchHandle_tryNext, notFound]
  rfl

theorem Pending.leaves (pending : Pending taken next loop)
    (ends : (tryNext taken loop).again = false) :
    (tryNext taken loop).answer = searchHandle taken intMax next := by
  obtain ⟨_, fewer⟩ := pending.triesLeft_tryNext
  rw [← pending.same, fewer, searchHandle_tryNext]
  by_cases found : (tryNext taken loop).found = true
  · rw [if_pos found]
  · have spent : (tryNext taken loop).triesLeft = 0 := by
      by_contra remain
      have goesOn := again_iff.mpr ⟨by simpa using found, Nat.pos_of_ne_zero remain⟩
      rw [ends] at goesOn
      cases goesOn
    rw [if_neg found, spent]
    simp [answer, found, searchHandle]

end Iteration

end HandleLoop

/-- The handle that the loop returns, and the counter that it leaves behind. `none`
when the loop has not ended. -/
def drawHandle (invalid : Int32) (taken : Int32 → Bool) (fuel : Nat) (next : Int32) :
    Option (Int32 × Int32) :=
  (doWhile (HandleLoop.tryNext taken) HandleLoop.again fuel (.start next invalid)).map fun last =>
    (if !last.found then invalid else last.candidate, last.next)

section Draw

variable {invalid : Int32} {taken : Int32 → Bool} {next : Int32}

/-- The loop ends after `INT_MAX` tries at the latest, whatever is taken. -/
theorem drawHandle_ends {fuel : Nat} (enough : intMax ≤ fuel) :
    drawHandle invalid taken fuel next =
      some ((searchHandle taken intMax next).1.getD invalid, (searchHandle taken intMax next).2) := by
  have positive : 0 < intMax := by decide
  obtain ⟨last, ended, answered⟩ := @doWhile_total HandleLoop (HandleLoop.tryNext taken)
    HandleLoop.again (HandleLoop.Pending taken next)
    (fun last => last.answer = searchHandle taken intMax next)
    (fun loop => loop.triesLeft - 1)
    (fun loop pending goesOn => by
      have later := pending.continues goesOn
      obtain ⟨_, fewer⟩ := pending.triesLeft_tryNext
      have remain := later.goesOn
      exact ⟨later, by omega⟩)
    (fun loop pending ends => pending.leaves ends)
    fuel (.start next invalid) (.start taken next invalid) (by
      have whole : (HandleLoop.start next invalid).triesLeft = intMax := rfl
      omega)
  unfold drawHandle
  rw [ended, ← answered, Option.map_some]
  unfold HandleLoop.answer
  cases last.found <;> rfl

/-- However much fuel it took, the loop has returned what the search finds. -/
theorem drawHandle_ended {fuel : Nat} {handle following : Int32}
    (ended : drawHandle invalid taken fuel next = some (handle, following)) :
    (searchHandle taken intMax next).1.getD invalid = handle ∧
      (searchHandle taken intMax next).2 = following := by
  obtain ⟨last, stopped, returned⟩ := Option.map_eq_some_iff.mp ended
  have onward := @drawHandle_ends invalid taken next (max fuel intMax) (Nat.le_max_right _ _)
  unfold drawHandle at onward
  rw [doWhile_more (Nat.le_max_left fuel intMax) stopped, Option.map_some, returned] at onward
  have same := Option.some.inj onward
  exact ⟨(congrArg Prod.fst same).symm, (congrArg Prod.snd same).symm⟩

theorem drawHandle_fresh {fuel : Nat} {handle following : Int32}
    (ended : drawHandle invalid taken fuel next = some (handle, following))
    (valid : handle ≠ invalid) : 0 ≤ handle ∧ taken handle = false := by
  obtain ⟨returned, _⟩ := drawHandle_ended ended
  cases found : (searchHandle taken intMax next).1 with
  | none =>
      rw [found] at returned
      exact absurd returned.symm valid
  | some free =>
      rw [found] at returned
      cases returned
      exact searchHandle_found (Prod.ext found rfl)

/-- With fewer than `INT_MAX - 1` handles in use a free one is returned, from any
counter. -/
theorem drawHandle_available {live : Finset Int32}
    (listed : ∀ handle, taken handle = true → handle ∈ live) (few : live.card < intMax - 1) :
    ∃ handle following, 0 ≤ handle ∧ taken handle = false ∧ ∀ fuel, intMax ≤ fuel →
      drawHandle invalid taken fuel next = some (handle, following) := by
  obtain ⟨handle, following, found⟩ := @searchHandle_available taken next live listed few
  obtain ⟨nonnegative, free⟩ := searchHandle_found found
  refine ⟨handle, following, nonnegative, free, ?_⟩
  intro fuel enough
  rw [drawHandle_ends enough, found]
  rfl

end Draw

end Ros2Graph.Foundation
