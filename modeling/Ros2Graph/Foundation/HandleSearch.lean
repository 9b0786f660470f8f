import Mathlib.Data.Finset.Card
import Mathlib.Data.Finset.Union
import Mathlib.Order.Interval.Finset.Nat

/-! Allocation of 32-bit handles from a wrapping counter. A candidate is taken
from the counter, a negative one restarts the counter at zero, and the number
of tries is bounded. A failed search witnesses that nearly every non-negative
handle is in use. -/

set_option autoImplicit false

namespace Ros2Graph.Foundation

/-- `INT_MAX`, the bound on the number of tries of one search. -/
def intMax : Nat := 2147483647

/-- One search: the handle found, if any, and the counter left behind. -/
def searchHandle (taken : Int32 → Bool) : Nat → Int32 → Option Int32 × Int32
  | 0, next => (none, next)
  | tries + 1, next =>
      let candidate := if next < 0 then 0 else next
      -- the restart overwrites the increment made when the candidate was read
      let following := if next < 0 then 0 else next + 1
      if taken candidate then searchHandle taken tries following
      else (some candidate, following)

theorem searchHandle_found {taken : Int32 → Bool} {tries : Nat} {next handle following : Int32}
    (found : searchHandle taken tries next = (some handle, following)) :
    0 ≤ handle ∧ taken handle = false := by
  induction tries generalizing next with
  | zero => simp [searchHandle] at found
  | succ tries ih =>
      by_cases negative : next < 0
      · by_cases zeroBusy : taken 0 = true
        · exact @ih 0 (by simpa [searchHandle, negative, zeroBusy] using found)
        · have same : 0 = handle ∧ 0 = following := by
            simpa [searchHandle, negative, zeroBusy] using found
          exact same.1 ▸ ⟨by decide, by simpa using zeroBusy⟩
      · by_cases busy : taken next = true
        · exact @ih (next + 1) (by simpa [searchHandle, negative, busy] using found)
        · have same : next = handle ∧ next + 1 = following := by
            simpa [searchHandle, negative, busy] using found
          exact same.1 ▸ ⟨Int32.not_lt.mp negative, by simpa using busy⟩

theorem toInt_succ {next : Int32} (nonnegative : 0 ≤ next.toInt)
    (inside : next.toInt + 1 < 2 ^ 31) : (next + 1).toInt = next.toInt + 1 := by
  rw [Int32.toInt_add]
  exact Int.bmod_eq_of_le (by simp; omega) (by simp; omega)

private theorem not_negative {next : Int32} (nonnegative : 0 ≤ next.toInt) : ¬ next < 0 := by
  rw [Int32.lt_iff_toInt_lt]
  simpa using nonnegative

/-- A free candidate ends the search at its first try. -/
theorem searchHandle_free {taken : Int32 → Bool} {tries : Nat} {next : Int32}
    (nonnegative : 0 ≤ next.toInt) (inside : next.toInt + 1 < 2 ^ 31)
    (free : taken next = false) (positive : 0 < tries) :
    searchHandle taken tries next = (some next, next + 1) ∧
      (next + 1).toInt = next.toInt + 1 := by
  refine ⟨?_, toInt_succ nonnegative inside⟩
  obtain ⟨rest, rfl⟩ := Nat.exists_eq_succ_of_ne_zero positive.ne'
  simp [searchHandle, not_negative nonnegative, free]

private theorem succ_last {next : Int32} (last : next.toInt + 1 = 2 ^ 31) : next + 1 < 0 := by
  have same : next = Int32.maxValue := Int32.toInt_inj.mp (by
    have value : Int32.maxValue.toInt = 2147483647 := by decide
    omega)
  subst same
  decide

/-- The first try of a failed search has failed, and so has the search for the others. -/
theorem searchHandle_failed {taken : Int32 → Bool} {tries : Nat} {next : Int32}
    (nonnegative : 0 ≤ next.toInt) (failed : (searchHandle taken (tries + 1) next).1 = none) :
    taken next = true ∧ (searchHandle taken tries (next + 1)).1 = none := by
  by_cases busy : taken next = true
  · exact ⟨busy, by simpa [searchHandle, not_negative nonnegative, busy] using failed⟩
  · simp [searchHandle, not_negative nonnegative, busy] at failed

/-- A negative counter costs one try of zero, and zero is tried again. -/
theorem searchHandle_failed_restart {taken : Int32 → Bool} {tries : Nat} {next : Int32}
    (negative : next < 0) (failed : (searchHandle taken (tries + 1) next).1 = none) :
    taken 0 = true ∧ (searchHandle taken tries 0).1 = none := by
  by_cases zeroBusy : taken 0 = true
  · exact ⟨zeroBusy, by simpa [searchHandle, negative, zeroBusy] using failed⟩
  · simp [searchHandle, negative, zeroBusy] at failed

theorem searchHandle_none_covers {taken : Int32 → Bool} {tries : Nat} {next : Int32}
    (nonnegative : 0 ≤ next.toInt) (below : next.toInt + tries ≤ 2 ^ 31)
    (failed : (searchHandle taken tries next).1 = none) (handle : Int32)
    (lower : next.toInt ≤ handle.toInt) (upper : handle.toInt < next.toInt + tries) :
    taken handle = true := by
  induction tries generalizing next with
  | zero => omega
  | succ tries ih =>
      obtain ⟨busy, onward⟩ := searchHandle_failed nonnegative failed
      rcases lower.lt_or_eq with later | same
      · have succ := toInt_succ nonnegative (by omega)
        exact @ih (next + 1) (by omega) (by omega) onward (by omega) (by omega)
      · rwa [← Int32.toInt_inj.mp same]

/-- A failed search across the wrap has tried every handle up to the last one,
zero once more than needed, and then searched on from zero. -/
theorem searchHandle_none_wraps {taken : Int32 → Bool} {front rest : Nat} {next : Int32}
    (nonnegative : 0 ≤ next.toInt) (reaches : next.toInt + front = 2 ^ 31)
    (failed : (searchHandle taken (front + 1 + rest) next).1 = none) :
    (∀ handle : Int32, next.toInt ≤ handle.toInt → taken handle = true) ∧
      (searchHandle taken rest 0).1 = none := by
  induction front generalizing next with
  | zero => have := next.toInt_lt; omega
  | succ front ih =>
      rw [show front + 1 + 1 + rest = (front + 1 + rest) + 1 by omega] at failed
      obtain ⟨busy, onward⟩ := searchHandle_failed nonnegative failed
      by_cases last : front = 0
      · subst last
        have wrapped : next + 1 < 0 := succ_last (by omega)
        rw [show 0 + 1 + rest = rest + 1 by omega] at onward
        have restart := searchHandle_failed_restart wrapped onward
        refine ⟨fun handle lower => ?_, restart.2⟩
        have upper := handle.toInt_lt
        have same : next = handle := Int32.toInt_inj.mp (by omega)
        rwa [← same]
      · have succ := toInt_succ nonnegative (by omega)
        obtain ⟨above, again⟩ := @ih (next + 1) (by omega) (by omega) onward
        refine ⟨fun handle lower => ?_, again⟩
        rcases lower.lt_or_eq with later | same
        · exact above handle (by omega)
        · rwa [← Int32.toInt_inj.mp same]

private theorem toInt_ofNat (value : Nat) (small : value < 2 ^ 31) :
    (Int32.ofNat value).toInt = value := Int32.toInt_ofNat_of_lt small

/-- A failed full search finds `INT_MAX - 1` distinct handles in use. -/
theorem searchHandle_none_busy {taken : Int32 → Bool} {next : Int32}
    (failed : (searchHandle taken intMax next).1 = none) :
    ∃ busy : Finset Nat, intMax - 1 ≤ busy.card ∧
      ∀ value ∈ busy, value < 2 ^ 31 ∧ taken (Int32.ofNat value) = true := by
  have zero : (0 : Int32).toInt = 0 := by decide
  -- a search from zero that stays below the wrap covers an initial segment
  have fromZero : ∀ tries : Nat, tries ≤ 2 ^ 31 → (searchHandle taken tries 0).1 = none →
      ∀ value ∈ Finset.range tries, value < 2 ^ 31 ∧ taken (Int32.ofNat value) = true := by
    intro tries below ended value member
    have inside := Finset.mem_range.mp member
    have exact := toInt_ofNat value (by omega)
    exact ⟨by omega, searchHandle_none_covers (by omega) (by omega) ended _
      (by omega) (by omega)⟩
  by_cases negative : next < 0
  · rw [show intMax = (intMax - 1) + 1 by decide] at failed
    have again := (searchHandle_failed_restart negative failed).2
    exact ⟨Finset.range (intMax - 1), by simp, fromZero _ (by decide) again⟩
  · have nonnegative : 0 ≤ next.toInt := by
      rw [Int32.lt_iff_toInt_lt, zero] at negative
      omega
    obtain ⟨start, startEq⟩ := Int.eq_ofNat_of_zero_le nonnegative
    have startBound : start < 2 ^ 31 := by have := next.toInt_lt; omega
    have bound : intMax = 2 ^ 31 - 1 := by decide
    by_cases early : start ≤ 1
    · -- no wrap: the search covers one interval of `INT_MAX` handles
      refine ⟨Finset.Ico start (start + intMax), by simp, ?_⟩
      intro value member
      have inside := Finset.mem_Ico.mp member
      have exact := toInt_ofNat value (by omega)
      exact ⟨by omega, searchHandle_none_covers nonnegative (by omega) failed _
        (by omega) (by omega)⟩
    · have wrapped := @searchHandle_none_wraps taken (2 ^ 31 - start) (start - 2) next
        nonnegative (by omega) (by
          rwa [show 2 ^ 31 - start + 1 + (start - 2) = intMax by omega])
      refine ⟨Finset.Ico start (2 ^ 31) ∪ Finset.range (start - 2), ?_, ?_⟩
      · have apart : Disjoint (Finset.Ico start (2 ^ 31)) (Finset.range (start - 2)) := by
          rw [Finset.disjoint_left]
          intro value inIco inRange
          have := Finset.mem_Ico.mp inIco
          have := Finset.mem_range.mp inRange
          omega
        rw [Finset.card_union_of_disjoint apart, Nat.card_Ico, Finset.card_range]
        omega
      · intro value member
        rcases Finset.mem_union.mp member with inIco | inRange
        · have inside := Finset.mem_Ico.mp inIco
          have exact := toInt_ofNat value (by omega)
          exact ⟨by omega, wrapped.1 _ (by omega)⟩
        · exact fromZero _ (by omega) wrapped.2 value inRange

/-- With fewer than `INT_MAX - 1` handles in use the search succeeds. -/
theorem searchHandle_available {taken : Int32 → Bool} {next : Int32} {live : Finset Int32}
    (listed : ∀ handle, taken handle = true → handle ∈ live) (few : live.card < intMax - 1) :
    ∃ handle following, searchHandle taken intMax next = (some handle, following) := by
  cases result : searchHandle taken intMax next with
  | mk found following =>
      cases found with
      | some handle => exact ⟨handle, following, rfl⟩
      | none =>
          obtain ⟨busy, many, inUse⟩ := @searchHandle_none_busy taken next
            (by rw [result])
          have injective : Set.InjOn Int32.ofNat busy := by
            intro left leftMember right rightMember same
            have leftEq := toInt_ofNat left (inUse left leftMember).1
            have rightEq := toInt_ofNat right (inUse right rightMember).1
            rw [same] at leftEq
            omega
          have inside : busy.image Int32.ofNat ⊆ live := by
            intro handle member
            obtain ⟨value, valueMember, rfl⟩ := Finset.mem_image.mp member
            exact listed _ (inUse value valueMember).2
          have counted := Finset.card_le_card inside
          rw [Finset.card_image_of_injOn injective] at counted
          omega

theorem searchHandle_succeeds {taken : Int32 → Bool} {next : Int32} {live : List Int32}
    (listed : ∀ handle, taken handle = true → handle ∈ live)
    (few : live.length < intMax - 1) :
    ∃ handle following, searchHandle taken intMax next = (some handle, following) := by
  refine @searchHandle_available taken next live.toFinset ?_ ?_
  · intro handle inUse
    exact List.mem_toFinset.mpr (listed handle inUse)
  · exact Nat.lt_of_le_of_lt live.toFinset_card_le few

structure HandleSpace where
  live : List Int32
  next : Int32
  deriving DecidableEq

namespace HandleSpace

def take (space : HandleSpace) : Option HandleSpace :=
  let found := searchHandle (fun handle => space.live.contains handle) intMax space.next
  found.1.map (fun handle => ⟨space.live ++ [handle], found.2⟩)

def takeMany (space : HandleSpace) : Nat → Option HandleSpace
  | 0 => some space
  | count + 1 => (space.takeMany count).bind take

theorem takeMany_live {space final : HandleSpace} {count : Nat}
    (taken : space.takeMany count = some final) :
    final.live.length = space.live.length + count := by
  induction count generalizing final with
  | zero => cases taken; rfl
  | succ count ih =>
      obtain ⟨middle, earlier, last⟩ := Option.bind_eq_some_iff.mp taken
      obtain ⟨handle, _, rfl⟩ := Option.map_eq_some_iff.mp last
      simp [ih earlier]
      omega

theorem takeMany_isSome {space : HandleSpace} {count : Nat}
    (few : space.live.length + count < intMax) : (space.takeMany count).isSome = true := by
  induction count with
  | zero => rfl
  | succ count ih =>
      obtain ⟨middle, earlier⟩ := Option.isSome_iff_exists.mp (ih (by omega))
      have used := takeMany_live earlier
      have listed : ∀ handle, middle.live.contains handle = true → handle ∈ middle.live := by
        intro handle present
        simpa using present
      obtain ⟨handle, following, found⟩ :=
        @searchHandle_succeeds _ middle.next middle.live listed (by omega)
      have taken : middle.take = some ⟨middle.live ++ [handle], following⟩ := by
        simp only [take]
        rw [found]
        rfl
      simp [takeMany, earlier, taken]

end HandleSpace

theorem handles_length_le {live : List Int32} (distinct : live.Nodup)
    (nonnegative : ∀ handle ∈ live, 0 ≤ handle) : live.length ≤ 2 ^ 31 := by
  have values : ∀ handle ∈ live, 0 ≤ handle.toInt := by
    intro handle member
    simpa [Int32.le_iff_toInt_le] using nonnegative handle member
  have injective : Set.InjOn (fun handle : Int32 => handle.toInt.toNat) live.toFinset := by
    intro left leftMember right rightMember same
    have := values left (by simpa using leftMember)
    have := values right (by simpa using rightMember)
    exact Int32.toInt_inj.mp (by simp only at same; omega)
  have inside : live.toFinset.image (fun handle => handle.toInt.toNat) ⊆ Finset.range (2 ^ 31) := by
    intro value member
    obtain ⟨handle, handleMember, rfl⟩ := Finset.mem_image.mp member
    have := values handle (by simpa using handleMember)
    have := handle.toInt_lt
    exact Finset.mem_range.mpr (by omega)
  have counted := Finset.card_le_card inside
  rwa [Finset.card_image_of_injOn injective, Finset.card_range,
    List.toFinset_card_of_nodup distinct] at counted

end Ros2Graph.Foundation
