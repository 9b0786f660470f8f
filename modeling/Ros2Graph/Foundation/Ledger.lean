import Mathlib.Logic.Function.Basic
import Mathlib.Data.List.Basic

/-! What is acquired and released, and in which order. An entry is in order when it
acquires what is not held, or releases what is held and no longer used by anything
that is. -/

set_option autoImplicit false

namespace Ros2Graph.Foundation

inductive Entry (Resource : Type) where
  | acquired (resource : Resource)
  | released (resource : Resource)
  deriving DecidableEq, Repr

def Entry.resource {Resource : Type} : Entry Resource → Resource
  | .acquired resource | .released resource => resource

namespace Ledger

variable {Resource : Type}

/-- What is held is released, as far as it stands in the order. -/
def releases (held : Resource → Bool) (order : List Resource) : List (Entry Resource) :=
  (order.filter held).map .released

theorem releases_eq_flatMap (held : Resource → Bool) (order : List Resource) :
    releases held order =
      order.flatMap fun resource => if held resource then [.released resource] else [] := by
  induction order with
  | nil => rfl
  | cons resource rest ih =>
      rw [List.flatMap_cons, ← ih]
      cases has : held resource <;> simp [releases, has]

variable [DecidableEq Resource]

/-- What is held after an entry, if it is in order. The users of a resource have to be
released before it. -/
def post (users : Resource → List Resource) (held : Resource → Bool) :
    Entry Resource → Option (Resource → Bool)
  | .acquired resource =>
      if held resource then none else some (Function.update held resource true)
  | .released resource =>
      if held resource && (users resource).all (!held ·) then
        some (Function.update held resource false)
      else none

/-- What is held at the end, if every entry is in order. -/
def balance (users : Resource → List Resource) (held : Resource → Bool) :
    List (Entry Resource) → Option (Resource → Bool)
  | [] => some held
  | entry :: rest => (post users held entry).bind fun next => balance users next rest

/-- Everything comes once, and after its users. -/
def usersFirst (users : Resource → List Resource) (gone : List Resource) :
    List Resource → Bool
  | [] => true
  | resource :: rest =>
      !gone.contains resource && (users resource).all gone.contains &&
        usersFirst users (resource :: gone) rest

variable {users : Resource → List Resource} {held after : Resource → Bool}

theorem balance_append (early late : List (Entry Resource)) :
    balance users held (early ++ late) =
      (balance users held early).bind fun middle => balance users middle late := by
  induction early generalizing held with
  | nil => rfl
  | cons entry rest ih =>
      simp only [List.cons_append, balance]
      cases post users held entry with
      | none => rfl
      | some next => exact ih

theorem balance_acquire {log : List (Entry Resource)} {resource : Resource}
    (before : balance users held log = some after) (free : after resource = false) :
    balance users held (log ++ [.acquired resource]) =
      some (Function.update after resource true) := by
  simp [balance_append, before, balance, post, free]

theorem usersFirst_once {order gone : List Resource} {resource : Resource}
    (sorted : usersFirst users gone order = true) (before : resource ∈ gone) :
    resource ∉ order := by
  induction order generalizing gone with
  | nil => simp
  | cons other rest ih =>
      simp only [usersFirst, Bool.and_eq_true, Bool.not_eq_true'] at sorted
      obtain ⟨⟨fresh, _⟩, onwards⟩ := sorted
      intro member
      rcases List.mem_cons.mp member with rfl | later
      · simp [before] at fresh
      · exact ih onwards (List.mem_cons_of_mem _ before) later

/-- A release in order of what is held leaves what the order does not name. -/
theorem balance_releases {order gone : List Resource}
    (sorted : usersFirst users gone order = true)
    (before : ∀ resource ∈ gone, held resource = false) :
    balance users held (releases held order) =
      some fun resource => held resource && !order.contains resource := by
  induction order generalizing held gone with
  | nil => simp [releases, balance]
  | cons resource rest ih =>
      simp only [usersFirst, Bool.and_eq_true, Bool.not_eq_true', List.all_eq_true,
        List.contains_iff_mem] at sorted
      obtain ⟨⟨fresh, unused⟩, onwards⟩ := sorted
      cases has : held resource with
      | false =>
          have skipped : releases held (resource :: rest) = releases held rest := by
            simp [releases, has]
          rw [skipped, ih onwards fun other member => ?_]
          · congr 1
            funext other
            by_cases same : other = resource
            · simp [same, has]
            · simp [same]
          · rcases List.mem_cons.mp member with rfl | earlier
            · exact has
            · exact before other earlier
      | true =>
          have absent := usersFirst_once onwards List.mem_cons_self
          have first : releases held (resource :: rest) =
              .released resource :: releases (Function.update held resource false) rest := by
            have same : rest.filter held =
                rest.filter (Function.update held resource false) := by
              refine List.filter_congr fun other member => ?_
              have apart : other ≠ resource := by
                rintro rfl
                exact absent member
              rw [Function.update_of_ne apart]
            simp [releases, has, same]
          have noUsers : (users resource).all (!held ·) = true := by
            refine List.all_eq_true.mpr fun user member => ?_
            simp [before user (unused user member)]
          rw [first, balance, post, has, noUsers]
          have step := @ih (Function.update held resource false) (resource :: gone) onwards
            fun other member => ?_
          · simp only [Bool.and_self, if_true, Option.bind_some, step]
            congr 1
            funext other
            by_cases same : other = resource
            · simp [same]
            · simp [same]
          · by_cases same : other = resource
            · simp [same]
            · rw [Function.update_of_ne same]
              exact before other ((List.mem_cons.mp member).resolve_left same)

/-- A release of what only seems to be held is out of order. -/
theorem balance_foreign {seems : Resource → Bool} {order : List Resource}
    (foreign : ∀ resource ∈ order, held resource = false) :
    balance users held (releases seems order) =
      if order.any seems then none else some held := by
  induction order with
  | nil => rfl
  | cons resource rest ih =>
      cases has : seems resource with
      | false =>
          have skipped : releases seems (resource :: rest) = releases seems rest := by
            simp [releases, has]
          rw [skipped, ih fun other member => foreign other (List.mem_cons_of_mem _ member)]
          simp [has]
      | true => simp [releases, balance, post, has, foreign resource List.mem_cons_self]

/-- The frame rule: a resource that the entries do not concern, and that uses nothing, may be
held or not. -/
theorem balance_update {log : List (Entry Resource)} {resource : Resource}
    (balanced : balance users held log = some after)
    (apart : ∀ entry ∈ log, entry.resource ≠ resource)
    (unused : ∀ other, resource ∉ users other) (value : Bool) :
    balance users (Function.update held resource value) log =
      some (Function.update after resource value) := by
  induction log generalizing held with
  | nil =>
      cases balanced
      rfl
  | cons entry rest ih =>
      obtain ⟨next, posted, balanced⟩ := Option.bind_eq_some_iff.mp balanced
      have later := ih balanced fun other member => apart other (List.mem_cons_of_mem _ member)
      have framed : post users (Function.update held resource value) entry =
          some (Function.update next resource value) := by
        cases entry with
        | acquired other =>
            have here : other ≠ resource := apart _ List.mem_cons_self
            obtain ⟨free, done⟩ := Option.ite_none_left_eq_some.mp posted
            cases done
            simp only [post, Function.update_of_ne here, free, if_false, Bool.false_eq_true]
            rw [Function.update_comm here]
        | released other =>
            have here : other ≠ resource := apart _ List.mem_cons_self
            obtain ⟨holds, done⟩ := Option.ite_none_right_eq_some.mp posted
            cases done
            obtain ⟨holds, noUsers⟩ := Bool.and_eq_true_iff.mp holds
            have still : (users other).all (!Function.update held resource value ·) = true := by
              refine List.all_eq_true.mpr fun user member => ?_
              rw [Function.update_of_ne]
              · exact List.all_eq_true.mp noUsers user member
              · rintro rfl
                exact unused other member
            simp only [post, Function.update_of_ne here, holds, still, Bool.and_self, if_true]
            rw [Function.update_comm here]
      rw [balance, framed, Option.bind_some, later]

/-- Where every entry is in order, everything is released as often as it is acquired,
unless it is still held. -/
theorem balance_count {log : List (Entry Resource)} (resource : Resource)
    (balanced : balance users held log = some after) :
    log.count (.acquired resource) + (held resource).toNat =
      log.count (.released resource) + (after resource).toNat := by
  induction log generalizing held with
  | nil =>
      cases balanced
      rfl
  | cons entry rest ih =>
      obtain ⟨next, posted, balanced⟩ := Option.bind_eq_some_iff.mp balanced
      have later := ih balanced
      cases entry with
      | acquired other =>
          obtain ⟨free, done⟩ := Option.ite_none_left_eq_some.mp posted
          cases done
          by_cases same : other = resource
          · subst same
            simp_all
          · have kept : resource ≠ other := fun equal => same equal.symm
            simp_all
      | released other =>
          obtain ⟨holds, done⟩ := Option.ite_none_right_eq_some.mp posted
          cases done
          by_cases same : other = resource
          · subst same
            simp_all
            omega
          · have kept : resource ≠ other := fun equal => same equal.symm
            simp_all

/-- Where nothing is released, what is not held at the end is not concerned. -/
theorem balance_apart {log : List (Entry Resource)} {resource : Resource}
    (balanced : balance users held log = some after)
    (acquiring : ∀ other, Entry.released other ∉ log) (free : after resource = false) :
    ∀ entry ∈ log, entry.resource ≠ resource := by
  have counted := balance_count resource balanced
  rw [List.count_eq_zero_of_not_mem (acquiring resource), free] at counted
  rintro (other | other) member rfl
  · have some := List.count_pos_iff.mpr member
    change 0 < log.count (.acquired other) at some
    simp only [Entry.resource, Bool.toNat_false] at counted
    omega
  · exact acquiring other member

end Ledger

end Ros2Graph.Foundation
