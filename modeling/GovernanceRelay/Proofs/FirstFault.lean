/-!
# The first fault of a list

Several checks go through a list from the front, count the places from a given index and stop at the
first fault. Each of them searches the list together with its indices, and what such a search finds
is described once: the fault of a place before which every element passes
(`firstFault_eq_some_iff`).
-/

set_option autoImplicit false

namespace GovernanceRelay

variable {α ε : Type}

/-- The first fault that a check finds in a list, the places counted from an index. -/
def firstFault (check : Nat → α → Option ε) (index : Nat) (items : List α) : Option ε :=
  (items.zipIdx index).findSome? fun entry => check entry.2 entry.1

@[simp] theorem firstFault_nil (check : Nat → α → Option ε) (index : Nat) :
    firstFault check index [] = none := rfl

theorem firstFault_cons (check : Nat → α → Option ε) (index : Nat) (item : α) (rest : List α) :
    firstFault check index (item :: rest) =
      match check index item with
      | some fault => some fault
      | none => firstFault check (index + 1) rest := by
  rw [firstFault, List.zipIdx_cons, List.findSome?_cons]
  rfl

section Passing

variable {check : Nat → α → Option ε} {Passes : α → Prop}
  (passes_iff : ∀ index item, check index item = none ↔ Passes item)

include passes_iff

/-- There is no fault exactly when every element passes. -/
theorem firstFault_eq_none_iff (index : Nat) (items : List α) :
    firstFault check index items = none ↔ ∀ item ∈ items, Passes item := by
  induction items generalizing index with
  | nil => simp
  | cons item rest ih =>
    rw [firstFault_cons, List.forall_mem_cons, ← passes_iff index item, ← ih (index + 1)]
    cases check index item <;> simp

/-- The first fault is that of a place before which every element passes. -/
theorem firstFault_eq_some_iff (index : Nat) (items : List α) (fault : ε) :
    firstFault check index items = some fault ↔
      ∃ before item after, items = before ++ item :: after ∧ (∀ earlier ∈ before, Passes earlier) ∧
        check (index + before.length) item = some fault := by
  rw [firstFault, List.findSome?_eq_some_iff]
  constructor
  · rintro ⟨front, entry, back, hsplit, hfault, hfront⟩
    -- the list with its indices splits where the list does
    obtain ⟨before, rest, rfl, rfl, hrest⟩ := List.zipIdx_eq_append_iff.mp hsplit
    obtain ⟨item, after, rfl, rfl, -⟩ := List.zipIdx_eq_cons_iff.mp hrest.symm
    have hnone : firstFault check index before = none := List.findSome?_eq_none_iff.mpr hfront
    exact ⟨before, item, after, rfl, (firstFault_eq_none_iff passes_iff index before).mp hnone,
      hfault⟩
  · rintro ⟨before, item, after, rfl, hbefore, hfault⟩
    have hnone := (firstFault_eq_none_iff passes_iff index before).mpr hbefore
    refine ⟨before.zipIdx index, (item, index + before.length),
      after.zipIdx (index + before.length + 1), ?_, hfault, List.findSome?_eq_none_iff.mp hnone⟩
    rw [List.zipIdx_append, List.zipIdx_cons]

end Passing

end GovernanceRelay
