import Mathlib.Data.List.Basic

/-!
# RollCall.Proofs.Budget — what is left to pay when names are used up

A traversal that goes into every name once ends because each name has a cost that is paid the first
time it is gone into, and never again. `left` is what a list of named items still costs.
-/

namespace RollCall.Budget

variable {β : Type u} {paid more : List String}

/-- The cost of all items whose names are not among those paid for. -/
def left (name : β → String) (cost : β → Nat) (paid : List String) (items : List β) : Nat :=
  items.foldr (fun x total => (if name x ∈ paid then 0 else cost x) + total) 0

variable (name : β → String) (cost : β → Nat)

theorem left_cons (paid : List String) (x : β) (items : List β) :
    left name cost paid (x :: items) =
      (if name x ∈ paid then 0 else cost x) + left name cost paid items := rfl

/-- With nothing paid for, everything is left. -/
theorem left_nothing_paid (items : List β) (extra : Nat) :
    left name cost [] items + extra = items.foldr (fun x total => cost x + total) extra := by
  induction items with
  | nil => exact Nat.zero_add extra
  | cons x items ih =>
      rw [left_cons, if_neg List.not_mem_nil, List.foldr_cons, ← ih, Nat.add_assoc]

/-- Paying for more leaves no more. -/
theorem left_anti (h : ∀ n ∈ paid, n ∈ more) (items : List β) :
    left name cost more items ≤ left name cost paid items := by
  induction items with
  | nil => exact Nat.le_refl _
  | cons x items ih =>
      rw [left_cons, left_cons]
      by_cases hin : name x ∈ paid
      · rw [if_pos hin, if_pos (h _ hin)]
        omega
      · rw [if_neg hin]
        split <;> omega

/-- Paying for an item takes its cost off what is left. -/
theorem left_add_cost_le (h : ∀ n ∈ paid, n ∈ more) {x : β} {items : List β} (hx : x ∈ items)
    (hnot : name x ∉ paid) (hin : name x ∈ more) :
    left name cost more items + cost x ≤ left name cost paid items := by
  induction items with
  | nil => cases hx
  | cons y items ih =>
      rw [left_cons, left_cons]
      rcases List.mem_cons.mp hx with rfl | hx
      · have hle := left_anti name cost h items
        rw [if_neg hnot, if_pos hin]
        omega
      · have hrest := ih hx
        by_cases hy : name y ∈ paid
        · rw [if_pos hy, if_pos (h _ hy)]
          omega
        · rw [if_neg hy]
          split <;> omega

theorem left_one_le_length (paid : List String) (items : List β) :
    left name (fun _ => 1) paid items ≤ items.length := by
  induction items with
  | nil => exact Nat.le_refl _
  | cons x items ih =>
      rw [left_cons, List.length_cons]
      split <;> omega

end RollCall.Budget
