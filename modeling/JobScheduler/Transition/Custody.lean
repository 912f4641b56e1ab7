import Mathlib.Data.List.Nodup

/-!
# Exclusive custody

Parties, numbered, hold items. Custody is exclusive when no item is held twice. Giving items
back keeps it so, and so does taking items that nobody else holds.
-/

set_option autoImplicit false

namespace Transition

variable {κ : Type*} {held held' : Nat → List κ}

/-- No item is held twice, neither by two parties nor by one. -/
structure Exclusive (held : Nat → List κ) : Prop where
  once : ∀ i, (held i).Nodup
  apart : ∀ i k, ∀ x ∈ held i, x ∈ held k → i = k

/-- Items are given back. -/
theorem Exclusive.giveBack (exclusive : Exclusive held)
    (fewer : ∀ i, (held' i).Sublist (held i)) : Exclusive held' where
  once i := (exclusive.once i).sublist (fewer i)
  apart i k x first second :=
    exclusive.apart i k x ((fewer i).subset first) ((fewer k).subset second)

/-- A party takes items that no other party holds. -/
theorem Exclusive.take (exclusive : Exclusive held) (taker : Nat)
    (others : ∀ i, i ≠ taker → held' i = held i) (once : (held' taker).Nodup)
    (free : ∀ x ∈ held' taker, ∀ i, i ≠ taker → x ∉ held i) : Exclusive held' where
  once i := by
    by_cases same : i = taker
    · rw [same]
      exact once
    · rw [others i same]
      exact exclusive.once i
  apart i k x first second := by
    by_cases left : i = taker
    · by_cases right : k = taker
      · rw [left, right]
      · rw [left] at first
        rw [others k right] at second
        exact absurd second (free x first k right)
    · by_cases right : k = taker
      · rw [right] at second
        rw [others i left] at first
        exact absurd first (free x second i left)
      · rw [others i left] at first
        rw [others k right] at second
        exact exclusive.apart i k x first second

end Transition
