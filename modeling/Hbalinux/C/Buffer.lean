import Mathlib.Data.List.Basic

/-! # Output buffers

A caller's buffer of limited capacity, cleared and then offered values one after
the other: it keeps those it has room for, in the order of the offers, and leaves
the memory behind it alone.
-/

namespace Hbalinux

variable {α : Type}

/-- The buffer of capacity `n` after the offers `all`, with the memory `rest` behind
    it. -/
def offered (zero : α) (n : Nat) (all rest : List α) : List α :=
  all.take n ++ List.replicate (n - all.length) zero ++ rest

theorem offered_nil (zero : α) (n : Nat) (rest : List α) :
    offered zero n [] rest = List.replicate n zero ++ rest := by
  simp [offered]

/-- The next place is still clear. -/
theorem offered_place {zero : α} {n : Nat} {all : List α} (room : all.length < n) (rest : List α) :
    (offered zero n all rest)[all.length]? = some zero := by
  obtain ⟨more, rfl⟩ := Nat.exists_eq_add_of_lt room
  have clear : all.length + more + 1 - all.length = more + 1 := by omega
  unfold offered
  rw [clear, List.take_of_length_le (by omega), List.append_assoc,
    List.getElem?_append_right (Nat.le_refl _), Nat.sub_self, List.replicate_succ]
  rfl

theorem offered_store {zero : α} {n : Nat} {all : List α} (room : all.length < n) (rest : List α)
    (a : α) : (offered zero n all rest).set all.length a = offered zero n (all ++ [a]) rest := by
  obtain ⟨more, rfl⟩ := Nat.exists_eq_add_of_lt room
  have clear : all.length + more + 1 - all.length = more + 1 := by omega
  have left : all.length + more + 1 - (all ++ [a]).length = more := by
    rw [List.length_append, List.length_singleton]
    omega
  unfold offered
  rw [clear, left, List.take_of_length_le (by omega), List.take_of_length_le (by simp),
    List.replicate_succ]
  simp

/-- A full buffer takes nothing. -/
theorem offered_full {zero : α} {n : Nat} {all : List α} (full : n ≤ all.length) (rest : List α)
    (a : α) : offered zero n (all ++ [a]) rest = offered zero n all rest := by
  unfold offered
  rw [List.take_append_of_le_length full, Nat.sub_eq_zero_of_le full,
    Nat.sub_eq_zero_of_le (by simp; omega)]

theorem offered_map {β : Type} (f : α → β) (zero : α) (n : Nat) (all rest : List α) :
    (offered zero n all rest).map f = offered (f zero) n (all.map f) (rest.map f) := by
  simp [offered, List.map_take]

/-- An offer there was room for. -/
theorem offered_get {zero : α} {n k : Nat} {all : List α} (room : k < n) (given : k < all.length)
    (rest : List α) : (offered zero n all rest)[k]? = all[k]? := by
  unfold offered
  rw [List.append_assoc, List.getElem?_append_left (by simp; omega), List.getElem?_take_of_lt room]

/-- A place nothing was offered for. -/
theorem offered_get_zero {zero : α} {n k : Nat} {all : List α} (room : k < n)
    (notGiven : all.length ≤ k) (rest : List α) : (offered zero n all rest)[k]? = some zero := by
  unfold offered
  rw [List.append_assoc, List.getElem?_append_right (by simp; omega),
    List.getElem?_append_left (by simp; omega), List.getElem?_replicate, if_pos (by simp; omega)]

/-- The memory behind the buffer. -/
theorem offered_get_rest {zero : α} {n k : Nat} {all : List α} (behind : n ≤ k) (rest : List α) :
    (offered zero n all rest)[k]? = rest[k - n]? := by
  have length : (all.take n ++ List.replicate (n - all.length) zero).length = n := by
    simp
    omega
  unfold offered
  rw [List.getElem?_append_right (by omega), length]

end Hbalinux
