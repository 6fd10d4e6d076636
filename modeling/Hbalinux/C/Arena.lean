import Mathlib.Data.List.DropRight

/-! # Arenas of heap objects

An arena holds the live objects of one type at numbered addresses.  `alloc` takes
the lowest address not in use, so an address can be given out again after `free`.
The cells are kept without trailing empty ones: two arenas with the same live
objects are equal, whatever was allocated and freed on the way.
-/

namespace Hbalinux

/-- Live objects by address. -/
structure Arena (α : Type) where
  cells : List (Option α)
  trimmed : cells.getLast? ≠ some none

namespace Arena

variable {α : Type}

def get (h : Arena α) (p : Nat) : Option α := h.cells[p]?.join

def ofCells (l : List (Option α)) : Arena α where
  cells := l.rdropWhile Option.isNone
  trimmed := by
    intro last
    have nonempty : l.rdropWhile Option.isNone ≠ [] := by
      intro nil
      simp [nil] at last
    have stays := List.rdropWhile_last_not Option.isNone l nonempty
    rw [List.getLast?_eq_some_getLast nonempty, Option.some.injEq] at last
    simp [last] at stays

def empty : Arena α := ⟨[], by simp⟩

/-- The lowest address not in use. -/
def fresh (h : Arena α) : Nat := h.cells.findIdx Option.isNone

def store (h : Arena α) (p : Nat) (a : α) : Arena α :=
  ofCells ((h.cells ++ List.replicate (p + 1 - h.cells.length) none).set p (some a))

def free (h : Arena α) (p : Nat) : Arena α := ofCells (h.cells.set p none)

def alloc (h : Arena α) (a : α) : Nat × Arena α := (h.fresh, h.store h.fresh a)

private theorem join_rdropWhile (l : List (Option α)) (p : Nat) :
    (l.rdropWhile Option.isNone)[p]?.join = l[p]?.join := by
  induction l using List.reverseRecOn with
  | nil => rfl
  | append_singleton l cell ih =>
      cases cell with
      | some a => rw [List.rdropWhile_concat_neg _ _ _ (by simp)]
      | none =>
          rw [List.rdropWhile_concat_pos _ _ _ rfl, ih, List.getElem?_append]
          split
          · rfl
          · rename_i past
            rw [List.getElem?_eq_none (by omega)]
            cases step : [(none : Option α)][p - l.length]? with
            | none => rfl
            | some cell =>
                have only := List.mem_of_getElem? step
                rw [List.mem_singleton] at only
                rw [only]
                rfl

theorem get_ofCells (l : List (Option α)) (p : Nat) : (ofCells l).get p = l[p]?.join :=
  join_rdropWhile l p

@[simp] theorem get_empty (p : Nat) : (empty : Arena α).get p = none := rfl

theorem get_store (h : Arena α) (p : Nat) (a : α) (q : Nat) :
    (h.store p a).get q = if q = p then some a else h.get q := by
  rw [store, get_ofCells, List.getElem?_set]
  by_cases same : p = q
  · subst same
    have inside : p < (h.cells ++ List.replicate (p + 1 - h.cells.length) none).length := by
      simp only [List.length_append, List.length_replicate]
      omega
    rw [if_pos rfl, if_pos inside, if_pos rfl]
    rfl
  · rw [if_neg same, if_neg (Ne.symm same), get, List.getElem?_append]
    split
    · rfl
    · rename_i past
      rw [List.getElem?_eq_none (l := h.cells) (by omega), List.getElem?_replicate]
      split <;> rfl

@[simp] theorem get_store_self (h : Arena α) (p : Nat) (a : α) : (h.store p a).get p = some a := by
  rw [get_store, if_pos rfl]

theorem get_store_ne {h : Arena α} {p q : Nat} (a : α) (other : q ≠ p) :
    (h.store p a).get q = h.get q := by
  rw [get_store, if_neg other]

theorem get_free (h : Arena α) (p q : Nat) :
    (h.free p).get q = if q = p then none else h.get q := by
  rw [free, get_ofCells, List.getElem?_set]
  by_cases same : p = q
  · subst same
    rw [if_pos rfl, if_pos rfl]
    split <;> rfl
  · rw [if_neg same, if_neg (Ne.symm same), get]

/-- A fresh address has no object. -/
theorem get_fresh (h : Arena α) : h.get h.fresh = none := by
  rw [get, fresh]
  by_cases inside : h.cells.findIdx Option.isNone < h.cells.length
  · have hole := List.findIdx_getElem (w := inside)
    rw [List.getElem?_eq_getElem inside, Option.isNone_iff_eq_none.mp hole]
    rfl
  · rw [List.getElem?_eq_none (by omega)]
    rfl

theorem ne_fresh {h : Arena α} {p : Nat} {a : α} (live : h.get p = some a) : p ≠ h.fresh := by
  intro same
  rw [same, get_fresh] at live
  cases live

theorem lt_of_get {h : Arena α} {p : Nat} {a : α} (live : h.get p = some a) : p < h.cells.length := by
  by_contra past
  rw [get, List.getElem?_eq_none (by omega)] at live
  cases live

private theorem length_le {h k : Arena α} (same : ∀ p, h.get p = k.get p) :
    h.cells.length ≤ k.cells.length := by
  by_contra longer
  have nonempty : h.cells ≠ [] := by
    intro nil
    simp [nil] at longer
  have last : h.cells[h.cells.length - 1]? = h.cells.getLast? := List.getLast?_eq_getElem?.symm
  have gone : k.get (h.cells.length - 1) = none := by
    rw [get, List.getElem?_eq_none (by omega)]
    rfl
  have absent := (same (h.cells.length - 1)).trans gone
  rw [get, last, List.getLast?_eq_some_getLast nonempty, Option.join_some] at absent
  exact h.trimmed (by rw [List.getLast?_eq_some_getLast nonempty, absent])

/-- Arenas with the same live objects are equal. -/
@[ext] theorem ext {h k : Arena α} (same : ∀ p, h.get p = k.get p) : h = k := by
  have cells : h.cells = k.cells := by
    have lengths : h.cells.length = k.cells.length :=
      Nat.le_antisymm (length_le same) (length_le fun p => (same p).symm)
    apply List.ext_getElem lengths
    intro p hp kp
    simpa only [get, List.getElem?_eq_getElem hp, List.getElem?_eq_getElem kp,
      Option.join_some] using same p
  cases h
  cases k
  cases cells
  rfl

theorem free_store {h : Arena α} {p : Nat} (a : α) (unused : h.get p = none) :
    (h.store p a).free p = h := by
  ext1 q
  rw [get_free, get_store]
  by_cases same : q = p
  · rw [if_pos same, same, unused]
  · rw [if_neg same, if_neg same]

theorem store_store (h : Arena α) (p : Nat) (a b : α) :
    (h.store p a).store p b = h.store p b := by
  ext1 q
  simp only [get_store]
  split <;> rfl

/-- Writing back what is there changes nothing. -/
theorem store_get {h : Arena α} {p : Nat} {a : α} (live : h.get p = some a) : h.store p a = h := by
  ext1 q
  rw [get_store]
  split
  · rename_i same
    rw [same, live]
  · rfl

end Arena

end Hbalinux
