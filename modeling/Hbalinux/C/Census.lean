import Mathlib.Data.Set.Subsingleton
import Mathlib.Data.List.Nodup

/-! # None, one or several

What a search for the only thing of its kind can report: that there is none, which one it
is, or that there are several.
-/

namespace Hbalinux

variable {α β : Type}

inductive Census (α : Type) where
  | none
  | one (a : α)
  | several
  deriving Repr, DecidableEq

namespace Census

def ofList : List α → Census α
  | [] => .none
  | [a] => .one a
  | _ :: _ :: _ => .several

def map (f : α → β) : Census α → Census β
  | .none => .none
  | .one a => .one (f a)
  | .several => .several

/-- The census counts the members of the set. -/
def Counts (s : Set α) : Census α → Prop
  | .none => s = ∅
  | .one a => s = {a}
  | .several => s.Nontrivial

theorem ofList_map (f : α → β) (l : List α) : ofList (l.map f) = (ofList l).map f := by
  match l with
  | [] | [_] | _ :: _ :: _ => rfl

theorem ofList_eq_one {l : List α} {a : α} : ofList l = .one a ↔ l = [a] := by
  match l with
  | [] | [_] | _ :: _ :: _ => simp [ofList]

/-- The order does not matter. -/
theorem ofList_perm {l l' : List α} (perm : l.Perm l') : ofList l = ofList l' := by
  have lengths := perm.length_eq
  match l, l' with
  | [], l' => rw [List.nil_perm.mp perm]
  | [a], l' => rw [List.singleton_perm.mp perm]
  | _ :: _ :: _, [] | _ :: _ :: _, [_] => simp at lengths
  | _ :: _ :: _, _ :: _ :: _ => rfl

theorem counts_ofList {l : List α} (nodup : l.Nodup) : (ofList l).Counts {a | a ∈ l} := by
  match l with
  | [] => exact Set.eq_empty_of_forall_notMem fun a => List.not_mem_nil
  | [a] => exact Set.ext fun b => List.mem_singleton
  | a :: b :: l =>
      have different : a ≠ b := fun same => (List.nodup_cons.mp nodup).1 (same ▸ List.mem_cons_self ..)
      exact ⟨a, List.mem_cons_self .., b, List.mem_cons_of_mem _ (List.mem_cons_self ..), different⟩

theorem Counts.unique {s : Set α} {c c' : Census α} (counts : c.Counts s) (counts' : c'.Counts s) :
    c = c' := by
  cases c <;> cases c' <;> simp only [Counts] at counts counts'
  case none.none | several.several => rfl
  case one.one a a' => rw [Set.singleton_injective (counts.symm.trans counts')]
  case none.one a => exact absurd (counts.symm.trans counts') (Set.singleton_ne_empty a).symm
  case one.none a => exact absurd (counts'.symm.trans counts) (Set.singleton_ne_empty a).symm
  case none.several => exact absurd counts counts'.nonempty.ne_empty
  case several.none => exact absurd counts' counts.nonempty.ne_empty
  case one.several a => exact absurd (counts ▸ counts') Set.not_nontrivial_singleton
  case several.one a => exact absurd (counts' ▸ counts) Set.not_nontrivial_singleton

section Counts

variable {s : Set α} {c : Census α} (counts : c.Counts s)
include counts

theorem Counts.none_iff : c = .none ↔ s = ∅ := by
  constructor
  · rintro rfl
    exact counts
  · intro empty
    have here : Census.none.Counts s := empty
    exact counts.unique here

theorem Counts.one_iff {a : α} : c = .one a ↔ s = {a} := by
  constructor
  · rintro rfl
    exact counts
  · intro single
    have here : (Census.one a).Counts s := single
    exact counts.unique here

theorem Counts.several_iff : c = .several ↔ s.Nontrivial := by
  constructor
  · rintro rfl
    exact counts
  · intro more
    have here : Census.several.Counts s := more
    exact counts.unique here

end Counts

end Census

end Hbalinux
