import Hbalinux.C.Text
import Mathlib.Logic.Function.Basic

/-! # Memory around a pointer

The bytes at every offset from a pointer, negative ones included, the same after a
run of bytes is stored, and the string that starts at the pointer.
-/

namespace Hbalinux

abbrev Memory := Int → Char

/-- The memory after some bytes are stored from offset 0 on. -/
def blit (mem : Memory) (bytes : List Char) : Memory := fun i =>
  if 0 ≤ i then bytes[i.toNat]?.getD (mem i) else mem i

@[simp] theorem blit_nil (mem : Memory) : blit mem [] = mem := by
  funext i
  simp [blit]

theorem blit_get {mem : Memory} {bytes : List Char} {k : Nat} {c : Char} (stored : bytes[k]? = some c) :
    blit mem bytes k = c := by
  rw [blit, if_pos (by omega), Int.toNat_natCast, stored, Option.getD_some]

theorem blit_outside {mem : Memory} {bytes : List Char} {i : Int} (outside : i < 0 ∨ bytes.length ≤ i) :
    blit mem bytes i = mem i := by
  rw [blit]
  split
  · rw [List.getElem?_eq_none (by omega), Option.getD_none]
  · rfl

/-- One more byte is stored behind the others. -/
theorem blit_concat (mem : Memory) (bytes : List Char) (c : Char) :
    Function.update (blit mem bytes) bytes.length c = blit mem (bytes ++ [c]) := by
  funext i
  rw [Function.update_apply]
  split
  · rename_i here
    exact here ▸ (blit_get List.getElem?_concat_length).symm
  · rename_i elsewhere
    unfold blit
    split
    · rw [List.getElem?_append]
      split
      · rfl
      · rw [List.getElem?_eq_none (l := bytes) (by omega), List.getElem?_eq_none (by simp; omega)]
    · rfl

/-- A byte among those stored is stored again. -/
theorem blit_set (mem : Memory) (before after : List Char) (c d : Char) :
    Function.update (blit mem (before ++ c :: after)) before.length d =
      blit mem (before ++ d :: after) := by
  funext i
  rw [Function.update_apply]
  split
  · rename_i here
    exact here ▸ (blit_get (by simp)).symm
  · rename_i elsewhere
    unfold blit
    split
    · have same : (before ++ c :: after)[i.toNat]? = (before ++ d :: after)[i.toNat]? := by
        rw [List.getElem?_append, List.getElem?_append]
        split
        · rfl
        · obtain ⟨k, next⟩ : ∃ k, i.toNat - before.length = k + 1 :=
            ⟨i.toNat - before.length - 1, by omega⟩
          rw [next, List.getElem?_cons_succ, List.getElem?_cons_succ]
      rw [same]
    · rfl

/-- The string at the pointer. -/
structure IsString (mem : Memory) (text : CStr) : Prop where
  chars : ∀ (k : Nat) c, text[k]? = some c → mem k = c ∧ c ≠ '\x00'
  ends : mem text.length = '\x00'

theorem IsString.unique {mem : Memory} {text text' : CStr} (isString : IsString mem text)
    (isString' : IsString mem text') : text = text' := by
  -- the shorter of the two would have the other's NUL inside
  have notShorter : ∀ {s t : CStr}, IsString mem s → IsString mem t → ¬ s.length < t.length := by
    intro s t first second shorter
    have inside := second.chars s.length _ (List.getElem?_eq_getElem shorter)
    exact inside.2 (inside.1.symm.trans first.ends)
  apply List.ext_getElem
  · have one := notShorter isString isString'
    have other := notShorter isString' isString
    omega
  · intro k inside inside'
    rw [← (isString.chars k _ (List.getElem?_eq_getElem inside)).1,
      ← (isString'.chars k _ (List.getElem?_eq_getElem inside')).1]

theorem isString_blit (mem : Memory) {text : CStr} (clean : ∀ c ∈ text, c ≠ '\x00') (rest : List Char) :
    IsString (blit mem (text ++ '\x00' :: rest)) text where
  chars := by
    intro k c stored
    have inside := (List.getElem?_eq_some_iff.mp stored).1
    refine ⟨blit_get ?_, clean c (List.mem_of_getElem? stored)⟩
    rw [List.getElem?_append_left inside, stored]
  ends := blit_get (by simp)

end Hbalinux
