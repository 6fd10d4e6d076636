import Hbalinux.C.Outcome
import Mathlib.Algebra.Group.Nat.Defs
import Mathlib.Logic.Function.Basic
import Mathlib.Tactic.Common

/-! # Integer-indexed tables that can grow

`struct sa_table` and its operations from `utils.h` and `utils.c`.  Sizes and
indices are 32-bit and wrap; results of type `int` are reinterpreted bit patterns.
Each operation that may call `realloc` takes the outcome of that call, which is asked
for `new_size * sizeof(*ap)` bytes: this product is a `size_t` of 64 bits and does not
wrap.

The abstract reading of a table is a partial map from indices to entries
(`SaTable.view`); `SaTable.Wf` is the representation invariant under which every
operation is exact for it.
-/

namespace Hbalinux

/-- Conversion of a `u_int32_t` to `int`. -/
def asInt (v : UInt32) : Int := v.toBitVec.toInt

theorem asInt_of_lt {v : UInt32} (small : v.toNat < 2 ^ 31) : asInt v = v.toNat := by
  have bits : v.toBitVec.toNat = v.toNat := rfl
  rw [asInt, BitVec.toInt_eq_toNat_cond, bits, if_pos (by omega)]

theorem asInt_neg {v : UInt32} (large : 2 ^ 31 ≤ v.toNat) : asInt v < 0 := by
  have bits : v.toBitVec.toNat = v.toNat := rfl
  have bound : v.toNat < 2 ^ 32 := v.toNat_lt
  rw [asInt, BitVec.toInt_eq_toNat_cond, bits, if_neg (by omega)]
  omega

/-- `st_table` is the list of allocated slots; a NULL `st_table` has none. -/
structure SaTable (α : Type) where
  stSize : UInt32
  stLimit : UInt32
  stTable : List (Option α)
  deriving Repr, DecidableEq

variable {α β : Type}

def saTableInit : SaTable α := ⟨0, 0, []⟩

def saTableGrowth : UInt32 := 16

/-- `mem` is the outcome of `realloc`.  The block then has `newSize` slots, and
    the `memset` behind it clears `newSize - stSize` slots from `stSize` on, with
    the difference taken modulo `2 ^ 32`: it leaves the block when `newSize` has
    wrapped below `stSize`. -/
def saTableGrow (tp : SaTable α) (index : UInt32) (mem : Bool) : Outcome (Int × SaTable α) :=
  if tp.stSize ≤ index then
    let newSize := index + saTableGrowth
    if mem = false then
      if newSize = 0 ∧ tp.stTable ≠ [] then .error .zeroRealloc else .ok (-1, tp)
    else if newSize < tp.stSize then .error .outOfBounds
    else .ok (asInt index,
      { stSize := newSize
        stLimit := index + 1
        stTable := tp.stTable ++ List.replicate (newSize - tp.stSize).toNat none })
  else .ok (asInt index, { tp with stLimit := index + 1 })

/-- `tp->st_table[i]` for an index that is not checked against the allocation. -/
def SaTable.slot (tp : SaTable α) (i : Nat) : Outcome (Option α) :=
  .demand .outOfBounds tp.stTable[i]?

/-- The same through a counter of type `int`, which is negative from `2 ^ 31` on. -/
def SaTable.slotInt (tp : SaTable α) (i : Nat) : Outcome (Option α) :=
  if i < 2 ^ 31 then tp.slot i else .error .outOfBounds

def SaTable.store (tp : SaTable α) (index : UInt32) (ep : Option α) : Outcome (SaTable α) :=
  if index.toNat < tp.stTable.length then
    .ok { tp with stTable := tp.stTable.set index.toNat ep }
  else .error .outOfBounds

def saTableInsert (tp : SaTable α) (index : UInt32) (ep : Option α) (mem : Bool) :
    Outcome (Int × SaTable α) :=
  if tp.stLimit ≤ index then do
    let (rc, grown) ← saTableGrow tp index mem
    if rc < 0 then .ok (-1, grown) else do
      let stored ← grown.store index ep
      .ok (asInt index, stored)
  else do
    let stored ← tp.store index ep
    .ok (asInt index, stored)

def saTableAppend (tp : SaTable α) (ep : Option α) (mem : Bool) : Outcome (Int × SaTable α) :=
  saTableInsert tp tp.stLimit ep mem

def saTableLookup (tp : SaTable α) (index : UInt32) : Outcome (Option α) :=
  if index < tp.stLimit then tp.slot index.toNat else .ok none

/-- The loop of `sa_table_lookup_n` over `count` slots from `i` on. -/
def SaTable.lookupNFrom (tp : SaTable α) : (count i : Nat) → UInt32 → Outcome (Option α)
  | 0, _, _ => .ok none
  | count + 1, i, n => do
      match ← tp.slot i with
      | none => tp.lookupNFrom count (i + 1) n
      | some ep => if n = 0 then .ok (some ep) else tp.lookupNFrom count (i + 1) (n - 1)

def saTableLookupN (tp : SaTable α) (n : UInt32) : Outcome (Option α) :=
  tp.lookupNFrom tp.stLimit.toNat 0 n

/-- The loop of `sa_table_search`; its counter is an `int`. -/
def SaTable.searchFrom (tp : SaTable α) (accept : α → Outcome (Option β)) :
    (count i : Nat) → Outcome (Option β)
  | 0, _ => .ok none
  | count + 1, i => do
      match ← tp.slotInt i with
      | none => tp.searchFrom accept count (i + 1)
      | some ep => do
          match ← accept ep with
          | some found => .ok (some found)
          | none => tp.searchFrom accept count (i + 1)

def saTableSearch (tp : SaTable α) (accept : α → Outcome (Option β)) : Outcome (Option β) :=
  tp.searchFrom accept tp.stLimit.toNat 0

/-- The loop of `sa_table_iterate`; its counter is an `int`.  The handler changes what
    `arg` points to, not the table. -/
def SaTable.iterateFrom {σ : Type} (tp : SaTable α) (handler : α → σ → Outcome σ) :
    (count i : Nat) → σ → Outcome σ
  | 0, _, arg => .ok arg
  | count + 1, i, arg => do
      match ← tp.slotInt i with
      | none => tp.iterateFrom handler count (i + 1) arg
      | some ep => do
          let arg ← handler ep arg
          tp.iterateFrom handler count (i + 1) arg

def saTableIterate {σ : Type} (tp : SaTable α) (handler : α → σ → Outcome σ) (arg : σ) : Outcome σ :=
  tp.iterateFrom handler tp.stLimit.toNat 0 arg

def saTableDestroy (_tp : SaTable α) : SaTable α := ⟨0, 0, []⟩

/-- Release the entries of `count` slots from `i` on and clear the slots; the
    counter is an `int`. -/
def SaTable.destroyFrom {σ : Type} (release : α → σ → Outcome σ) :
    (count i : Nat) → SaTable α → σ → Outcome (SaTable α × σ)
  | 0, _, tp, s => .ok (tp, s)
  | count + 1, i, tp, s => do
      match ← tp.slotInt i with
      | none => SaTable.destroyFrom release count (i + 1) tp s
      | some ep => do
          let s ← release ep s
          SaTable.destroyFrom release count (i + 1) { tp with stTable := tp.stTable.set i none } s

def saTableDestroyAll {σ : Type} (release : α → σ → Outcome σ) (tp : SaTable α) (s : σ) :
    Outcome (SaTable α × σ) := do
  let (tp, s) ← if tp.stTable = [] then .ok (tp, s)
    else tp.destroyFrom release tp.stLimit.toNat 0 s
  .ok (saTableDestroy tp, s)

namespace SaTable

/-- The representation invariant: `st_size` counts the allocated slots, and those
    from `st_limit` on are NULL. -/
structure Wf (tp : SaTable α) : Prop where
  allocated : tp.stTable.length = tp.stSize.toNat
  limit : tp.stLimit ≤ tp.stSize
  clear : ∀ i, tp.stLimit.toNat ≤ i → i < tp.stSize.toNat → tp.stTable[i]? = some none

/-- The entries of a table by index. -/
def view (tp : SaTable α) (i : Nat) : Option α :=
  if i < tp.stLimit.toNat then tp.stTable[i]?.join else none

/-- The non-NULL entries in increasing index order. -/
def entries (tp : SaTable α) : List α := (List.range' 0 tp.stLimit.toNat).filterMap tp.view

theorem Wf.limit_le {tp : SaTable α} (wf : tp.Wf) : tp.stLimit.toNat ≤ tp.stTable.length := by
  rw [wf.allocated]
  exact UInt32.le_iff_toNat_le.mp wf.limit

theorem wf_init : (saTableInit : SaTable α).Wf where
  allocated := rfl
  limit := UInt32.le_iff_toNat_le.mpr (Nat.le_refl _)
  clear := by
    intro i _ inside
    simp [saTableInit] at inside

@[simp] theorem view_init (i : Nat) : (saTableInit : SaTable α).view i = none := by
  simp [view, saTableInit]

@[simp] theorem entries_init : (saTableInit : SaTable α).entries = [] := rfl

theorem slot_of_lt {tp : SaTable α} {i : Nat} (inside : i < tp.stTable.length) :
    tp.slot i = .ok tp.stTable[i] := by
  rw [slot, List.getElem?_eq_getElem inside, Outcome.demand_some]

theorem view_of_wf {tp : SaTable α} (wf : tp.Wf) (i : Nat) : tp.view i = tp.stTable[i]?.join := by
  rw [view]
  split
  · rfl
  · rename_i past
    by_cases inside : i < tp.stSize.toNat
    · rw [wf.clear i (by omega) inside]
      rfl
    · rw [List.getElem?_eq_none (by rw [wf.allocated]; omega)]
      rfl

theorem lookup_eq_view {tp : SaTable α} (wf : tp.Wf) (index : UInt32) :
    saTableLookup tp index = .ok (tp.view index.toNat) := by
  have bound := wf.limit_le
  rw [saTableLookup, view]
  by_cases inside : index < tp.stLimit
  · have below := UInt32.lt_iff_toNat_lt.mp inside
    rw [if_pos inside, if_pos below, slot_of_lt (by omega), List.getElem?_eq_getElem (by omega),
      Option.join_some]
  · rw [if_neg inside, if_neg (fun below => inside (UInt32.lt_iff_toNat_lt.mpr below))]

end SaTable

end Hbalinux
