import Hbalinux.Table
import Mathlib.Data.List.Nodup

/-! # Tables as partial maps

On a well-formed table every operation is the one its partial map suggests, as
long as indices stay below `2 ^ 31`: inserting updates the map at one index, the
traversals see its entries in index order.
-/

namespace Hbalinux

variable {α β : Type}

namespace SaTable

/-- The table after a successful insert. -/
def put (tp : SaTable α) (index : UInt32) (ep : Option α) : SaTable α :=
  if tp.stLimit ≤ index then
    if tp.stSize ≤ index then
      { stSize := index + saTableGrowth
        stLimit := index + 1
        stTable := (tp.stTable ++
          List.replicate (index + saTableGrowth - tp.stSize).toNat none).set index.toNat ep }
    else { tp with stLimit := index + 1, stTable := tp.stTable.set index.toNat ep }
  else { tp with stTable := tp.stTable.set index.toNat ep }

theorem toNat_growth {index : UInt32} (small : index.toNat < 2 ^ 31) :
    (index + saTableGrowth).toNat = index.toNat + 16 := by
  have sixteen : saTableGrowth.toNat = 16 := rfl
  rw [UInt32.toNat_add, sixteen]
  omega

theorem toNat_succ {index : UInt32} (small : index.toNat < 2 ^ 31) :
    (index + 1).toNat = index.toNat + 1 := by
  have one : (1 : UInt32).toNat = 1 := rfl
  rw [UInt32.toNat_add, one]
  omega

theorem toNat_added {size index : UInt32} (small : index.toNat < 2 ^ 31) (outside : size ≤ index) :
    (index + saTableGrowth - size).toNat = index.toNat + 16 - size.toNat := by
  have below := UInt32.le_iff_toNat_le.mp outside
  rw [UInt32.toNat_sub_of_le _ _ (UInt32.le_iff_toNat_le.mpr (by rw [toNat_growth small]; omega)),
    toNat_growth small]

theorem store_of_lt {tp : SaTable α} {index : UInt32} (ep : Option α)
    (room : index.toNat < tp.stTable.length) :
    tp.store index ep = .ok { tp with stTable := tp.stTable.set index.toNat ep } := if_pos room

/-- Below `2 ^ 31` an insert fails only when memory runs out, and then the table
    is as it was. -/
theorem insert_eq {tp : SaTable α} (wf : tp.Wf) {index : UInt32} (small : index.toNat < 2 ^ 31)
    (ep : Option α) (mem : Bool) :
    saTableInsert tp index ep mem =
      if tp.stSize ≤ index ∧ mem = false then .ok (-1, tp)
      else .ok (index.toNat, tp.put index ep) := by
  have value := asInt_of_lt small
  have grown := toNat_growth small
  have limited := wf.limit_le
  have sized := wf.allocated
  have ordered := UInt32.le_iff_toNat_le.mp wf.limit
  have nonnegative : ¬ (index.toNat : Int) < 0 := by omega
  by_cases past : tp.stLimit ≤ index
  · by_cases outside : tp.stSize ≤ index
    · have below := UInt32.le_iff_toNat_le.mp outside
      cases mem with
      | false =>
          have nonzero : index + saTableGrowth ≠ 0 := by
            intro zero
            simp [zero] at grown
          simp [saTableInsert, saTableGrow, past, outside, nonzero]
      | true =>
          have fits : ¬ index + saTableGrowth < tp.stSize := by
            rw [UInt32.lt_iff_toNat_lt, grown]
            omega
          have room : index.toNat < (tp.stTable ++
              List.replicate (index + saTableGrowth - tp.stSize).toNat none).length := by
            rw [List.length_append, List.length_replicate, toNat_added small outside]
            omega
          simp only [saTableInsert, saTableGrow, put, if_pos past, if_pos outside, if_neg fits, value,
            Bool.true_eq_false, and_false, if_false, Outcome.ok_bind, if_neg nonnegative]
          rw [store_of_lt ep room]
          rfl
    · have inside := UInt32.not_le.mp outside
      have below := UInt32.lt_iff_toNat_lt.mp inside
      have room : index.toNat < tp.stTable.length := by omega
      simp only [saTableInsert, saTableGrow, put, if_pos past, if_neg outside, value,
        Outcome.ok_bind, if_neg nonnegative]
      rw [@store_of_lt _ { tp with stLimit := index + 1 } _ ep room,
        if_neg (fun both => outside both.1)]
      rfl
  · have inside := UInt32.lt_iff_toNat_lt.mp (UInt32.not_le.mp past)
    have outside : ¬ tp.stSize ≤ index := by
      rw [UInt32.le_iff_toNat_le]
      omega
    have room : index.toNat < tp.stTable.length := by omega
    simp only [saTableInsert, put, if_neg past, outside, false_and, if_false, store_of_lt ep room,
      Outcome.ok_bind, value]

theorem limit_put {tp : SaTable α} {index : UInt32} (small : index.toNat < 2 ^ 31) (ep : Option α) :
    (tp.put index ep).stLimit.toNat = max tp.stLimit.toNat (index.toNat + 1) := by
  have next := toNat_succ small
  rw [put]
  by_cases past : tp.stLimit ≤ index
  · have below := UInt32.le_iff_toNat_le.mp past
    rw [if_pos past]
    split <;> simp only [next] <;> omega
  · have inside := UInt32.lt_iff_toNat_lt.mp (UInt32.not_le.mp past)
    rw [if_neg past]
    simp only
    omega

theorem wf_put {tp : SaTable α} (wf : tp.Wf) {index : UInt32} (small : index.toNat < 2 ^ 31)
    (ep : Option α) : (tp.put index ep).Wf := by
  have next := toNat_succ small
  have grown := toNat_growth small
  have ordered := UInt32.le_iff_toNat_le.mp wf.limit
  have sized := wf.allocated
  rw [put]
  by_cases past : tp.stLimit ≤ index
  · have lower := UInt32.le_iff_toNat_le.mp past
    rw [if_pos past]
    by_cases outside : tp.stSize ≤ index
    · have below := UInt32.le_iff_toNat_le.mp outside
      have added := toNat_added small outside
      rw [if_pos outside]
      constructor
      · simp only [List.length_set, List.length_append, List.length_replicate, added, grown]
        omega
      · exact UInt32.le_iff_toNat_le.mpr (by rw [next, grown]; omega)
      · intro i above within
        simp only [next, grown] at above within
        rw [List.getElem?_set_ne (by omega), List.getElem?_append_right (by omega),
          List.getElem?_replicate, if_pos (by rw [added]; omega)]
    · have inside := UInt32.lt_iff_toNat_lt.mp (UInt32.not_le.mp outside)
      rw [if_neg outside]
      constructor
      · simpa only [List.length_set] using sized
      · exact UInt32.le_iff_toNat_le.mpr (by simp only [next]; omega)
      · intro i above within
        simp only [next] at above within
        rw [List.getElem?_set_ne (by omega)]
        exact wf.clear i (by omega) within
  · have inside := UInt32.lt_iff_toNat_lt.mp (UInt32.not_le.mp past)
    rw [if_neg past]
    constructor
    · simpa only [List.length_set] using sized
    · exact wf.limit
    · intro i above within
      simp only at above within
      rw [List.getElem?_set_ne (by omega)]
      exact wf.clear i above within

theorem view_put {tp : SaTable α} (wf : tp.Wf) {index : UInt32} (small : index.toNat < 2 ^ 31)
    (ep : Option α) : (tp.put index ep).view = Function.update tp.view index.toNat ep := by
  funext i
  rw [view_of_wf (wf_put wf small ep), Function.update_apply, view_of_wf wf]
  have sized := wf.allocated
  rw [put]
  by_cases past : tp.stLimit ≤ index
  · rw [if_pos past]
    by_cases outside : tp.stSize ≤ index
    · have below := UInt32.le_iff_toNat_le.mp outside
      have added := toNat_added small outside
      rw [if_pos outside, List.getElem?_set]
      by_cases same : index.toNat = i
      · rw [if_pos same, if_pos same.symm, if_pos]
        · rfl
        · rw [List.length_append, List.length_replicate, added]
          omega
      · rw [if_neg same, if_neg (Ne.symm same), List.getElem?_append]
        split
        · rfl
        · rw [List.getElem?_eq_none (l := tp.stTable) (by omega), List.getElem?_replicate]
          split <;> rfl
    · have inside := UInt32.lt_iff_toNat_lt.mp (UInt32.not_le.mp outside)
      rw [if_neg outside, List.getElem?_set]
      by_cases same : index.toNat = i
      · rw [if_pos same, if_pos same.symm, if_pos (by omega)]
        rfl
      · rw [if_neg same, if_neg (Ne.symm same)]
  · have inside := UInt32.lt_iff_toNat_lt.mp (UInt32.not_le.mp past)
    have bound := wf.limit_le
    rw [if_neg past, List.getElem?_set]
    by_cases same : index.toNat = i
    · rw [if_pos same, if_pos same.symm, if_pos (by omega)]
      rfl
    · rw [if_neg same, if_neg (Ne.symm same)]

theorem view_of_limit_le {tp : SaTable α} {i : Nat} (past : tp.stLimit.toNat ≤ i) :
    tp.view i = none := if_neg (by omega)

theorem mem_entries {tp : SaTable α} {ep : α} : ep ∈ tp.entries ↔ ∃ i, tp.view i = some ep := by
  rw [entries, List.mem_filterMap]
  constructor
  · rintro ⟨i, _, found⟩
    exact ⟨i, found⟩
  · rintro ⟨i, found⟩
    refine ⟨i, ?_, found⟩
    rw [List.mem_range'_1]
    by_contra past
    rw [view_of_limit_le (by omega)] at found
    cases found

/-- What a table holds after an append. -/
theorem mem_entries_append {tp : SaTable α} (wf : tp.Wf) (small : tp.stLimit.toNat < 2 ^ 31) (ep : α)
    (a : α) : a ∈ (tp.put tp.stLimit (some ep)).entries ↔ a = ep ∨ a ∈ tp.entries := by
  simp only [mem_entries, view_put wf small, Function.update_apply]
  constructor
  · rintro ⟨i, found⟩
    split at found
    · exact .inl (Option.some.inj found).symm
    · exact .inr ⟨i, found⟩
  · rintro (rfl | ⟨i, found⟩)
    · exact ⟨tp.stLimit.toNat, if_pos rfl⟩
    · refine ⟨i, ?_⟩
      rw [if_neg, found]
      rintro rfl
      rw [view_of_limit_le (Nat.le_refl _)] at found
      cases found

/-- An append puts the entry behind all others. -/
theorem entries_append {tp : SaTable α} (wf : tp.Wf) (small : tp.stLimit.toNat < 2 ^ 31) (ep : α) :
    (tp.put tp.stLimit (some ep)).entries = tp.entries ++ [ep] := by
  have limit : (tp.put tp.stLimit (some ep)).stLimit.toNat = tp.stLimit.toNat + 1 := by
    rw [limit_put small]
    omega
  have older : (List.range' 0 tp.stLimit.toNat).filterMap
      (Function.update tp.view tp.stLimit.toNat (some ep)) = tp.entries := by
    apply List.filterMap_congr
    intro i member
    rw [List.mem_range'_1] at member
    exact Function.update_of_ne (by omega) _ _
  rw [entries, view_put wf small, limit, List.range'_1_concat, List.filterMap_append, older,
    Nat.zero_add, List.filterMap_cons_some (Function.update_self ..), List.filterMap_nil]

private theorem slot_eq_view {tp : SaTable α} (wf : tp.Wf) {i : Nat} (inside : i < tp.stLimit.toNat) :
    tp.slot i = .ok (tp.view i) := by
  have bound := wf.limit_le
  rw [slot_of_lt (by omega), view, if_pos inside, List.getElem?_eq_getElem (by omega),
    Option.join_some]

private theorem lookupNFrom_eq {tp : SaTable α} (wf : tp.Wf) (count i : Nat) (n : UInt32)
    (inside : i + count ≤ tp.stLimit.toNat) :
    tp.lookupNFrom count i n = .ok ((List.range' i count).filterMap tp.view)[n.toNat]? := by
  induction count generalizing i n with
  | zero => rfl
  | succ count ih =>
      rw [lookupNFrom, slot_eq_view wf (by omega), Outcome.ok_bind, List.range'_succ]
      cases found : tp.view i with
      | none =>
          rw [List.filterMap_cons_none found]
          exact ih (i + 1) n (by omega)
      | some ep =>
          rw [List.filterMap_cons_some found]
          by_cases first : n = 0
          · subst first
            rfl
          · have positive : n.toNat ≠ 0 := fun zero => first (UInt32.toNat_inj.mp zero)
            have one : (1 : UInt32) ≤ n := UInt32.le_iff_toNat_le.mpr (by
              have value : (1 : UInt32).toNat = 1 := rfl
              omega)
            simp only [if_neg first]
            rw [ih (i + 1) (n - 1) (by omega), UInt32.toNat_sub_of_le _ _ one]
            obtain ⟨k, same⟩ := Nat.exists_eq_succ_of_ne_zero positive
            rw [same]
            rfl

/-- The `n`-th non-NULL entry, in index order. -/
theorem lookupN_eq {tp : SaTable α} (wf : tp.Wf) (n : UInt32) :
    saTableLookupN tp n = .ok tp.entries[n.toNat]? :=
  lookupNFrom_eq wf tp.stLimit.toNat 0 n (by omega)

/-- There are no entries past the limit. -/
theorem entries_of_le (tp : SaTable α) {n : Nat} (large : tp.stLimit.toNat ≤ n) :
    (List.range' 0 n).filterMap tp.view = tp.entries := by
  obtain ⟨more, rfl⟩ := Nat.exists_eq_add_of_le large
  rw [entries, ← List.range'_append_1, List.filterMap_append,
    List.filterMap_eq_nil_iff (l := List.range' _ more) |>.mpr, List.append_nil]
  intro i member
  rw [List.mem_range'_1] at member
  exact view_of_limit_le (by omega)

/-- The search of a list that `sa_table_search` performs on its entries. -/
def firstMatch (accept : α → Outcome (Option β)) : List α → Outcome (Option β)
  | [] => .ok none
  | ep :: rest => do
      match ← accept ep with
      | some found => .ok (some found)
      | none => firstMatch accept rest

private theorem searchFrom_eq {tp : SaTable α} (wf : tp.Wf) (accept : α → Outcome (Option β))
    (count i : Nat) (inside : i + count ≤ tp.stLimit.toNat) (small : i + count ≤ 2 ^ 31) :
    tp.searchFrom accept count i = firstMatch accept ((List.range' i count).filterMap tp.view) := by
  induction count generalizing i with
  | zero => rfl
  | succ count ih =>
      rw [searchFrom, slotInt, if_pos (by omega), slot_eq_view wf (by omega), Outcome.ok_bind,
        List.range'_succ]
      cases found : tp.view i with
      | none =>
          rw [List.filterMap_cons_none found]
          exact ih (i + 1) (by omega) (by omega)
      | some ep =>
          rw [List.filterMap_cons_some found, firstMatch]
          dsimp only
          cases accept ep with
          | error fault => rfl
          | ok result =>
              cases result with
              | none => exact ih (i + 1) (by omega) (by omega)
              | some b => rfl

theorem search_eq {tp : SaTable α} (wf : tp.Wf) (small : tp.stLimit.toNat ≤ 2 ^ 31)
    (accept : α → Outcome (Option β)) : saTableSearch tp accept = firstMatch accept tp.entries :=
  searchFrom_eq wf accept tp.stLimit.toNat 0 (by omega) (by omega)

private theorem iterateFrom_eq {σ : Type} {tp : SaTable α} (wf : tp.Wf) (handler : α → σ → Outcome σ)
    (count i : Nat) (inside : i + count ≤ tp.stLimit.toNat) (small : i + count ≤ 2 ^ 31) (arg : σ) :
    tp.iterateFrom handler count i arg =
      ((List.range' i count).filterMap tp.view).foldlM (fun arg ep => handler ep arg) arg := by
  induction count generalizing i arg with
  | zero => rfl
  | succ count ih =>
      rw [iterateFrom, slotInt, if_pos (by omega), slot_eq_view wf (by omega), Outcome.ok_bind,
        List.range'_succ]
      cases found : tp.view i with
      | none =>
          rw [List.filterMap_cons_none found]
          exact ih (i + 1) (by omega) (by omega) arg
      | some ep =>
          rw [List.filterMap_cons_some found, List.foldlM_cons]
          cases called : handler ep arg with
          | error fault => simp [called]
          | ok arg' =>
              simp only [called, Outcome.ok_bind]
              exact ih (i + 1) (by omega) (by omega) arg'

/-- The handler is called on the entries, in index order. -/
theorem iterate_eq {σ : Type} {tp : SaTable α} (wf : tp.Wf) (small : tp.stLimit.toNat ≤ 2 ^ 31)
    (handler : α → σ → Outcome σ) (arg : σ) :
    saTableIterate tp handler arg = tp.entries.foldlM (fun arg ep => handler ep arg) arg :=
  iterateFrom_eq wf handler tp.stLimit.toNat 0 (by omega) (by omega) arg

theorem firstMatch_pure (accept : α → Option β) (eps : List α) :
    firstMatch (fun ep => .ok (accept ep)) eps = .ok (eps.findSome? accept) := by
  induction eps with
  | nil => rfl
  | cons ep eps ih =>
      rw [firstMatch, Outcome.ok_bind, List.findSome?_cons]
      cases accept ep with
      | none => exact ih
      | some found => rfl

theorem append_eq {tp : SaTable α} (wf : tp.Wf) (small : tp.stLimit.toNat < 2 ^ 31)
    (ep : Option α) (mem : Bool) :
    saTableAppend tp ep mem =
      if tp.stSize ≤ tp.stLimit ∧ mem = false then .ok (-1, tp)
      else .ok (tp.stLimit.toNat, tp.put tp.stLimit ep) := insert_eq wf small ep mem

theorem destroyFrom_eq {σ : Type} {release : α → σ → Outcome σ} {view : Nat → Option α}
    {count i : Nat} (small : i + count ≤ 2 ^ 31) {tp : SaTable α}
    (slots : ∀ j, i ≤ j → j < i + count → tp.stTable[j]? = some (view j)) (s : σ) :
    Except.map Prod.snd (tp.destroyFrom release count i s) =
      ((List.range' i count).filterMap view).foldlM (fun s ep => release ep s) s := by
  induction count generalizing i tp s with
  | zero => rfl
  | succ count ih =>
      have here := slots i (Nat.le_refl _) (by omega)
      rw [destroyFrom, slotInt, if_pos (by omega), slot, here,
        Outcome.demand_some, Outcome.ok_bind, List.range'_succ]
      cases found : view i with
      | none =>
          rw [List.filterMap_cons_none found]
          exact ih (by omega) (fun j low high => slots j (by omega) (by omega)) s
      | some ep =>
          rw [List.filterMap_cons_some found, List.foldlM_cons]
          cases released : release ep s with
          | error fault => simp [released, Except.map]
          | ok s' =>
              simp only [released, Outcome.ok_bind]
              refine ih (by omega) (fun j low high => ?_) s'
              rw [List.getElem?_set_ne (by omega)]
              exact slots j (by omega) (by omega)

theorem wf_slots {tp : SaTable α} (wf : tp.Wf) {j : Nat} (inside : j < tp.stLimit.toNat) :
    tp.stTable[j]? = some (tp.view j) := by
  have bound := wf.limit_le
  rw [view, if_pos inside, List.getElem?_eq_getElem (by omega), Option.join_some]

theorem destroyFrom_limit_eq {σ : Type} (release : α → σ → Outcome σ) {tp : SaTable α} (wf : tp.Wf)
    (small : tp.stLimit.toNat ≤ 2 ^ 31) (s : σ) :
    Except.map Prod.snd (tp.destroyFrom release tp.stLimit.toNat 0 s) =
      tp.entries.foldlM (fun s ep => release ep s) s := by
  apply destroyFrom_eq (by omega)
  intro j _ high
  exact wf_slots wf (by omega)

/-- Destroying a well-formed table releases its entries in index order. -/
theorem destroyAll_eq {σ : Type} (release : α → σ → Outcome σ) {tp : SaTable α} (wf : tp.Wf)
    (small : tp.stLimit.toNat ≤ 2 ^ 31) (s : σ) :
    Except.map Prod.snd (saTableDestroyAll release tp s) =
      tp.entries.foldlM (fun s ep => release ep s) s := by
  rw [← destroyFrom_limit_eq release wf small, saTableDestroyAll]
  by_cases empty : tp.stTable = []
  · have none : tp.stLimit.toNat = 0 := by
      have bound := wf.limit_le
      rw [empty] at bound
      exact Nat.le_zero.mp bound
    rw [if_pos empty, none]
    rfl
  · rw [if_neg empty]
    cases tp.destroyFrom release tp.stLimit.toNat 0 s <;> rfl

/-- The table after an insert that fails only for lack of memory. -/
def tryPut (tp : SaTable α) (index : UInt32) (ep : Option α) (mem : Bool) : SaTable α :=
  if tp.stSize ≤ index ∧ mem = false then tp else tp.put index ep

theorem insert_table {tp : SaTable α} (wf : tp.Wf) {index : UInt32} (small : index.toNat < 2 ^ 31)
    (ep : Option α) (mem : Bool) :
    ∃ rc, saTableInsert tp index ep mem = .ok (rc, tp.tryPut index ep mem) := by
  rw [insert_eq wf small, tryPut]
  split
  · exact ⟨-1, rfl⟩
  · exact ⟨index.toNat, rfl⟩

theorem wf_tryPut {tp : SaTable α} (wf : tp.Wf) {index : UInt32} (small : index.toNat < 2 ^ 31)
    (ep : Option α) (mem : Bool) : (tp.tryPut index ep mem).Wf := by
  rw [tryPut]
  split
  · exact wf
  · exact wf_put wf small ep

theorem limit_tryPut {tp : SaTable α} {index : UInt32} (small : index.toNat < 2 ^ 31)
    (few : tp.stLimit.toNat ≤ 2 ^ 31) (ep : Option α) (mem : Bool) :
    (tp.tryPut index ep mem).stLimit.toNat ≤ 2 ^ 31 := by
  unfold tryPut
  split
  · exact few
  · rw [limit_put small]
    omega

@[simp] theorem tryPut_true (tp : SaTable α) (index : UInt32) (ep : Option α) :
    tp.tryPut index ep true = tp.put index ep := by
  simp [tryPut]

/-- Storing an entry where it is already changes nothing. -/
theorem put_self {tp : SaTable α} {index : UInt32} {ep : α} (there : tp.view index.toNat = some ep) :
    tp.put index (some ep) = tp := by
  rw [view] at there
  split at there
  · rename_i inside
    have below : ¬ tp.stLimit ≤ index := by
      rw [UInt32.le_iff_toNat_le]
      omega
    rw [put, if_neg below]
    cases slot : tp.stTable[index.toNat]? with
    | none => simp [slot] at there
    | some cell =>
        rw [slot, Option.join_some] at there
        obtain ⟨room, value⟩ := List.getElem?_eq_some_iff.mp slot
        have same : tp.stTable.set index.toNat (some ep) = tp.stTable := by
          rw [← there, ← value, List.set_getElem_self]
        rw [same]
  · cases there

/-- Growing returns -1 or the index, both as an `int`. -/
theorem grow_result {tp tp' : SaTable α} {index : UInt32} {mem : Bool} {rc : Int}
    (grew : saTableGrow tp index mem = .ok (rc, tp')) : rc = -1 ∨ rc = asInt index := by
  rw [saTableGrow] at grew
  split at grew
  · simp only at grew
    split at grew
    · split at grew
      · cases grew
      · cases grew
        exact .inl rfl
    · split at grew
      · cases grew
      · cases grew
        exact .inr rfl
  · cases grew
    exact .inr rfl

/-- Growing adds no entry. -/
theorem grow_entries {tp tp' : SaTable α} {index : UInt32} {mem : Bool} {rc : Int} {d : Nat} {r : α}
    (grew : saTableGrow tp index mem = .ok (rc, tp')) (slot : tp'.stTable[d]? = some (some r)) :
    tp.stTable[d]? = some (some r) := by
  rw [saTableGrow] at grew
  split at grew
  · simp only at grew
    split at grew
    · split at grew
      · cases grew
      · cases grew
        exact slot
    · split at grew
      · cases grew
      · cases grew
        simp only [List.getElem?_append] at slot
        split at slot
        · exact slot
        · rw [List.getElem?_replicate] at slot
          split at slot <;> cases slot
  · cases grew
    exact slot

/-- Where the entries of a table come from, whatever the index and the outcome of an
    insert. -/
theorem insert_entries {tp tp' : SaTable α} {index : UInt32} {ep : Option α} {mem : Bool} {rc : Int}
    {d : Nat} {r : α} (called : saTableInsert tp index ep mem = .ok (rc, tp'))
    (slot : tp'.stTable[d]? = some (some r)) :
    tp.stTable[d]? = some (some r) ∨ (d = index.toNat ∧ ep = some r) := by
  have stored : ∀ {old new : SaTable α}, old.store index ep = .ok new →
      new.stTable[d]? = some (some r) →
      old.stTable[d]? = some (some r) ∨ (d = index.toNat ∧ ep = some r) := by
    intro old new written entry
    rw [store] at written
    split at written
    · rename_i room
      cases written
      simp only [List.getElem?_set] at entry
      by_cases same : index.toNat = d
      · rw [if_pos same, if_pos room] at entry
        exact .inr ⟨same.symm, Option.some.inj entry⟩
      · rw [if_neg same] at entry
        exact .inl entry
    · cases written
  rw [saTableInsert] at called
  split at called
  · obtain ⟨⟨code, new⟩, grew, rest⟩ := Outcome.bind_eq_ok.mp called
    simp only at rest
    split at rest
    · cases rest
      exact .inl (grow_entries grew slot)
    · obtain ⟨last, written, rest⟩ := Outcome.bind_eq_ok.mp rest
      cases rest
      exact (stored written slot).imp_left (grow_entries grew)
  · obtain ⟨last, written, rest⟩ := Outcome.bind_eq_ok.mp called
    cases rest
    exact stored written slot

/-- An insert at a new index that reads as a negative number adds no entry. -/
theorem insert_negative {tp tp' : SaTable α} {index : UInt32} {ep : Option α} {mem : Bool} {rc : Int}
    {d : Nat} {r : α} (past : tp.stLimit ≤ index) (large : 2 ^ 31 ≤ index.toNat)
    (called : saTableInsert tp index ep mem = .ok (rc, tp'))
    (slot : tp'.stTable[d]? = some (some r)) : tp.stTable[d]? = some (some r) := by
  rw [saTableInsert, if_pos past] at called
  obtain ⟨⟨code, grown⟩, grew, rest⟩ := Outcome.bind_eq_ok.mp called
  have negative : code < 0 := by
    rcases grow_result grew with rfl | rfl
    · decide
    · exact asInt_neg large
  simp only [if_pos negative] at rest
  cases rest
  exact grow_entries grew slot

/-- An insert with an index that reads as a negative number, or without room and memory, adds no
    entry. -/
theorem insert_unstored {tp tp' : SaTable α} {index : UInt32} {ep : Option α} {mem : Bool} {rc : Int}
    {d : Nat} {r : α} (wf : tp.Wf) (few : tp.stLimit.toNat ≤ 2 ^ 31)
    (unstorable : ¬ (index.toNat < 2 ^ 31 ∧ (index < tp.stSize ∨ mem = true)))
    (called : saTableInsert tp index ep mem = .ok (rc, tp'))
    (slot : tp'.stTable[d]? = some (some r)) : tp.stTable[d]? = some (some r) := by
  by_cases small : index.toNat < 2 ^ 31
  · have full : tp.stSize ≤ index ∧ mem = false := by
      rw [not_and, not_or] at unstorable
      exact ⟨UInt32.not_lt.mp (unstorable small).1, Bool.eq_false_iff.mpr (unstorable small).2⟩
    rw [insert_eq wf small, if_pos full] at called
    cases called
    exact slot
  · exact insert_negative (UInt32.le_iff_toNat_le.mpr (by omega)) (by omega) called slot

/-- An insert returns -1 or the index, both as an `int`. -/
theorem insert_result {tp tp' : SaTable α} {index : UInt32} {ep : Option α} {mem : Bool} {rc : Int}
    (called : saTableInsert tp index ep mem = .ok (rc, tp')) : rc = -1 ∨ rc = asInt index := by
  unfold saTableInsert at called
  split at called
  · obtain ⟨⟨code, grown⟩, -, rest⟩ := Outcome.bind_eq_ok.mp called
    simp only at rest
    split at rest
    · cases rest
      exact .inl rfl
    · obtain ⟨stored, -, rest⟩ := Outcome.bind_eq_ok.mp rest
      cases rest
      exact .inr rfl
  · obtain ⟨stored, -, rest⟩ := Outcome.bind_eq_ok.mp called
    cases rest
    exact .inr rfl

/-- What an insert can do to the size and the limit. -/
theorem insert_shape {tp tp' : SaTable α} {index : UInt32} {ep : Option α} {mem : Bool} {rc : Int}
    (called : saTableInsert tp index ep mem = .ok (rc, tp')) :
    (tp'.stSize = tp.stSize ∧ (tp'.stLimit = tp.stLimit ∨ tp'.stLimit = index + 1)) ∨
      (tp.stSize ≤ index ∧ tp.stSize ≤ index + saTableGrowth ∧
        tp'.stSize = index + saTableGrowth ∧ tp'.stLimit = index + 1) := by
  have stored : ∀ {old new : SaTable α}, old.store index ep = .ok new →
      new.stSize = old.stSize ∧ new.stLimit = old.stLimit := by
    intro old new written
    rw [store] at written
    split at written
    · cases written
      exact ⟨rfl, rfl⟩
    · cases written
  have grown : ∀ {code : Int} {new : SaTable α}, saTableGrow tp index mem = .ok (code, new) →
      (new.stSize = tp.stSize ∧ (new.stLimit = tp.stLimit ∨ new.stLimit = index + 1)) ∨
        (tp.stSize ≤ index ∧ tp.stSize ≤ index + saTableGrowth ∧
          new.stSize = index + saTableGrowth ∧ new.stLimit = index + 1) := by
    intro code new grew
    rw [saTableGrow] at grew
    split at grew
    · rename_i outside
      simp only at grew
      split at grew
      · split at grew
        · cases grew
        · cases grew
          exact .inl ⟨rfl, .inl rfl⟩
      · split at grew
        · cases grew
        · rename_i fits
          cases grew
          exact .inr ⟨outside, UInt32.not_lt.mp fits, rfl, rfl⟩
    · cases grew
      exact .inl ⟨rfl, .inr rfl⟩
  rw [saTableInsert] at called
  split at called
  · obtain ⟨⟨code, new⟩, grew, rest⟩ := Outcome.bind_eq_ok.mp called
    simp only at rest
    split at rest
    · cases rest
      exact grown grew
    · obtain ⟨last, written, rest⟩ := Outcome.bind_eq_ok.mp rest
      cases rest
      rw [(stored written).1, (stored written).2]
      exact grown grew
  · obtain ⟨last, written, rest⟩ := Outcome.bind_eq_ok.mp called
    cases rest
    exact .inl ⟨(stored written).1, .inl (stored written).2⟩

/-- A table never loses slots by an insert. -/
theorem insert_size {tp tp' : SaTable α} {index : UInt32} {ep : Option α} {mem : Bool} {rc : Int}
    (called : saTableInsert tp index ep mem = .ok (rc, tp')) :
    tp.stSize.toNat ≤ tp'.stSize.toNat := by
  rcases insert_shape called with ⟨same, -⟩ | ⟨-, larger, size, -⟩
  · exact Nat.le_of_eq (congrArg UInt32.toNat same.symm)
  · rw [size]
    exact UInt32.le_iff_toNat_le.mp larger

/-- An insert moves the limit to just past its index or not at all. -/
theorem insert_limit {tp tp' : SaTable α} {index : UInt32} {ep : Option α} {mem : Bool} {rc : Int}
    (called : saTableInsert tp index ep mem = .ok (rc, tp')) :
    tp'.stLimit = tp.stLimit ∨ tp'.stLimit = index + 1 := by
  rcases insert_shape called with ⟨-, limit⟩ | ⟨-, -, -, limit⟩
  · exact limit
  · exact .inr limit

/-- Appends leave the size a multiple of the growth. -/
theorem append_aligned {tp tp' : SaTable α} {ep : Option α} {mem : Bool} {rc : Int} (wf : tp.Wf)
    (aligned : 16 ∣ tp.stSize.toNat) (called : saTableAppend tp ep mem = .ok (rc, tp')) :
    16 ∣ tp'.stSize.toNat := by
  rcases insert_shape called with ⟨same, -⟩ | ⟨outside, -, size, -⟩
  · rwa [same]
  · -- the limit has reached the size
    have ordered := UInt32.le_iff_toNat_le.mp wf.limit
    have reached := UInt32.le_iff_toNat_le.mp outside
    have sixteen : saTableGrowth.toNat = 16 := rfl
    rw [size, UInt32.toNat_add, sixteen]
    omega

/-- A well-formed table without slots is the one everything starts from. -/
theorem eq_init {tp : SaTable α} (wf : tp.Wf) (none : tp.stSize = 0) : tp = saTableInit := by
  have slots := wf.allocated
  have limit := UInt32.le_iff_toNat_le.mp wf.limit
  rw [none] at slots limit
  cases tp with
  | mk stSize stLimit stTable =>
      simp only at none slots limit
      have noSlot : stTable = [] := List.length_eq_zero_iff.mp slots
      have noLimit : stLimit = 0 := UInt32.toNat_inj.mp (Nat.le_zero.mp limit)
      rw [none, noSlot, noLimit, saTableInit]

theorem slot_of_view {tp : SaTable α} {i : Nat} {ep : α} (entry : tp.view i = some ep) :
    tp.stTable[i]? = some (some ep) := by
  unfold view at entry
  split at entry
  · cases slot : tp.stTable[i]? with
    | none => simp [slot] at entry
    | some cell =>
        rw [slot, Option.join_some] at entry
        rw [entry]
  · cases entry

theorem entries_nodup {tp : SaTable α}
    (distinct : ∀ i j ep, tp.view i = some ep → tp.view j = some ep → i = j) : tp.entries.Nodup :=
  List.Nodup.filterMap distinct List.nodup_range'

/-- A table whose end has moved up by some NULL slots. -/
theorem wf_extend {tp : SaTable α} (wf : tp.Wf) (size limit : UInt32) (more : Nat)
    (sized : size.toNat = tp.stSize.toNat + more) (lower : tp.stLimit.toNat ≤ limit.toNat)
    (upper : limit.toNat ≤ size.toNat) :
    (⟨size, limit, tp.stTable ++ List.replicate more none⟩ : SaTable α).Wf ∧
      (⟨size, limit, tp.stTable ++ List.replicate more none⟩ : SaTable α).view = tp.view := by
  have allocated := wf.allocated
  have slots : ∀ i : Nat, (tp.stTable ++ List.replicate more (none : Option α))[i]?.join =
      tp.stTable[i]?.join := by
    intro i
    rw [List.getElem?_append]
    split
    · rfl
    · rw [List.getElem?_eq_none (l := tp.stTable) (by omega), List.getElem?_replicate]
      split <;> rfl
  have wf' : (⟨size, limit, tp.stTable ++ List.replicate more none⟩ : SaTable α).Wf := by
    refine ⟨?_, UInt32.le_iff_toNat_le.mpr upper, fun i low high => ?_⟩
    · simp only [List.length_append, List.length_replicate]
      omega
    · simp only at low high
      rw [List.getElem?_append]
      split
      · exact wf.clear i (by omega) (by omega)
      · rw [List.getElem?_replicate, if_pos (by omega)]
  refine ⟨wf', ?_⟩
  funext i
  rw [view_of_wf wf', view_of_wf wf, slots]

/-- An append of a well-formed table stores the entry, is refused memory, or has moved
    the limit past an index that reads as a negative number. -/
theorem append_cases {tp tp' : SaTable α} {ep : α} {mem : Bool} {rc : Int} (wf : tp.Wf)
    (called : saTableAppend tp (some ep) mem = .ok (rc, tp')) :
    (rc < 0 ∧ tp' = tp ∧ mem = false) ∨
      (rc < 0 ∧ 2 ^ 31 ≤ tp.stLimit.toNat ∧ tp'.Wf ∧ tp'.view = tp.view ∧
        tp'.stLimit.toNat = tp.stLimit.toNat + 1) ∨
      (0 ≤ rc ∧ tp.stLimit.toNat < 2 ^ 31 ∧ tp' = tp.put tp.stLimit (some ep)) := by
  by_cases small : tp.stLimit.toNat < 2 ^ 31
  · rw [append_eq wf small] at called
    split at called
    · rename_i refused
      cases called
      exact .inl ⟨by decide, rfl, refused.2⟩
    · cases called
      exact .inr (.inr ⟨by omega, small, rfl⟩)
  · have negative := asInt_neg (v := tp.stLimit) (by omega)
    have ordered := UInt32.le_iff_toNat_le.mp wf.limit
    have bound := tp.stSize.toNat_lt
    have one : (1 : UInt32).toNat = 1 := rfl
    have sixteen : saTableGrowth.toNat = 16 := rfl
    have next : tp.stLimit.toNat + 1 < 2 ^ 32 → (tp.stLimit + 1).toNat = tp.stLimit.toNat + 1 := by
      intro room
      rw [UInt32.toNat_add, one]
      omega
    rw [saTableAppend, saTableInsert, if_pos (UInt32.le_refl _), saTableGrow] at called
    by_cases outside : tp.stSize ≤ tp.stLimit
    · have below := UInt32.le_iff_toNat_le.mp outside
      rw [if_pos outside] at called
      simp only at called
      split at called
      · rename_i refused
        split at called
        · cases called
        · cases called
          exact .inl ⟨by decide, rfl, refused⟩
      · split at called
        · cases called
        · rename_i fits
          rw [Outcome.ok_bind, if_pos negative] at called
          cases called
          rw [UInt32.not_lt, UInt32.le_iff_toNat_le, UInt32.toNat_add, sixteen] at fits
          have sum : (tp.stLimit + saTableGrowth).toNat = tp.stLimit.toNat + 16 := by
            rw [UInt32.toNat_add, sixteen]
            omega
          have added : (tp.stLimit + saTableGrowth - tp.stSize).toNat =
              tp.stLimit.toNat + 16 - tp.stSize.toNat := by
            rw [UInt32.toNat_sub_of_le _ _ (UInt32.le_iff_toNat_le.mpr (by omega)), sum]
          have limit := next (by omega)
          obtain ⟨wf', same⟩ := wf_extend wf (tp.stLimit + saTableGrowth) (tp.stLimit + 1)
            (tp.stLimit + saTableGrowth - tp.stSize).toNat (by omega) (by omega) (by omega)
          exact .inr (.inl ⟨by decide, by omega, wf', same, limit⟩)
    · have inside := UInt32.lt_iff_toNat_lt.mp (UInt32.not_le.mp outside)
      have limit := next (by omega)
      rw [if_neg outside] at called
      simp only [Outcome.ok_bind, if_pos negative] at called
      cases called
      obtain ⟨wf', same⟩ := wf_extend wf tp.stSize (tp.stLimit + 1) 0 rfl (by omega) (by omega)
      simp only [List.replicate_zero, List.append_nil] at wf' same
      exact .inr (.inl ⟨by decide, by omega, wf', same, limit⟩)

/-- What `sa_table_lookup_n` finds stands in a slot. -/
theorem slot_of_lookupN {tp : SaTable α} {n : UInt32} {ep : α}
    (looked : saTableLookupN tp n = .ok (some ep)) : ∃ i : Nat, tp.stTable[i]? = some (some ep) := by
  have walk : ∀ (count i : Nat) (n : UInt32), tp.lookupNFrom count i n = .ok (some ep) →
      ∃ i : Nat, tp.stTable[i]? = some (some ep) := by
    intro count
    induction count with
    | zero =>
        intro i n looked
        cases looked
    | succ count ih =>
        intro i n looked
        obtain ⟨cell, read, rest⟩ := Outcome.bind_eq_ok.mp looked
        cases cell with
        | none => exact ih _ _ rest
        | some found =>
            simp only at rest
            split at rest
            · cases rest
              exact ⟨i, Outcome.demand_eq_ok.mp read⟩
            · exact ih _ _ rest
  exact walk _ _ _ looked

/-- With memory, appends to a table that grew by appends alone return until the index plus the
    growth no longer fits. -/
theorem append_returns {tp : SaTable α} (wf : tp.Wf) (room : tp.stLimit.toNat < 2 ^ 32 - 16) (ep : α) :
    ∃ r, saTableAppend tp (some ep) true = .ok r := by
  have ordered := UInt32.le_iff_toNat_le.mp wf.limit
  have sixteen : saTableGrowth.toNat = 16 := rfl
  have sum : (tp.stLimit + saTableGrowth).toNat = tp.stLimit.toNat + 16 := by
    rw [UInt32.toNat_add, sixteen]
    omega
  by_cases small : tp.stLimit.toNat < 2 ^ 31
  · rw [append_eq wf small, if_neg (by simp)]
    exact ⟨_, rfl⟩
  · have negative := asInt_neg (v := tp.stLimit) (by omega)
    rw [saTableAppend, saTableInsert, if_pos (UInt32.le_refl _), saTableGrow]
    by_cases outside : tp.stSize ≤ tp.stLimit
    · have fits : ¬ tp.stLimit + saTableGrowth < tp.stSize := by
        have below := UInt32.le_iff_toNat_le.mp outside
        rw [UInt32.lt_iff_toNat_lt, sum]
        omega
      simp only [if_pos outside, Bool.true_eq_false, if_false, if_neg fits, Outcome.ok_bind,
        if_pos negative]
      exact ⟨_, rfl⟩
    · simp only [if_neg outside, Outcome.ok_bind, if_pos negative]
      exact ⟨_, rfl⟩

/-- The entries after the limit has moved up by one without a store. -/
theorem entries_of_moved {tp tp' : SaTable α} (same : tp'.view = tp.view)
    (moved : tp'.stLimit.toNat = tp.stLimit.toNat + 1) : tp'.entries = tp.entries := by
  rw [entries, same, moved]
  exact entries_of_le tp (Nat.le_succ _)

end SaTable

end Hbalinux
