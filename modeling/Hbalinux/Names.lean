import Hbalinux.AdapterInvariant

/-! # Adapter names and handles

The name of an adapter ends in a dash and its index in decimal.  The last dash of
the name is that one, whatever the interface is called, so the name leads back to
the index; and a handle is the index shifted by a constant.
-/

namespace Hbalinux

open Outcome

/-- A numbered name determines its number. -/
theorem numberedName_injective {name name' : CStr} {i j : UInt32}
    (same : numberedName name i = numberedName name' j) : i = j := by
  have noDash : ∀ n, '-' ∉ decimal n := by
    intro n member
    have isDigit := decimal_isDigit member
    simp at isDigit
  have split := congrArg (fun s => strrchr s '-') same
  simp only [numberedName, strrchr_last (noDash _), Option.some.injEq, Prod.mk.injEq] at split
  exact UInt32.toNat_inj.mp (decimal_injective split.2)

theorem numberedName_length {name : CStr} (i : UInt32) (short : name.length ≤ 24) :
    (numberedName name i).length ≤ 35 := by
  have bound := i.toNat_lt
  have digits := decimal_length (n := i.toNat) (k := 10) (by omega) (by decide)
  rw [numberedName, List.length_append, List.length_cons]
  omega

/-- Every adapter is named after an interface of at most 19 characters. -/
def FcoeNamed (lib : Lib) : Prop :=
  ∀ ap adapter, lib.adapters.get ap = some adapter →
    ∃ ifname : CStr, ifname.length ≤ 19 ∧ adapter.adName = some ("fcoe:".toList ++ ifname)

/-- The driver name of the adapter at an index. -/
def adNameAt (lib : Lib) (i : UInt32) : CStr :=
  (((lib.adapterTable.view i.toNat).bind lib.adapters.get).bind AdapterInfo.adName).getD []

/-- `adapter_get_name` gives the whole numbered name. -/
theorem adapterGetName_eq {lib : Lib} (inv : AdapterInv lib) (named : FcoeNamed lib) {i : UInt32}
    (below : i.toNat < lib.adapterTable.stLimit.toNat) :
    adapterGetName lib i = .ok (.ok (numberedName (adNameAt lib i) i)) := by
  obtain ⟨ap, pp, adapter, port, slot⟩ := inv.slots i.toNat below
  obtain ⟨ifname, short, name⟩ := named ap adapter slot.owns.live
  have five : "fcoe:".toList.length = 5 := rfl
  have fits : (numberedName ("fcoe:".toList ++ ifname) i).length ≤ 35 := by
    apply numberedName_length
    rw [List.length_append]
    omega
  have here : adNameAt lib i = "fcoe:".toList ++ ifname := by
    rw [adNameAt, slot.entry, Option.bind_some, slot.owns.live, Option.bind_some, name,
      Option.getD_some]
  rw [adapterGetName, SaTable.lookup_eq_view inv.wf, slot.entry, ok_bind]
  simp only [Lib.adapter, slot.owns.live, demand_some, ok_bind, name]
  rw [here, snprintf, List.take_of_length_le]
  rw [hbaShortNameLimit]
  omega

/-- The loop of `adapter_open` returns the handle of the first index with the name. -/
theorem adapterOpenFrom_eq {lib : Lib} {nameOf : Nat → CStr} {count i : Nat}
    (bound : i + count < 2 ^ 32)
    (names : ∀ j, i ≤ j → j < i + count →
      adapterGetName lib (UInt32.ofNat j) = .ok (.ok (nameOf j))) (name : CStr) :
    adapterOpenFrom lib name count (UInt32.ofNat i) =
      match (List.range' i count).find? (fun j => nameOf j = name) with
      | some j => .ok (adapterHandleOffset + UInt32.ofNat j)
      | none => .ok 0 := by
  induction count generalizing i with
  | zero => rfl
  | succ count ih =>
      rw [adapterOpenFrom, names i (Nat.le_refl _) (by omega), ok_bind, List.range'_succ,
        List.find?_cons]
      simp only
      by_cases same : nameOf i = name
      · simp only [same, if_true, decide_true]
      · have next : UInt32.ofNat i + 1 = UInt32.ofNat (i + 1) := by
          rw [UInt32.ofNat_add]
          rfl
        simp only [same, if_false, decide_false]
        rw [next, ih (by omega) (fun j low high => names j (by omega) (by omega))]

theorem adapterOpen_eq {lib : Lib} {nameOf : Nat → CStr}
    (bound : lib.adapterTable.stLimit.toNat < 2 ^ 32)
    (names : ∀ j, j < lib.adapterTable.stLimit.toNat →
      adapterGetName lib (UInt32.ofNat j) = .ok (.ok (nameOf j))) (name : CStr) :
    adapterOpen lib name =
      match (List.range' 0 lib.adapterTable.stLimit.toNat).find? (fun j => nameOf j = name) with
      | some j => .ok (adapterHandleOffset + UInt32.ofNat j)
      | none => .ok 0 := by
  apply adapterOpenFrom_eq (i := 0) (by omega)
  intro j _ high
  exact names j (by omega)

/-- Names open the adapter they belong to, other strings open none, and the handles
    of the adapters are the only ones that resolve. -/
theorem adapterNames_faithful {allowed : Env → Prop} {lib : Lib} (reachable : Reachable allowed lib)
    (named : FcoeNamed lib) :
    (∀ i < adapterGetCount lib, ∃ buf ap, adapterGetName lib i = .ok (.ok buf) ∧
      adapterOpen lib buf = .ok (adapterHandleOffset + i) ∧
      adapterOpenHandle lib (adapterHandleOffset + i) = .ok (some ap) ∧
      lib.adapterTable.stTable[i.toNat]? = some (some ap)) ∧
    (∀ name, (∀ i < adapterGetCount lib, adapterGetName lib i ≠ .ok (.ok name)) →
      adapterOpen lib name = .ok 0) ∧
    (∀ handle, (∀ i < adapterGetCount lib, handle ≠ adapterHandleOffset + i) →
      adapterOpenHandle lib handle = .ok none) := by
  have inv := adapterInv_of_reachable reachable
  have few := inv.few
  have small : ∀ j, j < lib.adapterTable.stLimit.toNat → (UInt32.ofNat j).toNat = j := by
    intro j below
    rw [UInt32.toNat_ofNat']
    omega
  have names : ∀ j, j < lib.adapterTable.stLimit.toNat → adapterGetName lib (UInt32.ofNat j) =
      .ok (.ok (numberedName (adNameAt lib (UInt32.ofNat j)) (UInt32.ofNat j))) := by
    intro j below
    exact adapterGetName_eq inv named (by rwa [small j below])
  have opens := adapterOpen_eq (by omega) names
  refine ⟨fun i below => ?_, fun name other => ?_, fun handle other => ?_⟩
  · have below' : i.toNat < lib.adapterTable.stLimit.toNat := UInt32.lt_iff_toNat_lt.mp below
    obtain ⟨ap, pp, adapter, port, slot⟩ := inv.slots i.toNat below'
    refine ⟨_, ap, adapterGetName_eq inv named below', ?_, ?_, ?_⟩
    · rw [opens]
      split
      · rename_i j found
        have sameName := List.find?_some found
        rw [decide_eq_true_eq] at sameName
        rw [numberedName_injective sameName]
      · rename_i missing
        rw [List.find?_eq_none] at missing
        refine absurd ?_ (missing i.toNat (List.mem_range'_1.mpr ⟨Nat.zero_le _, by omega⟩))
        simp only [UInt32.ofNat_toNat, decide_true]
    · have shifted : adapterHandleOffset + i - adapterHandleOffset = i := by grind
      rw [adapterOpenHandle, shifted, SaTable.lookup_eq_view inv.wf, slot.entry]
    · rw [SaTable.wf_slots inv.wf below', slot.entry]
  · have missing : (List.range' 0 lib.adapterTable.stLimit.toNat).find? (fun j =>
        numberedName (adNameAt lib (UInt32.ofNat j)) (UInt32.ofNat j) = name) = none := by
      rw [List.find?_eq_none]
      intro j member same
      rw [List.mem_range'_1] at member
      have below : j < lib.adapterTable.stLimit.toNat := by omega
      refine other (UInt32.ofNat j) ?_ ?_
      · rw [UInt32.lt_iff_toNat_lt, small j below]
        exact below
      · rw [names j below, of_decide_eq_true same]
    rw [opens, missing]
  · rw [adapterOpenHandle, saTableLookup, if_neg]
    intro inside
    have shifted : adapterHandleOffset + (handle - adapterHandleOffset) = handle := by grind
    exact other _ inside shifted.symm

theorem fcoeNamed_twin : FcoeNamed (loadedState twinSystem) := by
  intro ap adapter live
  obtain ⟨slot0, slot1, name0, name1⟩ := loadedState_twin_names
  have inv := adapterInv_of_reachable reachable_twin
  obtain ⟨i, below, entry⟩ := inv.listed ap adapter live
  have slot := SaTable.wf_slots inv.wf below
  rw [entry] at slot
  rw [loadedState_twin_limit] at below
  have two : i = 0 ∨ i = 1 := by
    have bound : (2 : UInt32).toNat = 2 := rfl
    omega
  rcases two with rfl | rfl
  · rw [slot0, Option.some.injEq, Option.some.injEq] at slot
    rw [slot, live, Option.map_some, Option.some.injEq] at name0
    exact ⟨"eth2", by decide, name0⟩
  · rw [slot1, Option.some.injEq, Option.some.injEq] at slot
    rw [slot, live, Option.map_some, Option.some.injEq] at name1
    exact ⟨"eth3", by decide, name1⟩

/-- The adapters behind `eth2` and `eth3` have different names, which open each its own. -/
theorem adapterNames_faithful_small : ∃ buf buf',
    buf ≠ buf' ∧ adapterGetCount (loadedState twinSystem) = 2 ∧
      adapterGetName (loadedState twinSystem) 0 = .ok (.ok buf) ∧
      adapterGetName (loadedState twinSystem) 1 = .ok (.ok buf') ∧
      adapterOpen (loadedState twinSystem) buf = .ok (adapterHandleOffset + 0) ∧
      adapterOpen (loadedState twinSystem) buf' = .ok (adapterHandleOffset + 1) ∧
      adapterOpenHandle (loadedState twinSystem) (adapterHandleOffset + 0) = .ok (some 0) ∧
      adapterOpenHandle (loadedState twinSystem) (adapterHandleOffset + 1) = .ok (some 1) := by
  obtain ⟨slot0, slot1, -⟩ := loadedState_twin_names
  have count : adapterGetCount (loadedState twinSystem) = 2 := by
    rw [adapterGetCount]
    exact loadedState_twin_limit
  have names := (adapterNames_faithful reachable_twin fcoeNamed_twin).1
  obtain ⟨buf, ap, name, opens, handle, held⟩ := names 0 (by rw [count]; decide)
  obtain ⟨buf', ap', name', opens', handle', held'⟩ := names 1 (by rw [count]; decide)
  obtain rfl : ap = 0 := Option.some.inj (Option.some.inj (held.symm.trans slot0))
  obtain rfl : ap' = 1 := Option.some.inj (Option.some.inj (held'.symm.trans slot1))
  refine ⟨buf, buf', ?_, count, name, name', opens, opens', handle, handle'⟩
  rintro rfl
  rw [opens, Except.ok.injEq] at opens'
  exact absurd opens' (by decide)

end Hbalinux
