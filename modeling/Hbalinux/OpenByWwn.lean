import Hbalinux.AdapterInvariant
import Hbalinux.C.Census

/-! # Opening an adapter by a name

An adapter carries a name that is its node name or the name of one of its ports.
`adapter_open_by_wwn` counts an adapter once however it carries the name, so its count is
that of the adapters, and the handle it rebuilds from the index leads to the last of them.
-/

namespace Hbalinux

open Outcome

/-- A record without what says where it is and what it is linked to. -/
def AdapterInfo.unlinked (adapter : AdapterInfo) : AdapterInfo :=
  { adapter with adIndex := 0, adPorts := saTableInit }

def PortInfo.unlinked (port : PortInfo) : PortInfo :=
  { port with apAdapt := none, apRports := saTableInit }

/-- An adapter as it was created: its record and those of its ports. -/
structure Created where
  adapter : AdapterInfo
  ports : List PortInfo
  deriving DecidableEq

def Created.carries (wwn : HbaWwn) (made : Created) : Bool :=
  made.adapter.adAttr.nodeWwn = wwn ∨ ∃ port ∈ made.ports, port.apAttr.portWwn = wwn

def Lib.created (lib : Lib) (ap : Ptr) : Option Created :=
  (lib.adapters.get ap).map fun adapter =>
    ⟨adapter.unlinked, (adapter.adPorts.entries.filterMap lib.lports.get).map PortInfo.unlinked⟩

/-- The adapters of the table in the order in which they were created. -/
def Lib.creations (lib : Lib) : List (Option Created) := lib.adapterTable.entries.map lib.created

/-- The adapter at `ap` has the name, or one of its ports has. -/
def Lib.carries (lib : Lib) (wwn : HbaWwn) (ap : Ptr) : Bool :=
  (lib.created ap).any (·.carries wwn)

/-- The adapters that carry the name. -/
def Lib.carriers (lib : Lib) (wwn : HbaWwn) : Set Ptr :=
  {ap | ap ∈ lib.adapterTable.entries ∧ lib.carries wwn ap}

/-- The handle that `adapter_open_by_wwn` builds for an adapter. -/
def Lib.handleOf (lib : Lib) (ap : Ptr) : HbaHandle :=
  ((lib.adapters.get ap).map AdapterInfo.adIndex).getD 0 + adapterHandleOffset

/-- Publishing an adapter adds it at the end. -/
theorem Lib.creations_publish {lib : Lib} (inv : AdapterInv lib) {adapter : AdapterInfo}
    {port : PortInfo} (ports : adapter.adPorts = onlyPort lib.lports.fresh)
    (small : lib.adapterTable.stLimit.toNat < 2 ^ 31) :
    (lib.publish adapter port).creations =
      lib.creations ++ [some ⟨adapter.unlinked, [port.unlinked]⟩] := by
  have entries : (onlyPort lib.lports.fresh).entries = [lib.lports.fresh] := rfl
  have older : ∀ ap ∈ lib.adapterTable.entries,
      (lib.publish adapter port).created ap = lib.created ap := by
    intro ap member
    obtain ⟨i, entry⟩ := SaTable.mem_entries.mp member
    obtain ⟨pp, old, oldPort, slot⟩ := inv.slot entry
    have live : (lib.publish adapter port).adapters.get ap = some old :=
      (Arena.get_store_ne _ (Arena.ne_fresh slot.owns.live)).trans slot.owns.live
    have livePort : (lib.publish adapter port).lports.get pp = some oldPort :=
      (Arena.get_store_ne _ (Arena.ne_fresh slot.owns.livePort)).trans slot.owns.livePort
    have only : (onlyPort pp).entries = [pp] := rfl
    rw [Lib.created, Lib.created, live, slot.owns.live, Option.map_some, Option.map_some,
      slot.owns.ports, only, List.filterMap_cons_some livePort,
      List.filterMap_cons_some slot.owns.livePort]
    rfl
  have new : (lib.publish adapter port).created lib.adapters.fresh =
      some ⟨adapter.unlinked, [port.unlinked]⟩ := by
    rw [Lib.created, Lib.publish, Arena.get_store_self, Option.map_some]
    simp only [ports, entries, List.filterMap_cons_some (Arena.get_store_self _ _ _)]
    rfl
  have table : (lib.publish adapter port).adapterTable.entries =
      lib.adapterTable.entries ++ [lib.adapters.fresh] := SaTable.entries_append inv.wf small _
  rw [Lib.creations, table, List.map_append, List.map_congr_left older, List.map_singleton, new]
  rfl

/-- Scanning a host adds one adapter at the end or none. -/
theorem sysfsScan_creations {env : Env} {dp : DirEnt} {lib lib' : Lib} {exit : ScanExit}
    (inv : AdapterInv lib) (scanned : sysfsScan env dp lib = .ok (exit, lib'))
    (few : lib'.adapterTable.stLimit.toNat ≤ 2 ^ 31) :
    (exit ≠ .published ∧ lib'.creations = lib.creations) ∨
      exit = .published ∧ ∃ made, lib'.creations = lib.creations ++ [some made] := by
  rcases sysfsScan_cases inv.wf scanned with
    ⟨other, table, rfl, rfl | ⟨large, moved⟩⟩ |
      ⟨published, small, found, port, adPorts, buf, adapter, -, builtPort, builtAdapter, rfl⟩
  · exact .inl ⟨other, rfl⟩
  · simp only at few
    omega
  · have ports : adapter.adPorts = onlyPort lib.lports.fresh :=
      (buildAdapter_eq builtAdapter).2.trans (buildPort_eq builtPort).1
    exact .inr ⟨published, _, Lib.creations_publish inv ports small⟩

/-- What a handle opens, as it was created. -/
def Lib.createdBehind (lib : Lib) (handle : HbaHandle) : Outcome (Option Created) :=
  Except.map (fun opened => opened.bind lib.created) (adapterOpenHandle lib handle)

section Slot

variable {lib : Lib} {i : Nat} {ap pp : Ptr} {adapter : AdapterInfo} {port : PortInfo}
  (slot : lib.Slot i ap pp adapter port)
include slot

theorem Lib.Slot.created_eq : lib.created ap = some ⟨adapter.unlinked, [port.unlinked]⟩ := by
  have entries : (onlyPort pp).entries = [pp] := rfl
  rw [Lib.created, slot.owns.live, Option.map_some, slot.owns.ports, entries,
    List.filterMap_cons_some slot.owns.livePort]
  rfl

theorem Lib.Slot.carries_eq (wwn : HbaWwn) : lib.carries wwn ap =
    decide (adapter.adAttr.nodeWwn = wwn ∨ port.apAttr.portWwn = wwn) := by
  rw [Lib.carries, slot.created_eq, Option.any_some, Created.carries]
  simp [AdapterInfo.unlinked, PortInfo.unlinked]

theorem Lib.Slot.handleOf_eq : lib.handleOf ap = adapter.adIndex + adapterHandleOffset := by
  rw [Lib.handleOf, slot.owns.live]
  rfl

/-- The handle opens the adapter it was built for. -/
theorem Lib.Slot.opens (wf : lib.adapterTable.Wf) :
    adapterOpenHandle lib (lib.handleOf ap) = .ok (some ap) := by
  rw [adapterOpenHandle, slot.handleOf_eq, UInt32.add_sub_cancel, SaTable.lookup_eq_view wf,
    slot.index, slot.entry]

/-- The port of an adapter adds a hit if it has the name. -/
theorem Lib.Slot.openPorts_eq (wwn : HbaWwn) (found : Nat × HbaHandle) :
    openPortsFrom lib wwn adapter adapter.adPorts.stLimit.toNat 0 found =
      .ok (if port.apAttr.portWwn = wwn then (found.1 + 1, lib.handleOf ap) else found) := by
  have one : (onlyPort pp).stLimit.toNat = 1 := rfl
  have entry : (onlyPort pp).slotInt 0 = .ok (some pp) := rfl
  rw [slot.handleOf_eq, slot.owns.ports, one]
  simp only [openPortsFrom, slot.owns.ports, entry, ok_bind, Lib.port, slot.owns.livePort, demand_some]

end Slot

/-- Hits of the walk from a slot on: each adds one to the count and leaves its handle. -/
theorem openByWwnFrom_eq {lib : Lib} (inv : AdapterInv lib) (wwn : HbaWwn) (count i : Nat)
    (inside : i + count ≤ lib.adapterTable.stLimit.toNat) (found : Nat × HbaHandle) :
    openByWwnFrom lib wwn count i found =
      .ok (found.1 + (((List.range' i count).filterMap lib.adapterTable.view).filter
          (lib.carries wwn)).length,
        ((((List.range' i count).filterMap lib.adapterTable.view).filter
          (lib.carries wwn)).getLast?.map lib.handleOf).getD found.2) := by
  induction count generalizing i found with
  | zero => rfl
  | succ count ih =>
      have few := inv.few
      obtain ⟨ap, pp, adapter, port, slot⟩ := inv.slots i (by omega)
      have read : lib.adapterTable.slotInt i = .ok (some ap) := by
        rw [SaTable.slotInt, if_pos (by omega), SaTable.slot, SaTable.wf_slots inv.wf (by omega),
          slot.entry, demand_some]
      have step : openByWwnFrom lib wwn (count + 1) i found = openByWwnFrom lib wwn count (i + 1)
          (if lib.carries wwn ap then (found.1 + 1, lib.handleOf ap) else found) := by
        simp only [openByWwnFrom, read, ok_bind, Lib.adapter, slot.owns.live, demand_some,
          slot.openPorts_eq, slot.carries_eq, ← slot.handleOf_eq, decide_eq_true_eq]
        by_cases node : adapter.adAttr.nodeWwn = wwn
        · rw [if_pos node, if_pos (.inl node)]
        · simp only [node, false_or, if_false]
      rw [step, ih (i + 1) (by omega), List.range'_succ, List.filterMap_cons_some slot.entry]
      by_cases hit : lib.carries wwn ap = true
      · rw [if_pos hit, List.filter_cons_of_pos hit, List.length_cons, List.getLast?_cons]
        cases List.getLast? _ with
        | none => simp only [Option.map_none, Option.getD_none, Option.map_some, Option.getD_some]; congr 2; omega
        | some last => simp only [Option.map_some, Option.getD_some]; congr 2; omega
      · rw [if_neg hit, List.filter_cons_of_neg hit]

/-- The adapters of the table that carry the name, in slot order. -/
def Lib.hits (lib : Lib) (wwn : HbaWwn) : List Ptr :=
  lib.adapterTable.entries.filter (lib.carries wwn)

/-- The hits can be counted in an `int`. -/
theorem Reachable.few_hits {allowed : Env → Prop} {lib : Lib} (reachable : Reachable allowed lib)
    (wwn : HbaWwn) : (lib.hits wwn).length < 2 ^ 31 := by
  have slots : lib.adapterTable.entries.length ≤ lib.adapterTable.stLimit.toNat := by
    rw [SaTable.entries]
    exact (List.length_filterMap_le ..).trans (by rw [List.length_range'])
  exact (List.length_filter_le ..).trans_lt (slots.trans_lt reachable.few)

theorem Lib.hits_counts {lib : Lib} (inv : AdapterInv lib) (wwn : HbaWwn) :
    (Census.ofList (lib.hits wwn)).Counts (lib.carriers wwn) := by
  have nodup : lib.adapterTable.entries.Nodup := SaTable.entries_nodup fun _ _ _ => inv.slot_unique
  have same : lib.carriers wwn = {ap | ap ∈ lib.hits wwn} := Set.ext fun ap => List.mem_filter.symm
  rw [same]
  exact Census.counts_ofList (nodup.filter _)

/-- What `adapter_open_by_wwn` reports of the handles it has come across. -/
def openAnswer : Census HbaHandle → HbaStatus × HbaHandle
  | .none => (hbaStatusErrorIllegalWwn, hbaHandleInvalid)
  | .one handle => (hbaStatusOk, handle)
  | .several => (hbaStatusErrorAmbiguousWwn, hbaHandleInvalid)

theorem adapterOpenByWwn_eq {lib : Lib} (inv : AdapterInv lib) (wwn : HbaWwn) :
    adapterOpenByWwn lib wwn =
      .ok (openAnswer ((Census.ofList (lib.hits wwn)).map lib.handleOf)) := by
  have walk : openByWwnFrom lib wwn lib.adapterTable.stLimit.toNat 0 (0, 0) =
      .ok ((lib.hits wwn).length, ((lib.hits wwn).getLast?.map lib.handleOf).getD 0) := by
    rw [openByWwnFrom_eq inv wwn _ 0 (by omega), Nat.zero_add]
    rfl
  rw [adapterOpenByWwn, walk, ok_bind]
  match lib.hits wwn with
  | [] | [_] => rfl
  | _ :: _ :: _ =>
      simp only [List.length_cons]
      rw [if_neg (by omega), if_pos (by omega)]
      rfl

/-- The hits, as they were created, are found among the creations. -/
theorem Lib.map_hits (lib : Lib) (wwn : HbaWwn) :
    (lib.hits wwn).map lib.created = lib.creations.filter fun made => made.any (·.carries wwn) := by
  rw [Lib.creations, List.filter_map]
  rfl

/-- The same adapters in another order give the same census. -/
theorem Lib.census_perm {lib lib' : Lib} (perm : lib'.creations.Perm lib.creations) (wwn : HbaWwn) :
    (Census.ofList (lib'.hits wwn)).map lib'.created =
      (Census.ofList (lib.hits wwn)).map lib.created := by
  rw [← Census.ofList_map, ← Census.ofList_map, Lib.map_hits, Lib.map_hits]
  exact Census.ofList_perm (perm.filter _)

/-- A hit is in a slot. -/
theorem Lib.hit_slot {lib : Lib} (inv : AdapterInv lib) {wwn : HbaWwn} {ap : Ptr}
    (hit : ap ∈ lib.hits wwn) : ∃ i pp adapter port, lib.Slot i ap pp adapter port := by
  obtain ⟨i, entry⟩ := SaTable.mem_entries.mp (List.mem_filter.mp hit).1
  exact ⟨i, inv.slot entry⟩

/-- No adapter has the invalid handle. -/
theorem AdapterInv.invalid_opens {lib : Lib} (inv : AdapterInv lib) :
    adapterOpenHandle lib hbaHandleInvalid = .ok none := by
  have index : (hbaHandleInvalid - adapterHandleOffset).toNat = 2 ^ 32 - 2 ^ 8 := rfl
  have few := inv.few
  rw [adapterOpenHandle, SaTable.lookup_eq_view inv.wf, index, SaTable.view_of_limit_le (by omega)]

/-- The answer, with what its handle opens in place of the handle. -/
def openedByWwn (lib : Lib) (wwn : HbaWwn) : Outcome (HbaStatus × Option Created) := do
  let (status, handle) ← adapterOpenByWwn lib wwn
  let made ← lib.createdBehind handle
  .ok (status, made)

theorem openedByWwn_eq {lib : Lib} (inv : AdapterInv lib) (wwn : HbaWwn) :
    openedByWwn lib wwn = .ok (match (Census.ofList (lib.hits wwn)).map lib.created with
      | .none => (hbaStatusErrorIllegalWwn, none)
      | .one made => (hbaStatusOk, made)
      | .several => (hbaStatusErrorAmbiguousWwn, none)) := by
  rw [openedByWwn, adapterOpenByWwn_eq inv, ok_bind]
  cases census : Census.ofList (lib.hits wwn) with
  | none | several =>
      simp only [Census.map, openAnswer, Lib.createdBehind, inv.invalid_opens]
      rfl
  | one ap =>
      have hit : ap ∈ lib.hits wwn := by
        rw [Census.ofList_eq_one.mp census]
        exact List.mem_singleton_self ap
      obtain ⟨i, pp, adapter, port, slot⟩ := Lib.hit_slot inv hit
      simp only [Census.map, openAnswer, Lib.createdBehind, slot.opens inv.wf]
      rfl

theorem openAnswer_status {α : Type} (f : α → HbaHandle) (c : Census α) :
    ((openAnswer (c.map f)).1 = hbaStatusOk ↔ ∃ a, c = .one a) ∧
      ((openAnswer (c.map f)).1 = hbaStatusErrorAmbiguousWwn ↔ c = .several) ∧
      ((openAnswer (c.map f)).1 = hbaStatusErrorIllegalWwn ↔ c = .none) := by
  have statuses : hbaStatusErrorIllegalWwn ≠ hbaStatusOk ∧
      hbaStatusErrorAmbiguousWwn ≠ hbaStatusOk ∧
      hbaStatusErrorIllegalWwn ≠ hbaStatusErrorAmbiguousWwn := by decide
  cases c <;> simp [Census.map, openAnswer, statuses, statuses.1.symm, statuses.2.1.symm,
    statuses.2.2.symm]

/-- In every reachable state opening by a name tells whether no adapter carries it, one does or
    several do, in whatever order the adapters were created. -/
theorem openByWwn_finds {allowed : Env → Prop} {lib : Lib} (reachable : Reachable allowed lib)
    (wwn : HbaWwn) :
    ∃ status handle, adapterOpenByWwn lib wwn = .ok (status, handle) ∧
      (status = hbaStatusOk ↔ ∃ ap, lib.carriers wwn = {ap}) ∧
      (∀ ap, lib.carriers wwn = {ap} → adapterOpenHandle lib handle = .ok (some ap)) ∧
      (status = hbaStatusErrorAmbiguousWwn ↔ (lib.carriers wwn).Nontrivial) ∧
      (status = hbaStatusErrorIllegalWwn ↔ lib.carriers wwn = ∅) ∧
      (status ≠ hbaStatusOk → handle = hbaHandleInvalid) ∧
      (∀ ap adapter p pp port, status = hbaStatusOk →
        adapterOpenHandle lib handle = .ok (some ap) → lib.adapters.get ap = some adapter →
        adapter.adPorts.view p = some pp → lib.lports.get pp = some port →
        port.apAttr.portWwn = wwn →
        adapterGetPortByWwn lib handle wwn = .ok (some pp, 1)) ∧
      ∀ other, Reachable allowed other → other.creations.Perm lib.creations →
        openedByWwn other wwn = openedByWwn lib wwn := by
  have inv := adapterInv_of_reachable reachable
  have counts := lib.hits_counts inv wwn
  obtain ⟨ok, ambiguous, illegal⟩ := openAnswer_status lib.handleOf (Census.ofList (lib.hits wwn))
  refine ⟨_, _, adapterOpenByWwn_eq inv wwn, ?_, fun ap only => ?_, ?_, ?_, fun fails => ?_, ?_,
    fun other reached perm => ?_⟩
  · exact ok.trans (exists_congr fun ap => counts.one_iff)
  · rw [← counts.one_iff] at only
    have hit : ap ∈ lib.hits wwn := by
      rw [Census.ofList_eq_one.mp only]
      exact List.mem_singleton_self ap
    obtain ⟨i, pp, adapter, port, slot⟩ := Lib.hit_slot inv hit
    rw [only]
    exact slot.opens inv.wf
  · exact ambiguous.trans counts.several_iff
  · exact illegal.trans counts.none_iff
  · cases census : Census.ofList (lib.hits wwn) with
    | none | several => rfl
    | one ap => exact absurd (ok.mpr ⟨ap, census⟩) fails
  · intro ap adapter p pp port _ opened live entry livePort named
    obtain ⟨i, pp', adapter', port', slot⟩ := inv.opened opened
    obtain rfl : adapter' = adapter := Option.some.inj (slot.owns.live.symm.trans live)
    rw [slot.owns.ports, onlyPort_view] at entry
    split at entry
    · obtain rfl : pp' = pp := Option.some.inj entry
      obtain rfl : port' = port := Option.some.inj (slot.owns.livePort.symm.trans livePort)
      rw [slot.adapterGetPortByWwn_eq opened, if_pos named]
    · cases entry
  · rw [openedByWwn_eq inv, openedByWwn_eq (adapterInv_of_reachable reached), Lib.census_perm perm]

/-- The system of two hosts with these found the other way round. -/
def turnedSystem : Env := twinsListed twinHosts.reverse []

private theorem turnedSystem_facts :
    (loadLibrary turnedSystem .init).toOption.isSome = true ∧
      (loadedState turnedSystem).creations = (loadedState twinSystem).creations.reverse ∧
      (loadedState twinSystem).adapterTable.entries = [0, 1] ∧
      (loadedState twinSystem).carries (copyWwn 0x2000000000000002) 0 = false ∧
      (loadedState twinSystem).carries (copyWwn 0x2000000000000002) 1 = true := by
  decide +kernel

/-- Of two adapters the one with the name is opened, in whatever order they are found. -/
theorem openByWwn_finds_small : ∃ handle,
    adapterOpenByWwn (loadedState twinSystem) (copyWwn 0x2000000000000002) =
      .ok (hbaStatusOk, handle) ∧
    adapterOpenHandle (loadedState twinSystem) handle = .ok (some 1) ∧
    (loadedState turnedSystem).creations = (loadedState twinSystem).creations.reverse ∧
    openedByWwn (loadedState turnedSystem) (copyWwn 0x2000000000000002) =
      openedByWwn (loadedState twinSystem) (copyWwn 0x2000000000000002) := by
  obtain ⟨loads, turned, entries, other, carries⟩ := turnedSystem_facts
  have only : (loadedState twinSystem).carriers (copyWwn 0x2000000000000002) = {1} := by
    ext ap
    have member : ap ∈ (loadedState twinSystem).adapterTable.entries ↔ ap = 0 ∨ ap = 1 := by
      simp [entries]
    constructor
    · rintro ⟨entry, named⟩
      rcases member.mp entry with rfl | rfl
      · rw [other] at named
        exact absurd named Bool.false_ne_true
      · rfl
    · rintro rfl
      exact ⟨member.mpr (.inr rfl), carries⟩
  have reached : Reachable (fun _ => True) (loadedState turnedSystem) :=
    .load .init trivial (fewAdapters_of_length SaTable.wf_init (by decide +kernel))
      (eq_ok_getD loads _)
  have perm : (loadedState turnedSystem).creations.Perm (loadedState twinSystem).creations := by
    rw [turned]
    exact List.reverse_perm _
  obtain ⟨status, handle, called, ok, opens, -, -, -, -, orders⟩ :=
    openByWwn_finds reachable_twin (copyWwn 0x2000000000000002)
  rw [ok.mpr ⟨1, only⟩] at called
  exact ⟨handle, called, opens 1 only, turned, orders _ reached perm⟩

end Hbalinux
