import Hbalinux.RportSpec
import Hbalinux.ScanSpec

/-! # The adapter table in every reachable state

Every slot below the limit holds a live adapter that knows its own index and has
exactly one local port, which knows its adapter and its host.  Nothing else is
live.  Publishing adds such a slot, freeing removes all of them, and attaching
remote ports does not reach the fields involved.
-/

namespace Hbalinux

open Outcome

/-- Slot `i` of the adapter table. -/
structure Lib.Slot (lib : Lib) (i : Nat) (ap pp : Ptr) (adapter : AdapterInfo) (port : PortInfo) :
    Prop where
  entry : lib.adapterTable.view i = some ap
  owns : lib.Owns ap pp adapter port
  index : adapter.adIndex.toNat = i
  portIndex : port.apIndex = 0
  host : port.apKernHba = adapter.adKernIndex

structure AdapterInv (lib : Lib) : Prop where
  wf : lib.adapterTable.Wf
  few : lib.adapterTable.stLimit.toNat ≤ 2 ^ 31
  slots : ∀ i < lib.adapterTable.stLimit.toNat, ∃ ap pp adapter port, lib.Slot i ap pp adapter port
  listed : ∀ ap adapter, lib.adapters.get ap = some adapter →
    ∃ i < lib.adapterTable.stLimit.toNat, lib.adapterTable.view i = some ap
  owned : ∀ pp port, lib.lports.get pp = some port →
    ∃ ap adapter, lib.adapters.get ap = some adapter ∧ adapter.adPorts = onlyPort pp

theorem AdapterInv.of_empty {lib : Lib} (table : lib.adapterTable = saTableInit)
    (adapters : lib.adapters = .empty) (lports : lib.lports = .empty) : AdapterInv lib where
  wf := table ▸ SaTable.wf_init
  few := by
    rw [table]
    decide
  slots := by
    intro i below
    rw [table] at below
    exact absurd below (Nat.not_lt_zero i)
  listed := by
    intro ap adapter live
    rw [adapters, Arena.get_empty] at live
    cases live
  owned := by
    intro pp port live
    rw [lports, Arena.get_empty] at live
    cases live

/-- The slot an index below the limit has, for its entry. -/
theorem AdapterInv.slot {lib : Lib} (inv : AdapterInv lib) {i : Nat} {ap : Ptr}
    (entry : lib.adapterTable.view i = some ap) :
    ∃ pp adapter port, lib.Slot i ap pp adapter port := by
  have below : i < lib.adapterTable.stLimit.toNat := by
    by_contra past
    rw [SaTable.view_of_limit_le (by omega)] at entry
    cases entry
  obtain ⟨ap', pp, adapter, port, slot⟩ := inv.slots i below
  have same : ap' = ap := Option.some.inj (slot.entry.symm.trans entry)
  exact ⟨pp, adapter, port, same ▸ slot⟩

/-- The slot a local port is in. -/
theorem AdapterInv.port_slot {lib : Lib} (inv : AdapterInv lib) {pp : Ptr} {port : PortInfo}
    (live : lib.lports.get pp = some port) :
    ∃ i ap adapter, lib.Slot i ap pp adapter port := by
  obtain ⟨ap, adapter, liveAdapter, ports⟩ := inv.owned pp port live
  obtain ⟨i, -, entry⟩ := inv.listed ap adapter liveAdapter
  obtain ⟨pp', adapter', port', slot⟩ := inv.slot entry
  obtain rfl : adapter' = adapter := Option.some.inj (slot.owns.live.symm.trans liveAdapter)
  obtain rfl : pp' = pp := onlyPort_injective (slot.owns.ports.symm.trans ports)
  obtain rfl : port' = port := Option.some.inj (slot.owns.livePort.symm.trans live)
  exact ⟨i, ap, adapter', slot⟩

/-- The slot of an adapter that a handle opens. -/
theorem AdapterInv.opened {lib : Lib} (inv : AdapterInv lib) {handle : HbaHandle} {ap : Ptr}
    (opened : adapterOpenHandle lib handle = .ok (some ap)) :
    ∃ i pp adapter port, lib.Slot i ap pp adapter port := by
  rw [adapterOpenHandle, SaTable.lookup_eq_view inv.wf, Except.ok.injEq] at opened
  exact ⟨_, inv.slot opened⟩

/-- The only local port of an adapter has index 0. -/
theorem Lib.Slot.adapterGetPort_eq {lib : Lib} {i : Nat} {ap pp : Ptr} {adapter : AdapterInfo}
    {port : PortInfo} (slot : lib.Slot i ap pp adapter port) {handle : HbaHandle}
    (opened : adapterOpenHandle lib handle = .ok (some ap)) (index : UInt32) :
    adapterGetPort lib handle index = .ok (if index = 0 then some pp else none) := by
  unfold adapterGetPort
  rw [opened, ok_bind]
  simp only [Lib.adapter, slot.owns.live, demand_some, ok_bind, slot.owns.ports]
  rw [SaTable.lookup_eq_view (onlyPort_wf pp), onlyPort_view]
  by_cases first : index = 0
  · rw [if_pos first, first]
    rfl
  · rw [if_neg first, if_neg]
    exact fun zero => first (UInt32.toNat_inj.mp zero)

/-- A port name finds the only local port of an adapter or none. -/
theorem Lib.Slot.adapterGetPortByWwn_eq {lib : Lib} {i : Nat} {ap pp : Ptr} {adapter : AdapterInfo}
    {port : PortInfo} (slot : lib.Slot i ap pp adapter port) {handle : HbaHandle}
    (opened : adapterOpenHandle lib handle = .ok (some ap)) (wwn : HbaWwn) :
    adapterGetPortByWwn lib handle wwn =
      .ok (if port.apAttr.portWwn = wwn then (some pp, 1) else (none, 0)) := by
  have one : (onlyPort pp).stLimit.toNat = 1 := rfl
  have entry : (onlyPort pp).slotInt 0 = .ok (some pp) := rfl
  unfold adapterGetPortByWwn
  rw [opened, ok_bind]
  simp only [Lib.adapter, slot.owns.live, demand_some, ok_bind, slot.owns.ports, one,
    portByWwnFrom, entry, Lib.port, slot.owns.livePort]
  split <;> rfl

/-- An adapter is in the slot its index names. -/
theorem AdapterInv.slot_unique {lib : Lib} (inv : AdapterInv lib) {i j : Nat} {ap : Ptr}
    (first : lib.adapterTable.view i = some ap) (second : lib.adapterTable.view j = some ap) :
    i = j := by
  obtain ⟨_, adapter, _, slot⟩ := inv.slot first
  obtain ⟨_, adapter', _, slot'⟩ := inv.slot second
  have same : adapter = adapter' := Option.some.inj (slot.owns.live.symm.trans slot'.owns.live)
  rw [← slot.index, ← slot'.index, same]

/-- A local port belongs to one adapter. -/
theorem AdapterInv.owner_unique {lib : Lib} (inv : AdapterInv lib) {ap ap' pp : Ptr}
    {adapter adapter' : AdapterInfo} (live : lib.adapters.get ap = some adapter)
    (live' : lib.adapters.get ap' = some adapter') (ports : adapter.adPorts = onlyPort pp)
    (ports' : adapter'.adPorts = onlyPort pp) : ap = ap' := by
  have owner : ∀ {q a}, lib.adapters.get q = some a → a.adPorts = onlyPort pp →
      ∃ port, lib.lports.get pp = some port ∧ port.apAdapt = some q := by
    intro q a liveAt table
    obtain ⟨i, -, entry⟩ := inv.listed q a liveAt
    obtain ⟨pp', a', port, slot⟩ := inv.slot entry
    have sameAdapter : a' = a := Option.some.inj (slot.owns.live.symm.trans liveAt)
    have samePort : pp' = pp := by
      apply onlyPort_injective
      rw [← slot.owns.ports, sameAdapter, table]
    exact ⟨port, samePort ▸ slot.owns.livePort, slot.owns.owner⟩
  obtain ⟨port, here, points⟩ := owner live ports
  obtain ⟨port', here', points'⟩ := owner live' ports'
  rw [here, Option.some.injEq] at here'
  rw [here', points', Option.some.injEq] at points
  exact points.symm

/-- Publishing fills the next slot. -/
theorem AdapterInv.publish {lib : Lib} {adapter : AdapterInfo} {port : PortInfo}
    (inv : AdapterInv lib) (ports : adapter.adPorts = onlyPort lib.lports.fresh)
    (owner : port.apAdapt = some lib.adapters.fresh) (portIndex : port.apIndex = 0)
    (host : port.apKernHba = adapter.adKernIndex)
    (small : lib.adapterTable.stLimit.toNat < 2 ^ 31) :
    AdapterInv (lib.publish adapter port) := by
  have view := SaTable.view_put inv.wf small (some lib.adapters.fresh)
  have limit : (lib.adapterTable.put lib.adapterTable.stLimit (some lib.adapters.fresh)).stLimit.toNat =
      max lib.adapterTable.stLimit.toNat (lib.adapterTable.stLimit.toNat + 1) :=
    SaTable.limit_put small _
  have last : lib.adapterTable.stLimit.toNat < (lib.publish adapter port).adapterTable.stLimit.toNat := by
    simp only [Lib.publish, limit]
    omega
  refine ⟨SaTable.wf_put inv.wf small _, ?_, ?_, ?_, ?_⟩
  · simp only [Lib.publish, limit]
    omega
  · intro i below
    by_cases new : i = lib.adapterTable.stLimit.toNat
    · refine ⟨lib.adapters.fresh, lib.lports.fresh, { adapter with adIndex := lib.adapterTable.stLimit },
        port, ?_, ⟨Arena.get_store_self _ _ _, ports, Arena.get_store_self _ _ _, owner⟩, new.symm,
        portIndex, host⟩
      simp only [Lib.publish, view, new, Function.update_self]
    · obtain ⟨ap, pp, old, oldPort, slot⟩ := inv.slots i (by
        simp only [Lib.publish, limit] at below
        omega)
      refine ⟨ap, pp, old, oldPort, ?_, ⟨?_, slot.owns.ports, ?_, slot.owns.owner⟩, slot.index,
        slot.portIndex, slot.host⟩
      · simp only [Lib.publish, view, Function.update_of_ne new, slot.entry]
      · rw [← slot.owns.live]
        exact Arena.get_store_ne _ (Arena.ne_fresh slot.owns.live)
      · rw [← slot.owns.livePort]
        exact Arena.get_store_ne _ (Arena.ne_fresh slot.owns.livePort)
  · intro ap found live
    by_cases new : ap = lib.adapters.fresh
    · exact ⟨_, last, by simp only [Lib.publish, view, new, Function.update_self]⟩
    · rw [Lib.publish, Arena.get_store_ne _ new] at live
      obtain ⟨i, below, entry⟩ := inv.listed ap found live
      refine ⟨i, by omega, ?_⟩
      simp only [Lib.publish, view, Function.update_of_ne (Nat.ne_of_lt below), entry]
  · intro pp found live
    by_cases new : pp = lib.lports.fresh
    · exact ⟨_, _, Arena.get_store_self _ _ _, new ▸ ports⟩
    · rw [Lib.publish, Arena.get_store_ne _ new] at live
      obtain ⟨ap, old, liveOwner, table⟩ := inv.owned pp found live
      refine ⟨ap, old, ?_, table⟩
      rw [← liveOwner]
      exact Arena.get_store_ne _ (Arena.ne_fresh liveOwner)

theorem sysfsScan_inv {env dp lib exit lib'} (inv : AdapterInv lib)
    (scanned : sysfsScan env dp lib = .ok (exit, lib'))
    (few : lib'.adapterTable.stLimit.toNat ≤ 2 ^ 31) : AdapterInv lib' := by
  rcases sysfsScan_cases inv.wf scanned with
    ⟨-, table, rfl, rfl | ⟨large, moved⟩⟩ |
      ⟨-, small, found, port, adPorts, buf, adapter, -, builtPort, builtAdapter, rfl⟩
  · exact inv
  · simp only at few
    omega
  · obtain ⟨ports, owner, portIndex, host, -⟩ := buildPort_eq builtPort
    obtain ⟨kern, table⟩ := buildAdapter_eq builtAdapter
    exact inv.publish (table.trans ports) owner portIndex (host.trans kern.symm) small

theorem scanEntry_eq_ok {env dp lib rc lib'} :
    scanEntry env dp lib = .ok (rc, lib') ↔
      ∃ exit, sysfsScan env dp lib = .ok (exit, lib') ∧ exit.code = rc := by
  rw [scanEntry, map_eq_ok]
  constructor
  · rintro ⟨⟨exit, last⟩, scanned, same⟩
    cases same
    exact ⟨exit, scanned, rfl⟩
  · rintro ⟨exit, scanned, rfl⟩
    exact ⟨(exit, lib'), scanned, rfl⟩

/-- Loading is a walk over the host entries. -/
theorem loadLibrary_eq_ok {env lib lib'} :
    loadLibrary env lib = .ok lib' ↔ ∃ rc, untilNonzero (scanEntry env) (hosts env) lib = .ok (rc, lib') := by
  rw [loadLibrary, adapterInit, saDirRead_state, map_eq_ok]
  constructor
  · rintro ⟨⟨rc, last⟩, walked, rfl⟩
    exact ⟨rc, walked⟩
  · rintro ⟨rc, walked⟩
    exact ⟨(rc, lib'), walked, rfl⟩

/-- What every call of `sysfs_scan` preserves, of the state and the entries before it, loading
    preserves. -/
theorem loadLibrary_passes {P : List DirEnt → Lib → Prop} {env lib lib'} (inv : AdapterInv lib)
    (few : FewAdapters env lib) (loaded : loadLibrary env lib = .ok lib')
    (step : ∀ before dp after, hosts env = before ++ dp :: after → ∀ t exit t', AdapterInv t →
      P before t → sysfsScan env dp t = .ok (exit, t') → P (before ++ [dp]) t')
    (start : P [] lib) : AdapterInv lib' ∧ ∃ before, P before lib' := by
  obtain ⟨rc, walked⟩ := loadLibrary_eq_ok.mp loaded
  obtain ⟨passed, inv', held⟩ := untilNonzero_passes (P := fun before t => AdapterInv t ∧ P before t)
    rfl ⟨inv, start⟩ (fun before dp after listing t code t' held reached called => by
      obtain ⟨exit, scanned, -⟩ := scanEntry_eq_ok.mp called
      rw [List.nil_append] at listing
      refine ⟨sysfsScan_inv held.1 scanned (few (before ++ [dp]) after ?_ code t' ?_).le,
        step before dp after listing t exit t' held.1 held.2 scanned⟩
      · rw [listing, List.append_assoc, List.singleton_append]
      · rw [untilNonzero_append reached, untilNonzero_singleton called]) walked
  exact ⟨inv', passed, held⟩

/-- What every call of `sysfs_scan` preserves, loading preserves. -/
theorem loadLibrary_preserves {P : Lib → Prop} {env lib lib'} (inv : AdapterInv lib)
    (few : FewAdapters env lib) (loaded : loadLibrary env lib = .ok lib')
    (step : ∀ dp ∈ hosts env, ∀ t exit t', AdapterInv t → P t →
      sysfsScan env dp t = .ok (exit, t') → P t') (start : P lib) : AdapterInv lib' ∧ P lib' := by
  obtain ⟨inv', -, held⟩ := loadLibrary_passes (P := fun _ => P) inv few loaded
    (fun before dp after listing => step dp (by simp [listing])) start
  exact ⟨inv', held⟩

theorem loadLibrary_inv {env lib lib'} (inv : AdapterInv lib) (few : FewAdapters env lib)
    (loaded : loadLibrary env lib = .ok lib') : AdapterInv lib' :=
  (loadLibrary_preserves (P := fun _ => True) inv few loaded (fun _ _ _ _ _ _ _ _ => trivial)
    trivial).1

/-- Loading does not touch the remote ports. -/
theorem loadLibrary_rports {env lib lib'} (inv : AdapterInv lib) (few : FewAdapters env lib)
    (loaded : loadLibrary env lib = .ok lib') :
    lib'.rportsTable = lib.rportsTable ∧ lib'.rports = lib.rports := by
  refine (loadLibrary_preserves (P := fun t =>
    t.rportsTable = lib.rportsTable ∧ t.rports = lib.rports) inv few loaded ?_ ⟨rfl, rfl⟩).2
  intro dp _ t exit t' kept same scanned
  rcases sysfsScan_cases kept.wf scanned with
    ⟨-, table, rfl, -⟩ | ⟨-, -, found, port, adPorts, buf, adapter, -, -, -, rfl⟩
  · exact same
  · exact same

/-- The adapters that are still to be destroyed: all there are, with all local
    ports. -/
private structure Stock (lib : Lib) (aps : List Ptr) : Prop where
  nodup : aps.Nodup
  owns : ∀ ap ∈ aps, ∃ pp adapter port, lib.Owns ap pp adapter port
  listed : ∀ ap adapter, lib.adapters.get ap = some adapter → ap ∈ aps
  owned : ∀ pp port, lib.lports.get pp = some port →
    ∃ ap ∈ aps, ∃ adapter, lib.adapters.get ap = some adapter ∧ adapter.adPorts = onlyPort pp

private theorem Stock.destroy {lib : Lib} {ap pp : Ptr} {aps : List Ptr} {adapter : AdapterInfo}
    {port : PortInfo} (stock : Stock lib (ap :: aps)) (owns : lib.Owns ap pp adapter port) :
    Stock { lib with adapters := lib.adapters.free ap, lports := lib.lports.free pp } aps := by
  obtain ⟨absent, nodup⟩ := List.nodup_cons.mp stock.nodup
  have others : ∀ ap' ∈ aps, ap' ≠ ap := fun ap' member same => absent (same ▸ member)
  refine ⟨nodup, fun ap' member => ?_, fun ap' found live => ?_, fun qq found live => ?_⟩
  · obtain ⟨pp', adapter', port', owns'⟩ := stock.owns ap' (List.mem_cons_of_mem _ member)
    have different : pp' ≠ pp := by
      intro same
      have samePort : port' = port :=
        Option.some.inj (owns'.livePort.symm.trans (same ▸ owns.livePort))
      have owner := owns'.owner
      rw [samePort, owns.owner, Option.some.injEq] at owner
      exact others ap' member owner.symm
    refine ⟨pp', adapter', port', ?_, owns'.ports, ?_, owns'.owner⟩
    · rw [Arena.get_free, if_neg (others ap' member), owns'.live]
    · rw [Arena.get_free, if_neg different, owns'.livePort]
  · rw [Arena.get_free] at live
    split at live
    · cases live
    · rename_i different
      rcases List.mem_cons.mp (stock.listed ap' found live) with same | member
      · exact absurd same different
      · exact member
  · rw [Arena.get_free] at live
    split at live
    · cases live
    · rename_i different
      obtain ⟨ap', member, adapter', liveOwner, table⟩ := stock.owned qq found live
      rcases List.mem_cons.mp member with same | member
      · rw [same, owns.live, Option.some.injEq] at liveOwner
        rw [← liveOwner, owns.ports] at table
        exact absurd (onlyPort_injective table).symm different
      · refine ⟨ap', member, adapter', ?_, table⟩
        rw [Arena.get_free, if_neg (others ap' member), liveOwner]

private theorem Stock.destroyAll {lib : Lib} {aps : List Ptr} (stock : Stock lib aps) :
    aps.foldlM (fun lib ap => adapterDestroy ap lib) lib =
      .ok { lib with adapters := .empty, lports := .empty } := by
  induction aps generalizing lib with
  | nil =>
      have noAdapter : lib.adapters = .empty := by
        ext1 ap
        rw [Arena.get_empty]
        by_contra live
        obtain ⟨adapter, live⟩ := Option.ne_none_iff_exists'.mp live
        cases stock.listed ap adapter live
      have noPort : lib.lports = .empty := by
        ext1 pp
        rw [Arena.get_empty]
        by_contra live
        obtain ⟨port, live⟩ := Option.ne_none_iff_exists'.mp live
        obtain ⟨ap, member, -⟩ := stock.owned pp port live
        cases member
      rw [List.foldlM_nil, ← noAdapter, ← noPort]
      rfl
  | cons ap aps ih =>
      obtain ⟨pp, adapter, port, owns⟩ := stock.owns ap (List.mem_cons_self ..)
      rw [List.foldlM_cons, adapterDestroy_eq owns, ok_bind, ih (stock.destroy owns)]

/-- Freeing destroys every adapter and every local port. -/
theorem freeLibrary_eq {lib : Lib} (inv : AdapterInv lib) :
    freeLibrary lib =
      .ok { Lib.init with rportsTable := lib.rportsTable, rports := lib.rports } := by
  have stock : Stock lib lib.adapterTable.entries := by
    refine ⟨SaTable.entries_nodup fun _ _ _ => inv.slot_unique, fun ap member => ?_,
      fun ap adapter live => ?_, fun pp port live => ?_⟩
    · obtain ⟨i, entry⟩ := SaTable.mem_entries.mp member
      obtain ⟨pp, adapter, port, slot⟩ := inv.slot entry
      exact ⟨pp, adapter, port, slot.owns⟩
    · obtain ⟨i, -, entry⟩ := inv.listed ap adapter live
      exact SaTable.mem_entries.mpr ⟨i, entry⟩
    · obtain ⟨ap, adapter, liveOwner, table⟩ := inv.owned pp port live
      obtain ⟨i, -, entry⟩ := inv.listed ap adapter liveOwner
      exact ⟨ap, SaTable.mem_entries.mpr ⟨i, entry⟩, adapter, liveOwner, table⟩
  have loop := SaTable.destroyFrom_limit_eq adapterDestroy inv.wf inv.few lib
  rw [stock.destroyAll, map_eq_ok] at loop
  obtain ⟨⟨table, last⟩, destroyed, same⟩ := loop
  rw [freeLibrary, adapterDestroyAll, destroyed, ok_bind]
  cases same
  rfl

/-- Attaching remote ports leaves a slot as it was, but for the table of its port. -/
theorem Lib.Slot.framed {lib lib' : Lib} {i : Nat} {ap pp : Ptr} {adapter : AdapterInfo}
    {port : PortInfo} (slot : lib.Slot i ap pp adapter port) (framed : Framed lib lib') :
    ∃ t, lib'.Slot i ap pp adapter { port with apRports := t } := by
  obtain ⟨t, after⟩ := framed.lports pp
  rw [slot.owns.livePort, Option.map_some] at after
  exact ⟨t, framed.adapterTable ▸ slot.entry,
    ⟨framed.adapters ▸ slot.owns.live, slot.owns.ports, after, slot.owns.owner⟩, slot.index,
    slot.portIndex, slot.host⟩

/-- Attaching remote ports keeps what the invariant is about. -/
theorem AdapterInv.framed {lib lib' : Lib} (inv : AdapterInv lib) (framed : Framed lib lib') :
    AdapterInv lib' := by
  have table := framed.adapterTable
  have adapters := framed.adapters
  refine ⟨table ▸ inv.wf, table ▸ inv.few, fun i below => ?_, ?_, fun pp port live => ?_⟩
  · obtain ⟨ap, pp, adapter, port, slot⟩ := inv.slots i (table ▸ below)
    obtain ⟨t, after⟩ := slot.framed framed
    exact ⟨ap, pp, adapter, _, after⟩
  · rw [table, adapters]
    exact inv.listed
  · obtain ⟨t, after⟩ := framed.lports pp
    rw [live] at after
    cases before : lib.lports.get pp with
    | none =>
        rw [before] at after
        cases after
    | some old =>
        rw [adapters]
        exact inv.owned pp old before

theorem adapterInv_of_reachable {allowed : Env → Prop} {lib : Lib} (reachable : Reachable allowed lib) :
    AdapterInv lib :=
  reachable.invariant (.of_empty rfl rfl rfl) (fun _ _ _ inv _ few loaded => loadLibrary_inv inv few loaded)
    (fun lib lib' inv freed => by
      rw [freeLibrary_eq inv] at freed
      cases freed
      exact .of_empty rfl rfl rfl)
    (fun _ _ _ _ inv _ called => inv.framed (getRportInfo_framed called))

theorem rportInv_of_reachable {allowed : Env → Prop} {lib : Lib} (reachable : Reachable allowed lib) :
    RportInv lib := by
  refine (reachable.invariant (P := fun lib => AdapterInv lib ∧ RportInv lib)
    ⟨.of_empty rfl rfl rfl, .init⟩ ?_ ?_ ?_).2
  · intro env lib lib' held _ few loaded
    obtain ⟨table, rports⟩ := loadLibrary_rports held.1 few loaded
    exact ⟨loadLibrary_inv held.1 few loaded, held.2.congr table rports⟩
  · intro lib lib' held freed
    rw [freeLibrary_eq held.1] at freed
    cases freed
    exact ⟨.of_empty rfl rfl rfl, held.2.congr rfl rfl⟩
  · intro env pp lib lib' held _ called
    exact ⟨held.1.framed (getRportInfo_framed called), getRportInfo_inv held.2 called⟩

/-- An invariant of attached remote ports holds in every reachable state if it holds
    without local ports, and scanning a host and attaching keep it. -/
theorem Reachable.attach_invariant {allowed : Env → Prop} {P : Lib → Prop} {lib : Lib}
    (reachable : Reachable allowed lib) (init : P .init)
    (scan : ∀ env dp t exit t', AdapterInv t → P t → sysfsScan env dp t = .ok (exit, t') → P t')
    (free : ∀ t, P t → P { Lib.init with rportsTable := t.rportsTable, rports := t.rports })
    (attach : ∀ env pp t t', RportInv t → P t → allowed env → getRportInfo env pp t = .ok t' → P t') :
    P lib := by
  induction reachable with
  | init => exact init
  | load before _ few loaded ih =>
      exact (loadLibrary_preserves (adapterInv_of_reachable before) few loaded
        (fun dp _ t exit t' inv held scanned => scan _ dp t exit t' inv held scanned) ih).2
  | free before freed ih =>
      rw [freeLibrary_eq (adapterInv_of_reachable before)] at freed
      cases freed
      exact free _ ih
  | ask before admitted asked ih =>
      exact ((ask_attaches asked).preserves (P := fun t => RportInv t ∧ P t)
        (fun pp a b kept called => ⟨getRportInfo_inv kept.1 called,
          attach _ pp a b kept.1 kept.2 admitted called⟩) ⟨rportInv_of_reachable before, ih⟩).2

/-- The adapters of a reachable state can be counted in an `int`. -/
theorem Reachable.few {allowed : Env → Prop} {lib : Lib} (reachable : Reachable allowed lib) :
    lib.adapterTable.stLimit.toNat < 2 ^ 31 := by
  induction reachable with
  | init => decide
  | load _ _ few loaded _ =>
      obtain ⟨rc, walked⟩ := loadLibrary_eq_ok.mp loaded
      exact few _ [] (List.append_nil _).symm rc _ walked
  | free before freed _ =>
      rw [freeLibrary_eq (adapterInv_of_reachable before)] at freed
      cases freed
      exact Nat.two_pow_pos 31
  | ask before _ asked few =>
      exact (ask_attaches asked).preserves (P := fun t => t.adapterTable.stLimit.toNat < 2 ^ 31)
        (fun pp a b kept called => by
          rw [(getRportInfo_framed called).adapterTable]
          exact kept) few

theorem scanEntry_limit {env dp lib rc lib'} (wf : lib.adapterTable.Wf)
    (small : lib.adapterTable.stLimit.toNat < 2 ^ 31)
    (called : scanEntry env dp lib = .ok (rc, lib')) :
    lib'.adapterTable.Wf ∧
      lib'.adapterTable.stLimit.toNat ≤ lib.adapterTable.stLimit.toNat + 1 := by
  obtain ⟨exit, scanned, -⟩ := scanEntry_eq_ok.mp called
  rcases sysfsScan_cases wf scanned with
    ⟨-, table, rfl, rfl | ⟨large, moved⟩⟩ | ⟨-, -, found, port, adPorts, buf, adapter, -, -, -, rfl⟩
  · exact ⟨wf, Nat.le_succ _⟩
  · omega
  · refine ⟨SaTable.wf_put wf small _, ?_⟩
    simp only [Lib.publish, SaTable.limit_put small]
    omega

/-- There are few adapters while a directory of fewer entries is loaded. -/
theorem fewAdapters_of_length {env lib} (wf : lib.adapterTable.Wf)
    (short : lib.adapterTable.stLimit.toNat + (hosts env).length < 2 ^ 31) :
    FewAdapters env lib := by
  have walk : ∀ (es : List DirEnt) (s : Lib), s.adapterTable.Wf →
      s.adapterTable.stLimit.toNat + es.length < 2 ^ 31 → ∀ rc s',
      untilNonzero (scanEntry env) es s = .ok (rc, s') →
      s'.adapterTable.stLimit.toNat ≤ s.adapterTable.stLimit.toNat + es.length := by
    intro es
    induction es with
    | nil =>
        intro s _ _ rc s' ran
        cases ran
        exact Nat.le_refl _
    | cons e es ih =>
        intro s wf' short' rc s' ran
        rw [List.length_cons] at short' ⊢
        rw [untilNonzero_cons, bind_eq_ok] at ran
        obtain ⟨⟨code, mid⟩, called, rest⟩ := ran
        obtain ⟨kept, step⟩ := scanEntry_limit wf' (by omega) called
        simp only at kept step rest
        split at rest
        · have more := ih mid kept (by omega) rc s' rest
          omega
        · cases rest
          omega
  intro before after split rc lib' ran
  have parts : (hosts env).length = before.length + after.length := by
    rw [split, List.length_append]
  have bound := walk before lib wf (by omega) rc lib' ran
  omega

/-- In every reachable state each slot below the limit holds an adapter with its own
    index and one local port; no object is in two slots; and a call of `sysfs_scan`
    that publishes nothing leaves the state as it was. -/
theorem adapterTable_invariant {allowed : Env → Prop} {lib : Lib} (reachable : Reachable allowed lib) :
    (∀ i < lib.adapterTable.stLimit.toNat, ∃ ap adapter pp port,
      lib.adapterTable.stTable[i]? = some (some ap) ∧ lib.adapters.get ap = some adapter ∧
      adapter.adIndex.toNat = i ∧
      (∀ j, adapter.adPorts.view j = if j = 0 then some pp else none) ∧
      lib.lports.get pp = some port ∧ port.apIndex = 0 ∧ port.apAdapt = some ap ∧
      port.apKernHba = adapter.adKernIndex) ∧
    (∀ i j ap, lib.adapterTable.view i = some ap → lib.adapterTable.view j = some ap → i = j) ∧
    (∀ i j ap ap' adapter adapter' pp, lib.adapters.get ap = some adapter →
      lib.adapters.get ap' = some adapter' → adapter.adPorts.view i = some pp →
      adapter'.adPorts.view j = some pp → ap = ap' ∧ i = j) ∧
    (lib.adapterTable.stLimit.toNat < 2 ^ 31 → ∀ env dp exit lib',
      sysfsScan env dp lib = .ok (exit, lib') → exit ≠ .published → lib' = lib) := by
  have inv := adapterInv_of_reachable reachable
  refine ⟨fun i below => ?_, fun _ _ _ => inv.slot_unique, ?_,
    fun small env dp exit lib' scanned other => ?_⟩
  · obtain ⟨ap, pp, adapter, port, slot⟩ := inv.slots i below
    refine ⟨ap, adapter, pp, port, ?_, slot.owns.live, slot.index, fun j => ?_, slot.owns.livePort,
      slot.portIndex, slot.owns.owner, slot.host⟩
    · rw [SaTable.wf_slots inv.wf below, slot.entry]
    · rw [slot.owns.ports, onlyPort_view]
  · intro i j ap ap' adapter adapter' pp live live' entry entry'
    have only : ∀ {q a k}, lib.adapters.get q = some a → a.adPorts.view k = some pp →
        k = 0 ∧ a.adPorts = onlyPort pp := by
      intro q a k liveAt held
      obtain ⟨n, -, listed⟩ := inv.listed q a liveAt
      obtain ⟨pp', a', port, slot⟩ := inv.slot listed
      have same : a' = a := Option.some.inj (slot.owns.live.symm.trans liveAt)
      have ports := slot.owns.ports
      rw [same] at ports
      rw [ports, onlyPort_view] at held
      split at held
      · rename_i first
        exact ⟨first, by rw [ports, Option.some.inj held]⟩
      · cases held
    obtain ⟨first, ports⟩ := only live entry
    obtain ⟨second, ports'⟩ := only live' entry'
    exact ⟨inv.owner_unique live live' ports ports', by omega⟩
  · rcases sysfsScan_cases inv.wf scanned with
      ⟨-, table, rfl, rfl | ⟨large, -⟩⟩ | ⟨published, -⟩
    · rfl
    · omega
    · exact absurd published other

/-- A file tree given by its files, directories and links. -/
def Sysfs.ofLists (files : List (CStr × CStr)) (dirs : List (CStr × List DirEnt))
    (links : List (CStr × CStr)) : Sysfs where
  file path := files.lookup path
  dir path := dirs.lookup path
  link path := links.lookup path

/-- The files of a host `host3` behind `eth2` and of one remote port, both with all
    their attributes. -/
def smallFiles : List (CStr × CStr) :=
  [("/sys/class/fc_host/host3/symbolic_name", "fcoe v0.1 over eth2\n"),
    ("/sys/class/fc_host/host3/port_name", "0x2000000000000001\n"),
    ("/sys/class/net/eth2/ifindex", "5\n"),
    ("/sys/class/net/eth2/iflink", "5\n"),
    ("/sys/class/fc_remote_ports/rport-3:0-1/node_name", "0x3000000000000001\n"),
    ("/sys/class/fc_remote_ports/rport-3:0-1/port_name", "0x4000000000000001\n"),
    ("/sys/class/fc_remote_ports/rport-3:0-1/port_id", "0x010204\n"),
    ("/sys/class/fc_remote_ports/rport-3:0-1/scsi_target_id", "0\n"),
    ("/sys/class/fc_remote_ports/rport-3:0-1/maxframe_size", "2048\n"),
    ("/sys/class/fc_remote_ports/rport-3:0-1/port_state", "Online\n"),
    ("/sys/class/fc_remote_ports/rport-3:0-1/supported_classes", "Class 3\n")]

def smallDirs : List (CStr × List DirEnt) :=
  [("/sys/class/fc_host", [⟨"host3", .lnk⟩]),
    ("/sys/class/fc_host/host3/device", [⟨"rport-3:0-1", .dir⟩]),
    ("/sys/class/fc_remote_ports", [⟨"rport-3:0-1", .lnk⟩]),
    ("/sys/class/scsi_device", [⟨"3:0:0:0", .lnk⟩]),
    ("/sys/class/scsi_device/3:0:0:0/device", [⟨"scsi_generic:sg1", .lnk⟩])]

def smallLinks : List (CStr × CStr) :=
  [("/sys/class/net/eth2/device", "../../../0000:03:00.1")]

/-- An environment in which memory never runs out. -/
def Env.withTree (sysfs : Sysfs) : Env where
  sysfs := sysfs
  mem _ := true
  scratch _ := ⟨.replicate 256 'A', .replicate 32 0, .zero, .replicate 20 'A'⟩
  rportScratch _ := .replicate 256 'A'
  findPciDevice info := info
  sgGetDevId _ buf := buf

def smallSystem : Env := .withTree (.ofLists smallFiles smallDirs smallLinks)

/-- The state after loading into a new process. -/
def loadedState (env : Env) : Lib := (loadLibrary env .init).toOption.getD .init

private theorem smallSystem_facts : (loadLibrary smallSystem .init).toOption.isSome = true ∧
    (loadedState smallSystem).adapterTable.stLimit = 1 := by
  decide +kernel

theorem loadLibrary_small : loadLibrary smallSystem .init = .ok (loadedState smallSystem) :=
  eq_ok_getD smallSystem_facts.1 _

theorem reachable_small_of {allowed : Env → Prop} (admitted : allowed smallSystem) :
    Reachable allowed (loadedState smallSystem) :=
  .load .init admitted (fewAdapters_of_length SaTable.wf_init (by decide +kernel)) loadLibrary_small

theorem reachable_small : Reachable (fun _ => True) (loadedState smallSystem) :=
  reachable_small_of trivial

theorem loadedState_small_limit : (loadedState smallSystem).adapterTable.stLimit = 1 :=
  smallSystem_facts.2

/-- After `host3` is loaded its adapter is in slot 0. -/
theorem adapterTable_invariant_small :
    (loadedState smallSystem).adapterTable.stLimit = 1 ∧
      ∃ ap adapter pp port,
        (loadedState smallSystem).adapterTable.stTable[0]? = some (some ap) ∧
        (loadedState smallSystem).adapters.get ap = some adapter ∧ adapter.adIndex.toNat = 0 ∧
        (∀ j, adapter.adPorts.view j = if j = 0 then some pp else none) ∧
        (loadedState smallSystem).lports.get pp = some port ∧ port.apIndex = 0 ∧
        port.apAdapt = some ap ∧ port.apKernHba = adapter.adKernIndex :=
  ⟨loadedState_small_limit, (adapterTable_invariant reachable_small).1 0 (by
    rw [loadedState_small_limit]
    decide)⟩

/-- A second remote port of `host3`. -/
def secondFiles : List (CStr × CStr) :=
  [("/sys/class/fc_remote_ports/rport-3:0-2/node_name", "0x3000000000000002\n"),
    ("/sys/class/fc_remote_ports/rport-3:0-2/port_name", "0x4000000000000002\n"),
    ("/sys/class/fc_remote_ports/rport-3:0-2/port_id", "0x010205\n"),
    ("/sys/class/fc_remote_ports/rport-3:0-2/scsi_target_id", "1\n"),
    ("/sys/class/fc_remote_ports/rport-3:0-2/maxframe_size", "2048\n"),
    ("/sys/class/fc_remote_ports/rport-3:0-2/port_state", "Online\n"),
    ("/sys/class/fc_remote_ports/rport-3:0-2/supported_classes", "Class 3\n")]

/-- A host `host4` behind `eth3` with one remote port. -/
def secondHostFiles : List (CStr × CStr) :=
  [("/sys/class/fc_host/host4/symbolic_name", "fcoe v0.1 over eth3\n"),
    ("/sys/class/fc_host/host4/port_name", "0x2000000000000002\n"),
    ("/sys/class/net/eth3/ifindex", "6\n"),
    ("/sys/class/net/eth3/iflink", "6\n"),
    ("/sys/class/fc_remote_ports/rport-4:0-1/node_name", "0x3000000000000003\n"),
    ("/sys/class/fc_remote_ports/rport-4:0-1/port_name", "0x4000000000000003\n"),
    ("/sys/class/fc_remote_ports/rport-4:0-1/port_id", "0x010206\n"),
    ("/sys/class/fc_remote_ports/rport-4:0-1/scsi_target_id", "0\n"),
    ("/sys/class/fc_remote_ports/rport-4:0-1/maxframe_size", "2048\n"),
    ("/sys/class/fc_remote_ports/rport-4:0-1/port_state", "Online\n"),
    ("/sys/class/fc_remote_ports/rport-4:0-1/supported_classes", "Class 3\n")]

/-- What stands beside the hosts and the remote ports themselves. -/
def twinDirs : List (CStr × List DirEnt) :=
  [("/sys/class/fc_host/host3/device", [⟨"rport-3:0-1", .dir⟩, ⟨"rport-3:0-2", .dir⟩]),
    ("/sys/class/fc_host/host4/device", [⟨"rport-4:0-1", .dir⟩]),
    ("/sys/class/scsi_device", [⟨"3:0:1:0", .lnk⟩, ⟨"4:0:0:0", .lnk⟩, ⟨"3:0:0:0", .lnk⟩]),
    ("/sys/class/scsi_device/3:0:0:0/device", [⟨"scsi_generic:sg1", .lnk⟩]),
    ("/sys/class/scsi_device/3:0:1:0/device", [⟨"scsi_generic:sg2", .lnk⟩]),
    ("/sys/class/scsi_device/4:0:0:0/device", [⟨"scsi_generic:sg3", .lnk⟩])]

/-- Two hosts, listed in this order, with three remote ports, listed in this order, and a SCSI
    device behind each of these. -/
def twinsListed (hosts rports : List DirEnt) : Env := .withTree (.ofLists
  (secondHostFiles ++ secondFiles ++ smallFiles)
  (("/sys/class/fc_host", hosts) :: ("/sys/class/fc_remote_ports", rports) :: twinDirs)
  (("/sys/class/net/eth3/device", "../../../0000:04:00.1") :: smallLinks))

def twinHosts : List DirEnt := [⟨"host3", .lnk⟩, ⟨"host4", .lnk⟩]

def twinSystem : Env :=
  twinsListed twinHosts [⟨"rport-3:0-1", .lnk⟩, ⟨"rport-4:0-1", .lnk⟩, ⟨"rport-3:0-2", .lnk⟩]

theorem fewAdapters_twin : FewAdapters twinSystem .init :=
  fewAdapters_of_length SaTable.wf_init (by decide +kernel)

private theorem twinSystem_facts : (loadLibrary twinSystem .init).toOption.isSome = true ∧
    (loadedState twinSystem).adapterTable.stLimit = 2 ∧
    (loadedState twinSystem).adapterTable.stTable[0]? = some (some 0) ∧
    (loadedState twinSystem).adapterTable.stTable[1]? = some (some 1) ∧
    ((loadedState twinSystem).adapters.get 0).map AdapterInfo.adName =
      some (some "fcoe:eth2".toList) ∧
    ((loadedState twinSystem).adapters.get 1).map AdapterInfo.adName =
      some (some "fcoe:eth3".toList) := by
  decide +kernel

theorem loadLibrary_twin : loadLibrary twinSystem .init = .ok (loadedState twinSystem) :=
  eq_ok_getD twinSystem_facts.1 _

theorem reachable_twin : Reachable (fun _ => True) (loadedState twinSystem) :=
  .load .init trivial fewAdapters_twin loadLibrary_twin

theorem loadedState_twin_limit : (loadedState twinSystem).adapterTable.stLimit = 2 :=
  twinSystem_facts.2.1

/-- The adapters behind `eth2` and `eth3`. -/
theorem loadedState_twin_names :
    (loadedState twinSystem).adapterTable.stTable[0]? = some (some 0) ∧
      (loadedState twinSystem).adapterTable.stTable[1]? = some (some 1) ∧
      ((loadedState twinSystem).adapters.get 0).map AdapterInfo.adName =
        some (some "fcoe:eth2".toList) ∧
      ((loadedState twinSystem).adapters.get 1).map AdapterInfo.adName =
        some (some "fcoe:eth3".toList) :=
  twinSystem_facts.2.2

end Hbalinux
