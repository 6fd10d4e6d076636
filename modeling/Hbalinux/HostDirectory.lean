import Hbalinux.DirectorySpec

/-! # The host directory

Loading goes through the directory of hosts and makes an adapter of each host that can be
identified.  What the calls tell about adapters afterwards can be read off the directory: they
are numbered in its order, with what was read of each host, whatever queries have been asked.
-/

namespace Hbalinux

open Outcome

/-! ## What becomes of a host -/

/-- The adapter that an entry of the directory becomes, if it becomes one. -/
def scannedAs (env : Env) (dp : DirEnt) : Option Created := do
  let found ← (identifyHost env.sysfs (env.scratch dp.dName) dp).toOption.join
  let built ← (buildPort env dp found 0 0).toOption.join
  let adapter ← (buildAdapter env dp found built.1 built.2.1 built.2.2).toOption
  some ⟨adapter.unlinked, [built.1.unlinked]⟩

def scannedHosts (env : Env) : List Created := (hosts env).filterMap (scannedAs env)

/-- A local port is the same wherever it is built. -/
theorem buildPort_elsewhere {env : Env} {dp : DirEnt} {found : Identified} {ap pp : Ptr}
    {port : PortInfo} {adPorts : SaTable Ptr} {buf : List Char}
    (built : buildPort env dp found ap pp = .ok (some (port, adPorts, buf))) (ap' pp' : Ptr) :
    buildPort env dp found ap' pp' =
      .ok (some ({ port with apAdapt := some ap' }, onlyPort pp', buf)) := by
  obtain ⟨⟨pap, line⟩, read, rest⟩ := bind_eq_ok.mp built
  obtain ⟨⟨rc, table⟩, inserted, rest⟩ := bind_eq_ok.mp rest
  simp only at inserted rest
  rw [SaTable.insert_eq SaTable.wf_init (by decide)] at inserted
  split at inserted
  · cases inserted
    cases rest
  · rename_i room
    cases inserted
    cases rest
    rw [buildPort, read, ok_bind]
    simp only
    rw [SaTable.insert_eq SaTable.wf_init (by decide), if_neg room, ok_bind]
    rfl

/-- Of the local port an adapter takes over the node name. -/
theorem buildAdapter_elsewhere {env : Env} {dp : DirEnt} {found : Identified} {port port' : PortInfo}
    {adPorts adPorts' : SaTable Ptr} {buf : List Char} {adapter : AdapterInfo}
    (built : buildAdapter env dp found port adPorts buf = .ok adapter)
    (same : port'.apAttr = port.apAttr) :
    buildAdapter env dp found port' adPorts' buf = .ok { adapter with adPorts := adPorts' } := by
  obtain ⟨ifname, ended, rest⟩ := bind_eq_ok.mp built
  obtain ⟨adName, named, rest⟩ := bind_eq_ok.mp rest
  obtain ⟨attr, read, rest⟩ := bind_eq_ok.mp rest
  cases rest
  simp only [buildAdapter, ended, ok_bind, named, same, read]

theorem scannedAs_of_built {env : Env} {dp : DirEnt} {found : Identified} {ap pp : Ptr}
    {port : PortInfo} {adPorts : SaTable Ptr} {buf : List Char} {adapter : AdapterInfo}
    (identified : identifyHost env.sysfs (env.scratch dp.dName) dp = .ok (some found))
    (builtPort : buildPort env dp found ap pp = .ok (some (port, adPorts, buf)))
    (builtAdapter : buildAdapter env dp found port adPorts buf = .ok adapter) :
    scannedAs env dp = some ⟨adapter.unlinked, [port.unlinked]⟩ := by
  have first := buildPort_elsewhere builtPort 0 0
  have second : buildAdapter env dp found { port with apAdapt := some 0 } (onlyPort 0) buf =
      .ok { adapter with adPorts := onlyPort 0 } := buildAdapter_elsewhere builtAdapter rfl
  simp only [scannedAs, identified, first, second, Except.toOption, Option.join_some,
    Option.bind_eq_bind, Option.bind_some]
  rfl

theorem built_of_scannedAs {env : Env} {dp : DirEnt} {made : Created} (scans : scannedAs env dp = some made)
    (ap pp : Ptr) : ∃ found port adPorts buf adapter,
      identifyHost env.sysfs (env.scratch dp.dName) dp = .ok (some found) ∧
        buildPort env dp found ap pp = .ok (some (port, adPorts, buf)) ∧
        buildAdapter env dp found port adPorts buf = .ok adapter := by
  have inner : ∀ {α : Type} {read : Outcome α} {a : α}, read.toOption = some a → read = .ok a :=
    eq_ok_of_toOption
  have joined : ∀ {α : Type} {read : Outcome (Option α)} {a : α},
      read.toOption.join = some a → read = .ok (some a) :=
    fun defined => inner (Option.join_eq_some_iff.mp defined)
  obtain ⟨found, identified, scans⟩ := Option.bind_eq_some_iff.mp scans
  obtain ⟨⟨port, adPorts, buf⟩, builtPort, scans⟩ := Option.bind_eq_some_iff.mp scans
  obtain ⟨adapter, builtAdapter, -⟩ := Option.bind_eq_some_iff.mp scans
  exact ⟨found, _, _, buf, _, joined identified, buildPort_elsewhere (joined builtPort) ap pp,
    buildAdapter_elsewhere (inner builtAdapter) rfl⟩

section Scan

variable {env : Env} (mem : ∀ site, env.mem site = true)
include mem

theorem sysfsScan_code {dp : DirEnt} {lib lib' : Lib} {exit : ScanExit}
    (scanned : sysfsScan env dp lib = .ok (exit, lib')) : exit.code = 0 := by
  simp only [sysfsScan, mem, Bool.true_eq_false, if_false] at scanned
  obtain ⟨found, -, rest⟩ := bind_eq_ok.mp scanned
  cases found with
  | none =>
      cases rest
      rfl
  | some found =>
      obtain ⟨built, -, rest⟩ := bind_eq_ok.mp rest
      rcases built with _ | ⟨port, adPorts, buf⟩
      · cases rest
        rfl
      · obtain ⟨adapter, -, rest⟩ := bind_eq_ok.mp rest
        obtain ⟨⟨status, created⟩, -, rest⟩ := bind_eq_ok.mp rest
        simp only at rest
        split at rest
        · cases rest
          rfl
        · obtain ⟨last, -, rest⟩ := bind_eq_ok.mp rest
          cases rest
          rfl

/-- A host becomes the adapter that it is scanned as, behind those that are there. -/
theorem sysfsScan_scannedAs {dp : DirEnt} {lib lib' : Lib} {exit : ScanExit} (inv : AdapterInv lib)
    (small : lib.adapterTable.stLimit.toNat < 2 ^ 31)
    (scanned : sysfsScan env dp lib = .ok (exit, lib')) :
    lib'.creations = lib.creations ++ (scannedAs env dp).toList.map some := by
  rcases sysfsScan_cases inv.wf scanned with
    ⟨other, table, rfl, rfl | ⟨large, -⟩⟩ |
      ⟨-, -, found, port, adPorts, buf, adapter, identified, builtPort, builtAdapter, rfl⟩
  · cases scans : scannedAs env dp with
    | none => exact (List.append_nil _).symm
    | some made =>
        obtain ⟨found, port, adPorts, buf, adapter, identified, builtPort, builtAdapter⟩ :=
          built_of_scannedAs scans lib.adapters.fresh lib.lports.fresh
        have published := sysfsScan_publishes inv.wf small mem identified builtPort builtAdapter
        rw [published, Except.ok.injEq, Prod.mk.injEq] at scanned
        exact absurd scanned.1.symm other
  · omega
  · have ports : adapter.adPorts = onlyPort lib.lports.fresh :=
      (buildAdapter_eq builtAdapter).2.trans (buildPort_eq builtPort).1
    rw [scannedAs_of_built identified builtPort builtAdapter, Lib.creations_publish inv ports small]
    rfl

end Scan

/-- All slots of the adapter table are filled. -/
theorem AdapterInv.entries_filled {lib : Lib} (inv : AdapterInv lib) :
    lib.adapterTable.entries.map some =
      (List.range' 0 lib.adapterTable.stLimit.toNat).map lib.adapterTable.view := by
  refine map_some_filterMap fun j member => ?_
  obtain ⟨ap, pp, adapter, port, filled⟩ := inv.slots j (by simpa using member)
  exact ⟨ap, filled.entry⟩

theorem AdapterInv.entries_length {lib : Lib} (inv : AdapterInv lib) :
    lib.adapterTable.entries.length = lib.adapterTable.stLimit.toNat := by
  simpa using congrArg List.length inv.entries_filled

theorem AdapterInv.entries_getElem? {lib : Lib} (inv : AdapterInv lib) (i : Nat) :
    lib.adapterTable.entries[i]? = lib.adapterTable.view i := by
  have same := congrArg (fun l => l[i]?) inv.entries_filled
  simp only [List.getElem?_map] at same
  have length := inv.entries_length
  by_cases below : i < lib.adapterTable.stLimit.toNat
  · rw [List.getElem?_range' below, Option.map_some, Nat.zero_add, Nat.one_mul] at same
    obtain ⟨ap, here, entry⟩ := Option.map_eq_some_iff.mp same
    rw [here, ← entry]
  · rw [SaTable.view_of_limit_le (by omega), List.getElem?_eq_none (by omega)]

/-- Loading makes of the hosts what they are scanned as, in the order of their directory. -/
theorem loadLibrary_creations {env : Env} {lib : Lib} (mem : ∀ site, env.mem site = true)
    (few : (hosts env).length < 2 ^ 31) (loaded : loadLibrary env .init = .ok lib) :
    AdapterInv lib ∧ lib.creations = (scannedHosts env).map some := by
  obtain ⟨rc, walked⟩ := loadLibrary_eq_ok.mp loaded
  rw [scannedHosts]
  generalize hosts env = dps at *
  have start : AdapterInv Lib.init ∧
      Lib.init.creations = (([] : List DirEnt).filterMap (scannedAs env)).map some :=
    ⟨.of_empty rfl rfl rfl, rfl⟩
  refine untilNonzero_passes_all (P := fun before t => AdapterInv t ∧
    t.creations = (before.filterMap (scannedAs env)).map some) start ?_ walked
  rintro before dp after listing t code t' ⟨inv, made⟩ called
  obtain ⟨exit, scanned, rfl⟩ := scanEntry_eq_ok.mp called
  rw [List.nil_append] at listing
  have small : t.adapterTable.stLimit.toNat < 2 ^ 31 := by
    have length := congrArg List.length made
    have bound := List.length_filterMap_le (scannedAs env) before
    rw [Lib.creations, List.length_map, inv.entries_length, List.length_map] at length
    rw [listing, List.length_append, List.length_cons] at few
    omega
  have next := (scanEntry_limit inv.wf small called).2
  refine ⟨sysfsScan_code mem scanned, sysfsScan_inv inv scanned (by omega), ?_⟩
  rw [sysfsScan_scannedAs mem inv small scanned, made, List.filterMap_append, List.map_append]
  cases scans : scannedAs env dp with
  | none => rw [List.filterMap_cons_none scans]; rfl
  | some new => rw [List.filterMap_cons_some scans]; rfl

/-! ## What the calls tell -/

/-- The calls about the adapter with a number tell what was made of a host. -/
structure Lib.Shows (lib : Lib) (i : UInt32) (made : Created) : Prop where
  name : ∃ adName, made.adapter.adName = some adName ∧
    adapterGetName lib i = .ok (.ok (snprintf hbaShortNameLimit (numberedName adName i)))
  attr : adapterGetAttr lib (adapterHandleOffset + i) = .ok (.ok made.adapter.adAttr)
  port : ∃ port, made.ports = [port] ∧
    adapterGetPortAttr lib (adapterHandleOffset + i) 0 = .ok (.ok port.apAttr) ∧
    ∃ ap, ∀ env, lib.directory env (adapterHandleOffset + i) =
      some ⟨made.adapter.adKernIndex, port.apAttr.portWwn,
        listedRemotes env { port with apAdapt := some ap }⟩

/-- There is no adapter with a number. -/
structure Lib.Lacks (lib : Lib) (i : UInt32) : Prop where
  name : adapterGetName lib i = .ok (.error hbaStatusErrorIllegalIndex)
  attr : adapterGetAttr lib (adapterHandleOffset + i) = .ok (.error hbaStatusError)
  port : ∀ index, adapterGetPortAttr lib (adapterHandleOffset + i) index = .ok (.error hbaStatusError)
  view : ∀ env, lib.directory env (adapterHandleOffset + i) = none

theorem adapterOpenHandle_offset {lib : Lib} (inv : AdapterInv lib) (i : UInt32) :
    adapterOpenHandle lib (adapterHandleOffset + i) = .ok (lib.adapterTable.view i.toNat) := by
  have shifted : adapterHandleOffset + i - adapterHandleOffset = i := by grind
  rw [adapterOpenHandle, shifted, SaTable.lookup_eq_view inv.wf]

theorem Lib.Slot.shows {lib : Lib} {i : UInt32} {ap pp : Ptr} {adapter : AdapterInfo} {port : PortInfo}
    (slot : lib.Slot i.toNat ap pp adapter port) (inv : AdapterInv lib) {adName : CStr}
    (named : adapter.adName = some adName) : lib.Shows i ⟨adapter.unlinked, [port.unlinked]⟩ where
  name := by
    refine ⟨adName, named, ?_⟩
    rw [adapterGetName, SaTable.lookup_eq_view inv.wf, slot.entry, ok_bind]
    simp only [Lib.adapter, slot.owns.live, demand_some, ok_bind, named]
  attr := by
    simp only [adapterGetAttr, adapterOpenHandle_offset inv, slot.entry, ok_bind, Lib.adapter,
      slot.owns.live, demand_some]
    rfl
  port := by
    have opened : adapterOpenHandle lib (adapterHandleOffset + i) = .ok (some ap) := by
      rw [adapterOpenHandle_offset inv, slot.entry]
    refine ⟨port.unlinked, rfl, ?_, ap, fun env => ?_⟩
    · simp only [adapterGetPortAttr, slot.adapterGetPort_eq opened, if_true, ok_bind, Lib.port,
        slot.owns.livePort, demand_some]
      rfl
    · have entry : adapter.adPorts.view 0 = some pp := by
        rw [slot.owns.ports]
        rfl
      simp only [Lib.directory, opened, Except.toOption, Option.join_some, Option.bind_eq_bind,
        Option.bind_some, slot.owns.live, entry, slot.owns.livePort]
      rw [listedRemotes, listedRemotes, slot.owns.owner]
      rfl

theorem AdapterInv.lacks {lib : Lib} (inv : AdapterInv lib) {i : UInt32}
    (past : lib.adapterTable.stLimit.toNat ≤ i.toNat) : lib.Lacks i := by
  have none := SaTable.view_of_limit_le past
  have closed : adapterOpenHandle lib (adapterHandleOffset + i) = .ok Option.none := by
    rw [adapterOpenHandle_offset inv, none]
  refine ⟨?_, ?_, fun index => ?_, fun env => ?_⟩
  · rw [adapterGetName, SaTable.lookup_eq_view inv.wf, none, ok_bind]
  · simp only [adapterGetAttr, closed, ok_bind]
  · simp only [adapterGetPortAttr, adapterGetPort, closed, ok_bind]
  · simp only [Lib.directory, closed, Except.toOption, Option.join_some, Option.bind_eq_bind,
      Option.bind_none]

/-- Attaching remote ports leaves the adapters as they were created. -/
theorem Framed.creations_eq {lib lib' : Lib} (framed : Framed lib lib') :
    lib'.creations = lib.creations := by
  rw [Lib.creations, Lib.creations, framed.adapterTable]
  refine List.map_congr_left fun ap _ => ?_
  have ports : ∀ pps : List Ptr, (pps.filterMap lib'.lports.get).map PortInfo.unlinked =
      (pps.filterMap lib.lports.get).map PortInfo.unlinked := by
    intro pps
    rw [List.map_filterMap, List.map_filterMap]
    refine List.filterMap_congr fun pp _ => ?_
    obtain ⟨t, after⟩ := framed.lports pp
    rw [after, Option.map_map]
    rfl
  simp only [Lib.created, framed.adapters, ports]

/-- An adapter is named when it is created. -/
theorem scannedAs_named {env : Env} {dp : DirEnt} {made : Created} (scans : scannedAs env dp = some made) :
    ∃ adName, made.adapter.adName = some adName := by
  obtain ⟨found, -, scans⟩ := Option.bind_eq_some_iff.mp scans
  obtain ⟨built, -, scans⟩ := Option.bind_eq_some_iff.mp scans
  obtain ⟨adapter, builtAdapter, same⟩ := Option.bind_eq_some_iff.mp scans
  cases same
  obtain ⟨ifname, -, rest⟩ := bind_eq_ok.mp (eq_ok_of_toOption builtAdapter)
  obtain ⟨adName, -, rest⟩ := bind_eq_ok.mp rest
  obtain ⟨attr, -, rest⟩ := bind_eq_ok.mp rest
  cases rest
  exact ⟨adName, rfl⟩

section Load

variable {env : Env} {lib : Lib} (mem : ∀ site, env.mem site = true)
  (few : (hosts env).length < 2 ^ 31) (loaded : loadLibrary env .init = .ok lib)
include mem few loaded

/-- An adapter in a later state is one of the hosts. -/
theorem scanned_slot {later : Lib} (framed : Framed lib later) {i : UInt32} {made : Created}
    (host : (scannedHosts env)[i.toNat]? = some made) : ∃ ap pp adapter port,
      later.Slot i.toNat ap pp adapter port ∧ made = ⟨adapter.unlinked, [port.unlinked]⟩ := by
  obtain ⟨inv, creations⟩ := loadLibrary_creations mem few loaded
  have inv' := inv.framed framed
  have here : later.creations[i.toNat]? = some (some made) := by
    rw [framed.creations_eq, creations, List.getElem?_map, host, Option.map_some]
  rw [Lib.creations, List.getElem?_map, inv'.entries_getElem?] at here
  obtain ⟨ap, entry, same⟩ := Option.map_eq_some_iff.mp here
  obtain ⟨pp, adapter, port, slot⟩ := inv'.slot entry
  rw [slot.created_eq, Option.some.injEq] at same
  exact ⟨ap, pp, adapter, port, slot, same.symm⟩

section Session

variable {env' : Env} {queries : List Query} {replies : List Reply} {later : Lib}
  (asked : asks env' queries lib = .ok (replies, later))
include asked

/-- The calls tell what was made of a host. -/
theorem scanned_shows {i : UInt32} {made : Created}
    (host : (scannedHosts env)[i.toNat]? = some made) : later.Shows i made := by
  have framed := (asks_attaches asked).framed
  have inv' := (loadLibrary_creations mem few loaded).1.framed framed
  obtain ⟨ap, pp, adapter, port, slot, rfl⟩ := scanned_slot mem few loaded framed host
  obtain ⟨dp, -, scans⟩ := List.mem_filterMap.mp (List.mem_of_getElem? host)
  obtain ⟨adName, named⟩ := scannedAs_named scans
  exact slot.shows inv' named

/-- After loading, and after any queries, the calls tell of one adapter for each host that could
    be identified, in the order of the directory, and of no others. -/
theorem enumeration_of_directory :
    (adapterGetCount later).toNat = (scannedHosts env).length ∧
      (∀ (i : UInt32) (made : Created), (scannedHosts env)[i.toNat]? = some made → later.Shows i made) ∧
      ∀ i : UInt32, (scannedHosts env).length ≤ i.toNat → later.Lacks i := by
  obtain ⟨inv, creations⟩ := loadLibrary_creations mem few loaded
  have framed := (asks_attaches asked).framed
  have inv' := inv.framed framed
  have count : (adapterGetCount later).toNat = (scannedHosts env).length := by
    have length := congrArg List.length (framed.creations_eq.trans creations)
    rw [Lib.creations, List.length_map, inv'.entries_length, List.length_map] at length
    exact length
  exact ⟨count, fun i made host => scanned_shows mem few loaded asked host,
    fun i past => inv'.lacks (count.trans_le past)⟩

end Session

end Load

/-- Two hosts become the first two adapters, and there is no third. -/
theorem enumeration_of_directory_small : ∃ replies later,
    asks twinSystem twinQueries (loadedState twinSystem) = .ok (replies, later) ∧
      (scannedHosts twinSystem).length = 2 ∧ (adapterGetCount later).toNat = 2 ∧
      (∀ (i : UInt32) (made : Created),
        (scannedHosts twinSystem)[i.toNat]? = some made → later.Shows i made) ∧
      later.Lacks 2 := by
  have few : (hosts twinSystem).length < 2 ^ 31 := by decide +kernel
  obtain ⟨inv, creations⟩ := loadLibrary_creations (fun _ => rfl) few loadLibrary_twin
  have two : (scannedHosts twinSystem).length = 2 := by
    have length := congrArg List.length creations
    rw [Lib.creations, List.length_map, inv.entries_length, loadedState_twin_limit,
      List.length_map] at length
    exact length.symm
  obtain ⟨replies, later, asked⟩ := asks_twin
  obtain ⟨count, shows, lacks⟩ :=
    enumeration_of_directory (fun _ => rfl) few loadLibrary_twin asked
  exact ⟨replies, later, asked, two, count.trans two, shows, lacks 2 two.le⟩

end Hbalinux
