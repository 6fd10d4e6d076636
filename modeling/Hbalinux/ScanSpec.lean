import Hbalinux.Library
import Hbalinux.TableSpec

/-! # One call of `sysfs_scan`

Whatever memory runs out and wherever the call gives up, it either leaves the
state as it found it or publishes one adapter with one local port.
-/

namespace Hbalinux

open Outcome

/-- The port table of a published adapter. -/
def onlyPort (pp : Ptr) : SaTable Ptr := saTableInit.put 0 (some pp)

theorem onlyPort_wf (pp : Ptr) : (onlyPort pp).Wf := SaTable.wf_put SaTable.wf_init (by decide) _

theorem onlyPort_view (pp : Ptr) (i : Nat) :
    (onlyPort pp).view i = if i = 0 then some pp else none := by
  rw [onlyPort, SaTable.view_put SaTable.wf_init (by decide), Function.update_apply]
  simp

theorem onlyPort_limit (pp : Ptr) : (onlyPort pp).stLimit = 1 := rfl

theorem onlyPort_entries (pp : Ptr) : (onlyPort pp).entries = [pp] := by
  have one : (1 : UInt32).toNat = 1 := rfl
  rw [SaTable.entries, onlyPort_limit, one, List.range'_one,
    List.filterMap_cons_some (onlyPort_view pp 0), List.filterMap_nil]

theorem onlyPort_injective {pp qq : Ptr} (same : onlyPort pp = onlyPort qq) : pp = qq := by
  have views := congrArg (fun tp => tp.view 0) same
  simpa [onlyPort_view] using views

/-- The fields that tie a local port to its adapter. -/
theorem buildPort_eq {env dp found ap pp port adPorts buf}
    (built : buildPort env dp found ap pp = .ok (some (port, adPorts, buf))) :
    adPorts = onlyPort pp ∧ port.apAdapt = some ap ∧ port.apIndex = 0 ∧
      port.apKernHba = kernIndex dp ∧ port.apRports = saTableInit := by
  obtain ⟨⟨pap, line⟩, -, rest⟩ := bind_eq_ok.mp built
  obtain ⟨⟨rc, table⟩, inserted, rest⟩ := bind_eq_ok.mp rest
  simp only at inserted rest
  rw [SaTable.insert_eq SaTable.wf_init (by decide)] at inserted
  split at inserted
  · cases inserted
    cases rest
  · cases inserted
    cases rest
    exact ⟨rfl, rfl, rfl, rfl, rfl⟩

theorem buildAdapter_eq {env dp found port adPorts buf adapter}
    (built : buildAdapter env dp found port adPorts buf = .ok adapter) :
    adapter.adKernIndex = kernIndex dp ∧ adapter.adPorts = adPorts := by
  obtain ⟨ifname, -, rest⟩ := bind_eq_ok.mp built
  obtain ⟨adName, -, rest⟩ := bind_eq_ok.mp rest
  obtain ⟨attr, -, rest⟩ := bind_eq_ok.mp rest
  cases rest
  exact ⟨rfl, rfl⟩

/-- The state with one more adapter, at fresh addresses. -/
def Lib.publish (lib : Lib) (adapter : AdapterInfo) (port : PortInfo) : Lib :=
  { lib with
    adapterTable := lib.adapterTable.put lib.adapterTable.stLimit (some lib.adapters.fresh)
    adapters := lib.adapters.store lib.adapters.fresh
      { adapter with adIndex := lib.adapterTable.stLimit }
    lports := lib.lports.store lib.lports.fresh port }

/-- The adapter at `ap` has the one local port `pp`, and both are live. -/
structure Lib.Owns (lib : Lib) (ap pp : Ptr) (adapter : AdapterInfo) (port : PortInfo) : Prop where
  live : lib.adapters.get ap = some adapter
  ports : adapter.adPorts = onlyPort pp
  livePort : lib.lports.get pp = some port
  owner : port.apAdapt = some ap

theorem adapterDestroy_eq {lib : Lib} {ap pp adapter port} (owns : lib.Owns ap pp adapter port) :
    adapterDestroy ap lib =
      .ok { lib with adapters := lib.adapters.free ap, lports := lib.lports.free pp } := by
  have one : (onlyPort pp).stLimit.toNat ≤ 2 ^ 31 := by
    rw [onlyPort_limit]
    decide
  have freed : freePort pp lib = .ok { lib with lports := lib.lports.free pp } := by
    rw [freePort, Lib.port, owns.livePort, demand_some, ok_bind]
  have ports := SaTable.destroyAll_eq freePort (onlyPort_wf pp) one lib
  rw [onlyPort_entries, List.foldlM_cons, freed, ok_bind, List.foldlM_nil] at ports
  obtain ⟨⟨table, lib'⟩, destroyed, same⟩ := map_eq_ok.mp ports
  rw [adapterDestroy, Lib.adapter, owns.live, demand_some, ok_bind, owns.ports, destroyed, ok_bind]
  cases same
  rfl

/-- Either the adapter has become the last entry, or the table is as it was unless
    it has already run out of indices. -/
theorem adapterCreate_cases {lib lib' : Lib} {ap adapter mem status} (wf : lib.adapterTable.Wf)
    (live : lib.adapters.get ap = some adapter)
    (created : adapterCreate ap mem lib = .ok (status, lib')) :
    (status = hbaStatusError ∧ ∃ table : SaTable Ptr, lib' = { lib with adapterTable := table } ∧
      (table = lib.adapterTable ∨ (2 ^ 31 ≤ lib.adapterTable.stLimit.toNat ∧
        table.stLimit.toNat = lib.adapterTable.stLimit.toNat + 1))) ∨
    (status = hbaStatusOk ∧ lib.adapterTable.stLimit.toNat < 2 ^ 31 ∧ lib' = { lib with
      adapterTable := lib.adapterTable.put lib.adapterTable.stLimit (some ap)
      adapters := lib.adapters.store ap { adapter with adIndex := lib.adapterTable.stLimit } }) := by
  obtain ⟨⟨index, table⟩, appended, rest⟩ := bind_eq_ok.mp created
  simp only at rest
  split at rest
  · rename_i negative
    cases rest
    refine .inl ⟨rfl, table, rfl, ?_⟩
    rcases SaTable.append_cases wf appended with
      ⟨-, same, -⟩ | ⟨-, large, -, -, moved⟩ | ⟨nonnegative, -⟩
    · exact .inl same
    · exact .inr ⟨large, moved⟩
    · omega
  · rename_i nonnegative
    have small : lib.adapterTable.stLimit.toNat < 2 ^ 31 := by
      rcases SaTable.append_cases wf appended with
        ⟨negative, -⟩ | ⟨negative, -⟩ | ⟨-, small, -⟩ <;> omega
    rw [SaTable.append_eq wf small] at appended
    split at appended
    · cases appended
      exact absurd (by decide) nonnegative
    · cases appended
      obtain ⟨found, here, rest⟩ := bind_eq_ok.mp rest
      rw [Lib.adapter, live, demand_some] at here
      cases here
      cases rest
      have index : UInt32.ofInt (lib.adapterTable.stLimit.toNat : Int) =
          lib.adapterTable.stLimit := by
        apply UInt32.toNat_inj.mp
        have bound := lib.adapterTable.stLimit.toNat_lt
        rw [UInt32.ofInt]
        simp only [UInt32.toNat_ofNat']
        omega
      exact .inr ⟨rfl, small, by rw [index]⟩

/-- A call of `sysfs_scan` publishes an adapter or changes nothing, unless the
    indices have run out. -/
theorem sysfsScan_cases {env : Env} {dp : DirEnt} {lib lib' : Lib} {exit : ScanExit}
    (wf : lib.adapterTable.Wf) (scanned : sysfsScan env dp lib = .ok (exit, lib')) :
    (exit ≠ .published ∧ ∃ table : SaTable Ptr, lib' = { lib with adapterTable := table } ∧
      (table = lib.adapterTable ∨ (2 ^ 31 ≤ lib.adapterTable.stLimit.toNat ∧
        table.stLimit.toNat = lib.adapterTable.stLimit.toNat + 1))) ∨
    (exit = .published ∧ lib.adapterTable.stLimit.toNat < 2 ^ 31 ∧
      ∃ found port adPorts buf adapter,
        identifyHost env.sysfs (env.scratch dp.dName) dp = .ok (some found) ∧
        buildPort env dp found lib.adapters.fresh lib.lports.fresh =
          .ok (some (port, adPorts, buf)) ∧
        buildAdapter env dp found port adPorts buf = .ok adapter ∧
        lib' = lib.publish adapter port) := by
  have restored : (lib.adapters.store lib.adapters.fresh .zero).free lib.adapters.fresh =
      lib.adapters := Arena.free_store _ (Arena.get_fresh _)
  have restoredPort : (lib.lports.store lib.lports.fresh .zero).free lib.lports.fresh =
      lib.lports := Arena.free_store _ (Arena.get_fresh _)
  have fails : ¬ hbaStatusError = hbaStatusOk := by decide
  rw [sysfsScan] at scanned
  split at scanned
  · cases scanned
    exact .inl ⟨by decide, _, rfl, .inl rfl⟩
  · simp only [Arena.alloc] at scanned
    split at scanned
    · cases scanned
      exact .inl ⟨by decide, _, by rw [restored], .inl rfl⟩
    · obtain ⟨found, identified, scanned⟩ := bind_eq_ok.mp scanned
      cases found with
      | none =>
          cases scanned
          exact .inl ⟨by decide, _, by rw [restored, restoredPort], .inl rfl⟩
      | some found =>
          obtain ⟨parts, builtPort, scanned⟩ := bind_eq_ok.mp scanned
          rcases parts with _ | ⟨port, adPorts, buf⟩
          · cases scanned
            exact .inl ⟨by decide, _, by rw [restored, restoredPort], .inl rfl⟩
          · obtain ⟨adapter, builtAdapter, scanned⟩ := bind_eq_ok.mp scanned
            obtain ⟨⟨status, last⟩, created, scanned⟩ := bind_eq_ok.mp scanned
            obtain ⟨-, ports⟩ := buildAdapter_eq builtAdapter
            obtain ⟨tables, owner, -⟩ := buildPort_eq builtPort
            rcases adapterCreate_cases (by exact wf) (Arena.get_store_self _ _ _) created with
              ⟨rfl, table, rfl, kept⟩ | ⟨rfl, small, rfl⟩
            · simp only [if_neg fails] at scanned
              rw [adapterDestroy_eq ⟨Arena.get_store_self _ _ _, ports.trans tables,
                Arena.get_store_self _ _ _, owner⟩] at scanned
              cases scanned
              refine .inl ⟨by decide, table, ?_, kept⟩
              simp only [Arena.store_store, Arena.free_store _ (Arena.get_fresh _)]
            · simp only [if_true] at scanned
              cases scanned
              refine .inr ⟨rfl, small, found, port, adPorts, buf, adapter, identified, builtPort,
                builtAdapter, ?_⟩
              simp only [Lib.publish, Arena.store_store]

theorem adapterCreate_eq {lib : Lib} {ap : Ptr} {adapter : AdapterInfo}
    (wf : lib.adapterTable.Wf) (small : lib.adapterTable.stLimit.toNat < 2 ^ 31)
    (live : lib.adapters.get ap = some adapter) :
    adapterCreate ap true lib = .ok (hbaStatusOk, { lib with
      adapterTable := lib.adapterTable.put lib.adapterTable.stLimit (some ap)
      adapters := lib.adapters.store ap { adapter with adIndex := lib.adapterTable.stLimit } }) := by
  have index : UInt32.ofInt (lib.adapterTable.stLimit.toNat : Int) = lib.adapterTable.stLimit := by
    apply UInt32.toNat_inj.mp
    have bound := lib.adapterTable.stLimit.toNat_lt
    rw [UInt32.ofInt]
    simp only [UInt32.toNat_ofNat']
    omega
  have nonnegative : ¬ (lib.adapterTable.stLimit.toNat : Int) < 0 := by omega
  rw [adapterCreate, SaTable.append_eq wf small, if_neg (by simp), ok_bind]
  simp only [nonnegative, if_false, Lib.adapter, live, demand_some, ok_bind, index]

theorem sysfsScan_publishes {env : Env} {dp : DirEnt} {lib : Lib} {found : Identified} {port : PortInfo}
    {adPorts : SaTable Ptr} {buf : List Char} {adapter : AdapterInfo} (wf : lib.adapterTable.Wf)
    (small : lib.adapterTable.stLimit.toNat < 2 ^ 31) (mem : ∀ site, env.mem site = true)
    (identified : identifyHost env.sysfs (env.scratch dp.dName) dp = .ok (some found))
    (builtPort : buildPort env dp found lib.adapters.fresh lib.lports.fresh =
      .ok (some (port, adPorts, buf)))
    (builtAdapter : buildAdapter env dp found port adPorts buf = .ok adapter) :
    sysfsScan env dp lib = .ok (.published, lib.publish adapter port) := by
  unfold sysfsScan
  simp only [mem, Bool.true_eq_false, if_false, Arena.alloc, identified, ok_bind, builtPort, builtAdapter]
  rw [adapterCreate_eq (by exact wf) (by exact small) (Arena.get_store_self _ _ _), ok_bind]
  simp only [if_true, Lib.publish, Arena.store_store]

theorem buildPort_returns {env : Env} {dp : DirEnt} {found : Identified} (ap pp : Ptr)
    {attr : HbaPortAttributes} {buf : List Char} (mem : ∀ site, env.mem site = true)
    (read : portAttributes env.sysfs (env.scratch dp.dName) found dp = .ok (attr, buf)) :
    ∃ port adPorts, buildPort env dp found ap pp = .ok (some (port, adPorts, buf)) ∧
      port.apAttr = attr := by
  unfold buildPort
  rw [read, ok_bind]
  simp only [mem]
  rw [SaTable.insert_eq SaTable.wf_init (by decide), if_neg (by simp), ok_bind]
  exact ⟨_, _, rfl, rfl⟩

theorem buildAdapter_returns {env : Env} {dp : DirEnt} {found : Identified} {port : PortInfo}
    (adPorts : SaTable Ptr) (buf : List Char) (mem : ∀ site, env.mem site = true)
    (named : '\x00' ∈ found.ifname)
    (other : ∀ target, env.sysfs.link (snprintf 80 (found.hbaDir ++ sysfsModule)) = some target →
      target.length < 256 ∧ strstr (cstr target) "module" = none) :
    ∃ adapter, buildAdapter env dp found port adPorts buf = .ok adapter := by
  have short : ¬ 256 ≤ ((readlink env.sysfs (snprintf 80 (found.hbaDir ++ sysfsModule)) 256).getD []).length ∧
      strstr (cstr ((readlink env.sysfs (snprintf 80 (found.hbaDir ++ sysfsModule)) 256).getD []))
        "module" = none := by
    rw [readlink]
    cases linked : env.sysfs.link (snprintf 80 (found.hbaDir ++ sysfsModule)) with
    | none => exact ⟨by simp, rfl⟩
    | some target =>
        obtain ⟨small, absent⟩ := other target linked
        rw [Option.map_some, Option.getD_some, List.take_of_length_le (Nat.le_of_lt small)]
        exact ⟨Nat.not_le.mpr small, absent⟩
  unfold buildAdapter
  rw [terminated, if_pos named, ok_bind]
  simp only [mem, if_true, demand_some, ok_bind, adapterAttributes, short.1, if_false,
    cstr_overlay_line, short.2]
  exact ⟨_, rfl⟩

end Hbalinux
