import Hbalinux.Rport
import Hbalinux.TableSpec

/-! # What attaching remote ports does

Loading fills the table of remote ports and touches nothing else.  Attaching walks
the entries of that table in index order: each that belongs to the local port and
is unclaimed is claimed and entered at its own index.
-/

namespace Hbalinux

open Outcome

/-- The walk of `getRportInfo` over some remote ports. -/
def attachAll (env : Env) (pp : Ptr) (rps : List Ptr) (lib : Lib) : Outcome Lib :=
  rps.foldlM (fun lib rp => claimRport env pp rp lib) lib

/-- Everything but the remote ports and the tables of attached ones is the same. -/
structure Framed (lib lib' : Lib) : Prop where
  adapterTable : lib'.adapterTable = lib.adapterTable
  adapters : lib'.adapters = lib.adapters
  lports : ∀ q, ∃ t, lib'.lports.get q =
    (lib.lports.get q).map fun port => { port with apRports := t }

theorem Framed.of_lports_eq {lib lib' : Lib} (adapterTable : lib'.adapterTable = lib.adapterTable)
    (adapters : lib'.adapters = lib.adapters) (lports : lib'.lports = lib.lports) :
    Framed lib lib' := by
  refine ⟨adapterTable, adapters, fun q => ?_⟩
  rw [lports]
  cases lib.lports.get q with
  | none => exact ⟨saTableInit, rfl⟩
  | some port => exact ⟨port.apRports, rfl⟩

theorem Framed.refl (lib : Lib) : Framed lib lib := .of_lports_eq rfl rfl rfl

theorem Framed.trans {a b c : Lib} (first : Framed a b) (second : Framed b c) : Framed a c := by
  refine ⟨second.adapterTable.trans first.adapterTable, second.adapters.trans first.adapters,
    fun q => ?_⟩
  obtain ⟨t, before⟩ := first.lports q
  obtain ⟨t', after⟩ := second.lports q
  refine ⟨t', ?_⟩
  rw [after, before, Option.map_map]
  rfl

/-- The remote port at `rp` carries the mark of the local port at `pp`, whose table is now
    `table`. -/
def Lib.mark (lib : Lib) (pp rp : Ptr) (port rport : PortInfo) (table : SaTable Ptr) : Lib :=
  { lib with
    rports := lib.rports.store rp { rport with apAdapt := port.apAdapt }
    lports := lib.lports.store pp { port with apRports := table } }

/-- All that one round of the loop can do. -/
theorem claimRport_eq_ok {env : Env} {pp rp : Ptr} {lib lib' : Lib} :
    claimRport env pp rp lib = .ok lib' ↔ ∃ rport port, lib.rports.get rp = some rport ∧
      lib.lports.get pp = some port ∧
      ((¬ (rport.apKernHba = port.apKernHba ∧ rport.apIndex = port.apIndex ∧ rport.apAdapt = none) ∧
          lib = lib') ∨
        (rport.apKernHba = port.apKernHba ∧ rport.apIndex = port.apIndex ∧ rport.apAdapt = none) ∧
          ∃ found rc table, saTableLookup port.apRports rport.apDiscIndex = .ok found ∧
            saTableInsert port.apRports rport.apDiscIndex (some rp)
              (env.mem (.discoveredSlot rp)) = .ok (rc, table) ∧
            lib.mark pp rp port rport table = lib') := by
  constructor
  · intro claimed
    obtain ⟨rport, live, rest⟩ := bind_eq_ok.mp claimed
    obtain ⟨port, livePort, rest⟩ := bind_eq_ok.mp rest
    rw [Lib.rport, demand_eq_ok] at live
    rw [Lib.port, demand_eq_ok] at livePort
    refine ⟨rport, port, live, livePort, ?_⟩
    simp only at rest
    split at rest
    · rename_i guard
      obtain ⟨found, looked, rest⟩ := bind_eq_ok.mp rest
      obtain ⟨⟨rc, table⟩, inserted, rest⟩ := bind_eq_ok.mp rest
      exact .inr ⟨guard, found, rc, table, looked, inserted, Except.ok.inj rest⟩
    · rename_i guard
      exact .inl ⟨guard, Except.ok.inj rest⟩
  · rintro ⟨rport, port, live, livePort, rest⟩
    rw [claimRport, Lib.rport, live, Lib.port, livePort]
    simp only [demand_some, ok_bind]
    rcases rest with ⟨guard, rfl⟩ | ⟨guard, found, rc, table, looked, inserted, rfl⟩
    · rw [if_neg guard]
    · rw [if_pos guard, looked, ok_bind, inserted]
      rfl

theorem claimRport_framed {env pp rp lib lib'} (claimed : claimRport env pp rp lib = .ok lib') :
    Framed lib lib' ∧ lib'.rportsTable = lib.rportsTable := by
  obtain ⟨rport, port, -, live, ⟨-, rfl⟩ | ⟨-, found, rc, table, -, -, rfl⟩⟩ :=
    claimRport_eq_ok.mp claimed
  · exact ⟨.refl _, rfl⟩
  · refine ⟨⟨rfl, rfl, fun q => ?_⟩, rfl⟩
    simp only [Lib.mark, Arena.get_store]
    by_cases same : q = pp
    · rw [if_pos same, same, live]
      exact ⟨table, rfl⟩
    · rw [if_neg same]
      exact (Framed.refl _).lports q

theorem attachAll_framed {env pp rps lib lib'} (attached : attachAll env pp rps lib = .ok lib') :
    Framed lib lib' ∧ lib'.rportsTable = lib.rportsTable := by
  induction rps generalizing lib with
  | nil =>
      cases attached
      exact ⟨.refl _, rfl⟩
  | cons rp rps ih =>
      rw [attachAll, List.foldlM_cons, bind_eq_ok] at attached
      obtain ⟨mid, claimed, rest⟩ := attached
      obtain ⟨first, table⟩ := claimRport_framed claimed
      obtain ⟨second, table'⟩ := ih rest
      exact ⟨first.trans second, table'.trans table⟩

/-- The loop over all slots sees the entries below the limit. -/
theorem getRportInfoFrom_eq {env pp count ri lib} (wf : lib.rportsTable.Wf)
    (bound : ri + count ≤ 2 ^ 32) :
    getRportInfoFrom env pp count ri lib =
      attachAll env pp ((List.range' ri count).filterMap lib.rportsTable.view) lib := by
  induction count generalizing ri lib with
  | zero => rfl
  | succ count ih =>
      have index : (UInt32.ofNat ri).toNat = ri := by
        rw [UInt32.toNat_ofNat']
        omega
      rw [getRportInfoFrom, SaTable.lookup_eq_view wf, index, ok_bind, List.range'_succ]
      cases found : lib.rportsTable.view ri with
      | none =>
          rw [List.filterMap_cons_none found]
          exact ih wf (by omega)
      | some rp =>
          rw [List.filterMap_cons_some found, attachAll, List.foldlM_cons]
          cases claimed : claimRport env pp rp lib with
          | error fault => simp [claimed]
          | ok mid =>
              have table := (claimRport_framed claimed).2
              simp only [claimed, ok_bind]
              rw [ih (table ▸ wf) (by omega), table, attachAll]

/-- After the remote ports are loaded, `getRportInfo` walks the entries of their
    table. -/
theorem getRportInfo_eq {env pp lib loaded} (load : loadRports env lib = .ok loaded)
    (wf : loaded.rportsTable.Wf) :
    getRportInfo env pp lib = attachAll env pp loaded.rportsTable.entries loaded := by
  have bound := loaded.rportsTable.stSize.toNat_lt
  rw [getRportInfo, load, ok_bind, getRportInfoFrom_eq wf (by omega),
    SaTable.entries_of_le _ (UInt32.le_iff_toNat_le.mp wf.limit)]

/-- The entry names a remote port, and its attributes are readable as those of
    `rport`. -/
def Loads (env : Env) (dp : DirEnt) (rport : PortInfo) : Prop :=
  ∃ hba port rpIndex, sscanf sysfsRportFormat dp.dName = [hba, port, rpIndex] ∧
    readRport env dp hba port rpIndex = .ok (some rport)

/-- What a remote port is before anything is attached. -/
theorem readRport_eq {env dp hba port rpIndex rport}
    (read : readRport env dp hba port rpIndex = .ok (some rport)) :
    rport.apKernHba = hba ∧ rport.apIndex = port ∧ rport.apDiscIndex = rpIndex ∧
      rport.apAdapt = none ∧
      rport.apAttr.osDeviceName = snprintf 256 (joinPath sysfsRportRoot dp.dName) := by
  rw [readRport] at read
  simp only at read
  split at read
  · cases read
  · split at read
    · cases read
      exact ⟨rfl, rfl, rfl, rfl, rfl⟩
    · cases read

/-- One entry of the remote port directory is passed over, or becomes the next
    entry of the table, at a fresh address. -/
theorem sysfsGetRport_cases {env dp lib rc lib'} (wf : lib.rportsTable.Wf)
    (called : sysfsGetRport env dp lib = .ok (rc, lib')) :
    (∃ table : SaTable Ptr, table.Wf ∧ table.view = lib.rportsTable.view ∧
        lib' = { lib with rportsTable := table }) ∨
      (∃ rport, Loads env dp rport ∧ lib.rportsTable.stLimit.toNat < 2 ^ 31 ∧
        lib' = { lib with
          rportsTable := lib.rportsTable.put lib.rportsTable.stLimit (some lib.rports.fresh)
          rports := lib.rports.store lib.rports.fresh rport }) := by
  rw [sysfsGetRport] at called
  split at called
  · rename_i hba port rpIndex parsed
    split at called
    · cases called
      exact .inl ⟨_, wf, rfl, rfl⟩
    · obtain ⟨read, reading, rest⟩ := bind_eq_ok.mp called
      cases read with
      | none =>
          cases rest
          exact .inl ⟨_, wf, rfl, rfl⟩
      | some rport =>
          obtain ⟨⟨code, table⟩, appended, rest⟩ := bind_eq_ok.mp rest
          cases rest
          rcases SaTable.append_cases wf appended with
            ⟨failed, rfl, -⟩ | ⟨failed, -, wf', same, -⟩ | ⟨done, small, rfl⟩
          · refine .inl ⟨lib.rportsTable, wf, rfl, ?_⟩
            simp only [if_pos failed, Arena.free_store _ (Arena.get_fresh _)]
          · refine .inl ⟨table, wf', same, ?_⟩
            simp only [if_pos failed, Arena.free_store _ (Arena.get_fresh _)]
          · refine .inr ⟨rport, ⟨hba, port, rpIndex, parsed, reading⟩, small, ?_⟩
            simp only [if_neg (Int.not_lt.mpr done)]
  · cases called
    exact .inl ⟨_, wf, rfl, rfl⟩

theorem sysfsGetRport_size {env dp lib rc lib'} (called : sysfsGetRport env dp lib = .ok (rc, lib')) :
    lib.rportsTable.stSize.toNat ≤ lib'.rportsTable.stSize.toNat := by
  unfold sysfsGetRport at called
  split at called
  · split at called
    · cases called
      exact Nat.le_refl _
    · obtain ⟨read, -, rest⟩ := bind_eq_ok.mp called
      cases read with
      | none =>
          cases rest
          exact Nat.le_refl _
      | some rport =>
          obtain ⟨⟨code, table⟩, appended, rest⟩ := bind_eq_ok.mp rest
          cases rest
          exact SaTable.insert_size appended
  · cases called
    exact Nat.le_refl _

theorem sysfsGetRport_framed {env dp lib rc lib'}
    (called : sysfsGetRport env dp lib = .ok (rc, lib')) :
    lib' = { lib with rportsTable := lib'.rportsTable, rports := lib'.rports } := by
  rw [sysfsGetRport] at called
  split at called
  · split at called
    · cases called
      rfl
    · obtain ⟨read, -, rest⟩ := bind_eq_ok.mp called
      cases read with
      | none =>
          cases rest
          rfl
      | some rport =>
          obtain ⟨⟨code, table⟩, -, rest⟩ := bind_eq_ok.mp rest
          cases rest
          rfl
  · cases called
    rfl

/-- Loading changes the remote ports and their table only. -/
theorem loadRports_framed {env lib loaded} (load : loadRports env lib = .ok loaded) :
    loaded = { lib with rportsTable := loaded.rportsTable, rports := loaded.rports } := by
  rw [loadRports] at load
  split at load
  · exact saDirRead_preserves
      (P := fun state => state = { lib with rportsTable := state.rportsTable, rports := state.rports })
      (fun _ _ s _ t kept called => by
        have step := sysfsGetRport_framed called
        rw [kept] at step
        exact step) rfl load
  · cases load
    rfl

/-- What loading establishes and every claim preserves. -/
theorem getRportInfo_preserves {P : Lib → Prop} {env pp lib lib'}
    (called : getRportInfo env pp lib = .ok lib')
    (start : ∀ loaded, loadRports env lib = .ok loaded → P loaded)
    (step : ∀ rp a b, P a → claimRport env pp rp a = .ok b → P b) : P lib' := by
  obtain ⟨loaded, load, rest⟩ := bind_eq_ok.mp called
  have walk : ∀ count ri a, P a → ∀ b, getRportInfoFrom env pp count ri a = .ok b → P b := by
    intro count
    induction count with
    | zero =>
        intro ri a held b walked
        cases walked
        exact held
    | succ count ih =>
        intro ri a held b walked
        obtain ⟨found, -, rest⟩ := bind_eq_ok.mp walked
        cases found with
        | none => exact ih _ _ held _ rest
        | some rp =>
            obtain ⟨mid, claimed, rest⟩ := bind_eq_ok.mp rest
            exact ih _ _ (step rp a mid held claimed) _ rest
  exact walk _ _ _ (start loaded load) _ rest

theorem getRportInfo_framed {env pp lib lib'} (called : getRportInfo env pp lib = .ok lib') :
    Framed lib lib' := by
  refine getRportInfo_preserves called ?_ fun rp a b reached claimed =>
    reached.trans (claimRport_framed claimed).1
  intro loaded load
  rw [loadRports_framed load]
  exact .of_lports_eq rfl rfl rfl

/-- The table of remote ports: every entry is a live object, entered once. -/
structure RportInv (lib : Lib) : Prop where
  wf : lib.rportsTable.Wf
  live : ∀ i rp, lib.rportsTable.view i = some rp → ∃ rport, lib.rports.get rp = some rport
  distinct : ∀ i j rp, lib.rportsTable.view i = some rp → lib.rportsTable.view j = some rp → i = j

theorem RportInv.live_entry {lib : Lib} (inv : RportInv lib) {rp : Ptr}
    (entry : rp ∈ lib.rportsTable.entries) : ∃ rport, lib.rports.get rp = some rport := by
  obtain ⟨i, slot⟩ := SaTable.mem_entries.mp entry
  exact inv.live i rp slot

theorem RportInv.init : RportInv .init where
  wf := SaTable.wf_init
  live := by
    intro i rp entry
    rw [Lib.init, SaTable.view_init] at entry
    cases entry
  distinct := by
    intro i j rp entry
    rw [Lib.init, SaTable.view_init] at entry
    cases entry

theorem RportInv.congr {lib lib' : Lib} (inv : RportInv lib)
    (table : lib'.rportsTable = lib.rportsTable) (rports : lib'.rports = lib.rports) :
    RportInv lib' := by
  refine ⟨table ▸ inv.wf, ?_, ?_⟩
  · rw [table, rports]
    exact inv.live
  · rw [table]
    exact inv.distinct

theorem sysfsGetRport_inv {env dp lib rc lib'} (inv : RportInv lib)
    (called : sysfsGetRport env dp lib = .ok (rc, lib')) : RportInv lib' := by
  rcases sysfsGetRport_cases inv.wf called with ⟨table, wf, same, rfl⟩ | ⟨rport, -, small, rfl⟩
  · refine ⟨wf, ?_, ?_⟩
    · simp only [same]
      exact inv.live
    · simp only [same]
      exact inv.distinct
  · have view := SaTable.view_put inv.wf small (some lib.rports.fresh)
    refine ⟨SaTable.wf_put inv.wf small _, ?_, ?_⟩
    · intro i rp entry
      simp only [view, Function.update_apply] at entry
      simp only [Arena.get_store]
      split at entry
      · cases entry
        exact ⟨rport, if_pos rfl⟩
      · obtain ⟨old, live⟩ := inv.live i rp entry
        exact ⟨old, by rw [if_neg (Arena.ne_fresh live), live]⟩
    · intro i j rp first second
      simp only [view, Function.update_apply] at first second
      have older : ∀ k, lib.rportsTable.view k ≠ some lib.rports.fresh := by
        intro k entry
        obtain ⟨old, live⟩ := inv.live k _ entry
        exact Arena.ne_fresh live rfl
      split at first <;> split at second
      · omega
      · cases first
        exact absurd second (older j)
      · cases second
        exact absurd first (older i)
      · exact inv.distinct i j rp first second

theorem loadRports_inv {env lib loaded} (inv : RportInv lib)
    (load : loadRports env lib = .ok loaded) : RportInv loaded := by
  rw [loadRports] at load
  split at load
  · exact saDirRead_preserves (fun _ _ _ _ _ kept called => sysfsGetRport_inv kept called) inv load
  · cases load
    exact inv

theorem claimRport_inv {env pp rp lib lib'} (inv : RportInv lib)
    (claimed : claimRport env pp rp lib = .ok lib') : RportInv lib' := by
  obtain ⟨rport, port, live, -, ⟨-, rfl⟩ | ⟨-, found, rc, table, -, -, rfl⟩⟩ :=
    claimRport_eq_ok.mp claimed
  · exact inv
  · refine ⟨inv.wf, fun i q entry => ?_, inv.distinct⟩
    simp only [Lib.mark, Arena.get_store]
    split
    · exact ⟨_, rfl⟩
    · exact inv.live i q entry

theorem getRportInfo_inv {env pp lib lib'} (inv : RportInv lib)
    (called : getRportInfo env pp lib = .ok lib') : RportInv lib' :=
  getRportInfo_preserves called (fun _ load => loadRports_inv inv load)
    fun _ _ _ kept claimed => claimRport_inv kept claimed

end Hbalinux
