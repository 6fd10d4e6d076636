import Hbalinux.AdapterInvariant
import Hbalinux.Attach

/-! # Attached remote ports in every reachable state

A local port's table holds remote ports of its own host and port only.  While these
are numbered below `2 ^ 31`, whatever the numbers of others, the table also stays well
formed, and then a call of `getRportInfo` always comes to its end, and a second call
changes nothing.
-/

namespace Hbalinux

open Outcome

/-- Whatever a table holds is a live remote port of the local port, at its index. -/
def OwnInv (lib : Lib) : Prop :=
  ∀ pp port, lib.lports.get pp = some port → ∀ d rp, port.apRports.stTable[d]? = some (some rp) →
    ∃ rport, lib.rports.get rp = some rport ∧ port.belongs rport ∧ rport.apDiscIndex.toNat = d

theorem OwnInv.of_empty {lib : Lib} (lports : lib.lports = .empty) : OwnInv lib := by
  intro pp port live
  rw [lports, Arena.get_empty] at live
  cases live

/-- A new adapter comes with an empty table. -/
theorem OwnInv.publish {lib : Lib} (inv : OwnInv lib) {adapter : AdapterInfo} {port : PortInfo}
    (fresh : port.apRports = saTableInit) : OwnInv (lib.publish adapter port) := by
  intro pp other live d rp slot
  simp only [Lib.publish, Arena.get_store] at live
  split at live
  · rw [Option.some.injEq] at live
    rw [← live, fresh] at slot
    simp [saTableInit] at slot
  · exact inv pp other live d rp slot

theorem sysfsGetRport_own {env dp lib rc lib'} (rportInv : RportInv lib) (inv : OwnInv lib)
    (called : sysfsGetRport env dp lib = .ok (rc, lib')) : OwnInv lib' := by
  rcases sysfsGetRport_cases rportInv.wf called with ⟨table, -, -, rfl⟩ | ⟨rport, -, -, rfl⟩
  · exact inv
  · intro pp port live d rp slot
    obtain ⟨held, here, mine⟩ := inv pp port live d rp slot
    exact ⟨held, by rw [Arena.get_store_ne _ (Arena.ne_fresh here), here], mine⟩

theorem loadRports_own {env lib loaded} (rportInv : RportInv lib) (inv : OwnInv lib)
    (load : loadRports env lib = .ok loaded) : OwnInv loaded := by
  unfold loadRports at load
  split at load
  · exact (saDirRead_preserves (P := fun state => RportInv state ∧ OwnInv state)
      (fun _ _ _ _ _ kept called => ⟨sysfsGetRport_inv kept.1 called, sysfsGetRport_own kept.1 kept.2 called⟩)
      ⟨rportInv, inv⟩ load).2
  · cases load
    exact inv

/-- Claiming marks a remote port and enters it at its own index. -/
theorem claimRport_own {env pp rp lib lib'} (inv : OwnInv lib)
    (claimed : claimRport env pp rp lib = .ok lib') : OwnInv lib' := by
  obtain ⟨rport, port, live, livePort, ⟨-, rfl⟩ | ⟨guard, found, rc, table, -, inserted, rfl⟩⟩ :=
    claimRport_eq_ok.mp claimed
  · exact inv
  · -- the mark leaves host, port and index of every remote port as they were
    have marked : ∀ q old, lib.rports.get q = some old → ∃ new,
        (lib.rports.store rp { rport with apAdapt := port.apAdapt }).get q = some new ∧
        new.apKernHba = old.apKernHba ∧ new.apIndex = old.apIndex ∧
        new.apDiscIndex = old.apDiscIndex := by
      intro q old here
      rw [Arena.get_store]
      split
      · rename_i same
        rw [same, live, Option.some.injEq] at here
        exact ⟨_, rfl, by rw [← here], by rw [← here], by rw [← here]⟩
      · exact ⟨old, here, rfl, rfl, rfl⟩
    have kept : ∀ pp' port', lib.lports.get pp' = some port' → ∀ d q,
        port'.apRports.stTable[d]? = some (some q) → ∃ new,
        (lib.rports.store rp { rport with apAdapt := port.apAdapt }).get q = some new ∧
        port'.belongs new ∧ new.apDiscIndex.toNat = d := by
      intro pp' port' live' d q slot
      obtain ⟨old, here, mine, disc⟩ := inv pp' port' live' d q slot
      obtain ⟨new, there, kern, index, same⟩ := marked q old here
      refine ⟨new, there, ?_, by rw [same, disc]⟩
      simpa [PortInfo.belongs, kern, index] using mine
    intro pp' port' live' d q slot
    rw [Lib.mark, Arena.get_store] at live'
    split at live'
    · cases live'
      rcases SaTable.insert_entries inserted slot with before | ⟨rfl, same⟩
      · exact kept pp port livePort d q before
      · cases same
        refine ⟨_, Arena.get_store_self _ _ _, ?_, rfl⟩
        simp [PortInfo.belongs, guard.1, guard.2.1]
    · exact kept pp' port' live' d q slot

theorem getRportInfo_own {env pp lib lib'} (rportInv : RportInv lib) (inv : OwnInv lib)
    (called : getRportInfo env pp lib = .ok lib') : OwnInv lib' :=
  getRportInfo_preserves called (fun _ load => loadRports_own rportInv inv load)
    fun _ _ _ kept claimed => claimRport_own kept claimed

theorem ownInv_of_reachable {allowed : Env → Prop} {lib : Lib} (reachable : Reachable allowed lib) :
    OwnInv lib := by
  apply reachable.attach_invariant (.of_empty rfl)
  · intro env dp t exit t' inv held scanned
    rcases sysfsScan_cases inv.wf scanned with
      ⟨-, table, rfl, -⟩ | ⟨-, -, found, port, adPorts, buf, adapter, -, built, -, rfl⟩
    · exact held
    · exact held.publish (buildPort_eq built).2.2.2.2
  · intro t _
    exact .of_empty rfl
  · intro env pp t t' rports own _ called
    exact getRportInfo_own rports own called

/-- The remote port directory numbers its entries below `2 ^ 31`. -/
def SmallRports (env : Env) : Prop :=
  ∀ dp ∈ env.sysfs.listing sysfsRportRoot, ∀ hba port rpIndex,
    sscanf sysfsRportFormat dp.dName = [hba, port, rpIndex] → rpIndex.toNat < 2 ^ 31

theorem smallRports_of_all {env : Env}
    (all : (env.sysfs.listing sysfsRportRoot).all (fun dp =>
      match sscanf sysfsRportFormat dp.dName with
      | [_, _, rpIndex] => rpIndex.toNat < 2 ^ 31
      | _ => true) = true) : SmallRports env := by
  intro dp member hba port rpIndex parsed
  have here := List.all_eq_true.mp all dp member
  simpa [parsed] using here

/-- The remote ports of a local port are numbered below `2 ^ 31`. -/
def Lib.Narrow (lib : Lib) (port : PortInfo) : Prop :=
  ∀ rp rport, lib.rports.get rp = some rport → port.belongs rport →
    rport.apDiscIndex.toNat < 2 ^ 31

/-- The table of a local port is as large as it needs to be, unless one of its own remote ports
    has a larger number.  The numbers of other remote ports make no difference. -/
def NarrowInv (lib : Lib) : Prop :=
  ∀ pp port, lib.lports.get pp = some port → lib.Narrow port →
    port.apRports.Wf ∧ port.apRports.stLimit.toNat ≤ 2 ^ 31

theorem NarrowInv.of_empty {lib : Lib} (lports : lib.lports = .empty) : NarrowInv lib := by
  intro pp port live
  rw [lports, Arena.get_empty] at live
  cases live

theorem NarrowInv.publish {lib : Lib} (inv : NarrowInv lib) {adapter : AdapterInfo} {port : PortInfo}
    (fresh : port.apRports = saTableInit) : NarrowInv (lib.publish adapter port) := by
  intro pp other live narrow
  simp only [Lib.publish, Arena.get_store] at live
  split at live
  · cases live
    rw [fresh]
    exact ⟨SaTable.wf_init, by decide⟩
  · exact inv pp other live narrow

theorem sysfsGetRport_narrow {env dp lib rc lib'} (rportInv : RportInv lib) (inv : NarrowInv lib)
    (called : sysfsGetRport env dp lib = .ok (rc, lib')) : NarrowInv lib' := by
  rcases sysfsGetRport_cases rportInv.wf called with ⟨table, -, -, rfl⟩ | ⟨rport, -, -, rfl⟩
  · exact inv
  · intro pp port live narrow
    refine inv pp port live fun rp held here mine => narrow rp held ?_ mine
    exact (Arena.get_store_ne _ (Arena.ne_fresh here)).trans here

theorem loadRports_narrow {env lib loaded} (rportInv : RportInv lib) (inv : NarrowInv lib)
    (load : loadRports env lib = .ok loaded) : NarrowInv loaded := by
  unfold loadRports at load
  split at load
  · exact (saDirRead_preserves (P := fun state => RportInv state ∧ NarrowInv state)
      (fun _ _ _ _ _ kept called =>
        ⟨sysfsGetRport_inv kept.1 called, sysfsGetRport_narrow kept.1 kept.2 called⟩)
      ⟨rportInv, inv⟩ load).2
  · cases load
    exact inv

/-- A claim leaves the numbers of all remote ports as they were, and enters the remote port in
    the table of its own local port. -/
theorem claimRport_narrow {env pp rp lib lib'} (inv : NarrowInv lib)
    (claimed : claimRport env pp rp lib = .ok lib') : NarrowInv lib' := by
  obtain ⟨rport, port, live, livePort, ⟨-, rfl⟩ | ⟨guard, found, rc, table, -, inserted, rfl⟩⟩ :=
    claimRport_eq_ok.mp claimed
  · exact inv
  · have before : ∀ other, (lib.mark pp rp port rport table).Narrow other → lib.Narrow other := by
      intro other narrow q held here mine
      by_cases same : q = rp
      · rw [same, live, Option.some.injEq] at here
        subst here
        exact narrow rp { rport with apAdapt := port.apAdapt } (Arena.get_store_self _ _ _) mine
      · exact narrow q held ((Arena.get_store_ne _ same).trans here) mine
    intro pp' port' live' narrow
    rw [Lib.mark, Arena.get_store] at live'
    split at live'
    · cases live'
      have narrow' : lib.Narrow port := before port narrow
      obtain ⟨wf, limit⟩ := inv pp port livePort narrow'
      have small : rport.apDiscIndex.toNat < 2 ^ 31 :=
        narrow' rp rport live (by simp [PortInfo.belongs, guard.1, guard.2.1])
      obtain ⟨rc', inserted'⟩ :=
        SaTable.insert_table wf small (some rp) (env.mem (.discoveredSlot rp))
      rw [inserted', Except.ok.injEq, Prod.mk.injEq] at inserted
      obtain ⟨-, rfl⟩ := inserted
      exact ⟨SaTable.wf_tryPut wf small _ _, SaTable.limit_tryPut small limit _ _⟩
    · exact inv pp' port' live' (before port' narrow)

theorem getRportInfo_narrow_inv {env pp lib lib'} (rportInv : RportInv lib) (inv : NarrowInv lib)
    (called : getRportInfo env pp lib = .ok lib') : NarrowInv lib' :=
  getRportInfo_preserves called (fun _ load => loadRports_narrow rportInv inv load)
    fun _ _ _ kept claimed => claimRport_narrow kept claimed

theorem narrowInv_of_reachable {allowed : Env → Prop} {lib : Lib}
    (reachable : Reachable allowed lib) : NarrowInv lib := by
  apply reachable.attach_invariant (.of_empty rfl)
  · intro env dp t exit t' inv held scanned
    rcases sysfsScan_cases inv.wf scanned with
      ⟨-, table, rfl, -⟩ | ⟨-, -, found, port, adPorts, buf, adapter, -, built, -, rfl⟩
    · exact held
    · exact held.publish (buildPort_eq built).2.2.2.2
  · intro t _
    exact .of_empty rfl
  · intro env pp t t' rports held _ called
    exact getRportInfo_narrow_inv rports held called

/-- Loading comes first and may fail on its own; what follows cannot. -/
theorem getRportInfo_narrow {env : Env} {pp : Ptr} {port : PortInfo} {lib loaded : Lib}
    (rportInv : RportInv lib) (inv : NarrowInv lib) (live : lib.lports.get pp = some port)
    (load : loadRports env lib = .ok loaded) (narrow : loaded.Narrow port) :
    ∃ lib', getRportInfo env pp lib = .ok lib' ∧
      Attached env pp port loaded.rportsTable.entries loaded lib' := by
  have rportInv' := loadRports_inv rportInv load
  have live' : loaded.lports.get pp = some port := by
    rw [loadRports_framed load]
    exact live
  rw [getRportInfo_eq load rportInv'.wf]
  apply attachAll_spec live' (loadRports_narrow rportInv inv load pp port live' narrow).1
    (SaTable.entries_nodup rportInv'.distinct)
  · exact fun rp => rportInv'.live_entry
  · intro rp entry eligible
    obtain ⟨rport, here⟩ := rportInv'.live_entry entry
    obtain ⟨kern, index, -⟩ := (Lib.eligible_iff here).mp eligible
    rw [Lib.discIndex_of_get here]
    exact narrow rp rport here (by simp [PortInfo.belongs, kern, index])

/-- A walk leaves the numbers of all remote ports as they were. -/
theorem Attached.narrow {env : Env} {pp : Ptr} {port other : PortInfo} {rps : List Ptr}
    {lib lib' : Lib} (attached : Attached env pp port rps lib lib') (narrow : lib.Narrow other) :
    lib'.Narrow other := by
  intro q held here mine
  rw [attached.rports, Option.map_eq_some_iff] at here
  obtain ⟨old, there, rfl⟩ := here
  split at mine <;> rename_i chosen
  · rw [if_pos chosen]
    exact narrow q old there mine
  · rw [if_neg chosen]
    exact narrow q old there mine

/-- All indices are below `2 ^ 31`, and tables are as large as they need to be. -/
structure SmallInv (lib : Lib) : Prop where
  rports : ∀ rp rport, lib.rports.get rp = some rport → rport.apDiscIndex.toNat < 2 ^ 31
  wf : ∀ pp port, lib.lports.get pp = some port → port.apRports.Wf
  limit : ∀ pp port, lib.lports.get pp = some port → port.apRports.stLimit.toNat ≤ 2 ^ 31

theorem SmallInv.narrow {lib : Lib} (inv : SmallInv lib) (port : PortInfo) : lib.Narrow port :=
  fun rp rport live _ => inv.rports rp rport live

theorem SmallInv.narrowInv {lib : Lib} (inv : SmallInv lib) : NarrowInv lib :=
  fun pp port live _ => ⟨inv.wf pp port live, inv.limit pp port live⟩

theorem NarrowInv.small {lib : Lib} (inv : NarrowInv lib)
    (rports : ∀ rp rport, lib.rports.get rp = some rport → rport.apDiscIndex.toNat < 2 ^ 31) :
    SmallInv lib := by
  have narrow : ∀ port, lib.Narrow port := fun port rp rport live _ => rports rp rport live
  exact ⟨rports, fun pp port live => (inv pp port live (narrow port)).1,
    fun pp port live => (inv pp port live (narrow port)).2⟩

theorem sysfsGetRport_small {env dp lib rc lib'} (small : SmallRports env)
    (member : dp ∈ env.sysfs.listing sysfsRportRoot) (rportInv : RportInv lib) (inv : SmallInv lib)
    (called : sysfsGetRport env dp lib = .ok (rc, lib')) : SmallInv lib' := by
  refine (sysfsGetRport_narrow rportInv inv.narrowInv called).small fun rp held here => ?_
  rcases sysfsGetRport_cases rportInv.wf called with
    ⟨table, -, -, rfl⟩ | ⟨rport, ⟨hba, port, rpIndex, parsed, read⟩, -, rfl⟩
  · exact inv.rports rp held here
  · simp only [Arena.get_store] at here
    split at here
    · cases here
      rw [(readRport_eq read).2.2.1]
      exact small dp member hba port rpIndex parsed
    · exact inv.rports rp held here

theorem loadRports_small_inv {env lib loaded} (small : SmallRports env) (rportInv : RportInv lib)
    (inv : SmallInv lib) (load : loadRports env lib = .ok loaded) : SmallInv loaded := by
  unfold loadRports at load
  split at load
  · exact (saDirRead_preserves (P := fun state => RportInv state ∧ SmallInv state)
      (fun dp member _ _ _ kept called => ⟨sysfsGetRport_inv kept.1 called,
        sysfsGetRport_small small member kept.1 kept.2 called⟩)
      ⟨rportInv, inv⟩ load).2
  · cases load
    exact inv

theorem Lib.discIndex_small {lib : Lib} (inv : SmallInv lib) (rp : Ptr) :
    (lib.discIndex rp).toNat < 2 ^ 31 := by
  cases here : lib.rports.get rp with
  | none => simp [Lib.discIndex, here]
  | some rport =>
      rw [Lib.discIndex_of_get here]
      exact inv.rports rp rport here

theorem claimRport_small {env pp rp lib lib'} (inv : SmallInv lib)
    (claimed : claimRport env pp rp lib = .ok lib') : SmallInv lib' := by
  refine (claimRport_narrow inv.narrowInv claimed).small fun q held here => ?_
  obtain ⟨rport, port, live, -, ⟨-, rfl⟩ | ⟨-, found, rc, table, -, -, rfl⟩⟩ :=
    claimRport_eq_ok.mp claimed
  · exact inv.rports q held here
  · rw [Lib.mark, Arena.get_store] at here
    split at here
    · cases here
      exact inv.rports rp rport live
    · exact inv.rports q held here

theorem getRportInfo_small_inv {env pp lib lib'} (small : SmallRports env) (rportInv : RportInv lib)
    (inv : SmallInv lib) (called : getRportInfo env pp lib = .ok lib') : SmallInv lib' :=
  getRportInfo_preserves called (fun _ load => loadRports_small_inv small rportInv inv load)
    fun _ _ _ kept claimed => claimRport_small kept claimed

theorem smallInv_of_reachable {lib : Lib} (reachable : Reachable SmallRports lib) : SmallInv lib := by
  apply reachable.attach_invariant
  · apply (NarrowInv.of_empty rfl).small
    intro rp rport live
    cases live
  · intro env dp t exit t' inv held scanned
    rcases sysfsScan_cases inv.wf scanned with
      ⟨-, table, rfl, -⟩ | ⟨-, -, found, port, adPorts, buf, adapter, -, built, -, rfl⟩
    · exact ⟨held.rports, held.wf, held.limit⟩
    · exact (held.narrowInv.publish (buildPort_eq built).2.2.2.2).small held.rports
  · intro t held
    exact (NarrowInv.of_empty rfl).small held.rports
  · intro env pp t t' rports small admitted called
    exact getRportInfo_small_inv admitted rports small called

theorem getRportInfo_small {env : Env} {pp : Ptr} {port : PortInfo} {lib loaded : Lib}
    (small : SmallRports env) (rportInv : RportInv lib) (inv : SmallInv lib)
    (live : lib.lports.get pp = some port) (load : loadRports env lib = .ok loaded) :
    ∃ lib', getRportInfo env pp lib = .ok lib' ∧
      Attached env pp port loaded.rportsTable.entries loaded lib' :=
  getRportInfo_narrow rportInv inv.narrowInv live load
    ((loadRports_small_inv small rportInv inv load).narrow port)

/-- A load that finds nothing changes nothing. -/
theorem load_idle {env lib loaded} (rportInv : RportInv lib)
    (load : loadRports env lib = .ok loaded) (idle : loaded.rportsTable.stSize = 0) :
    loaded = lib := by
  unfold loadRports at load
  split at load
  · refine (saDirRead_preserves (P := fun t => RportInv t ∧ (t.rportsTable.stSize = 0 → t = lib))
      ?_ ⟨rportInv, fun _ => rfl⟩ load).2 idle
    rintro dp _ t rc t' ⟨kept, same⟩ called
    refine ⟨sysfsGetRport_inv kept called, fun zero => ?_⟩
    have before : t.rportsTable = saTableInit := by
      apply SaTable.eq_init kept.wf
      have grows := sysfsGetRport_size called
      rw [zero] at grows
      exact UInt32.toNat_inj.mp (Nat.le_zero.mp grows)
    rcases sysfsGetRport_cases kept.wf called with ⟨table, wf, -, rfl⟩ | ⟨rport, -, few, rfl⟩
    · have after : table = saTableInit := SaTable.eq_init wf zero
      rw [← same (by rw [before]; rfl), after, ← before]
    · have view := SaTable.view_put kept.wf few (some t.rports.fresh)
      have after := SaTable.eq_init (SaTable.wf_put kept.wf few (some t.rports.fresh)) zero
      rw [after] at view
      have entry := congrFun view t.rportsTable.stLimit.toNat
      simp at entry
  · cases load
    rfl

/-- The remote ports are loaded, and none is left to attach to the local port. -/
def Lib.Settled (lib : Lib) (port : PortInfo) : Prop :=
  lib.rportsTable.stSize ≠ 0 ∧ ∀ rp ∈ lib.rportsTable.entries, ¬ lib.eligible port rp

/-- Where nothing is left to attach a call changes nothing. -/
theorem Lib.Settled.idle {lib : Lib} {pp : Ptr} {port : PortInfo} (settled : lib.Settled port)
    (inv : RportInv lib) (live : lib.lports.get pp = some port) (env : Env) :
    getRportInfo env pp lib = .ok lib := by
  have load : loadRports env lib = .ok lib := if_neg settled.1
  rw [getRportInfo_eq load inv.wf]
  exact attachAll_idle live (fun _ => inv.live_entry) settled.2

/-- A call leaves nothing to attach, unless no remote ports are there. -/
theorem getRportInfo_settles {env : Env} {pp : Ptr} {port : PortInfo} {lib lib' : Lib}
    (inv : RportInv lib) (live : lib.lports.get pp = some port) (owner : port.apAdapt ≠ none)
    (called : getRportInfo env pp lib = .ok lib') :
    lib'.Settled port ∨ lib' = lib ∧ lib.rportsTable.stSize = 0 := by
  obtain ⟨loaded, load, -⟩ := bind_eq_ok.mp called
  have inv' := loadRports_inv inv load
  rw [getRportInfo_eq load inv'.wf] at called
  by_cases idle : loaded.rportsTable.stSize = 0
  · have same : loaded = lib := load_idle inv load idle
    rw [SaTable.eq_init inv'.wf idle, SaTable.entries_init] at called
    exact .inr ⟨(Except.ok.inj called).symm.trans same, same ▸ idle⟩
  · have liveLoaded : loaded.lports.get pp = some port := by
      rw [loadRports_framed load]
      exact live
    have table := (attachAll_framed called).2
    refine .inl ⟨table ▸ idle, ?_⟩
    rw [table]
    exact (attachAll_exhausted liveLoaded owner called).1

/-- A second call finds nothing left to do. -/
theorem getRportInfo_idempotent {env : Env} {pp : Ptr} {port : PortInfo} {lib lib' : Lib}
    (rportInv : RportInv lib) (live : lib.lports.get pp = some port) (owner : port.apAdapt ≠ none)
    (called : getRportInfo env pp lib = .ok lib') : getRportInfo env pp lib' = .ok lib' := by
  rcases getRportInfo_settles rportInv live owner called with settled | ⟨rfl, -⟩
  · obtain ⟨t, live'⟩ := (getRportInfo_framed called).lports pp
    rw [live, Option.map_some] at live'
    have kept : lib'.Settled { port with apRports := t } := settled
    exact kept.idle (getRportInfo_inv rportInv called) live' env
  · exact called

/-- What holds in every reachable state. -/
structure Lib.Sound (lib : Lib) : Prop where
  adapters : AdapterInv lib
  rports : RportInv lib
  own : OwnInv lib

theorem Lib.Sound.of_reachable {allowed : Env → Prop} {lib : Lib}
    (reachable : Reachable allowed lib) : lib.Sound :=
  ⟨adapterInv_of_reachable reachable, rportInv_of_reachable reachable, ownInv_of_reachable reachable⟩

theorem Lib.Sound.attach {env : Env} {pp : Ptr} {lib lib' : Lib} (sound : lib.Sound)
    (called : getRportInfo env pp lib = .ok lib') : lib'.Sound :=
  ⟨sound.adapters.framed (getRportInfo_framed called), getRportInfo_inv sound.rports called,
    getRportInfo_own sound.rports sound.own called⟩

end Hbalinux
