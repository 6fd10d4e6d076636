import Hbalinux.SessionSpec

/-! # The pool of remote ports

The remote port table is filled once and outlives the adapters.  What is left in it for the local
ports is its pool: the remote ports that no local port has claimed.  A local port takes the ones of
its host, in the order of their numbers.
-/

namespace Hbalinux

open Outcome

/-- The loaded remote ports that no local port has claimed, in the order of the table. -/
def Lib.pool (lib : Lib) : List PortInfo :=
  (lib.rportsTable.entries.filterMap lib.rports.get).filter fun rport => rport.apAdapt.isNone

def rportKey (rport : PortInfo) : Nat := rport.apDiscIndex.toNat

/-- Remote ports in the order of their numbers, with the mark of a local port. -/
def claimedInOrder (owner : Option Ptr) (rports : List PortInfo) : List PortInfo :=
  inOrder rportKey (rports.map fun rport => rport.claimedBy owner)

theorem Lib.waiting_pool (lib : Lib) (port : PortInfo) :
    (lib.waiting port).filterMap lib.rports.get = lib.pool.filter port.belongs := by
  rw [Lib.waiting, Lib.pool, List.filterMap_filter, List.filter_filter, List.filter_filterMap]
  refine List.filterMap_congr fun rp _ => ?_
  cases here : lib.rports.get rp with
  | none => simp
  | some rport =>
      rw [Lib.eligible_of_get here]
      simp [Option.filter]

/-- The entries of a table whose remote ports stand at their numbers are in order. -/
theorem entries_inOrder {lib : Lib} {table : SaTable Ptr}
    (own : ∀ d rp, table.stTable[d]? = some (some rp) →
      ∃ rport, lib.rports.get rp = some rport ∧ rport.apDiscIndex.toNat = d) :
    (table.entries.filterMap lib.rports.get).Pairwise fun a b => rportKey a ≤ rportKey b := by
  have number : ∀ d rp rport, table.view d = some rp → lib.rports.get rp = some rport →
      rportKey rport = d := by
    intro d rp rport entry live
    obtain ⟨rport', live', disc⟩ := own d rp (SaTable.slot_of_view entry)
    obtain rfl : rport' = rport := Option.some.inj (live'.symm.trans live)
    exact disc
  rw [SaTable.entries, List.filterMap_filterMap, List.pairwise_filterMap]
  refine (List.pairwise_lt_range' 1).imp ?_
  intro i j before rport first rport' second
  obtain ⟨rp, entry, live⟩ := Option.bind_eq_some_iff.mp first
  obtain ⟨rq, entry', live'⟩ := Option.bind_eq_some_iff.mp second
  rw [number i rp rport entry live, number j rq rport' entry' live']
  exact Nat.le_of_lt before

/-- A local port that has no remote ports yet. -/
structure Blank (lib : Lib) (pp : Ptr) (port : PortInfo) : Prop where
  sound : lib.Sound
  live : lib.lports.get pp = some port
  owner : port.apAdapt ≠ none
  table : port.apRports = saTableInit

section Blank

variable {env : Env} {lib loaded : Lib} {pp : Ptr} {port : PortInfo}
  (blank : Blank lib pp port) (load : loadRports env lib = .ok loaded) (small : SmallInv loaded)
include blank load small

/-- A call marks what is waiting, and enters it in the table. -/
theorem Blank.attach : ∃ attached, getRportInfo env pp lib = .ok attached ∧
    attached.lports.get pp = some (port.withRports (fill env loaded saTableInit (loaded.waiting port))) ∧
    ∀ rp ∈ loaded.waiting port, attached.rports.get rp =
      (loaded.rports.get rp).map fun rport => rport.claimedBy port.apAdapt := by
  have inv := loadRports_inv blank.sound.rports load
  have live : loaded.lports.get pp = some port := by
    rw [loadRports_framed load]
    exact blank.live
  obtain ⟨attached, walked, after⟩ := @attachAll_spec env pp port _ _ live
    (blank.table ▸ SaTable.wf_init) (SaTable.entries_nodup inv.distinct) (fun rp => inv.live_entry)
    fun rp _ _ => Lib.discIndex_small small rp
  refine ⟨attached, (getRportInfo_eq load inv.wf).trans walked, ?_, fun rp waits => ?_⟩
  · rw [after.lports, blank.table]
    exact Arena.get_store_self _ _ _
  · obtain ⟨entry, eligible⟩ := List.mem_filter.mp waits
    rw [after.rports rp]
    simp only [entry, eligible, and_self, if_true]
    rfl

/-- The remote ports of a local port are those of its host in the pool. -/
theorem Blank.attachedRemotes_eq (mem : ∀ site, env.mem site = true)
    (keys : ((loaded.pool.filter port.belongs).map rportKey).Nodup) :
    attachedRemotes env pp lib = claimedInOrder port.apAdapt (loaded.pool.filter port.belongs) := by
  obtain ⟨attached, called, live, marks⟩ := blank.attach load small
  have inv := loadRports_inv blank.sound.rports load
  have own := (blank.sound.attach called).own pp _ live
  have liveEntry : ∀ rp ∈ loaded.waiting port, ∃ rport, loaded.rports.get rp = some rport :=
    fun rp waits => inv.live_entry (List.mem_of_mem_filter waits)
  have distinct : ∀ rp ∈ loaded.waiting port, ∀ rq ∈ loaded.waiting port,
      loaded.discIndex rp = loaded.discIndex rq → rp = rq := by
    have numbers : (loaded.waiting port).map (fun rp => (loaded.discIndex rp).toNat) =
        (loaded.pool.filter port.belongs).map rportKey := by
      rw [← loaded.waiting_pool, List.map_filterMap, ← List.filterMap_eq_map]
      refine List.filterMap_congr fun rp waits => ?_
      obtain ⟨rport, here⟩ := liveEntry rp waits
      rw [here, Function.comp_apply, Lib.discIndex_of_get here]
      rfl
    rw [← numbers] at keys
    intro rp waits rq waits' same
    exact List.inj_on_of_nodup_map keys waits waits' (congrArg UInt32.toNat same)
  have view : ∀ d rp, (fill env loaded saTableInit (loaded.waiting port)).view d = some rp ↔
      rp ∈ loaded.waiting port ∧ (loaded.discIndex rp).toNat = d :=
    fill_view_iff SaTable.wf_init SaTable.view_init (fun rp _ => Lib.discIndex_small small rp)
      (fun _ _ => mem _) distinct
  have perm : (fill env loaded saTableInit (loaded.waiting port)).entries.Perm
      (loaded.waiting port) := by
    have nodup : loaded.rportsTable.entries.Nodup := SaTable.entries_nodup inv.distinct
    refine (List.perm_ext_iff_of_nodup (SaTable.entries_nodup ?_) (nodup.filter _)).mpr fun rp => ?_
    · intro i j rp first second
      exact ((view i rp).mp first).2.symm.trans ((view j rp).mp second).2
    · rw [SaTable.mem_entries]
      constructor
      · rintro ⟨d, there⟩
        exact ((view d rp).mp there).1
      · exact fun member => ⟨_, (view _ rp).mpr ⟨member, rfl⟩⟩
  have claimed : (loaded.waiting port).filterMap attached.rports.get =
      (loaded.pool.filter port.belongs).map fun rport => rport.claimedBy port.apAdapt := by
    rw [← loaded.waiting_pool, List.map_filterMap]
    exact List.filterMap_congr fun rp waits => marks rp waits
  have remotes : attached.remotes pp = (fill env loaded saTableInit (loaded.waiting port)).entries.filterMap
      attached.rports.get := by
    rw [Lib.remotes, live]
    rfl
  have marked : (((loaded.pool.filter port.belongs).map fun rport => rport.claimedBy port.apAdapt).map
      rportKey).Nodup := by
    rw [List.map_map]
    exact keys
  simp only [attachedRemotes, called, remotes]
  refine eq_inOrder marked ?_ (entries_inOrder fun d rp slot => ?_)
  · rw [← claimed]
    exact perm.filterMap _
  · obtain ⟨rport, here, -, disc⟩ := own d rp slot
    exact ⟨rport, here, disc⟩

end Blank

end Hbalinux
