import Hbalinux.AdapterInvariant
import Hbalinux.Attach
import Mathlib.Data.Set.Insert

/-! # Remote ports are shared out among the local ports

Any sequence of `getRportInfo` calls on unclaimed remote ports is described by the
set of local ports it has visited: a visited port holds exactly its own remote
ports, the others hold nothing.  One call adds one port to the set, whether or not
it was there.
-/

namespace Hbalinux

open Outcome

/-- Calls of `getRportInfo` in the given order. -/
def attachPorts (env : Env) (pps : List Ptr) (lib : Lib) : Outcome Lib :=
  pps.foldlM (fun lib pp => getRportInfo env pp lib) lib

/-- An insert of the remote port at its index succeeds in any table. -/
def Inserts (env : Env) (rp : Ptr) (rport : PortInfo) : Prop :=
  ∀ table : SaTable Ptr, table.Wf → ∃ rc table',
    saTableInsert table rport.apDiscIndex (some rp) (env.mem (.discoveredSlot rp)) = .ok (rc, table') ∧
      0 ≤ rc

/-- Loaded remote ports that nobody has claimed, and local ports with empty tables. -/
structure Unclaimed (env : Env) (lib : Lib) : Prop where
  loaded : loadRports env lib = .ok lib
  inv : RportInv lib
  unclaimed : ∀ rp ∈ lib.rportsTable.entries, ∀ rport, lib.rports.get rp = some rport →
    rport.apAdapt = none
  triples : ∀ rp ∈ lib.rportsTable.entries, ∀ rq ∈ lib.rportsTable.entries, ∀ rport rport',
    lib.rports.get rp = some rport → lib.rports.get rq = some rport' →
    rport.apKernHba = rport'.apKernHba → rport.apIndex = rport'.apIndex →
    rport.apDiscIndex = rport'.apDiscIndex → rp = rq
  pairs : ∀ pp qq port port', lib.lports.get pp = some port → lib.lports.get qq = some port' →
    port.apKernHba = port'.apKernHba → port.apIndex = port'.apIndex → pp = qq
  emptyTables : ∀ pp port, lib.lports.get pp = some port →
    port.apRports.Wf ∧ ∀ d, port.apRports.view d = none
  inserts : ∀ rp ∈ lib.rportsTable.entries, ∀ rport, lib.rports.get rp = some rport →
    Inserts env rp rport

/-- The loaded remote ports of a local port, in table order. -/
def Lib.own (lib : Lib) (port : PortInfo) : List Ptr :=
  lib.rportsTable.entries.filter fun rp => (lib.rports.get rp).any port.belongs

def PortInfo.claimedBy (rport : PortInfo) (owner : Option Ptr) : PortInfo :=
  { rport with apAdapt := owner }

/-- The state after calls on the local ports in `visited`. -/
structure Assigned (env : Env) (visited : Set Ptr) (lib lib' : Lib) : Prop where
  adapterTable : lib'.adapterTable = lib.adapterTable
  rportsTable : lib'.rportsTable = lib.rportsTable
  adapters : lib'.adapters = lib.adapters
  live : ∀ pp ∈ visited, ∃ port, lib.lports.get pp = some port
  filled : ∀ pp ∈ visited, ∀ port, lib.lports.get pp = some port →
    lib'.lports.get pp = some (port.withRports (fill env lib port.apRports (lib.own port)))
  others : ∀ pp ∉ visited, lib'.lports.get pp = lib.lports.get pp
  claimed : ∀ pp ∈ visited, ∀ port, lib.lports.get pp = some port →
    ∀ rp ∈ lib.rportsTable.entries, ∀ rport, lib.rports.get rp = some rport → port.belongs rport →
    lib'.rports.get rp = some (rport.claimedBy port.apAdapt)
  free : ∀ rp, (∀ pp ∈ visited, ∀ port, lib.lports.get pp = some port →
    rp ∈ lib.rportsTable.entries → ∀ rport, lib.rports.get rp = some rport → ¬ port.belongs rport) →
    lib'.rports.get rp = lib.rports.get rp

/-- An insert succeeds when memory is there and the index is positive as an `int`. -/
theorem Inserts.small {env : Env} {rp : Ptr} {rport : PortInfo} (inserts : Inserts env rp rport) :
    rport.apDiscIndex.toNat < 2 ^ 31 := by
  obtain ⟨rc, table', inserted, nonnegative⟩ := inserts saTableInit SaTable.wf_init
  by_contra large
  have negative := asInt_neg (v := rport.apDiscIndex) (by omega)
  rcases SaTable.insert_result inserted with same | same <;> omega

theorem Inserts.of_small {env : Env} {rp : Ptr} {rport : PortInfo}
    (small : rport.apDiscIndex.toNat < 2 ^ 31) (mem : env.mem (.discoveredSlot rp) = true) :
    Inserts env rp rport := by
  intro table wf
  refine ⟨rport.apDiscIndex.toNat, table.put rport.apDiscIndex (some rp), ?_, by omega⟩
  rw [SaTable.insert_eq wf small, mem, if_neg]
  simp

theorem Inserts.mem {env : Env} {rp : Ptr} {rport : PortInfo} (inserts : Inserts env rp rport) :
    env.mem (.discoveredSlot rp) = true := by
  obtain ⟨rc, table', inserted, nonnegative⟩ := inserts saTableInit SaTable.wf_init
  rw [SaTable.insert_eq SaTable.wf_init inserts.small] at inserted
  by_contra failed
  have outside : (saTableInit : SaTable Ptr).stSize ≤ rport.apDiscIndex := UInt32.zero_le
  rw [if_pos ⟨outside, Bool.eq_false_iff.mpr failed⟩] at inserted
  cases inserted
  exact absurd nonnegative (by decide)

/-- The set of visited ports determines the state. -/
theorem Assigned.unique {env : Env} {visited : Set Ptr} {lib a b : Lib}
    (first : Assigned env visited lib a) (second : Assigned env visited lib b) : a = b := by
  have lports : a.lports = b.lports := by
    ext1 pp
    by_cases member : pp ∈ visited
    · obtain ⟨port, live⟩ := first.live pp member
      rw [first.filled pp member port live, second.filled pp member port live]
    · rw [first.others pp member, second.others pp member]
  have rports : a.rports = b.rports := by
    ext1 rp
    by_cases owned : ∃ pp ∈ visited, ∃ port, lib.lports.get pp = some port ∧
        rp ∈ lib.rportsTable.entries ∧ ∃ rport, lib.rports.get rp = some rport ∧ port.belongs rport
    · obtain ⟨pp, member, port, live, entry, rport, here, belongs⟩ := owned
      rw [first.claimed pp member port live rp entry rport here belongs,
        second.claimed pp member port live rp entry rport here belongs]
    · have unowned : ∀ pp ∈ visited, ∀ port, lib.lports.get pp = some port →
          rp ∈ lib.rportsTable.entries → ∀ rport, lib.rports.get rp = some rport →
          ¬ port.belongs rport := fun pp member port live entry rport here belongs =>
        owned ⟨pp, member, port, live, entry, rport, here, belongs⟩
      rw [first.free rp unowned, second.free rp unowned]
  have adapterTable := first.adapterTable.trans second.adapterTable.symm
  have rportsTable := first.rportsTable.trans second.rportsTable.symm
  have adapters := first.adapters.trans second.adapters.symm
  cases a
  cases b
  simp only at adapterTable rportsTable adapters lports rports
  rw [adapterTable, rportsTable, adapters, lports, rports]

theorem Assigned.empty (env : Env) (lib : Lib) : Assigned env ∅ lib lib where
  adapterTable := rfl
  rportsTable := rfl
  adapters := rfl
  live pp member := absurd member (Set.notMem_empty pp)
  filled pp member := absurd member (Set.notMem_empty pp)
  others _ _ := rfl
  claimed pp member := absurd member (Set.notMem_empty pp)
  free _ _ := rfl

/-- Before anything is loaded there is nothing to hand out. -/
theorem Assigned.eq_of_no_entries {env : Env} {visited : Set Ptr} {lib mid : Lib}
    (none : lib.rportsTable.entries = []) (assigned : Assigned env visited lib mid) : mid = lib := by
  have own : ∀ port, lib.own port = [] := by
    intro port
    rw [Lib.own, none, List.filter_nil]
  apply assigned.unique
  refine ⟨rfl, rfl, rfl, assigned.live, fun pp _ port live => ?_, fun _ _ => rfl,
    fun pp _ port _ rp entry => ?_, fun _ _ => rfl⟩
  · rw [own, live]
    rfl
  · rw [none] at entry
    cases entry

/-- Loading has nothing left to do after some calls. -/
theorem Unclaimed.loaded_mid {env : Env} {visited : Set Ptr} {lib mid : Lib}
    (setup : Unclaimed env lib) (assigned : Assigned env visited lib mid) :
    loadRports env mid = .ok mid := by
  by_cases zero : lib.rportsTable.stSize = 0
  · have none : lib.rportsTable.entries = [] := by
      have bound := UInt32.le_iff_toNat_le.mp setup.inv.wf.limit
      have limit : lib.rportsTable.stLimit.toNat = 0 := by
        rw [zero] at bound
        exact Nat.le_zero.mp bound
      rw [SaTable.entries, limit]
      rfl
    rw [assigned.eq_of_no_entries none]
    exact setup.loaded
  · rw [loadRports, assigned.rportsTable, if_neg zero]

theorem Lib.mem_own {lib : Lib} {port : PortInfo} {rp : Ptr} :
    rp ∈ lib.own port ↔ rp ∈ lib.rportsTable.entries ∧
      ∃ rport, lib.rports.get rp = some rport ∧ port.belongs rport := by
  rw [Lib.own, List.mem_filter, Option.any_eq_true]

theorem PortInfo.belongs_iff {port rport : PortInfo} :
    port.belongs rport ↔ rport.apKernHba = port.apKernHba ∧ rport.apIndex = port.apIndex := by
  simp [PortInfo.belongs]

/-- The remote ports of one local port have different indices, at which they can be
    inserted. -/
theorem Unclaimed.own_indices {env : Env} {lib : Lib} (setup : Unclaimed env lib) (port : PortInfo) :
    (∀ rp ∈ lib.own port, (lib.discIndex rp).toNat < 2 ^ 31) ∧
      (∀ rp ∈ lib.own port, env.mem (.discoveredSlot rp) = true) ∧
      ∀ rp ∈ lib.own port, ∀ rq ∈ lib.own port, lib.discIndex rp = lib.discIndex rq → rp = rq := by
  refine ⟨fun rp member => ?_, fun rp member => ?_, fun rp member rq member' same => ?_⟩
  · obtain ⟨entry, rport, live, -⟩ := Lib.mem_own.mp member
    rw [Lib.discIndex_of_get live]
    exact (setup.inserts rp entry rport live).small
  · obtain ⟨entry, rport, live, -⟩ := Lib.mem_own.mp member
    exact (setup.inserts rp entry rport live).mem
  · obtain ⟨entry, rport, live, belongs⟩ := Lib.mem_own.mp member
    obtain ⟨entry', rport', live', belongs'⟩ := Lib.mem_own.mp member'
    rw [PortInfo.belongs_iff] at belongs belongs'
    rw [Lib.discIndex_of_get live, Lib.discIndex_of_get live'] at same
    exact setup.triples rp entry rq entry' rport rport' live live'
      (belongs.1.trans belongs'.1.symm) (belongs.2.trans belongs'.2.symm) same

/-- The table of a visited port. -/
theorem Unclaimed.table {env : Env} {lib : Lib} (setup : Unclaimed env lib) {pp : Ptr}
    {port : PortInfo} (live : lib.lports.get pp = some port) :
    (fill env lib port.apRports (lib.own port)).Wf ∧
      ∀ d rp, (fill env lib port.apRports (lib.own port)).view d = some rp ↔
        rp ∈ lib.own port ∧ (lib.discIndex rp).toNat = d := by
  obtain ⟨wf, empty⟩ := setup.emptyTables pp port live
  obtain ⟨small, mem, distinct⟩ := setup.own_indices port
  exact ⟨fill_wf wf small, fill_view_iff wf empty small mem distinct⟩

/-- A remote port after some calls: claimed by its local port if that was visited,
    otherwise still unclaimed. -/
theorem Unclaimed.remote {env : Env} {visited : Set Ptr} {lib mid : Lib} (setup : Unclaimed env lib)
    (assigned : Assigned env visited lib mid) {pp rp : Ptr} {port rport : PortInfo}
    (live : lib.lports.get pp = some port) (entry : rp ∈ lib.rportsTable.entries)
    (here : lib.rports.get rp = some rport) :
    ∃ owner, mid.rports.get rp = some (rport.claimedBy owner) ∧
      (port.belongs rport → (pp ∉ visited ∧ owner = none) ∨ (pp ∈ visited ∧ owner = port.apAdapt)) := by
  by_cases owned : ∃ q ∈ visited, ∃ other, lib.lports.get q = some other ∧ other.belongs rport
  · obtain ⟨q, member, other, liveOther, theirs⟩ := owned
    refine ⟨_, assigned.claimed q member other liveOther rp entry rport here theirs, fun mine => ?_⟩
    rw [PortInfo.belongs_iff] at mine theirs
    obtain rfl : pp = q := setup.pairs pp q port other live liveOther
      (mine.1.symm.trans theirs.1) (mine.2.symm.trans theirs.2)
    rw [live, Option.some.injEq] at liveOther
    exact .inr ⟨member, by rw [liveOther]⟩
  · refine ⟨none, ?_, fun mine => .inl ⟨fun member => owned ⟨pp, member, port, live, mine⟩, rfl⟩⟩
    rw [assigned.free rp, here, ← setup.unclaimed rp entry rport here]
    · rfl
    · intro q member other liveOther _ rport' here' theirs
      rw [here, Option.some.injEq] at here'
      exact owned ⟨q, member, other, liveOther, here' ▸ theirs⟩

@[simp] theorem PortInfo.belongs_claimedBy (port rport : PortInfo) (owner : Option Ptr) :
    port.belongs (rport.claimedBy owner) = port.belongs rport := rfl

theorem Unclaimed.discIndex_eq {env : Env} {visited : Set Ptr} {lib mid : Lib}
    (setup : Unclaimed env lib) (assigned : Assigned env visited lib mid) {pp rp : Ptr}
    {port : PortInfo} (live : lib.lports.get pp = some port)
    (entry : rp ∈ lib.rportsTable.entries) : mid.discIndex rp = lib.discIndex rp := by
  obtain ⟨rport, here⟩ := setup.inv.live_entry entry
  obtain ⟨owner, after, -⟩ := setup.remote assigned live entry here
  rw [Lib.discIndex_of_get after, Lib.discIndex_of_get here]
  rfl

/-- What a call still finds unclaimed. -/
theorem Unclaimed.eligible_iff {env : Env} {visited : Set Ptr} {lib mid : Lib}
    (setup : Unclaimed env lib) (assigned : Assigned env visited lib mid) {pp rp : Ptr}
    {port : PortInfo} (live : lib.lports.get pp = some port)
    (entry : rp ∈ lib.rportsTable.entries) :
    mid.eligible port rp ↔ rp ∈ lib.own port ∧ (pp ∉ visited ∨ port.apAdapt = none) := by
  obtain ⟨rport, here⟩ := setup.inv.live_entry entry
  obtain ⟨owner, after, owned⟩ := setup.remote assigned live entry here
  rw [Lib.eligible_of_get after, Lib.mem_own, Bool.and_eq_true, PortInfo.belongs_claimedBy]
  constructor
  · rintro ⟨belongs, unclaimed⟩
    refine ⟨⟨entry, rport, here, belongs⟩, ?_⟩
    rcases owned belongs with ⟨unvisited, -⟩ | ⟨-, rfl⟩
    · exact .inl unvisited
    · exact .inr (Option.isNone_iff_eq_none.mp unclaimed)
  · rintro ⟨⟨-, rport', here', belongs⟩, open_⟩
    rw [here, Option.some.injEq] at here'
    rw [← here'] at belongs
    refine ⟨belongs, Option.isNone_iff_eq_none.mpr ?_⟩
    rcases owned belongs with ⟨-, unclaimed⟩ | ⟨visitedBefore, same⟩
    · exact unclaimed
    · exact same.trans (open_.resolve_left (not_not_intro visitedBefore))

/-- The table of a port before a call, and what the call makes of it. -/
theorem Unclaimed.refill {env : Env} {visited : Set Ptr} {lib mid : Lib} (setup : Unclaimed env lib)
    (assigned : Assigned env visited lib mid) {pp : Ptr} {port : PortInfo}
    (live : lib.lports.get pp = some port) :
    ∃ table, mid.lports.get pp = some (port.withRports table) ∧ table.Wf ∧
      fill env mid table (lib.rportsTable.entries.filter (mid.eligible port)) =
        fill env lib port.apRports (lib.own port) := by
  have eligible := fun rp entry => @Unclaimed.eligible_iff _ _ _ _ setup assigned pp rp port live entry
  have same : ∀ rp ∈ lib.rportsTable.entries.filter (mid.eligible port),
      mid.discIndex rp = lib.discIndex rp := fun rp member =>
    setup.discIndex_eq assigned live (List.mem_of_mem_filter member)
  by_cases member : pp ∈ visited
  · refine ⟨_, assigned.filled pp member port live, (setup.table live).1, fill_self ?_⟩
    intro rp chosen
    obtain ⟨entry, still⟩ := List.mem_filter.mp chosen
    rw [same rp chosen]
    exact ((setup.table live).2 _ rp).mpr ⟨((eligible rp entry).mp still).1, rfl⟩
  · refine ⟨port.apRports, (assigned.others pp member).trans live, (setup.emptyTables pp port live).1, ?_⟩
    rw [fill_congr _ same]
    congr 1
    apply List.filter_congr
    intro rp entry
    rw [Bool.eq_iff_iff, eligible rp entry, Lib.own, List.mem_filter]
    simp [entry, member]

/-- One more call. -/
theorem Assigned.step {env : Env} {visited : Set Ptr} {lib mid : Lib} (setup : Unclaimed env lib)
    (assigned : Assigned env visited lib mid) {pp : Ptr} {port : PortInfo}
    (live : lib.lports.get pp = some port) :
    ∃ lib', getRportInfo env pp mid = .ok lib' ∧ Assigned env (insert pp visited) lib lib' := by
  obtain ⟨table, liveMid, wf, refilled⟩ := setup.refill assigned live
  have liveRport : ∀ rp ∈ lib.rportsTable.entries, ∃ rport, lib.rports.get rp = some rport :=
    fun rp => setup.inv.live_entry
  have nodup : mid.rportsTable.entries.Nodup := by
    rw [assigned.rportsTable]
    exact SaTable.entries_nodup setup.inv.distinct
  have liveRports : ∀ rp ∈ mid.rportsTable.entries, ∃ rport, mid.rports.get rp = some rport := by
    intro rp entry
    rw [assigned.rportsTable] at entry
    obtain ⟨rport, here⟩ := liveRport rp entry
    obtain ⟨owner, there, -⟩ := setup.remote assigned live entry here
    exact ⟨_, there⟩
  have small : ∀ rp ∈ mid.rportsTable.entries, mid.eligible (port.withRports table) rp →
      (mid.discIndex rp).toNat < 2 ^ 31 := by
    intro rp entry chosen
    rw [assigned.rportsTable] at entry
    rw [setup.discIndex_eq assigned live entry]
    exact (setup.own_indices port).1 rp ((setup.eligible_iff assigned live entry).mp chosen).1
  obtain ⟨lib', walked, after⟩ : ∃ lib', attachAll env pp mid.rportsTable.entries mid = .ok lib' ∧
      Attached env pp (port.withRports table) mid.rportsTable.entries mid lib' :=
    attachAll_spec liveMid wf nodup liveRports small
  rw [assigned.rportsTable] at after
  refine ⟨lib', ?_, ?_⟩
  · rw [getRportInfo_eq (setup.loaded_mid assigned) (assigned.rportsTable ▸ setup.inv.wf), walked]
  · have lports := after.lports
    simp only [Lib.eligible_withRports, PortInfo.withRports_apRports,
      PortInfo.withRports_withRports, refilled] at lports
    refine ⟨after.adapterTable.trans assigned.adapterTable,
      after.rportsTable.trans assigned.rportsTable, after.adapters.trans assigned.adapters,
      ?_, ?_, ?_, ?_, ?_⟩
    · rintro q (rfl | member)
      · exact ⟨port, live⟩
      · exact assigned.live q member
    · intro q member other liveOther
      rw [lports]
      by_cases same : q = pp
      · subst same
        rw [live, Option.some.injEq] at liveOther
        rw [Arena.get_store_self, liveOther]
      · rw [Arena.get_store_ne _ same]
        exact assigned.filled q (member.resolve_left same) other liveOther
    · intro q outside
      rw [Set.mem_insert_iff, not_or] at outside
      rw [lports, Arena.get_store_ne _ outside.1]
      exact assigned.others q outside.2
    · intro q member other liveOther rp entry rport here theirs
      have eligible := setup.eligible_iff assigned live entry
      rw [after.rports]
      rcases eq_or_ne q pp with rfl | different
      · rw [live, Option.some.injEq] at liveOther
        subst liveOther
        obtain ⟨owner, there, owned⟩ := setup.remote assigned live entry here
        rw [there, Option.map_some]
        rcases owned theirs with ⟨unvisited, -⟩ | ⟨-, rfl⟩
        · rw [if_pos ⟨entry, eligible.mpr ⟨Lib.mem_own.mpr ⟨entry, rport, here, theirs⟩, .inl unvisited⟩⟩]
          rfl
        · split <;> rfl
      · have visitedBefore := member.resolve_left different
        rw [assigned.claimed q visitedBefore other liveOther rp entry rport here theirs,
          Option.map_some, if_neg]
        rintro ⟨-, chosen⟩
        obtain ⟨-, rport', here', mine⟩ := Lib.mem_own.mp (eligible.mp chosen).1
        rw [here, Option.some.injEq] at here'
        rw [← here', PortInfo.belongs_iff] at mine
        rw [PortInfo.belongs_iff] at theirs
        exact different (setup.pairs q pp other port liveOther live (theirs.1.symm.trans mine.1)
          (theirs.2.symm.trans mine.2))
    · intro rp unowned
      rw [after.rports, assigned.free rp fun q member => unowned q (Set.mem_insert_of_mem pp member)]
      cases here : lib.rports.get rp with
      | none => rfl
      | some rport =>
          rw [Option.map_some, if_neg]
          rintro ⟨entry, chosen⟩
          obtain ⟨-, rport', here', mine⟩ :=
            Lib.mem_own.mp ((setup.eligible_iff assigned live entry).mp chosen).1
          exact unowned pp (Set.mem_insert pp visited) port live entry rport' here' mine

/-- A sequence of calls adds the ports it names. -/
theorem attachPorts_assigned {env : Env} {visited : Set Ptr} {lib mid : Lib} {pps : List Ptr}
    (setup : Unclaimed env lib) (live : ∀ pp ∈ pps, ∃ port, lib.lports.get pp = some port)
    (assigned : Assigned env visited lib mid) :
    ∃ lib', attachPorts env pps mid = .ok lib' ∧
      Assigned env ({pp | pp ∈ pps} ∪ visited) lib lib' := by
  induction pps generalizing visited mid with
  | nil => exact ⟨mid, rfl, by simpa using assigned⟩
  | cons pp pps ih =>
      obtain ⟨port, here⟩ := live pp (List.mem_cons_self ..)
      obtain ⟨next, called, assigned'⟩ := assigned.step setup here
      obtain ⟨lib', walked, after⟩ :=
        ih (fun q member => live q (List.mem_cons_of_mem _ member)) assigned'
      refine ⟨lib', ?_, ?_⟩
      · rw [attachPorts, List.foldlM_cons, called, ok_bind, ← attachPorts, walked]
      · convert after using 1
        ext q
        simp [or_assoc]

/-- What a visited port holds. -/
theorem Assigned.lookup_filled {env : Env} {visited : Set Ptr} {lib lib' : Lib}
    (setup : Unclaimed env lib) (assigned : Assigned env visited lib lib') {pp : Ptr}
    (member : pp ∈ visited) {port : PortInfo} (live : lib.lports.get pp = some port) :
    ∃ port', lib'.lports.get pp = some port' ∧
      ∀ d, ∃ found, saTableLookup port'.apRports d = .ok found ∧ ∀ rp, found = some rp ↔
        rp ∈ lib.rportsTable.entries ∧ ∃ rport, lib.rports.get rp = some rport ∧
          (rport.apKernHba, rport.apIndex, rport.apDiscIndex) =
            (port.apKernHba, port.apIndex, d) := by
  obtain ⟨wf, view⟩ := setup.table live
  refine ⟨_, assigned.filled pp member port live, fun d => ⟨_, SaTable.lookup_eq_view wf d, ?_⟩⟩
  intro rp
  rw [view, Lib.mem_own, UInt32.toNat_inj, and_assoc]
  simp only [PortInfo.belongs_iff, Prod.mk.injEq]
  constructor
  · rintro ⟨entry, ⟨rport, here, kern, index⟩, disc⟩
    rw [Lib.discIndex_of_get here] at disc
    exact ⟨entry, rport, here, kern, index, disc⟩
  · rintro ⟨entry, rport, here, kern, index, disc⟩
    exact ⟨entry, ⟨rport, here, kern, index⟩, (Lib.discIndex_of_get here).trans disc⟩

/-- What an unvisited port holds. -/
theorem Assigned.lookup_others {env : Env} {visited : Set Ptr} {lib lib' : Lib}
    (setup : Unclaimed env lib) (assigned : Assigned env visited lib lib') {pp : Ptr}
    (outside : pp ∉ visited) {port : PortInfo} (live : lib'.lports.get pp = some port)
    (d : UInt32) : saTableLookup port.apRports d = .ok none := by
  rw [assigned.others pp outside] at live
  obtain ⟨wf, empty⟩ := setup.emptyTables pp port live
  rw [SaTable.lookup_eq_view wf, empty]

/-- A table holds only remote ports of its own local port, at their own indices. -/
theorem Assigned.held {env : Env} {visited : Set Ptr} {lib lib' : Lib}
    (setup : Unclaimed env lib) (assigned : Assigned env visited lib lib') {pp rp : Ptr}
    {port : PortInfo} {d : UInt32} (live : lib'.lports.get pp = some port)
    (held : saTableLookup port.apRports d = .ok (some rp)) :
    ∃ before rport, lib.lports.get pp = some before ∧ lib.rports.get rp = some rport ∧
      rport.apKernHba = before.apKernHba ∧ rport.apIndex = before.apIndex ∧
      rport.apDiscIndex = d := by
  by_cases member : pp ∈ visited
  · obtain ⟨before, here⟩ := assigned.live pp member
    obtain ⟨port', live', lookups⟩ := assigned.lookup_filled setup member here
    obtain ⟨found, looked, exact_⟩ := lookups d
    rw [live, Option.some.injEq] at live'
    rw [← live', held, Except.ok.injEq] at looked
    obtain ⟨-, rport, liveRport, same⟩ := (exact_ rp).mp looked.symm
    simp only [Prod.mk.injEq] at same
    exact ⟨before, rport, here, liveRport, same⟩
  · rw [assigned.lookup_others setup member live, Except.ok.injEq] at held
    cases held

/-- Any sequence of calls gives every local port it names exactly its own remote
    ports, each at its index, and the other local ports none; no remote port is in
    two places; and the result depends on the names only, not on their order or
    number. -/
theorem rports_partitioned {env : Env} {lib : Lib} (setup : Unclaimed env lib) {pps : List Ptr}
    (live : ∀ pp ∈ pps, ∃ port, lib.lports.get pp = some port) :
    ∃ lib', attachPorts env pps lib = .ok lib' ∧
      (∀ pp ∈ pps, ∀ port, lib.lports.get pp = some port → ∃ port', lib'.lports.get pp = some port' ∧
        ∀ d, ∃ found, saTableLookup port'.apRports d = .ok found ∧ ∀ rp, found = some rp ↔
          rp ∈ lib.rportsTable.entries ∧ ∃ rport, lib.rports.get rp = some rport ∧
            (rport.apKernHba, rport.apIndex, rport.apDiscIndex) =
              (port.apKernHba, port.apIndex, d)) ∧
      (∀ pp ∉ pps, ∀ port', lib'.lports.get pp = some port' →
        ∀ d, saTableLookup port'.apRports d = .ok none) ∧
      (∀ pp qq port port' d e rp, lib'.lports.get pp = some port → lib'.lports.get qq = some port' →
        saTableLookup port.apRports d = .ok (some rp) →
        saTableLookup port'.apRports e = .ok (some rp) → pp = qq ∧ d = e) ∧
      ∀ pps' : List Ptr, (∀ pp, pp ∈ pps' ↔ pp ∈ pps) → attachPorts env pps' lib = .ok lib' := by
  obtain ⟨lib', walked, assigned⟩ := attachPorts_assigned setup live (.empty env lib)
  rw [Set.union_empty] at assigned
  refine ⟨lib', walked, fun pp member port here => assigned.lookup_filled setup member here,
    fun pp outside port' live' d => assigned.lookup_others setup outside live' d, ?_, ?_⟩
  · intro pp qq port port' d e rp livePort livePort' held held'
    obtain ⟨before, rport, here, liveRport, kern, index, disc⟩ := assigned.held setup livePort held
    obtain ⟨before', rport', here', liveRport', kern', index', disc'⟩ :=
      assigned.held setup livePort' held'
    obtain rfl : rport = rport' := Option.some.inj (liveRport.symm.trans liveRport')
    exact ⟨setup.pairs pp qq before before' here here' (kern.symm.trans kern')
      (index.symm.trans index'), disc.symm.trans disc'⟩
  · intro pps' same
    obtain ⟨last, walked', assigned'⟩ := attachPorts_assigned setup
      (fun pp member => live pp ((same pp).mp member)) (.empty env lib)
    have names : {pp | pp ∈ pps'} = {pp | pp ∈ pps} := Set.ext same
    rw [Set.union_empty, names] at assigned'
    rw [walked', assigned'.unique assigned]

/-- Remote ports that have just been loaded are unclaimed, and their slots free, where these hold
    of the state they are in. -/
theorem unclaimed_of_loaded {env : Env} {lib loaded : Lib} (inv : RportInv lib)
    (load : loadRports env lib = .ok loaded) (mem : ∀ site, env.mem site = true)
    (size : loaded.rportsTable.stSize ≠ 0)
    (fresh : ∀ rp ∈ loaded.rportsTable.entries, ∀ rport ∈ loaded.rports.get rp,
      rport.apAdapt = none ∧ rport.apDiscIndex.toNat < 2 ^ 31)
    (triples : (loaded.rportsTable.entries.map fun rp => (loaded.rports.get rp).map fun rport =>
      (rport.apKernHba, rport.apIndex, rport.apDiscIndex)).Nodup)
    (pairs : ((List.range loaded.lports.cells.length).map fun pp =>
      (loaded.lports.get pp).map fun port => (port.apKernHba, port.apIndex)).Nodup)
    (tables : ∀ pp < loaded.lports.cells.length, ∀ port ∈ loaded.lports.get pp,
      port.apRports = saTableInit) : Unclaimed env loaded := by
  refine ⟨if_neg size, loadRports_inv inv load,
    fun rp entry rport live => (fresh rp entry rport live).1, ?_, ?_,
    fun pp port live => ?_, fun rp entry rport live => ?_⟩
  · intro rp entry rq entry' rport rport' live live' kern index disc
    apply List.inj_on_of_nodup_map triples entry entry'
    rw [live, live', Option.map_some, Option.map_some, kern, index, disc]
  · intro pp qq port port' live live' kern index
    apply List.inj_on_of_nodup_map pairs (List.mem_range.mpr (Arena.lt_of_get live))
      (List.mem_range.mpr (Arena.lt_of_get live'))
    rw [live, live', Option.map_some, Option.map_some, kern, index]
  · rw [tables pp (Arena.lt_of_get live) port live]
    exact ⟨SaTable.wf_init, SaTable.view_init⟩
  · exact .of_small (fresh rp entry rport live).2 (mem _)

/-- The system of two hosts with its remote ports loaded. -/
def twinLoaded : Lib := (loadRports twinSystem (loadedState twinSystem)).toOption.getD .init

private theorem twinLoaded_facts :
    (loadRports twinSystem (loadedState twinSystem)).toOption.isSome = true ∧
      twinLoaded.rportsTable.stSize ≠ 0 ∧ twinLoaded.rportsTable.entries = [0, 1, 2] ∧
      ([0, 1, 2].map fun rp => (twinLoaded.rports.get rp).map fun rport =>
        (rport.apKernHba, rport.apIndex, rport.apDiscIndex)) =
        [some (3, 0, 1), some (4, 0, 1), some (3, 0, 2)] ∧
      twinLoaded.lports.cells.length = 2 ∧
      ([0, 1].map fun pp => (twinLoaded.lports.get pp).map fun port =>
        (port.apKernHba, port.apIndex)) = [some (3, 0), some (4, 0)] ∧
      (∀ rp ∈ twinLoaded.rportsTable.entries, ∀ rport ∈ twinLoaded.rports.get rp,
        rport.apAdapt = none ∧ rport.apDiscIndex.toNat < 2 ^ 31) ∧
      ∀ pp < twinLoaded.lports.cells.length, ∀ port ∈ twinLoaded.lports.get pp,
        port.apRports = saTableInit := by
  decide +kernel

theorem unclaimed_twin : Unclaimed twinSystem twinLoaded := by
  obtain ⟨loads, size, entries, remotes, cells, locals, fresh, tables⟩ := twinLoaded_facts
  have two : List.range 2 = [0, 1] := rfl
  refine unclaimed_of_loaded (rportInv_of_reachable reachable_twin) (eq_ok_getD loads _)
    (fun _ => rfl) size fresh ?_ ?_ tables
  · rw [entries, remotes]
    decide
  · rw [cells, two, locals]
    decide

/-- The remote ports of the two local ports find their places whichever call comes first. -/
theorem rports_partitioned_small : ∃ lib' port port',
    attachPorts twinSystem [0, 1] twinLoaded = .ok lib' ∧
      attachPorts twinSystem [1, 0, 1] twinLoaded = .ok lib' ∧
      lib'.lports.get 0 = some port ∧ saTableLookup port.apRports 1 = .ok (some 0) ∧
      saTableLookup port.apRports 2 = .ok (some 2) ∧
      lib'.lports.get 1 = some port' ∧ saTableLookup port'.apRports 1 = .ok (some 1) ∧
      saTableLookup port'.apRports 2 = .ok none := by
  obtain ⟨-, -, entries, remotes, -, locals, -⟩ := twinLoaded_facts
  simp only [List.map_cons, List.map_nil, List.cons.injEq, and_true] at remotes locals
  obtain ⟨remote0, remote1, remote2⟩ := remotes
  obtain ⟨port0, live0, pair0⟩ := Option.map_eq_some_iff.mp locals.1
  obtain ⟨port1, live1, pair1⟩ := Option.map_eq_some_iff.mp locals.2
  rw [Prod.mk.injEq] at pair0 pair1
  obtain ⟨lib', walked, filled, -, -, commutes⟩ := @rports_partitioned _ _ unclaimed_twin [0, 1] (by
    simp [live0, live1])
  obtain ⟨port, here, lookups⟩ := filled 0 (by simp) port0 live0
  obtain ⟨port', here', lookups'⟩ := filled 1 (by simp) port1 live1
  rw [entries, pair0.1, pair0.2] at lookups
  rw [entries, pair1.1, pair1.2] at lookups'
  obtain ⟨found, looked, holds⟩ := lookups 1
  rw [(holds 0).mpr ⟨by decide, Option.map_eq_some_iff.mp remote0⟩] at looked
  obtain ⟨found, looked2, holds⟩ := lookups 2
  rw [(holds 2).mpr ⟨by decide, Option.map_eq_some_iff.mp remote2⟩] at looked2
  obtain ⟨found, looked', holds⟩ := lookups' 1
  rw [(holds 1).mpr ⟨by decide, Option.map_eq_some_iff.mp remote1⟩] at looked'
  obtain ⟨found, looked2', holds⟩ := lookups' 2
  have missing : found = none := by
    cases found with
    | none => rfl
    | some rp =>
        obtain ⟨entry, there⟩ := (holds rp).mp rfl
        have triple := Option.map_eq_some_iff.mpr there
        simp only [List.mem_cons, List.not_mem_nil, or_false] at entry
        rcases entry with rfl | rfl | rfl
        · exact absurd (remote0.symm.trans triple) (by decide)
        · exact absurd (remote1.symm.trans triple) (by decide)
        · exact absurd (remote2.symm.trans triple) (by decide)
  rw [missing] at looked2'
  exact ⟨lib', port, port', walked, commutes [1, 0, 1] (by simp [or_comm]), here, looked, looked2,
    here', looked', looked2'⟩

end Hbalinux
