import Hbalinux.RportSpec

/-! # The result of a walk over remote ports

With indices below `2 ^ 31` a walk always comes to its end, and its result can be
written down: the remote ports of the local port that no one has claimed are
entered in the table in the order of the walk, and carry the claim.
-/

namespace Hbalinux

open Outcome

def PortInfo.withRports (port : PortInfo) (table : SaTable Ptr) : PortInfo :=
  { port with apRports := table }

@[simp] theorem PortInfo.withRports_apRports (port : PortInfo) (table : SaTable Ptr) :
    (port.withRports table).apRports = table := rfl

@[simp] theorem PortInfo.withRports_apAdapt (port : PortInfo) (table : SaTable Ptr) :
    (port.withRports table).apAdapt = port.apAdapt := rfl

@[simp] theorem PortInfo.withRports_withRports (port : PortInfo) (s t : SaTable Ptr) :
    (port.withRports s).withRports t = port.withRports t := rfl

/-- A remote port of the same host and port. -/
def PortInfo.belongs (port rport : PortInfo) : Bool :=
  rport.apKernHba = port.apKernHba ∧ rport.apIndex = port.apIndex

/-- The remote port at `rp` can still be attached to `port`. -/
def Lib.eligible (lib : Lib) (port : PortInfo) (rp : Ptr) : Bool :=
  (lib.rports.get rp).any fun rport => port.belongs rport && rport.apAdapt.isNone

def Lib.discIndex (lib : Lib) (rp : Ptr) : UInt32 :=
  ((lib.rports.get rp).map PortInfo.apDiscIndex).getD 0

@[simp] theorem Lib.eligible_withRports (lib : Lib) (port : PortInfo) (table : SaTable Ptr) :
    lib.eligible (port.withRports table) = lib.eligible port := rfl

/-- Enter remote ports in a table, each at its own index. -/
def fill (env : Env) (lib : Lib) (table : SaTable Ptr) (rps : List Ptr) : SaTable Ptr :=
  rps.foldl (fun table rp =>
    table.tryPut (lib.discIndex rp) (some rp) (env.mem (.discoveredSlot rp))) table

theorem fill_cons (env : Env) (lib : Lib) (table : SaTable Ptr) (rp : Ptr) (rps : List Ptr) :
    fill env lib table (rp :: rps) =
      fill env lib (table.tryPut (lib.discIndex rp) (some rp) (env.mem (.discoveredSlot rp))) rps :=
  rfl

/-- The state after a walk over `rps` for the local port `port` at `pp`. -/
structure Attached (env : Env) (pp : Ptr) (port : PortInfo) (rps : List Ptr) (lib lib' : Lib) :
    Prop where
  adapterTable : lib'.adapterTable = lib.adapterTable
  rportsTable : lib'.rportsTable = lib.rportsTable
  adapters : lib'.adapters = lib.adapters
  lports : lib'.lports = lib.lports.store pp
    (port.withRports (fill env lib port.apRports (rps.filter (lib.eligible port))))
  rports : ∀ q, lib'.rports.get q = (lib.rports.get q).map fun rport =>
    if q ∈ rps ∧ lib.eligible port q then { rport with apAdapt := port.apAdapt } else rport

theorem Lib.eligible_of_get {lib : Lib} {port rport : PortInfo} {rp : Ptr}
    (live : lib.rports.get rp = some rport) :
    lib.eligible port rp = (port.belongs rport && rport.apAdapt.isNone) := by
  simp [Lib.eligible, live]

/-- The condition under which `get_rport_info` claims a remote port. -/
theorem Lib.eligible_iff {lib : Lib} {port rport : PortInfo} {rp : Ptr}
    (live : lib.rports.get rp = some rport) : lib.eligible port rp ↔
      rport.apKernHba = port.apKernHba ∧ rport.apIndex = port.apIndex ∧ rport.apAdapt = none := by
  simp [Lib.eligible_of_get live, PortInfo.belongs, and_assoc]

theorem Lib.discIndex_of_get {lib : Lib} {rport : PortInfo} {rp : Ptr}
    (live : lib.rports.get rp = some rport) : lib.discIndex rp = rport.apDiscIndex := by
  simp [Lib.discIndex, live]

theorem Lib.eligible_congr {lib lib' : Lib} (port : PortInfo) {rp : Ptr}
    (same : lib'.rports.get rp = lib.rports.get rp) :
    lib'.eligible port rp = lib.eligible port rp := by
  rw [Lib.eligible, Lib.eligible, same]

theorem fill_congr {env : Env} {lib lib' : Lib} (table : SaTable Ptr) {rps : List Ptr}
    (same : ∀ rp ∈ rps, lib'.discIndex rp = lib.discIndex rp) :
    fill env lib' table rps = fill env lib table rps := by
  apply List.foldl_ext
  intro t rp member
  rw [same rp member]

theorem fill_wf {env : Env} {lib : Lib} {table : SaTable Ptr} {rps : List Ptr} (wf : table.Wf)
    (small : ∀ rp ∈ rps, (lib.discIndex rp).toNat < 2 ^ 31) : (fill env lib table rps).Wf := by
  induction rps generalizing table with
  | nil => exact wf
  | cons rp rps ih =>
      rw [fill_cons]
      apply ih
      · exact SaTable.wf_tryPut wf (small rp (List.mem_cons_self ..)) _ _
      · intro q member
        exact small q (List.mem_cons_of_mem _ member)

/-- After a successful fill each remote port stands at its index. -/
theorem fill_view_of_mem {env : Env} {lib : Lib} {table : SaTable Ptr} {rps : List Ptr} (wf : table.Wf)
    (small : ∀ rp ∈ rps, (lib.discIndex rp).toNat < 2 ^ 31)
    (mem : ∀ rp ∈ rps, env.mem (.discoveredSlot rp) = true)
    (distinct : ∀ rp ∈ rps, ∀ rq ∈ rps, lib.discIndex rp = lib.discIndex rq → rp = rq) :
    (∀ rp ∈ rps, (fill env lib table rps).view (lib.discIndex rp).toNat = some rp) ∧
      ∀ d, (∀ rp ∈ rps, (lib.discIndex rp).toNat ≠ d) →
        (fill env lib table rps).view d = table.view d := by
  induction rps generalizing table with
  | nil => exact ⟨fun rp member => absurd member List.not_mem_nil, fun d _ => rfl⟩
  | cons rp rps ih =>
      simp only [List.forall_mem_cons] at small mem distinct
      have view := SaTable.view_put wf small.1 (some rp)
      obtain ⟨entered, kept⟩ := ih (SaTable.wf_put wf small.1 (some rp)) small.2 mem.2
        fun q member => (distinct.2 q member).2
      rw [fill_cons, mem.1, SaTable.tryPut_true]
      constructor
      · rintro q member
        by_cases later : q ∈ rps
        · exact entered q later
        · obtain rfl : q = rp := (List.mem_cons.mp member).resolve_right later
          rw [kept, view, Function.update_self]
          intro r member' same
          exact later ((distinct.2 r member').1 (UInt32.toNat_inj.mp same) ▸ member')
      · intro d absent
        simp only [List.forall_mem_cons] at absent
        rw [kept d absent.2, view, Function.update_of_ne (Ne.symm absent.1)]

/-- What a successful fill of an empty table leaves in it. -/
theorem fill_view_iff {env : Env} {lib : Lib} {table : SaTable Ptr} {rps : List Ptr} (wf : table.Wf)
    (empty : ∀ d, table.view d = none) (small : ∀ rp ∈ rps, (lib.discIndex rp).toNat < 2 ^ 31)
    (mem : ∀ rp ∈ rps, env.mem (.discoveredSlot rp) = true)
    (distinct : ∀ rp ∈ rps, ∀ rq ∈ rps, lib.discIndex rp = lib.discIndex rq → rp = rq) (d : Nat)
    (rp : Ptr) :
    (fill env lib table rps).view d = some rp ↔ rp ∈ rps ∧ (lib.discIndex rp).toNat = d := by
  obtain ⟨entered, kept⟩ := fill_view_of_mem wf small mem distinct
  constructor
  · intro found
    by_cases taken : ∃ q ∈ rps, (lib.discIndex q).toNat = d
    · obtain ⟨q, member, rfl⟩ := taken
      rw [entered q member, Option.some.injEq] at found
      exact found ▸ ⟨member, rfl⟩
    · rw [kept d fun q member same => taken ⟨q, member, same⟩, empty] at found
      cases found
  · rintro ⟨member, rfl⟩
    exact entered rp member

/-- Entering remote ports that are there already changes nothing. -/
theorem fill_self {env : Env} {lib : Lib} {table : SaTable Ptr} {rps : List Ptr}
    (there : ∀ rp ∈ rps, table.view (lib.discIndex rp).toNat = some rp) :
    fill env lib table rps = table := by
  induction rps with
  | nil => rfl
  | cons rp rps ih =>
      simp only [List.forall_mem_cons] at there
      have same : table.tryPut (lib.discIndex rp) (some rp) (env.mem (.discoveredSlot rp)) = table := by
        unfold SaTable.tryPut
        split
        · rfl
        · exact SaTable.put_self there.1
      rw [fill_cons, same, ih there.2]

/-- `rp` is claimed for the local port at `pp` and entered in its table. -/
def Lib.claim (env : Env) (lib : Lib) (pp rp : Ptr) (port rport : PortInfo) : Lib :=
  { lib with
    rports := lib.rports.store rp { rport with apAdapt := port.apAdapt }
    lports := lib.lports.store pp (port.withRports
      (port.apRports.tryPut rport.apDiscIndex (some rp) (env.mem (.discoveredSlot rp)))) }

/-- One remote port of the walk. -/
theorem claimRport_eq {env : Env} {pp rp : Ptr} {lib : Lib} {port rport : PortInfo}
    (livePort : lib.lports.get pp = some port) (live : lib.rports.get rp = some rport)
    (wf : port.apRports.Wf) (small : lib.eligible port rp → rport.apDiscIndex.toNat < 2 ^ 31) :
    claimRport env pp rp lib =
      .ok (if lib.eligible port rp then lib.claim env pp rp port rport else lib) := by
  unfold claimRport
  rw [Lib.rport, live, Lib.port, livePort]
  simp only [demand_some, ok_bind]
  by_cases eligible : lib.eligible port rp = true
  · obtain ⟨rc, inserted⟩ := SaTable.insert_table wf (small eligible) (some rp)
      (env.mem (.discoveredSlot rp))
    rw [if_pos eligible, if_pos ((Lib.eligible_iff live).mp eligible), SaTable.lookup_eq_view wf,
      inserted]
    rfl
  · rw [if_neg eligible, if_neg fun guard => eligible ((Lib.eligible_iff live).mpr guard)]

theorem attachAll_spec {env : Env} {pp : Ptr} {port : PortInfo} {rps : List Ptr} {lib : Lib}
    (livePort : lib.lports.get pp = some port) (wf : port.apRports.Wf) (nodup : rps.Nodup)
    (live : ∀ rp ∈ rps, ∃ rport, lib.rports.get rp = some rport)
    (small : ∀ rp ∈ rps, lib.eligible port rp → (lib.discIndex rp).toNat < 2 ^ 31) :
    ∃ lib', attachAll env pp rps lib = .ok lib' ∧ Attached env pp port rps lib lib' := by
  induction rps generalizing lib port with
  | nil =>
      refine ⟨lib, rfl, rfl, rfl, rfl, ?_, ?_⟩
      · exact (Arena.store_get livePort).symm
      · intro q
        simp
  | cons rp rps ih =>
      obtain ⟨absent, nodup⟩ := List.nodup_cons.mp nodup
      obtain ⟨rport, here⟩ := live rp (List.mem_cons_self ..)
      have index := Lib.discIndex_of_get here
      have smallHere := small rp (List.mem_cons_self ..)
      rw [index] at smallHere
      have live' : ∀ q ∈ rps, ∃ rport, lib.rports.get q = some rport :=
        fun q member => live q (List.mem_cons_of_mem _ member)
      have small' : ∀ q ∈ rps, lib.eligible port q → (lib.discIndex q).toNat < 2 ^ 31 :=
        fun q member => small q (List.mem_cons_of_mem _ member)
      rw [attachAll, List.foldlM_cons, claimRport_eq livePort here wf smallHere, ok_bind]
      by_cases eligible : lib.eligible port rp = true
      · rw [if_pos eligible]
        have kept : ∀ q ∈ rps, (lib.claim env pp rp port rport).rports.get q = lib.rports.get q :=
          fun q member => Arena.get_store_ne _ fun same => absent (same ▸ member)
        have sameIndex : ∀ q ∈ rps,
            (lib.claim env pp rp port rport).discIndex q = lib.discIndex q := by
          intro q member
          rw [Lib.discIndex, Lib.discIndex, kept q member]
        have stored : (lib.claim env pp rp port rport).lports.get pp =
            some (port.withRports (port.apRports.tryPut rport.apDiscIndex (some rp)
              (env.mem (.discoveredSlot rp)))) := Arena.get_store_self _ _ _
        obtain ⟨lib', walked, after⟩ := ih stored
          (SaTable.wf_tryPut wf (smallHere eligible) _ _) nodup
          (fun q member => by
            rw [kept q member]
            exact live' q member)
          (fun q member chosen => by
            rw [sameIndex q member]
            apply small' q member
            rw [← Lib.eligible_congr port (kept q member)]
            exact chosen)
        refine ⟨lib', walked, after.adapterTable, after.rportsTable, after.adapters, ?_, ?_⟩
        · have chosen : rps.filter ((lib.claim env pp rp port rport).eligible port) =
              rps.filter (lib.eligible port) :=
            List.filter_congr fun q member => Lib.eligible_congr port (kept q member)
          rw [after.lports, List.filter_cons_of_pos eligible, fill_cons, index,
            Lib.eligible_withRports, chosen, PortInfo.withRports_withRports,
            fill_congr _ fun q member => sameIndex q (List.mem_of_mem_filter member), Lib.claim,
            Arena.store_store, PortInfo.withRports_apRports]
        · intro q
          rw [after.rports]
          by_cases same : q = rp
          · subst same
            simp [Lib.claim, here, eligible, absent]
          · have kept' : (lib.claim env pp rp port rport).rports.get q = lib.rports.get q :=
              Arena.get_store_ne _ same
            simp [kept', Lib.eligible_congr port kept', same]
      · rw [if_neg eligible]
        obtain ⟨lib', walked, after⟩ := ih livePort wf nodup live' small'
        refine ⟨lib', walked, after.adapterTable, after.rportsTable, after.adapters, ?_, ?_⟩
        · rw [after.lports, List.filter_cons_of_neg eligible]
        · intro q
          rw [after.rports]
          by_cases same : q = rp
          · subst same
            simp [eligible]
          · simp [same]

/-- A claim leaves less to claim, and not the remote port it was about. -/
theorem claimRport_eligible {env : Env} {pp rp : Ptr} {lib lib' : Lib} {port : PortInfo}
    (live : lib.lports.get pp = some port) (owner : port.apAdapt ≠ none)
    (claimed : claimRport env pp rp lib = .ok lib') :
    ¬ lib'.eligible port rp ∧ ∀ q, lib'.eligible port q → lib.eligible port q := by
  obtain ⟨rport, port', here, livePort, rest⟩ := claimRport_eq_ok.mp claimed
  obtain rfl : port' = port := Option.some.inj (livePort.symm.trans live)
  rcases rest with ⟨guard, rfl⟩ | ⟨-, found, rc, table, -, -, rfl⟩
  · exact ⟨fun eligible => guard ((Lib.eligible_iff here).mp eligible), fun q eligible => eligible⟩
  · have gone : ¬ (lib.mark pp rp port' rport table).eligible port' rp := by
      rw [Lib.eligible_iff (Arena.get_store_self _ _ _)]
      exact fun guard => owner guard.2.2
    refine ⟨gone, fun q eligible => ?_⟩
    have different : q ≠ rp := fun same => gone (same ▸ eligible)
    simpa only [Lib.mark, Lib.eligible, Arena.get_store_ne _ different] using eligible

/-- After a walk nothing is left to claim. -/
theorem attachAll_exhausted {env : Env} {pp : Ptr} {rps : List Ptr} {lib lib' : Lib} {port : PortInfo}
    (live : lib.lports.get pp = some port) (owner : port.apAdapt ≠ none)
    (attached : attachAll env pp rps lib = .ok lib') :
    (∀ rp ∈ rps, ¬ lib'.eligible port rp) ∧ ∀ q, lib'.eligible port q → lib.eligible port q := by
  induction rps generalizing lib port with
  | nil =>
      cases attached
      exact ⟨fun rp member => absurd member List.not_mem_nil, fun q eligible => eligible⟩
  | cons rp rps ih =>
      rw [attachAll, List.foldlM_cons, bind_eq_ok] at attached
      obtain ⟨mid, claimed, rest⟩ := attached
      obtain ⟨gone, less⟩ := claimRport_eligible live owner claimed
      obtain ⟨t, live'⟩ := (claimRport_framed claimed).1.lports pp
      rw [live, Option.map_some] at live'
      have after := ih live' owner rest
      refine ⟨?_, fun q eligible => less q (after.2 q eligible)⟩
      rw [List.forall_mem_cons]
      exact ⟨fun eligible => gone (after.2 rp eligible), after.1⟩

/-- A walk that finds nothing to claim changes nothing. -/
theorem attachAll_idle {env : Env} {pp : Ptr} {rps : List Ptr} {lib : Lib} {port : PortInfo}
    (live : lib.lports.get pp = some port) (liveRports : ∀ rp ∈ rps, ∃ rport, lib.rports.get rp = some rport)
    (idle : ∀ rp ∈ rps, ¬ lib.eligible port rp) : attachAll env pp rps lib = .ok lib := by
  induction rps with
  | nil => rfl
  | cons rp rps ih =>
      rw [List.forall_mem_cons] at liveRports idle
      obtain ⟨rport, here⟩ := liveRports.1
      have skipped : claimRport env pp rp lib = .ok lib := claimRport_eq_ok.mpr
        ⟨rport, port, here, live, .inl ⟨fun guard => idle.1 ((Lib.eligible_iff here).mpr guard), rfl⟩⟩
      rw [attachAll, List.foldlM_cons, skipped, ok_bind]
      exact ih liveRports.2 idle.2

/-- A mark for another remote port. -/
theorem Lib.mark_others {lib : Lib} {pp rp q : Ptr} {port rport : PortInfo} {table : SaTable Ptr}
    (other : q ≠ rp) : (lib.mark pp rp port rport table).rports.get q = lib.rports.get q :=
  Arena.get_store_ne _ other

/-- The walk finds in `rps` no remote port of `port` above the index `top`, and none at it that
    an earlier insert has made room for. -/
structure Below (lib : Lib) (port : PortInfo) (rps : List Ptr) (top : Nat) : Prop where
  nodup : rps.Nodup
  below : ∀ rp ∈ rps, lib.eligible port rp → (lib.discIndex rp).toNat ≤ top
  distinct : ∀ rp ∈ rps, ∀ rq ∈ rps, lib.eligible port rp → lib.eligible port rq →
    lib.discIndex rp = lib.discIndex rq → rp = rq
  room : port.apRports.stLimit.toNat ≤ top ∨
    ∀ rp ∈ rps, lib.eligible port rp → (lib.discIndex rp).toNat ≠ top
  empty : ∀ rp, port.apRports.stTable[top]? ≠ some (some rp)

theorem Below.tail {lib : Lib} {port : PortInfo} {rp : Ptr} {rps : List Ptr} {top : Nat}
    (held : Below lib port (rp :: rps) top) : Below lib port rps top := by
  obtain ⟨nodup, below, distinct, room, empty⟩ := held
  have later : ∀ q ∈ rps, q ∈ rp :: rps := fun q member => List.mem_cons_of_mem _ member
  exact ⟨(List.nodup_cons.mp nodup).2, fun q member => below q (later q member),
    fun q member r member' => distinct q (later q member) r (later r member'),
    room.imp_right fun none q member => none q (later q member), empty⟩

/-- One remote port of the walk. -/
theorem Below.step {env : Env} {pp rp : Ptr} {rps : List Ptr} {lib lib' : Lib} {port : PortInfo}
    {top : Nat} (held : Below lib port (rp :: rps) top) (large : 2 ^ 31 ≤ top)
    (live : lib.lports.get pp = some port) (claimed : claimRport env pp rp lib = .ok lib') :
    ∃ port', lib'.lports.get pp = some port' ∧ Below lib' port' rps top := by
  obtain ⟨rport, port', here, livePort, ⟨-, rfl⟩ | ⟨guard, found, rc, table, -, inserted, rfl⟩⟩ :=
    claimRport_eq_ok.mp claimed
  · exact ⟨port, live, held.tail⟩
  obtain rfl : port' = port := Option.some.inj (livePort.symm.trans live)
  have absent := (List.nodup_cons.mp held.nodup).1
  have eligible : lib.eligible port' rp := (Lib.eligible_iff here).mpr guard
  have index := Lib.discIndex_of_get here
  have bound := held.below rp (List.mem_cons_self ..) eligible
  rw [index] at bound
  have kept : ∀ q ∈ rps, (lib.mark pp rp port' rport table).rports.get q = lib.rports.get q :=
    fun q member => Lib.mark_others fun same => absent (same ▸ member)
  have sameIndex : ∀ q ∈ rps, (lib.mark pp rp port' rport table).discIndex q = lib.discIndex q := by
    intro q member
    rw [Lib.discIndex, Lib.discIndex, kept q member]
  have before : ∀ q ∈ rps, (lib.mark pp rp port' rport table).eligible (port'.withRports table) q →
      lib.eligible port' q := by
    intro q member
    rw [Lib.eligible_withRports, Lib.eligible_congr _ (kept q member)]
    exact id
  refine ⟨port'.withRports table, Arena.get_store_self _ _ _, ?_, ?_, ?_, ?_, ?_⟩
  · exact (List.nodup_cons.mp held.nodup).2
  · intro q member chosen
    rw [sameIndex q member]
    exact held.tail.below q member (before q member chosen)
  · intro q member r member' chosen chosen'
    rw [sameIndex q member, sameIndex r member']
    exact held.tail.distinct q member r member' (before q member chosen) (before r member' chosen')
  · rcases Nat.eq_or_lt_of_le bound with same | lower
    · -- no other remote port has the same index
      refine .inr fun q member chosen atTop => absent ?_
      rw [sameIndex q member] at atTop
      have equal : lib.discIndex q = lib.discIndex rp := by
        rw [index]
        exact UInt32.toNat_inj.mp (atTop.trans same.symm)
      rw [← held.distinct q (List.mem_cons_of_mem _ member) rp (List.mem_cons_self ..)
        (before q member chosen) eligible equal]
      exact member
    · rw [PortInfo.withRports_apRports]
      rcases SaTable.insert_limit inserted with limit | limit
      · rw [limit]
        refine held.tail.room.imp_right fun none q member chosen => ?_
        rw [sameIndex q member]
        exact none q member (before q member chosen)
      · refine .inl ?_
        have one : (1 : UInt32).toNat = 1 := rfl
        rw [limit, UInt32.toNat_add, one]
        omega
  · intro r slot
    rw [PortInfo.withRports_apRports] at slot
    rcases Nat.eq_or_lt_of_le bound with same | lower
    · have room := held.room.resolve_right fun none =>
        none rp (List.mem_cons_self ..) eligible (by rw [index, same])
      have past : port'.apRports.stLimit ≤ rport.apDiscIndex :=
        UInt32.le_iff_toNat_le.mpr (same ▸ room)
      exact held.empty r (SaTable.insert_negative past (same ▸ large) inserted slot)
    · rcases SaTable.insert_entries inserted slot with old | ⟨there, -⟩
      · exact held.empty r old
      · omega

/-- The remote port with the largest index is not entered when this reads as a negative
    number: its insert finds no slot, and the larger limit it leaves comes too late. -/
theorem attachAll_unentered {env : Env} {pp : Ptr} {rps : List Ptr} {lib lib' : Lib}
    {port port' : PortInfo} {top : Nat} (held : Below lib port rps top) (large : 2 ^ 31 ≤ top)
    (live : lib.lports.get pp = some port) (attached : attachAll env pp rps lib = .ok lib')
    (live' : lib'.lports.get pp = some port') (rp : Ptr) :
    port'.apRports.stTable[top]? ≠ some (some rp) := by
  induction rps generalizing lib port with
  | nil =>
      cases attached
      rw [live, Option.some.injEq] at live'
      exact live' ▸ held.empty rp
  | cons rp rps ih =>
      rw [attachAll, List.foldlM_cons, bind_eq_ok] at attached
      obtain ⟨mid, claimed, rest⟩ := attached
      obtain ⟨next, liveMid, held'⟩ := held.step large live claimed
      exact ih held' liveMid rest

end Hbalinux
