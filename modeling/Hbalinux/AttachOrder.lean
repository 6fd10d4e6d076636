import Hbalinux.Attachment
import Hbalinux.C.Commute

/-! # The order in which remote ports are attached

Where no two local ports have the same host and number, no remote port can be attached to two of
them.  So a call of `get_rport_info` for one and a call for another do not get in each other's
way: they can be made in either order, and neither changes what the other attaches.
-/

namespace Hbalinux

open Outcome

/-- No two local ports have the same host and number. -/
def Lib.Lonely (lib : Lib) : Prop := ∀ pp port, lib.lports.get pp = some port → lib.Alone pp port

/-- The local ports at two addresses, which have no remote ports in common. -/
def Apart (pp qq : Ptr) (lib : Lib) : Prop :=
  pp ≠ qq ∧ ∃ port other, lib.lports.get pp = some port ∧ lib.lports.get qq = some other ∧
    ¬ (other.apKernHba = port.apKernHba ∧ other.apIndex = port.apIndex)

theorem Apart.symm {pp qq : Ptr} {lib : Lib} (apart : Apart pp qq lib) : Apart qq pp lib := by
  obtain ⟨different, port, other, live, live', unlike⟩ := apart
  exact ⟨different.symm, other, port, live', live, fun same => unlike ⟨same.1.symm, same.2.symm⟩⟩

theorem Apart.framed {pp qq : Ptr} {lib lib' : Lib} (apart : Apart pp qq lib)
    (framed : Framed lib lib') : Apart pp qq lib' := by
  obtain ⟨different, port, other, live, live', unlike⟩ := apart
  obtain ⟨t, here⟩ := framed.lports pp
  obtain ⟨t', here'⟩ := framed.lports qq
  rw [live, Option.map_some] at here
  rw [live', Option.map_some] at here'
  exact ⟨different, _, _, here, here', unlike⟩

theorem Lib.Lonely.framed {lib lib' : Lib} (lonely : lib.Lonely) (framed : Framed lib lib') :
    lib'.Lonely := by
  intro pp port live
  obtain ⟨t, before⟩ := framed.lports pp
  rw [live] at before
  cases here : lib.lports.get pp with
  | none =>
      rw [here] at before
      cases before
  | some old =>
      rw [here, Option.map_some, Option.some.injEq] at before
      have alone : lib.Alone pp port := by
        rw [before]
        exact lonely pp old here
      exact framed.alone alone

theorem Lib.Lonely.apart {lib : Lib} (lonely : lib.Lonely) {pp qq : Ptr} {port other : PortInfo}
    (live : lib.lports.get pp = some port) (live' : lib.lports.get qq = some other)
    (different : pp ≠ qq) : Apart pp qq lib :=
  ⟨different, port, other, live, live', fun same =>
    different (lonely pp port live qq other live' same.1 same.2).symm⟩

theorem keeps_claimRport (env : Env) (pp qq xx rp : Ptr) :
    Keeps (Apart pp qq) (claimRport env xx rp) :=
  fun _ _ apart claimed => apart.framed (claimRport_framed claimed).1

theorem Arena.store_comm {α : Type} (h : Arena α) {p q : Nat} (different : p ≠ q) (a b : α) :
    (h.store p a).store q b = (h.store q b).store p a := by
  ext1 r
  simp only [Arena.get_store]
  by_cases first : r = p
  · rw [if_neg (first ▸ different), if_pos first, if_pos first]
  · rw [if_neg first, if_neg first]

/-- The round of the loop for `rp` finds nothing to do. -/
def Lib.Skips (lib : Lib) (pp rp : Ptr) : Prop :=
  ∃ rport port, lib.rports.get rp = some rport ∧ lib.lports.get pp = some port ∧
    ¬ (rport.apKernHba = port.apKernHba ∧ rport.apIndex = port.apIndex ∧ rport.apAdapt = none)

/-- It claims the remote port, and leaves `table`. -/
structure Lib.Marks (lib : Lib) (env : Env) (pp rp : Ptr) (port rport : PortInfo)
    (table : SaTable Ptr) : Prop where
  live : lib.rports.get rp = some rport
  livePort : lib.lports.get pp = some port
  guard : rport.apKernHba = port.apKernHba ∧ rport.apIndex = port.apIndex ∧ rport.apAdapt = none
  looked : ∃ found, saTableLookup port.apRports rport.apDiscIndex = .ok found
  inserted : ∃ rc, saTableInsert port.apRports rport.apDiscIndex (some rp)
    (env.mem (.discoveredSlot rp)) = .ok (rc, table)

theorem claimRport_iff {env : Env} {pp rp : Ptr} {s t : Lib} : claimRport env pp rp s = .ok t ↔
    (s.Skips pp rp ∧ s = t) ∨
      ∃ port rport table, s.Marks env pp rp port rport table ∧ s.mark pp rp port rport table = t := by
  rw [claimRport_eq_ok]
  constructor
  · rintro ⟨rport, port, here, live, ⟨guard, same⟩ | ⟨guard, found, rc, table, looked, inserted, same⟩⟩
    · exact .inl ⟨⟨rport, port, here, live, guard⟩, same⟩
    · exact .inr ⟨port, rport, table, ⟨here, live, guard, ⟨found, looked⟩, ⟨rc, inserted⟩⟩, same⟩
  · rintro (⟨⟨rport, port, here, live, guard⟩, same⟩ |
      ⟨port, rport, table, ⟨here, live, guard, ⟨found, looked⟩, ⟨rc, inserted⟩⟩, same⟩)
    · exact ⟨rport, port, here, live, .inl ⟨guard, same⟩⟩
    · exact ⟨rport, port, here, live, .inr ⟨guard, found, rc, table, looked, inserted, same⟩⟩

section Beside

variable {env : Env} {pp qq rp rq : Ptr} {s : Lib} {port rport : PortInfo} {table : SaTable Ptr}
  (apart : Apart pp qq s) (marks : s.Marks env pp rp port rport table)
include apart marks

theorem Lib.Marks.other : ∃ other, s.lports.get qq = some other ∧
    (s.mark pp rp port rport table).lports.get qq = some other ∧
    ¬ (rport.apKernHba = other.apKernHba ∧ rport.apIndex = other.apIndex) := by
  obtain ⟨different, port', other, live, live', unlike⟩ := apart
  obtain rfl : port' = port := Option.some.inj (live.symm.trans marks.livePort)
  refine ⟨other, live', (Arena.get_store_ne _ different.symm).trans live', fun mine => unlike ?_⟩
  exact ⟨mine.1.symm.trans marks.guard.1, mine.2.symm.trans marks.guard.2.1⟩

/-- A claim makes no difference to what there is to claim for the other local port. -/
theorem Lib.Marks.skips_iff : (s.mark pp rp port rport table).Skips qq rq ↔ s.Skips qq rq := by
  obtain ⟨other, live, live', foreign⟩ := marks.other apart
  unfold Lib.Skips
  rw [live, live']
  by_cases same : rq = rp
  · -- the remote port belongs to the first local port and not to the other
    have mark : (s.mark pp rp port rport table).rports.get rp =
        some { rport with apAdapt := port.apAdapt } := Arena.get_store_self _ _ _
    rw [same, mark, marks.live]
    exact ⟨fun _ => ⟨rport, other, rfl, rfl, fun mine => foreign ⟨mine.1, mine.2.1⟩⟩,
      fun _ => ⟨_, other, rfl, rfl, fun mine => foreign ⟨mine.1, mine.2.1⟩⟩⟩
  · rw [Lib.mark_others same]

theorem Lib.Marks.marks_iff {other rport' : PortInfo} {table' : SaTable Ptr} :
    (s.mark pp rp port rport table).Marks env qq rq other rport' table' ↔
      s.Marks env qq rq other rport' table' := by
  obtain ⟨other', live, live', foreign⟩ := marks.other apart
  have port_iff : (s.mark pp rp port rport table).lports.get qq = some other ↔
      s.lports.get qq = some other := by rw [live, live']
  by_cases same : rq = rp
  · have mark : (s.mark pp rp port rport table).rports.get rp =
        some { rport with apAdapt := port.apAdapt } := Arena.get_store_self _ _ _
    subst same
    constructor
    · rintro ⟨here, there, guard, -, -⟩
      rw [mark, Option.some.injEq] at here
      rw [live', Option.some.injEq] at there
      subst here there
      exact absurd ⟨guard.1, guard.2.1⟩ foreign
    · rintro ⟨here, there, guard, -, -⟩
      rw [marks.live, Option.some.injEq] at here
      rw [live, Option.some.injEq] at there
      subst here there
      exact absurd ⟨guard.1, guard.2.1⟩ foreign
  · have kept : (s.mark pp rp port rport table).rports.get rq = s.rports.get rq :=
      Lib.mark_others same
    constructor
    · rintro ⟨here, there, guard, looked, inserted⟩
      exact ⟨kept.symm.trans here, port_iff.mp there, guard, looked, inserted⟩
    · rintro ⟨here, there, guard, looked, inserted⟩
      exact ⟨kept.trans here, port_iff.mpr there, guard, looked, inserted⟩

theorem Lib.Marks.comm {other rport' : PortInfo} {table' : SaTable Ptr}
    (marks' : s.Marks env qq rq other rport' table') :
    (s.mark qq rq other rport' table').mark pp rp port rport table =
      (s.mark pp rp port rport table).mark qq rq other rport' table' := by
  obtain ⟨other', live, -, foreign⟩ := marks.other apart
  have different : rq ≠ rp := by
    rintro rfl
    have here := marks'.live
    have there := marks'.livePort
    rw [marks.live, Option.some.injEq] at here
    rw [live, Option.some.injEq] at there
    subst here there
    exact foreign ⟨marks'.guard.1, marks'.guard.2.1⟩
  simp only [Lib.mark]
  rw [Arena.store_comm s.rports different, Arena.store_comm s.lports apart.1.symm]

end Beside

/-- Claims for two local ports without common remote ports can be made in either order. -/
theorem commutes_claimRport (env : Env) (pp qq rp rq : Ptr) :
    Commutes (Apart pp qq) (claimRport env pp rp) (claimRport env qq rq) := by
  constructor
  · intro s t u apart first second
    rcases claimRport_iff.mp first with ⟨skips, rfl⟩ | ⟨port, rport, table, marks, rfl⟩
    · refine ⟨u, second, ?_⟩
      rcases claimRport_iff.mp second with ⟨-, rfl⟩ | ⟨other, rport', table', marks', rfl⟩
      · exact first
      · exact claimRport_iff.mpr (.inl ⟨(marks'.skips_iff apart.symm).mpr skips, rfl⟩)
    · rcases claimRport_iff.mp second with ⟨skips, rfl⟩ | ⟨other, rport', table', marks', rfl⟩
      · exact ⟨s, claimRport_iff.mpr (.inl ⟨(marks.skips_iff apart).mp skips, rfl⟩), first⟩
      · have before := (marks.marks_iff apart).mp marks'
        refine ⟨_, claimRport_iff.mpr (.inr ⟨other, rport', table', before, rfl⟩), ?_⟩
        exact claimRport_iff.mpr (.inr ⟨port, rport, table, (before.marks_iff apart.symm).mpr marks,
          marks.comm apart before⟩)
  · intro s t t' apart first second
    rcases claimRport_iff.mp first with ⟨skips, rfl⟩ | ⟨port, rport, table, marks, rfl⟩
    · refine ⟨t', second, ?_⟩
      rcases claimRport_iff.mp second with ⟨-, rfl⟩ | ⟨other, rport', table', marks', rfl⟩
      · exact first
      · exact claimRport_iff.mpr (.inl ⟨(marks'.skips_iff apart.symm).mpr skips, rfl⟩)
    · rcases claimRport_iff.mp second with ⟨skips, rfl⟩ | ⟨other, rport', table', marks', rfl⟩
      · exact ⟨_, claimRport_iff.mpr (.inl ⟨(marks.skips_iff apart).mpr skips, rfl⟩), first⟩
      · refine ⟨_, claimRport_iff.mpr (.inr ⟨other, rport', table',
          (marks.marks_iff apart).mpr marks', rfl⟩), ?_⟩
        exact claimRport_iff.mpr (.inr ⟨port, rport, table, (marks'.marks_iff apart.symm).mpr marks,
          marks.comm apart marks'⟩)

theorem commutes_attachAll (env : Env) (pp qq : Ptr) (rps rqs : List Ptr) :
    Commutes (Apart pp qq) (attachAll env pp rps) (attachAll env qq rqs) :=
  commutes_doAll_left (f := claimRport env pp)
    (fun rp _ => commutes_doAll_right (g := claimRport env qq)
      (fun rq _ => commutes_claimRport env pp qq rp rq) fun rq _ => keeps_claimRport env pp qq qq rq)
    fun rp _ => keeps_claimRport env pp qq pp rp

/-- After a call the directory counts as read. -/
theorem getRportInfo_loaded {env : Env} {pp : Ptr} {lib lib' : Lib} (inv : RportInv lib)
    (called : getRportInfo env pp lib = .ok lib') : loadRports env lib' = .ok lib' := by
  obtain ⟨loaded, load, rest⟩ := bind_eq_ok.mp called
  have inv' := loadRports_inv inv load
  rw [getRportInfo_eq load inv'.wf] at called
  by_cases idle : loaded.rportsTable.stSize = 0
  · rw [SaTable.eq_init inv'.wf idle, SaTable.entries_init] at called
    obtain rfl : loaded = lib' := Except.ok.inj called
    exact (Reread.of_load inv load).again
  · rw [loadRports, if_neg (by rw [(attachAll_framed called).2]; exact idle)]

/-- A call walks over the remote ports that are there when the directory has been read. -/
theorem getRportInfo_walks {env : Env} {a loaded : Lib} (inv : RportInv a)
    (load : loadRports env a = .ok loaded) {pp : Ptr} {c : Lib} (called : getRportInfo env pp a = .ok c)
    (qq : Ptr) : getRportInfo env qq c = attachAll env qq loaded.rportsTable.entries c := by
  have loaded' := loadRports_inv inv load
  have again := getRportInfo_loaded inv called
  rw [getRportInfo_eq load loaded'.wf] at called
  have table := (attachAll_framed called).2
  rw [getRportInfo_eq again (table ▸ loaded'.wf), table]

/-- Calls for two local ports can be made in either order. -/
theorem commutes_getRportInfo (env : Env) (pp qq : Ptr) :
    Commutes (fun s => RportInv s ∧ Apart pp qq s) (getRportInfo env pp) (getRportInfo env qq) := by
  have fromLoad : ∀ {a c : Lib}, RportInv a → Apart pp qq a → getRportInfo env pp a = .ok c →
      ∃ loaded, loadRports env a = .ok loaded ∧ Apart pp qq loaded ∧
        attachAll env pp loaded.rportsTable.entries loaded = .ok c ∧
        ∀ xx, getRportInfo env xx a = attachAll env xx loaded.rportsTable.entries loaded := by
    intro a c inv apart first
    obtain ⟨loaded, load, -⟩ := bind_eq_ok.mp first
    have walks : ∀ xx, getRportInfo env xx a = attachAll env xx loaded.rportsTable.entries loaded :=
      fun xx => getRportInfo_eq load (loadRports_inv inv load).wf
    refine ⟨loaded, load, apart.framed ?_, (walks pp).symm.trans first, walks⟩
    rw [loadRports_framed load]
    exact .of_lports_eq rfl rfl rfl
  constructor
  · rintro a c d ⟨inv, apart⟩ first second
    obtain ⟨loaded, load, apart', walk, walks⟩ := fromLoad inv apart first
    rw [getRportInfo_walks inv load first] at second
    obtain ⟨b, walk', rest⟩ := (commutes_attachAll env pp qq _ _).back loaded c d apart' walk second
    have called : getRportInfo env qq a = .ok b := (walks qq).trans walk'
    exact ⟨b, called, (getRportInfo_walks inv load called pp).trans rest⟩
  · rintro a c b ⟨inv, apart⟩ first second
    obtain ⟨loaded, load, apart', walk, walks⟩ := fromLoad inv apart first
    obtain ⟨d, walk', rest⟩ := (commutes_attachAll env pp qq _ _).forth loaded c b apart' walk
      ((walks qq).symm.trans second)
    exact ⟨d, (getRportInfo_walks inv load first qq).trans walk',
      (getRportInfo_walks inv load second pp).trans rest⟩

/-- A walk for a local port leaves remote ports of others as they are. -/
theorem attachAll_foreign {env : Env} {qq rp : Ptr} {rps : List Ptr} {a b : Lib}
    {other rport : PortInfo} (live : a.lports.get qq = some other) (here : a.rports.get rp = some rport)
    (foreign : ¬ (rport.apKernHba = other.apKernHba ∧ rport.apIndex = other.apIndex))
    (attached : attachAll env qq rps a = .ok b) : b.rports.get rp = some rport := by
  induction rps generalizing a other with
  | nil =>
      cases attached
      exact here
  | cons q rps ih =>
      rw [attachAll, List.foldlM_cons, bind_eq_ok] at attached
      obtain ⟨mid, claimed, rest⟩ := attached
      obtain ⟨table, live'⟩ := (claimRport_framed claimed).1.lports qq
      rw [live, Option.map_some] at live'
      refine ih live' ?_ foreign rest
      obtain ⟨rport', port', here', livePort, ⟨-, rfl⟩ | ⟨guard, found, rc, table, -, -, rfl⟩⟩ :=
        claimRport_eq_ok.mp claimed
      · exact here
      · obtain rfl : port' = other := Option.some.inj (livePort.symm.trans live)
        refine (Arena.get_store_ne _ fun same => foreign ?_).trans here
        rw [same, here', Option.some.injEq] at here
        exact here ▸ ⟨guard.1, guard.2.1⟩

end Hbalinux
