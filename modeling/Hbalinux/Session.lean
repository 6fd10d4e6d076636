import Hbalinux.AttachOrder
import Hbalinux.C.Paired
import Hbalinux.DiscoveredPorts
import Hbalinux.PortAttrByWwn

/-! # Sessions

The remote ports of a local port are attached by the first query that asks for them, so a query
leaves the library in another state than it found.  Where the local ports have different hosts
nobody can tell: a query is answered as it would have been first, and the state in the end does not
depend on the order of the queries.
-/

namespace Hbalinux

open Outcome

/-- `b` is `a`, or what a call for the local port at `qq` makes of it. -/
structure Ahead (env : Env) (qq : Ptr) (a b : Lib) : Prop where
  sound : a.Sound
  lonely : a.Lonely
  reached : b = a ∨ (∃ port, a.lports.get qq = some port) ∧ getRportInfo env qq a = .ok b

/-- What two states have in common for queries about the local port at `pp`. -/
structure SamePort (pp : Ptr) (a b : Lib) : Prop where
  port : b.lports.get pp = a.lports.get pp
  rports : ∀ port i rp, a.lports.get pp = some port → port.apRports.view i = some rp →
    b.rports.get rp = a.rports.get rp

theorem SamePort.refl (pp : Ptr) (a : Lib) : SamePort pp a a := ⟨rfl, fun _ _ _ _ _ => rfl⟩

/-- A call for one local port makes no difference to another. -/
theorem SamePort.of_attach {env : Env} {pp qq : Ptr} {a b : Lib} (sound : a.Sound) (lonely : a.Lonely)
    {other : PortInfo} (live : a.lports.get qq = some other) (different : pp ≠ qq)
    (read : loadRports env a = .ok a) (called : getRportInfo env qq a = .ok b) : SamePort pp a b := by
  refine ⟨getRportInfo_others different called, fun port i rp here entry => ?_⟩
  rw [getRportInfo_eq read sound.rports.wf] at called
  obtain ⟨rport, liveRport, belongs, -⟩ := sound.own pp port here i rp (SaTable.slot_of_view entry)
  rw [liveRport]
  refine attachAll_foreign live liveRport (fun mine => different ?_) called
  rw [PortInfo.belongs_iff] at belongs
  exact (lonely pp port here qq other live (mine.1.symm.trans belongs.1)
    (mine.2.symm.trans belongs.2)).symm

namespace Ahead

variable {env : Env} {pp qq : Ptr} {a b : Lib} (ahead : Ahead env qq a b)
include ahead

theorem framed : Framed a b := by
  rcases ahead.reached with rfl | ⟨-, called⟩
  · exact .refl _
  · exact getRportInfo_framed called

theorem adapterGetPort_eq (handle : HbaHandle) (index : UInt32) :
    adapterGetPort b handle index = adapterGetPort a handle index :=
  adapterGetPort_framed ahead.framed handle index

/-- The states stay related when remote ports are attached in both. -/
theorem attach {c d : Lib} (first : getRportInfo env pp a = .ok c)
    (reached : d = c ∨ (∃ port, c.lports.get qq = some port) ∧ getRportInfo env qq c = .ok d) :
    Ahead env qq c d :=
  ⟨ahead.sound.attach first, ahead.lonely.framed (getRportInfo_framed first), reached⟩

/-- Attaching the remote ports of a local port comes to the same for it in both states. -/
theorem getRportInfo {port : PortInfo} (live : a.lports.get pp = some port)
    (owner : port.apAdapt ≠ none) :
    Paired (fun c d => Ahead env qq c d ∧ SamePort pp c d) (getRportInfo env pp a)
      (Hbalinux.getRportInfo env pp b) := by
  rcases ahead.reached with rfl | ⟨⟨other, live'⟩, called⟩
  · exact .refl fun c first => ⟨ahead.attach first (.inl rfl), .refl pp c⟩
  by_cases same : pp = qq
  · subst same
    have again : Hbalinux.getRportInfo env pp b = .ok b :=
      getRportInfo_idempotent ahead.sound.rports live owner called
    rw [called, again]
    exact .ok ⟨ahead.attach called (.inl rfl), .refl pp b⟩
  have apart := ahead.lonely.apart live live' same
  have next : ∀ {c d : Lib}, Hbalinux.getRportInfo env pp a = .ok c →
      Hbalinux.getRportInfo env qq c = .ok d → Ahead env qq c d ∧ SamePort pp c d := by
    intro c d first second
    obtain ⟨t, liveOther⟩ := (getRportInfo_framed first).lports qq
    rw [live', Option.map_some] at liveOther
    have ahead' := ahead.attach first (.inr ⟨⟨_, liveOther⟩, second⟩)
    exact ⟨ahead', .of_attach ahead'.sound ahead'.lonely liveOther same
      (getRportInfo_loaded ahead.sound.rports first) second⟩
  constructor
  · intro c first
    obtain ⟨d, second, after⟩ := (commutes_getRportInfo env pp qq).forth a c b ⟨ahead.sound.rports, apart⟩ first called
    exact ⟨d, after, next first second⟩
  · intro d after
    obtain ⟨c, first, second⟩ := (commutes_getRportInfo env qq pp).back a b d
      ⟨ahead.sound.rports, apart.symm⟩ called after
    exact ⟨c, first, next first second⟩

end Ahead

/-- A lookup in a table depends on the remote ports in the table, and finds one of them. -/
structure Looks (find : Lib → SaTable Ptr → Outcome (Option Ptr)) : Prop where
  congr : ∀ a b table, (∀ i rp, table.view i = some rp → a.rports.get rp = b.rports.get rp) →
    find a table = find b table
  entry : ∀ a table rp, find a table = .ok (some rp) → ∃ i, table.view i = some rp

theorem looks_lookup (index : UInt32) : Looks fun _ table => saTableLookup table index where
  congr _ _ _ _ := rfl
  entry _ table rp found := by
    rw [saTableLookup] at found
    split at found
    · rename_i inside
      rw [SaTable.slot, demand_eq_ok] at found
      refine ⟨index.toNat, ?_⟩
      rw [SaTable.view, if_pos (UInt32.lt_iff_toNat_lt.mp inside), found, Option.join_some]
    · cases found

theorem lookupNFrom_entry {tp : SaTable Ptr} {count i : Nat} {n : UInt32} {rp : Ptr}
    (inside : i + count ≤ tp.stLimit.toNat) (found : tp.lookupNFrom count i n = .ok (some rp)) :
    ∃ j, tp.view j = some rp := by
  induction count generalizing i n with
  | zero => cases found
  | succ count ih =>
      obtain ⟨cell, read, rest⟩ := bind_eq_ok.mp found
      rw [SaTable.slot, demand_eq_ok] at read
      cases cell with
      | none => exact ih (by omega) rest
      | some ep =>
          simp only at rest
          split at rest
          · cases rest
            exact ⟨i, by rw [SaTable.view, if_pos (by omega), read, Option.join_some]⟩
          · exact ih (by omega) rest

theorem looks_lookupN (n : UInt32) : Looks fun _ table => saTableLookupN table n where
  congr _ _ _ _ := rfl
  entry _ _ _ found := lookupNFrom_entry (by omega) found

theorem looks_search (test : PortInfo → Bool) :
    Looks fun lib table => saTableSearch table (matchRport test lib) where
  congr a b table same := searchFrom_congr (fun i rp entry => by
    rw [matchRport, matchRport, Lib.rport, Lib.rport, same i rp entry]) (by omega)
  entry a table rp found := by
    have first := (searchFrom_find (by omega) found).symm
    exact SaTable.mem_entries.mp (List.mem_of_find?_eq_some first)

/-- Two lookups find the same remote port, and the states stay related. -/
def SameFound (env : Env) (qq : Ptr) (x y : Option Ptr × Lib) : Prop :=
  x.1 = y.1 ∧ Ahead env qq x.2 y.2 ∧ ∀ rp, x.1 = some rp → y.2.rports.get rp = x.2.rports.get rp

/-- Two calls give the same answer, and the states stay related. -/
def SameAnswer {α : Type} (env : Env) (qq : Ptr) (x y : α × Lib) : Prop :=
  x.1 = y.1 ∧ Ahead env qq x.2 y.2

namespace Ahead

variable {env : Env} {pp qq : Ptr} {a b : Lib} (ahead : Ahead env qq a b)
  {find : Lib → SaTable Ptr → Outcome (Option Ptr)} (looks : Looks find)
include ahead looks

theorem findRport {port : PortInfo} (live : a.lports.get pp = some port) (owner : port.apAdapt ≠ none) :
    Paired (SameFound env qq) (findRport env pp find a) (Hbalinux.findRport env pp find b) := by
  unfold Hbalinux.findRport
  refine (ahead.getRportInfo live owner).bind ?_
  rintro c d ⟨ahead', alike⟩
  rw [Lib.port, Lib.port, alike.port]
  refine .bind_same fun port here => ?_
  rw [demand_eq_ok] at here
  have same : find d port.apRports = find c port.apRports :=
    looks.congr _ _ _ fun i rp entry => alike.rports port i rp here entry
  rw [same]
  refine .bind_same fun rp found => .ok ⟨rfl, ahead', fun rp' chosen => ?_⟩
  obtain rfl : rp = some rp' := chosen
  obtain ⟨i, entry⟩ := looks.entry _ _ _ found
  exact alike.rports port i rp' here entry

theorem findRportOf (handle : HbaHandle) (port : UInt32) :
    Paired (SameFound env qq) (findRportOf env handle port find a)
      (Hbalinux.findRportOf env handle port find b) := by
  unfold Hbalinux.findRportOf
  rw [ahead.adapterGetPort_eq]
  refine .bind_same fun found opened => ?_
  cases found with
  | none => exact .ok ⟨rfl, ahead, fun _ chosen => by cases chosen⟩
  | some pp =>
      obtain ⟨⟨port', live, owner⟩, -⟩ := ahead.sound.handle_port opened
      exact ahead.findRport looks live owner

end Ahead

/-- The names of local ports are not touched. -/
theorem adapterGetPortByWwn_framed {a b : Lib} (framed : Framed a b) (handle : HbaHandle)
    (wwn : HbaWwn) : adapterGetPortByWwn b handle wwn = adapterGetPortByWwn a handle wwn := by
  have walk : ∀ (ports : SaTable Ptr) count p found,
      portByWwnFrom b wwn ports count p found = portByWwnFrom a wwn ports count p found := by
    intro ports count
    induction count with
    | zero => exact fun _ _ => rfl
    | succ count ih =>
        intro p found
        rw [portByWwnFrom, portByWwnFrom]
        refine bind_congr fun cell => ?_
        cases cell with
        | none => exact ih (p + 1) found
        | some pp =>
            obtain ⟨t, there⟩ := framed.lports pp
            simp only [Lib.port, there]
            cases a.lports.get pp with
            | none => rfl
            | some port => exact ih (p + 1) _
  unfold adapterGetPortByWwn adapterOpenHandle Lib.adapter
  simp only [framed.adapterTable, framed.adapters, walk]

section Answers

variable {env : Env} {qq : Ptr} {a b : Lib} (ahead : Ahead env qq a b)
include ahead

omit ahead in
/-- Reading the remote port that a lookup has found. -/
theorem replyPort_paired {x y : Outcome (Option Ptr × Lib)} (found : Paired (SameFound env qq) x y) :
    Paired (SameAnswer env qq) (replyPort x) (replyPort y) := by
  unfold replyPort
  refine found.bind ?_
  rintro ⟨rp, c⟩ ⟨rp', d⟩ ⟨rfl, ahead', same⟩
  cases rp with
  | none => exact .ok ⟨rfl, ahead'⟩
  | some rp =>
      simp only [Lib.rport, same rp rfl]
      exact .bind_same fun rport _ => .ok ⟨rfl, ahead'⟩

theorem onPort_paired {handle : HbaHandle} {f : Ptr → Lib → Outcome (Reply × Lib)}
    (inner : ∀ pp port, a.lports.get pp = some port → port.apAdapt ≠ none →
      Paired (SameAnswer env qq) (f pp a) (f pp b)) :
    Paired (SameAnswer env qq) (onPort handle f a) (onPort handle f b) := by
  unfold onPort
  rw [ahead.adapterGetPort_eq]
  refine .bind_same fun found opened => ?_
  cases found with
  | none => exact .ok ⟨rfl, ahead⟩
  | some pp =>
      obtain ⟨⟨port, live, owner⟩, -⟩ := ahead.sound.handle_port opened
      exact inner pp port live owner

theorem adapterGetRportAttr_paired (handle : HbaHandle) (port n : UInt32) :
    Paired (SameAnswer env qq) (adapterGetRportAttr env handle port n a)
      (adapterGetRportAttr env handle port n b) := by
  refine (ahead.findRportOf (looks_lookupN n) handle port).bind ?_
  rintro ⟨rp, c⟩ ⟨rp', d⟩ ⟨rfl, ahead', same⟩
  cases rp with
  | none => exact .ok ⟨rfl, ahead'⟩
  | some rp =>
      simp only [Lib.rport, same rp rfl]
      exact .bind_same fun rport _ => .ok ⟨rfl, ahead'⟩

omit ahead in
theorem fillEntry_congr {rp : Option Ptr} (same : ∀ q, rp = some q → b.rports.get q = a.rports.get q)
    (env : Env) (ver : UInt32) (dName : CStr) (address : ScsiAddress) (entry : HbaFcpScsiEntryV2) :
    fillEntry env ver dName address rp b entry = fillEntry env ver dName address rp a entry := by
  unfold fillEntry mappedFcpId
  cases rp with
  | none => rfl
  | some rp => simp only [Lib.rport, same rp rfl]

/-- The remote port of the context, if it has one, is the same in both states. -/
def SameContext (cp : BindingContext) (a b : Lib) : Prop :=
  ∀ rp, cp.ocRport = some rp → b.rports.get rp = a.rports.get rp

theorem mappedRport_paired {cp : BindingContext} (same : SameContext cp a b) (address : ScsiAddress) :
    Paired (fun x y => SameFound env qq x y ∧ ∀ rp, cp.ocRport = some rp → x.1 = some rp)
      (mappedRport env cp address a) (mappedRport env cp address b) := by
  unfold mappedRport
  cases mine : cp.ocRport with
  | none =>
      refine (ahead.findRportOf (looks_search _) cp.ocHandle address.port).mono fun x y found => ?_
      exact ⟨found, fun rp chosen => by cases chosen⟩
  | some rp => exact .ok ⟨⟨rfl, ahead, fun q chosen => same q (mine.trans chosen)⟩, fun _ chosen => chosen⟩

/-- The states of two walks over the SCSI devices. -/
def SameWalk (env : Env) (qq : Ptr) (x y : BindingContext × Lib) : Prop :=
  SameAnswer env qq x y ∧ SameContext x.1 x.2 y.2

omit ahead in
/-- One entry of the walk. -/
theorem getBindingTargetMapping_paired (dp : DirEnt) {x y : BindingContext × Lib}
    (walk : SameWalk env qq x y) :
    Paired (fun r s => r.1 = s.1 ∧ SameWalk env qq r.2 s.2) (getBindingTargetMapping env dp x)
      (getBindingTargetMapping env dp y) := by
  obtain ⟨cp, a⟩ := x
  obtain ⟨cp', b⟩ := y
  obtain ⟨⟨rfl, ahead⟩, same⟩ := walk
  have skip : SameWalk env qq (cp, a) (cp, b) := ⟨⟨rfl, ahead⟩, same⟩
  unfold getBindingTargetMapping
  simp only
  split
  · exact .ok ⟨rfl, skip⟩
  split
  · exact .ok ⟨rfl, skip⟩
  split
  · refine .bind_same fun before _ => (mappedRport_paired ahead same _).bind ?_
    rintro ⟨rp, c⟩ ⟨rp', d⟩ ⟨⟨rfl, ahead', found⟩, own⟩
    rw [fillEntry_congr found]
    refine .bind_same fun filled _ => .ok ⟨rfl, ⟨rfl, ahead'⟩, fun q chosen => ?_⟩
    exact found q (own q chosen)
  · exact .ok ⟨rfl, ⟨rfl, ahead⟩, same⟩

theorem walk_paired {cp : BindingContext} (same : SameContext cp a b) :
    Paired (SameWalk env qq)
      (Except.map Prod.snd (saDirRead env.sysfs sysfsLunDir (getBindingTargetMapping env) (cp, a)))
      (Except.map Prod.snd (saDirRead env.sysfs sysfsLunDir (getBindingTargetMapping env) (cp, b))) := by
  rw [saDirRead_state, saDirRead_state]
  have start : SameWalk env qq (cp, a) (cp, b) := ⟨⟨rfl, ahead⟩, same⟩
  exact (Paired.untilNonzero start fun dp _ _ _ => getBindingTargetMapping_paired dp).map
    fun _ _ related => related.2

theorem readMapping_paired {cp : BindingContext} (free : cp.ocRport = none) :
    Paired (SameAnswer env qq) (readMapping env cp a) (readMapping env cp b) := by
  refine .bind_same fun entries _ => ?_
  have same : SameContext { cp with ocEntries := entries } a b := fun rp chosen => by
    cases free.symm.trans chosen
  refine (walk_paired ahead same).bind ?_
  rintro ⟨cp', c⟩ ⟨cp'', d⟩ ⟨⟨rfl, ahead'⟩, -⟩
  exact .ok ⟨rfl, ahead'⟩

theorem getBindingTargetMappingV1_paired (handle : HbaHandle)
    (map : HbaFcpTargetMapping HbaFcpScsiEntry) :
    Paired (SameAnswer env qq) (getBindingTargetMappingV1 env handle map a)
      (getBindingTargetMappingV1 env handle map b) := by
  have opened : adapterOpenHandle b handle = adapterOpenHandle a handle := by
    rw [adapterOpenHandle, ahead.framed.adapterTable]
    rfl
  unfold getBindingTargetMappingV1
  rw [opened]
  refine .bind_same fun found _ => ?_
  cases found with
  | none => exact .ok ⟨rfl, ahead⟩
  | some ap =>
      simp only [Lib.adapter, ahead.framed.adapters]
      refine .bind_same fun adapter _ => (readMapping_paired ahead rfl).bind ?_
      rintro ⟨answer, c⟩ ⟨answer', d⟩ ⟨rfl, ahead'⟩
      exact .ok ⟨rfl, ahead'⟩

theorem getBindingTargetMappingV2_paired (handle : HbaHandle) (wwn : HbaWwn)
    (map : HbaFcpTargetMapping HbaFcpScsiEntryV2) :
    Paired (SameAnswer env qq) (getBindingTargetMappingV2 env handle wwn map a)
      (getBindingTargetMappingV2 env handle wwn map b) := by
  unfold getBindingTargetMappingV2
  rw [adapterGetPortByWwn_framed ahead.framed]
  refine .bind_same fun found _ => ?_
  obtain ⟨found, count⟩ := found
  cases found with
  | none => exact .ok ⟨rfl, ahead⟩
  | some pp =>
      obtain ⟨t, there⟩ := ahead.framed.lports pp
      simp only [Lib.port, there]
      cases a.lports.get pp with
      | none => exact .error _ _
      | some port =>
          simp only [Option.map_some, demand_some, ok_bind]
          cases port.apAdapt with
          | none => exact .ok ⟨rfl, ahead⟩
          | some ap =>
              simp only [Lib.adapter, ahead.framed.adapters]
              exact .bind_same fun adapter _ => readMapping_paired ahead rfl

theorem getBindingSgName_paired {pp : Ptr} {port : PortInfo} (live : a.lports.get pp = some port)
    (owner : port.apAdapt ≠ none) (wwn : HbaWwn) (lun : UInt64) (len : Nat) :
    Paired (SameAnswer env qq) (getBindingSgName env pp wwn lun len a)
      (getBindingSgName env pp wwn lun len b) := by
  refine (ahead.findRport (looks_search _) live owner).bind ?_
  rintro ⟨rp, c⟩ ⟨rp', d⟩ ⟨rfl, ahead', same⟩
  cases rp with
  | none => exact .ok ⟨rfl, ahead'⟩
  | some rp =>
      simp only [Lib.rport, same rp rfl]
      refine .bind_same fun rport _ => ?_
      split
      · exact .ok ⟨rfl, ahead'⟩
      · refine (walk_paired ahead' (show SameContext (sgContext rp rport lun) c d from same)).bind ?_
        rintro ⟨cp, c'⟩ ⟨cp', d'⟩ ⟨⟨rfl, ahead''⟩, -⟩
        simp only
        split
        · exact .ok ⟨rfl, ahead''⟩
        · exact .ok ⟨rfl, ahead''⟩

/-- A query is answered in both states or in none, in the same way. -/
theorem ask_paired (query : Query) :
    Paired (SameAnswer env qq) (query.ask env a) (query.ask env b) := by
  cases query with
  | rport handle port index =>
      exact replyPort_paired (ahead.findRportOf (looks_lookup index) handle port)
  | rportAttr handle port n =>
      exact (adapterGetRportAttr_paired ahead handle port n).map fun x y same =>
        ⟨congrArg Reply.attr same.1, same.2⟩
  | rportTarget handle port target =>
      exact replyPort_paired (ahead.findRportOf (looks_search _) handle port)
  | rportByWwn handle wwn =>
      simp only [Query.ask]
      exact onPort_paired ahead fun pp port live owner =>
        replyPort_paired (ahead.findRport (looks_search _) live owner)
  | rportByFcid handle fcid =>
      simp only [Query.ask]
      exact onPort_paired ahead fun pp port live owner =>
        replyPort_paired (ahead.findRport (looks_search _) live owner)
  | mappingV1 handle map =>
      exact (getBindingTargetMappingV1_paired ahead handle map).map fun x y same =>
        ⟨congrArg Reply.mappingV1 same.1, same.2⟩
  | mappingV2 handle wwn map =>
      exact (getBindingTargetMappingV2_paired ahead handle wwn map).map fun x y same =>
        ⟨congrArg Reply.mappingV2 same.1, same.2⟩
  | sgName handle wwn lun len =>
      simp only [Query.ask]
      exact onPort_paired ahead fun pp port live owner =>
        (getBindingSgName_paired ahead live owner wwn lun len).map fun x y same =>
          ⟨congrArg Reply.sgName same.1, same.2⟩

end Answers

theorem Framed.symm {a b : Lib} (framed : Framed a b) : Framed b a := by
  refine ⟨framed.adapterTable.symm, framed.adapters.symm, fun q => ?_⟩
  obtain ⟨t, there⟩ := framed.lports q
  rw [there]
  cases a.lports.get q with
  | none => exact ⟨saTableInit, rfl⟩
  | some port => exact ⟨port.apRports, rfl⟩

/-- Attaching remote ports does not change which ones a query asks for. -/
theorem Query.CallsFor.framed {env : Env} {a b : Lib} {query : Query} {pp : Ptr}
    (calls : query.CallsFor env a pp) (framed : Framed a b) : query.CallsFor env b pp := by
  have ports : ∀ handle index, adapterGetPort b handle index = adapterGetPort a handle index :=
    adapterGetPort_framed framed
  have opens : ∀ handle, adapterOpenHandle b handle = adapterOpenHandle a handle := by
    intro handle
    rw [adapterOpenHandle, framed.adapterTable]
    rfl
  cases query with
  | rport | rportAttr | rportTarget | rportByWwn | rportByFcid | sgName =>
      rw [CallsFor] at calls ⊢
      rw [ports]
      exact calls
  | mappingV1 handle map =>
      obtain ⟨ap, adapter, opened, live, looks⟩ := calls
      refine ⟨ap, adapter, (opens handle).trans opened, framed.adapters ▸ live, ?_⟩
      simpa only [BindingContext.LooksUp, ports] using looks
  | mappingV2 handle wwn map =>
      obtain ⟨q, count, port, ap, adapter, found, livePort, owner, live, looks⟩ := calls
      obtain ⟨t, there⟩ := framed.lports q
      rw [livePort, Option.map_some] at there
      refine ⟨q, count, _, ap, adapter, (adapterGetPortByWwn_framed framed handle wwn).trans found,
        there, owner, framed.adapters ▸ live, ?_⟩
      simpa only [BindingContext.LooksUp, ports] using looks

/-- What makes queries independent of each other. -/
structure Lib.Steady (lib : Lib) : Prop where
  sound : lib.Sound
  lonely : lib.Lonely

section Ask

variable {env : Env} {query : Query} {s t : Lib} {reply : Reply} (steady : s.Steady)
  (asked : query.ask env s = .ok (reply, t))
include steady asked

theorem Lib.Steady.ahead : ∃ qq, Ahead env qq s t := by
  rcases ask_state steady.sound asked with ⟨pp, calls, called⟩ | ⟨-, rfl⟩
  · obtain ⟨port, live, -⟩ := calls.port steady.sound
    exact ⟨pp, steady.sound, steady.lonely, .inr ⟨⟨port, live⟩, called⟩⟩
  · exact ⟨0, steady.sound, steady.lonely, .inl rfl⟩

theorem Lib.Steady.ask : t.Steady := by
  rcases ask_state steady.sound asked with ⟨pp, -, called⟩ | ⟨-, rfl⟩
  · exact ⟨steady.sound.attach called, steady.lonely.framed (getRportInfo_framed called)⟩
  · exact steady

/-- Another query is answered after this one as it is before it. -/
theorem Lib.Steady.ask_paired (other : Query) :
    Paired (fun x y => x.1 = y.1) (other.ask env s) (other.ask env t) := by
  obtain ⟨qq, ahead⟩ := steady.ahead asked
  exact (Hbalinux.ask_paired ahead other).mono fun _ _ same => same.1

end Ask

/-- What a query does to the state. -/
def Query.act (env : Env) (query : Query) (lib : Lib) : Outcome Lib :=
  Except.map Prod.snd (query.ask env lib)

theorem Query.act_eq_ok {env : Env} {query : Query} {s t : Lib} :
    query.act env s = .ok t ↔ ∃ reply, query.ask env s = .ok (reply, t) := by
  rw [Query.act, map_eq_ok]
  constructor
  · rintro ⟨⟨reply, t'⟩, asked, rfl⟩
    exact ⟨reply, asked⟩
  · rintro ⟨reply, asked⟩
    exact ⟨_, asked, rfl⟩

/-- Two queries leave the same state in either order. -/
theorem Lib.Steady.act_comm {env : Env} {q q' : Query} {s t t' u u' : Lib} (steady : s.Steady)
    (first : q.act env s = .ok t) (second : q'.act env t = .ok u) (first' : q'.act env s = .ok t')
    (second' : q.act env t' = .ok u') : u' = u := by
  obtain ⟨r, first⟩ := Query.act_eq_ok.mp first
  obtain ⟨r', second⟩ := Query.act_eq_ok.mp second
  obtain ⟨x, first'⟩ := Query.act_eq_ok.mp first'
  obtain ⟨x', second'⟩ := Query.act_eq_ok.mp second'
  have framed : Framed s t := (ask_attaches first).framed
  have framed' : Framed s t' := (ask_attaches first').framed
  rcases ask_state steady.sound first with ⟨pp, calls, called⟩ | ⟨none, rfl⟩
  · rcases ask_state steady.sound first' with ⟨qq, calls', called'⟩ | ⟨none', rfl⟩
    · obtain ⟨port, live, owner⟩ := calls.port steady.sound
      obtain ⟨other, live', owner'⟩ := calls'.port steady.sound
      -- each query calls for the same local port in both orders
      have third : getRportInfo env qq t = .ok u := by
        rcases ask_state (steady.ask first).sound second with ⟨xx, also, called⟩ | ⟨none, -⟩
        · rwa [(steady.ask first).sound.callsFor_unique (calls'.framed framed) also]
        · exact absurd (calls'.framed framed) (none qq)
      have fourth : getRportInfo env pp t' = .ok u' := by
        rcases ask_state (steady.ask first').sound second' with ⟨xx, also, called⟩ | ⟨none, -⟩
        · rwa [(steady.ask first').sound.callsFor_unique (calls.framed framed') also]
        · exact absurd (calls.framed framed') (none pp)
      by_cases same : pp = qq
      · subst same
        obtain rfl : t = t' := Except.ok.inj (called.symm.trans called')
        exact Except.ok.inj (fourth.symm.trans third)
      · obtain ⟨b, before, after⟩ := (commutes_getRportInfo env pp qq).back s t u
          ⟨steady.sound.rports, steady.lonely.apart live live' same⟩ called third
        obtain rfl : t' = b := Except.ok.inj (called'.symm.trans before)
        exact Except.ok.inj (fourth.symm.trans after)
    · -- the second query calls for nothing
      rw [first, Except.ok.injEq, Prod.mk.injEq] at second'
      rcases ask_state (steady.ask first).sound second with ⟨qq, calls', -⟩ | ⟨-, rfl⟩
      · exact absurd (calls'.framed framed.symm) (none' qq)
      · exact second'.2.symm
  · rw [first', Except.ok.injEq, Prod.mk.injEq] at second
    rcases ask_state (steady.ask first').sound second' with ⟨pp, calls, -⟩ | ⟨-, rfl⟩
    · exact absurd (calls.framed framed'.symm) (none pp)
    · exact second.2

theorem commutes_act (env : Env) (q q' : Query) :
    Commutes Lib.Steady (q.act env) (q'.act env) := by
  constructor
  · intro s t u steady first second
    obtain ⟨r, asked⟩ := Query.act_eq_ok.mp first
    obtain ⟨r', asked'⟩ := Query.act_eq_ok.mp second
    obtain ⟨⟨x, t'⟩, before, -⟩ := (steady.ask_paired asked q').back _ asked'
    obtain ⟨⟨x', u'⟩, after, -⟩ := (steady.ask_paired before q).forth _ asked
    have first' : q'.act env s = .ok t' := Query.act_eq_ok.mpr ⟨x, before⟩
    have second' : q.act env t' = .ok u' := Query.act_eq_ok.mpr ⟨x', after⟩
    exact ⟨t', first', steady.act_comm first second first' second' ▸ second'⟩
  · intro s t t' steady first first'
    obtain ⟨r, asked⟩ := Query.act_eq_ok.mp first
    obtain ⟨x, before⟩ := Query.act_eq_ok.mp first'
    obtain ⟨⟨r', u⟩, asked', -⟩ := (steady.ask_paired asked q').forth _ before
    obtain ⟨⟨x', u'⟩, after, -⟩ := (steady.ask_paired before q).forth _ asked
    have second : q'.act env t = .ok u := Query.act_eq_ok.mpr ⟨r', asked'⟩
    have second' : q.act env t' = .ok u' := Query.act_eq_ok.mpr ⟨x', after⟩
    exact ⟨u, second, steady.act_comm first second first' second' ▸ second'⟩

theorem keeps_act (env : Env) (query : Query) : Keeps Lib.Steady (query.act env) := by
  intro s t steady acted
  obtain ⟨reply, asked⟩ := Query.act_eq_ok.mp acted
  exact steady.ask asked

/-- The state after a session. -/
theorem asks_state (env : Env) (queries : List Query) (s : Lib) :
    Except.map Prod.snd (asks env queries s) = doAll (Query.act env) queries s := by
  induction queries generalizing s with
  | nil => rfl
  | cons query queries ih =>
      rw [asks, doAll, List.foldlM_cons, Query.act]
      cases query.ask env s with
      | error fault => rfl
      | ok r =>
          simp only [ok_bind, Except.map]
          rw [← doAll, ← ih r.2]
          cases asks env queries r.2 with
          | error fault => rfl
          | ok rest => rfl

/-- A session is answered as if each of its queries were asked first. -/
theorem Lib.Steady.asks_iff {env : Env} {lib : Lib} (steady : lib.Steady) (queries : List Query)
    (replies : List Reply) : (∃ last, asks env queries lib = .ok (replies, last)) ↔
      List.Forall₂ (fun query reply => ∃ last, query.ask env lib = .ok (reply, last))
        queries replies := by
  refine Paired.session (R := fun s => s.Steady ∧ ∀ query : Query,
    Paired (fun x y => x.1 = y.1) (query.ask env lib) (query.ask env s)) (fun _ => rfl)
    (fun _ _ _ => rfl) ?_ ⟨steady, fun _ => .refl fun _ _ => rfl⟩ queries replies
  rintro query s ⟨here, same⟩
  refine (same query).strengthen fun x y _ asked reply => ⟨reply, here.ask asked, fun other => ?_⟩
  exact ((same other).trans (here.ask_paired asked other)).mono fun _ _ both =>
    both.elim fun _ both => both.1.trans both.2

/-- A library that has been loaded from different hosts is in such a state. -/
theorem lonely_of_load {env : Env} {lib : Lib} (distinct : DistinctHosts env)
    (few : FewAdapters env .init) (loaded : loadLibrary env .init = .ok lib) : lib.Lonely :=
  fun _ _ live => loadLibrary_alone few loaded distinct live

theorem lonely_small : (loadedState smallSystem).Lonely :=
  lonely_of_load (by decide +kernel) (fewAdapters_of_length SaTable.wf_init (by decide +kernel))
    loadLibrary_small

/-- Two queries for the remote port of the sample system. -/
def smallQueries : List Query := [.rport 0x100 0 1, .rportAttr 0x100 0 0]

theorem asks_small : ∃ replies last,
    asks smallSystem smallQueries (loadedState smallSystem) = .ok (replies, last) := by
  have defined : (asks smallSystem smallQueries (loadedState smallSystem)).toOption.isSome := by
    decide +kernel
  obtain ⟨answer, asked⟩ : ∃ answer,
      asks smallSystem smallQueries (loadedState smallSystem) = .ok answer :=
    ⟨_, eq_ok_getD defined ([], .init)⟩
  exact ⟨answer.1, answer.2, asked⟩

theorem lonely_twin : (loadedState twinSystem).Lonely :=
  lonely_of_load (by decide +kernel) fewAdapters_twin loadLibrary_twin

/-- Queries for the remote ports of both of two hosts. -/
def twinQueries : List Query := [.rport 0x100 0 1, .rportAttr 0x101 0 0, .rportAttr 0x100 0 1]

theorem asks_twin : ∃ replies last,
    asks twinSystem twinQueries (loadedState twinSystem) = .ok (replies, last) := by
  have defined : (asks twinSystem twinQueries (loadedState twinSystem)).toOption.isSome := by
    decide +kernel
  obtain ⟨answer, asked⟩ : ∃ answer,
      asks twinSystem twinQueries (loadedState twinSystem) = .ok answer :=
    ⟨_, eq_ok_getD defined ([], .init)⟩
  exact ⟨answer.1, answer.2, asked⟩

/-- Where the local ports have different hosts, a session in whatever state the library has reached
    is answered as if each of its queries were asked first. -/
theorem session_stateless {allowed : Env → Prop} {env : Env} {lib : Lib}
    (reachable : Reachable allowed lib) (lonely : lib.Lonely) (queries : List Query)
    (replies : List Reply) :
    (∃ last, asks env queries lib = .ok (replies, last)) ↔
      List.Forall₂ (fun query reply => ∃ last, query.ask env lib = .ok (reply, last))
        queries replies :=
  Lib.Steady.asks_iff ⟨.of_reachable reachable, lonely⟩ queries replies

theorem session_stateless_small : ∃ replies last,
    asks twinSystem twinQueries (loadedState twinSystem) = .ok (replies, last) ∧
      List.Forall₂ (fun query reply =>
        ∃ last, query.ask twinSystem (loadedState twinSystem) = .ok (reply, last))
        twinQueries replies := by
  obtain ⟨replies, last, asked⟩ := asks_twin
  exact ⟨replies, last, asked,
    (session_stateless reachable_twin lonely_twin twinQueries replies).mp ⟨last, asked⟩⟩

/-- Nor does the order of the queries matter: the replies move with their queries, and the library
    is left in the same state. -/
theorem session_reorders {allowed : Env → Prop} {env : Env} {lib last : Lib}
    (reachable : Reachable allowed lib) (lonely : lib.Lonely) {queries queries' : List Query}
    {replies : List Reply} (perm : queries.Perm queries')
    (asked : asks env queries lib = .ok (replies, last)) :
    ∃ replies', asks env queries' lib = .ok (replies', last) ∧
      (queries.zip replies).Perm (queries'.zip replies') := by
  have steady : lib.Steady := ⟨.of_reachable reachable, lonely⟩
  obtain ⟨replies', alone, zip⟩ :=
    forall₂_reorder ((steady.asks_iff queries replies).mp ⟨last, asked⟩) perm
  obtain ⟨last', asked'⟩ := (steady.asks_iff queries' replies').mpr alone
  have state : doAll (Query.act env) queries lib = .ok last := by
    rw [← asks_state, asked]
    rfl
  have state' : doAll (Query.act env) queries' lib = .ok last' := by
    rw [← asks_state, asked']
    rfl
  have same := doAll_perm perm (fun q _ q' _ => commutes_act env q q')
    (fun q _ => keeps_act env q) steady state
  obtain rfl : last' = last := Except.ok.inj (state'.symm.trans same)
  exact ⟨replies', asked', zip⟩

theorem session_reorders_small : ∃ replies replies' last,
    asks twinSystem twinQueries (loadedState twinSystem) = .ok (replies, last) ∧
      asks twinSystem twinQueries.reverse (loadedState twinSystem) = .ok (replies', last) ∧
      (twinQueries.zip replies).Perm (twinQueries.reverse.zip replies') := by
  obtain ⟨replies, last, asked⟩ := asks_twin
  obtain ⟨replies', again, zip⟩ := session_reorders reachable_twin lonely_twin
    (List.reverse_perm twinQueries).symm asked
  exact ⟨replies, replies', last, asked, again, zip⟩

end Hbalinux
