import Hbalinux.PoolEffect

/-! # What queries want

Whether a query needs remote ports, and of which host, can be told from what a client knows of the
adapters and from the directory of SCSI devices.
-/

namespace Hbalinux

open Outcome

/-- What a client may know of an adapter before it looks at remote ports. -/
structure AdapterId where
  kernHba : UInt32
  portWwn : HbaWwn

/-- A remote port of the host with a number. -/
def ofHost (kernHba : UInt32) (rport : PortInfo) : Bool :=
  rport.apKernHba = kernHba ∧ rport.apIndex = 0

/-- A mapping with room for so many of the SCSI devices has one whose remote port is looked up. -/
def mapsRports (env : Env) (test : ScsiAddress → Bool) (limit : UInt32) : Bool :=
  ((scsiDevices env.sysfs test).take limit.toNat).any fun device => device.2.port = 0

def Query.handle : Query → HbaHandle
  | .rport handle _ _ | .rportAttr handle _ _ | .rportTarget handle _ _ => handle
  | .rportByWwn handle _ | .rportByFcid handle _ | .sgName handle _ _ _ => handle
  | .mappingV1 handle _ | .mappingV2 handle _ _ => handle

/-- To answer the query for this adapter its remote ports are needed. -/
def Query.needs (env : Env) (id : AdapterId) : Query → Bool
  | .rport _ port _ | .rportAttr _ port _ | .rportTarget _ port _ => port = 0
  | .rportByWwn .. | .rportByFcid .. | .sgName .. => true
  | .mappingV1 _ map => mapsRports env (fun address => address.hba = id.kernHba) map.numberOfEntries
  | .mappingV2 _ wwn map => id.portWwn = wwn ∧ mapsRports env (fun address =>
      address.hba = id.kernHba ∧ address.port = 0) map.numberOfEntries

/-- The host whose remote ports are needed. -/
def Query.wants (env : Env) (ids : HbaHandle → Option AdapterId) (query : Query) : Option UInt32 :=
  ((ids query.handle).filter fun id => query.needs env id).map AdapterId.kernHba

def Lib.adapterId (lib : Lib) (handle : HbaHandle) : Option AdapterId := do
  let ap ← (adapterOpenHandle lib handle).toOption.join
  let adapter ← lib.adapters.get ap
  let pp ← adapter.adPorts.view 0
  let port ← lib.lports.get pp
  some ⟨adapter.adKernIndex, port.apAttr.portWwn⟩

theorem Lib.adapterId_closed {lib : Lib} {handle : HbaHandle}
    (closed : adapterOpenHandle lib handle = .ok none) : lib.adapterId handle = none := by
  rw [Lib.adapterId, closed]
  rfl

section Slot

variable {lib : Lib} {i : Nat} {ap pp : Ptr} {adapter : AdapterInfo} {port : PortInfo}
  (slot : lib.Slot i ap pp adapter port)
include slot

theorem Lib.Slot.onlyEntry : adapter.adPorts.view 0 = some pp := by
  rw [slot.owns.ports]
  rfl

theorem Lib.Slot.belongs_eq : port.belongs = ofHost adapter.adKernIndex := by
  funext rport
  rw [PortInfo.belongs, ofHost, slot.host, slot.portIndex]

theorem Lib.Slot.adapterId_eq {handle : HbaHandle} (opened : adapterOpenHandle lib handle = .ok (some ap)) :
    lib.adapterId handle = some ⟨adapter.adKernIndex, port.apAttr.portWwn⟩ := by
  simp only [Lib.adapterId, opened, Except.toOption, Option.join_some, Option.bind_eq_bind,
    Option.bind_some, slot.owns.live, slot.onlyEntry, slot.owns.livePort]

/-- The walk over the SCSI devices needs remote ports of the only local port, or none. -/
theorem Lib.Slot.looksUp_iff {env : Env} {cp : BindingContext}
    (opened : adapterOpenHandle lib cp.ocHandle = .ok (some ap)) (first : cp.ocCount = 0)
    (few : (scsiDevices env.sysfs cp.accepts).length < 2 ^ 32) (qq : Ptr) :
    cp.LooksUp lib qq (env.sysfs.listing sysfsLunDir) ↔
      mapsRports env cp.accepts cp.ocLimit = true ∧ qq = pp := by
  have number : ∀ k < (scsiDevices env.sysfs cp.accepts).length,
      (cp.ocCount + UInt32.ofNat k).toNat = k := by
    intro k below
    rw [first, UInt32.zero_add, UInt32.toNat_ofNat', Nat.mod_eq_of_lt (by omega)]
  rw [BindingContext.LooksUp, mapsRports, List.any_eq_true]
  constructor
  · rintro ⟨k, device, here, below, found⟩
    rw [slot.adapterGetPort_eq opened, Except.ok.injEq] at found
    have inside : k < (scsiDevices env.sysfs cp.accepts).length := (List.getElem?_eq_some_iff.mp here).1
    rw [UInt32.lt_iff_toNat_lt, number k inside] at below
    split at found
    · rename_i zero
      refine ⟨⟨device, List.mem_iff_getElem?.mpr ⟨k, ?_⟩, decide_eq_true zero⟩, (Option.some.inj found).symm⟩
      rw [List.getElem?_take_of_lt below]
      exact here
    · cases found
  · rintro ⟨⟨device, member, zero⟩, rfl⟩
    obtain ⟨k, here⟩ := List.mem_iff_getElem?.mp member
    have below := (List.getElem?_eq_some_iff.mp here).1
    rw [List.length_take, Nat.lt_min] at below
    rw [List.getElem?_take_of_lt below.1] at here
    refine ⟨k, device, here, ?_, ?_⟩
    · rw [UInt32.lt_iff_toNat_lt, number k below.2]
      exact below.1
    · rw [slot.adapterGetPort_eq opened, if_pos (of_decide_eq_true zero)]

section CallsFor

variable {env : Env} (few : FewDevices env)
include few

theorem Lib.Slot.callsForV1_iff {handle : HbaHandle}
    (opened : adapterOpenHandle lib handle = .ok (some ap)) (map : HbaFcpTargetMapping HbaFcpScsiEntry)
    (qq : Ptr) : (Query.mappingV1 handle map).CallsFor env lib qq ↔
      mapsRports env (fun address => address.hba = adapter.adKernIndex) map.numberOfEntries = true ∧
        qq = pp := by
  have looks : (mappingContext handle adapter.adKernIndex anyPart 1 map.numberOfEntries
      (map.entry.map HbaFcpScsiEntry.widen)).LooksUp lib qq (env.sysfs.listing sysfsLunDir) ↔ _ :=
    slot.looksUp_iff opened rfl (few.test _) qq
  rw [mappingContext_accepts] at looks
  refine Iff.trans ⟨?_, fun found => ⟨ap, adapter, opened, slot.owns.live, found⟩⟩ looks
  rintro ⟨ap', adapter', opened', live, found⟩
  rw [opened, Except.ok.injEq, Option.some.injEq] at opened'
  subst opened'
  rw [slot.owns.live, Option.some.injEq] at live
  exact live ▸ found

theorem Lib.Slot.callsForV2_iff {handle : HbaHandle}
    (opened : adapterOpenHandle lib handle = .ok (some ap)) (wwn : HbaWwn)
    (map : HbaFcpTargetMapping HbaFcpScsiEntryV2) (qq : Ptr) :
    (Query.mappingV2 handle wwn map).CallsFor env lib qq ↔
      port.apAttr.portWwn = wwn ∧ mapsRports env (fun address =>
        address.hba = adapter.adKernIndex ∧ address.port = 0) map.numberOfEntries = true ∧ qq = pp := by
  have looks : (mappingContext handle adapter.adKernIndex 0 2 map.numberOfEntries map.entry).LooksUp
      lib qq (env.sysfs.listing sysfsLunDir) ↔ _ :=
    slot.looksUp_iff opened rfl (few.test _) qq
  rw [mappingContext_accepts_port handle _ _ _ _ (by decide)] at looks
  refine Iff.trans ?_ (and_congr_right fun _ => looks)
  constructor
  · rintro ⟨q, count, port', ap', adapter', found, livePort, owner, live, looked⟩
    rw [slot.adapterGetPortByWwn_eq opened] at found
    split at found
    · rename_i named
      cases found
      rw [slot.owns.livePort, Option.some.injEq] at livePort
      subst livePort
      rw [slot.owns.owner, Option.some.injEq] at owner
      subst owner
      rw [slot.owns.live, Option.some.injEq] at live
      subst live
      rw [slot.portIndex] at looked
      exact ⟨named, looked⟩
    · cases found
  · rintro ⟨named, looked⟩
    refine ⟨pp, 1, port, ap, adapter, ?_, slot.owns.livePort, slot.owns.owner, slot.owns.live, ?_⟩
    · rw [slot.adapterGetPortByWwn_eq opened, if_pos named]
    · rw [slot.portIndex]
      exact looked

/-- A query calls for the only local port of its adapter, when it needs remote ports. -/
theorem Lib.Slot.callsFor_iff {query : Query}
    (opened : adapterOpenHandle lib query.handle = .ok (some ap)) (qq : Ptr) :
    query.CallsFor env lib qq ↔
      query.needs env ⟨adapter.adKernIndex, port.apAttr.portWwn⟩ = true ∧ qq = pp := by
  have found : ∀ index, adapterGetPort lib query.handle index =
      .ok (if index = 0 then some pp else none) := slot.adapterGetPort_eq opened
  cases query with
  | rport handle index _ | rportAttr handle index _ | rportTarget handle index _ =>
      refine (Eq.congr_left (found index)).trans ?_
      rw [Except.ok.injEq, Query.needs, decide_eq_true_eq]
      by_cases zero : index = 0
      · rw [if_pos zero, Option.some.injEq, and_iff_right zero, eq_comm]
      · rw [if_neg zero]
        exact iff_of_false nofun fun both => zero both.1
  | rportByWwn | rportByFcid | sgName =>
      refine (Eq.congr_left (found 0)).trans ?_
      rw [if_pos rfl, Except.ok.injEq, Option.some.injEq, Query.needs, and_iff_right rfl, eq_comm]
  | mappingV1 handle map => exact slot.callsForV1_iff few opened map qq
  | mappingV2 handle wwn map =>
      rw [Query.needs, decide_eq_true_eq, and_assoc]
      exact slot.callsForV2_iff few opened wwn map qq

end CallsFor

end Slot

/-- A query with a handle that is not open calls for nothing. -/
theorem Query.callsFor_closed {env : Env} {lib : Lib} {query : Query}
    (closed : adapterOpenHandle lib query.handle = .ok none) (pp : Ptr) : ¬ query.CallsFor env lib pp := by
  have noPort : ∀ index, adapterGetPort lib query.handle index = .ok none := by
    intro index
    rw [adapterGetPort, closed]
    rfl
  intro calls
  cases query with
  | rport | rportAttr | rportTarget | rportByWwn | rportByFcid | sgName =>
      cases (noPort _).symm.trans calls
  | mappingV1 handle map =>
      obtain ⟨ap, adapter, opened, -⟩ := calls
      cases closed.symm.trans opened
  | mappingV2 handle wwn map =>
      obtain ⟨q, count, port, ap, adapter, found, -⟩ := calls
      rw [adapterGetPortByWwn, show adapterOpenHandle lib handle = .ok none from closed] at found
      cases found

/-- A query wants the remote ports of the host of the local port that it calls for. -/
theorem Query.wants_cases {env : Env} {lib : Lib} (inv : AdapterInv lib) (few : FewDevices env)
    (query : Query) :
    (query.wants env lib.adapterId = none ∧ ∀ pp, ¬ query.CallsFor env lib pp) ∨
      ∃ kern pp port, query.wants env lib.adapterId = some kern ∧
        (∀ qq, query.CallsFor env lib qq ↔ qq = pp) ∧ lib.lports.get pp = some port ∧
        port.belongs = ofHost kern := by
  rcases inv.opened_cases query.handle with closed | ⟨i, ap, pp, adapter, port, opened, slot⟩
  · refine .inl ⟨?_, Query.callsFor_closed closed⟩
    rw [Query.wants, Lib.adapterId_closed closed]
    rfl
  · rw [Query.wants, slot.adapterId_eq opened]
    by_cases needs : query.needs env ⟨adapter.adKernIndex, port.apAttr.portWwn⟩ = true
    · refine .inr ⟨adapter.adKernIndex, pp, port, ?_, fun qq => ?_, slot.owns.livePort, slot.belongs_eq⟩
      · simp [Option.filter, needs]
      · rw [slot.callsFor_iff few opened, and_iff_right needs]
    · refine .inl ⟨?_, fun qq calls => needs ((slot.callsFor_iff few opened qq).mp calls).1⟩
      simp [Option.filter, needs]

theorem Query.claims_iff {env : Env} {lib : Lib} (inv : AdapterInv lib) (few : FewDevices env)
    (query : Query) (rport : PortInfo) :
    ((query.wants env lib.adapterId).any fun kern => ofHost kern rport) = true ↔
      query.Claims env lib rport := by
  rcases query.wants_cases inv few with ⟨none, idle⟩ | ⟨kern, pp, port, wants, calls, live, own⟩
  · rw [none]
    refine iff_of_false Bool.false_ne_true ?_
    rintro ⟨pp, port, calls, -⟩
    exact idle pp calls
  · rw [wants, Option.any_some, ← own]
    constructor
    · exact fun belongs => ⟨pp, port, (calls pp).mpr rfl, live, belongs⟩
    · rintro ⟨qq, port', calls', live', belongs⟩
      obtain rfl := (calls qq).mp calls'
      rw [live, Option.some.injEq] at live'
      exact live' ▸ belongs

theorem Query.looks_iff {env : Env} {lib : Lib} (inv : AdapterInv lib) (few : FewDevices env)
    (query : Query) : (query.wants env lib.adapterId).isSome = true ↔
      ∃ pp, query.CallsFor env lib pp := by
  rcases query.wants_cases inv few with ⟨none, idle⟩ | ⟨kern, pp, port, wants, calls, -⟩
  · rw [none]
    refine iff_of_false Bool.false_ne_true ?_
    rintro ⟨pp, calls⟩
    exact idle pp calls
  · rw [wants]
    exact iff_of_true rfl ⟨pp, (calls pp).mpr rfl⟩

end Hbalinux
