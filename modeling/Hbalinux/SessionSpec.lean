import Hbalinux.C.Items
import Hbalinux.RoundTrip
import Hbalinux.Session

/-! # What the queries mean

To a client the remote ports of an adapter are simply there.  `AdapterView` is an adapter as the
client sees it, `Query.meaning` answers a query from the views alone, without any state, and a
session of the library gives these answers.
-/

namespace Hbalinux

open Outcome

/-- An opened adapter and its local port: the number of the host, the name of the port, and its
    remote ports in the order of their numbers. -/
structure AdapterView where
  kernHba : UInt32
  portWwn : HbaWwn
  remotes : List PortInfo

/-- The remote port behind a SCSI address of the host. -/
def AdapterView.behind (view : AdapterView) (address : ScsiAddress) : Option PortInfo :=
  if address.port = 0 then view.remotes.find? fun rport => rport.apScsiTarget == address.tgt else none

/-- The mappings of the SCSI devices that pass a test. -/
def AdapterView.mappings (view : AdapterView) (env : Env) (ver : UInt32) (test : ScsiAddress → Bool) :
    List HbaFcpScsiEntryV2 :=
  (scsiDevices env.sysfs test).map fun device => mappingEntry env ver (view.behind device.2) device

/-- A caller's buffer after `expected` has been stored in it, as far as it has room. -/
def stored {α : Type} (zero : α) (expected : List α) (map : HbaFcpTargetMapping α) :
    HbaStatus × HbaFcpTargetMapping α :=
  (if expected.length ≤ map.numberOfEntries.toNat then hbaStatusOk else hbaStatusErrorMoreData,
    { numberOfEntries := UInt32.ofNat expected.length
      entry := offered zero map.numberOfEntries.toNat expected
        (map.entry.drop map.numberOfEntries.toNat) })

/-- The SCSI-generic name of a logical unit of a remote port, if there is one such device. -/
def AdapterView.sgName (view : AdapterView) (env : Env) (rport : PortInfo) (lun : UInt64) (len : Nat) :
    Except Int CStr :=
  match scsiDevices env.sysfs fun address => address.hba = view.kernHba ∧ address.port = 0 ∧
    address.tgt = rport.apScsiTarget ∧ (address.lun = lun.toUInt32 ∨ lun.toUInt32 = anyPart) with
  | [device] => .ok (saStrncpySafe len (deviceNames env.sysfs device.1).ocSg 32)
  | _ => .error enoent

/-- The SCSI-generic name of a logical unit behind the remote port with a name. -/
def AdapterView.sgNameOf (view : AdapterView) (env : Env) (wwn : HbaWwn) (lun : UInt64) (len : Nat) :
    Except Int CStr :=
  match view.remotes.find? fun rport => rport.apAttr.portWwn == wwn with
  | none => .error hbaStatusErrorIllegalWwn.toNat
  | some rport => if rport.apScsiTarget = anyPart then .error enoent else view.sgName env rport lun len

def attrOf : Option PortInfo → Answer HbaPortAttributes
  | none => .error hbaStatusError
  | some rport => .ok rport.apAttr

/-- The answer to a query about adapters with the given views. -/
def Query.meaning (env : Env) (views : HbaHandle → Option AdapterView) : Query → Reply
  | .rport handle port index => .port <| (views handle).bind fun view =>
      if port = 0 then view.remotes.find? fun remote => remote.apDiscIndex == index else none
  | .rportAttr handle port n => .attr <| attrOf <| (views handle).bind fun view =>
      if port = 0 then view.remotes[n.toNat]? else none
  | .rportTarget handle port target => .port <| (views handle).bind fun view =>
      if port = 0 then view.remotes.find? fun remote => remote.apScsiTarget == target else none
  | .rportByWwn handle wwn =>
      match views handle with
      | none => .noPort
      | some view => .port (view.remotes.find? fun remote => remote.apAttr.portWwn == wwn)
  | .rportByFcid handle fcid =>
      match views handle with
      | none => .noPort
      | some view => .port (view.remotes.find? fun remote => remote.apAttr.portFcId == fcid)
  | .mappingV1 handle map => .mappingV1 <|
      match views handle with
      | none => (hbaStatusErrorInvalidHandle, map)
      | some view => stored .zero ((view.mappings env 1 fun address =>
          address.hba = view.kernHba).map HbaFcpScsiEntryV2.toHbaFcpScsiEntry) map
  | .mappingV2 handle wwn map => .mappingV2 <|
      match (views handle).filter fun view => view.portWwn = wwn with
      | none => (hbaStatusErrorInvalidHandle, map)
      | some view => stored .zero (view.mappings env 2 fun address =>
          address.hba = view.kernHba ∧ address.port = 0) map
  | .sgName handle wwn lun len =>
      match views handle with
      | none => .noPort
      | some view => .sgName (view.sgNameOf env wwn lun len)

/-- The adapter behind a handle. -/
def Lib.view (lib : Lib) (env : Env) (handle : HbaHandle) : Option AdapterView := do
  let ap ← (adapterOpenHandle lib handle).toOption.join
  let adapter ← lib.adapters.get ap
  let pp ← adapter.adPorts.view 0
  let port ← lib.lports.get pp
  some ⟨adapter.adKernIndex, port.apAttr.portWwn, attachedRemotes env pp lib⟩

/-- The caller's buffer is as large as it says. -/
def Query.HasRoom : Query → Prop
  | .mappingV1 _ map => map.numberOfEntries.toNat ≤ map.entry.length
  | .mappingV2 _ _ map => map.numberOfEntries.toNat ≤ map.entry.length
  | _ => True

/-- A handle is not open, or opens an adapter in a slot. -/
theorem AdapterInv.opened_cases {lib : Lib} (inv : AdapterInv lib) (handle : HbaHandle) :
    adapterOpenHandle lib handle = .ok none ∨ ∃ i ap pp adapter port,
      adapterOpenHandle lib handle = .ok (some ap) ∧ lib.Slot i ap pp adapter port := by
  have looked : adapterOpenHandle lib handle =
      .ok (lib.adapterTable.view (handle - adapterHandleOffset).toNat) :=
    SaTable.lookup_eq_view inv.wf _
  cases entry : lib.adapterTable.view (handle - adapterHandleOffset).toNat with
  | none => exact .inl (by rw [looked, entry])
  | some ap =>
      obtain ⟨pp, adapter, port, slot⟩ := inv.slot entry
      exact .inr ⟨_, ap, pp, adapter, port, by rw [looked, entry], slot⟩

/-- A lookup in the table of the local port at `pp` finds the first remote port that passes. -/
def Finds (attached : Lib) (pp : Ptr) (find : Lib → SaTable Ptr → Outcome (Option Ptr))
    (test : PortInfo → Bool) : Prop :=
  ∀ here, attached.lports.get pp = some here → find attached here.apRports =
    .ok (here.apRports.entries.find? fun rp => (attached.rports.get rp).any test)

/-- An adapter whose remote ports are attached. -/
structure Seen (env : Env) (lib attached : Lib) (handle : HbaHandle) (ap pp : Ptr)
    (adapter : AdapterInfo) (port : PortInfo) : Prop where
  sound : lib.Sound
  slot : ∃ i, lib.Slot i ap pp adapter port
  opens : adapterOpenHandle lib handle = .ok (some ap)
  called : getRportInfo env pp lib = .ok attached
  small : SmallInv attached

namespace Seen

variable {env : Env} {lib attached : Lib} {handle : HbaHandle} {ap pp : Ptr} {adapter : AdapterInfo}
  {port : PortInfo} (seen : Seen env lib attached handle ap pp adapter port)
include seen

theorem between : Between env pp lib attached lib ∧ Between env pp lib attached attached :=
  seen.slot.elim fun _ slot => seen.sound.between slot seen.called

theorem opened : Opened handle ap pp adapter port lib := ⟨seen.slot, seen.opens⟩

theorem adapterGetPort_eq (index : UInt32) :
    adapterGetPort lib handle index = .ok (if index = 0 then some pp else none) :=
  seen.slot.elim fun _ slot => slot.adapterGetPort_eq seen.opens index

theorem attachedRemotes_eq : attachedRemotes env pp lib = attached.remotes pp := by
  simp only [attachedRemotes, seen.called]

theorem view_eq : lib.view env handle =
    some ⟨adapter.adKernIndex, port.apAttr.portWwn, attached.remotes pp⟩ := by
  obtain ⟨i, slot⟩ := seen.slot
  have entry : adapter.adPorts.view 0 = some pp := by
    rw [slot.owns.ports, onlyPort_view, if_pos rfl]
  simp only [Lib.view, seen.opens, Except.toOption, Option.join_some, Option.bind_eq_bind,
    Option.bind_some, slot.owns.live, entry, slot.owns.livePort, seen.attachedRemotes_eq]

/-- The local port afterwards. -/
theorem table : ∃ t, attached.lports.get pp = some { port with apRports := t } ∧ t.Wf ∧
    t.stLimit.toNat ≤ 2 ^ 31 := by
  obtain ⟨t, ⟨i, slot⟩, -⟩ := seen.between.2.opened seen.opened
  have live := slot.owns.livePort
  exact ⟨t, live, seen.small.wf pp _ live, seen.small.limit pp _ live⟩

/-- A lookup that comes to a search of the table finds what a search of the view finds. -/
theorem findRport_eq {find : Lib → SaTable Ptr → Outcome (Option Ptr)} {test : PortInfo → Bool}
    (finds : Finds attached pp find test) :
    ∃ rp, findRport env pp find lib = .ok (rp, attached) ∧
      rp.map attached.rports.get = ((attached.remotes pp).find? test).map some := by
  obtain ⟨t, live, -⟩ := seen.table
  refine ⟨_, ?_, Lib.find_remotes live test⟩
  simp only [findRport, seen.called, ok_bind, Lib.port, live, demand_some, finds _ live]

omit seen in
/-- Reading the remote port that has been found. -/
theorem replyPort_eq {rp : Option Ptr} {rport : Option PortInfo}
    (same : rp.map attached.rports.get = rport.map some) :
    replyPort (.ok (rp, attached)) = .ok (.port rport, attached) := by
  cases rp with
  | none =>
      rw [Option.map_none, eq_comm, Option.map_eq_none_iff] at same
      rw [same]
      rfl
  | some rp =>
      rw [Option.map_some, eq_comm, Option.map_eq_some_iff] at same
      obtain ⟨remote, rfl, here⟩ := same
      simp only [replyPort, ok_bind, Lib.rport, ← here, demand_some]

theorem search_finds (test : PortInfo → Bool) :
    Finds attached pp (fun lib table => saTableSearch table (matchRport test lib)) test :=
  fun _ live => search_table_eq seen.between.2.sound.own live (seen.small.wf pp _ live)
    (seen.small.limit pp _ live) test

/-- A remote port stands at its number. -/
theorem lookup_finds (index : UInt32) : Finds attached pp
    (fun _ table => saTableLookup table index) fun rport => rport.apDiscIndex == index := by
  intro here live
  have numbered : ∀ d rp, here.apRports.view d = some rp → ∃ rport,
      attached.rports.get rp = some rport ∧ rport.apDiscIndex.toNat = d := by
    intro d rp entry
    obtain ⟨rport, there, -, number⟩ :=
      seen.between.2.sound.own pp here live d rp (SaTable.slot_of_view entry)
    exact ⟨rport, there, number⟩
  refine (SaTable.lookup_eq_view (seen.small.wf pp here live) index).trans (congrArg _ ?_)
  cases entry : here.apRports.view index.toNat with
  | none =>
      rw [eq_comm, List.find?_eq_none]
      intro rp member passes
      obtain ⟨d, slot⟩ := SaTable.mem_entries.mp member
      obtain ⟨rport, there, number⟩ := numbered d rp slot
      rw [there, Option.any_some, beq_iff_eq] at passes
      rw [← number, passes, entry] at slot
      cases slot
  | some rp =>
      obtain ⟨rport, there, number⟩ := numbered _ rp entry
      have passes : ((attached.rports.get rp).any fun rport => rport.apDiscIndex == index) = true := by
        rw [there, Option.any_some, beq_iff_eq]
        exact UInt32.toNat_inj.mp number
      have member : rp ∈ here.apRports.entries := SaTable.mem_entries.mpr ⟨_, entry⟩
      obtain ⟨rq, found⟩ : ∃ rq, (here.apRports.entries.find? fun rp =>
          (attached.rports.get rp).any fun rport => rport.apDiscIndex == index) = some rq :=
        Option.isSome_iff_exists.mp (List.find?_isSome.mpr ⟨rp, member, passes⟩)
      obtain ⟨d, slot⟩ := SaTable.mem_entries.mp (List.mem_of_find?_eq_some found)
      obtain ⟨rport', there', number'⟩ := numbered d rq slot
      have passes' := List.find?_some found
      rw [there', Option.any_some, beq_iff_eq] at passes'
      rw [← number', passes', entry] at slot
      rw [found, slot]

/-- The remote ports in index order. -/
theorem lookupN_reads (n : UInt32) (here : PortInfo) (live : attached.lports.get pp = some here) :
    ∃ rp, saTableLookupN here.apRports n = .ok rp ∧
      rp.map attached.rports.get = (attached.remotes pp)[n.toNat]?.map some := by
  refine ⟨_, SaTable.lookupN_eq (seen.small.wf pp here live) n, ?_⟩
  have whole : (attached.remotes pp).map some = here.apRports.entries.map attached.rports.get := by
    simp only [Lib.remotes, live]
    refine map_some_filterMap fun rp member => ?_
    obtain ⟨d, entry⟩ := SaTable.mem_entries.mp member
    exact seen.between.2.sound.own.live_view live entry
  rw [← List.getElem?_map, ← List.getElem?_map, whole]

end Seen

/-- There are fewer than `2 ^ 32` SCSI devices. -/
def FewDevices (env : Env) : Prop := (scsiDevices env.sysfs fun _ => true).length < 2 ^ 32

theorem FewDevices.test {env : Env} (few : FewDevices env) (test : ScsiAddress → Bool) :
    (scsiDevices env.sysfs test).length < 2 ^ 32 := by
  rw [scsiDevices_filter]
  exact (List.length_filter_le ..).trans_lt few

theorem stored_eq {α : Type} (zero : α) {expected : List α} (few : expected.length < 2 ^ 32)
    (map : HbaFcpTargetMapping α) : mappingAnswer zero expected map = stored zero expected map := by
  rw [stored]
  exact Prod.ext (mapped_of_offered zero few map).status rfl

namespace Seen

variable {env : Env} {lib attached : Lib} {handle : HbaHandle} {ap pp : Ptr} {adapter : AdapterInfo}
  {port : PortInfo} (seen : Seen env lib attached handle ap pp adapter port)
include seen

theorem behind_eq (address : ScsiAddress) :
    targetRport env handle lib address =
      (AdapterView.mk adapter.adKernIndex port.apAttr.portWwn (attached.remotes pp)).behind address :=
  seen.between.1.targetRport_eq seen.opened address

/-- The walk stays in the states before and after the remote ports are attached, where every
    lookup returns. -/
theorem looking : Looking env handle ap pp adapter port lib (Between env pp lib attached) ∧
    TargetReturns env handle (Between env pp lib attached) :=
  ⟨seen.between.1.looking seen.between.2 seen.opened, fun address _ between =>
    between.target_returns seen.between.2 seen.small.narrowInv seen.opened (seen.small.narrow port)
      address.port address.tgt⟩

theorem getBindingTargetMappingV1_eq (few : FewDevices env)
    (map : HbaFcpTargetMapping HbaFcpScsiEntry)
    (room : map.numberOfEntries.toNat ≤ map.entry.length) :
    ∃ last, getBindingTargetMappingV1 env handle map lib =
      .ok (stored .zero (((AdapterView.mk adapter.adKernIndex port.apAttr.portWwn
        (attached.remotes pp)).mappings env 1 fun address =>
          address.hba = adapter.adKernIndex).map HbaFcpScsiEntryV2.toHbaFcpScsiEntry) map, last) := by
  have same : mappingsV1 env handle lib adapter = ((AdapterView.mk adapter.adKernIndex
      port.apAttr.portWwn (attached.remotes pp)).mappings env 1 fun address =>
        address.hba = adapter.adKernIndex).map HbaFcpScsiEntryV2.toHbaFcpScsiEntry := by
    simp only [mappingsV1, AdapterView.mappings, List.map_map, Function.comp_def, seen.behind_eq]
  have fewer : (mappingsV1 env handle lib adapter).length < 2 ^ 32 := by
    rw [mappingsV1, List.length_map]
    exact few.test _
  obtain ⟨last, -, called⟩ := (seen.looking.1.mappingV1 (Nat.le_of_lt fewer) seen.between.1 map
    room).total (not_not_intro seen.looking.2)
  exact ⟨last, by rw [called, stored_eq .zero fewer map, same]⟩

theorem getBindingTargetMappingV2_eq (few : FewDevices env) {wwn : HbaWwn}
    (named : port.apAttr.portWwn = wwn) (map : HbaFcpTargetMapping HbaFcpScsiEntryV2)
    (room : map.numberOfEntries.toNat ≤ map.entry.length) :
    ∃ last, getBindingTargetMappingV2 env handle wwn map lib =
      .ok (stored .zero ((AdapterView.mk adapter.adKernIndex port.apAttr.portWwn
        (attached.remotes pp)).mappings env 2 fun address =>
          address.hba = adapter.adKernIndex ∧ address.port = 0) map, last) := by
  have index : port.apIndex = 0 := seen.slot.elim fun _ slot => slot.portIndex
  have same : mappingsV2 env handle lib adapter port = (AdapterView.mk adapter.adKernIndex
      port.apAttr.portWwn (attached.remotes pp)).mappings env 2 fun address =>
        address.hba = adapter.adKernIndex ∧ address.port = 0 := by
    simp only [mappingsV2, AdapterView.mappings, seen.behind_eq, index]
  have fewer : (mappingsV2 env handle lib adapter port).length < 2 ^ 32 := by
    rw [mappingsV2, List.length_map]
    exact few.test _
  obtain ⟨last, -, called⟩ := (seen.looking.1.mappingV2 named (Nat.le_of_lt fewer) seen.between.1
    map room).total (not_not_intro seen.looking.2)
  exact ⟨last, by rw [called, stored_eq .zero fewer map, same]⟩

theorem getBindingSgName_eq (few : FewDevices env) (wwn : HbaWwn) (lun : UInt64) (len : Nat) :
    ∃ last, getBindingSgName env pp wwn lun len lib =
      .ok ((AdapterView.mk adapter.adKernIndex port.apAttr.portWwn (attached.remotes pp)).sgNameOf env
        wwn lun len, last) := by
  obtain ⟨rp, looked, same⟩ := seen.findRport_eq
    (seen.search_finds fun rport => rport.apAttr.portWwn == wwn)
  have looked' : adapterGetRportByWwn env pp wwn lib = .ok (rp, attached) := looked
  rw [AdapterView.sgNameOf]
  cases found : (attached.remotes pp).find? fun rport => rport.apAttr.portWwn == wwn with
  | none =>
      rw [found, Option.map_none, Option.map_eq_none_iff] at same
      exact ⟨attached, by simp only [getBindingSgName, looked', ok_bind, same]⟩
  | some rport =>
      rw [found, Option.map_some, Option.map_eq_some_iff] at same
      obtain ⟨q, rfl, here⟩ := same
      refine ⟨attached, ?_⟩
      by_cases wild : rport.apScsiTarget = anyPart
      · simp only [getBindingSgName, looked', ok_bind, Lib.rport, here, demand_some, if_pos wild]
      obtain ⟨kern, index⟩ := seen.between.2.remote_numbers seen.opened
        (List.mem_of_find?_eq_some found)
      have accepts : (sgContext q rport lun).accepts = fun address : ScsiAddress =>
          decide (address.hba = adapter.adKernIndex ∧ address.port = 0 ∧
            address.tgt = rport.apScsiTarget ∧
            (address.lun = lun.toUInt32 ∨ lun.toUInt32 = anyPart)) := by
        funext address
        have first : (0 : UInt32) ≠ anyPart := by decide
        simp only [BindingContext.accepts, sgContext, kern, index, wild, first, or_false]
      have count := few.test (sgContext q rport lun).accepts
      rw [Hbalinux.getBindingSgName_eq looked' here wild (Nat.le_of_lt count) len]
      simp only [if_neg wild, AdapterView.sgName]
      rw [accepts] at count ⊢
      generalize (scsiDevices env.sysfs fun address => decide (address.hba = adapter.adKernIndex ∧
        address.port = 0 ∧ address.tgt = rport.apScsiTarget ∧
        (address.lun = lun.toUInt32 ∨ lun.toUInt32 = anyPart))) = devices at count ⊢
      rcases devices with _ | ⟨device, _ | ⟨other, more⟩⟩
      · rfl
      · rfl
      · have several : UInt32.ofNat (device :: other :: more).length ≠ 1 := by
          rw [ne_eq, ← UInt32.toNat_inj, toNat_ofNat_small count]
          simp
        rw [if_neg several]

/-- A lookup by handle and port number. -/
theorem replyPort_of {find : Lib → SaTable Ptr → Outcome (Option Ptr)} {test : PortInfo → Bool}
    (finds : Finds attached pp find test) (index : UInt32) :
    ∃ last, replyPort (findRportOf env handle index find lib) = .ok
      (.port (if index = 0 then (attached.remotes pp).find? test else none), last) := by
  rw [findRportOf, seen.adapterGetPort_eq, ok_bind]
  by_cases first : index = 0
  · obtain ⟨rp, looked, same⟩ := seen.findRport_eq finds
    simp only [if_pos first, looked]
    exact ⟨attached, replyPort_eq same⟩
  · simp only [if_neg first]
    exact ⟨lib, rfl⟩

/-- A lookup in the local port of a handle. -/
theorem onPort_of {find : Lib → SaTable Ptr → Outcome (Option Ptr)} {test : PortInfo → Bool}
    (finds : Finds attached pp find test) :
    ∃ last, onPort handle (fun pp lib => replyPort (findRport env pp find lib)) lib =
      .ok (.port ((attached.remotes pp).find? test), last) := by
  obtain ⟨rp, looked, same⟩ := seen.findRport_eq finds
  refine ⟨attached, ?_⟩
  rw [onPort, seen.adapterGetPort_eq, ok_bind, if_pos rfl]
  simp only [looked]
  exact replyPort_eq same

theorem adapterGetRportAttr_eq (index n : UInt32) :
    ∃ last, adapterGetRportAttr env handle index n lib =
      .ok (attrOf (if index = 0 then (attached.remotes pp)[n.toNat]? else none), last) := by
  rw [adapterGetRportAttr, adapterGetRportN, findRportOf, seen.adapterGetPort_eq, ok_bind]
  by_cases first : index = 0
  · obtain ⟨t, live, -⟩ := seen.table
    obtain ⟨rp, looked, same⟩ := seen.lookupN_reads n _ live
    refine ⟨attached, ?_⟩
    simp only [if_pos first, findRport, seen.called, ok_bind, Lib.port, live, demand_some, looked]
    cases found : (attached.remotes pp)[n.toNat]? with
    | none =>
        rw [found, Option.map_none, Option.map_eq_none_iff] at same
        rw [same]
        rfl
    | some rport =>
        rw [found, Option.map_some, Option.map_eq_some_iff] at same
        obtain ⟨q, rfl, here⟩ := same
        simp only [Lib.rport, here, demand_some, ok_bind]
        rfl
  · simp only [if_neg first]
    exact ⟨lib, rfl⟩

end Seen

/-- A query is answered by its meaning. -/
theorem ask_meaning {env : Env} {lib : Lib} (sound : lib.Sound) (smallInv : SmallInv lib)
    (small : SmallRports env) (few : FewDevices env) (loads : ∃ loaded, loadRports env lib = .ok loaded)
    {query : Query} (room : query.HasRoom) :
    ∃ last, query.ask env lib = .ok (query.meaning env (lib.view env), last) := by
  have cases : ∀ handle, (adapterOpenHandle lib handle = .ok none ∧ lib.view env handle = none) ∨
      ∃ attached ap pp adapter port, Seen env lib attached handle ap pp adapter port := by
    intro handle
    rcases sound.adapters.opened_cases handle with closed | ⟨i, ap, pp, adapter, port, opens, slot⟩
    · refine .inl ⟨closed, ?_⟩
      simp only [Lib.view, closed, Except.toOption, Option.join_some, Option.bind_eq_bind,
        Option.bind_none]
    · obtain ⟨loaded, load⟩ := loads
      obtain ⟨attached, called, -⟩ :=
        getRportInfo_small small sound.rports smallInv slot.owns.livePort load
      exact .inr ⟨attached, ap, pp, adapter, port, sound, ⟨i, slot⟩, opens, called,
        getRportInfo_small_inv small sound.rports smallInv called⟩
  have shut : ∀ handle index, adapterOpenHandle lib handle = .ok none →
      adapterGetPort lib handle index = .ok none := by
    intro handle index closed
    rw [adapterGetPort, closed, ok_bind]
  cases query with
  | rport handle port index =>
      rcases cases handle with ⟨closed, unseen⟩ | ⟨attached, ap, pp, adapter, port', seen⟩
      · refine ⟨lib, ?_⟩
        simp only [Query.ask, Query.meaning, unseen, Option.bind_none, adapterGetRport, findRportOf,
          shut handle port closed, ok_bind, replyPort]
      · simp only [Query.ask, Query.meaning, seen.view_eq, Option.bind_some]
        exact seen.replyPort_of (seen.lookup_finds index) port
  | rportAttr handle port n =>
      rcases cases handle with ⟨closed, unseen⟩ | ⟨attached, ap, pp, adapter, port', seen⟩
      · refine ⟨lib, ?_⟩
        simp only [Query.ask, Query.meaning, unseen, Option.bind_none, adapterGetRportAttr,
          adapterGetRportN, findRportOf, shut handle port closed, ok_bind]
        rfl
      · obtain ⟨last, answered⟩ := seen.adapterGetRportAttr_eq port n
        refine ⟨last, ?_⟩
        simp only [Query.ask, Query.meaning, seen.view_eq, Option.bind_some, answered]
        rfl
  | rportTarget handle port target =>
      rcases cases handle with ⟨closed, unseen⟩ | ⟨attached, ap, pp, adapter, port', seen⟩
      · refine ⟨lib, ?_⟩
        simp only [Query.ask, Query.meaning, unseen, Option.bind_none, adapterGetRportTarget,
          findRportOf, shut handle port closed, ok_bind, replyPort]
      · simp only [Query.ask, Query.meaning, seen.view_eq, Option.bind_some]
        exact seen.replyPort_of (seen.search_finds fun rport => rport.apScsiTarget == target) port
  | rportByWwn handle wwn =>
      rcases cases handle with ⟨closed, unseen⟩ | ⟨attached, ap, pp, adapter, port', seen⟩
      · refine ⟨lib, ?_⟩
        simp only [Query.ask, Query.meaning, unseen, onPort, shut handle 0 closed, ok_bind]
      · simp only [Query.ask, Query.meaning, seen.view_eq]
        exact seen.onPort_of (seen.search_finds fun rport => rport.apAttr.portWwn == wwn)
  | rportByFcid handle fcid =>
      rcases cases handle with ⟨closed, unseen⟩ | ⟨attached, ap, pp, adapter, port', seen⟩
      · refine ⟨lib, ?_⟩
        simp only [Query.ask, Query.meaning, unseen, onPort, shut handle 0 closed, ok_bind]
      · simp only [Query.ask, Query.meaning, seen.view_eq]
        exact seen.onPort_of (seen.search_finds fun rport => rport.apAttr.portFcId == fcid)
  | mappingV1 handle map =>
      rcases cases handle with ⟨closed, unseen⟩ | ⟨attached, ap, pp, adapter, port', seen⟩
      · refine ⟨lib, ?_⟩
        simp only [Query.ask, Query.meaning, unseen, getBindingTargetMappingV1, closed, ok_bind]
        rfl
      · obtain ⟨last, answered⟩ := seen.getBindingTargetMappingV1_eq few map room
        refine ⟨last, ?_⟩
        simp only [Query.ask, Query.meaning, seen.view_eq, answered]
        rfl
  | mappingV2 handle wwn map =>
      rcases cases handle with ⟨closed, unseen⟩ | ⟨attached, ap, pp, adapter, port', seen⟩
      · refine ⟨lib, ?_⟩
        simp only [Query.ask, Query.meaning, unseen, Option.filter_none, getBindingTargetMappingV2,
          adapterGetPortByWwn, closed, ok_bind]
        rfl
      · by_cases named : port'.apAttr.portWwn = wwn
        · obtain ⟨last, answered⟩ := seen.getBindingTargetMappingV2_eq few named map room
          refine ⟨last, ?_⟩
          simp only [Query.ask, Query.meaning, seen.view_eq, answered, Option.filter_some, named,
            decide_true, if_true]
          rfl
        · obtain ⟨i, slot⟩ := seen.slot
          refine ⟨lib, ?_⟩
          simp only [Query.ask, Query.meaning, seen.view_eq, Option.filter_some, named, decide_false,
            Bool.false_eq_true, if_false, getBindingTargetMappingV2,
            slot.adapterGetPortByWwn_eq seen.opens, ok_bind]
          rfl
  | sgName handle wwn lun len =>
      rcases cases handle with ⟨closed, unseen⟩ | ⟨attached, ap, pp, adapter, port', seen⟩
      · refine ⟨lib, ?_⟩
        simp only [Query.ask, Query.meaning, unseen, onPort, shut handle 0 closed, ok_bind]
      · obtain ⟨last, answered⟩ := seen.getBindingSgName_eq few wwn lun len
        refine ⟨last, ?_⟩
        simp only [Query.ask, Query.meaning, seen.view_eq, onPort, seen.adapterGetPort_eq, ok_bind,
          if_true, answered]
        rfl

/-- Queries do not change what a client sees of the adapters. -/
theorem Ahead.view_eq {env : Env} {qq : Ptr} {a b : Lib} (ahead : Ahead env qq a b) :
    b.view env = a.view env := by
  have remotes : ∀ pp port, a.lports.get pp = some port → port.apAdapt ≠ none →
      attachedRemotes env pp b = attachedRemotes env pp a := by
    intro pp port live owner
    have paired := ahead.getRportInfo live owner
    unfold attachedRemotes
    cases called : Hbalinux.getRportInfo env pp a with
    | error fault =>
        cases called' : Hbalinux.getRportInfo env pp b with
        | error fault' => rfl
        | ok d =>
            obtain ⟨c, ran, -⟩ := paired.back d called'
            rw [called] at ran
            cases ran
    | ok c =>
        obtain ⟨d, ran, -, same⟩ := paired.forth c called
        simp only [ran, Lib.remotes, same.port]
        cases here : c.lports.get pp with
        | none => rfl
        | some port' =>
            refine List.filterMap_congr fun rp member => ?_
            obtain ⟨i, entry⟩ := SaTable.mem_entries.mp member
            exact same.rports port' i rp here entry
  funext handle
  rcases ahead.sound.adapters.opened_cases handle with closed | ⟨i, ap, pp, adapter, port, opens, slot⟩
  · have closed' : adapterOpenHandle b handle = .ok none := by
      rw [adapterOpenHandle, ahead.framed.adapterTable]
      exact closed
    simp only [Lib.view, closed, closed']
    rfl
  · obtain ⟨t, slot'⟩ := slot.framed ahead.framed
    have opens' : adapterOpenHandle b handle = .ok (some ap) := by
      rw [adapterOpenHandle, ahead.framed.adapterTable]
      exact opens
    have entry : adapter.adPorts.view 0 = some pp := by
      rw [slot.owns.ports, onlyPort_view, if_pos rfl]
    have owner : port.apAdapt ≠ none := by
      rw [slot.owns.owner]
      exact Option.some_ne_none _
    simp only [Lib.view, opens, opens', Except.toOption, Option.join_some, Option.bind_eq_bind,
      Option.bind_some, slot.owns.live, slot'.owns.live, entry, slot.owns.livePort,
      slot'.owns.livePort, remotes pp port slot.owns.livePort owner]

theorem Lib.Steady.view_eq {env : Env} {queries : List Query} {s t : Lib} {replies : List Reply}
    (steady : s.Steady) (asked : asks env queries s = .ok (replies, t)) :
    t.Steady ∧ t.view env = s.view env := by
  induction queries generalizing s replies with
  | nil =>
      cases asked
      exact ⟨steady, rfl⟩
  | cons query queries ih =>
      obtain ⟨⟨reply, mid⟩, first, rest⟩ := bind_eq_ok.mp asked
      obtain ⟨⟨rest, last⟩, more, same⟩ := bind_eq_ok.mp rest
      cases same
      obtain ⟨qq, ahead⟩ := steady.ahead first
      obtain ⟨steady', same⟩ := ih (steady.ask first) more
      exact ⟨steady', same.trans ahead.view_eq⟩

/-- A session is answered by the meanings of its queries. -/
theorem Lib.Steady.asks_meaning {env : Env} {lib : Lib} (steady : lib.Steady) (smallInv : SmallInv lib)
    (small : SmallRports env) (few : FewDevices env) (loads : ∃ loaded, loadRports env lib = .ok loaded)
    {queries : List Query} (room : ∀ query ∈ queries, query.HasRoom) :
    ∃ last, asks env queries lib = .ok (queries.map (Query.meaning env (lib.view env)), last) := by
  rw [steady.asks_iff, List.forall₂_map_right_iff, List.forall₂_same]
  exact fun query member => ask_meaning steady.sound smallInv small few loads (room query member)

/-- Whatever sequence of queries is asked in whatever state has been reached, all of them are
    answered, each by its meaning, and the views stay as they are. -/
theorem session_refines {env : Env} {lib : Lib} (reachable : Reachable SmallRports lib)
    (lonely : lib.Lonely) (small : SmallRports env) (few : FewDevices env)
    (loads : ∃ loaded, loadRports env lib = .ok loaded) {queries : List Query}
    (room : ∀ query ∈ queries, query.HasRoom) :
    ∃ last, asks env queries lib = .ok (queries.map (Query.meaning env (lib.view env)), last) ∧
      last.view env = lib.view env := by
  have steady : lib.Steady := ⟨.of_reachable reachable, lonely⟩
  obtain ⟨last, asked⟩ :=
    steady.asks_meaning (smallInv_of_reachable reachable) small few loads room
  exact ⟨last, asked, (steady.view_eq asked).2⟩

theorem smallQueries_hasRoom : ∀ query ∈ smallQueries, query.HasRoom := by
  intro query member
  rw [smallQueries, List.mem_cons, List.mem_singleton] at member
  obtain rfl | rfl := member <;> trivial

theorem session_refines_small : ∃ last,
    asks smallSystem smallQueries (loadedState smallSystem) =
        .ok (smallQueries.map (Query.meaning smallSystem ((loadedState smallSystem).view smallSystem)),
          last) ∧
      last.view smallSystem = (loadedState smallSystem).view smallSystem := by
  have facts : (loadRports smallSystem (loadedState smallSystem)).toOption.isSome = true ∧
      (scsiDevices smallSystem.sysfs fun _ => true).length < 2 ^ 32 := by
    decide +kernel
  exact session_refines (reachable_small_of smallRports_small) lonely_small smallRports_small
    facts.2 ⟨_, eq_ok_getD facts.1 .init⟩ smallQueries_hasRoom

end Hbalinux
