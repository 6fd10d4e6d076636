import Hbalinux.TargetMapping

/-! # Mappings and SCSI-generic names agree

A mapping entry leads back to its device.  Whatever the number of devices, an entry
carries the numbers of the last device that got its place, and the identifiers of
the remote port found for it; looking that port up by name and the unit up by
number accepts this device and no other.
-/

namespace Hbalinux

open Outcome

/-- The last value that got place `k` of a buffer whose places are counted modulo
    `2 ^ 32`. -/
def placedAt {α : Type} (k : Nat) (seen : List α) : Option α :=
  ((seen.zipIdx.filter fun numbered => numbered.2 % 2 ^ 32 = k).getLast?).map Prod.fst

theorem placedAt_nil {α : Type} (k : Nat) : placedAt k ([] : List α) = none := rfl

theorem placedAt_append {α : Type} (k : Nat) (seen : List α) (a : α) :
    placedAt k (seen ++ [a]) = if seen.length % 2 ^ 32 = k then some a else placedAt k seen := by
  unfold placedAt
  rw [List.zipIdx_append, List.filter_append, List.zipIdx_singleton, Nat.zero_add]
  by_cases here : seen.length % 2 ^ 32 = k
  · rw [if_pos here, List.filter_cons_of_pos (by simpa using here), List.filter_nil,
      List.getLast?_concat]
    rfl
  · rw [if_neg here, List.filter_cons_of_neg (by simpa using here), List.filter_nil,
      List.append_nil]

theorem placedAt_mem {α : Type} {k : Nat} {seen : List α} {a : α} (placed : placedAt k seen = some a) :
    a ∈ seen := by
  obtain ⟨numbered, last, rfl⟩ := Option.map_eq_some_iff.mp placed
  have member := List.mem_of_mem_filter (List.mem_of_getLast? last)
  exact List.fst_mem_of_mem_zipIdx member

/-- A context after some devices have been accepted: its entries are those of the
    devices that got their places last. -/
structure Placed (env : Env) (cp : BindingContext) (W : Lib → Prop)
    (remote : ScsiAddress → Option PortInfo) (seen : List (CStr × ScsiAddress))
    (ctxt : BindingContext) : Prop where
  context : ctxt = { cp with
    ocCount := UInt32.ofNat seen.length, ocEntries := ctxt.ocEntries, ocSg := ctxt.ocSg }
  entries : ∀ k < cp.ocLimit.toNat, ∀ device, placedAt k seen = some device →
    ∃ entry, ctxt.ocEntries[k]? = some entry ∧ entry.scsiId = scsiIdOf env.sysfs device ∧
      (∀ rport, remote device.2 = some rport →
        entry.fcpId = fcpIdOf (some rport) device.2.lun) ∧
      ∃ s r, W s ∧ mappedRport env cp device.2 s = .ok r

/-- An entry of the directory that is passed over. -/
theorem Placed.skip {env : Env} {cp ctxt : BindingContext} {W : Lib → Prop}
    {remote : ScsiAddress → Option PortInfo} {seen : List (CStr × ScsiAddress)}
    (placed : Placed env cp W remote seen ctxt) {dp : DirEnt}
    (other : accepted cp.accepts dp = none) (lib : Lib) :
    getBindingTargetMapping env dp (ctxt, lib) = .ok (0, ctxt, lib) := by
  apply mapping_skip
  rw [placed.context]
  exact other

/-- What a filled entry carries, whatever it carried before. -/
theorem fillEntry_carries {env : Env} {ver : UInt32} {device : CStr × ScsiAddress} {rp : Option Ptr}
    {lib : Lib} {before entry : HbaFcpScsiEntryV2} {sg : CStr}
    (filled : fillEntry env ver device.1 device.2 rp lib before = .ok (entry, sg)) :
    entry.scsiId = scsiIdOf env.sysfs device ∧
      ∀ rport, rp.map lib.rports.get = some (some rport) →
        entry.fcpId = fcpIdOf (some rport) device.2.lun := by
  obtain ⟨fcpId, identified, rest⟩ := bind_eq_ok.mp filled
  rw [osNames_eq, ok_bind] at rest
  cases rest
  refine ⟨rfl, fun rport found => ?_⟩
  obtain ⟨q, rfl, live⟩ := Option.map_eq_some_iff.mp found
  rw [mappedFcpId, Lib.rport, live] at identified
  cases identified
  rfl

/-- An entry of the directory that is accepted. -/
theorem Placed.take {env : Env} {cp ctxt ctxt' : BindingContext} {W : Lib → Prop}
    {remote : ScsiAddress → Option PortInfo} {seen : List (CStr × ScsiAddress)}
    (lookup : RemoteLookup env cp W remote) (placed : Placed env cp W remote seen ctxt)
    {dp : DirEnt} {device : CStr × ScsiAddress} (found : accepted cp.accepts dp = some device)
    {lib lib' : Lib} (held : W lib) {rc : Int}
    (called : getBindingTargetMapping env dp (ctxt, lib) = .ok (rc, ctxt', lib')) :
    rc = 0 ∧ W lib' ∧ Placed env cp W remote (seen ++ [device]) ctxt' := by
  obtain ⟨name, parsed, passes⟩ := accepted_eq_some.mp found
  have context := placed.context
  have accepts : ctxt.accepts device.2 = true := by
    rw [context]
    exact passes
  have limit : ctxt.ocLimit = cp.ocLimit := by rw [context]
  have count : ctxt.ocCount = UInt32.ofNat seen.length := by rw [context]
  have place : ctxt.ocCount.toNat = seen.length % 2 ^ 32 := by
    rw [count, UInt32.toNat_ofNat']
  have next : ctxt.ocCount + 1 = UInt32.ofNat (seen ++ [device]).length := by
    rw [count, List.length_append, List.length_singleton, UInt32.ofNat_add, UInt32.ofNat_one]
  unfold getBindingTargetMapping at called
  simp only [parsed, accepts, Bool.true_eq_false, if_false] at called
  split at called
  · rename_i room
    obtain ⟨before, here, rest⟩ := bind_eq_ok.mp called
    obtain ⟨⟨rp, mid⟩, looked, rest⟩ := bind_eq_ok.mp rest
    obtain ⟨⟨entry, sg⟩, filled, rest⟩ := bind_eq_ok.mp rest
    cases rest
    have look : mappedRport env cp device.2 lib = .ok (rp, mid) := by
      rw [context] at looked
      exact looked
    obtain ⟨held', same⟩ := lookup device.2 lib rp mid held look
    rw [name] at filled
    obtain ⟨scsi, fcp⟩ := fillEntry_carries filled
    have inside : ctxt.ocCount.toNat < ctxt.ocEntries.length := by
      unfold BindingContext.place at here
      split at here
      · exact (List.getElem?_eq_some_iff.mp (demand_eq_ok.mp here)).1
      · cases here
    refine ⟨rfl, held', ?_, fun k room device' last => ?_⟩
    · rw [next, context]
    · rw [placedAt_append] at last
      simp only [place] at inside ⊢
      split at last
      · rename_i mine
        cases last
        refine ⟨entry, ?_, scsi, fun rport remoteOf => ?_, lib, _, held, look⟩
        · rw [← mine, List.getElem?_set_self inside]
        · rw [remoteOf] at same
          exact fcp rport same
      · rename_i other
        rw [List.getElem?_set_ne other]
        exact placed.entries k room device' last
  · rename_i full
    cases called
    refine ⟨rfl, held, ?_, fun k room device' last => ?_⟩
    · rw [next, context]
    · rw [placedAt_append, if_neg] at last
      · exact placed.entries k room device' last
      · rw [UInt32.lt_iff_toNat_lt, place, limit] at full
        omega

/-- A walk that returns. -/
theorem placed_walk {env : Env} {cp ctxt ctxt' : BindingContext} {W : Lib → Prop}
    {remote : ScsiAddress → Option PortInfo} {seen : List (CStr × ScsiAddress)}
    {es : List DirEnt} {lib lib' : Lib} {rc : Int} (lookup : RemoteLookup env cp W remote)
    (placed : Placed env cp W remote seen ctxt) (held : W lib)
    (walked : untilNonzero (getBindingTargetMapping env) es (ctxt, lib) = .ok (rc, ctxt', lib')) :
    W lib' ∧ Placed env cp W remote (seen ++ addressed cp.accepts es) ctxt' := by
  induction es generalizing seen ctxt lib with
  | nil =>
      cases walked
      rw [addressed, List.filterMap_nil, List.append_nil]
      exact ⟨held, placed⟩
  | cons dp es ih =>
      rw [untilNonzero_cons] at walked
      cases found : accepted cp.accepts dp with
      | none =>
          rw [placed.skip found, ok_bind, if_pos rfl] at walked
          rw [addressed, List.filterMap_cons_none found]
          exact ih placed held walked
      | some device =>
          obtain ⟨⟨code, mid, libMid⟩, called, rest⟩ := bind_eq_ok.mp walked
          obtain ⟨rfl, held', placed'⟩ := Placed.take lookup placed found held called
          rw [if_pos rfl] at rest
          rw [addressed, List.filterMap_cons_some found, List.append_cons]
          exact ih placed' held' rest

/-- The entries a mapping call returns. -/
theorem readMapping_placed {env : Env} {cp : BindingContext} {W : Lib → Prop}
    {remote : ScsiAddress → Option PortInfo} {lib lib' : Lib} {status : HbaStatus}
    {filled : HbaFcpTargetMapping HbaFcpScsiEntryV2} (lookup : RemoteLookup env cp W remote)
    (started : cp.ocCount = 0) (held : W lib)
    (called : readMapping env cp lib = .ok ((status, filled), lib')) :
    W lib' ∧ ∃ ctxt, filled.entry = ctxt.ocEntries ∧
      Placed env cp W remote (scsiDevices env.sysfs cp.accepts) ctxt := by
  obtain ⟨entries, -, rest⟩ := bind_eq_ok.mp called
  obtain ⟨⟨ctxt, last⟩, walked, rest⟩ := bind_eq_ok.mp rest
  cases rest
  rw [saDirRead_state, map_eq_ok] at walked
  obtain ⟨⟨rc, state⟩, walked, same⟩ := walked
  obtain rfl : state = (ctxt, lib') := same
  have start : Placed env cp W remote [] { cp with ocEntries := entries } := by
    refine ⟨?_, fun k _ device found => ?_⟩
    · simp [← started]
    · rw [placedAt_nil] at found
      cases found
  obtain ⟨held', placed⟩ := placed_walk lookup start held walked
  exact ⟨held', ctxt, rfl, placed⟩

/-- The lookup of a SCSI-generic name finds a remote port and selects one device, with
    a count of one. -/
def Selects (env : Env) (lp : Ptr) (wwn : HbaWwn) (lun : UInt64) (lib : Lib)
    (device : CStr × ScsiAddress) : Prop :=
  ∃ rp rport lib' ctxt, adapterGetRportByWwn env lp wwn lib = .ok (some rp, lib') ∧
    lib'.rports.get rp = some rport ∧
    scsiDevices env.sysfs (sgContext rp rport lun).accepts = [device] ∧
    Except.map Prod.snd (saDirRead env.sysfs sysfsLunDir (getBindingTargetMapping env)
      (sgContext rp rport lun, lib')) = .ok (ctxt, lib') ∧ ctxt.ocCount = 1 ∧
    ∀ len, getBindingSgName env lp wwn lun len lib =
      .ok (.ok (saStrncpySafe len (deviceNames env.sysfs device.1).ocSg 32), lib')

/-- A remote port of a local port carries the numbers of its host and port. -/
theorem Between.remote_numbers {env : Env} {lib attached : Lib} {handle : HbaHandle} {ap pp : Ptr}
    {adapter : AdapterInfo} {port : PortInfo} (after : Between env pp lib attached attached)
    (opened : Opened handle ap pp adapter port lib) {rport : PortInfo}
    (member : rport ∈ attached.remotes pp) :
    rport.apKernHba = adapter.adKernIndex ∧ rport.apIndex = 0 := by
  obtain ⟨t, ⟨i, slot⟩, -⟩ := after.opened opened
  have here := slot.owns.livePort
  simp only [Lib.remotes, here, List.mem_filterMap] at member
  obtain ⟨rp, entry, live⟩ := member
  obtain ⟨d, found⟩ := SaTable.mem_entries.mp entry
  obtain ⟨same, there, mine, -⟩ := after.sound.own pp _ here d rp (SaTable.slot_of_view found)
  obtain rfl : rport = same := Option.some.inj (live.symm.trans there)
  simp only [PortInfo.belongs, decide_eq_true_eq] at mine
  exact ⟨mine.1.trans slot.host, mine.2.trans slot.portIndex⟩

/-- The remote port at the address of a device, whose name no other remote port of its
    local port has. -/
structure Behind (env : Env) (handle : HbaHandle) (lib : Lib) (address : ScsiAddress) (lp : Ptr)
    (rport : PortInfo) : Prop where
  localPort : adapterGetPort lib handle address.port = .ok (some lp)
  remote : targetRport env handle lib address = some rport
  target : address.tgt ≠ anyPart
  lun : address.lun ≠ anyPart
  named : ∀ other ∈ attachedRemotes env lp lib,
    other.apAttr.portWwn = rport.apAttr.portWwn → other = rport

/-- The lookup by name finds what the lookup by target number has found. -/
theorem Between.wwn_lookup {env : Env} {lib attached s s' : Lib} {handle : HbaHandle} {ap pp lp : Ptr}
    {adapter : AdapterInfo} {port : PortInfo} (before : Between env pp lib attached lib)
    (after : Between env pp lib attached attached) (opened : Opened handle ap pp adapter port lib)
    (between : Between env pp lib attached s) (between' : Between env pp lib attached s')
    {address : ScsiAddress} {rport : PortInfo} (behind : Behind env handle lib address lp rport)
    {r : Option Ptr × Lib}
    (looked : adapterGetRportTarget env handle address.port address.tgt s = .ok r) :
    address.port = 0 ∧ lp = pp ∧ rport ∈ attached.remotes pp ∧ rport.apScsiTarget = address.tgt ∧
      ∃ rp, adapterGetRportByWwn env lp rport.apAttr.portWwn s' = .ok (some rp, attached) ∧
        attached.rports.get rp = some rport := by
  obtain ⟨i, slot⟩ := opened.slot
  have localPort := behind.localPort
  rw [slot.adapterGetPort_eq opened.handle, Except.ok.injEq] at localPort
  split at localPort
  · rename_i first
    obtain rfl : pp = lp := Option.some.inj localPort
    have remote := behind.remote
    rw [before.targetRport_eq opened, if_pos first] at remote
    have member := List.mem_of_find?_eq_some remote
    have target := List.find?_some remote
    obtain ⟨t, ⟨j, slotS⟩, handleOpens⟩ := between.opened opened
    obtain ⟨u, ⟨k, slotA⟩, -⟩ := after.opened opened
    have here := slotA.owns.livePort
    -- the search for the target number in the table of the local port
    simp only [adapterGetRportTarget, findRportOf, slotS.adapterGetPort_eq handleOpens, ok_bind,
      if_pos first, findRport, between.reaches, Lib.port, here, demand_some] at looked
    obtain ⟨found, searched, -⟩ := bind_eq_ok.mp looked
    have same : found.map attached.rports.get = some (some rport) := by
      have walked := Lib.find_remotes here fun other => other.apScsiTarget == address.tgt
      rw [remote] at walked
      rw [searchFrom_find (by omega) searched]
      exact walked
    obtain ⟨rp, rfl, live⟩ := Option.map_eq_some_iff.mp same
    have alone : ∀ q other, q ∈ u.entries → attached.rports.get q = some other →
        (other.apAttr.portWwn == rport.apAttr.portWwn) = true → other = rport := by
      intro q other entry there named
      apply behind.named other ?_ (by simpa using named)
      simp only [attachedRemotes, before.reaches, Lib.remotes, here]
      exact List.mem_filterMap.mpr ⟨q, entry, there⟩
    have self : (rport.apAttr.portWwn == rport.apAttr.portWwn) = true := beq_self_eq_true _
    obtain ⟨q, found, held⟩ := searchFrom_other (by omega) searched live self alone
    refine ⟨first, rfl, member, by simpa using target, q, ?_, held⟩
    simp only [adapterGetRportByWwn, findRport, between'.reaches, ok_bind, Lib.port, here, demand_some]
    exact bind_eq_ok.mpr ⟨some q, found, rfl⟩
  · cases localPort

/-- The context for a logical unit behind a remote port accepts the address of this
    unit only. -/
theorem sgContext_accepts {address : ScsiAddress} {rport : PortInfo} (rp : Ptr)
    (kern : rport.apKernHba = address.hba) (port : rport.apIndex = address.port)
    (target : rport.apScsiTarget = address.tgt) (first : address.port ≠ anyPart)
    (definite : address.tgt ≠ anyPart) (lun : address.lun ≠ anyPart) (other : ScsiAddress) :
    (sgContext rp rport address.lun.toUInt64).accepts other = true ↔ other = address := by
  obtain ⟨hba, chan, tgt, unit⟩ := address
  obtain ⟨hba', chan', tgt', unit'⟩ := other
  simp only at kern port target first definite lun
  simp [BindingContext.accepts, sgContext, kern, port, target, first, definite, lun]

/-- A device that a lookup by target number has led to is selected again. -/
theorem Between.selects {env : Env} {lib attached s s' : Lib} {handle : HbaHandle} {ap pp lp : Ptr}
    {adapter : AdapterInfo} {port : PortInfo} (before : Between env pp lib attached lib)
    (after : Between env pp lib attached attached) (opened : Opened handle ap pp adapter port lib)
    (between : Between env pp lib attached s) (between' : Between env pp lib attached s')
    (distinct : ((scsiDevices env.sysfs fun _ => true).map Prod.snd).Nodup)
    {device : CStr × ScsiAddress} (member : device ∈ scsiDevices env.sysfs fun _ => true)
    (host : device.2.hba = adapter.adKernIndex) {rport : PortInfo}
    (behind : Behind env handle lib device.2 lp rport) {r : Option Ptr × Lib}
    (looked : adapterGetRportTarget env handle device.2.port device.2.tgt s = .ok r) :
    Selects env lp rport.apAttr.portWwn device.2.lun.toUInt64 s' device := by
  obtain ⟨first, rfl, attachedTo, target, rp, found, live⟩ :=
    before.wwn_lookup after opened between between' behind looked
  obtain ⟨kern, index⟩ := after.remote_numbers opened attachedTo
  have definite : rport.apScsiTarget ≠ anyPart := target ▸ behind.target
  have only : scsiDevices env.sysfs (sgContext rp rport device.2.lun.toUInt64).accepts = [device] := by
    apply scsiDevices_singleton distinct member
    apply sgContext_accepts rp (kern.trans host.symm) (index.trans first.symm) target ?_
      behind.target behind.lun
    rw [first]
    decide
  have few : (scsiDevices env.sysfs (sgContext rp rport device.2.lun.toUInt64).accepts).length ≤ 2 ^ 32 := by
    rw [only, List.length_singleton]
    decide
  have walked := sgWalk_eq live few
  have answered := getBindingSgName_eq found live definite few
  rw [only] at walked answered
  exact ⟨rp, rport, attached, _, found, live, only, walked, rfl, answered⟩

/-- The remote ports of the local port were attached for it. -/
theorem Behind.attached {env : Env} {handle : HbaHandle} {lib : Lib} {address : ScsiAddress}
    {lp : Ptr} {rport : PortInfo} (behind : Behind env handle lib address lp rport) :
    ∃ attached, getRportInfo env lp lib = .ok attached := by
  have remote := behind.remote
  rw [targetRport_of_port behind.localPort] at remote
  cases called : getRportInfo env lp lib with
  | ok attached => exact ⟨attached, rfl⟩
  | error fault =>
      simp only [attachedRemotes, called, List.find?_nil] at remote
      cases remote

/-- Each entry for a device behind a remote port, given by its two identifiers, selects
    this device. -/
def LeadsBack (env : Env) (handle : HbaHandle) (lib lib' : Lib) (devices : List (CStr × ScsiAddress))
    (limit : UInt32) (ids : Nat → Option (HbaScsiId × HbaFcpId)) : Prop :=
  ∀ k < limit.toNat, ∀ device, placedAt k devices = some device →
    ∀ lp rport, Behind env handle lib device.2 lp rport →
      ∃ fcpId, ids k = some (scsiIdOf env.sysfs device, fcpId) ∧
        fcpId = fcpIdOf (some rport) device.2.lun ∧
        Selects env lp fcpId.portWwn fcpId.fcpLun lib' device

/-- The entries that a walk over the devices of an adapter leaves lead back. -/
theorem readMapping_leads_back {env : Env} {lib lib' : Lib} (sound : lib.Sound)
    (distinct : ((scsiDevices env.sysfs fun _ => true).map Prod.snd).Nodup) {handle : HbaHandle}
    {ap pp : Ptr} {adapter : AdapterInfo} {local_ : PortInfo}
    (opened : Opened handle ap pp adapter local_ lib) {port ver limit : UInt32}
    {entries : List HbaFcpScsiEntryV2} {test : ScsiAddress → Bool}
    (accepts : (mappingContext handle adapter.adKernIndex port ver limit entries).accepts = test)
    (host : ∀ address, test address = true → address.hba = adapter.adKernIndex)
    {status : HbaStatus} {filled : HbaFcpTargetMapping HbaFcpScsiEntryV2}
    (called : readMapping env (mappingContext handle adapter.adKernIndex port ver limit entries) lib =
      .ok ((status, filled), lib')) :
    LeadsBack env handle lib lib' (scsiDevices env.sysfs test) limit fun k =>
      filled.entry[k]?.map fun entry => (entry.scsiId, entry.fcpId) := by
  intro k room device last lp rport behind
  obtain ⟨attached, attaches⟩ := behind.attached
  obtain ⟨i, slot⟩ := opened.slot
  have localPort := behind.localPort
  rw [slot.adapterGetPort_eq opened.handle, Except.ok.injEq] at localPort
  split at localPort
  · obtain rfl : pp = lp := Option.some.inj localPort
    obtain ⟨before, after⟩ := sound.between slot attaches
    have lookup : RemoteLookup env
        (mappingContext handle adapter.adKernIndex port ver limit entries)
        (Between env pp lib attached) (targetRport env handle lib) :=
      (before.looking after opened).remoteLookup rfl rfl
    obtain ⟨between, ctxt, same, placed⟩ := readMapping_placed lookup rfl before called
    rw [accepts] at placed
    obtain ⟨entry, here, scsi, fcp, s, r, reached, looked⟩ := placed.entries k room device last
    obtain ⟨member, passes⟩ := mem_scsiDevices.mp (placedAt_mem last)
    have fcpId := fcp rport behind.remote
    refine ⟨entry.fcpId, ?_, fcpId, ?_⟩
    · simp only [same, here, Option.map_some, scsi]
    · rw [fcpId]
      exact before.selects after opened reached between distinct member (host _ passes) behind looked
  · cases localPort

/-- The entries of both mapping functions lead back. -/
theorem mappings_lead_back {allowed : Env → Prop} {env : Env} {lib : Lib}
    (reachable : Reachable allowed lib)
    (distinct : ((scsiDevices env.sysfs fun _ => true).map Prod.snd).Nodup) {handle : HbaHandle}
    {ap : Ptr} {adapter : AdapterInfo} (opened : adapterOpenHandle lib handle = .ok (some ap))
    (live : lib.adapters.get ap = some adapter) :
    (∀ map status filled lib',
      getBindingTargetMappingV1 env handle map lib = .ok ((status, filled), lib') →
      LeadsBack env handle lib lib'
        (scsiDevices env.sysfs fun address => address.hba = adapter.adKernIndex)
        map.numberOfEntries
        fun k => filled.entry[k]?.map fun entry => (entry.scsiId, entry.fcpId)) ∧
    ∀ wwn pp n port, adapterGetPortByWwn lib handle wwn = .ok (some pp, n) →
      lib.lports.get pp = some port → ∀ map status filled lib',
      getBindingTargetMappingV2 env handle wwn map lib = .ok ((status, filled), lib') →
      LeadsBack env handle lib lib'
        (scsiDevices env.sysfs fun address =>
          address.hba = adapter.adKernIndex ∧ address.port = port.apIndex)
        map.numberOfEntries
        fun k => filled.entry[k]?.map fun entry => (entry.scsiId, entry.fcpId) := by
  have sound := Lib.Sound.of_reachable reachable
  obtain ⟨i, pp, adapter', port, slot⟩ := sound.adapters.opened opened
  obtain rfl : adapter' = adapter := Option.some.inj (slot.owns.live.symm.trans live)
  have isOpen : Opened handle ap pp adapter' port lib := ⟨⟨i, slot⟩, opened⟩
  constructor
  · intro map status filled lib' called
    unfold getBindingTargetMappingV1 at called
    simp only [opened, ok_bind, Lib.adapter, live, demand_some] at called
    obtain ⟨⟨⟨status', wide⟩, last⟩, read, rest⟩ := bind_eq_ok.mp called
    cases rest
    have back := readMapping_leads_back sound distinct isOpen
      (mappingContext_accepts handle adapter'.adKernIndex 1 map.numberOfEntries
        (map.entry.map HbaFcpScsiEntry.widen))
      (fun address passes => by simpa using passes) read
    intro k room device placed lp rport behind
    obtain ⟨fcpId, ids, made, selects⟩ := back k room device placed lp rport behind
    refine ⟨fcpId, ?_, made, selects⟩
    simp only [← ids, List.getElem?_map, Option.map_map]
    rfl
  · intro wwn pp' n port' found here map status filled lib' called
    rw [slot.adapterGetPortByWwn_eq opened, Except.ok.injEq] at found
    split at found
    · rename_i named
      cases found
      obtain rfl : port = port' := Option.some.inj (slot.owns.livePort.symm.trans here)
      have definite : port.apIndex ≠ anyPart := by
        have index : port.apIndex = 0 := slot.portIndex
        rw [index]
        decide
      have owner : port.apAdapt = some ap := slot.owns.owner
      unfold getBindingTargetMappingV2 at called
      simp only [slot.adapterGetPortByWwn_eq opened, named, if_true, ok_bind, Lib.port, here,
        demand_some, owner, Lib.adapter, live] at called
      exact readMapping_leads_back sound distinct isOpen
        (mappingContext_accepts_port handle adapter'.adKernIndex 2 map.numberOfEntries map.entry
          definite)
        (fun address passes => (of_decide_eq_true passes).1) called
    · cases found

/-- The SCSI devices of `host3` in the system of two hosts, in the order of their listing. -/
def twinDevices : List (CStr × ScsiAddress) :=
  [("3:0:1:0".toList, ⟨3, 0, 1, 0⟩), ("3:0:0:0".toList, ⟨3, 0, 0, 0⟩)]

private theorem twinSystem_devices :
    (adapterOpenHandle (loadedState twinSystem) 0x100).toOption = some (some 0) ∧
      ((loadedState twinSystem).adapters.get 0).map AdapterInfo.adKernIndex = some 3 ∧
      ((scsiDevices twinSystem.sysfs fun _ => true).map Prod.snd).Nodup ∧
      (adapterGetPort (loadedState twinSystem) 0x100 0).toOption = some (some 0) ∧
      ((attachedRemotes twinSystem 0 (loadedState twinSystem)).map fun rport =>
        rport.apAttr.portWwn) = [copyWwn 0x4000000000000001, copyWwn 0x4000000000000002] ∧
      (scsiDevices twinSystem.sysfs fun address => address.hba = 3) = twinDevices ∧
      (∀ device ∈ twinDevices, device.2.port = 0 ∧ device.2.tgt ≠ anyPart ∧ device.2.lun ≠ anyPart ∧
        (targetRport twinSystem 0x100 (loadedState twinSystem) device.2).isSome = true) ∧
      (getBindingTargetMappingV1 twinSystem 0x100 ⟨2, [.zero, .zero]⟩
        (loadedState twinSystem)).toOption.isSome = true := by
  decide +kernel

/-- A device of the first host is behind a remote port that no other one is confused with. -/
theorem behind_twin {device : CStr × ScsiAddress} (member : device ∈ twinDevices) :
    ∃ rport, Behind twinSystem 0x100 (loadedState twinSystem) device.2 0 rport := by
  obtain ⟨-, -, -, localPort, names, -, devices, -⟩ := twinSystem_devices
  obtain ⟨port, target, lun, remote⟩ := devices device member
  obtain ⟨rport, remote⟩ := Option.isSome_iff_exists.mp remote
  have local0 : adapterGetPort (loadedState twinSystem) 0x100 device.2.port = .ok (some 0) := by
    rw [port]
    exact eq_ok_of_toOption localPort
  refine ⟨rport, local0, remote, target, lun, fun other listed same => ?_⟩
  rw [targetRport_of_port local0] at remote
  have distinct : ((attachedRemotes twinSystem 0 (loadedState twinSystem)).map fun rport =>
      rport.apAttr.portWwn).Nodup := by
    rw [names]
    decide
  exact List.inj_on_of_nodup_map distinct listed (List.mem_of_find?_eq_some remote) same

/-- The mapping entries of two devices behind two remote ports select each its own. -/
theorem mappings_lead_back_small : ∃ status filled lib',
    getBindingTargetMappingV1 twinSystem 0x100 ⟨2, [.zero, .zero]⟩ (loadedState twinSystem) =
      .ok ((status, filled), lib') ∧
    ∀ k < 2, ∃ device fcpId, twinDevices[k]? = some device ∧
      filled.entry[k]?.map (fun entry => (entry.scsiId, entry.fcpId)) =
        some (scsiIdOf twinSystem.sysfs device, fcpId) ∧
      Selects twinSystem 0 fcpId.portWwn fcpId.fcpLun lib' device := by
  obtain ⟨opened, kern, distinct, -, -, listed, -, returns⟩ := twinSystem_devices
  obtain ⟨adapter, live, index⟩ := Option.map_eq_some_iff.mp kern
  obtain ⟨⟨⟨status, filled⟩, lib'⟩, called⟩ : ∃ r, getBindingTargetMappingV1 twinSystem 0x100
      ⟨2, [.zero, .zero]⟩ (loadedState twinSystem) = .ok r :=
    ⟨_, eq_ok_getD returns ((0, ⟨0, []⟩), .init)⟩
  have back := (mappings_lead_back reachable_twin distinct (eq_ok_of_toOption opened) live).1
    _ _ _ _ called
  rw [index, listed] at back
  refine ⟨status, filled, lib', called, fun k below => ?_⟩
  have placed : ∀ k < 2, ∃ device ∈ twinDevices, twinDevices[k]? = some device ∧
      placedAt k twinDevices = some device := by decide
  obtain ⟨device, member, here, at_⟩ := placed k below
  obtain ⟨rport, behind⟩ := behind_twin member
  obtain ⟨fcpId, ids, -, selects⟩ := back k below device at_ 0 rport behind
  exact ⟨device, fcpId, here, ids, selects⟩

end Hbalinux
