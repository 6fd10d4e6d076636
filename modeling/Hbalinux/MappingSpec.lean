import Hbalinux.C.Buffer
import Hbalinux.Lookup

/-! # The walk over the SCSI devices

What the callback has done after some entries of the directory is determined by
the list of those it has accepted: the count is its length modulo `2 ^ 32`, the
buffer has been offered their mappings, and the SCSI-generic name is that of the
last one with a place.  The remote port behind an address comes from a lookup that
the walk repeats for every entry; `RemoteLookup` and `LookupReturns` say what the
walk needs of it.
-/

namespace Hbalinux

open Outcome

/-- The name of an entry with the address in it, when that passes the test. -/
def accepted (test : ScsiAddress → Bool) (dp : DirEnt) : Option (CStr × ScsiAddress) :=
  ((scsiAddress dp.dName).filter test).map fun address => (dp.dName, address)

/-- The entries whose name is an address that passes the test, in directory order. -/
def addressed (test : ScsiAddress → Bool) (es : List DirEnt) : List (CStr × ScsiAddress) :=
  es.filterMap (accepted test)

theorem accepted_eq_some {test : ScsiAddress → Bool} {dp : DirEnt} {device : CStr × ScsiAddress} :
    accepted test dp = some device ↔
      dp.dName = device.1 ∧ scsiAddress dp.dName = some device.2 ∧ test device.2 = true := by
  simp only [accepted, Option.map_eq_some_iff, Option.filter_eq_some_iff]
  constructor
  · rintro ⟨address, ⟨parsed, passes⟩, rfl⟩
    exact ⟨rfl, parsed, passes⟩
  · rintro ⟨name, parsed, passes⟩
    exact ⟨device.2, ⟨parsed, passes⟩, by rw [name]⟩

theorem accepted_eq_none {test : ScsiAddress → Bool} {dp : DirEnt} (none : accepted test dp = none)
    {address : ScsiAddress} (parsed : scsiAddress dp.dName = some address) : test address = false := by
  cases passes : test address with
  | false => rfl
  | true =>
      have found : accepted test dp = some (dp.dName, address) :=
        accepted_eq_some.mpr ⟨rfl, parsed, passes⟩
      rw [none] at found
      cases found

def scsiDevices (sysfs : Sysfs) (test : ScsiAddress → Bool) : List (CStr × ScsiAddress) :=
  addressed test (sysfs.listing sysfsLunDir)

/-- A test picks from all devices. -/
theorem scsiDevices_filter (sysfs : Sysfs) (test : ScsiAddress → Bool) :
    scsiDevices sysfs test =
      (scsiDevices sysfs fun _ => true).filter fun device => test device.2 := by
  unfold scsiDevices addressed
  rw [List.filter_filterMap]
  congr 1
  funext dp
  unfold accepted
  cases scsiAddress dp.dName with
  | none => rfl
  | some address => cases passes : test address <;> simp [Option.filter, passes]

theorem mem_scsiDevices {sysfs : Sysfs} {test : ScsiAddress → Bool} {device : CStr × ScsiAddress} :
    device ∈ scsiDevices sysfs test ↔
      device ∈ (scsiDevices sysfs fun _ => true) ∧ test device.2 = true := by
  rw [scsiDevices_filter, List.mem_filter]

/-- Keys that differ pick one value. -/
theorem filter_key {α β : Type} {f : α → β} {as : List α} (distinct : (as.map f).Nodup)
    {a : α} (member : a ∈ as) {test : α → Bool} (only : ∀ b, test b = true ↔ f b = f a) :
    as.filter test = [a] := by
  induction as with
  | nil => cases member
  | cons b as ih =>
      obtain ⟨absent, distinct⟩ := List.nodup_cons.mp distinct
      rcases List.mem_cons.mp member with rfl | later
      · rw [List.filter_cons_of_pos ((only a).mpr rfl), List.filter_eq_nil_iff.mpr]
        intro b there passes
        exact absent ((only b).mp passes ▸ List.mem_map_of_mem there)
      · rw [List.filter_cons_of_neg, ih distinct later]
        intro passes
        exact absent ((only b).mp passes ▸ List.mem_map_of_mem later)

/-- Only one of several devices with different addresses has a given one. -/
theorem scsiDevices_singleton {sysfs : Sysfs}
    (distinct : ((scsiDevices sysfs fun _ => true).map Prod.snd).Nodup)
    {test : ScsiAddress → Bool} {device : CStr × ScsiAddress}
    (member : device ∈ scsiDevices sysfs fun _ => true)
    (only : ∀ address, test address = true ↔ address = device.2) :
    scsiDevices sysfs test = [device] := by
  rw [scsiDevices_filter]
  exact filter_key distinct member fun other => only other.2

/-- `"%u:%u:%u:%u"`, as the kernel names SCSI devices. -/
def scsiName (address : ScsiAddress) : CStr :=
  decimal address.hba.toNat ++ ':' :: (decimal address.port.toNat ++ ':' ::
    (decimal address.tgt.toNat ++ ':' :: decimal address.lun.toNat))

/-- The name of a device is its address. -/
theorem scsiAddress_scsiName (address : ScsiAddress) :
    scsiAddress (scsiName address) = some address := by
  have colon : ∀ rest, Stops (':' :: rest) := stops_cons (by decide)
  have last := sscanf_decimal address.lun [] stops_nil
  rw [List.append_nil, sscanf_nil] at last
  unfold scsiAddress scsiDeviceFormat scsiName
  rw [sscanf_decimal _ _ (colon _), sscanf_lit, sscanf_decimal _ _ (colon _), sscanf_lit,
    sscanf_decimal _ _ (colon _), sscanf_lit, last]

/-- The device names found in the directory of a SCSI device. -/
def deviceNames (sysfs : Sysfs) (dName : CStr) : OsNames :=
  (osNames sysfs dName).toOption.getD ⟨[], [], []⟩

/-- The FCP identifier of a logical unit of a remote port. -/
def fcpIdOf (rport : Option PortInfo) (lun : UInt32) : HbaFcpId :=
  match rport with
  | none => .zero
  | some rport =>
      { fcId := rport.apAttr.portFcId
        nodeWwn := rport.apAttr.nodeWwn
        portWwn := rport.apAttr.portWwn
        fcpLun := lun.toUInt64 }

def scsiIdOf (sysfs : Sysfs) (device : CStr × ScsiAddress) : HbaScsiId where
  osDeviceName := (deviceNames sysfs device.1).osDeviceName
  scsiBusNumber := device.2.hba
  scsiTargetNumber := device.2.tgt
  scsiOSLun := device.2.lun

/-- The mapping of a SCSI device behind a remote port. -/
def mappingEntry (env : Env) (ver : UInt32) (rport : Option PortInfo)
    (device : CStr × ScsiAddress) : HbaFcpScsiEntryV2 :=
  let names := deviceNames env.sysfs device.1
  let clear := HbaFcpScsiEntryV2.zero.luid
  { scsiId := scsiIdOf env.sysfs device
    fcpId := fcpIdOf rport device.2.lun
    luid := if ver = 2 ∧ names.ocSg ≠ [] then env.sgGetDevId names.ocSg clear else clear }

theorem getBindingOsNames_returns (sysfs : Sysfs) (dp : DirEnt) (names : OsNames) :
    ∃ r, getBindingOsNames sysfs dp names = .ok r := by
  unfold getBindingOsNames
  split
  · split
    · exact ⟨_, rfl⟩
    · split <;> exact ⟨_, rfl⟩
  · split
    · obtain ⟨s, read⟩ := @saDirRead_returns _ sysfs
        (snprintf 256 (joinPath (saStrncpySafe 256 names.ocPath 256) dp.dName))
        getDeprecatedDeviceName (fun _ _ => ⟨_, rfl⟩)
        { names with ocPath := snprintf 256 (joinPath (saStrncpySafe 256 names.ocPath 256) dp.dName) }
      simp only [read, ok_bind]
      exact ⟨_, rfl⟩
    · exact ⟨_, rfl⟩
  · exact ⟨_, rfl⟩

theorem osNames_eq (sysfs : Sysfs) (dName : CStr) :
    osNames sysfs dName = .ok (deviceNames sysfs dName) := by
  apply eq_ok_getD
  obtain ⟨names, read⟩ := saDirRead_returns (getBindingOsNames_returns sysfs)
    { osDeviceName := [], ocSg := [], ocPath := saStrncpySafe 256 (deviceDir dName) 50 }
  rw [osNames, read]
  rfl

/-- The lookups behind a context always find the same remote port for an address, and
    keep what later lookups rely on. -/
def RemoteLookup (env : Env) (cp : BindingContext) (W : Lib → Prop)
    (remote : ScsiAddress → Option PortInfo) : Prop :=
  ∀ address lib rp lib', W lib → mappedRport env cp address lib = .ok (rp, lib') →
    W lib' ∧ rp.map lib'.rports.get = (remote address).map some

/-- The lookups behind a context return. -/
def LookupReturns (env : Env) (cp : BindingContext) (W : Lib → Prop) : Prop :=
  ∀ address lib, W lib → ∃ r, mappedRport env cp address lib = .ok r

/-- The context after the devices in `seen` have been accepted. -/
def BindingContext.after (cp : BindingContext) (env : Env) (remote : ScsiAddress → Option PortInfo)
    (rest : List HbaFcpScsiEntryV2) (seen : List (CStr × ScsiAddress)) : BindingContext :=
  { cp with
    ocCount := UInt32.ofNat seen.length
    ocEntries := offered .zero cp.ocLimit.toNat
      (seen.map fun device => mappingEntry env cp.ocVer (remote device.2) device) rest
    ocSg := ((seen.take cp.ocLimit.toNat).getLast?.map fun device =>
      (deviceNames env.sysfs device.1).ocSg).getD cp.ocSg }

theorem toNat_ofNat_small {n : Nat} (small : n < 2 ^ 32) : (UInt32.ofNat n).toNat = n := by
  rw [UInt32.toNat_ofNat']
  exact Nat.mod_eq_of_lt small

theorem BindingContext.after_count {cp : BindingContext} {env : Env}
    {remote : ScsiAddress → Option PortInfo} {rest : List HbaFcpScsiEntryV2}
    {seen : List (CStr × ScsiAddress)} (few : seen.length < 2 ^ 32) :
    (cp.after env remote rest seen).ocCount.toNat = seen.length := toNat_ofNat_small few

/-- An accepted device with a place. -/
theorem BindingContext.after_room {cp : BindingContext} {env : Env}
    {remote : ScsiAddress → Option PortInfo} {rest : List HbaFcpScsiEntryV2}
    {seen : List (CStr × ScsiAddress)} (room : seen.length < cp.ocLimit.toNat)
    (device : CStr × ScsiAddress) :
    { cp.after env remote rest seen with
      ocCount := (cp.after env remote rest seen).ocCount + 1
      ocEntries := (cp.after env remote rest seen).ocEntries.set seen.length
        (mappingEntry env cp.ocVer (remote device.2) device)
      ocSg := (deviceNames env.sysfs device.1).ocSg } =
      cp.after env remote rest (seen ++ [device]) := by
  have mapped : seen.length = (seen.map fun device =>
      mappingEntry env cp.ocVer (remote device.2) device).length := by
    rw [List.length_map]
  simp only [BindingContext.after, List.length_append, List.length_singleton, List.map_append,
    List.map_singleton, UInt32.ofNat_add, UInt32.ofNat_one]
  congr 1
  · rw [mapped]
    exact offered_store (by rwa [List.length_map]) _ _
  · rw [List.take_of_length_le (by simp; omega), List.getLast?_concat]
    rfl

/-- An accepted device without one. -/
theorem BindingContext.after_full {cp : BindingContext} {env : Env}
    {remote : ScsiAddress → Option PortInfo} {rest : List HbaFcpScsiEntryV2}
    {seen : List (CStr × ScsiAddress)} (full : cp.ocLimit.toNat ≤ seen.length)
    (device : CStr × ScsiAddress) :
    { cp.after env remote rest seen with
      ocCount := (cp.after env remote rest seen).ocCount + 1 } =
      cp.after env remote rest (seen ++ [device]) := by
  simp only [BindingContext.after, List.length_append, List.length_singleton, List.map_append,
    List.map_singleton, UInt32.ofNat_add, UInt32.ofNat_one]
  congr 1
  · exact (offered_full (by rwa [List.length_map]) _ _).symm
  · rw [List.take_append_of_le_length full]

theorem mappedFcpId_eq {lib : Lib} {rp : Option Ptr} {rport : Option PortInfo}
    (same : rp.map lib.rports.get = rport.map some) (lun : UInt32) :
    mappedFcpId rp lun .zero lib = .ok (fcpIdOf rport lun) := by
  cases rp with
  | none =>
      cases rport with
      | none => rfl
      | some rport => cases same
  | some rp =>
      cases rport with
      | none => cases same
      | some rport =>
          have live : lib.rports.get rp = some rport := Option.some.inj same
          rw [mappedFcpId, Lib.rport, live]
          rfl

theorem fillEntry_eq {env : Env} {lib : Lib} {rp : Option Ptr} {rport : Option PortInfo}
    (same : rp.map lib.rports.get = rport.map some) (ver : UInt32) (device : CStr × ScsiAddress) :
    fillEntry env ver device.1 device.2 rp lib .zero =
      .ok (mappingEntry env ver rport device, (deviceNames env.sysfs device.1).ocSg) := by
  have identified : mappedFcpId rp device.2.lun HbaFcpScsiEntryV2.zero.fcpId lib =
      .ok (fcpIdOf rport device.2.lun) := mappedFcpId_eq same _
  rw [fillEntry, identified, ok_bind, osNames_eq, ok_bind]
  rfl

/-- An entry that is not accepted changes nothing. -/
theorem mapping_skip {env : Env} {dp : DirEnt} {cp : BindingContext} {lib : Lib}
    (other : accepted cp.accepts dp = none) :
    getBindingTargetMapping env dp (cp, lib) = .ok (0, cp, lib) := by
  unfold getBindingTargetMapping
  cases parsed : scsiAddress dp.dName with
  | none => rfl
  | some address => simp [accepted_eq_none other parsed]

/-- An entry that is accepted is counted, and mapped while there is room. -/
theorem mapping_take {env : Env} {cp : BindingContext} {W : Lib → Prop}
    {remote : ScsiAddress → Option PortInfo} (lookup : RemoteLookup env cp W remote)
    (ver : cp.ocVer = 1 ∨ cp.ocVer = 2) (rest : List HbaFcpScsiEntryV2)
    {seen : List (CStr × ScsiAddress)} (few : seen.length < 2 ^ 32) {dp : DirEnt}
    {device : CStr × ScsiAddress} (found : accepted cp.accepts dp = some device) {lib : Lib}
    (held : W lib) :
    Yields (¬ LookupReturns env cp W)
      (fun s => s.1 = cp.after env remote rest (seen ++ [device]) ∧ W s.2)
      (getBindingTargetMapping env dp (cp.after env remote rest seen, lib)) 0 := by
  obtain ⟨name, parsed, passes⟩ := accepted_eq_some.mp found
  have accepts : (cp.after env remote rest seen).accepts device.2 = true := passes
  have count : (cp.after env remote rest seen).ocCount.toNat = seen.length :=
    BindingContext.after_count few
  have limit : (cp.after env remote rest seen).ocLimit = cp.ocLimit := rfl
  unfold getBindingTargetMapping
  simp only [parsed, accepts, Bool.true_eq_false, if_false]
  by_cases room : seen.length < cp.ocLimit.toNat
  · rw [if_pos (by rwa [UInt32.lt_iff_toNat_lt, count, limit])]
    have place : (cp.after env remote rest seen).place = .ok .zero := by
      have clear := @offered_place _ HbaFcpScsiEntryV2.zero cp.ocLimit.toNat
        (seen.map fun device => mappingEntry env cp.ocVer (remote device.2) device)
        (by rwa [List.length_map]) rest
      rw [List.length_map, ← count] at clear
      exact (if_pos ver).trans (demand_eq_ok.mpr clear)
    have look : mappedRport env (cp.after env remote rest seen) device.2 lib =
        mappedRport env cp device.2 lib := rfl
    cases looked : mappedRport env cp device.2 lib with
    | error fault =>
        refine .faults fault ?_ fun returns => ?_
        · simp only [place, look, looked, ok_bind, error_bind]
        · obtain ⟨r, returned⟩ := returns device.2 lib held
          rw [looked] at returned
          cases returned
    | ok r =>
        obtain ⟨rp, lib'⟩ := r
        obtain ⟨held', same⟩ := lookup device.2 lib rp lib' held looked
        have fill := @fillEntry_eq env _ _ _ same cp.ocVer device
        have version : (cp.after env remote rest seen).ocVer = cp.ocVer := rfl
        refine .returns (cp.after env remote rest (seen ++ [device]), lib') ?_ ⟨rfl, held'⟩
        simp only [place, look, looked, ok_bind, version, name, fill, count]
        rw [← BindingContext.after_room room]
        rfl
  · rw [if_neg (by rwa [UInt32.lt_iff_toNat_lt, count, limit])]
    exact .returns _ rfl ⟨BindingContext.after_full (by omega) device, held⟩

theorem addressed_append (test : ScsiAddress → Bool) (before after : List DirEnt) :
    addressed test (before ++ after) = addressed test before ++ addressed test after :=
  List.filterMap_append ..

/-- The whole walk. -/
theorem mapping_walk {env : Env} {cp : BindingContext} {W : Lib → Prop}
    {remote : ScsiAddress → Option PortInfo} (lookup : RemoteLookup env cp W remote)
    (ver : cp.ocVer = 1 ∨ cp.ocVer = 2) (rest : List HbaFcpScsiEntryV2) (es : List DirEnt) {lib : Lib}
    (held : W lib) (few : (addressed cp.accepts es).length ≤ 2 ^ 32) :
    Yields (¬ LookupReturns env cp W)
      (fun s => s.1 = cp.after env remote rest (addressed cp.accepts es) ∧ W s.2)
      (untilNonzero (getBindingTargetMapping env) es (cp.after env remote rest [], lib)) 0 := by
  refine @untilNonzero_yields _ (BindingContext × Lib) _
    (fun before s => s.1 = cp.after env remote rest (addressed cp.accepts before) ∧ W s.2)
    _ [] es _ ⟨rfl, held⟩ ?_
  rintro before dp after whole ⟨ctxt, lib⟩ ⟨rfl, held⟩
  rw [addressed_append]
  cases found : accepted cp.accepts dp with
  | none =>
      have skipped : addressed cp.accepts [dp] = [] := List.filterMap_cons_none found
      rw [skipped, List.append_nil]
      exact .returns _ (mapping_skip found) ⟨rfl, held⟩
  | some device =>
      have taken : addressed cp.accepts [dp] = [device] := List.filterMap_cons_some found
      rw [taken]
      refine mapping_take lookup ver rest ?_ found held
      have here : addressed cp.accepts (dp :: after) = device :: addressed cp.accepts after :=
        List.filterMap_cons_some found
      rw [← List.nil_append es, whole, addressed_append, List.length_append, here,
        List.length_cons] at few
      omega

/-- The walk of `getBindingSgName`, whose context brings its remote port. -/
theorem sgWalk_eq {env : Env} {rp : Ptr} {rport : PortInfo} {lun : UInt64} {lib : Lib}
    (live : lib.rports.get rp = some rport)
    (few : (scsiDevices env.sysfs (sgContext rp rport lun).accepts).length ≤ 2 ^ 32) :
    Except.map Prod.snd (saDirRead env.sysfs sysfsLunDir (getBindingTargetMapping env)
        (sgContext rp rport lun, lib)) =
      .ok ((sgContext rp rport lun).after env (fun _ => some rport) []
        (scsiDevices env.sysfs (sgContext rp rport lun).accepts), lib) := by
  have lookup : RemoteLookup env (sgContext rp rport lun) (· = lib) (fun _ => some rport) := by
    intro address s rp' s' same looked
    subst same
    cases looked
    simp [live]
  have returns : LookupReturns env (sgContext rp rport lun) (· = lib) := fun _ s _ => ⟨_, rfl⟩
  obtain ⟨⟨ctxt, lib'⟩, ⟨rfl, rfl⟩, walked⟩ := (mapping_walk lookup (.inl rfl) []
    (env.sysfs.listing sysfsLunDir) rfl few).total (not_not_intro returns)
  have start : (sgContext rp rport lun).after env (fun _ => some rport) [] [] =
      sgContext rp rport lun := rfl
  rw [start] at walked
  rw [saDirRead_state, walked]
  rfl

/-- What `getBindingSgName` answers once it has its remote port. -/
theorem getBindingSgName_eq {env : Env} {lp rp : Ptr} {wwn : HbaWwn} {rport : PortInfo}
    {lun : UInt64} {lib lib' : Lib}
    (found : adapterGetRportByWwn env lp wwn lib = .ok (some rp, lib'))
    (live : lib'.rports.get rp = some rport) (definite : rport.apScsiTarget ≠ anyPart)
    (few : (scsiDevices env.sysfs (sgContext rp rport lun).accepts).length ≤ 2 ^ 32) (len : Nat) :
    getBindingSgName env lp wwn lun len lib = .ok
      (if UInt32.ofNat (scsiDevices env.sysfs (sgContext rp rport lun).accepts).length = 1 then
        .ok (saStrncpySafe len (((scsiDevices env.sysfs (sgContext rp rport lun).accepts).head?.map
          fun device => (deviceNames env.sysfs device.1).ocSg).getD []) 32)
      else .error enoent, lib') := by
  unfold getBindingSgName
  simp only [found, ok_bind, Lib.rport, live, demand_some, if_neg definite, sgWalk_eq live few]
  have count : ((sgContext rp rport lun).after env (fun _ => some rport) []
      (scsiDevices env.sysfs (sgContext rp rport lun).accepts)).ocCount =
      UInt32.ofNat (scsiDevices env.sysfs (sgContext rp rport lun).accepts).length := rfl
  have first : ((sgContext rp rport lun).after env (fun _ => some rport) []
      (scsiDevices env.sysfs (sgContext rp rport lun).accepts)).ocSg =
      ((scsiDevices env.sysfs (sgContext rp rport lun).accepts).head?.map
        fun device => (deviceNames env.sysfs device.1).ocSg).getD [] := by
    cases scsiDevices env.sysfs (sgContext rp rport lun).accepts <;> rfl
  rw [count, first]
  by_cases one : UInt32.ofNat (scsiDevices env.sysfs (sgContext rp rport lun).accepts).length = 1
  · rw [if_pos one, if_neg (not_not_intro one)]
  · rw [if_neg one, if_pos one]

end Hbalinux
