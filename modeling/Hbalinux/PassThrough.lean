import Hbalinux.DeviceNames
import Hbalinux.RoundTrip

/-! # SCSI pass-through

The LUN of a request is narrowed to 32 bits, and the number -1 among these stands
for any LUN.  The lookup of a SCSI-generic name therefore keeps to the LUN it is
asked for only under a condition on the LUN, the directory of SCSI devices and the
directories in it.
-/

namespace Hbalinux

open Outcome

/-- The directory of SCSI devices holds names as the kernel gives them, each once. -/
structure ScsiListing (sysfs : Sysfs) : Prop where
  names : ((sysfs.listing sysfsLunDir).map DirEnt.dName).Nodup
  kernel : ∀ dp ∈ sysfs.listing sysfsLunDir, ∃ address, dp.dName = scsiName address

theorem ScsiListing.name {sysfs : Sysfs} (listing : ScsiListing sysfs) {test : ScsiAddress → Bool}
    {device : CStr × ScsiAddress} (member : device ∈ scsiDevices sysfs test) :
    device.1 = scsiName device.2 := by
  obtain ⟨dp, entry, found⟩ := List.mem_filterMap.mp member
  obtain ⟨name, parsed, -⟩ := accepted_eq_some.mp found
  obtain ⟨address, kernel⟩ := listing.kernel dp entry
  rw [kernel, scsiAddress_scsiName, Option.some.injEq] at parsed
  rw [← name, kernel, parsed]

private theorem map_name_sublist (es : List DirEnt) :
    ((addressed (fun _ => true) es).map Prod.fst).Sublist (es.map DirEnt.dName) := by
  induction es with
  | nil => exact List.Sublist.refl _
  | cons dp es ih =>
      unfold addressed at ih ⊢
      cases found : accepted (fun _ => true) dp with
      | none =>
          rw [List.filterMap_cons_none found]
          exact ih.cons _
      | some device =>
          rw [List.filterMap_cons_some found, List.map_cons, List.map_cons,
            (accepted_eq_some.mp found).1]
          exact ih.cons_cons _

/-- No two SCSI devices have one address. -/
theorem ScsiListing.distinct {sysfs : Sysfs} (listing : ScsiListing sysfs) :
    ((scsiDevices sysfs fun _ => true).map Prod.snd).Nodup := by
  have names : ((scsiDevices sysfs fun _ => true).map Prod.fst).Nodup :=
    (map_name_sublist _).nodup listing.names
  have same : (scsiDevices sysfs fun _ => true).map Prod.fst =
      ((scsiDevices sysfs fun _ => true).map Prod.snd).map scsiName := by
    rw [List.map_map]
    exact List.map_congr_left fun device member => listing.name member
  exact List.Nodup.of_map scsiName (same ▸ names)

/-- The SCSI devices behind a remote port. -/
def targetDevices (sysfs : Sysfs) (rport : PortInfo) : List (CStr × ScsiAddress) :=
  scsiDevices sysfs fun address => address.hba = rport.apKernHba ∧ address.port = rport.apIndex ∧
    address.tgt = rport.apScsiTarget

/-- Those with a LUN, compared in 64 bits. -/
def unitDevices (sysfs : Sysfs) (rport : PortInfo) (lun : UInt64) : List (CStr × ScsiAddress) :=
  (targetDevices sysfs rport).filter fun device => device.2.lun.toUInt64 = lun

/-- Those that pass for a LUN once it is narrowed. -/
def narrowedDevices (sysfs : Sysfs) (rport : PortInfo) (lun : UInt64) : List (CStr × ScsiAddress) :=
  (targetDevices sysfs rport).filter fun device =>
    device.2.lun = lun.toUInt32 ∨ lun.toUInt32 = anyPart

/-- The directory of a SCSI device, whole. -/
def unitDir (dName : CStr) : CStr := joinPath (joinPath sysfsLunDir dName) "device"

/-- The last SCSI-generic device that the directory of a SCSI device names. -/
def unitSg (sysfs : Sysfs) (device : CStr × ScsiAddress) : Option CStr :=
  (sysfs.sgDevices (unitDir device.1)).getLast?

/-- What is left of the SCSI-generic name in `len` bytes, after the path of the
    directory was cut to 49 characters and the name to 31. -/
def copiedSg (sysfs : Sysfs) (len : Nat) (device : CStr × ScsiAddress) : CStr :=
  saStrncpySafe len (overwritten [] ((sysfs.sgDevices (deviceDir device.1)).map sgName)) 32

/-- A name that its copies leave as it is, when there are `len` bytes for it: it is printable, has
    no blank at its end, and fits behind `/dev/` in the shorter of the two buffers. -/
structure Showable (len : Nat) (sg : CStr) : Prop where
  clean : ∀ c ∈ sg, isprint c = true
  last : ∀ c, sg.getLast? = some c → isspace c = false
  fits : sg.length + 5 < min len 32

/-- What the copies leave of a name when there is room for `room` characters. -/
def shownName (room : Nat) (sg : CStr) : CStr :=
  (((cstr sg).take room).map fun c =>
    if isprint c then c else if isspace c then ' ' else '.').rdropWhile isspace

/-- The SCSI device has a SCSI-generic device that its name leads to.  The path of its directory
    is whole when the SCSI device has a name of at most 19 characters.  For a longer name the code
    looks into the directory that the first 49 characters of the path lead to, and what it finds
    there has to have, or be cut to, the right name. -/
def SgNamed (sysfs : Sysfs) (len : Nat) (device : CStr × ScsiAddress) : Prop :=
  ∃ sg, unitSg sysfs device = some sg ∧
    if device.1.length ≤ 19 then Showable len sg
    else 6 ≤ len ∧ ∃ other,
      (sysfs.sgDevices ((unitDir device.1).take 49)).getLast? = some other ∧
        shownName (min len 32 - 6) other = sg

theorem unitDir_length (dName : CStr) : (unitDir dName).length = dName.length + 30 := by
  have dir : sysfsLunDir.length = 22 := rfl
  have word : "device".toList.length = 6 := rfl
  simp only [unitDir, joinPath, List.length_append, List.length_cons, dir]
  omega

/-- The path of a short name is whole. -/
theorem deviceDir_short {dName : CStr} (short : dName.length ≤ 19) :
    deviceDir dName = unitDir dName := by
  apply List.take_of_length_le
  have length := unitDir_length dName
  unfold unitDir at length
  omega

/-- What the copies leave of the path of a device. -/
theorem saStrncpySafe_devPath {len : Nat} (enough : 6 ≤ len) (sg : CStr) :
    saStrncpySafe len (sgName sg) 32 = devPath (shownName (min len 32 - 6) sg) := by
  have five : "/dev/".toList.length = 5 := rfl
  have front : ∀ n, (cstr (devPath sg)).take (n + 5) = devPath ((cstr sg).take n) := by
    intro n
    have whole : cstr (devPath sg) = devPath (cstr sg) := by
      rw [cstr, devPath, List.takeWhile_append_of_pos]
      · rfl
      · intro c member
        have all : "/dev/".toList.all (· ≠ '\x00') = true := by decide
        exact List.all_eq_true.mp all c member
    rw [whole, devPath, List.take_append, five, List.take_of_length_le (by rw [five]; omega),
      Nat.add_sub_cancel]
    rfl
  have room : min (len - 1) (min 32 31) = min len 32 - 6 + 5 := by omega
  rw [saStrncpySafe, sgName, snprintf, List.take_take, cstr_take, List.take_take, room, front]
  have marks : (devPath ((cstr sg).take (min len 32 - 6))).map
      (fun c => if isprint c then c else if isspace c then ' ' else '.') =
      "/dev".toList ++ '/' :: ((cstr sg).take (min len 32 - 6)).map fun c =>
        if isprint c then c else if isspace c then ' ' else '.' := rfl
  rw [marks, rdropWhile_append_cons (by decide)]
  rfl

theorem devPath_length (sg : CStr) : (devPath sg).length = sg.length + 5 := by
  have five : "/dev/".toList.length = 5 := rfl
  rw [devPath, List.length_append, five, Nat.add_comm]

/-- With less than six bytes not even the directory comes through. -/
theorem saStrncpySafe_few {len : Nat} (few : len < 6) (src sg : CStr) :
    saStrncpySafe len src 32 ≠ devPath sg := by
  intro same
  have length := saStrncpySafe_length len src 32
  rw [same, devPath_length] at length
  omega

theorem shownName_length (room : Nat) (sg : CStr) : (shownName room sg).length ≤ room := by
  refine (List.rdropWhile_prefix isspace _).length_le.trans ?_
  rw [List.length_map, List.length_take]
  exact min_le_left ..

/-- The names that the copies leave as they are. -/
theorem shownName_eq_iff {len : Nat} (enough : 6 ≤ len) (sg : CStr) :
    shownName (min len 32 - 6) sg = sg ↔ Showable len sg := by
  have copied : ∀ other, shownName (min len 32 - 6) other =
      saStrncpySafe (min len 32 - 5) other other.length := by
    intro other
    have room : min len 32 - 5 - 1 = min len 32 - 6 := by omega
    rw [shownName, saStrncpySafe, List.take_length, room]
  constructor
  · intro same
    have length := shownName_length (min len 32 - 6) sg
    refine ⟨fun c member => ?_, fun c last => ?_, ?_⟩
    · rw [← same, copied] at member
      exact saStrncpySafe_clean member
    · rw [← same, copied] at last
      exact saStrncpySafe_last last
    · rw [same] at length
      omega
  · intro showable
    rw [copied]
    exact saStrncpySafe_self showable.clean showable.last (by have := showable.fits; omega)
      (Nat.le_refl _)

/-- The copies leave the path of the right device. -/
theorem sgNamed_iff {sysfs : Sysfs} {len : Nat} {device : CStr × ScsiAddress} :
    SgNamed sysfs len device ↔
      ∃ sg, unitSg sysfs device = some sg ∧ copiedSg sysfs len device = devPath sg := by
  apply exists_congr
  intro sg
  apply and_congr_right
  intro here
  have cut : deviceDir device.1 = (unitDir device.1).take 49 := rfl
  rw [copiedSg, overwritten, List.getLast?_map, ← cut]
  by_cases few : len < 6
  · refine iff_of_false ?_ (saStrncpySafe_few few _ sg)
    split
    · intro showable
      have fits := showable.fits
      omega
    · exact fun named => absurd named.1 (by omega)
  · have enough : 6 ≤ len := by omega
    have path : ∀ other, saStrncpySafe len (sgName other) 32 = devPath sg ↔
        shownName (min len 32 - 6) other = sg := by
      intro other
      rw [saStrncpySafe_devPath enough, devPath, devPath, List.append_cancel_left_eq]
    split
    · rename_i short
      unfold unitSg at here
      rw [deviceDir_short short, here, Option.map_some, Option.getD_some, path,
        shownName_eq_iff enough]
    · cases listed : (sysfs.sgDevices (deviceDir device.1)).getLast? with
      | none =>
          refine iff_of_false ?_ ?_
          · rintro ⟨-, other, found, -⟩
            cases found
          · intro same
            have length := devPath_length sg
            rw [← same] at length
            simp [saStrncpySafe, cstr] at length
      | some other =>
          rw [Option.map_some, Option.getD_some, path]
          constructor
          · rintro ⟨-, found, same, shown⟩
            cases same
            exact shown
          · exact fun shown => ⟨enough, other, rfl, shown⟩

/-- The devices that the context for a logical unit accepts. -/
theorem sgContext_devices {sysfs : Sysfs} (rp : Ptr) {rport : PortInfo} (first : rport.apIndex = 0)
    (definite : rport.apScsiTarget ≠ anyPart) (lun : UInt64) :
    scsiDevices sysfs (sgContext rp rport lun).accepts = narrowedDevices sysfs rport lun := by
  have zero : (0 : UInt32) ≠ anyPart := by decide
  rw [narrowedDevices, targetDevices, scsiDevices_filter sysfs (sgContext rp rport lun).accepts,
    scsiDevices_filter sysfs fun address => decide (address.hba = rport.apKernHba ∧ _),
    List.filter_filter]
  congr 1
  funext device
  simp only [BindingContext.accepts, sgContext, first, definite, zero, or_false, ← Bool.decide_and,
    decide_eq_decide]
  tauto

/-- The devices behind a remote port differ in their LUNs. -/
theorem targetDevices_lun {sysfs : Sysfs} (listing : ScsiListing sysfs) (rport : PortInfo) :
    ((targetDevices sysfs rport).map fun device => device.2.lun).Nodup := by
  have addresses : ((targetDevices sysfs rport).map Prod.snd).Nodup := by
    unfold targetDevices
    rw [scsiDevices_filter]
    exact (List.filter_sublist.map _).nodup listing.distinct
  apply List.Nodup.map_on
  · rintro ⟨name, hba, port, tgt, lun⟩ member ⟨name', hba', port', tgt', lun'⟩ member' same
    have here := (mem_scsiDevices.mp member).2
    have here' := (mem_scsiDevices.mp member').2
    simp only [decide_eq_true_eq] at here here' same
    apply List.inj_on_of_nodup_map addresses member member'
    simp only [here, here', same]
  · exact List.Nodup.of_map _ addresses

private theorem length_of_distinct {luns : List UInt32} (distinct : luns.Nodup) :
    luns.length ≤ 2 ^ 32 := by
  have numbers : (luns.map UInt32.toNat).Nodup :=
    distinct.map fun _ _ same => UInt32.toNat_inj.mp same
  have below : luns.map UInt32.toNat ⊆ List.range (2 ^ 32) := by
    intro n member
    obtain ⟨lun, -, rfl⟩ := List.mem_map.mp member
    exact List.mem_range.mpr lun.toNat_lt
  have bound := (List.subperm_of_subset numbers below).length_le
  rwa [List.length_map, List.length_range] at bound

/-- At most one of the devices behind a remote port has a given LUN. -/
theorem unitDevices_cases {sysfs : Sysfs} (listing : ScsiListing sysfs) (rport : PortInfo)
    (lun : UInt64) : unitDevices sysfs rport lun = [] ∨
      ∃ device, unitDevices sysfs rport lun = [device] := by
  cases found : unitDevices sysfs rport lun with
  | nil => exact .inl rfl
  | cons device rest =>
      have member : device ∈ unitDevices sysfs rport lun := found ▸ List.mem_cons_self ..
      obtain ⟨target, unit⟩ := List.mem_filter.mp member
      have alone : unitDevices sysfs rport lun = [device] := by
        apply filter_key (targetDevices_lun listing rport) target
        intro other
        rw [decide_eq_true_eq] at unit ⊢
        rw [← unit, UInt32.toUInt64_inj]
      exact .inr ⟨device, found ▸ alone⟩

/-- The answer to a request for a logical unit of a remote port. -/
theorem getBindingSgName_iff {env : Env} (listing : ScsiListing env.sysfs) {lp rp : Ptr}
    {wwn : HbaWwn} {rport : PortInfo} {lib mid : Lib}
    (found : adapterGetRportByWwn env lp wwn lib = .ok (some rp, mid))
    (live : mid.rports.get rp = some rport) (first : rport.apIndex = 0)
    (definite : rport.apScsiTarget ≠ anyPart) (lun : UInt64) (len : Nat) (name : CStr) (lib' : Lib) :
    getBindingSgName env lp wwn lun len lib = .ok (.ok name, lib') ↔
      lib' = mid ∧ ∃ device, narrowedDevices env.sysfs rport lun = [device] ∧
        name = copiedSg env.sysfs len device := by
  have devices := @sgContext_devices env.sysfs rp rport first definite lun
  have few : (scsiDevices env.sysfs (sgContext rp rport lun).accepts).length ≤ 2 ^ 32 := by
    rw [devices]
    apply (List.length_filter_le ..).trans
    rw [← List.length_map fun device => device.2.lun]
    exact length_of_distinct (targetDevices_lun listing rport)
  have copied : ∀ device ∈ targetDevices env.sysfs rport,
      saStrncpySafe len (deviceNames env.sysfs device.1).ocSg 32 = copiedSg env.sysfs len device := by
    intro device member
    rw [copiedSg, listing.name member, deviceNames_sg]
  rw [getBindingSgName_eq found live definite few len]
  rw [devices] at few ⊢
  have behind : ∀ device ∈ narrowedDevices env.sysfs rport lun, device ∈ targetDevices env.sysfs rport :=
    fun device member => List.mem_of_mem_filter member
  match narrowed : narrowedDevices env.sysfs rport lun with
  | [] => simp
  | [device] =>
      have same := copied device (behind device (by simp [narrowed]))
      simp [same, eq_comm, and_comm]
  | device :: device' :: rest =>
      rw [narrowed] at few
      have many : UInt32.ofNat (device :: device' :: rest).length ≠ 1 := by
        intro one
        have count := congrArg UInt32.toNat one
        rw [UInt32.toNat_ofNat', List.length_cons, List.length_cons] at count
        simp only [List.length_cons, UInt32.toNat_one] at few count
        omega
      rw [if_neg many]
      simp

/-- The name is that of the SCSI-generic device of the only SCSI device that is behind the remote
    port found for `wwn` and has the LUN asked for, compared in 64 bits. -/
def UnitName (env : Env) (lp : Ptr) (wwn : HbaWwn) (lun : UInt64) (lib : Lib) (name : CStr) : Prop :=
  ∃ rp rport mid device sg, adapterGetRportByWwn env lp wwn lib = .ok (some rp, mid) ∧
    mid.rports.get rp = some rport ∧ unitDevices env.sysfs rport lun = [device] ∧
    unitSg env.sysfs device = some sg ∧ name = devPath sg

/-- A request that succeeds gets the name for its logical unit. -/
def ReachesUnit (env : Env) (lp : Ptr) (wwn : HbaWwn) (lun : UInt64) (len : Nat) (lib : Lib) : Prop :=
  ∀ name lib', getBindingSgName env lp wwn lun len lib = .ok (.ok name, lib') →
    UnitName env lp wwn lun lib name

/-- The condition on a LUN and the directories.  A LUN below -1 is looked for as it is.
    One that is narrowed to -1 finds the only device of the remote port, which must be
    the one asked for; any other is narrowed to a different LUN, which no device of the
    remote port may have. -/
def UnitSafe (sysfs : Sysfs) (rport : PortInfo) (lun : UInt64) (len : Nat) : Prop :=
  if lun.toNat < anyPart.toNat then ∀ device ∈ unitDevices sysfs rport lun, SgNamed sysfs len device
  else if lun.toUInt32 = anyPart then ∀ device, targetDevices sysfs rport = [device] →
    device.2.lun.toUInt64 = lun ∧ SgNamed sysfs len device
  else unitDevices sysfs rport lun.toUInt32.toUInt64 = []

/-- The devices accepted for a LUN that is not narrowed to -1. -/
theorem narrowedDevices_unit {sysfs : Sysfs} {rport : PortInfo} {lun : UInt64}
    (definite : lun.toUInt32 ≠ anyPart) :
    narrowedDevices sysfs rport lun = unitDevices sysfs rport lun.toUInt32.toUInt64 := by
  apply List.filter_congr
  intro device _
  rw [decide_eq_decide, UInt32.toUInt64_inj, or_iff_left definite]

theorem unitSafe_iff {sysfs : Sysfs} (listing : ScsiListing sysfs) (rport : PortInfo) (lun : UInt64)
    (len : Nat) : UnitSafe sysfs rport lun len ↔
      ∀ device, narrowedDevices sysfs rport lun = [device] →
        unitDevices sysfs rport lun = [device] ∧ SgNamed sysfs len device := by
  have top : anyPart.toNat = 4294967295 := rfl
  unfold UnitSafe
  split
  · rename_i below
    have wide : lun.toUInt32.toUInt64 = lun := by
      apply UInt64.toNat_inj.mp
      rw [UInt32.toNat_toUInt64, UInt64.toNat_toUInt32]
      omega
    have definite : lun.toUInt32 ≠ anyPart := by
      intro same
      rw [← wide, same] at below
      exact absurd below (by decide)
    rw [narrowedDevices_unit definite, wide]
    constructor
    · intro named device only
      exact ⟨only, named device (only ▸ List.mem_singleton_self device)⟩
    · intro named device member
      rcases unitDevices_cases listing rport lun with none | ⟨other, only⟩
      · rw [none] at member
        cases member
      · rw [only, List.mem_singleton] at member
        exact member ▸ (named other only).2
  · rename_i above
    split
    · rename_i any
      have all : narrowedDevices sysfs rport lun = targetDevices sysfs rport := by
        simp [narrowedDevices, any]
      rw [all]
      apply forall_congr'
      intro device
      apply imp_congr_right
      intro only
      rw [unitDevices, only]
      by_cases same : device.2.lun.toUInt64 = lun
      · rw [List.filter_cons_of_pos (by simpa using same), List.filter_nil]
        simp [same]
      · rw [List.filter_cons_of_neg (by simpa using same), List.filter_nil]
        simp [same]
    · rename_i definite
      rw [narrowedDevices_unit definite]
      have past : unitDevices sysfs rport lun = [] := by
        rw [unitDevices, List.filter_eq_nil_iff]
        intro device _ same
        have narrow : device.2.lun = lun.toUInt32 := by
          rw [← of_decide_eq_true same, UInt32.toUInt32_toUInt64]
        rw [← of_decide_eq_true same, UInt32.toNat_toUInt64] at above
        apply definite
        rw [← narrow, ← UInt32.toNat_inj]
        have bound := device.2.lun.toNat_lt
        omega
      rw [past]
      constructor
      · intro empty device only
        rw [empty] at only
        cases only
      · intro never
        rcases unitDevices_cases listing rport lun.toUInt32.toUInt64 with empty | ⟨device, only⟩
        · exact empty
        · cases (never device only).1

/-- A remote port found for a name has port number 0, whatever state the search began in. -/
theorem found_apIndex {allowed : Env → Prop} {env : Env} {lib mid : Lib}
    (reachable : Reachable allowed lib) {lp rp : Ptr} {wwn : HbaWwn} {rport : PortInfo}
    (found : adapterGetRportByWwn env lp wwn lib = .ok (some rp, mid))
    (live : mid.rports.get rp = some rport) : rport.apIndex = 0 := by
  obtain ⟨attached, called, rest⟩ := bind_eq_ok.mp found
  obtain ⟨port, here, rest⟩ := bind_eq_ok.mp rest
  obtain ⟨q, searched, rest⟩ := bind_eq_ok.mp rest
  cases rest
  rw [Lib.port, demand_eq_ok] at here
  have sound := (Lib.Sound.of_reachable reachable).attach called
  have entry := List.mem_of_find?_eq_some (searchFrom_find (by omega) searched).symm
  obtain ⟨i, slot⟩ := SaTable.mem_entries.mp entry
  obtain ⟨same, held, mine, -⟩ := sound.own lp port here i rp (SaTable.slot_of_view slot)
  obtain rfl : rport = same := Option.some.inj (live.symm.trans held)
  obtain ⟨j, ap, adapter, local_⟩ := sound.adapters.port_slot here
  simp only [PortInfo.belongs, decide_eq_true_eq] at mine
  exact mine.2.trans local_.portIndex

/-- The condition on a request: it finds no remote port, or one without a target number, or it is
    safe behind the one it finds. -/
def RequestSafe (env : Env) (lp : Ptr) (wwn : HbaWwn) (lun : UInt64) (len : Nat) (lib : Lib) : Prop :=
  ∀ rp rport mid, adapterGetRportByWwn env lp wwn lib = .ok (some rp, mid) →
    mid.rports.get rp = some rport → rport.apScsiTarget ≠ anyPart →
    UnitSafe env.sysfs rport lun len

theorem reaches_iff {allowed : Env → Prop} {env : Env} {lib : Lib}
    (reachable : Reachable allowed lib) (listing : ScsiListing env.sysfs) (lp : Ptr) (wwn : HbaWwn)
    (lun : UInt64) (len : Nat) :
    ReachesUnit env lp wwn lun len lib ↔ RequestSafe env lp wwn lun len lib := by
  constructor
  · intro reaches rp rport mid found live definite
    have first := found_apIndex reachable found live
    have answers := getBindingSgName_iff listing found live first definite lun len
    rw [unitSafe_iff listing]
    intro device only
    obtain ⟨rp', rport', mid', device', sg, found', live', unit, here, name⟩ :=
      reaches _ mid ((answers _ mid).mpr ⟨rfl, device, only, rfl⟩)
    rw [found, Except.ok.injEq, Prod.mk.injEq, Option.some.injEq] at found'
    obtain ⟨rfl, rfl⟩ := found'
    obtain rfl : rport = rport' := Option.some.inj (live.symm.trans live')
    have member : device' ∈ unitDevices env.sysfs rport lun := unit ▸ List.mem_singleton_self _
    obtain ⟨target, same⟩ := List.mem_filter.mp member
    have accepted : device' ∈ narrowedDevices env.sysfs rport lun := by
      apply List.mem_filter.mpr ⟨target, ?_⟩
      rw [decide_eq_true_eq] at same ⊢
      exact .inl (by rw [← same, UInt32.toUInt32_toUInt64])
    rw [only, List.mem_singleton] at accepted
    subst accepted
    exact ⟨unit, sgNamed_iff.mpr ⟨sg, here, name⟩⟩
  · intro safe name lib' answered
    obtain ⟨⟨found, mid⟩, looked, rest⟩ := bind_eq_ok.mp answered
    cases found with
    | none => cases rest
    | some rp =>
        obtain ⟨rport, here, rest⟩ := bind_eq_ok.mp rest
        rw [Lib.rport, demand_eq_ok] at here
        by_cases definite : rport.apScsiTarget = anyPart
        · rw [if_pos definite] at rest
          cases rest
        · have first := found_apIndex reachable looked here
          obtain ⟨-, device, only, copied⟩ :=
            (getBindingSgName_iff listing looked here first definite lun len name lib').mp answered
          obtain ⟨unit, named⟩ :=
            (unitSafe_iff listing rport lun len).mp (safe rp rport mid looked here definite) device only
          obtain ⟨sg, known, whole⟩ := sgNamed_iff.mp named
          exact ⟨rp, rport, mid, device, sg, looked, here, unit, known, copied.trans whole⟩

theorem scsiListing_small : ScsiListing smallSystem.sysfs := by
  have listing : smallSystem.sysfs.listing sysfsLunDir = [⟨scsiName ⟨3, 0, 0, 0⟩, .lnk⟩] := by
    decide +kernel
  constructor
  · rw [listing]
    exact List.nodup_singleton _
  · rw [listing]
    intro dp member
    rw [List.mem_singleton] at member
    exact ⟨⟨3, 0, 0, 0⟩, by rw [member]⟩

/-- The small system has one port with one named device, also for LUN numbers that end in 32
    zero bits. -/
theorem sgName_small :
    adapterGetPort (loadedState smallSystem) 0x100 0 = .ok (some 0) ∧
    ∃ lib', getBindingSgName smallSystem 0 (copyWwn 0x4000000000000001) 0x100000000 50
      (loadedState smallSystem) = .ok (.ok "/dev/sg1".toList, lib') := by
  have evaluated : (adapterGetPort (loadedState smallSystem) 0x100 0).toOption = some (some 0) ∧
      (getBindingSgName smallSystem 0 (copyWwn 0x4000000000000001) 0x100000000 50
        (loadedState smallSystem)).toOption.map (fun r => r.1.toOption) =
      some (some "/dev/sg1".toList) := by decide +kernel
  obtain ⟨⟨reply, lib'⟩, called, name⟩ := Option.map_eq_some_iff.mp evaluated.2
  refine ⟨eq_ok_of_toOption evaluated.1, lib', ?_⟩
  rw [eq_ok_of_toOption called]
  cases reply with
  | error code => cases name
  | ok text => rw [Option.some.inj name]

end Hbalinux
