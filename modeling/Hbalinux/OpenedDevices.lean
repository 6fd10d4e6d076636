import Hbalinux.ScsiReports

/-! # The devices that requests open

An entry point of `scsi.c` opens the device whose name has been found for its logical unit, and no
other.  So it keeps to that unit under the condition under which the name does, with the 50 bytes
there are for it.
-/

namespace Hbalinux

open Outcome

/-- A computation with devices opens a file: what the device behind it does makes a difference
    while all others do the same. -/
def Opens {α : Type} (issue : SgDevices → α) (file : CStr) : Prop :=
  ∃ devices devices', (∀ other, other ≠ file → devices other = devices' other) ∧
    issue devices ≠ issue devices'

/-- Where devices make no difference none is opened. -/
theorem not_opens {α : Type} {issue : SgDevices → α}
    (constant : ∀ devices devices', issue devices = issue devices') (file : CStr) :
    ¬ Opens issue file := by
  rintro ⟨devices, devices', -, changed⟩
  exact changed (constant devices devices')

/-- What comes before the devices opens none of them. -/
theorem opens_bind_iff {α β : Type} {first : Outcome β} {issue : β → SgDevices → Outcome α}
    {file : CStr} : Opens (fun devices => first >>= fun found => issue found devices) file ↔
      ∃ found, first = .ok found ∧ Opens (issue found) file := by
  cases first with
  | error fault =>
      apply iff_of_false
      · exact not_opens (fun _ _ => rfl) file
      · rintro ⟨found, same, -⟩
        cases same
  | ok found =>
      simp only [ok_bind, Except.ok.injEq, exists_eq_left']

/-- A computation that makes one request opens the file it is made of. -/
theorem Requests.opens_iff {α : Type} {issue : SgDevices → α} {file other : CStr}
    {request : SgRequest} (requests : Requests issue file request) :
    Opens issue other ↔ other = file := by
  constructor
  · rintro ⟨devices, devices', same, changed⟩
    by_contra different
    exact changed (requests.only (congrFun (same file (Ne.symm different)) request))
  · rintro rfl
    obtain ⟨devices, devices', changed⟩ := requests.made
    -- the other devices all do what they do among `devices`
    let mixed : SgDevices := fun name => if name = other then devices' name else devices name
    have here : issue mixed = issue devices' := by
      apply requests.only
      simp only [mixed, if_true]
    refine ⟨devices, mixed, fun name different => ?_, here ▸ changed⟩
    simp only [mixed, if_neg different]

namespace ScsiCall

variable {call : ScsiCall} {env : Env} {lib : Lib} {file : CStr}

/-- The answer to a command depends on the device of that name, whatever is made of the answer. -/
theorem requests_answer {command : SgCommand} {finish : Inquired → Inquired} {rest : Lib}
    (told : ∀ name, finish (call.issue (executing 0) command name) ≠
      finish (call.issue (executing scsiStCheck) command name)) (name : CStr) :
    Requests (fun devices => (Except.ok (Except.ok (finish (call.issue devices command name)), rest) :
      Outcome (Answer Inquired × Lib))) name (command.request call.respLen call.senseLen) := by
  refine ⟨fun same => ?_, executing 0, executing scsiStCheck, fun same => told name ?_⟩
  · simp only [ScsiCall.issue, command.issue_only same]
  · simpa only [Except.ok.injEq, Prod.mk.injEq, and_true] using same

/-- Issuing a command opens the device with the name that is found, if one is. -/
theorem issueTo_opens_iff {pp : Ptr} {wwn : HbaWwn} {lun : UInt64} {noName : HbaStatus}
    {command : SgCommand} {finish : Inquired → Inquired}
    (told : ∀ name, finish (call.issue (executing 0) command name) ≠
      finish (call.issue (executing scsiStCheck) command name)) :
    Opens (fun devices => issueTo env pp wwn lun noName
      (fun name => finish (call.issue devices command name)) lib) file ↔
      ∃ lib', getBindingSgName env pp wwn lun 50 lib = .ok (.ok file, lib') := by
  unfold issueTo
  rw [opens_bind_iff]
  constructor
  · rintro ⟨⟨answer, lib'⟩, named, opens⟩
    cases answer with
    | error code => exact absurd opens (not_opens (fun _ _ => rfl) file)
    | ok name =>
        rw [(requests_answer told name).opens_iff] at opens
        exact ⟨lib', opens ▸ named⟩
  · rintro ⟨lib', named⟩
    exact ⟨_, named, (requests_answer told file).opens_iff.mpr rfl⟩

/-- Each status byte comes back with the answer. -/
theorem issue_executing (command : SgCommand) (name : CStr) (status : UInt8) :
    (call.issue (executing status) command name).result = hbaStatusOk ∧
      (call.issue (executing status) command name).statp = status := by
  have returns : Returns _ (call.issue (executing status) command name) _ := SgCommand.returns command
  exact returns.executed status (executing_outcome status _)

/-- Version 1 opens the device whose name is found from the first port of the adapter. -/
theorem v1_opens_iff :
    Opens (fun devices => call.v1 env devices lib) file ↔
      ∃ lp lib', adapterGetPort lib call.handle 0 = .ok (some lp) ∧
        getBindingSgName env lp call.discWwpn (call.command.lun call.fcLun) 50 lib =
          .ok (.ok file, lib') := by
  have told : ∀ name, checked (call.issue (executing 0) call.command.issued name) ≠
      checked (call.issue (executing scsiStCheck) call.command.issued name) := by
    intro name same
    obtain ⟨good, zero⟩ := @issue_executing call call.command.issued name 0
    have fine : ¬ (0 : UInt8) = scsiStCheck := by decide
    have results := congrArg Inquired.result same
    rw [checked, checked, if_neg (by rw [zero]; exact fun both => fine both.2),
      if_pos (issue_executing call.command.issued name scsiStCheck), good] at results
    have different : hbaStatusOk ≠ hbaStatusScsiCheckCondition := by decide
    exact different results
  simp only [v1_eq]
  unfold scsiV1
  rw [opens_bind_iff]
  constructor
  · rintro ⟨port, found, opens⟩
    cases port with
    | none => exact absurd opens (not_opens (fun _ _ => rfl) file)
    | some lp =>
        obtain ⟨lib', named⟩ := (issueTo_opens_iff told).mp opens
        exact ⟨lp, lib', found, named⟩
  · rintro ⟨lp, lib', found, named⟩
    exact ⟨_, found, (issueTo_opens_iff told).mpr ⟨lib', named⟩⟩

/-- Version 2 opens the device whose name is found from the port it is asked to use. -/
theorem v2_opens_iff :
    Opens (fun devices => call.v2 env devices lib) file ↔
      ∃ lp count lib', adapterGetPortByWwn lib call.handle call.wwpn = .ok (some lp, count) ∧
        getBindingSgName env lp call.discWwpn (call.command.lun call.fcLun) 50 lib =
          .ok (.ok file, lib') := by
  have told : ∀ name, id (call.issue (executing 0) call.command.issuedV2 name) ≠
      id (call.issue (executing scsiStCheck) call.command.issuedV2 name) := by
    intro name same
    have statuses := congrArg Inquired.statp same
    rw [id, id, (issue_executing call.command.issuedV2 name 0).2,
      (issue_executing call.command.issuedV2 name scsiStCheck).2] at statuses
    exact absurd statuses (by decide)
  simp only [v2_eq]
  unfold scsiV2
  rw [opens_bind_iff]
  constructor
  · rintro ⟨⟨port, count⟩, found, opens⟩
    cases port with
    | none => exact absurd opens (not_opens (fun _ _ => rfl) file)
    | some lp =>
        obtain ⟨lib', named⟩ := (issueTo_opens_iff told).mp opens
        exact ⟨lp, count, lib', found, named⟩
  · rintro ⟨lp, count, lib', found, named⟩
    exact ⟨_, found, (issueTo_opens_iff told).mpr ⟨lib', named⟩⟩

variable (call : ScsiCall) (env : Env) (lib : Lib)

/-- What version 1 opens is the device of the logical unit asked for. -/
def OpensUnitV1 : Prop :=
  ∀ file, Opens (fun devices => call.v1 env devices lib) file →
    ∃ lp, adapterGetPort lib call.handle 0 = .ok (some lp) ∧
      UnitName env lp call.discWwpn (call.command.lun call.fcLun) lib file

/-- What version 2 opens is the device of the logical unit asked for. -/
def OpensUnitV2 : Prop :=
  ∀ file, Opens (fun devices => call.v2 env devices lib) file →
    ∃ lp count, adapterGetPortByWwn lib call.handle call.wwpn = .ok (some lp, count) ∧
      UnitName env lp call.discWwpn (call.command.lun call.fcLun) lib file

variable {call env lib}

theorem opensUnitV1_iff : call.OpensUnitV1 env lib ↔
    ∀ lp, adapterGetPort lib call.handle 0 = .ok (some lp) →
      ReachesUnit env lp call.discWwpn (call.command.lun call.fcLun) 50 lib := by
  constructor
  · intro opensUnit lp found name lib' named
    obtain ⟨lp', found', unit⟩ := opensUnit name (v1_opens_iff.mpr ⟨lp, lib', found, named⟩)
    rw [found, Except.ok.injEq, Option.some.injEq] at found'
    exact found' ▸ unit
  · intro reaches file opens
    obtain ⟨lp, lib', found, named⟩ := v1_opens_iff.mp opens
    exact ⟨lp, found, reaches lp found file lib' named⟩

theorem opensUnitV2_iff : call.OpensUnitV2 env lib ↔
    ∀ lp count, adapterGetPortByWwn lib call.handle call.wwpn = .ok (some lp, count) →
      ReachesUnit env lp call.discWwpn (call.command.lun call.fcLun) 50 lib := by
  constructor
  · intro opensUnit lp count found name lib' named
    obtain ⟨lp', count', found', unit⟩ :=
      opensUnit name (v2_opens_iff.mpr ⟨lp, count, lib', found, named⟩)
    rw [found, Except.ok.injEq, Prod.mk.injEq, Option.some.injEq] at found'
    exact found'.1 ▸ unit
  · intro reaches file opens
    obtain ⟨lp, count, lib', found, named⟩ := v2_opens_iff.mp opens
    exact ⟨lp, count, found, reaches lp count found file lib' named⟩

end ScsiCall

/-- A name that is found is that of the logical unit asked for exactly under the condition on the
    LUN and the directories.  An entry point opens the device of that unit and no other under the
    same condition behind the port that it uses. -/
theorem reachesUnit_iff {allowed : Env → Prop} {env : Env} {lib : Lib}
    (reachable : Reachable allowed lib) (listing : ScsiListing env.sysfs) :
    (∀ lp wwn lun len, ReachesUnit env lp wwn lun len lib ↔ RequestSafe env lp wwn lun len lib) ∧
    ∀ call : ScsiCall,
      (call.OpensUnitV1 env lib ↔ ∀ lp, adapterGetPort lib call.handle 0 = .ok (some lp) →
        RequestSafe env lp call.discWwpn (call.command.lun call.fcLun) 50 lib) ∧
      (call.OpensUnitV2 env lib ↔
        ∀ lp count, adapterGetPortByWwn lib call.handle call.wwpn = .ok (some lp, count) →
          RequestSafe env lp call.discWwpn (call.command.lun call.fcLun) 50 lib) := by
  have request := reaches_iff reachable listing
  refine ⟨request, fun call => ⟨?_, ?_⟩⟩
  · rw [ScsiCall.opensUnitV1_iff]
    simp only [request]
  · rw [ScsiCall.opensUnitV2_iff]
    simp only [request]

/-- The only SCSI device of the small system. -/
def smallDevice : CStr × ScsiAddress := ("3:0:0:0".toList, ⟨3, 0, 0, 0⟩)

theorem requestSafe_small :
    RequestSafe smallSystem 0 (copyWwn 0x4000000000000001) 0 50 (loadedState smallSystem) := by
  intro rp rport mid _ _ _
  have all : (scsiDevices smallSystem.sysfs fun _ => true) = [smallDevice] ∧
      unitSg smallSystem.sysfs smallDevice = some "sg1".toList := by decide +kernel
  rw [UnitSafe, if_pos (by decide)]
  intro device member
  have known := (mem_scsiDevices.mp (List.mem_of_mem_filter member)).1
  rw [all.1, List.mem_singleton] at known
  rw [known]
  refine ⟨"sg1".toList, all.2, ?_⟩
  rw [if_pos (by decide)]
  refine ⟨fun c own => ?_, fun c last => ?_, by decide⟩
  · have clean : "sg1".toList.all isprint = true := by decide
    exact List.all_eq_true.mp clean c own
  · cases last
    rfl

/-- A request for LUN 0 of the small system reaches it, and what READ CAPACITY opens is its
    device. -/
theorem reachesUnit_small :
    ReachesUnit smallSystem 0 (copyWwn 0x4000000000000001) 0 50 (loadedState smallSystem) ∧
    { smallReadCapacity 0 with fcLun := 0 }.OpensUnitV1 smallSystem (loadedState smallSystem) := by
  obtain ⟨request, opens⟩ := reachesUnit_iff reachable_small scsiListing_small
  refine ⟨(request ..).mpr requestSafe_small, (opens _).1.mpr fun lp found => ?_⟩
  have first : lp = 0 := Option.some.inj (Except.ok.inj (found.symm.trans sgName_small.1))
  rw [first]
  exact requestSafe_small

/-- A request for LUN `2 ^ 32` gets the device of LUN 0, and READ CAPACITY opens it. -/
theorem reachesUnit_narrowed :
    ((∃ lib', getBindingSgName smallSystem 0 (copyWwn 0x4000000000000001) 0x100000000 50
        (loadedState smallSystem) = .ok (.ok "/dev/sg1".toList, lib')) ∧
      ¬ ReachesUnit smallSystem 0 (copyWwn 0x4000000000000001) 0x100000000 50
        (loadedState smallSystem)) ∧
    Opens (fun devices => (smallReadCapacity 0).v1 smallSystem devices (loadedState smallSystem))
      "/dev/sg1".toList ∧
    ¬ (smallReadCapacity 0).OpensUnitV1 smallSystem (loadedState smallSystem) := by
  obtain ⟨port, lib', named⟩ := sgName_small
  have other : ∀ lp name, ¬ UnitName smallSystem lp (copyWwn 0x4000000000000001) 0x100000000
      (loadedState smallSystem) name := by
    rintro lp name ⟨rp, rport, mid, device, sg, -, -, unit, -⟩
    have member : device ∈ unitDevices smallSystem.sysfs rport 0x100000000 :=
      unit ▸ List.mem_singleton_self _
    have wide := congrArg UInt64.toNat (of_decide_eq_true (List.mem_filter.mp member).2)
    have bound := device.2.lun.toNat_lt
    rw [UInt32.toNat_toUInt64] at wide
    exact absurd (wide ▸ bound) (by decide)
  have opens : Opens (fun devices => (smallReadCapacity 0).v1 smallSystem devices
      (loadedState smallSystem)) "/dev/sg1".toList :=
    ScsiCall.v1_opens_iff.mpr ⟨0, lib', port, named⟩
  refine ⟨⟨⟨lib', named⟩, fun reaches => other 0 _ (reaches _ lib' named)⟩, opens,
    fun opensUnit => ?_⟩
  obtain ⟨lp, -, unit⟩ := opensUnit _ opens
  exact other lp _ unit

end Hbalinux
