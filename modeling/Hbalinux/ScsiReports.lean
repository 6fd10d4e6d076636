import Hbalinux.PassThrough
import Hbalinux.ScsiCommands

/-! # What SCSI requests say and what their results report

The three commands differ in how they fill in the request and in how they report a
device that cannot be opened.  INQUIRY limits both lengths; the others let the
conversion to `unsigned char` shorten the sense length.
-/

namespace Hbalinux

open Outcome

/-- The commands of `sg.c`. -/
inductive SgCommand where
  | inquiry (cdbByte1 cdbByte2 : UInt8)
  | readCapacity
  | reportLuns
  deriving DecidableEq

def SgCommand.issue (errno : Int32) (file : CStr) (resp : List UInt8) (respLenp : UInt32)
    (statp : UInt8) (sense : List UInt8) (senseLenp : UInt32) (devices : SgDevices) :
    SgCommand → Inquired
  | .inquiry cdbByte1 cdbByte2 =>
      sgIssueInquiry devices file cdbByte1 cdbByte2 resp respLenp sense senseLenp
  | .readCapacity => sgIssueReadCapacity devices errno file resp respLenp statp sense senseLenp
  | .reportLuns => sgIssueReportLuns devices errno file resp respLenp statp sense senseLenp

/-- A computation with devices makes one request of one device. -/
structure Requests {α : Type} (issue : SgDevices → α) (file : CStr) (request : SgRequest) : Prop where
  only : ∀ {devices devices' : SgDevices}, devices file request = devices' file request →
    issue devices = issue devices'
  made : ∃ devices devices', issue devices ≠ issue devices'

theorem Requests.unique {α : Type} {issue : SgDevices → α} {file : CStr} {request request' : SgRequest}
    (first : Requests issue file request) (second : Requests issue file request') :
    request = request' := by
  by_contra different
  obtain ⟨devices, devices', changed⟩ := first.made
  -- Devices that answer one request like `devices` and the other like `devices'`.
  let mixed : SgDevices := fun name asked =>
    if asked = request then devices name asked else devices' name asked
  have here : issue mixed = issue devices := first.only (if_pos rfl)
  have there : issue mixed = issue devices' := second.only (if_neg (Ne.symm different))
  exact changed (here.symm.trans there)

def inquiryRequest (cdbByte1 cdbByte2 : UInt8) (lenp senseLenp : UInt32) : SgRequest :=
  let len := if lenp.toUInt64 > 255 then 255 else lenp.toUInt64
  ⟨inquiryCommand cdbByte1 cdbByte2 len, len, if senseLenp > 255 then 255 else senseLenp⟩

/-- The request a command makes. -/
def SgCommand.request (respLenp senseLenp : UInt32) : SgCommand → SgRequest
  | .inquiry cdbByte1 cdbByte2 => inquiryRequest cdbByte1 cdbByte2 respLenp senseLenp
  | .readCapacity => readCapacityRequest respLenp senseLenp
  | .reportLuns => reportLunsRequest respLenp senseLenp

/-- The device got the command and answered it.  The host adapter reports no error of its own,
    nor does the driver, which may report that there are sense data (8). -/
def SgReply.delivered (reply : SgReply) : Bool :=
  reply.hostStatus = 0 ∧ (reply.driverStatus &&& 0xf = 0 ∨ reply.driverStatus &&& 0xf = 8)

/-- What became of a request.  `SG_IO` also succeeds for a command that no device has executed;
    it still says how many bytes have been transferred. -/
inductive SgOutcome where
  | notOpened
  | failed
  | undelivered (transferred : Int)
  | executed (status : UInt8)
  deriving DecidableEq

def SgDevices.outcome (devices : SgDevices) (file : CStr) (request : SgRequest) : SgOutcome :=
  match devices file request with
  | none => .notOpened
  | some reply =>
      if reply.rc < 0 then .failed
      else if reply.delivered then .executed reply.status
      else .undelivered (request.dxferLen.toNat - reply.resid)

/-- The status of a command whose device cannot be opened. -/
def SgCommand.openFailed (errno : Int32) : SgCommand → HbaStatus
  | .inquiry _ _ => hbaStatusError
  | _ => errno.toUInt32

/-- What a command returns for each outcome. -/
structure Returns (openFailed : HbaStatus) (answer : Inquired) (outcome : SgOutcome) : Prop where
  notOpened : outcome = .notOpened → answer.result = openFailed ∧ answer.lenp = 0
  failed : outcome = .failed → answer.result = hbaStatusError ∧ answer.lenp = 0
  undelivered : ∀ transferred, outcome = .undelivered transferred →
    answer.result = hbaStatusOk ∧ answer.lenp = UInt32.ofInt transferred
  executed : ∀ status, outcome = .executed status →
    answer.result = hbaStatusOk ∧ answer.statp = status

/-- Where `SG_IO` succeeds the command does, whether it has been delivered or not. -/
theorem Returns.of_answered {openFailed : HbaStatus} {answer : Inquired} {reply : SgReply}
    {transferred : Int} (result : answer.result = hbaStatusOk) (statp : answer.statp = reply.status)
    (lenp : answer.lenp = UInt32.ofInt transferred) :
    Returns openFailed answer
      (if reply.delivered then .executed reply.status else .undelivered transferred) := by
  cases reply.delivered with
  | true =>
      refine ⟨nofun, nofun, nofun, fun status same => ⟨result, ?_⟩⟩
      cases same
      exact statp
  | false =>
      refine ⟨nofun, nofun, fun count same => ⟨result, ?_⟩, nofun⟩
      cases same
      exact lenp

section

variable {devices : SgDevices} {errno : Int32} {file : CStr} {resp sense : List UInt8}
  {respLen senseLen : UInt32} {stat : UInt8}

theorem sgIssue_returns (request : SgRequest) :
    Returns errno.toUInt32 (sgIssue devices errno file request resp stat sense senseLen)
      (devices.outcome file request) := by
  rw [sgIssue, SgDevices.outcome]
  cases devices file request with
  | none => exact ⟨fun _ => ⟨rfl, rfl⟩, nofun, nofun, nofun⟩
  | some reply =>
      by_cases negative : reply.rc < 0
      · simp only [if_pos negative]
        exact ⟨nofun, fun _ => ⟨rfl, rfl⟩, nofun, nofun⟩
      · simp only [if_neg negative]
        exact .of_answered rfl rfl rfl

theorem sgIssueInquiry_returns (cdbByte1 cdbByte2 : UInt8) :
    Returns hbaStatusError
      (sgIssueInquiry devices file cdbByte1 cdbByte2 resp respLen sense senseLen)
      (devices.outcome file (inquiryRequest cdbByte1 cdbByte2 respLen senseLen)) := by
  rw [sgIssueInquiry, SgDevices.outcome, inquiryRequest]
  cases devices file _ with
  | none => exact ⟨fun _ => ⟨rfl, rfl⟩, nofun, nofun, nofun⟩
  | some reply =>
      by_cases negative : reply.rc < 0
      · simp only [if_pos negative]
        exact ⟨nofun, fun _ => ⟨rfl, rfl⟩, nofun, nofun⟩
      · simp only [if_neg negative]
        exact .of_answered rfl rfl rfl

theorem SgCommand.returns (command : SgCommand) :
    Returns (command.openFailed errno)
      (command.issue errno file resp respLen stat sense senseLen devices)
      (devices.outcome file (command.request respLen senseLen)) := by
  cases command with
  | inquiry cdbByte1 cdbByte2 => exact sgIssueInquiry_returns cdbByte1 cdbByte2
  | readCapacity => exact sgIssue_returns _
  | reportLuns => exact sgIssue_returns _

/-- A command depends on the device through the answer to its request alone. -/
theorem SgCommand.issue_only (command : SgCommand) {devices' : SgDevices}
    (same : devices file (command.request respLen senseLen) =
      devices' file (command.request respLen senseLen)) :
    command.issue errno file resp respLen stat sense senseLen devices =
      command.issue errno file resp respLen stat sense senseLen devices' := by
  cases command with
  | inquiry cdbByte1 cdbByte2 =>
      simp only [SgCommand.request, inquiryRequest] at same
      simp only [SgCommand.issue, sgIssueInquiry, same]
  | readCapacity =>
      simp only [SgCommand.request] at same
      simp only [SgCommand.issue, sgIssueReadCapacity, sgIssue, same]
  | reportLuns =>
      simp only [SgCommand.request] at same
      simp only [SgCommand.issue, sgIssueReportLuns, sgIssue, same]

/-- Every device executes the command with this status. -/
def executing (status : UInt8) : SgDevices := fun _ _ => some ⟨0, [], [], 0, 0, status, 0, 0⟩

theorem executing_outcome (status : UInt8) (request : SgRequest) :
    (executing status).outcome file request = .executed status := by
  have delivered : SgReply.delivered ⟨0, [], [], 0, 0, status, 0, 0⟩ = true := by
    simp [SgReply.delivered]
  rw [SgDevices.outcome, executing]
  simp only [delivered]
  rfl

theorem SgCommand.requests (command : SgCommand) :
    Requests (fun devices => command.issue errno file resp respLen stat sense senseLen devices) file
      (command.request respLen senseLen) := by
  have executed (status : UInt8) :
      (command.issue errno file resp respLen stat sense senseLen (executing status)).statp = status :=
    (command.returns.executed status (executing_outcome status _)).2
  refine ⟨fun same => command.issue_only same, executing 0, executing 1, fun same => ?_⟩
  have statuses := congrArg Inquired.statp same
  rw [executed, executed] at statuses
  exact absurd statuses (by decide)

end

/-! ## The request and the caller's buffers -/

/-- The allocation length of the commands that have one. -/
def allocationLength (cdb : List UInt8) : Option (List UInt8) :=
  match cdb.head? with
  | some 0x12 => some ((cdb.drop 3).take 2)
  | some 0x9e => some ((cdb.drop 10).take 4)
  | some 0xa0 => some ((cdb.drop 6).take 4)
  | _ => none

/-- A request that agrees with buffers of these lengths. -/
structure SgRequest.Describes (request : SgRequest) (respLen senseLen : UInt32) : Prop where
  within : request.dxferLen.toNat ≤ respLen.toNat
  allocation : ∀ field, allocationLength request.cmd = some field →
    bigEndian field = request.dxferLen.toNat
  sense : request.mxSbLen.toNat = min senseLen.toNat 255

/-- INQUIRY limits the sense length to 255; the other commands keep its low byte. -/
def SgCommand.SenseFits (senseLen : UInt32) : SgCommand → Prop
  | .inquiry _ _ => True
  | _ => senseLen.toNat ≤ 255 ∨ senseLen.toNat % 256 = 255

theorem limited_length (len : UInt32) :
    (if len.toUInt64 > 255 then 255 else len.toUInt64).toNat = min len.toNat 255 := by
  have compare : (255 : UInt64) < len.toUInt64 ↔ 255 < len.toNat := UInt64.lt_iff_toNat_lt
  split
  · rename_i large
    rw [min_eq_right (compare.mp large).le]
    rfl
  · rename_i small
    rw [min_eq_left (not_lt.mp fun large => small (compare.mpr large)), UInt32.toNat_toUInt64]

theorem limited_sense (len : UInt32) : (if len > 255 then 255 else len).toNat = min len.toNat 255 := by
  have compare : (255 : UInt32) < len ↔ 255 < len.toNat := UInt32.lt_iff_toNat_lt
  split
  · rename_i large
    rw [min_eq_right (compare.mp large).le]
    rfl
  · rename_i small
    rw [min_eq_left (not_lt.mp fun large => small (compare.mpr large))]

theorem bigEndian_inquiry (cdbByte1 cdbByte2 : UInt8) {len : UInt64} (small : len.toNat ≤ 255) :
    bigEndian (((inquiryCommand cdbByte1 cdbByte2 len).drop 3).take 2) = len.toNat := by
  have high : (len >>> 8).toUInt8.toNat = 0 := by
    simp [Nat.shiftRight_eq_div_pow]
    omega
  have low : len.toUInt8.toNat = len.toNat := by
    rw [UInt64.toNat_toUInt8]
    omega
  calc bigEndian (((inquiryCommand cdbByte1 cdbByte2 len).drop 3).take 2)
      = bigEndian [(len >>> 8).toUInt8, len.toUInt8] := rfl
    _ = len.toNat := by rw [bigEndian_pair, high, low, Nat.zero_mul, Nat.zero_add]

theorem inquiryRequest_describes (cdbByte1 cdbByte2 : UInt8) (respLen senseLen : UInt32) :
    (inquiryRequest cdbByte1 cdbByte2 respLen senseLen).Describes respLen senseLen := by
  have limited := limited_length respLen
  refine ⟨limited.trans_le (min_le_left ..), fun field is => ?_, limited_sense senseLen⟩
  cases is
  exact bigEndian_inquiry cdbByte1 cdbByte2 (limited.trans_le (min_le_right ..))

/-- A command whose sense length is converted to `unsigned char`. -/
theorem describes_narrowed_iff {cmd : List UInt8} {respLen senseLen : UInt32}
    (allocation : ∀ field, allocationLength cmd = some field → bigEndian field = respLen.toNat) :
    (SgRequest.mk cmd respLen.toUInt64 senseLen.toUInt8.toUInt32).Describes respLen senseLen ↔
      senseLen.toNat ≤ 255 ∨ senseLen.toNat % 256 = 255 := by
  have narrowed : senseLen.toUInt8.toUInt32.toNat = senseLen.toNat % 256 := by
    rw [UInt8.toNat_toUInt32, UInt32.toNat_toUInt8]
  constructor
  · intro describes
    have sense := describes.sense
    rw [narrowed] at sense
    omega
  · intro fits
    refine ⟨?_, ?_, ?_⟩
    · rw [UInt32.toNat_toUInt64]
    · rw [UInt32.toNat_toUInt64]
      exact allocation
    · rw [narrowed]
      omega

theorem readCapacityRequest_describes_iff (respLen senseLen : UInt32) :
    (readCapacityRequest respLen senseLen).Describes respLen senseLen ↔
      senseLen.toNat ≤ 255 ∨ senseLen.toNat % 256 = 255 := by
  rw [readCapacityRequest, UInt32.toUInt32_toUInt64]
  apply describes_narrowed_iff
  intro field is
  split at is
  · cases is
    exact bigEndian_uaNet32Put respLen
  · cases is

theorem reportLunsRequest_describes_iff (respLen senseLen : UInt32) :
    (reportLunsRequest respLen senseLen).Describes respLen senseLen ↔
      senseLen.toNat ≤ 255 ∨ senseLen.toNat % 256 = 255 := by
  rw [reportLunsRequest, UInt32.toUInt32_toUInt64]
  apply describes_narrowed_iff
  intro field is
  cases is
  exact bigEndian_uaNet32Put respLen

theorem SgCommand.request_describes_iff (command : SgCommand) (respLen senseLen : UInt32) :
    (command.request respLen senseLen).Describes respLen senseLen ↔ command.SenseFits senseLen := by
  cases command with
  | inquiry cdbByte1 cdbByte2 =>
      exact iff_of_true (inquiryRequest_describes cdbByte1 cdbByte2 respLen senseLen) trivial
  | readCapacity => exact readCapacityRequest_describes_iff respLen senseLen
  | reportLuns => exact reportLunsRequest_describes_iff respLen senseLen

/-- A command hands the device a request that agrees with the caller's buffers exactly when
    the sense length survives the narrowing. -/
theorem sgRequest_describes_iff (command : SgCommand) (errno : Int32) (file : CStr)
    (resp sense : List UInt8) (stat : UInt8) (respLen senseLen : UInt32) :
    (∃ request,
      Requests (fun devices => command.issue errno file resp respLen stat sense senseLen devices)
        file request ∧ request.Describes respLen senseLen) ↔ command.SenseFits senseLen := by
  rw [← command.request_describes_iff respLen senseLen]
  constructor
  · rintro ⟨request, made, describes⟩
    rwa [command.requests.unique made]
  · intro describes
    exact ⟨_, command.requests, describes⟩

/-- A sense buffer of 256 bytes is not described: no sense data is asked for. -/
theorem readCapacity_256_sense :
    ¬ ∃ request,
      Requests (fun devices => SgCommand.readCapacity.issue 0 [] [] 8 0 [] 256 devices) [] request ∧
        request.Describes 8 256 := by
  rintro ⟨request, made, describes⟩
  rw [made.unique SgCommand.readCapacity.requests] at describes
  exact absurd describes.sense (by decide)

/-! ## The outcome and the status -/

/-- A status that reports this outcome. -/
structure Reports (status : HbaStatus) (outcome : SgOutcome) : Prop where
  ok : status = hbaStatusOk ↔ ∃ byte, outcome = .executed byte ∧ byte ≠ scsiStCheck
  check : status = hbaStatusScsiCheckCondition ↔ outcome = .executed scsiStCheck
  error : outcome = .notOpened ∨ outcome = .failed → status = hbaStatusError

def SgOutcome.reported : SgOutcome → HbaStatus
  | .executed byte => if byte = scsiStCheck then hbaStatusScsiCheckCondition else hbaStatusOk
  | _ => hbaStatusError

/-- One rule for every outcome. -/
theorem reports_reported (outcome : SgOutcome) : Reports outcome.reported outcome := by
  cases outcome with
  | notOpened => exact ⟨⟨nofun, nofun⟩, ⟨nofun, nofun⟩, fun _ => rfl⟩
  | failed => exact ⟨⟨nofun, nofun⟩, ⟨nofun, nofun⟩, fun _ => rfl⟩
  | undelivered transferred => exact ⟨⟨nofun, nofun⟩, ⟨nofun, nofun⟩, nofun⟩
  | executed byte =>
      rw [SgOutcome.reported]
      split
      · rename_i check
        subst check
        refine ⟨⟨nofun, ?_⟩, ⟨fun _ => rfl, fun _ => rfl⟩, nofun⟩
        rintro ⟨byte, same, other⟩
        cases same
        exact absurd rfl other
      · rename_i other
        refine ⟨⟨fun _ => ⟨byte, rfl, other⟩, fun _ => rfl⟩, ⟨nofun, ?_⟩, nofun⟩
        intro same
        cases same
        exact absurd rfl other

/-- The commands of the entry points, with the arguments only an inquiry takes. -/
inductive ScsiCommand where
  | inquiry (evpd : UInt8) (pageCode : UInt32)
  | readCapacity
  | reportLuns

/-- The command a version 1 entry point issues. -/
def ScsiCommand.issued : ScsiCommand → SgCommand
  | .inquiry evpd pageCode => .inquiry (if evpd ≠ 0 then scsiInqfEvpd else 0) pageCode.toUInt8
  | .readCapacity => .readCapacity
  | .reportLuns => .reportLuns

/-- The command a version 2 entry point issues. -/
def ScsiCommand.issuedV2 : ScsiCommand → SgCommand
  | .inquiry cdbByte1 cdbByte2 => .inquiry cdbByte1 cdbByte2.toUInt8
  | .readCapacity => .readCapacity
  | .reportLuns => .reportLuns

/-- The logical unit whose device gets the command. -/
def ScsiCommand.lun (fcLun : UInt64) : ScsiCommand → UInt64
  | .reportLuns => 0
  | _ => fcLun

def ScsiCommand.noName : ScsiCommand → HbaStatus
  | .reportLuns => hbaStatusErrorTargetPortWwn
  | _ => hbaStatusErrorTargetLun

/-- A call of an entry point.  `stat` is the caller's status byte in version 2 and an
    uninitialised variable in version 1, and `errno` is read after a failed `open`. -/
structure ScsiCall where
  command : ScsiCommand
  handle : HbaHandle
  wwpn : HbaWwn
  discWwpn : HbaWwn
  fcLun : UInt64
  resp : List UInt8
  respLen : UInt32
  stat : UInt8
  sense : List UInt8
  senseLen : UInt32
  errno : Int32

namespace ScsiCall

variable (call : ScsiCall) (env : Env) (devices : SgDevices)

def v1 : Lib → Outcome (Answer Inquired × Lib) :=
  match call.command with
  | .inquiry evpd pageCode =>
      scsiInquiryV1 env devices call.handle call.discWwpn call.fcLun evpd pageCode call.resp
        call.respLen call.sense call.senseLen
  | .readCapacity =>
      scsiReadCapacityV1 env devices call.errno call.handle call.discWwpn call.fcLun call.resp
        call.respLen call.stat call.sense call.senseLen
  | .reportLuns =>
      scsiReportLunsV1 env devices call.errno call.handle call.discWwpn call.resp call.respLen
        call.stat call.sense call.senseLen

def v2 : Lib → Outcome (Answer Inquired × Lib) :=
  match call.command with
  | .inquiry cdbByte1 cdbByte2 =>
      scsiInquiryV2 env devices call.handle call.wwpn call.discWwpn call.fcLun cdbByte1
        cdbByte2.toUInt8 call.resp call.respLen call.sense call.senseLen
  | .readCapacity =>
      scsiReadCapacityV2 env devices call.errno call.handle call.wwpn call.discWwpn call.fcLun
        call.resp call.respLen call.stat call.sense call.senseLen
  | .reportLuns =>
      scsiReportLunsV2 env devices call.errno call.handle call.wwpn call.discWwpn call.resp
        call.respLen call.stat call.sense call.senseLen

def issue (command : SgCommand) (name : CStr) : Inquired :=
  command.issue call.errno name call.resp call.respLen call.stat call.sense call.senseLen devices

def outcome (command : SgCommand) (name : CStr) : SgOutcome :=
  devices.outcome name (command.request call.respLen call.senseLen)

/-- What a version 1 entry point makes of the answer to its command. -/
def checked (answer : Inquired) : Inquired :=
  if answer.result = hbaStatusOk ∧ answer.statp = scsiStCheck then
    { answer with result := hbaStatusScsiCheckCondition }
  else answer

theorem v1_eq : call.v1 env devices =
    scsiV1 env call.handle call.discWwpn (call.command.lun call.fcLun) call.command.noName
      (call.issue devices call.command.issued) := by
  unfold v1 issue
  cases call.command <;> rfl

theorem v2_eq : call.v2 env devices =
    scsiV2 env call.handle call.wwpn call.discWwpn (call.command.lun call.fcLun) call.command.noName
      (call.issue devices call.command.issuedV2) := by
  unfold v2 issue
  cases call.command <;> rfl

variable {call env devices} {lib lib' : Lib} {pp : Ptr} {name : CStr}

/-- With the device name found, version 1 answers with the checked command. -/
theorem v1_answers (port : adapterGetPort lib call.handle 0 = .ok (some pp))
    (named : getBindingSgName env pp call.discWwpn (call.command.lun call.fcLun) 50 lib =
      .ok (.ok name, lib')) :
    call.v1 env devices lib = .ok (.ok (checked (call.issue devices call.command.issued name)), lib') := by
  rw [v1_eq, scsiV1, port, ok_bind]
  simp only [issueTo, named, ok_bind]
  rfl

theorem v2_answers {count : Nat}
    (port : adapterGetPortByWwn lib call.handle call.wwpn = .ok (some pp, count))
    (named : getBindingSgName env pp call.discWwpn (call.command.lun call.fcLun) 50 lib =
      .ok (.ok name, lib')) :
    call.v2 env devices lib = .ok (.ok (call.issue devices call.command.issuedV2 name), lib') := by
  rw [v2_eq, scsiV2, port, ok_bind]
  simp only [issueTo, named, ok_bind]

/-- An inquiry reports a device that cannot be opened; the other commands do so when `errno`
    happens to be the number of `HBA_STATUS_ERROR`. -/
def OpenReported (call : ScsiCall) (outcome : SgOutcome) : Prop :=
  match call.command with
  | .inquiry _ _ => True
  | _ => outcome = .notOpened → call.errno = 1

theorem openReported_iff {outcome : SgOutcome} :
    call.OpenReported outcome ↔
      (outcome = .notOpened → call.command.issued.openFailed call.errno = hbaStatusError) := by
  have number : call.errno.toUInt32 = hbaStatusError ↔ call.errno = 1 :=
    ⟨fun same => congrArg UInt32.toInt32 same, fun same => congrArg Int32.toUInt32 same⟩
  unfold OpenReported ScsiCommand.issued SgCommand.openFailed
  cases call.command with
  | inquiry evpd pageCode => simp
  | readCapacity => simp [number]
  | reportLuns => simp [number]

section Checked

variable {answer : Inquired} {outcome : SgOutcome} {openFailed : HbaStatus}
  (returns : Returns openFailed answer outcome)
include returns

/-- The checked answer goes by the rule where the answer itself is not misleading. -/
theorem checked_reported (delivered : ∀ transferred, outcome ≠ .undelivered transferred)
    (opened : outcome = .notOpened → openFailed = hbaStatusError) :
    (checked answer).result = outcome.reported := by
  have failing : answer.result = hbaStatusError → (checked answer).result = hbaStatusError := by
    intro result
    rw [checked, if_neg (by rw [result]; exact fun good => absurd good.1 (by decide)), result]
  cases outcome with
  | notOpened => exact failing ((returns.notOpened rfl).1.trans (opened rfl))
  | failed => exact failing (returns.failed rfl).1
  | undelivered transferred => exact absurd rfl (delivered transferred)
  | executed byte =>
      obtain ⟨result, statp⟩ := returns.executed byte rfl
      rw [checked]
      by_cases check : byte = scsiStCheck
      · rw [if_pos ⟨result, statp.trans check⟩, SgOutcome.reported, if_pos check]
      · rw [if_neg (by rw [statp]; exact fun both => check both.2), SgOutcome.reported, if_neg check,
          result]

/-- Elsewhere it does not even report the outcome. -/
theorem checked_reports_only (reports : Reports (checked answer).result outcome) :
    (∀ transferred, outcome ≠ .undelivered transferred) ∧
      (outcome = .notOpened → openFailed = hbaStatusError) := by
  constructor
  · rintro transferred rfl
    have result := (returns.undelivered transferred rfl).1
    rw [checked] at reports
    split at reports
    · have same := reports.check.mp rfl
      cases same
    · obtain ⟨byte, same, -⟩ := reports.ok.mp result
      cases same
  · rintro rfl
    have reported := reports.error (.inl rfl)
    rw [checked] at reported
    split at reported
    · -- a raw `errno` of zero with a stale status byte
      have different : hbaStatusScsiCheckCondition ≠ hbaStatusError := by decide
      exact absurd reported different
    · exact (returns.notOpened rfl).1.symm.trans reported

end Checked

/-- Version 2 leaves no length behind a command that has not been executed. -/
def LeavesNoLength (call : ScsiCall) (env : Env) (devices : SgDevices) (lib : Lib) : Prop :=
  ∀ pp count name lib', adapterGetPortByWwn lib call.handle call.wwpn = .ok (some pp, count) →
    getBindingSgName env pp call.discWwpn (call.command.lun call.fcLun) 50 lib = .ok (.ok name, lib') →
      ∃ answer, call.v2 env devices lib = .ok (.ok answer, lib') ∧
        ((∀ byte, call.outcome devices call.command.issuedV2 name ≠ .executed byte) → answer.lenp = 0)

/-- Behind the name that version 2 finds, no bytes are said to have been transferred by a command
    that has not been delivered. -/
def TransfersNothing (call : ScsiCall) (env : Env) (devices : SgDevices) (lib : Lib) : Prop :=
  ∀ pp count name lib', adapterGetPortByWwn lib call.handle call.wwpn = .ok (some pp, count) →
    getBindingSgName env pp call.discWwpn (call.command.lun call.fcLun) 50 lib = .ok (.ok name, lib') →
      ∀ transferred, call.outcome devices call.command.issuedV2 name = .undelivered transferred →
        UInt32.ofInt transferred = 0

theorem leavesNoLength_iff :
    call.LeavesNoLength env devices lib ↔ call.TransfersNothing env devices lib := by
  unfold LeavesNoLength TransfersNothing
  refine forall_congr' fun pp => forall_congr' fun count => forall_congr' fun name =>
    forall_congr' fun lib' => imp_congr_right fun port => imp_congr_right fun named => ?_
  have answered := @v2_answers call env devices lib lib' pp name count port named
  have returns : Returns _ (call.issue devices call.command.issuedV2 name)
      (call.outcome devices call.command.issuedV2 name) := SgCommand.returns _
  constructor
  · rintro ⟨answer, same, clears⟩ transferred became
    rw [answered] at same
    cases same
    rw [← (returns.undelivered transferred became).2]
    exact clears (by rw [became]; exact nofun)
  · intro nothing
    refine ⟨_, answered, fun unexecuted => ?_⟩
    cases became : call.outcome devices call.command.issuedV2 name with
    | notOpened => exact (returns.notOpened became).2
    | failed => exact (returns.failed became).2
    | undelivered transferred =>
        exact (returns.undelivered transferred became).2.trans (nothing transferred became)
    | executed byte => exact absurd became (unexecuted byte)

/-- The conditions on what comes back for the name that version 1 finds, and for that of
    version 2. -/
structure Reportable (call : ScsiCall) (env : Env) (devices : SgDevices) (lib : Lib) (name : CStr) :
    Prop where
  delivered : ∀ transferred,
    call.outcome devices call.command.issued name ≠ .undelivered transferred
  opened : call.OpenReported (call.outcome devices call.command.issued name)
  nothing : call.TransfersNothing env devices lib

end ScsiCall

/-- Once the device name has been found, a status reports the outcome, by one rule for all three
    commands, and version 2 leaves no length behind a command that has not been executed, under
    exactly these conditions. -/
theorem scsiCall_reports_iff {call : ScsiCall} {env : Env} {devices : SgDevices} {lib lib' : Lib}
    {pp : Ptr} {name : CStr} (port : adapterGetPort lib call.handle 0 = .ok (some pp))
    (named : getBindingSgName env pp call.discWwpn (call.command.lun call.fcLun) 50 lib =
      .ok (.ok name, lib')) :
    ((∃ answer, call.v1 env devices lib = .ok (.ok answer, lib') ∧
        Reports answer.result (call.outcome devices call.command.issued name) ∧
        answer.result = (call.outcome devices call.command.issued name).reported) ∧
      call.LeavesNoLength env devices lib) ↔
    call.Reportable env devices lib name := by
  have returns : Returns (call.command.issued.openFailed call.errno)
      (call.issue devices call.command.issued name) (call.outcome devices call.command.issued name) :=
    SgCommand.returns _
  constructor
  · rintro ⟨⟨answer, answered, reports, -⟩, noLength⟩
    rw [ScsiCall.v1_answers port named] at answered
    cases answered
    obtain ⟨delivered, opened⟩ := ScsiCall.checked_reports_only returns reports
    exact ⟨delivered, ScsiCall.openReported_iff.mpr opened, ScsiCall.leavesNoLength_iff.mp noLength⟩
  · rintro ⟨delivered, opened, nothing⟩
    have reported := ScsiCall.checked_reported returns delivered (ScsiCall.openReported_iff.mp opened)
    exact ⟨⟨_, ScsiCall.v1_answers port named, reported ▸ reports_reported _, reported⟩,
      ScsiCall.leavesNoLength_iff.mpr nothing⟩

/-- READ CAPACITY of the device of the small system. -/
def smallReadCapacity (errno : Int32) : ScsiCall where
  command := .readCapacity
  handle := 0x100
  wwpn := copyWwn 0x1000000000000001
  discWwpn := copyWwn 0x4000000000000001
  fcLun := 0x100000000
  resp := List.replicate 8 0
  respLen := 8
  stat := 0
  sense := []
  senseLen := 0
  errno := errno

/-- A device that answers is reported on. -/
theorem scsiCall_reports_small :
    ∃ lib', (∃ answer, (smallReadCapacity 0).v1 smallSystem (executing scsiStCheck)
        (loadedState smallSystem) = .ok (.ok answer, lib') ∧
        Reports answer.result (.executed scsiStCheck) ∧
        answer.result = SgOutcome.reported (.executed scsiStCheck)) ∧
      (smallReadCapacity 0).LeavesNoLength smallSystem (executing scsiStCheck)
        (loadedState smallSystem) := by
  obtain ⟨port, lib', named⟩ := sgName_small
  have executed : ∀ name, (smallReadCapacity 0).outcome (executing scsiStCheck) .readCapacity name =
      .executed scsiStCheck := fun name => executing_outcome scsiStCheck _
  have reportable : (smallReadCapacity 0).Reportable smallSystem (executing scsiStCheck)
      (loadedState smallSystem) "/dev/sg1".toList := by
    refine ⟨fun transferred became => ?_, fun notOpened => ?_,
      fun pp count name lib' _ _ transferred became => ?_⟩
    · exact absurd ((executed _).symm.trans became) nofun
    · exact absurd ((executed _).symm.trans notOpened) nofun
    · exact absurd ((executed _).symm.trans became) nofun
  obtain ⟨⟨answer, answered, reports, reported⟩, noLength⟩ :=
    (@scsiCall_reports_iff (smallReadCapacity 0) _ _ _ _ _ _ port named).mpr reportable
  have became : (smallReadCapacity 0).outcome (executing scsiStCheck)
      (smallReadCapacity 0).command.issued "/dev/sg1".toList = .executed scsiStCheck := executed _
  rw [became] at reports reported
  exact ⟨lib', ⟨answer, answered, reports, reported⟩, noLength⟩

/-- INQUIRY of the same device. -/
def smallInquiry : ScsiCall := { smallReadCapacity 0 with command := .inquiry 0 0 }

/-- No device is connected any more (`DID_NO_CONNECT`). -/
def disconnected : SgDevices := fun _ _ => some ⟨0, [], [], 0, 0, 0, 1, 0⟩

/-- A device that cannot be opened is reported as an unsupported function, which is what the number
    of `ENOENT` means; one that is not connected any more is reported to have answered an INQUIRY,
    with as many bytes as were asked for. -/
theorem scsiCall_misreports :
    (∃ lib' answer, (smallReadCapacity 2).v1 smallSystem (fun _ _ => none)
        (loadedState smallSystem) = .ok (.ok answer, lib') ∧
      (smallReadCapacity 2).outcome (fun _ _ => none) .readCapacity "/dev/sg1".toList = .notOpened ∧
      answer.result = hbaStatusErrorNotSupported ∧ ¬ Reports answer.result .notOpened) ∧
    ∃ lib' answer, smallInquiry.v1 smallSystem disconnected (loadedState smallSystem) =
        .ok (.ok answer, lib') ∧
      smallInquiry.outcome disconnected (.inquiry 0 0) "/dev/sg1".toList = .undelivered 8 ∧
      answer.result = hbaStatusOk ∧ answer.lenp = 8 ∧ ¬ Reports answer.result (.undelivered 8) := by
  obtain ⟨port, lib', named⟩ := sgName_small
  constructor
  · refine ⟨lib', _, @ScsiCall.v1_answers (smallReadCapacity 2) _ _ _ _ _ _ port named, rfl, rfl,
      fun reports => ?_⟩
    have status : hbaStatusErrorNotSupported = hbaStatusError := reports.error (.inl rfl)
    exact absurd status (by decide)
  · refine ⟨lib', _, @ScsiCall.v1_answers smallInquiry _ _ _ _ _ _ port named, by decide, rfl, rfl,
      fun reports => ?_⟩
    obtain ⟨byte, same, -⟩ := reports.ok.mp rfl
    cases same

end Hbalinux
