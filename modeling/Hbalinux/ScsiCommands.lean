import Hbalinux.Bind
import Hbalinux.Inquiry
import Hbalinux.NetTypes

/-! # SCSI commands

The rest of `sg.c`, READ CAPACITY and REPORT LUNS, and the entry points of `scsi.c`.
They find a local port, the name of a SCSI-generic device behind it, and send that
device a command.
-/

namespace Hbalinux

open Outcome

def scsiOpReadCap10 : UInt8 := 0x25
def scsiOpSaIn16 : UInt8 := 0x9e
def scsiSaReadCap16 : UInt8 := 0x10
def scsiOpReportLuns : UInt8 := 0xa0
def scsiStCheck : UInt8 := 2

def hbaStatusScsiCheckCondition : HbaStatus := 9
def hbaStatusErrorTargetPortWwn : HbaStatus := 23
def hbaStatusErrorTargetLun : HbaStatus := 24

/-- `sizeof(struct scsi_rcap16_resp)` -/
def sizeofRcap16Resp : UInt64 := 12

/-- `struct scsi_rcap10` -/
def rcap10Command : List UInt8 := scsiOpReadCap10 :: List.replicate 9 0

/-- `struct scsi_rcap16` -/
def rcap16Command (allocLen : UInt32) : List UInt8 :=
  scsiOpSaIn16 :: scsiSaReadCap16 :: List.replicate 8 0 ++ (uaNet32Put allocLen).toList ++ [0, 0]

/-- `struct scsi_report_luns` -/
def reportLunsCommand (allocLen : UInt32) : List UInt8 :=
  scsiOpReportLuns :: List.replicate 5 0 ++ (uaNet32Put allocLen).toList ++ [0, 0]

/-- The sense length goes into an `unsigned char`. -/
def readCapacityRequest (respLenp senseLenp : UInt32) : SgRequest :=
  let len := respLenp.toUInt64
  let cmd := if len ≥ sizeofRcap16Resp then rcap16Command len.toUInt32 else rcap10Command
  ⟨cmd, len, senseLenp.toUInt8.toUInt32⟩

def reportLunsRequest (respLenp senseLenp : UInt32) : SgRequest :=
  let len := respLenp.toUInt64
  ⟨reportLunsCommand len.toUInt32, len, senseLenp.toUInt8.toUInt32⟩

/-- `sg_issue_read_capacity` and `sg_issue_report_luns` after the command is built.
    `errno` is what is read after the message about a failed `open`. -/
def sgIssue (devices : SgDevices) (errno : Int32) (file : CStr) (request : SgRequest)
    (resp : List UInt8) (statp : UInt8) (sense : List UInt8) (senseLenp : UInt32) : Inquired :=
  match devices file request with
  | none => ⟨errno.toUInt32, resp, 0, statp, sense, senseLenp⟩
  | some reply =>
      let resp := putBytes (reply.data.take request.dxferLen.toNat) resp
      let sense := putBytes (reply.sense.take request.mxSbLen.toNat) sense
      if reply.rc < 0 then ⟨hbaStatusError, resp, 0, statp, sense, senseLenp⟩
      else ⟨hbaStatusOk, resp, UInt32.ofInt (request.dxferLen.toNat - reply.resid), reply.status,
        sense, reply.sbLenWr.toUInt32⟩

def sgIssueReadCapacity (devices : SgDevices) (errno : Int32) (file : CStr) (resp : List UInt8)
    (respLenp : UInt32) (statp : UInt8) (sense : List UInt8) (senseLenp : UInt32) : Inquired :=
  sgIssue devices errno file (readCapacityRequest respLenp senseLenp) resp statp sense senseLenp

def sgIssueReportLuns (devices : SgDevices) (errno : Int32) (file : CStr) (resp : List UInt8)
    (respLenp : UInt32) (statp : UInt8) (sense : List UInt8) (senseLenp : UInt32) : Inquired :=
  sgIssue devices errno file (reportLunsRequest respLenp senseLenp) resp statp sense senseLenp

/-- Issue a command to the device that `get_binding_sg_name` names; a status alone is an
    early return, which stores nothing. -/
def issueTo (env : Env) (pp : Ptr) (discWwpn : HbaWwn) (fcLun : UInt64) (noName : HbaStatus)
    (issue : CStr → Inquired) (lib : Lib) : Outcome (Answer Inquired × Lib) := do
  let (name, lib) ← getBindingSgName env pp discWwpn fcLun 50 lib
  match name with
  | .error _ => .ok (.error noName, lib)
  | .ok sgName => .ok (.ok (issue sgName), lib)

/-- A version 1 entry point: the status byte becomes part of the status. -/
def scsiV1 (env : Env) (handle : HbaHandle) (discWwpn : HbaWwn) (fcLun : UInt64)
    (noName : HbaStatus) (issue : CStr → Inquired) (lib : Lib) : Outcome (Answer Inquired × Lib) := do
  match ← adapterGetPort lib handle 0 with
  | none => .ok (.error hbaStatusErrorInvalidHandle, lib)
  | some pp => issueTo env pp discWwpn fcLun noName (fun sgName =>
      let answer := issue sgName
      if answer.result = hbaStatusOk ∧ answer.statp = scsiStCheck then
        { answer with result := hbaStatusScsiCheckCondition }
      else answer) lib

/-- A version 2 entry point. -/
def scsiV2 (env : Env) (handle : HbaHandle) (wwpn discWwpn : HbaWwn) (fcLun : UInt64)
    (noName : HbaStatus) (issue : CStr → Inquired) (lib : Lib) : Outcome (Answer Inquired × Lib) := do
  let (found, _) ← adapterGetPortByWwn lib handle wwpn
  match found with
  | none => .ok (.error hbaStatusErrorIllegalWwn, lib)
  | some pp => issueTo env pp discWwpn fcLun noName issue lib

section

variable (env : Env) (devices : SgDevices) (errno : Int32)

def scsiInquiryV1 (handle : HbaHandle) (discWwpn : HbaWwn) (fcLun : UInt64) (evpd : UInt8)
    (pageCode : UInt32) (resp : List UInt8) (respLen : UInt32) (sense : List UInt8)
    (senseLen : UInt32) : Lib → Outcome (Answer Inquired × Lib) :=
  scsiV1 env handle discWwpn fcLun hbaStatusErrorTargetLun fun sgName =>
    sgIssueInquiry devices sgName (if evpd ≠ 0 then scsiInqfEvpd else 0) pageCode.toUInt8 resp respLen
      sense senseLen

def scsiInquiryV2 (handle : HbaHandle) (wwpn discWwpn : HbaWwn) (fcLun : UInt64)
    (cdbByte1 cdbByte2 : UInt8) (resp : List UInt8) (respLenp : UInt32) (sense : List UInt8)
    (senseLenp : UInt32) : Lib → Outcome (Answer Inquired × Lib) :=
  scsiV2 env handle wwpn discWwpn fcLun hbaStatusErrorTargetLun fun sgName =>
    sgIssueInquiry devices sgName cdbByte1 cdbByte2 resp respLenp sense senseLenp

/-- `stat` is what the uninitialised variable holds. -/
def scsiReadCapacityV1 (handle : HbaHandle) (discWwpn : HbaWwn) (fcLun : UInt64) (resp : List UInt8)
    (respLen : UInt32) (stat : UInt8) (sense : List UInt8) (senseLen : UInt32) :
    Lib → Outcome (Answer Inquired × Lib) :=
  scsiV1 env handle discWwpn fcLun hbaStatusErrorTargetLun fun sgName =>
    sgIssueReadCapacity devices errno sgName resp respLen stat sense senseLen

def scsiReadCapacityV2 (handle : HbaHandle) (wwpn discWwpn : HbaWwn) (fcLun : UInt64)
    (resp : List UInt8) (respLenp : UInt32) (statp : UInt8) (sense : List UInt8)
    (senseLenp : UInt32) : Lib → Outcome (Answer Inquired × Lib) :=
  scsiV2 env handle wwpn discWwpn fcLun hbaStatusErrorTargetLun fun sgName =>
    sgIssueReadCapacity devices errno sgName resp respLenp statp sense senseLenp

def scsiReportLunsV1 (handle : HbaHandle) (discWwpn : HbaWwn) (resp : List UInt8)
    (respLen : UInt32) (stat : UInt8) (sense : List UInt8) (senseLen : UInt32) :
    Lib → Outcome (Answer Inquired × Lib) :=
  scsiV1 env handle discWwpn 0 hbaStatusErrorTargetPortWwn fun sgName =>
    sgIssueReportLuns devices errno sgName resp respLen stat sense senseLen

def scsiReportLunsV2 (handle : HbaHandle) (wwpn discWwpn : HbaWwn) (resp : List UInt8)
    (respLenp : UInt32) (statp : UInt8) (sense : List UInt8) (senseLenp : UInt32) :
    Lib → Outcome (Answer Inquired × Lib) :=
  scsiV2 env handle wwpn discWwpn 0 hbaStatusErrorTargetPortWwn fun sgName =>
    sgIssueReportLuns devices errno sgName resp respLenp statp sense senseLenp

end

end Hbalinux
