import Hbalinux.Adapt

/-! # Target mappings and SCSI-generic names

`bind.c`: one callback walks the directory of SCSI devices for two purposes.  It
lists the mappings of an adapter into a caller's buffer, and it finds the
SCSI-generic device of one logical unit.  In its context -1 stands for a part of
the address that is not compared; `int` members are kept as 32-bit patterns.  The
members `oc_scp` and `oc_path` are set anew for every entry and stand in `OsNames`.
-/

namespace Hbalinux

open Outcome

/-- The pattern of -1. -/
def anyPart : UInt32 := 0xffffffff

/-- The part of the context that the readers of a device directory fill in. -/
structure OsNames where
  osDeviceName : CStr
  ocSg : CStr
  ocPath : CStr
  deriving DecidableEq

structure BindingContext where
  ocHandle : HbaHandle
  ocKernHba : UInt32
  ocPort : UInt32
  ocTarget : UInt32
  ocLun : UInt32
  ocCount : UInt32
  ocLimit : UInt32
  ocVer : UInt32
  /-- A version 1 entry is the part of a version 2 entry before the LUN identifier. -/
  ocEntries : List HbaFcpScsiEntryV2
  ocStatus : HbaStatus
  ocSg : CStr
  ocRport : Option Ptr

def BindingContext.zero : BindingContext := ⟨0, 0, 0, 0, 0, 0, 0, 0, [], 0, [], none⟩

/-- `"/dev/%s"` -/
def devPath (name : CStr) : CStr := "/dev/".toList ++ name

def getDeprecatedDeviceName (dp : DirEnt) (names : OsNames) : Outcome (Int × OsNames) :=
  let names := if (strstr names.ocPath "block").isSome then
    { names with osDeviceName := snprintf 256 (devPath dp.dName) } else names
  let names := if (strstr names.ocPath "scsi_generic").isSome then
    { names with ocSg := snprintf 32 (devPath dp.dName) } else names
  .ok (0, names)

def getBindingOsNames (sysfs : Sysfs) (dp : DirEnt) (names : OsNames) : Outcome (Int × OsNames) :=
  match dp.dType, strchr dp.dName ':' with
  | .lnk, some (before, after) =>
      if before = "block" then
        .ok (0, { names with osDeviceName := snprintf 256 (devPath after) })
      else if before = "scsi_generic" then
        .ok (0, { names with ocSg := snprintf 32 (devPath after) })
      else .ok (0, names)
  | .dir, none =>
      if dp.dName = "block" ∨ dp.dName = "scsi_generic" then do
        let buf := saStrncpySafe 256 names.ocPath 256
        let path := snprintf 256 (joinPath buf dp.dName)
        let names ← Except.map Prod.snd
          (saDirRead sysfs path getDeprecatedDeviceName { names with ocPath := path })
        .ok (0, { names with ocPath := saStrncpySafe 256 buf 256 })
      else .ok (0, names)
  | _, _ => .ok (0, names)

/-- `"%u:%u:%u:%u"` -/
def scsiDeviceFormat : List ScanItem := [.u, .lit ':', .u, .lit ':', .u, .lit ':', .u]

/-- The four numbers of a SCSI device name. -/
structure ScsiAddress where
  hba : UInt32
  port : UInt32
  tgt : UInt32
  lun : UInt32
  deriving Repr, DecidableEq

def scsiAddress (name : CStr) : Option ScsiAddress :=
  match sscanf scsiDeviceFormat name with
  | [hba, port, tgt, lun] => some ⟨hba, port, tgt, lun⟩
  | _ => none

/-- The address passes the filter of the context. -/
def BindingContext.accepts (cp : BindingContext) (address : ScsiAddress) : Bool :=
  address.hba = cp.ocKernHba ∧ (address.port = cp.ocPort ∨ cp.ocPort = anyPart) ∧
    (address.tgt = cp.ocTarget ∨ cp.ocTarget = anyPart) ∧
    (address.lun = cp.ocLun ∨ cp.ocLun = anyPart)

/-- The remote port behind an accepted address: the one of the context, else the
    one of the local port with this target number. -/
def mappedRport (env : Env) (cp : BindingContext) (address : ScsiAddress) (lib : Lib) :
    Outcome (Option Ptr × Lib) :=
  match cp.ocRport with
  | some rp => .ok (some rp, lib)
  | none => adapterGetRportTarget env cp.ocHandle address.port address.tgt lib

/-- The FCP identifier of an entry, left as it is when there is no remote port. -/
def mappedFcpId (rp : Option Ptr) (lun : UInt32) (before : HbaFcpId) (lib : Lib) :
    Outcome HbaFcpId :=
  match rp with
  | none => .ok before
  | some rp => do
      let rport ← lib.rport rp
      .ok { fcId := rport.apAttr.portFcId
            nodeWwn := rport.apAttr.nodeWwn
            portWwn := rport.apAttr.portWwn
            fcpLun := lun.toUInt64 }

/-- The directory of a SCSI device, in the 50 bytes there are for it. -/
def deviceDir (dName : CStr) : CStr := snprintf 50 (joinPath (joinPath sysfsLunDir dName) "device")

/-- The device names found in the directory of a SCSI device. -/
def osNames (sysfs : Sysfs) (dName : CStr) : Outcome OsNames :=
  let name := deviceDir dName
  Except.map Prod.snd (saDirRead sysfs name (getBindingOsNames sysfs)
    { osDeviceName := [], ocSg := [], ocPath := saStrncpySafe 256 name 50 })

/-- The next entry to fill.  For other versions the members stay NULL. -/
def BindingContext.place (cp : BindingContext) : Outcome HbaFcpScsiEntryV2 :=
  if cp.ocVer = 1 ∨ cp.ocVer = 2 then demand .outOfBounds cp.ocEntries[cp.ocCount.toNat]?
  else .error .nullDereference

/-- Fill an entry for an accepted address; the second component is the SCSI-generic
    name. -/
def fillEntry (env : Env) (ver : UInt32) (dName : CStr) (address : ScsiAddress) (rp : Option Ptr)
    (lib : Lib) (entry : HbaFcpScsiEntryV2) : Outcome (HbaFcpScsiEntryV2 × CStr) := do
  let fcpId ← mappedFcpId rp address.lun entry.fcpId lib
  let names ← osNames env.sysfs dName
  let scsiId :=
    { osDeviceName := names.osDeviceName
      scsiBusNumber := address.hba
      scsiTargetNumber := address.tgt
      scsiOSLun := address.lun }
  let luid := if ver = 2 ∧ names.ocSg ≠ [] then env.sgGetDevId names.ocSg entry.luid else entry.luid
  .ok ({ scsiId := scsiId, fcpId := fcpId, luid := luid }, names.ocSg)

/-- `get_binding_target_mapping` -/
def getBindingTargetMapping (env : Env) (dp : DirEnt) (state : BindingContext × Lib) :
    Outcome (Int × BindingContext × Lib) :=
  let (cp, lib) := state
  match scsiAddress dp.dName with
  | none => .ok (0, cp, lib)
  | some address =>
      if cp.accepts address = false then .ok (0, cp, lib)
      else if cp.ocCount < cp.ocLimit then do
        let before ← cp.place
        let (rp, lib) ← mappedRport env cp address lib
        let (entry, sg) ← fillEntry env cp.ocVer dp.dName address rp lib before
        .ok (0, { cp with
          ocCount := cp.ocCount + 1
          ocEntries := cp.ocEntries.set cp.ocCount.toNat entry
          ocSg := sg }, lib)
      else .ok (0, { cp with ocCount := cp.ocCount + 1 }, lib)

/-- `memset` of the first `count` entries of a caller's buffer. -/
def clearEntries {α : Type} (count : UInt32) (entries : List α) (zero : α) : Outcome (List α) :=
  if count.toNat ≤ entries.length then
    .ok (List.replicate count.toNat zero ++ entries.drop count.toNat)
  else .error .outOfBounds

/-- What both mapping functions do once they have a context: clear the buffer, walk
    the directory, and report the count. -/
def readMapping (env : Env) (ctxt : BindingContext) (lib : Lib) :
    Outcome ((HbaStatus × HbaFcpTargetMapping HbaFcpScsiEntryV2) × Lib) := do
  let entries ← clearEntries ctxt.ocLimit ctxt.ocEntries .zero
  let (ctxt, lib) ← Except.map Prod.snd (saDirRead env.sysfs sysfsLunDir
    (getBindingTargetMapping env) ({ ctxt with ocEntries := entries }, lib))
  let status := if ctxt.ocStatus = hbaStatusOk ∧ ctxt.ocLimit < ctxt.ocCount then
    hbaStatusErrorMoreData else ctxt.ocStatus
  .ok ((status, { numberOfEntries := ctxt.ocCount, entry := ctxt.ocEntries }), lib)

/-- Give a version 1 entry room for the identifier it does not have. -/
def HbaFcpScsiEntry.widen (entry : HbaFcpScsiEntry) : HbaFcpScsiEntryV2 := { entry with luid := [] }

def getBindingTargetMappingV1 (env : Env) (handle : HbaHandle)
    (map : HbaFcpTargetMapping HbaFcpScsiEntry) (lib : Lib) :
    Outcome ((HbaStatus × HbaFcpTargetMapping HbaFcpScsiEntry) × Lib) := do
  match ← adapterOpenHandle lib handle with
  | none => .ok ((hbaStatusErrorInvalidHandle, map), lib)
  | some ap => do
      let adapter ← lib.adapter ap
      let ((status, filled), lib) ← readMapping env { BindingContext.zero with
        ocHandle := handle
        ocKernHba := adapter.adKernIndex
        ocPort := anyPart
        ocTarget := anyPart
        ocLun := anyPart
        ocLimit := map.numberOfEntries
        ocVer := 1
        ocEntries := map.entry.map HbaFcpScsiEntry.widen
        ocStatus := hbaStatusOk } lib
      .ok ((status, { numberOfEntries := filled.numberOfEntries
                      entry := filled.entry.map HbaFcpScsiEntryV2.toHbaFcpScsiEntry }), lib)

def getBindingTargetMappingV2 (env : Env) (handle : HbaHandle) (wwn : HbaWwn)
    (map : HbaFcpTargetMapping HbaFcpScsiEntryV2) (lib : Lib) :
    Outcome ((HbaStatus × HbaFcpTargetMapping HbaFcpScsiEntryV2) × Lib) := do
  let (found, _) ← adapterGetPortByWwn lib handle wwn
  match found with
  | none => .ok ((hbaStatusErrorInvalidHandle, map), lib)
  | some pp => do
      let port ← lib.port pp
      match port.apAdapt with
      | none => .ok ((hbaStatusErrorInvalidHandle, map), lib)
      | some ap => do
          let adapter ← lib.adapter ap
          readMapping env { BindingContext.zero with
            ocHandle := handle
            ocKernHba := adapter.adKernIndex
            ocPort := port.apIndex
            ocTarget := anyPart
            ocLun := anyPart
            ocLimit := map.numberOfEntries
            ocVer := 2
            ocEntries := map.entry
            ocStatus := hbaStatusOk } lib

/-- The context in which `get_binding_sg_name` looks for a logical unit of a remote
    port.  The LUN is narrowed to an `int`. -/
def sgContext (rp : Ptr) (rport : PortInfo) (fcLun : UInt64) : BindingContext :=
  { BindingContext.zero with
    ocRport := some rp
    ocKernHba := rport.apKernHba
    ocPort := rport.apIndex
    ocTarget := rport.apScsiTarget
    ocLun := fcLun.toUInt32
    ocLimit := 1
    ocVer := 1
    ocEntries := [.zero] }

/-- `get_binding_sg_name`: a non-zero result code, or the name put into `len` bytes
    when the code is zero. -/
def getBindingSgName (env : Env) (lp : Ptr) (discWwpn : HbaWwn) (fcLun : UInt64) (len : Nat)
    (lib : Lib) : Outcome (Except Int CStr × Lib) := do
  let (found, lib) ← adapterGetRportByWwn env lp discWwpn lib
  match found with
  | none => .ok (.error hbaStatusErrorIllegalWwn.toNat, lib)
  | some rp => do
      let rport ← lib.rport rp
      if rport.apScsiTarget = anyPart then .ok (.error enoent, lib)
      else do
        let (ctxt, lib) ← Except.map Prod.snd (saDirRead env.sysfs sysfsLunDir
          (getBindingTargetMapping env) (sgContext rp rport fcLun, lib))
        if ctxt.ocCount ≠ 1 then .ok (.error enoent, lib)
        else .ok (.ok (saStrncpySafe len ctxt.ocSg 32), lib)

end Hbalinux
