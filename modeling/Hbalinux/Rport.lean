import Hbalinux.C.Scan
import Hbalinux.State

/-! # Remote ports

`rport.c`: reading one entry of the remote port directory, loading all of them
once, and attaching to a local port the loaded remote ports that belong to it.
-/

namespace Hbalinux

open Outcome

/-- Names of port states in sysfs. -/
def portStatesTable : List (CStr × UInt32) :=
  [("Not Present", 1), ("Online", 2), ("Offline", 3), ("Blocked", 1), ("Bypassed", 4),
    ("Diagnostics", 5), ("Linkdown", 6), ("Error", 7), ("Loopback", 8), ("Deleted", 1)]

/-- `"rport-%u:%u-%u"` -/
def sysfsRportFormat : List ScanItem := lits "rport-" ++ [.u, .lit ':', .u, .lit '-', .u]

def sysReadPortState (sysfs : Sysfs) (dir file : CStr) : Option UInt32 :=
  (sysLine sysfs dir file).bind (saEnumEncode portStatesTable)

/-- The loop of `sys_read_classes`; `none` is a parse error.  A shift by 32 or more
    keeps the low five bits of its count.  Every round that goes on has passed a
    comma, which `fuel` counts. -/
def readClassesFrom : (fuel : Nat) → CStr → UInt32 → Option UInt32
  | 0, _, _ => none
  | fuel + 1, cp, classes =>
      if cp = [] then some classes else
        let cp := if List.isPrefixOf "Class ".toList cp then cp.drop 6 else cp
        let (val, ep) := strtoul 10 cp
        let classes := classes ||| (1 <<< val.toUInt32)
        match ep with
        | [] => some classes
        | ',' :: ' ' :: rest => readClassesFrom fuel rest classes
        | ',' :: rest => readClassesFrom fuel rest classes
        | _ => none

def sysReadClasses (sysfs : Sysfs) (dir file : CStr) : Option UInt32 :=
  match sysLine sysfs dir file with
  | none => none
  | some line =>
      if (strstr line "unspecified").isSome then some 0
      else readClassesFrom (line.length + 1) line 0

/-- `sscanf(buf, "%d", &value)` on a buffer: the value before the call stays when
    nothing converts. -/
def scanInt (buf : List Char) (before : UInt32) : UInt32 :=
  ((sscanf [.d] (cstr buf)).head?).getD before

/-- The remote port of a directory entry, or `none` when a required attribute is
    not readable. -/
def readRport (env : Env) (dp : DirEnt) (hba port rpIndex : UInt32) : Outcome (Option PortInfo) := do
  let rportDir := snprintf 256 (joinPath sysfsRportRoot dp.dName)
  let nodeWwn := sysReadWwn env.sysfs rportDir "node_name"
  let portWwn := sysReadWwn env.sysfs rportDir "port_name"
  let portFcId := saSysReadU32 env.sysfs rportDir "port_id"
  let scsiTarget := saSysReadU32 env.sysfs rportDir "scsi_target_id"
  let (_, buf) := saSysReadLine env.sysfs rportDir "maxframe_size"
    (env.rportScratch dp.dName).toList 256
  -- the buffer is scanned whether or not the read filled it
  if '\x00' ∉ buf then .error .outOfBounds
  let portState := sysReadPortState env.sysfs rportDir "port_state"
  let classes := sysReadClasses env.sysfs rportDir "supported_classes"
  match nodeWwn, portWwn, portFcId, scsiTarget, portState, classes with
  | some nodeWwn, some portWwn, some portFcId, some scsiTarget, some portState, some classes =>
      .ok (some { PortInfo.zero with
        apKernHba := hba
        apIndex := port
        apDiscIndex := rpIndex
        apScsiTarget := scsiTarget
        apAttr := { HbaPortAttributes.zero with
          osDeviceName := rportDir
          nodeWwn := nodeWwn
          portWwn := portWwn
          portFcId := portFcId
          portMaxFrameSize := scanInt buf 0
          portState := portState
          portSupportedClassofService := classes } })
  | _, _, _, _, _, _ => .ok none

def enomem : Int := 12

/-- `sysfs_get_rport` -/
def sysfsGetRport (env : Env) (dp : DirEnt) (lib : Lib) : Outcome (Int × Lib) :=
  match sscanf sysfsRportFormat dp.dName with
  | [hba, port, rpIndex] =>
      if env.mem (.rport dp.dName) = false then .ok (enomem, lib) else do
        match ← readRport env dp hba port rpIndex with
        | none => .ok (0, lib)
        | some rport => do
            let (rp, rports) := lib.rports.alloc rport
            let (rc, table) ← saTableAppend lib.rportsTable (some rp) (env.mem (.rportSlot dp.dName))
            .ok (0, { lib with
              rportsTable := table
              rports := if rc < 0 then rports.free rp else rports })
  | _ => .ok (0, lib)

def sysfsFindRports (env : Env) (lib : Lib) : Outcome Lib :=
  Except.map Prod.snd (saDirRead env.sysfs sysfsRportRoot (sysfsGetRport env) lib)

/-- The loop body of `get_rport_info` for a remote port found in the table.  The
    claim mark is set before the insert, whose result is not looked at. -/
def claimRport (env : Env) (pp rp : Ptr) (lib : Lib) : Outcome Lib := do
  let rport ← lib.rport rp
  let port ← lib.port pp
  if rport.apKernHba = port.apKernHba ∧ rport.apIndex = port.apIndex ∧ rport.apAdapt = none then do
    let _ ← saTableLookup port.apRports rport.apDiscIndex
    let (_, table) ← saTableInsert port.apRports rport.apDiscIndex (some rp)
      (env.mem (.discoveredSlot rp))
    .ok { lib with
      rports := lib.rports.store rp { rport with apAdapt := port.apAdapt }
      lports := lib.lports.store pp { port with apRports := table } }
  else .ok lib

/-- The loop of `get_rport_info` over `count` indices from `ri` on.  `ri` is an
    `int` that is only compared with and passed on as an unsigned number. -/
def getRportInfoFrom (env : Env) (pp : Ptr) : (count ri : Nat) → Lib → Outcome Lib
  | 0, _, lib => .ok lib
  | count + 1, ri, lib => do
      match ← saTableLookup lib.rportsTable (UInt32.ofNat ri) with
      | none => getRportInfoFrom env pp count (ri + 1) lib
      | some rp => do
          let lib ← claimRport env pp rp lib
          getRportInfoFrom env pp count (ri + 1) lib

/-- Read the remote port directory unless that has been done. -/
def loadRports (env : Env) (lib : Lib) : Outcome Lib :=
  if lib.rportsTable.stSize = 0 then sysfsFindRports env lib else .ok lib

def getRportInfo (env : Env) (pp : Ptr) (lib : Lib) : Outcome Lib := do
  let lib ← loadRports env lib
  getRportInfoFrom env pp lib.rportsTable.stSize.toNat 0 lib

end Hbalinux
