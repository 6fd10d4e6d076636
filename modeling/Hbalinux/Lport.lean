import Hbalinux.Adapt

/-! # Scanning the host adapters

`lport.c`: one call of `sysfs_scan` handles one entry of the `fc_host` directory.
It identifies the PCI device behind the host, reads the attributes of the local
port and of the adapter, and gives the adapter to the library.  Its line buffer,
integer array and name buffers are handed from one part to the next, with
whatever the last reader left in them.
-/

namespace Hbalinux

open Outcome

def portTypesTable : List (CStr × UInt32) :=
  [("Unknown", 1), ("Other", 2), ("Not Present", 3), ("NPort (fabric via point-to-point)", 5),
    ("NLPort (fabric via loop)", 6), ("LPort (private loop)", 20),
    ("Point-To-Point (direct nport connection)", 21), ("NPIV VPORT", 5)]

def portSpeedsTable : List (CStr × UInt32) :=
  [("Unknown", 0), ("1 Gbit", 1), ("2 Gbit", 2), ("4 Gbit", 8), ("10 Gbit", 4), ("8 Gbit", 0x10),
    ("16 Gbit", 0x20), ("32 Gbit", 0x40), ("20 Gbit", 0x80), ("40 Gbit", 0x100),
    ("Not Negotiated", 0x8000)]

/-- The inner loop of `sys_read_speed`: the table entry at which it stops, the text
    behind the name and what is left of the table, which still starts with the
    entry. -/
def matchSpeed : List (CStr × UInt32) → CStr → Option (UInt32 × CStr × List (CStr × UInt32))
  | [], _ => none
  | (name, value) :: table, cp =>
      if strncasecmp name cp then some (value, cp.drop name.length, (name, value) :: table)
      else matchSpeed table cp

/-- The outer loop of `sys_read_speed`; the table pointer is not reset between
    rounds.  Every round that goes on has passed a comma, which `fuel` counts. -/
def readSpeedsFrom : (fuel : Nat) → CStr → List (CStr × UInt32) → UInt32 → UInt32
  | 0, _, _, val => val
  | fuel + 1, cp, table, val =>
      if cp = [] then val else
        let (val, cp, table) := match matchSpeed table cp with
          | some (value, rest, table) => (val ||| value, rest, table)
          | none => (val, cp, [])
        match cp with
        | ',' :: ' ' :: rest => readSpeedsFrom fuel rest table val
        | ',' :: rest => readSpeedsFrom fuel rest table val
        | _ => val

/-- The speeds and the buffer afterwards. -/
def sysReadSpeed (sysfs : Sysfs) (dir file : CStr) (buf : List Char) : UInt32 × List Char :=
  let (rc, buf) := saSysReadLine sysfs dir file buf 256
  let line := cstr buf
  if rc = 0 ∧ (strstr line "Unknown").isNone then
    (readSpeedsFrom (line.length + 1) line portSpeedsTable 0, buf)
  else (0, buf)

def countingRports (dp : DirEnt) (count : UInt32) : Outcome (Int × UInt32) :=
  .ok (0, if (strstr dp.dName "rport-").isSome then count + 1 else count)

/-- `buf` holds the index to look for and receives the name of the interface. -/
def checkIfindex (sysfs : Sysfs) (dp : DirEnt) (buf : List Char) : Outcome (Int × List Char) :=
  let hbaDir := snprintf 256 (joinPath sysfsHbaDir dp.dName)
  let (rc, line) := saSysReadLine sysfs hbaDir "ifindex" (List.replicate 256 '\x00') 255
  if rc = 0 ∧ cstr buf = cstr line then .ok (1, overlay dp.dName buf) else .ok (0, buf)

/-- `find_phys_if`: the result code and the buffer. -/
def findPhysIf (sysfs : Sysfs) (hbaDir : CStr) (buf : List Char) : Outcome (Int × List Char) := do
  let (rc, buf) := saSysReadLine sysfs hbaDir "iflink" buf 256
  if rc ≠ 0 then .ok (1, buf) else do
    let buf ← Except.map Prod.snd (saDirRead sysfs sysfsHbaDir (checkIfindex sysfs) buf)
    .ok (0, buf)

/-- `readlink` of at most `len` bytes and the NUL its caller puts behind them. -/
def readlink (sysfs : Sysfs) (path : CStr) (len : Nat) : Option CStr :=
  (sysfs.link path).map (List.take len)

/-- The string in a character array, which the reader takes to be terminated. -/
def terminated (buf : List Char) : Outcome CStr :=
  if '\x00' ∈ buf then .ok (cstr buf) else .error .outOfBounds

/-- Store the numbers converted so far over the leading variables. -/
def overwrite {α : Type} : List α → List α → List α
  | [], old => old
  | _, [] => []
  | v :: vs, _ :: old => v :: overwrite vs old

/-- `"%x:%x:%x.%x"` -/
def pciFormat : List ScanItem := [.x, .lit ':', .x, .lit ':', .x, .lit '.', .x]

/-- Four numbers over the four parts of a PCI address. -/
def HbaInfo.setAddress (info : HbaInfo) (parts : List UInt32) : HbaInfo :=
  match overwrite parts [info.domain, info.bus, info.dev, info.func] with
  | [domain, bus, dev, func] =>
      { info with domain := domain, bus := bus, dev := dev, func := func }
  | _ => info

/-- Back up through the components of the path in `buf` to the last one that
    `scan` reads completely.  Every round that goes on has cut the string. -/
def pciAddress (scan : CStr → List UInt32) : (fuel : Nat) → List Char → HbaInfo →
    Option (List Char × HbaInfo)
  | 0, _, _ => none
  | fuel + 1, buf, info =>
      match strrchr (cstr buf) '/' with
      | none => none
      | some (before, component) =>
          let parts := scan component
          let info := info.setAddress parts
          if parts.length = 4 then some (buf, info)
          else if before = [] then none
          else pciAddress scan fuel (buf.set before.length '\x00') info

/-- What the first part of `sysfs_scan` finds out about a host that it goes on
    with. -/
structure Identified where
  symbolicName : CStr
  hostDir : CStr
  hbaDir : CStr
  ifname : List Char
  buf : List Char
  info : HbaInfo

/-- The PCI link of a host: the directory of its HBA, the interface name and the
    buffer with the link, or `none` for a host that is skipped. -/
def pciLink (sysfs : Sysfs) (hostDir overName : CStr) (ifname buf : List Char) :
    Outcome (Option (CStr × List Char × List Char)) := do
  let devDir := snprintf 128 (joinPath hostDir "device")
  let buf := overlay ((readlink sysfs devDir 255).getD []) buf
  if (strstr (cstr buf) "devices/pci").isSome ∧ (strstr (cstr buf) "/net/").isNone then
    .ok (some (snprintf 80 (joinPath hostDir "device/.."), ifname, buf))
  else do
    let ifname := overlay (saStrncpySafe 20 overName overName.length) ifname
    let hbaDir := snprintf 80 (joinPath sysfsHbaDir (cstr ifname))
    match saSysReadU32 sysfs hbaDir "ifindex", saSysReadU32 sysfs hbaDir "iflink" with
    | some ifindex, some iflink => do
        let found ← if ifindex ≠ iflink then do
            let (rc, buf) ← findPhysIf sysfs hbaDir buf
            .ok (if rc ≠ 0 then none else some (strncpy 20 (cstr buf), buf))
          else .ok (some (ifname, buf))
        match found with
        | none => .ok none
        | some (ifname, buf) => do
            let name ← terminated ifname
            let hbaDir := snprintf 80 (joinPath (joinPath sysfsHbaDir name) "device")
            match readlink sysfs hbaDir 255 with
            | none => .ok none
            | some link => .ok (some (hbaDir, ifname, overlay link buf))
    | _, _ => .ok none

/-- From the start of `sysfs_scan` to the PCI address, for a way to read a component of the link. -/
def identifyHostBy (scan : CStr → List UInt32) (sysfs : Sysfs) (scratch : Scratch) (dp : DirEnt) :
    Outcome (Option Identified) := do
  let hostDir := snprintf 80 (joinPath sysfsHostDir dp.dName)
  let (_, buf) := saSysReadLine sysfs hostDir "symbolic_name" scratch.buf.toList 256
  let symbolicName := saStrncpySafe 256 buf 256
  match strstr symbolicName " over " with
  | none => .ok none
  | some cp => do
      match ← pciLink sysfs hostDir (cp.drop 6) scratch.ifname.toList buf with
      | none => .ok none
      | some (hbaDir, ifname, buf) =>
          match pciAddress scan (buf.length + 1) buf .zero with
          | none => .ok none
          | some (buf, info) => .ok (some
              { symbolicName := symbolicName
                hostDir := saStrncpySafe 80 hostDir 80
                hbaDir := hbaDir
                ifname := ifname
                buf := buf
                info := info })

def identifyHost : Sysfs → Scratch → DirEnt → Outcome (Option Identified) :=
  identifyHostBy (sscanf pciFormat)

/-- Thirty-two times `"0x%x"`, separated by blanks. -/
def fc4Format : List ScanItem :=
  [.lit '0', .lit 'x', .x] ++ (List.replicate 31 [.space, .lit '0', .lit 'x', .x]).flatten

def fc4Types (data : List UInt32) : HbaFc4types :=
  ⟨(List.range 32).map fun i => (data.getD i 0).toUInt8, by simp⟩

/-- The value of a character of type `char`, which is signed. -/
def signedChar (c : Char) : Int := if c.toNat < 128 then c.toNat else c.toNat - 256

/-- `*(cp + 6) - '0'`, where `cp` points to the first `"Class"` in the buffer. -/
def classDigit (buf : List Char) : Outcome (Option UInt32) :=
  match strstr (cstr buf) "Class" with
  | none => .ok none
  | some cp => do
      let c ← demand .outOfBounds buf[(cstr buf).length - cp.length + 6]?
      .ok (some (UInt32.ofInt (signedChar c - 48)))

/-- The attributes of a local port, read in this order through one line buffer, and
    the buffer afterwards. -/
def portAttributes (sysfs : Sysfs) (scratch : Scratch) (found : Identified) (dp : DirEnt) :
    Outcome (HbaPortAttributes × List Char) := do
  let dir := found.hostDir
  let nodeWwn := (sysReadWwn sysfs dir "node_name").getD scratch.wwnn
  let portWwn := (sysReadWwn sysfs dir "port_name").getD .zero
  let portFcId := (saSysReadU32 sysfs dir "port_id").getD 0
  let (_, buf) := saSysReadLine sysfs dir "port_type" found.buf 256
  let portType := (saEnumEncode portTypesTable (cstr buf)).getD 0
  let (_, buf) := saSysReadLine sysfs dir "port_state" buf 256
  let portState := (saEnumEncode portStatesTable (cstr buf)).getD 0
  let (portSpeed, buf) := sysReadSpeed sysfs dir "speed" buf
  let (portSupportedSpeed, buf) := sysReadSpeed sysfs dir "supported_speeds" buf
  let (_, buf) := saSysReadLine sysfs dir "maxframe_size" buf 256
  let portMaxFrameSize := scanInt buf 0
  let (_, buf) := saSysReadLine sysfs dir "supported_fc4s" buf 256
  let data := overwrite (sscanf fc4Format (cstr buf)) scratch.data.toList
  let portSupportedFc4Types := fc4Types data
  let (_, buf) := saSysReadLine sysfs dir "active_fc4s" buf 256
  let data := overwrite (sscanf fc4Format (cstr buf)) data
  let portActiveFc4Types := fc4Types data
  let fabricName := (sysReadWwn sysfs dir "fabric_name").getD .zero
  let (_, buf) := saSysReadLine sysfs dir "supported_classes" buf 256
  let classes ← classDigit buf
  let deviceDir := snprintf 256 (joinPath dir "device")
  let count ← Except.map Prod.snd (saDirRead sysfs deviceDir countingRports 0)
  let attr :=
    { nodeWwn := nodeWwn
      portWwn := portWwn
      portFcId := portFcId
      portType := portType
      portState := portState
      portSupportedClassofService := classes.getD 0
      portSupportedFc4Types := portSupportedFc4Types
      portActiveFc4Types := portActiveFc4Types
      portSymbolicName := found.symbolicName
      osDeviceName := saStrncpySafe 256 dp.dName 256
      portSupportedSpeed := portSupportedSpeed
      portSpeed := portSpeed
      portMaxFrameSize := portMaxFrameSize
      fabricName := fabricName
      numberofDiscoveredPorts := count }
  .ok (attr, overlay deviceDir buf)

/-- `"%04x"` -/
def hex4 (v : UInt32) : CStr :=
  let digits := Nat.toDigits 16 v.toNat
  List.replicate (4 - digits.length) '0' ++ digits

/-- `"[%04x:%04x]-[%04x:%04x]-(%04x)"` -/
def modelNumbers (info : HbaInfo) : CStr :=
  '[' :: hex4 info.vendorId ++ ':' :: hex4 info.deviceId ++ "]-[".toList ++
    hex4 info.subsystemVendorId ++ ':' :: hex4 info.subsystemDeviceId ++ "]-(".toList ++
    hex4 info.deviceClass ++ ")".toList

/-- The attributes of an adapter named `adName` whose local port has the node name
    `nodeWwn`. -/
def adapterAttributes (env : Env) (found : Identified) (adName : CStr) (nodeWwn : HbaWwn)
    (buf : List Char) : Outcome HbaAdapterAttributes := do
  let read (file : CStr) := (saSysReadU32 env.sysfs found.hbaDir file).getD 0
  let info := env.findPciDevice { found.info with
    vendorId := read "vendor"
    deviceId := read "device"
    subsystemVendorId := read "subsystem_vendor"
    subsystemDeviceId := read "subsystem_device"
    deviceClass := read "class" >>> 8 }
  let description :=
    if info.modelDescription = "Unknown" then snprintf 256 (modelNumbers info)
    else saStrncpySafe 256 info.modelDescription 256
  let line := safeInto buf description 256
  let buf := strtokInto line ' '
  let model := if (strtok (cstr line) ' ').isSome then cstr buf else description
  let (_, version) := saSysReadLine env.sysfs found.hbaDir sysfsModuleVer
    (List.replicate 256 '\x00') 256
  let link := (readlink env.sysfs (snprintf 80 (found.hbaDir ++ sysfsModule)) 256).getD []
  -- a link that fills the buffer has its NUL stored behind it
  if 256 ≤ link.length then .error .outOfBounds
  let buf := overlay link buf
  let driverName ← match strstr (cstr buf) "module" with
    | none => .ok "Unknown".toList
    | some text => terminated (buf.drop ((cstr buf).length - text.length + 7))
  .ok { manufacturer := saStrncpySafe 64 info.manufacturer 64
        serialNumber := saStrncpySafe 64 info.serialNumber 64
        model := saStrncpySafe 256 model 256
        modelDescription := description
        nodeWwn := nodeWwn
        nodeSymbolicName := saStrncpySafe 256 adName 256
        hardwareVersion := saStrncpySafe 256 info.hardwareVersion 256
        driverVersion := cstr version
        optionROMVersion := []
        firmwareVersion := []
        vendorSpecificID := 0
        numberOfPorts := info.numberOfPorts
        driverName := saStrncpySafe 256 driverName 256 }

/-- How a call of `sysfs_scan` ends. -/
inductive ScanExit where
  | noAdapterMemory
  | noPortMemory
  | skipped
  | portNotInserted
  | notCreated
  | published
  deriving Repr, DecidableEq

/-- The value `sysfs_scan` returns; only the first failure stops the directory read. -/
def ScanExit.code : ScanExit → Int
  | .noAdapterMemory => hbaStatusError.toNat
  | _ => 0

/-- `atoi(dp->d_name + sizeof("host") - 1)` -/
def kernIndex (dp : DirEnt) : UInt32 := atoi (dp.dName.drop 4)

/-- The local port and the adapter name of an identified host, unless the port
    cannot be entered in the adapter's table. -/
def buildPort (env : Env) (dp : DirEnt) (found : Identified) (ap pp : Ptr) :
    Outcome (Option (PortInfo × SaTable Ptr × List Char)) := do
  let (pap, buf) ← portAttributes env.sysfs (env.scratch dp.dName) found dp
  let port := { PortInfo.zero with
    apAdapt := some ap
    apIndex := 0
    apKernHba := kernIndex dp
    apAttr := pap
    hostDir := found.hostDir }
  let (rc, adPorts) ← saTableInsert saTableInit port.apIndex (some pp)
    (env.mem (.portSlot dp.dName))
  .ok (if rc < 0 then none else some (port, adPorts, buf))

/-- The adapter of an identified host whose local port has been built. -/
def buildAdapter (env : Env) (dp : DirEnt) (found : Identified) (port : PortInfo)
    (adPorts : SaTable Ptr) (buf : List Char) : Outcome AdapterInfo := do
  let ifname ← terminated found.ifname
  let buf := overlay (snprintf 256 ("fcoe:".toList ++ ifname)) buf
  let adName ← demand .nullDereference
    (if env.mem (.adapterName dp.dName) then some (cstr buf) else none)
  let attr ← adapterAttributes env found adName port.apAttr.nodeWwn buf
  .ok { AdapterInfo.zero with
    adKernIndex := kernIndex dp
    adPortCount := 1
    adName := some adName
    adPorts := adPorts
    adAttr := attr }

/-- `sysfs_scan`: the exit taken and the state. -/
def sysfsScan (env : Env) (dp : DirEnt) (lib : Lib) : Outcome (ScanExit × Lib) :=
  if env.mem (.adapter dp.dName) = false then .ok (.noAdapterMemory, lib) else
    let (ap, adapters) := lib.adapters.alloc .zero
    if env.mem (.port dp.dName) = false then
      .ok (.noPortMemory, { lib with adapters := adapters.free ap })
    else do
      let (pp, lports) := lib.lports.alloc .zero
      -- label `skip`
      let skip := { lib with adapters := adapters.free ap, lports := lports.free pp }
      match ← identifyHost env.sysfs (env.scratch dp.dName) dp with
      | none => .ok (.skipped, skip)
      | some found => do
          match ← buildPort env dp found ap pp with
          | none => .ok (.portNotInserted, skip)
          | some (port, adPorts, buf) => do
              let adapter ← buildAdapter env dp found port adPorts buf
              let lib := { lib with
                adapters := adapters.store ap adapter
                lports := lports.store pp port }
              let (status, lib) ← adapterCreate ap (env.mem (.adapterSlot dp.dName)) lib
              if status = hbaStatusOk then .ok (.published, lib)
              else do
                let lib ← adapterDestroy ap lib
                .ok (.notCreated, lib)

def adapterInit (env : Env) (lib : Lib) : Outcome Lib :=
  Except.map Prod.snd (saDirRead env.sysfs sysfsHostDir
    (fun dp lib => Except.map (Prod.map ScanExit.code id) (sysfsScan env dp lib)) lib)

end Hbalinux
