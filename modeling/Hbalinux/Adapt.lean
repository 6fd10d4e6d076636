import Hbalinux.Rport

/-! # Adapters and handles

`adapt.c`: the adapter table, handles and names, and the lookups of local and
remote ports.  A lookup that may attach remote ports returns the library state
with its answer.
-/

namespace Hbalinux

open Outcome

/-- A status, or what the call stores when the status is `HBA_STATUS_OK`. -/
abbrev Answer (α : Type) := Except HbaStatus α

def adapterHandleOffset : UInt32 := 0x100

def hbaShortNameLimit : Nat := 64

def adapterGetCount (lib : Lib) : UInt32 := lib.adapterTable.stLimit

/-- `"%s-%u"` -/
def numberedName (adName : CStr) (index : UInt32) : CStr := adName ++ '-' :: decimal index.toNat

def adapterGetName (lib : Lib) (index : UInt32) : Outcome (Answer CStr) := do
  match ← saTableLookup lib.adapterTable index with
  | none => .ok (.error hbaStatusErrorIllegalIndex)
  | some ap => do
      let adapter ← lib.adapter ap
      let adName ← demand .nullDereference adapter.adName
      .ok (.ok (snprintf hbaShortNameLimit (numberedName adName index)))

/-- `adapter_create`: the status and the state. -/
def adapterCreate (ap : Ptr) (mem : Bool) (lib : Lib) : Outcome (HbaStatus × Lib) := do
  let (index, table) ← saTableAppend lib.adapterTable (some ap) mem
  if index < 0 then .ok (hbaStatusError, { lib with adapterTable := table })
  else do
    let adapter ← lib.adapter ap
    .ok (hbaStatusOk, { lib with
      adapterTable := table
      adapters := lib.adapters.store ap { adapter with adIndex := UInt32.ofInt index } })

/-- `free` of a local port. -/
def freePort (pp : Ptr) (lib : Lib) : Outcome Lib := do
  let _ ← lib.port pp
  .ok { lib with lports := lib.lports.free pp }

def adapterDestroy (ap : Ptr) (lib : Lib) : Outcome Lib := do
  let adapter ← lib.adapter ap
  let (_, lib) ← saTableDestroyAll freePort adapter.adPorts lib
  .ok { lib with adapters := lib.adapters.free ap }

def adapterDestroyAll (lib : Lib) : Outcome Lib := do
  let (table, lib) ← lib.adapterTable.destroyFrom adapterDestroy lib.adapterTable.stLimit.toNat 0 lib
  .ok { lib with adapterTable := saTableDestroy table }

def adapterOpenHandle (lib : Lib) (handle : HbaHandle) : Outcome (Option Ptr) :=
  saTableLookup lib.adapterTable (handle - adapterHandleOffset)

/-- The loop of `adapter_open` over `count` indices from `i` on. -/
def adapterOpenFrom (lib : Lib) (name : CStr) : (count : Nat) → UInt32 → Outcome HbaHandle
  | 0, _ => .ok 0
  | count + 1, i => do
      match ← adapterGetName lib i with
      | .error _ => .ok 0
      | .ok buf =>
          if buf = name then .ok (adapterHandleOffset + i)
          else adapterOpenFrom lib name count (i + 1)

def adapterOpen (lib : Lib) (name : CStr) : Outcome HbaHandle :=
  adapterOpenFrom lib name lib.adapterTable.stLimit.toNat 0

def adapterGetPort (lib : Lib) (handle : HbaHandle) (port : UInt32) : Outcome (Option Ptr) := do
  match ← adapterOpenHandle lib handle with
  | none => .ok none
  | some ap => do
      let adapter ← lib.adapter ap
      saTableLookup adapter.adPorts port

/-- Attach the remote ports of a local port, then look one up in its table. -/
def findRport (env : Env) (pp : Ptr) (find : Lib → SaTable Ptr → Outcome (Option Ptr)) (lib : Lib) :
    Outcome (Option Ptr × Lib) := do
  let lib ← getRportInfo env pp lib
  let port ← lib.port pp
  let rp ← find lib port.apRports
  .ok (rp, lib)

/-- The same for a port given by handle and index. -/
def findRportOf (env : Env) (handle : HbaHandle) (port : UInt32)
    (find : Lib → SaTable Ptr → Outcome (Option Ptr)) (lib : Lib) : Outcome (Option Ptr × Lib) := do
  match ← adapterGetPort lib handle port with
  | none => .ok (none, lib)
  | some pp => findRport env pp find lib

/-- A match function of `sa_table_search`: the remote port itself when `test` holds
    of it. -/
def matchRport (test : PortInfo → Bool) (lib : Lib) (rp : Ptr) : Outcome (Option Ptr) := do
  let rport ← lib.rport rp
  .ok (if test rport then some rp else none)

def adapterTargetMatch (target : UInt32) : Lib → Ptr → Outcome (Option Ptr) :=
  matchRport fun rport => rport.apScsiTarget == target

def adapterWwpnMatch (wwpn : HbaWwn) : Lib → Ptr → Outcome (Option Ptr) :=
  matchRport fun rport => rport.apAttr.portWwn == wwpn

def adapterFcidMatch (fcid : UInt32) : Lib → Ptr → Outcome (Option Ptr) :=
  matchRport fun rport => rport.apAttr.portFcId == fcid

def adapterGetRport (env : Env) (handle : HbaHandle) (port rport : UInt32) :
    Lib → Outcome (Option Ptr × Lib) :=
  findRportOf env handle port fun _ table => saTableLookup table rport

def adapterGetRportN (env : Env) (handle : HbaHandle) (port n : UInt32) :
    Lib → Outcome (Option Ptr × Lib) :=
  findRportOf env handle port fun _ table => saTableLookupN table n

def adapterGetRportTarget (env : Env) (handle : HbaHandle) (port n : UInt32) :
    Lib → Outcome (Option Ptr × Lib) :=
  findRportOf env handle port fun lib table => saTableSearch table (adapterTargetMatch n lib)

def adapterGetRportByWwn (env : Env) (pp : Ptr) (wwpn : HbaWwn) :
    Lib → Outcome (Option Ptr × Lib) :=
  findRport env pp fun lib table => saTableSearch table (adapterWwpnMatch wwpn lib)

def adapterGetRportByFcid (env : Env) (pp : Ptr) (fcid : UInt32) :
    Lib → Outcome (Option Ptr × Lib) :=
  findRport env pp fun lib table => saTableSearch table (adapterFcidMatch fcid lib)

def adapterGetAttr (lib : Lib) (handle : HbaHandle) : Outcome (Answer HbaAdapterAttributes) := do
  match ← adapterOpenHandle lib handle with
  | none => .ok (.error hbaStatusError)
  | some ap => do
      let adapter ← lib.adapter ap
      .ok (.ok adapter.adAttr)

def adapterGetPortAttr (lib : Lib) (handle : HbaHandle) (port : UInt32) :
    Outcome (Answer HbaPortAttributes) := do
  match ← adapterGetPort lib handle port with
  | none => .ok (.error hbaStatusError)
  | some pp => do
      let port ← lib.port pp
      .ok (.ok port.apAttr)

def adapterGetRportAttr (env : Env) (handle : HbaHandle) (port rport : UInt32) (lib : Lib) :
    Outcome (Answer HbaPortAttributes × Lib) := do
  let (found, lib) ← adapterGetRportN env handle port rport lib
  match found with
  | none => .ok (.error hbaStatusError, lib)
  | some rp => do
      let rport ← lib.rport rp
      .ok (.ok rport.apAttr, lib)

/-- The loop of `adapter_get_port_by_wwn`: how many ports carry the name, and the
    last of them.  The counter is an `int`. -/
def portByWwnFrom (lib : Lib) (wwn : HbaWwn) (ports : SaTable Ptr) :
    (count p : Nat) → (found : Nat × Option Ptr) → Outcome (Nat × Option Ptr)
  | 0, _, found => .ok found
  | count + 1, p, found => do
      match ← ports.slotInt p with
      | none => portByWwnFrom lib wwn ports count (p + 1) found
      | some pp => do
          let port ← lib.port pp
          portByWwnFrom lib wwn ports count (p + 1)
            (if port.apAttr.portWwn = wwn then (found.1 + 1, some pp) else found)

/-- The port, unless the name is missing or ambiguous, and the count. -/
def adapterGetPortByWwn (lib : Lib) (handle : HbaHandle) (wwn : HbaWwn) :
    Outcome (Option Ptr × Nat) := do
  match ← adapterOpenHandle lib handle with
  | none => .ok (none, 0)
  | some ap => do
      let adapter ← lib.adapter ap
      let (count, found) ← portByWwnFrom lib wwn adapter.adPorts adapter.adPorts.stLimit.toNat 0
        (0, none)
      .ok (if 1 < count then none else found, count)

/-- The loop over the ports of one adapter in `adapter_open_by_wwn`: the hits so far and the
    handle of the last of them.  The counters are of type `int`. -/
def openPortsFrom (lib : Lib) (wwn : HbaWwn) (adapter : AdapterInfo) :
    (count p : Nat) → (found : Nat × HbaHandle) → Outcome (Nat × HbaHandle)
  | 0, _, found => .ok found
  | count + 1, p, found => do
      match ← adapter.adPorts.slotInt p with
      | none => openPortsFrom lib wwn adapter count (p + 1) found
      | some pp => do
          let port ← lib.port pp
          openPortsFrom lib wwn adapter count (p + 1)
            (if port.apAttr.portWwn = wwn then (found.1 + 1, adapter.adIndex + adapterHandleOffset)
              else found)

/-- The loop over the adapters.  Each adds a hit or none, and there are fewer than `2 ^ 31`. -/
def openByWwnFrom (lib : Lib) (wwn : HbaWwn) :
    (count i : Nat) → (found : Nat × HbaHandle) → Outcome (Nat × HbaHandle)
  | 0, _, found => .ok found
  | count + 1, i, found => do
      match ← lib.adapterTable.slotInt i with
      | none => openByWwnFrom lib wwn count (i + 1) found
      | some ap => do
          let adapter ← lib.adapter ap
          if adapter.adAttr.nodeWwn = wwn then
            openByWwnFrom lib wwn count (i + 1) (found.1 + 1, adapter.adIndex + adapterHandleOffset)
          else do
            let found ← openPortsFrom lib wwn adapter adapter.adPorts.stLimit.toNat 0 found
            openByWwnFrom lib wwn count (i + 1) found

/-- The status and `*phandle`. -/
def adapterOpenByWwn (lib : Lib) (wwn : HbaWwn) : Outcome (HbaStatus × HbaHandle) := do
  let (count, foundHandle) ← openByWwnFrom lib wwn lib.adapterTable.stLimit.toNat 0 (0, 0)
  if count = 1 then .ok (hbaStatusOk, foundHandle)
  else if 1 < count then .ok (hbaStatusErrorAmbiguousWwn, hbaHandleInvalid)
  else .ok (hbaStatusErrorIllegalWwn, hbaHandleInvalid)

/-- A `struct port_info *` that may point to a local or to a remote port. -/
inductive PortPtr where
  | lport (pp : Ptr)
  | rport (rp : Ptr)
  deriving DecidableEq

def Lib.portAt (lib : Lib) : PortPtr → Outcome PortInfo
  | .lport pp => lib.port pp
  | .rport rp => lib.rport rp

/-- The loop of `adapter_get_port_attr_by_wwn`, whose search of a table ends at its first hit. -/
def portAttrByWwnFrom (lib : Lib) (wwn : HbaWwn) (ports : SaTable Ptr) :
    (count p : Nat) → (found : Nat × Option PortPtr) → Outcome (Nat × Option PortPtr)
  | 0, _, found => .ok found
  | count + 1, p, found => do
      match ← ports.slot p with
      | none => portAttrByWwnFrom lib wwn ports count (p + 1) found
      | some pp => do
          let port ← lib.port pp
          let found := if port.apAttr.portWwn = wwn then (found.1 + 1, some (.lport pp)) else found
          let rp ← saTableSearch port.apRports (adapterWwpnMatch wwn lib)
          portAttrByWwnFrom lib wwn ports count (p + 1)
            (match rp with
              | none => found
              | some rp => (found.1 + 1, some (.rport rp)))

def adapterGetPortAttrByWwn (lib : Lib) (handle : HbaHandle) (wwn : HbaWwn) :
    Outcome (Answer HbaPortAttributes) := do
  let (count, found) ← match ← adapterOpenHandle lib handle with
    | none => .ok (0, none)
    | some ap => do
        let adapter ← lib.adapter ap
        portAttrByWwnFrom lib wwn adapter.adPorts adapter.adPorts.stLimit.toNat 0 (0, none)
  match found with
  | none => .ok (.error hbaStatusErrorIllegalWwn)
  | some pp =>
      if 1 < count then .ok (.error hbaStatusErrorAmbiguousWwn)
      else do
        let port ← lib.portAt pp
        .ok (.ok port.apAttr)

end Hbalinux
