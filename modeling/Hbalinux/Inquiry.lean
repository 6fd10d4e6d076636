import Hbalinux.C.Loop
import Hbalinux.C.Outcome
import Hbalinux.Hbaapi

/-! # INQUIRY

`sg.c`: the INQUIRY command of a SCSI-generic device, and the device identification
page that an identifier buffer is filled from.  The buffer is also the memory of
the command, so the page is searched where it has been put.  Offsets in the buffer
stand for the pointers `idp`, `dp` and `best`.
-/

namespace Hbalinux

open Outcome

def scsiOpInquiry : UInt8 := 0x12
def scsiInqfEvpd : UInt8 := 1
def scsiInqpDevId : UInt8 := 0x83
def scsiInqtTypeMask : UInt8 := 0xf
def scsiDtypeNaa : UInt8 := 3

/-- What the call asks of `SG_IO`. -/
structure SgRequest where
  cmd : List UInt8
  dxferLen : UInt64
  mxSbLen : UInt32
  deriving DecidableEq

/-- What `SG_IO` does: its result, the bytes it puts into the data and sense buffers, and the
    members of the header in which the device, the host adapter (`host_status`) and the driver
    (`driver_status`) say what became of the command.  The callers look at neither of the last two.
    The other members it sets repeat some of this (`masked_status`, `info`) or say nothing about
    the command (`msg_status`, `duration`), and nothing reads them. -/
structure SgReply where
  rc : Int
  data : List UInt8
  sense : List UInt8
  resid : Int
  sbLenWr : UInt8
  status : UInt8
  hostStatus : UInt16
  driverStatus : UInt16

/-- The answer of a device to a request; `none` when it cannot be opened. -/
abbrev SgDevices := CStr → SgRequest → Option SgReply

/-- Bytes at the start of a buffer. -/
def putBytes (bytes buf : List UInt8) : List UInt8 := bytes ++ buf.drop bytes.length

/-- What `sg_issue_inquiry` returns and stores. -/
structure Inquired where
  result : HbaStatus
  buf : List UInt8
  lenp : UInt32
  statp : UInt8
  sense : List UInt8
  senseLenp : UInt32

def inquiryCommand (cdbByte1 cdbByte2 : UInt8) (len : UInt64) : List UInt8 :=
  [scsiOpInquiry, cdbByte1, cdbByte2, (len >>> 8).toUInt8, len.toUInt8, 0]

def sgIssueInquiry (devices : SgDevices) (file : CStr) (cdbByte1 cdbByte2 : UInt8) (buf : List UInt8)
    (lenp : UInt32) (sense : List UInt8) (senseLenp : UInt32) : Inquired :=
  let len := lenp.toUInt64
  let slen := if senseLenp > 255 then 255 else senseLenp
  let len := if len > 255 then 255 else len
  match devices file ⟨inquiryCommand cdbByte1 cdbByte2 len, len, slen⟩ with
  | none => ⟨hbaStatusError, buf, 0, 0, sense, senseLenp⟩
  | some reply =>
      let buf := putBytes (List.replicate len.toNat 0) buf
      let buf := putBytes (reply.data.take len.toNat) buf
      let sense := putBytes (reply.sense.take slen.toNat) sense
      if reply.rc < 0 then ⟨hbaStatusError, buf, 0, 0, sense, senseLenp⟩
      else ⟨hbaStatusOk, buf, UInt32.ofInt (len.toNat - reply.resid), reply.status, sense,
        reply.sbLenWr.toUInt32⟩

def byteAt (mem : List UInt8) (offset : Nat) : Outcome UInt8 := demand .outOfBounds mem[offset]?

def bytesAt (mem : List UInt8) (offset n : Nat) : Outcome (List UInt8) :=
  if offset + n ≤ mem.length then .ok ((mem.drop offset).take n) else .error .outOfBounds

/-- `memcmp(a, b, n) < 0` for two lists of the same length. -/
def memcmpLess : List UInt8 → List UInt8 → Bool
  | a :: as, b :: bs => a < b || (a == b && memcmpLess as bs)
  | _, _ => false

/-- `sizeof(struct scsi_inquiry_dev_id)` -/
def sizeofDevId : UInt32 := 4

/-- `sizeof(struct scsi_inquiry_desc)`, with one byte of the designator. -/
def sizeofDesc : UInt64 := 5

def sgGetIdType (mem : List UInt8) (dp : Nat) : Outcome UInt8 := do
  let flags ← byteAt mem (dp + 1)
  .ok (flags &&& scsiInqtTypeMask)

def idDesignatorLen (mem : List UInt8) (dp : Nat) : Outcome UInt8 := byteAt mem (dp + 3)

/-- The length of a record: its header and its designator. -/
def descLen (idLen : UInt8) : UInt64 := idLen.toUInt64 + sizeofDesc - 1

/-- The variables of the loop of `sg_get_dev_id`. -/
structure Walk where
  dp : Nat
  rlen : UInt64
  best : Option Nat
  deriving DecidableEq

/-- The first condition under which `dp` replaces `best`. -/
def sameTypeBetter (mem : List UInt8) (dp best : Nat) (type : UInt8) : Outcome Bool := do
  let bestType ← sgGetIdType mem best
  if type = bestType then do
    let len ← idDesignatorLen mem dp
    let bestLen ← idDesignatorLen mem best
    if len < bestLen then .ok true
    else if len = bestLen then do
      let designator ← bytesAt mem (dp + 4) bestLen.toNat
      let bestDesignator ← bytesAt mem (best + 4) bestLen.toNat
      .ok (memcmpLess designator bestDesignator)
    else .ok false
  else .ok false

/-- The best record when `dp` with an acceptable type has been looked at. -/
def chooseDesc (mem : List UInt8) (dp : Nat) (type : UInt8) : Option Nat → Outcome (Option Nat)
  | none => .ok (some dp)
  | some best => do
      if ← sameTypeBetter mem dp best type then .ok (some dp)
      else do
        let bestType ← sgGetIdType mem best
        .ok (some (if type > bestType then dp else best))

/-- The body of the loop for a record that begins in the page; `none` is a `break`. -/
def descStep (mem : List UInt8) (s : Walk) : Outcome (Option Walk) := do
  let idLen ← idDesignatorLen mem s.dp
  let dlen := descLen idLen
  if dlen > s.rlen then .ok none
  else do
    let type ← sgGetIdType mem s.dp
    let best ← if type > scsiDtypeNaa then .ok s.best else chooseDesc mem s.dp type s.best
    .ok (some ⟨s.dp + dlen.toNat, s.rlen - dlen, best⟩)

/-- One round of the loop, which leaves with `best`. -/
def descRound (mem : List UInt8) (s : Walk) : Round Walk (Outcome (Option Nat)) :=
  if s.rlen < sizeofDesc then .done (.ok s.best)
  else match descStep mem s with
    | .error fault => .done (.error fault)
    | .ok none => .done (.ok s.best)
    | .ok (some next) => .again next

/-- From the header of the page to the start of the loop; `none` is an early return. -/
def devIdStart (mem : List UInt8) (len : UInt32) : Outcome (Option Walk) :=
  if len < sizeofDevId then .ok none
  else do
    let pageCode ← byteAt mem 1
    if pageCode ≠ scsiInqpDevId then .ok none
    else do
      let len := (len - sizeofDevId).toUInt64
      let high ← byteAt mem 2
      let low ← byteAt mem 3
      let rlen := high.toUInt64 <<< 8 ||| low.toUInt64
      .ok (some ⟨4, if rlen > len then len else rlen, none⟩)

/-- What is moved to the start of the buffer. -/
def devIdMove (mem : List UInt8) (resultLen : UInt64) (best : Nat) : Outcome (List UInt8) := do
  let idLen ← idDesignatorLen mem best
  let dlen := descLen idLen
  if dlen > resultLen then .ok [] else bytesAt mem best dlen.toNat

/-- Everything that is read through `idp`, `dp` and `best`: the record to be moved, if one is
    selected.  At most `fuel` rounds. -/
def devIdSelect (mem : List UInt8) (len : UInt32) (resultLen : UInt64) (fuel : Nat) :
    Option (Outcome (Option (List UInt8))) :=
  match devIdStart mem len with
  | .error fault => some (.error fault)
  | .ok none => some (.ok none)
  | .ok (some start) => (runLoop (descRound mem) fuel start).map fun best => do
      match ← best with
      | none => .ok none
      | some best => do
          let moved ← devIdMove mem resultLen best
          .ok (some moved)

/-- The inquiry of `sg_get_dev_id` into a cleared buffer. -/
def devIdInquiry (devices : SgDevices) (name : CStr) (resultLen : UInt64) : Inquired :=
  sgIssueInquiry devices name scsiInqfEvpd scsiInqpDevId (List.replicate resultLen.toNat 0)
    resultLen.toUInt32 (List.replicate 252 0) 252

/-- `sg_get_dev_id`: the first `resultLen` bytes of the buffer afterwards. -/
def sgGetDevId (devices : SgDevices) (name : CStr) (resultLen : UInt64) (fuel : Nat) :
    Option (Outcome (List UInt8)) :=
  let inquired := devIdInquiry devices name resultLen
  (devIdSelect inquired.buf inquired.lenp resultLen fuel).map fun selected => do
    match ← selected with
    | none => .ok inquired.buf
    | some moved => .ok (moved ++ List.replicate (resultLen.toNat - moved.length) 0)

end Hbalinux
