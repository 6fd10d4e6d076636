import Hbalinux.C.BigEndian
import Hbalinux.Hbaapi

/-! # Network-order fields

The types and accessors of `net_types.h`.  A field is the bytes it has in memory.  An
aligned field is read and written as words of the host, whose bytes are in the host's
order; an unaligned one byte by byte.
-/

namespace Hbalinux

/-- Where the host puts the most significant byte of a word. -/
inductive ByteOrder where
  | little
  | big
  deriving Repr, DecidableEq

namespace ByteOrder

/-- From the bytes of a word in memory to those with the most significant first, and back. -/
def arrange (order : ByteOrder) (bytes : List UInt8) : List UInt8 :=
  match order with
  | .little => bytes.reverse
  | .big => bytes

@[simp] theorem arrange_length (order : ByteOrder) (bytes : List UInt8) :
    (order.arrange bytes).length = bytes.length := by
  cases order with
  | little => exact List.length_reverse
  | big => rfl

@[simp] theorem arrange_arrange (order : ByteOrder) (bytes : List UInt8) :
    order.arrange (order.arrange bytes) = bytes := by
  cases order with
  | little => exact List.reverse_reverse bytes
  | big => rfl

/-- The word of the host that some bytes in memory are. -/
def word (order : ByteOrder) (bytes : List UInt8) : Nat := bigEndian (order.arrange bytes)

/-- The `w` bytes in memory of a word of the host. -/
def image (order : ByteOrder) (w n : Nat) : List UInt8 := order.arrange (bytesOf w n)

@[simp] theorem image_length (order : ByteOrder) (w n : Nat) : (order.image w n).length = w := by
  rw [image, arrange_length, bytesOf_length]

/-- A word with its `w` bytes in network order, or from network order: on a host that has
    the least significant byte first they change places. -/
def swap (order : ByteOrder) (w n : Nat) : Nat :=
  match order with
  | .little => bigEndian (bytesOf w n).reverse
  | .big => n

end ByteOrder

def htons (order : ByteOrder) (val : UInt16) : UInt16 := UInt16.ofNat (order.swap 2 val.toNat)

def ntohs (order : ByteOrder) (val : UInt16) : UInt16 := UInt16.ofNat (order.swap 2 val.toNat)

def htonl (order : ByteOrder) (val : UInt32) : UInt32 := UInt32.ofNat (order.swap 4 val.toNat)

def ntohl (order : ByteOrder) (val : UInt32) : UInt32 := UInt32.ofNat (order.swap 4 val.toNat)

abbrev Net16 := List.Vector UInt8 2

abbrev Net32 := List.Vector UInt8 4

/-- Two words, the most significant first. -/
abbrev Net64 := List.Vector UInt8 8

abbrev Net24 := List.Vector UInt8 3

abbrev Net48 := List.Vector UInt8 6

abbrev UaNet16 := List.Vector UInt8 2

abbrev UaNet32 := List.Vector UInt8 4

abbrev UaNet64 := List.Vector UInt8 8

def net16Get (order : ByteOrder) (net : Net16) : UInt16 :=
  ntohs order (UInt16.ofNat (order.word net.toList))

def net16Put (order : ByteOrder) (val : UInt16) : Net16 :=
  ⟨order.image 2 (htons order val).toNat, order.image_length ..⟩

/-- The bytes are promoted to `int`. -/
def uaNet16Get (net : UaNet16) : UInt16 :=
  (((net.get 0).toUInt32 <<< 8) ||| (net.get 1).toUInt32).toUInt16

def uaNet16Put (val : UInt16) : UaNet16 :=
  ⟨[((val >>> 8) &&& 0xff).toUInt8, (val &&& 0xff).toUInt8], rfl⟩

def net24Get (net : Net24) : UInt32 :=
  ((net.get 0).toUInt32 <<< 16) ||| ((net.get 1).toUInt32 <<< 8) ||| (net.get 2).toUInt32

def net24Put (val : UInt32) : Net24 :=
  ⟨[((val >>> 16) &&& 0xff).toUInt8, ((val >>> 8) &&& 0xff).toUInt8, (val &&& 0xff).toUInt8], rfl⟩

def net32Get (order : ByteOrder) (net : Net32) : UInt32 :=
  ntohl order (UInt32.ofNat (order.word net.toList))

def net32Put (order : ByteOrder) (val : UInt32) : Net32 :=
  ⟨order.image 4 (htonl order val).toNat, order.image_length ..⟩

/-- The bytes are promoted to `int`, whose bits the result takes over: the first byte
    reaches the sign bit. -/
def uaNet32Get (net : UaNet32) : UInt32 :=
  ((net.get 0).toUInt32 <<< 24) ||| ((net.get 1).toUInt32 <<< 16) |||
    ((net.get 2).toUInt32 <<< 8) ||| (net.get 3).toUInt32

def uaNet32Put (val : UInt32) : UaNet32 :=
  ⟨[((val >>> 24) &&& 0xff).toUInt8, ((val >>> 16) &&& 0xff).toUInt8,
    ((val >>> 8) &&& 0xff).toUInt8, (val &&& 0xff).toUInt8], rfl⟩

def net48Get (net : Net48) : UInt64 :=
  ((net.get 0).toUInt64 <<< 40) ||| ((net.get 1).toUInt64 <<< 32) |||
    ((net.get 2).toUInt64 <<< 24) ||| ((net.get 3).toUInt64 <<< 16) |||
    ((net.get 4).toUInt64 <<< 8) ||| (net.get 5).toUInt64

def net48Put (val : UInt64) : Net48 :=
  ⟨[((val >>> 40) &&& 0xff).toUInt8, ((val >>> 32) &&& 0xff).toUInt8,
    ((val >>> 24) &&& 0xff).toUInt8, ((val >>> 16) &&& 0xff).toUInt8,
    ((val >>> 8) &&& 0xff).toUInt8, (val &&& 0xff).toUInt8], rfl⟩

def net64Get (order : ByteOrder) (net : Net64) : UInt64 :=
  ((ntohl order (UInt32.ofNat (order.word (net.toList.take 4)))).toUInt64 <<< 32) |||
    (ntohl order (UInt32.ofNat (order.word (net.toList.drop 4)))).toUInt64

def net64Put (order : ByteOrder) (val : UInt64) : Net64 :=
  ⟨order.image 4 (htonl order (val >>> 32).toUInt32).toNat ++
    order.image 4 (htonl order val.toUInt32).toNat, by simp⟩

def uaNet64Get (net : UaNet64) : UInt64 :=
  ((net.get 0).toUInt64 <<< 56) ||| ((net.get 1).toUInt64 <<< 48) |||
    ((net.get 2).toUInt64 <<< 40) ||| ((net.get 3).toUInt64 <<< 32) |||
    ((net.get 4).toUInt64 <<< 24) ||| ((net.get 5).toUInt64 <<< 16) |||
    ((net.get 6).toUInt64 <<< 8) ||| (net.get 7).toUInt64

def uaNet64Put (val : UInt64) : UaNet64 :=
  ⟨[((val >>> 56) &&& 0xff).toUInt8, ((val >>> 48) &&& 0xff).toUInt8,
    ((val >>> 40) &&& 0xff).toUInt8, ((val >>> 32) &&& 0xff).toUInt8,
    ((val >>> 24) &&& 0xff).toUInt8, ((val >>> 16) &&& 0xff).toUInt8,
    ((val >>> 8) &&& 0xff).toUInt8, (val &&& 0xff).toUInt8], rfl⟩

/-- Test for a non-zero WWN. -/
def isWwnNonzero (wwn : HbaWwn) : Bool :=
  (wwn.get 0 ||| wwn.get 1 ||| wwn.get 2 ||| wwn.get 3 ||| wwn.get 4 ||| wwn.get 5 |||
    wwn.get 6 ||| wwn.get 7) != 0

/-! ## What is stored -/

theorem shifted_byte16 (val : UInt16) {k : UInt16} (inside : k.toNat < 16) :
    ((val >>> k) &&& 0xff).toUInt8 = UInt8.ofNat (val.toNat / 2 ^ k.toNat) := by
  apply UInt8.toNat_inj.mp
  simp [low_byte, Nat.shiftRight_eq_div_pow, Nat.mod_eq_of_lt inside]

theorem shifted_byte32 (val : UInt32) {k : UInt32} (inside : k.toNat < 32) :
    ((val >>> k) &&& 0xff).toUInt8 = UInt8.ofNat (val.toNat / 2 ^ k.toNat) := by
  apply UInt8.toNat_inj.mp
  simp [low_byte, Nat.shiftRight_eq_div_pow, Nat.mod_eq_of_lt inside]

theorem shifted_byte64 (val : UInt64) {k : UInt64} (inside : k.toNat < 64) :
    ((val >>> k) &&& 0xff).toUInt8 = UInt8.ofNat (val.toNat / 2 ^ k.toNat) := by
  apply UInt8.toNat_inj.mp
  simp [low_byte, Nat.shiftRight_eq_div_pow, Nat.mod_eq_of_lt inside]

theorem masked_byte (byte : UInt8) : byte &&& 0xff = byte := by
  apply UInt8.toNat_inj.mp
  simp [low_byte]

theorem uaNet16Put_bytes (val : UInt16) : (uaNet16Put val).toList = bytesOf 2 val.toNat := by
  have high := shifted_byte16 val (k := 8) (by decide)
  simp [uaNet16Put, bytesOf, high, masked_byte]

theorem net24Put_bytes (val : UInt32) : (net24Put val).toList = bytesOf 3 val.toNat := by
  have shifted (k : UInt32) (inside : k.toNat < 32) := shifted_byte32 val inside
  simp [net24Put, bytesOf, shifted 16, shifted 8, masked_byte]

theorem uaNet32Put_bytes (val : UInt32) : (uaNet32Put val).toList = bytesOf 4 val.toNat := by
  have shifted (k : UInt32) (inside : k.toNat < 32) := shifted_byte32 val inside
  simp [uaNet32Put, bytesOf, shifted 24, shifted 16, shifted 8, masked_byte]

theorem net48Put_bytes (val : UInt64) : (net48Put val).toList = bytesOf 6 val.toNat := by
  have shifted (k : UInt64) (inside : k.toNat < 64) := shifted_byte64 val inside
  simp [net48Put, bytesOf, shifted 40, shifted 32, shifted 24, shifted 16, shifted 8, masked_byte]

theorem uaNet64Put_bytes (val : UInt64) : (uaNet64Put val).toList = bytesOf 8 val.toNat := by
  have shifted (k : UInt64) (inside : k.toNat < 64) := shifted_byte64 val inside
  simp [uaNet64Put, bytesOf, shifted 56, shifted 48, shifted 40, shifted 32, shifted 24, shifted 16,
    shifted 8, masked_byte]

theorem bigEndian_uaNet32Put (val : UInt32) : bigEndian (uaNet32Put val).toList = val.toNat := by
  rw [uaNet32Put_bytes, bigEndian_bytesOf]
  exact Nat.mod_eq_of_lt val.toNat_lt

end Hbalinux
