import Hbalinux.NetTypes
import Hbalinux.Sysfs

/-! # One format for all network-order accessors

Aligned or not, at every width and on either kind of host, an accessor reads and writes
the bytes of a number with the most significant first.  So does `copy_wwn`.
-/

namespace Hbalinux

namespace ByteOrder

theorem word_lt (order : ByteOrder) (bytes : List UInt8) : order.word bytes < 256 ^ bytes.length := by
  have bound := bigEndian_lt (order.arrange bytes)
  rwa [arrange_length] at bound

/-- A word that is read and brought from network order. -/
theorem swap_word (order : ByteOrder) (bytes : List UInt8) :
    order.swap bytes.length (order.word bytes) = bigEndian bytes := by
  cases order with
  | little =>
      have back := bytesOf_bigEndian bytes.reverse
      rw [List.length_reverse] at back
      rw [swap, word, arrange, back, List.reverse_reverse]
  | big => rfl

/-- A word that is brought into network order and stored. -/
theorem image_swap (order : ByteOrder) (w n : Nat) : order.image w (order.swap w n) = bytesOf w n := by
  cases order with
  | little =>
      have back := bytesOf_bigEndian (bytesOf w n).reverse
      rw [List.length_reverse, bytesOf_length] at back
      rw [image, arrange, swap, back, List.reverse_reverse]
  | big => rfl

theorem swap_lt (order : ByteOrder) {w n : Nat} (fits : n < 256 ^ w) : order.swap w n < 256 ^ w := by
  cases order with
  | little =>
      have bound := bigEndian_lt (bytesOf w n).reverse
      rwa [List.length_reverse, bytesOf_length] at bound
  | big => exact fits

end ByteOrder

theorem ntohs_word (order : ByteOrder) {bytes : List UInt8} (size : bytes.length = 2) :
    (ntohs order (UInt16.ofNat (order.word bytes))).toNat = bigEndian bytes := by
  have bound := order.word_lt bytes
  have value := order.swap_word bytes
  have fits := bigEndian_lt bytes
  rw [size] at bound value fits
  rw [ntohs, UInt16.toNat_ofNat_of_lt' bound, value, UInt16.toNat_ofNat_of_lt' fits]

theorem ntohl_word (order : ByteOrder) {bytes : List UInt8} (size : bytes.length = 4) :
    (ntohl order (UInt32.ofNat (order.word bytes))).toNat = bigEndian bytes := by
  have bound := order.word_lt bytes
  have value := order.swap_word bytes
  have fits := bigEndian_lt bytes
  rw [size] at bound value fits
  rw [ntohl, UInt32.toNat_ofNat_of_lt' bound, value, UInt32.toNat_ofNat_of_lt' fits]

theorem image_htons (order : ByteOrder) (val : UInt16) :
    order.image 2 (htons order val).toNat = bytesOf 2 val.toNat := by
  rw [htons, UInt16.toNat_ofNat_of_lt' (order.swap_lt val.toNat_lt), order.image_swap]

theorem image_htonl (order : ByteOrder) (val : UInt32) :
    order.image 4 (htonl order val).toNat = bytesOf 4 val.toNat := by
  rw [htonl, UInt32.toNat_ofNat_of_lt' (order.swap_lt val.toNat_lt), order.image_swap]

/-- A byte is not shifted out of a word that is wide enough. -/
theorem placed_byte (byte : UInt8) {k size : Nat} (inside : 2 ^ (k + 8) ≤ size) :
    byte.toNat <<< k % size = byte.toNat <<< k := by
  have bound : byte.toNat < 2 ^ 8 := byte.toNat_lt
  rw [Nat.shiftLeft_eq]
  apply Nat.mod_eq_of_lt
  calc byte.toNat * 2 ^ k < 2 ^ 8 * 2 ^ k := Nat.mul_lt_mul_of_pos_right bound (Nat.two_pow_pos k)
    _ = 2 ^ (k + 8) := by rw [← Nat.pow_add, Nat.add_comm]
    _ ≤ size := inside

/-- Bytes put in their places and joined. -/
def joined : List UInt8 → Nat
  | [] => 0
  | byte :: low => byte.toNat <<< (8 * low.length) ||| joined low

theorem joined_eq (bytes : List UInt8) : joined bytes = bigEndian bytes := by
  induction bytes with
  | nil => rfl
  | cons byte low ih => rw [joined, ih, ← bigEndian_singleton byte, ← bigEndian_or, List.singleton_append]

theorem uaNet16Get_value (net : UaNet16) : (uaNet16Get net).toNat = bigEndian net.toList := by
  obtain ⟨bytes, size⟩ := net
  match bytes, size with
  | [a, b], size =>
      have got : uaNet16Get ⟨[a, b], size⟩ = (a.toUInt32 <<< 8 ||| b.toUInt32).toUInt16 := rfl
      have value : (a.toUInt32 <<< 8 ||| b.toUInt32).toNat = joined [a, b] := by
        simp [joined, placed_byte]
      have fits := bigEndian_lt_two_pow [a, b]
      rw [got, UInt32.toNat_toUInt16, value, joined_eq]
      exact Nat.mod_eq_of_lt fits

theorem net24Get_value (net : Net24) : (net24Get net).toNat = bigEndian net.toList := by
  obtain ⟨bytes, size⟩ := net
  match bytes, size with
  | [a, b, c], size =>
      have got : net24Get ⟨[a, b, c], size⟩ =
          a.toUInt32 <<< 16 ||| b.toUInt32 <<< 8 ||| c.toUInt32 := rfl
      rw [got, ← joined_eq]
      simp [joined, placed_byte, Nat.or_assoc]

theorem uaNet32Get_value (net : UaNet32) : (uaNet32Get net).toNat = bigEndian net.toList := by
  obtain ⟨bytes, size⟩ := net
  match bytes, size with
  | [a, b, c, d], size =>
      have got : uaNet32Get ⟨[a, b, c, d], size⟩ =
          a.toUInt32 <<< 24 ||| b.toUInt32 <<< 16 ||| c.toUInt32 <<< 8 ||| d.toUInt32 := rfl
      rw [got, ← joined_eq]
      simp [joined, placed_byte, Nat.or_assoc]

theorem net48Get_value (net : Net48) : (net48Get net).toNat = bigEndian net.toList := by
  obtain ⟨bytes, size⟩ := net
  match bytes, size with
  | [a, b, c, d, e, f], size =>
      have got : net48Get ⟨[a, b, c, d, e, f], size⟩ =
          a.toUInt64 <<< 40 ||| b.toUInt64 <<< 32 ||| c.toUInt64 <<< 24 ||| d.toUInt64 <<< 16 |||
            e.toUInt64 <<< 8 ||| f.toUInt64 := rfl
      rw [got, ← joined_eq]
      simp [joined, placed_byte, Nat.or_assoc]

theorem uaNet64Get_value (net : UaNet64) : (uaNet64Get net).toNat = bigEndian net.toList := by
  obtain ⟨bytes, size⟩ := net
  match bytes, size with
  | [a, b, c, d, e, f, g, h], size =>
      have got : uaNet64Get ⟨[a, b, c, d, e, f, g, h], size⟩ =
          a.toUInt64 <<< 56 ||| b.toUInt64 <<< 48 ||| c.toUInt64 <<< 40 ||| d.toUInt64 <<< 32 |||
            e.toUInt64 <<< 24 ||| f.toUInt64 <<< 16 ||| g.toUInt64 <<< 8 ||| h.toUInt64 := rfl
      rw [got, ← joined_eq]
      simp [joined, placed_byte, Nat.or_assoc]

theorem net16Get_value (order : ByteOrder) (net : Net16) :
    (net16Get order net).toNat = bigEndian net.toList := ntohs_word order net.toList_length

theorem net32Get_value (order : ByteOrder) (net : Net32) :
    (net32Get order net).toNat = bigEndian net.toList := ntohl_word order net.toList_length

/-- The two words of a field, the most significant first, are the field. -/
theorem net64Get_value (order : ByteOrder) (net : Net64) :
    (net64Get order net).toNat = bigEndian net.toList := by
  have highSize : (net.toList.take 4).length = 4 := by simp
  have lowSize : (net.toList.drop 4).length = 4 := by simp
  have high := ntohl_word order highSize
  have low := ntohl_word order lowSize
  have highBound := bigEndian_lt_two_pow (net.toList.take 4)
  have joined := bigEndian_or (net.toList.take 4) (net.toList.drop 4)
  rw [highSize] at highBound
  rw [List.take_append_drop, lowSize] at joined
  have placed : bigEndian (net.toList.take 4) <<< (8 * 4) < 2 ^ 64 := by
    rw [Nat.shiftLeft_eq]
    omega
  have shift : (32 : UInt64).toNat % 64 = 8 * 4 := rfl
  rw [net64Get, UInt64.toNat_or, UInt64.toNat_shiftLeft, UInt32.toNat_toUInt64, UInt32.toNat_toUInt64,
    high, low, joined, shift, Nat.mod_eq_of_lt placed]

theorem net16Put_bytes (order : ByteOrder) (val : UInt16) :
    (net16Put order val).toList = bytesOf 2 val.toNat := image_htons order val

theorem net32Put_bytes (order : ByteOrder) (val : UInt32) :
    (net32Put order val).toList = bytesOf 4 val.toNat := image_htonl order val

theorem net64Put_bytes (order : ByteOrder) (val : UInt64) :
    (net64Put order val).toList = bytesOf 8 val.toNat := by
  have high : (val >>> 32).toUInt32.toNat = val.toNat / 256 ^ 4 % 256 ^ 4 := by
    simp [Nat.shiftRight_eq_div_pow]
  have low : val.toUInt32.toNat = val.toNat % 256 ^ 4 := by simp
  rw [net64Put, List.Vector.toList_mk, image_htonl, image_htonl, high, low, bytesOf_mod 4 _ 0,
    bytesOf_mod 4 _ 0]
  exact (bytesOf_append 4 4 val.toNat).symm

/-- A `get` and a `put` of one format: `w` bytes, the most significant first. -/
structure NetworkOrder {w : Nat} {H : Type} (value : H → Nat) (get : List.Vector UInt8 w → H)
    (put : H → List.Vector UInt8 w) : Prop where
  get_value : ∀ net, value (get net) = bigEndian net.toList
  get_put : ∀ val, value (get (put val)) = value val % 2 ^ (8 * w)
  put_get : ∀ net, put (get net) = net

theorem networkOrder {w : Nat} {H : Type} {value : H → Nat} {get : List.Vector UInt8 w → H}
    {put : H → List.Vector UInt8 w} (gets : ∀ net, value (get net) = bigEndian net.toList)
    (puts : ∀ val, (put val).toList = bytesOf w (value val)) : NetworkOrder value get put where
  get_value := gets
  get_put := by
    intro val
    rw [gets, puts, bigEndian_bytesOf, Nat.pow_mul]
  put_get := by
    intro net
    have back := bytesOf_bigEndian net.toList
    rw [net.toList_length] at back
    apply List.Vector.toList_injective
    rw [puts, gets, back]

/-- The difference of the first two bytes that differ, among `n`. -/
def memcmp : List UInt8 → List UInt8 → (n : Nat) → Int
  | a :: as, b :: bs, n + 1 => if a = b then memcmp as bs n else (a.toNat : Int) - b.toNat
  | _, _, _ => 0

theorem memcmp_eq_zero {as bs : List UInt8} {n : Nat} (size : as.length = n) (size' : bs.length = n) :
    memcmp as bs n = 0 ↔ as = bs := by
  induction as generalizing bs n with
  | nil =>
      subst size
      rw [List.length_eq_zero_iff.mp size']
      exact iff_of_true rfl rfl
  | cons a as ih =>
      subst size
      cases bs with
      | nil => cases size'
      | cons b bs =>
          rw [List.length_cons, memcmp, List.cons.injEq]
          by_cases same : a = b
          · rw [if_pos same, ih rfl (Nat.succ.inj size')]
            exact ⟨fun rest => ⟨same, rest⟩, And.right⟩
          · have differ : a.toNat ≠ b.toNat := fun equal => same (UInt8.toNat_inj.mp equal)
            rw [if_neg same]
            exact iff_of_false (by omega) fun both => same both.1

theorem isWwnNonzero_iff (wwn : HbaWwn) : isWwnNonzero wwn = true ↔ bigEndian wwn.toList ≠ 0 := by
  obtain ⟨bytes, size⟩ := wwn
  match bytes, size with
  | [a, b, c, d, e, f, g, h], size =>
      have test : isWwnNonzero ⟨[a, b, c, d, e, f, g, h], size⟩ =
          ((a ||| b ||| c ||| d ||| e ||| f ||| g ||| h) != 0) := rfl
      rw [test, ← joined_eq]
      simp [joined, ← UInt8.toNat_inj, and_assoc]

theorem copyWwn_eq (wwn : UInt64) : copyWwn wwn = uaNet64Put wwn := by
  apply List.Vector.toList_injective
  simp [copyWwn, uaNet64Put, masked_byte]

theorem copyWwn_bytes (wwn : UInt64) : (copyWwn wwn).toList = bytesOf 8 wwn.toNat := by
  rw [copyWwn_eq, uaNet64Put_bytes]

theorem bigEndian_copyWwn (wwn : UInt64) : bigEndian (copyWwn wwn).toList = wwn.toNat := by
  rw [copyWwn_bytes, bigEndian_bytesOf]
  exact Nat.mod_eq_of_lt wwn.toNat_lt

/-- All accessors are for one format, on either kind of host, and WWNs are kept in it. -/
theorem network_accessors_agree (order : ByteOrder) :
    NetworkOrder UInt16.toNat (net16Get order) (net16Put order) ∧
      NetworkOrder UInt16.toNat uaNet16Get uaNet16Put ∧
      NetworkOrder UInt32.toNat net24Get net24Put ∧
      NetworkOrder UInt32.toNat (net32Get order) (net32Put order) ∧
      NetworkOrder UInt32.toNat uaNet32Get uaNet32Put ∧
      NetworkOrder UInt64.toNat net48Get net48Put ∧
      NetworkOrder UInt64.toNat (net64Get order) (net64Put order) ∧
      NetworkOrder UInt64.toNat uaNet64Get uaNet64Put ∧
      (∀ net, net16Get order net = uaNet16Get net) ∧
      (∀ net, net32Get order net = uaNet32Get net) ∧
      (∀ net, net64Get order net = uaNet64Get net) ∧
      (∀ wwn, copyWwn wwn = uaNet64Put wwn) ∧
      (∀ v u, v = u ↔ memcmp (copyWwn v).toList (copyWwn u).toList 8 = 0) ∧
      ∀ wwn, isWwnNonzero (copyWwn wwn) = true ↔ wwn ≠ 0 := by
  refine ⟨networkOrder (net16Get_value order) (net16Put_bytes order),
    networkOrder uaNet16Get_value uaNet16Put_bytes, networkOrder net24Get_value net24Put_bytes,
    networkOrder (net32Get_value order) (net32Put_bytes order),
    networkOrder uaNet32Get_value uaNet32Put_bytes, networkOrder net48Get_value net48Put_bytes,
    networkOrder (net64Get_value order) (net64Put_bytes order),
    networkOrder uaNet64Get_value uaNet64Put_bytes, fun net => ?_, fun net => ?_, fun net => ?_,
    copyWwn_eq, fun v u => ?_, fun wwn => ?_⟩
  · exact UInt16.toNat_inj.mp ((net16Get_value order net).trans (uaNet16Get_value net).symm)
  · exact UInt32.toNat_inj.mp ((net32Get_value order net).trans (uaNet32Get_value net).symm)
  · exact UInt64.toNat_inj.mp ((net64Get_value order net).trans (uaNet64Get_value net).symm)
  · rw [memcmp_eq_zero (copyWwn v).toList_length (copyWwn u).toList_length]
    constructor
    · rintro rfl
      rfl
    · intro same
      rw [← UInt64.toNat_inj, ← bigEndian_copyWwn v, same, bigEndian_copyWwn]
  · rw [isWwnNonzero_iff, bigEndian_copyWwn, ne_eq, ne_eq, ← UInt64.toNat_inj]
    rfl

end Hbalinux
