import Mathlib.Data.Nat.Digits.Defs

/-! # Bytes, most significant first

The number that a sequence of bytes stands for and the bytes of a number, at any width,
with the shifts and masks that take one apart and put it together.
-/

namespace Hbalinux

/-- The number a field of any width stands for. -/
def bigEndian (bytes : List UInt8) : Nat := Nat.ofDigits 256 (bytes.reverse.map UInt8.toNat)

/-- The `w` low bytes of a number. -/
def bytesOf : (w n : Nat) → List UInt8
  | 0, _ => []
  | w + 1, n => UInt8.ofNat (n / 256 ^ w) :: bytesOf w n

theorem bigEndian_append (high low : List UInt8) :
    bigEndian (high ++ low) = bigEndian high * 256 ^ low.length + bigEndian low := by
  rw [bigEndian, List.reverse_append, List.map_append, Nat.ofDigits_append, List.length_map,
    List.length_reverse, bigEndian, bigEndian]
  ring

theorem bigEndian_singleton (byte : UInt8) : bigEndian [byte] = byte.toNat := by
  simp [bigEndian]

theorem bigEndian_pair (high low : UInt8) :
    bigEndian [high, low] = high.toNat * 256 + low.toNat := by
  have split := bigEndian_append [high] [low]
  rwa [bigEndian_singleton, bigEndian_singleton, List.length_singleton, pow_one] at split

theorem bigEndian_cons (high : UInt8) (low : List UInt8) :
    bigEndian (high :: low) = high.toNat * 256 ^ low.length + bigEndian low := by
  have split := bigEndian_append [high] low
  rwa [bigEndian_singleton] at split

theorem bigEndian_lt (bytes : List UInt8) : bigEndian bytes < 256 ^ bytes.length := by
  induction bytes with
  | nil => decide
  | cons high low ih =>
      have bound := high.toNat_lt
      rw [bigEndian_cons, List.length_cons, Nat.pow_succ]
      calc high.toNat * 256 ^ low.length + bigEndian low
          < high.toNat * 256 ^ low.length + 256 ^ low.length := by omega
        _ = (high.toNat + 1) * 256 ^ low.length := by ring
        _ ≤ 256 * 256 ^ low.length := Nat.mul_le_mul_right _ (by omega)
        _ = 256 ^ low.length * 256 := Nat.mul_comm ..

@[simp] theorem bytesOf_length (w n : Nat) : (bytesOf w n).length = w := by
  induction w with
  | zero => rfl
  | succ w ih => rw [bytesOf, List.length_cons, ih]

/-- The bytes of a number stand for it, up to their width. -/
theorem bigEndian_bytesOf (w n : Nat) : bigEndian (bytesOf w n) = n % 256 ^ w := by
  induction w with
  | zero => simp [bytesOf, bigEndian, Nat.mod_one]
  | succ w ih =>
      rw [bytesOf, bigEndian_cons, bytesOf_length, ih, UInt8.toNat_ofNat']
      calc n / 256 ^ w % 2 ^ 8 * 256 ^ w + n % 256 ^ w
          = n % 256 ^ w + 256 ^ w * (n / 256 ^ w % 256) := by
            rw [Nat.mul_comm, Nat.add_comm, show 2 ^ 8 = 256 from rfl]
        _ = n % 256 ^ (w + 1) := Nat.mod_mul.symm

/-- Only the number modulo the width counts. -/
theorem bytesOf_mod (w n more : Nat) : bytesOf w (n % 256 ^ (w + more)) = bytesOf w n := by
  induction w generalizing more with
  | zero => rfl
  | succ w ih =>
      have byte : UInt8.ofNat (n % 256 ^ (w + 1 + more) / 256 ^ w) = UInt8.ofNat (n / 256 ^ w) := by
        apply UInt8.toNat_inj.mp
        rw [UInt8.toNat_ofNat', UInt8.toNat_ofNat', Nat.add_assoc, Nat.pow_add, Nat.mod_mul_right_div_self,
          Nat.add_comm 1 more, Nat.pow_succ, Nat.mod_mul_left_mod]
      have wider := ih (1 + more)
      rw [← Nat.add_assoc] at wider
      rw [bytesOf, bytesOf, byte, wider]

/-- A field is made of the bytes of the number it stands for. -/
theorem bytesOf_bigEndian (bytes : List UInt8) : bytesOf bytes.length (bigEndian bytes) = bytes := by
  induction bytes with
  | nil => rfl
  | cons high low ih =>
      have bound := bigEndian_lt low
      have top : (high.toNat * 256 ^ low.length + bigEndian low) / 256 ^ low.length = high.toNat := by
        rw [Nat.mul_comm, Nat.mul_add_div (Nat.pow_pos (by decide)), Nat.div_eq_of_lt bound, Nat.add_zero]
      have rest : bytesOf low.length (high.toNat * 256 ^ low.length + bigEndian low) = low := by
        rw [← bytesOf_mod _ _ 0, Nat.add_zero, Nat.mul_add_mod_self_right, Nat.mod_eq_of_lt bound, ih]
      rw [List.length_cons, bytesOf, bigEndian_cons, top, rest, UInt8.ofNat_toNat]

/-- Fields of one width that stand for one number are the same. -/
theorem bigEndian_inj {as bs : List UInt8} (size : as.length = bs.length)
    (same : bigEndian as = bigEndian bs) : as = bs := by
  rw [← bytesOf_bigEndian as, size, same, bytesOf_bigEndian]

theorem bytesOf_append (w v n : Nat) : bytesOf (w + v) n = bytesOf w (n / 256 ^ v) ++ bytesOf v n := by
  induction w with
  | zero => rw [Nat.zero_add, bytesOf, List.nil_append]
  | succ w ih =>
      rw [Nat.succ_add, bytesOf, ih, bytesOf, List.cons_append, Nat.div_div_eq_div_mul, ← Nat.pow_add,
        Nat.add_comm v w]

theorem low_byte (n : Nat) : n &&& 255 = n % 256 := Nat.and_two_pow_sub_one_eq_mod n 8

theorem bigEndian_lt_two_pow (bytes : List UInt8) : bigEndian bytes < 2 ^ (8 * bytes.length) := by
  rw [Nat.pow_mul]
  exact bigEndian_lt bytes

/-- Joining bytes to lower ones with a shift and an or. -/
theorem bigEndian_or (high low : List UInt8) :
    bigEndian (high ++ low) = bigEndian high <<< (8 * low.length) ||| bigEndian low := by
  rw [← Nat.shiftLeft_add_eq_or_of_lt (bigEndian_lt_two_pow low), Nat.shiftLeft_eq, Nat.pow_mul,
    bigEndian_append]

end Hbalinux
