import Mathlib.Algebra.Group.Nat.Defs
import Mathlib.Algebra.Group.Int.Defs
import Hbalinux.C.Text

/-! # Numerals

`strtol`, `strtoul` and `atoi` with `long` of 64 bits, and decimal rendering.
Rendering is injective and reading gives the number back.
-/

namespace Hbalinux

/-- The value of a digit in `base`. -/
def digit (base : Nat) (c : Char) : Option Nat :=
  let value :=
    if '0' ≤ c ∧ c ≤ '9' then some (c.toNat - 48)
    else if 'a' ≤ c ∧ c ≤ 'z' then some (c.toNat - 87)
    else if 'A' ≤ c ∧ c ≤ 'Z' then some (c.toNat - 55)
    else none
  value.filter (· < base)

/-- Accumulate the leading digits. -/
def readDigits (base : Nat) : CStr → Nat → Nat × CStr
  | [], acc => (acc, [])
  | c :: cs, acc =>
      match digit base c with
      | some d => readDigits base cs (acc * base + d)
      | none => (acc, c :: cs)

/-- At least one digit. -/
def digits1 (base : Nat) : CStr → Option (Nat × CStr)
  | [] => none
  | c :: cs => (digit base c).map (readDigits base cs)

/-- An optional sign; `true` for a minus. -/
def sign : CStr → Bool × CStr
  | '-' :: cs => (true, cs)
  | '+' :: cs => (false, cs)
  | cs => (false, cs)

/-- What follows `0x` or `0X`. -/
def hexPrefix : CStr → Option CStr
  | '0' :: x :: cs => if x = 'x' ∨ x = 'X' then some cs else none
  | _ => none

/-- The subject of `strtoul`: sign, magnitude and the text after it.  With base 0 a
    leading `0x` means 16 and a leading `0` means 8; `0x` counts only before a
    hexadecimal digit.  The prefix `0b` of C23 is not read. -/
def strtoMagnitude (base : Nat) (s : CStr) : Option (Bool × Nat × CStr) :=
  let (negative, body) := sign (s.dropWhile isspace)
  let hex := if base = 0 ∨ base = 16 then (hexPrefix body).bind (digits1 16) else none
  let base := if base = 0 then (if body.head? = some '0' then 8 else 10) else base
  (hex.orElse fun _ => digits1 base body).map fun (n, rest) => (negative, n, rest)

/-- Value and end pointer of `strtoul`, which saturates on overflow. -/
def strtoul (base : Nat) (s : CStr) : UInt64 × CStr :=
  match strtoMagnitude base s with
  | none => (0, s)
  | some (negative, n, rest) =>
      if 2 ^ 64 ≤ n then (0xffffffffffffffff, rest)
      else (if negative then - UInt64.ofNat n else UInt64.ofNat n, rest)

/-- The value of `strtol`, clamped to 64 signed bits. -/
def strtol (base : Nat) (s : CStr) : Int :=
  match strtoMagnitude base s with
  | none => 0
  | some (negative, n, _) =>
      if negative then max (- (n : Int)) (- 2 ^ 63) else min (n : Int) (2 ^ 63 - 1)

/-- `atoi` converts what `strtol` returns to `int`; the callers store it in a
    `u_int32_t`. -/
def atoi (s : CStr) : UInt32 := UInt32.ofInt (strtol 10 s)

/-- `%u` -/
def decimal (n : Nat) : CStr := Nat.toDigits 10 n

theorem digit_ten_of_isDigit {c : Char} (isDigit : c.isDigit = true) :
    digit 10 c = some (c.toNat - 48) := by
  have bounds : 48 ≤ c.toNat ∧ c.toNat ≤ 57 := by
    simpa [Char.isDigit, Char.le_def, UInt32.le_iff_toNat_le] using isDigit
  have range : '0' ≤ c ∧ c ≤ '9' := by
    simpa [Char.le_def, UInt32.le_iff_toNat_le] using bounds
  simp only [digit, if_pos range]
  simp only [Option.filter_some, decide_eq_true_eq]
  rw [if_pos (by omega)]

theorem decimal_isDigit {n : Nat} {c : Char} (member : c ∈ decimal n) : c.isDigit = true :=
  Nat.isDigit_of_mem_toDigits (by decide) (by decide) member

theorem decimal_ne_nil (n : Nat) : decimal n ≠ [] := Nat.toDigits_ne_nil

theorem decimal_injective {m n : Nat} (same : decimal m = decimal n) : m = n := by
  have values := congrArg (fun ds => Nat.ofDigitChars 10 ds 0) same
  simpa only [decimal, Nat.ofDigitChars_ten_toDigits] using values

theorem decimal_length {n k : Nat} (small : n < 10 ^ k) (positive : 0 < k) :
    (decimal n).length ≤ k :=
  (Nat.length_toDigits_le_iff (by decide) positive).mpr small

/-- A text no digit can be read from. -/
def Stops (rest : CStr) : Prop := ∀ c, rest.head? = some c → digit 10 c = none

theorem readDigits_append {ds : CStr} (allDigits : ∀ c ∈ ds, c.isDigit = true) {rest : CStr}
    (stops : Stops rest) (acc : Nat) :
    readDigits 10 (ds ++ rest) acc = (Nat.ofDigitChars 10 ds acc, rest) := by
  induction ds generalizing acc with
  | nil =>
      cases rest with
      | nil => rfl
      | cons c cs => simp [readDigits, stops c rfl]
  | cons c cs ih =>
      rw [List.cons_append, readDigits, digit_ten_of_isDigit (allDigits c (by simp))]
      simp only
      rw [ih (fun d member => allDigits d (List.mem_cons_of_mem _ member)),
        Nat.ofDigitChars_cons, Nat.mul_comm]
      rfl

/-- Reading a rendered number gives it back and stops behind it. -/
theorem digits1_decimal (n : Nat) {rest : CStr} (stops : Stops rest) :
    digits1 10 (decimal n ++ rest) = some (n, rest) := by
  have value : Nat.ofDigitChars 10 (decimal n) 0 = n := Nat.ofDigitChars_ten_toDigits
  cases shape : decimal n with
  | nil => exact absurd shape (decimal_ne_nil n)
  | cons c cs =>
      have allDigits : ∀ d ∈ c :: cs, d.isDigit = true :=
        fun d member => decimal_isDigit (shape ▸ member)
      rw [shape, Nat.ofDigitChars_cons] at value
      rw [List.cons_append, digits1, digit_ten_of_isDigit (allDigits c (by simp)), Option.map_some,
        readDigits_append (fun d member => allDigits d (List.mem_cons_of_mem _ member)) stops]
      simp only [Option.some.injEq, Prod.mk.injEq, and_true]
      simpa using value

end Hbalinux
