import Hbalinux.C.Numeral

/-! # Formatted input

`sscanf` for the directives the library uses.  The result is the list of values
stored, as 32-bit patterns; its length is the number of conversions, with which a
caller that tests the return value compares (end of input before the first
conversion, which C reports as `EOF`, is no conversion).
-/

namespace Hbalinux

inductive ScanItem where
  /-- White space in the format. -/
  | space
  /-- An ordinary character. -/
  | lit (c : Char)
  | u
  | d
  | x
  deriving Repr, DecidableEq

/-- Ordinary characters of a format. -/
def lits (s : CStr) : List ScanItem := s.map .lit

/-- Sign and magnitude of an input item.  A `0x` that no hexadecimal digit follows
    is a matching failure. -/
def scanMagnitude (base : Nat) (s : CStr) : Option (Bool × Nat × CStr) :=
  let (negative, body) := sign (s.dropWhile isspace)
  let number := match (if base = 16 then hexPrefix body else none) with
    | some rest => digits1 16 rest
    | none => digits1 base body
  number.map fun (n, rest) => (negative, n, rest)

/-- The low 32 bits of what `strtoul` makes of the item. -/
def unsignedItem (negative : Bool) (n : Nat) : UInt32 :=
  if 2 ^ 64 ≤ n then 0xffffffff else if negative then - UInt32.ofNat n else UInt32.ofNat n

/-- The low 32 bits of what `strtol` makes of the item. -/
def signedItem (negative : Bool) (n : Nat) : UInt32 :=
  UInt32.ofInt (if negative then max (- (n : Int)) (- 2 ^ 63) else min (n : Int) (2 ^ 63 - 1))

def sscanf : List ScanItem → CStr → List UInt32
  | [], _ => []
  | .space :: format, s => sscanf format (s.dropWhile isspace)
  | .lit c :: format, s =>
      match s with
      | [] => []
      | c' :: rest => if c' = c then sscanf format rest else []
  | .u :: format, s =>
      match scanMagnitude 10 s with
      | none => []
      | some (negative, n, rest) => unsignedItem negative n :: sscanf format rest
  | .d :: format, s =>
      match scanMagnitude 10 s with
      | none => []
      | some (negative, n, rest) => signedItem negative n :: sscanf format rest
  | .x :: format, s =>
      match scanMagnitude 16 s with
      | none => []
      | some (negative, n, rest) => unsignedItem negative n :: sscanf format rest

@[simp] theorem sscanf_nil (s : CStr) : sscanf [] s = [] := by rw [sscanf]

@[simp] theorem sscanf_lit (c : Char) (format : List ScanItem) (rest : CStr) :
    sscanf (.lit c :: format) (c :: rest) = sscanf format rest := by
  rw [sscanf, if_pos rfl]

@[simp] theorem sscanf_lits (s : CStr) (format : List ScanItem) (rest : CStr) :
    sscanf (lits s ++ format) (s ++ rest) = sscanf format rest := by
  induction s with
  | nil => rfl
  | cons c cs ih => rw [lits, List.map_cons, List.cons_append, List.cons_append, sscanf_lit, ← ih, lits]

private theorem isDigit_bounds {c : Char} (isDigit : c.isDigit = true) :
    48 ≤ c.toNat ∧ c.toNat ≤ 57 := by
  simpa [Char.isDigit, Char.le_def, UInt32.le_iff_toNat_le] using isDigit

theorem isprint_of_isDigit {c : Char} (isDigit : c.isDigit = true) : isprint c = true := by
  have bounds := isDigit_bounds isDigit
  have blank : 32 ≤ c.toNat := by omega
  have tilde : c.toNat ≤ 126 := by omega
  simpa [isprint, Char.le_def, UInt32.le_iff_toNat_le] using And.intro blank tilde

theorem isspace_of_isDigit {c : Char} (isDigit : c.isDigit = true) : isspace c = false := by
  have bounds := (isDigit_bounds isDigit).1
  have notBlank : c ≠ ' ' := by
    rintro rfl
    simp at bounds
  have notControl : ¬ c ≤ '\r' := by
    intro low
    have small : c.toNat ≤ 13 := by simpa [Char.le_def, UInt32.le_iff_toNat_le] using low
    omega
  simp [isspace, notBlank, notControl]

theorem scanMagnitude_decimal (n : Nat) {rest : CStr} (stops : Stops rest) :
    scanMagnitude 10 (decimal n ++ rest) = some (false, n, rest) := by
  have number := digits1_decimal n stops
  cases shape : decimal n with
  | nil => exact absurd shape (decimal_ne_nil n)
  | cons c cs =>
      have isDigit : c.isDigit = true := decimal_isDigit (n := n) (shape ▸ List.mem_cons_self ..)
      have dropped : (c :: cs ++ rest).dropWhile isspace = c :: cs ++ rest := by
        rw [List.cons_append, List.dropWhile_cons_of_neg (by simp [isspace_of_isDigit isDigit])]
      have unsigned : sign (c :: cs ++ rest) = (false, c :: cs ++ rest) := by
        rw [List.cons_append, sign]
        · rintro cs' same
          cases same
          simp at isDigit
        · rintro cs' same
          cases same
          simp at isDigit
      rw [shape] at number
      simp only [scanMagnitude, dropped, unsigned, Nat.reduceEqDiff, if_false, number,
        Option.map_some]

/-- `%u` reads back what `%u` wrote. -/
theorem sscanf_decimal (v : UInt32) (format : List ScanItem) {rest : CStr} (stops : Stops rest) :
    sscanf (.u :: format) (decimal v.toNat ++ rest) = v :: sscanf format rest := by
  have bound := v.toNat_lt
  rw [sscanf, scanMagnitude_decimal v.toNat stops]
  simp only [unsignedItem]
  rw [if_neg (by omega)]
  simp

theorem stops_nil : Stops [] := by
  intro c head
  cases head

theorem stops_cons {c : Char} (noDigit : digit 10 c = none) (rest : CStr) : Stops (c :: rest) := by
  intro c' head
  cases head
  exact noDigit

end Hbalinux
