import Mathlib.Data.Nat.Digits.Defs
import Hbalinux.C.Scan

/-! # The integer numerals of C

Decimal, octal and hexadecimal numerals with their values, and what `strtoul` has
to do with them: with base 0 it reads a text to its end when that is empty or a
numeral, perhaps with blanks and a sign in front.
-/

namespace Hbalinux

/-- The digits of a number in `base`, the most significant first. -/
def Digits (base : Nat) (s : CStr) (n : Nat) : Prop :=
  s ≠ [] ∧ ∃ ds : List Nat, s.map (digit base) = ds.map some ∧ n = Nat.ofDigits base ds.reverse

/-- A numeral without a sign. -/
inductive Magnitude : CStr → Nat → Prop where
  | decimal {s n} (lead : s.head? ≠ some '0') (digits : Digits 10 s n) : Magnitude s n
  | octal {s n} (lead : s.head? = some '0') (digits : Digits 8 s n) : Magnitude s n
  | hex {s ds n} (lead : hexPrefix s = some ds) (digits : Digits 16 ds n) : Magnitude s n

private theorem readDigits_full {base : Nat} {s : CStr} {acc n : Nat} :
    readDigits base s acc = (n, []) ↔
      ∃ ds : List Nat, s.map (digit base) = ds.map some ∧ n = ds.foldl (fun acc d => acc * base + d) acc := by
  induction s generalizing acc with
  | nil =>
      constructor
      · intro same
        cases same
        exact ⟨[], rfl, rfl⟩
      · rintro ⟨ds, same, rfl⟩
        obtain rfl := List.map_eq_nil_iff.mp same.symm
        rfl
  | cons c cs ih =>
      rw [readDigits]
      cases here : digit base c with
      | none =>
          simp only [Prod.mk.injEq, reduceCtorEq, and_false, false_iff, not_exists, not_and]
          rintro ds same -
          cases ds with
          | nil => cases same
          | cons d ds =>
              rw [List.map_cons, List.map_cons, here] at same
              cases same
      | some d =>
          simp only [ih, List.map_cons, here]
          constructor
          · rintro ⟨ds, rest, value⟩
            exact ⟨d :: ds, by rw [rest, List.map_cons], value⟩
          · rintro ⟨ds, same, value⟩
            cases ds with
            | nil => cases same
            | cons d' ds =>
                rw [List.map_cons, List.cons.injEq, Option.some.injEq] at same
                obtain ⟨rfl, rest⟩ := same
                exact ⟨ds, rest, value⟩

/-- `digits1` reads a text to its end exactly when it is made of digits. -/
theorem digits1_full {base : Nat} {s : CStr} {n : Nat} :
    digits1 base s = some (n, []) ↔ Digits base s n := by
  have value : ∀ ds : List Nat, Nat.ofDigits base ds.reverse =
      ds.foldl (fun acc d => acc * base + d) 0 := by
    intro ds
    rw [Nat.ofDigits_eq_foldr, List.foldr_reverse]
    congr 1
    funext acc d
    simp [Nat.mul_comm, Nat.add_comm]
  have all := @readDigits_full base s 0 n
  cases s with
  | nil => simp [digits1, Digits]
  | cons c cs =>
      rw [digits1, Digits]
      simp only [← value] at all
      rw [← all, readDigits]
      cases here : digit base c with
      | none => simp
      | some d => simp

/-- The first digit of a numeral. -/
theorem Digits.head {base n : Nat} {s : CStr} (digits : Digits base s n) :
    ∃ c cs d, s = c :: cs ∧ digit base c = some d := by
  obtain ⟨nonempty, ds, same, -⟩ := digits
  cases s with
  | nil => exact absurd rfl nonempty
  | cons c cs =>
      cases ds with
      | nil => cases same
      | cons d ds => exact ⟨c, cs, d, rfl, (List.cons.inj same).1⟩

theorem Digits.all {base n : Nat} {s : CStr} (digits : Digits base s n) :
    ∀ c ∈ s, (digit base c).isSome = true := by
  obtain ⟨-, ds, same, -⟩ := digits
  intro c member
  have image : digit base c ∈ ds.map some := same ▸ List.mem_map_of_mem member
  obtain ⟨d, -, here⟩ := List.mem_map.mp image
  rw [← here]
  rfl

theorem hexPrefix_eq_some {s ds : CStr} (lead : hexPrefix s = some ds) :
    ∃ x, s = '0' :: x :: ds ∧ digit 8 x = none := by
  unfold hexPrefix at lead
  split at lead
  · rename_i x cs
    split at lead
    · rename_i mark
      rw [Option.some.injEq] at lead
      refine ⟨x, by rw [lead], ?_⟩
      rcases mark with rfl | rfl <;> rfl
    · cases lead
  · cases lead

/-- A numeral has one form. -/
theorem Magnitude.cases_lead {s : CStr} {n : Nat} :
    Magnitude s n ↔ if s.head? = some '0' then
      match hexPrefix s with
      | some ds => Digits 16 ds n
      | none => Digits 8 s n
    else Digits 10 s n := by
  constructor
  · intro magnitude
    cases magnitude with
    | decimal lead digits => rwa [if_neg lead]
    | octal lead digits =>
        rw [if_pos lead]
        cases hex : hexPrefix s with
        | none => exact digits
        | some ds =>
            obtain ⟨x, rfl, noDigit⟩ := hexPrefix_eq_some hex
            have octalDigit := digits.all x (by simp)
            rw [noDigit] at octalDigit
            cases octalDigit
    | hex lead digits =>
        obtain ⟨x, rfl, -⟩ := hexPrefix_eq_some lead
        rw [if_pos List.head?_cons, lead]
        exact digits
  · intro form
    split at form
    · rename_i lead
      split at form
      · rename_i ds hex
        exact .hex hex form
      · exact .octal lead form
    · rename_i lead
      exact .decimal lead form

private theorem magnitude_full {body : CStr} {n : Nat} :
    ((hexPrefix body).bind (digits1 16)).orElse
      (fun _ => digits1 (if body.head? = some '0' then 8 else 10) body) = some (n, []) ↔
      Magnitude body n := by
  rw [Magnitude.cases_lead]
  by_cases lead : body.head? = some '0'
  · rw [if_pos lead, if_pos lead]
    cases hex : hexPrefix body with
    | none => exact digits1_full
    | some ds =>
        simp only [Option.bind_some]
        rw [← digits1_full]
        cases read : digits1 16 ds with
        | some r => simp
        | none =>
            -- the octal numeral 0 ends before the `x`
            obtain ⟨x, rfl, noDigit⟩ := hexPrefix_eq_some hex
            have zero : digit 8 '0' = some 0 := rfl
            simp [digits1, readDigits, zero, noDigit]
  · have decimal : hexPrefix body = none := by
      cases hex : hexPrefix body with
      | none => rfl
      | some ds =>
          obtain ⟨x, rfl, -⟩ := hexPrefix_eq_some hex
          exact absurd rfl lead
    rw [if_neg lead, if_neg lead, decimal]
    exact digits1_full

theorem Magnitude.unique {m n : Nat} {s : CStr} (first : Magnitude s m) (second : Magnitude s n) :
    m = n := by
  have same := (magnitude_full.mpr first).symm.trans (magnitude_full.mpr second)
  simpa using same

/-- A numeral begins with a decimal digit. -/
theorem Magnitude.head {s : CStr} {n : Nat} (magnitude : Magnitude s n) :
    ∃ c cs, s = c :: cs ∧ (digit 10 c).isSome = true := by
  cases magnitude with
  | decimal lead digits =>
      obtain ⟨c, cs, d, rfl, here⟩ := digits.head
      exact ⟨c, cs, rfl, by rw [here]; rfl⟩
  | octal lead digits =>
      obtain ⟨c, cs, d, rfl, here⟩ := digits.head
      obtain rfl : c = '0' := Option.some.inj lead
      exact ⟨'0', cs, rfl, rfl⟩
  | hex lead digits =>
      obtain ⟨x, rfl, -⟩ := hexPrefix_eq_some lead
      exact ⟨'0', _, rfl, rfl⟩

/-- A number whose last digits are cut off, less what these stood for. -/
theorem Digits.initial {base m n : Nat} {s t : CStr} (whole : Digits base (s ++ t) n)
    (part : Digits base s m) : m * base ^ t.length ≤ n := by
  obtain ⟨-, all, digits, rfl⟩ := whole
  obtain ⟨-, ds, initial, rfl⟩ := part
  rw [List.map_append, initial] at digits
  obtain ⟨ds', rest, rfl, same, behind⟩ := List.map_eq_append_iff.mp digits.symm
  obtain rfl := List.map_injective_iff.mpr (Option.some_injective Nat) same
  have count : rest.length = t.length := by
    simpa only [List.length_map] using congrArg List.length behind
  rw [List.reverse_append, Nat.ofDigits_append, List.length_reverse, count, Nat.mul_comm]
  exact Nat.le_add_left ..

/-- A numeral that loses digits at its end loses at least a factor of eight. -/
theorem Magnitude.initial {s t : CStr} {m n : Nat} (whole : Magnitude (s ++ t) n)
    (part : Magnitude s m) (more : t ≠ []) : 8 * m ≤ n := by
  have shift : ∀ {base : Nat}, 8 ≤ base → ∀ {n : Nat},
      m * base ^ t.length ≤ n → 8 * m ≤ n := by
    intro base large n bound
    have factor : base ^ 1 ≤ base ^ t.length :=
      Nat.pow_le_pow_right (by omega) (List.length_pos_iff.mpr more)
    rw [Nat.pow_one] at factor
    calc 8 * m = m * 8 := Nat.mul_comm ..
      _ ≤ m * base ^ t.length := Nat.mul_le_mul_left m (large.trans factor)
      _ ≤ n := bound
  obtain ⟨c, cs, rfl, -⟩ := part.head
  have numeral := part
  rw [Magnitude.cases_lead, List.head?_cons] at part
  rw [Magnitude.cases_lead, List.cons_append, List.head?_cons] at whole
  by_cases lead : some c = some '0'
  · rw [if_pos lead] at part whole
    obtain rfl := Option.some.inj lead
    cases cs with
    | nil =>
        -- `0` may stand in front of an `x`, but it is zero
        obtain rfl : m = 0 := numeral.unique (.octal rfl ⟨nofun, [0], rfl, rfl⟩)
        exact Nat.zero_le n
    | cons x cs =>
        rw [List.cons_append] at whole
        by_cases mark : x = 'x' ∨ x = 'X'
        · simp only [hexPrefix, if_pos mark] at part whole
          exact shift (by decide) (whole.initial part)
        · simp only [hexPrefix, if_neg mark] at part whole
          exact shift (by decide) (Digits.initial (s := '0' :: x :: cs) whole part)
  · rw [if_neg lead] at part whole
    exact shift (by decide) (Digits.initial (s := c :: cs) whole part)

/-- A numeral is a C string. -/
theorem Magnitude.clean {s : CStr} {n : Nat} (magnitude : Magnitude s n) : '\x00' ∉ s := by
  have noDigit : ∀ base, digit base '\x00' = none := fun _ => rfl
  have clean : ∀ {base ds}, Digits base ds n → '\x00' ∉ ds := by
    intro base ds digits member
    have all := digits.all _ member
    rw [noDigit] at all
    cases all
  cases magnitude with
  | decimal lead digits => exact clean digits
  | octal lead digits => exact clean digits
  | hex lead digits =>
      obtain ⟨x, rfl, -⟩ := hexPrefix_eq_some lead
      rw [List.mem_cons, List.mem_cons, not_or, not_or]
      refine ⟨by decide, ?_, clean digits⟩
      rintro rfl
      cases lead

/-- With base 0 `strtoul` reads a text to its end when it is a numeral behind blanks
    and a sign. -/
theorem strtoMagnitude_full {s : CStr} {negative : Bool} {n : Nat} :
    strtoMagnitude 0 s = some (negative, n, []) ↔
      ∃ body, sign (s.dropWhile isspace) = (negative, body) ∧ Magnitude body n := by
  simp only [strtoMagnitude, true_or, if_true]
  generalize sign (s.dropWhile isspace) = signed
  obtain ⟨negative', body⟩ := signed
  simp only [Option.map_eq_some_iff, Prod.mk.injEq, ← magnitude_full]
  constructor
  · rintro ⟨⟨m, rest⟩, read, rfl, rfl, rfl⟩
    exact ⟨body, ⟨rfl, rfl⟩, read⟩
  · rintro ⟨body', ⟨rfl, rfl⟩, read⟩
    exact ⟨(n, []), read, rfl, rfl, rfl⟩

/-- A text to be read to its end: nothing, or a numeral behind blanks and a sign. -/
def ReadWhole (s : CStr) : Prop :=
  s = [] ∨ ∃ negative body n, sign (s.dropWhile isspace) = (negative, body) ∧ Magnitude body n

/-- What `strtoul` reads to the end is the empty text or a numeral. -/
theorem strtoul_full {s : CStr} : (strtoul 0 s).2 = [] ↔ ReadWhole s := by
  unfold strtoul ReadWhole
  cases read : strtoMagnitude 0 s with
  | none =>
      constructor
      · intro empty
        exact .inl empty
      · rintro (empty | ⟨negative, body, n, numeral⟩)
        · exact empty
        · rw [strtoMagnitude_full.mpr ⟨body, numeral⟩] at read
          cases read
  | some r =>
      obtain ⟨negative, n, rest⟩ := r
      have last : (if 2 ^ 64 ≤ n then ((0xffffffffffffffff : UInt64), rest)
          else (if negative then -UInt64.ofNat n else UInt64.ofNat n, rest)).2 = rest := by
        split <;> rfl
      rw [last]
      constructor
      · rintro rfl
        obtain ⟨body, numeral⟩ := strtoMagnitude_full.mp read
        exact .inr ⟨negative, body, n, numeral⟩
      · rintro (rfl | ⟨negative', body, n', numeral⟩)
        · cases read
        · rw [strtoMagnitude_full.mpr ⟨body, numeral⟩] at read
          cases read
          rfl

/-- The value of a numeral that `strtoul` reads. -/
theorem strtoul_numeral {s body : CStr} {negative : Bool} {n : Nat}
    (signed : sign (s.dropWhile isspace) = (negative, body)) (magnitude : Magnitude body n) :
    strtoul 0 s = (if 2 ^ 64 ≤ n then 0xffffffffffffffff
      else if negative then -UInt64.ofNat n else UInt64.ofNat n, []) := by
  rw [strtoul, strtoMagnitude_full.mpr ⟨body, signed, magnitude⟩]
  simp only
  split <;> rfl

/-- A character no number goes on with. -/
structure Ends (base : Nat) (c : Char) : Prop where
  noDigit : digit base c = none
  noBlank : isspace c = false
  noSign : c ≠ '-' ∧ c ≠ '+'

private theorem readDigits_before {base : Nat} {c : Char} (ends : Ends base c) (s rest : CStr) (acc : Nat) :
    readDigits base (s ++ c :: rest) acc =
      ((readDigits base s acc).1, (readDigits base s acc).2 ++ c :: rest) := by
  induction s generalizing acc with
  | nil => simp [readDigits, ends.noDigit]
  | cons d ds ih =>
      rw [List.cons_append, readDigits, readDigits]
      cases digit base d with
      | none => rfl
      | some v => exact ih _

/-- The sign stands at the beginning. -/
theorem sign_append {s : CStr} (nonempty : s ≠ []) (rest : CStr) :
    sign (s ++ rest) = ((sign s).1, (sign s).2 ++ rest) := by
  cases s with
  | nil => exact absurd rfl nonempty
  | cons d ds =>
      rw [List.cons_append]
      unfold sign
      split
      · rename_i same
        cases same
        rfl
      · rename_i same
        cases same
        rfl
      · rename_i notMinus notPlus
        split
        · rename_i same
          cases same
          exact absurd rfl (notMinus _)
        · rename_i same
          cases same
          exact absurd rfl (notPlus _)
        · rfl

private theorem sign_before {base : Nat} {c : Char} (ends : Ends base c) (s rest : CStr) :
    sign (s ++ c :: rest) = ((sign s).1, (sign s).2 ++ c :: rest) := by
  cases s with
  | nil =>
      rw [List.nil_append, sign]
      · rfl
      · rintro _ same
        exact ends.noSign.1 (List.cons.inj same).1
      · rintro _ same
        exact ends.noSign.2 (List.cons.inj same).1
  | cons d ds => exact sign_append (List.cons_ne_nil d ds) _

private theorem dropWhile_before {base : Nat} {c : Char} (ends : Ends base c) (s rest : CStr) :
    (s ++ c :: rest).dropWhile isspace = s.dropWhile isspace ++ c :: rest := by
  rw [List.dropWhile_append]
  split
  · rename_i blank
    rw [List.isEmpty_iff.mp blank, List.dropWhile_cons_of_neg (by simp [ends.noBlank]), List.nil_append]
  · rfl

/-- `strtoul` reads no further than a character that ends a number. -/
theorem strtoul_before {c : Char} (ends : Ends 10 c) (s rest : CStr) :
    strtoul 10 (s ++ c :: rest) = ((strtoul 10 s).1, (strtoul 10 s).2 ++ c :: rest) := by
  have digits : ∀ body : CStr, digits1 10 (body ++ c :: rest) =
      (digits1 10 body).map fun r => (r.1, r.2 ++ c :: rest) := by
    intro body
    cases body with
    | nil => simp [digits1, ends.noDigit]
    | cons d ds =>
        rw [List.cons_append, digits1, digits1]
        cases digit 10 d with
        | none => rfl
        | some v => exact congrArg some (readDigits_before ends ds rest v)
  simp only [strtoul, strtoMagnitude, Nat.reduceEqDiff, or_self, if_false, Option.orElse_none,
    dropWhile_before ends, sign_before ends, digits]
  cases digits1 10 (sign (s.dropWhile isspace)).2 with
  | none => rfl
  | some r =>
      simp only [Option.map_some]
      split <;> rfl

private theorem readDigits_rest (base : Nat) (s : CStr) (acc : Nat) : (readDigits base s acc).2 <:+ s := by
  induction s generalizing acc with
  | nil => exact List.suffix_refl _
  | cons d ds ih =>
      rw [readDigits]
      cases digit base d with
      | none => exact List.suffix_refl _
      | some v => exact (ih _).trans (List.suffix_cons d ds)

private theorem sign_rest (s : CStr) : (sign s).2 <:+ s := by
  unfold sign
  split
  · exact List.suffix_cons _ _
  · exact List.suffix_cons _ _
  · exact List.suffix_refl _

/-- The text `strtoul` leaves is a part of what it was given. -/
theorem strtoul_rest (s : CStr) : (strtoul 10 s).2 <:+ s := by
  simp only [strtoul, strtoMagnitude, Nat.reduceEqDiff, or_self, if_false, Option.orElse_none]
  have body := (sign_rest (s.dropWhile isspace)).trans (List.dropWhile_suffix isspace)
  generalize (sign (s.dropWhile isspace)).2 = text at body
  cases text with
  | nil => exact List.suffix_refl _
  | cons d ds =>
      simp only [digits1]
      cases digit 10 d with
      | none => exact List.suffix_refl _
      | some v =>
          have rest := (readDigits_rest 10 ds v).trans ((List.suffix_cons d ds).trans body)
          simp only [Option.map_some]
          split <;> exact rest

theorem isDigit_of_digit {c : Char} {d : Nat} (here : digit 10 c = some d) : c.isDigit = true := by
  obtain ⟨value, small⟩ := Option.filter_eq_some_iff.mp here
  simp only [decide_eq_true_eq] at small
  split at value
  · rename_i range
    simpa [Char.isDigit, Char.le_def] using range
  · split at value
    · rename_i range
      have low : 97 ≤ c.toNat := by simpa [Char.le_def, UInt32.le_iff_toNat_le] using range.1
      cases value
      omega
    · split at value
      · rename_i range
        have low : 65 ≤ c.toNat := by simpa [Char.le_def, UInt32.le_iff_toNat_le] using range.1
        cases value
        omega
      · cases value

/-- `strtoul` reads decimal digits. -/
theorem strtoul_digits {s : CStr} {n : Nat} (digits : Digits 10 s n) (small : n < 2 ^ 64) :
    strtoul 10 s = (UInt64.ofNat n, []) := by
  obtain ⟨c, cs, d, rfl, first⟩ := digits.head
  have isDigit := isDigit_of_digit first
  have blank := isspace_of_isDigit isDigit
  have unsigned : sign (c :: cs) = (false, c :: cs) := by
    rw [sign]
    · rintro _ same
      cases same
      cases first
    · rintro _ same
      cases same
      cases first
  have kept : (c :: cs).dropWhile isspace = c :: cs := List.dropWhile_cons_of_neg (by simp [blank])
  simp only [strtoul, strtoMagnitude, Nat.reduceEqDiff, or_self, if_false, Option.orElse_none, kept,
    unsigned, digits1_full.mpr digits, Option.map_some]
  rw [if_neg (by omega)]
  rfl

end Hbalinux
