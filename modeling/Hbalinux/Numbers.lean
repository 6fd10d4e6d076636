import Hbalinux.C.NumeralSpec
import Hbalinux.Sysfs

/-! # Numbers read from sysfs

`sa_sys_read_u32` and `sa_sys_read_u64` accept what `strtoul` reads to its end.
They store the number on the first line of a file if there is one and it is in
range; an empty line, a plus sign and a number out of range are accepted as well,
and of a long line only the part that the buffer holds counts.
-/

namespace Hbalinux

/-- What the two readers share: the result code and `*vp` afterwards.  `buf` is the
    line buffer before the call. -/
def saSysReadNumber {α : Type} (narrow : UInt64 → α) (sysfs : Sysfs) (dir file : CStr)
    (buf : List Char) (vp : α) : Int × α :=
  let (rc, buf) := saSysReadLine sysfs dir file buf 256
  if rc = 0 then
    let (val, endptr) := strtoul 0 (cstr buf)
    if endptr ≠ [] then (-1, vp) else (0, narrow val)
  else (rc, vp)

/-- `sa_sys_read_u32` with the memory it works on. -/
def saSysReadU32Into : Sysfs → CStr → CStr → List Char → UInt32 → Int × UInt32 :=
  saSysReadNumber UInt64.toUInt32

/-- `sa_sys_read_u64` with the memory it works on. -/
def saSysReadU64Into : Sysfs → CStr → CStr → List Char → UInt64 → Int × UInt64 :=
  saSysReadNumber id

/-- The readers as the rest of the library uses them. -/
theorem saSysReadNumber_eq {α : Type} (narrow : UInt64 → α) (sysfs : Sysfs) (dir file : CStr)
    (buf : List Char) (vp : α) : saSysReadNumber narrow sysfs dir file buf vp =
      match saSysReadU64 sysfs dir file with
      | some val => (0, narrow val)
      | none => (-1, vp) := by
  unfold saSysReadNumber saSysReadU64
  rcases saSysReadLine_cases sysfs dir file buf with ⟨line, seen, rc, text⟩ | ⟨seen, failed⟩
  · simp only [rc, text, seen, if_true]
    generalize strtoul 0 line = read
    obtain ⟨val, endptr⟩ := read
    cases endptr <;> rfl
  · simp [seen, failed]

theorem saSysReadU32Into_eq (sysfs : Sysfs) (dir file : CStr) (buf : List Char) (vp : UInt32) :
    saSysReadU32Into sysfs dir file buf vp =
      match saSysReadU32 sysfs dir file with
      | some val => (0, val)
      | none => (-1, vp) := by
  rw [saSysReadU32Into, saSysReadNumber_eq, saSysReadU32]
  cases saSysReadU64 sysfs dir file <;> rfl

/-- An unsigned type of at most 64 bits. -/
structure Unsigned (α : Type) where
  size : Nat
  toNat : α → Nat
  narrow : UInt64 → α
  narrow_toNat : ∀ val, toNat (narrow val) = val.toNat % size
  size_dvd : size ∣ 2 ^ 64

def Unsigned.u32 : Unsigned UInt32 where
  size := 2 ^ 32
  toNat := UInt32.toNat
  narrow := UInt64.toUInt32
  narrow_toNat _ := UInt64.toNat_toUInt32 _
  size_dvd := by decide

def Unsigned.u64 : Unsigned UInt64 where
  size := 2 ^ 64
  toNat := UInt64.toNat
  narrow := id
  narrow_toNat val := (Nat.mod_eq_of_lt val.toNat_lt).symm
  size_dvd := Nat.dvd_refl _

/-- The first line of a file. -/
def firstLine (content : List Char) : CStr := content.takeWhile (· ≠ '\n')

/-- Without the blanks around it. -/
def trimmedLine (content : List Char) : CStr :=
  ((firstLine content).rdropWhile isspace).dropWhile isspace

/-- A numeral, perhaps behind a minus sign. -/
def Numeral (s : CStr) (negative : Bool) (n : Nat) : Prop :=
  ∃ body, s = (if negative then '-' :: body else body) ∧ Magnitude body n

/-- The number a numeral denotes modulo `size`; a minus sign means its two's complement. -/
def denoted (size : Nat) (negative : Bool) (n : Nat) : Nat := if negative then (size - n) % size else n

/-- A reader that reports success has stored the number on the first line, and one that
    reports failure has stored nothing. -/
def ReadsExactly {α : Type} (u : Unsigned α) (content : List Char) (vp : α) (result : Int × α) : Prop :=
  (result.1 = 0 → ∃ negative n, Numeral (trimmedLine content) negative n ∧ n < u.size ∧
    u.toNat result.2 = denoted u.size negative n) ∧
  (result.1 ≠ 0 → result.2 = vp)

/-- The part of the first line that the line buffer receives. -/
def seenLine (content : List Char) : CStr := (cstr (fgets 256 content)).rdropWhile isspace

/-- What stands behind the 255 characters that there is room for is blank. -/
def BlankBehind (content : List Char) : Prop :=
  ∀ c ∈ (firstLine content).drop 255, isspace c = true

/-- The condition under which a number is read exactly.  A line that fits the buffer
    must not be blank, nor a numeral behind a plus sign, nor out of range.  The part of
    another line that the buffer receives must not read as a number, unless the line is a
    numeral in range that loses nothing but blanks, or is zero. -/
def NumberFits (size : Nat) (content : List Char) : Prop :=
  content = [] ∨
    if (firstLine content).length < 256 ∧ '\x00' ∉ firstLine content then
      trimmedLine content ≠ [] ∧ (∀ body n, trimmedLine content = '+' :: body → ¬ Magnitude body n) ∧
        ∀ negative n, Numeral (trimmedLine content) negative n → n < size
    else
      ¬ ReadWhole (seenLine content) ∨ ∃ negative n,
        Numeral (trimmedLine content) negative n ∧ n < size ∧ (n = 0 ∨ BlankBehind content)

theorem not_magnitude_nil {n : Nat} : ¬ Magnitude [] n := by
  intro magnitude
  obtain ⟨c, cs, same, -⟩ := magnitude.head
  cases same

/-- The number a text denotes for `strtoul`, for a text without blanks in front. -/
theorem numeral_of_sign {s body : CStr} {negative : Bool} {n : Nat} (signed : sign s = (negative, body))
    (magnitude : Magnitude body n) (noPlus : ∀ body n, s = '+' :: body → ¬ Magnitude body n) :
    Numeral s negative n := by
  unfold sign at signed
  split at signed
  · cases signed
    exact ⟨body, rfl, magnitude⟩
  · cases signed
    exact absurd magnitude (noPlus _ _ rfl)
  · cases signed
    exact ⟨s, rfl, magnitude⟩

theorem sign_of_numeral {s : CStr} {negative : Bool} {n : Nat} (numeral : Numeral s negative n) :
    ∃ body, sign s = (negative, body) ∧ Magnitude body n := by
  obtain ⟨body, rfl, magnitude⟩ := numeral
  refine ⟨body, ?_, magnitude⟩
  cases negative with
  | true => rfl
  | false =>
      obtain ⟨c, cs, rfl, decimal⟩ := magnitude.head
      simp only [Bool.false_eq_true, if_false]
      rw [sign]
      · rintro cs' same
        cases same
        cases decimal
      · rintro cs' same
        cases same
        cases decimal

/-- Blanks on either side may be taken off in any order. -/
theorem rdropWhile_eq_nil {s : CStr} (blank : (s.rdropWhile isspace).dropWhile isspace = []) :
    s.rdropWhile isspace = [] := by
  by_contra nonempty
  have last := List.rdropWhile_last_not isspace s nonempty
  exact last (List.dropWhile_eq_nil_iff.mp blank _ (List.getLast_mem nonempty))

/-- What the buffer receives of a line is its first 255 characters without blanks at
    the end. -/
theorem seenLine_take {content : List Char} (clean : '\x00' ∉ firstLine content) :
    seenLine content = ((firstLine content).take 255).rdropWhile isspace := by
  have cleanPart : ∀ k, ∀ c ∈ (firstLine content).take k, c ≠ '\x00' := fun k c member same =>
    clean (same ▸ List.mem_of_mem_take member)
  unfold seenLine fgets
  change (cstr ((firstLine content ++ _).take 255)).rdropWhile isspace = _
  cases rest : content.dropWhile (· ≠ '\n') with
  | nil => rw [List.take_nil, List.append_nil, cstr_of_clean (cleanPart 255)]
  | cons c cs =>
      have newline : c = '\n' := by
        have stopped := List.head?_dropWhile_not (· ≠ '\n') content
        rw [rest] at stopped
        simpa using stopped
      rw [List.take_succ_cons, List.take_zero, List.take_append, newline]
      cases room : 255 - (firstLine content).length with
      | zero => rw [List.take_zero, List.append_nil, cstr_of_clean (cleanPart 255)]
      | succ k =>
          rw [List.take_succ_cons, List.take_nil, cstr_of_clean, List.rdropWhile_concat_pos _ _ _ rfl]
          intro d member
          rcases List.mem_append.mp member with inside | last
          · exact cleanPart 255 d inside
          · rw [List.mem_singleton.mp last]
            decide

/-- A line that fits is seen as it is. -/
theorem seenLine_eq {content : List Char}
    (fits : (firstLine content).length < 256 ∧ '\x00' ∉ firstLine content) :
    seenLine content = (firstLine content).rdropWhile isspace := by
  rw [seenLine_take fits.2, List.take_of_length_le (by omega)]

theorem sysLine_eq {sysfs : Sysfs} {dir file : CStr} {content : List Char}
    (opened : sysfs.file (snprintf 256 (joinPath dir file)) = some content) :
    sysLine sysfs dir file = if content = [] then none else some (seenLine content) := by
  simp only [sysLine, saSysReadLine, opened, seenLine]
  cases content with
  | nil => rfl
  | cons c cs =>
      cases read : fgets 256 (c :: cs) with
      | nil =>
          have some_read : (fgets 256 (c :: cs)).length ≠ 0 := by
            by_cases newline : c = '\n' <;> simp [fgets, newline]
          rw [read] at some_read
          exact absurd rfl some_read
      | cons d ds =>
          rw [if_neg (List.cons_ne_nil c cs)]
          simp only [cstr_trimLine (nul_mem_overlay ..), cstr_overlay_line]

/-- The two's complement of a number in range. -/
theorem Unsigned.toNat_narrow {α : Type} (u : Unsigned α) {negative : Bool} {n : Nat}
    (small : n < u.size) :
    u.toNat (u.narrow (if negative then -UInt64.ofNat n else UInt64.ofNat n)) =
      denoted u.size negative n := by
  have whole : u.size ≤ 2 ^ 64 := Nat.le_of_dvd (by decide) u.size_dvd
  have kept : (UInt64.ofNat n).toNat = n := by
    rw [UInt64.toNat_ofNat']
    exact Nat.mod_eq_of_lt (by omega)
  rw [u.narrow_toNat]
  cases negative with
  | false =>
      simp only [Bool.false_eq_true, if_false, denoted, kept]
      exact Nat.mod_eq_of_lt small
  | true =>
      obtain ⟨k, multiple⟩ := u.size_dvd
      obtain ⟨j, rfl⟩ : ∃ j, k = j + 1 := by
        cases k with
        | zero => cases multiple
        | succ j => exact ⟨j, rfl⟩
      have split : 2 ^ 64 - n = u.size * j + (u.size - n) := by
        rw [multiple, Nat.mul_succ]
        omega
      have folded : (2 ^ 64 - n) % 2 ^ 64 % u.size = (u.size - n) % u.size := by
        rw [Nat.mod_mod_of_dvd _ u.size_dvd, split, Nat.mul_add_mod]
      simp only [if_true, denoted, UInt64.toNat_neg, kept]
      exact folded

/-- A text that is read to its end as the number `n`, with a sign or without; nothing is read
    as 0. -/
def ReadAs (s : CStr) (negative : Bool) (n : Nat) : Prop :=
  (s = [] ∧ n = 0) ∨ ∃ body, sign (s.dropWhile isspace) = (negative, body) ∧ Magnitude body n

/-- What is stored for a number in range. -/
theorem Unsigned.toNat_read {α : Type} (u : Unsigned α) {s : CStr} {negative : Bool} {n : Nat}
    {val : UInt64} (number : ReadAs s negative n) (small : n < u.size)
    (read : strtoul 0 s = (val, [])) : u.toNat (u.narrow val) = denoted u.size negative n := by
  have value : val = if negative then -UInt64.ofNat n else UInt64.ofNat n := by
    rcases number with ⟨rfl, rfl⟩ | ⟨body, signed, magnitude⟩
    · cases read
      cases negative <;> rfl
    · have whole : u.size ≤ 2 ^ 64 := Nat.le_of_dvd (by decide) u.size_dvd
      rw [strtoul_numeral signed magnitude, if_neg (by omega), Prod.mk.injEq] at read
      exact read.1.symm
  rw [value]
  exact u.toNat_narrow small

/-- Numbers in range denote different things. -/
theorem denoted_injective {size m n : Nat} {negative : Bool} (m_lt : m < size) (n_lt : n < size)
    (same : denoted size negative m = denoted size negative n) : m = n := by
  cases negative with
  | false => exact same
  | true =>
      simp only [denoted, if_true] at same
      have shape : ∀ k < size, (size - k) % size = if k = 0 then 0 else size - k := by
        intro k k_lt
        split
        · rename_i zero
          rw [zero, Nat.sub_zero, Nat.mod_self]
        · exact Nat.mod_eq_of_lt (by omega)
      rw [shape m m_lt, shape n n_lt] at same
      split at same <;> split at same <;> omega

theorem Numeral.unique {s : CStr} {negative negative' : Bool} {m n : Nat}
    (first : Numeral s negative m) (second : Numeral s negative' n) : m = n := by
  obtain ⟨body, signed, magnitude⟩ := sign_of_numeral first
  obtain ⟨body', signed', magnitude'⟩ := sign_of_numeral second
  rw [signed] at signed'
  cases signed'
  exact magnitude.unique magnitude'

theorem not_numeral_nil {negative : Bool} {n : Nat} : ¬ Numeral [] negative n := by
  intro numeral
  obtain ⟨body, signed, magnitude⟩ := sign_of_numeral numeral
  cases signed
  exact not_magnitude_nil magnitude

/-! ## Lines that fit -/

section

variable {content : List Char}
  (fits : (firstLine content).length < 256 ∧ '\x00' ∉ firstLine content)
include fits

/-- A line that fits is read whole when it is blank or a numeral with a sign or without. -/
theorem readWhole_iff : ReadWhole (seenLine content) ↔ trimmedLine content = [] ∨
    ∃ negative body n, sign (trimmedLine content) = (negative, body) ∧ Magnitude body n := by
  have blank : seenLine content = [] ↔ trimmedLine content = [] := by
    rw [seenLine_eq fits, trimmedLine]
    constructor
    · intro empty
      rw [empty]
      rfl
    · exact rdropWhile_eq_nil
  rw [ReadWhole, blank, seenLine_eq fits]
  rfl

/-- A line that fits and is rejected meets the condition. -/
theorem fits_of_rejected {size : Nat} (rejected : ¬ ReadWhole (seenLine content)) :
    trimmedLine content ≠ [] ∧ (∀ body n, trimmedLine content = '+' :: body → ¬ Magnitude body n) ∧
      ∀ negative n, Numeral (trimmedLine content) negative n → n < size := by
  rw [readWhole_iff fits, not_or] at rejected
  obtain ⟨nonempty, noNumeral⟩ := rejected
  refine ⟨nonempty, fun body n plus magnitude => ?_, fun negative n numeral => ?_⟩
  · exact noNumeral ⟨false, body, n, by rw [plus]; rfl, magnitude⟩
  · obtain ⟨body, signed, magnitude⟩ := sign_of_numeral numeral
    exact absurd ⟨negative, body, n, signed, magnitude⟩ noNumeral

/-- A line that fits and is accepted holds the number that is stored exactly when it meets
    the condition. -/
theorem fits_of_accepted {α : Type} (u : Unsigned α) {val : UInt64}
    (read : strtoul 0 (seenLine content) = (val, [])) :
    (∃ negative n, Numeral (trimmedLine content) negative n ∧ n < u.size ∧
      u.toNat (u.narrow val) = denoted u.size negative n) ↔
    trimmedLine content ≠ [] ∧ (∀ body n, trimmedLine content = '+' :: body → ¬ Magnitude body n) ∧
      ∀ negative n, Numeral (trimmedLine content) negative n → n < u.size := by
  constructor
  · rintro ⟨negative, n, numeral, small, -⟩
    refine ⟨fun blank => ?_, fun body m plus magnitude => ?_, fun negative' m numeral' => ?_⟩
    · exact not_numeral_nil (blank ▸ numeral)
    · obtain ⟨body', same, magnitude'⟩ := numeral
      rw [plus] at same
      cases negative with
      | true => cases same
      | false =>
          obtain ⟨c, cs, begins, decimal⟩ := magnitude'.head
          rw [begins] at same
          cases same
          cases decimal
    · exact numeral.unique numeral' ▸ small
  · rintro ⟨nonempty, noPlus, small⟩
    have whole : ReadWhole (seenLine content) := strtoul_full.mp (by rw [read])
    obtain ⟨negative, body, n, signed, magnitude⟩ :=
      ((readWhole_iff fits).mp whole).resolve_left nonempty
    have numeral := numeral_of_sign signed magnitude noPlus
    have seen : ReadAs (seenLine content) negative n :=
      .inr ⟨body, by rwa [seenLine_eq fits], magnitude⟩
    exact ⟨negative, n, numeral, small negative n numeral,
      u.toNat_read seen (small negative n numeral) read⟩

end

/-! ## Longer lines -/

/-- What the buffer receives of a line is followed by the rest of it, which is empty when it is
    blank. -/
theorem seenLine_append {content : List Char} (clean : '\x00' ∉ firstLine content) :
    ∃ rest, (firstLine content).rdropWhile isspace = seenLine content ++ rest ∧
      (rest = [] ↔ BlankBehind content) := by
  rw [seenLine_take clean, BlankBehind, ← List.rdropWhile_eq_nil_iff (p := isspace)]
  have line := rdropWhile_append isspace ((firstLine content).take 255) ((firstLine content).drop 255)
  rw [List.take_append_drop] at line
  rw [line]
  split
  · rename_i blank
    exact ⟨[], (List.append_nil _).symm, iff_of_true rfl blank⟩
  · rename_i more
    refine ⟨((firstLine content).take 255).rtakeWhile isspace ++
      ((firstLine content).drop 255).rdropWhile isspace, ?_, ?_⟩
    · rw [← List.append_assoc, List.rdropWhile_append_rtakeWhile]
    · exact iff_of_false (fun none => more (List.append_eq_nil_iff.mp none).2) more

/-- The part of a numeral that is read whole has at most its value, and the same value only where
    nothing but blanks are lost, or the number is zero. -/
theorem part_of_numeral {content : List Char} (clean : '\x00' ∉ firstLine content)
    (whole : ReadWhole (seenLine content)) {negative : Bool} {n : Nat}
    (numeral : Numeral (trimmedLine content) negative n) :
    ∃ m, ReadAs (seenLine content) negative m ∧ m ≤ n ∧
      (m = n ↔ n = 0 ∨ BlankBehind content) := by
  obtain ⟨rest, line, blank⟩ := seenLine_append clean
  obtain ⟨body, signed, magnitude⟩ := sign_of_numeral numeral
  rw [trimmedLine, line] at signed
  by_cases nothing : rest = []
  · rw [nothing, List.append_nil] at signed
    exact ⟨n, .inr ⟨body, signed, magnitude⟩, le_rfl, iff_of_true rfl (.inr (blank.mp nothing))⟩
  · have behind : ¬ BlankBehind content := fun all => nothing (blank.mpr all)
    rcases whole with empty | ⟨negative', part, m, signed', magnitude'⟩
    · refine ⟨0, .inl ⟨empty, rfl⟩, Nat.zero_le n, ?_⟩
      rw [or_iff_left behind]
      exact eq_comm
    · -- the part is not blank, so that the rest stands behind its digits
      have visible : (seenLine content).dropWhile isspace ≠ [] := by
        intro none
        rw [none] at signed'
        cases signed'
        exact not_magnitude_nil magnitude'
      rw [List.dropWhile_append, if_neg (by simpa using visible), sign_append visible, signed',
        Prod.mk.injEq] at signed
      obtain ⟨rfl, rfl⟩ := signed
      have less := magnitude.initial magnitude' nothing
      refine ⟨m, .inr ⟨part, signed', magnitude'⟩, by omega, ?_⟩
      rw [or_iff_left behind]
      omega

theorem mem_trimmedLine {content : List Char} {c : Char} (visible : isspace c = false)
    (member : c ∈ firstLine content) : c ∈ trimmedLine content := by
  have blank : ∀ {s : CStr}, (∀ d ∈ s, isspace d = true) → c ∉ s := by
    intro s all inside
    rw [all c inside] at visible
    cases visible
  rw [← @List.rdropWhile_append_rtakeWhile _ isspace (firstLine content), List.mem_append] at member
  have front := member.resolve_right (blank fun d inside => List.mem_rtakeWhile_imp inside)
  rw [← @List.takeWhile_append_dropWhile _ isspace ((firstLine content).rdropWhile isspace),
    List.mem_append] at front
  exact front.resolve_left (blank fun d inside => List.mem_takeWhile_imp inside)

/-- A line with a NUL is no numeral. -/
theorem Numeral.clean {content : List Char} {negative : Bool} {n : Nat}
    (numeral : Numeral (trimmedLine content) negative n) : '\x00' ∉ firstLine content := by
  intro member
  have inside := mem_trimmedLine rfl member
  obtain ⟨body, line, magnitude⟩ := numeral
  rw [line] at inside
  cases negative with
  | true =>
      rw [if_pos rfl, List.mem_cons] at inside
      exact magnitude.clean (inside.resolve_left (by decide))
  | false => exact magnitude.clean inside

/-- A longer line that is accepted holds the number that is stored exactly when it loses nothing
    but blanks, or is zero. -/
theorem longer_of_accepted {α : Type} (u : Unsigned α) {content : List Char} {val : UInt64}
    (read : strtoul 0 (seenLine content) = (val, [])) :
    (∃ negative n, Numeral (trimmedLine content) negative n ∧ n < u.size ∧
      u.toNat (u.narrow val) = denoted u.size negative n) ↔
    ∃ negative n, Numeral (trimmedLine content) negative n ∧ n < u.size ∧
      (n = 0 ∨ BlankBehind content) := by
  refine exists_congr fun negative => exists_congr fun n => and_congr_right fun numeral =>
    and_congr_right fun small => ?_
  have whole : ReadWhole (seenLine content) := strtoul_full.mp (by rw [read])
  obtain ⟨m, seen, le, same⟩ := part_of_numeral numeral.clean whole numeral
  rw [u.toNat_read seen (by omega) read, ← same]
  constructor
  · exact denoted_injective (by omega) small
  · rintro rfl
    rfl

/-- When a number is read exactly. -/
theorem saSysReadNumber_exact_iff {α : Type} (u : Unsigned α) {sysfs : Sysfs} {dir file : CStr}
    {content : List Char} (opened : sysfs.file (snprintf 256 (joinPath dir file)) = some content)
    (buf : List Char) (vp : α) :
    ReadsExactly u content vp (saSysReadNumber u.narrow sysfs dir file buf vp) ↔
      NumberFits u.size content := by
  rw [saSysReadNumber_eq, saSysReadU64, sysLine_eq opened]
  unfold ReadsExactly NumberFits
  by_cases empty : content = []
  · simp [empty]
  · simp only [empty, if_false, false_or]
    cases read : strtoul 0 (seenLine content) with
    | mk val endptr =>
        cases endptr with
        | nil =>
            have whole : ReadWhole (seenLine content) := strtoul_full.mp (by rw [read])
            simp only [ne_eq, not_true_eq_false, false_imp_iff, and_true, true_imp_iff]
            split
            · rename_i fits
              exact fits_of_accepted fits u read
            · rw [or_iff_right (not_not_intro whole)]
              exact longer_of_accepted u read
        | cons c cs =>
            have rejected : ¬ ReadWhole (seenLine content) := by
              rw [← strtoul_full, read]
              exact List.cons_ne_nil c cs
            constructor
            · intro _
              split
              · rename_i fits
                exact fits_of_rejected fits rejected
              · exact .inl rejected
            · intro _
              exact ⟨fun success => (by cases success), fun _ => rfl⟩

/-- Both readers. -/
theorem sysfsNumbers_exact_iff {sysfs : Sysfs} {dir file : CStr} {content : List Char}
    (opened : sysfs.file (snprintf 256 (joinPath dir file)) = some content) (buf : List Char)
    (vp32 : UInt32) (vp64 : UInt64) :
    (ReadsExactly .u32 content vp32 (saSysReadU32Into sysfs dir file buf vp32) ↔
      NumberFits (2 ^ 32) content) ∧
    (ReadsExactly .u64 content vp64 (saSysReadU64Into sysfs dir file buf vp64) ↔
      NumberFits (2 ^ 64) content) :=
  ⟨saSysReadNumber_exact_iff .u32 opened buf vp32, saSysReadNumber_exact_iff .u64 opened buf vp64⟩

/-- A tree in which every file has the same content. -/
def Sysfs.constant (content : List Char) : Sysfs := ⟨fun _ => some content, fun _ => none, fun _ => none⟩

/-- `-1` is the two's complement of 1 in both types. -/
theorem sysfsNumbers_exact_small :
    ReadsExactly .u32 "-1\n".toList 5 (saSysReadU32Into (.constant "-1\n".toList) [] [] [] 5) ∧
    ReadsExactly .u64 "-1\n".toList 5 (saSysReadU64Into (.constant "-1\n".toList) [] [] [] 5) := by
  have one : Numeral (trimmedLine "-1\n".toList) true 1 :=
    ⟨['1'], rfl, .decimal (by decide) ⟨by decide, [1], rfl, rfl⟩⟩
  have fits : ∀ size, 1 < size → NumberFits size "-1\n".toList := by
    intro size large
    refine .inr ?_
    rw [if_pos (by decide)]
    refine ⟨by decide, fun body n plus => ?_, fun negative n numeral => ?_⟩
    · cases plus
    · exact one.unique numeral ▸ large
  have both := @sysfsNumbers_exact_iff (.constant "-1\n".toList) [] [] "-1\n".toList rfl [] 5 5
  exact ⟨both.1.mpr (fits _ (by decide)), both.2.mpr (fits _ (by decide))⟩

/-- A blank line is read as 0, and so is `2 ^ 32`. -/
theorem sysfsNumbers_inexact :
    (saSysReadU32Into (.constant ['\n']) [] [] [] 5 = (0, 0) ∧
      ¬ ReadsExactly .u32 ['\n'] 5 (saSysReadU32Into (.constant ['\n']) [] [] [] 5)) ∧
    saSysReadU32Into (.constant "4294967296\n".toList) [] [] [] 5 = (0, 0) ∧
      ¬ ReadsExactly .u32 "4294967296\n".toList 5
        (saSysReadU32Into (.constant "4294967296\n".toList) [] [] [] 5) := by
  have blank : saSysReadU32Into (.constant ['\n']) [] [] [] 5 = (0, 0) := by decide
  have large : saSysReadU32Into (.constant "4294967296\n".toList) [] [] [] 5 = (0, 0) := by
    decide +kernel
  refine ⟨⟨blank, fun exact => ?_⟩, large, fun exact => ?_⟩
  · obtain ⟨negative, n, numeral, -⟩ := exact.1 (by rw [blank])
    exact not_numeral_nil numeral
  · obtain ⟨negative, n, numeral, small, -⟩ := exact.1 (by rw [large])
    have value : Numeral (trimmedLine "4294967296\n".toList) false 4294967296 :=
      ⟨_, rfl, .decimal (by decide) ⟨by decide, [4, 2, 9, 4, 9, 6, 7, 2, 9, 6], rfl, rfl⟩⟩
    rw [← value.unique numeral] at small
    exact absurd small (by decide)

end Hbalinux
