import Mathlib.Data.List.DropRight

/-! # C strings

A string is the list of characters before its terminating NUL; a buffer is the
list of all its bytes.  Character classes are those of the C locale.
-/

namespace Hbalinux

abbrev CStr := List Char

def isspace (c : Char) : Bool := c == ' ' || ('\t' ≤ c && c ≤ '\r')

def isprint (c : Char) : Bool := ' ' ≤ c && c ≤ '~'

/-- The string a buffer holds. -/
def cstr (buf : List Char) : CStr := buf.takeWhile (· ≠ '\x00')

/-- Write a string and its NUL at the start of a buffer. -/
def overlay (s : CStr) (buf : List Char) : List Char := s ++ '\x00' :: buf.drop (s.length + 1)

/-- `snprintf` into `len` bytes keeps what fits before the NUL. -/
def snprintf (len : Nat) (text : CStr) : CStr := text.take (len - 1)

/-- The suffix of `s` that starts with the first occurrence of `t`. -/
def strstr (s t : CStr) : Option CStr :=
  match s with
  | [] => if t = [] then some [] else none
  | c :: cs => if t.isPrefixOf (c :: cs) then some (c :: cs) else strstr cs t

/-- What stands before and after the last occurrence of `c`. -/
def strrchr (s : CStr) (c : Char) : Option (CStr × CStr) :=
  match s with
  | [] => none
  | d :: ds =>
      match strrchr ds c with
      | some (before, after) => some (d :: before, after)
      | none => if d = c then some ([], ds) else none

/-- What stands before and after the first occurrence of `c`. -/
def strchr (s : CStr) (c : Char) : Option (CStr × CStr) :=
  match s with
  | [] => none
  | d :: ds =>
      if d = c then some ([], ds)
      else (strchr ds c).map fun (before, after) => (d :: before, after)

def strcasecmp (s t : CStr) : Bool := s.map Char.toLower == t.map Char.toLower

/-- `strncasecmp(s, t, strlen(s)) == 0`. -/
def strncasecmp (s t : CStr) : Bool := (s.map Char.toLower).isPrefixOf (t.map Char.toLower)

/-- What `strtok_r` leaves of the string it cuts: the leading delimiters and the
    first token. -/
def strtok (s : CStr) (delimiter : Char) : Option CStr :=
  match s.dropWhile (· == delimiter) with
  | [] => none
  | token => some (s.takeWhile (· == delimiter) ++ token.takeWhile (· ≠ delimiter))

/-- The NUL `strtok_r` writes behind the first token, when a delimiter follows it. -/
def strtokInto (buf : List Char) (delimiter : Char) : List Char :=
  match strtok (cstr buf) delimiter with
  | none => buf
  | some token => buf.set token.length '\x00'

/-- `strncpy` into `len` bytes: padded with NULs, unterminated when it does not fit. -/
def strncpy (len : Nat) (s : CStr) : List Char :=
  s.take len ++ List.replicate (len - s.length) '\x00'

theorem cstr_append {s : CStr} (clean : ∀ c ∈ s, c ≠ '\x00') (rest : List Char) :
    cstr (s ++ '\x00' :: rest) = s := by
  rw [cstr, List.takeWhile_append_of_pos (by simpa using clean)]
  simp

theorem cstr_clean (buf : List Char) : ∀ c ∈ cstr buf, c ≠ '\x00' := by
  intro c member
  simpa using List.mem_takeWhile_imp member

theorem cstr_of_clean {s : CStr} (clean : ∀ c ∈ s, c ≠ '\x00') : cstr s = s := by
  rw [cstr, List.takeWhile_eq_self_iff]
  simpa using clean

/-- A string can be cut before or after its end is looked for. -/
theorem cstr_take (n : Nat) (buf : List Char) : cstr (buf.take n) = (cstr buf).take n := by
  induction buf generalizing n with
  | nil => simp [cstr]
  | cons c cs ih =>
      cases n with
      | zero => simp [cstr]
      | succ n =>
          unfold cstr at ih ⊢
          rw [List.take_succ_cons, List.takeWhile_cons, List.takeWhile_cons]
          split
          · rw [List.take_succ_cons, ih]
          · rw [List.take_nil]

/-- A string in front is not cut short when the end is trimmed. -/
theorem prefix_rdropWhile {p : Char → Bool} {s : CStr} (kept : s.rdropWhile p = s) (rest : CStr) :
    s <+: (s ++ rest).rdropWhile p := by
  induction rest using List.reverseRecOn with
  | nil => exact ⟨[], by rw [List.append_nil, kept]⟩
  | append_singleton rest c ih =>
      rw [← List.append_assoc, List.rdropWhile_concat]
      split
      · exact ih
      · rw [List.append_assoc]
        exact List.prefix_append _ _

/-- The end of a joined text is trimmed in its second part, and in the first where nothing of the
    second stays. -/
theorem rdropWhile_append {α : Type} (p : α → Bool) (l r : List α) :
    (l ++ r).rdropWhile p = if r.rdropWhile p = [] then l.rdropWhile p else l ++ r.rdropWhile p := by
  simp only [List.rdropWhile, List.reverse_append, List.dropWhile_append, List.isEmpty_iff,
    List.reverse_eq_nil_iff]
  split
  · rfl
  · rw [List.reverse_append, List.reverse_reverse]

/-- What is trimmed off the end stands behind the last character that stays. -/
theorem rdropWhile_append_cons {α : Type} {p : α → Bool} {a : α} (stops : p a = false)
    (l r : List α) : (l ++ a :: r).rdropWhile p = l ++ a :: r.rdropWhile p := by
  have kept : [a].rdropWhile p = [a] := by rw [List.rdropWhile_singleton, stops]; rfl
  have behind : (a :: r).rdropWhile p = a :: r.rdropWhile p := by
    rw [← List.singleton_append, rdropWhile_append, kept]
    split
    · rename_i empty
      rw [empty]
    · rfl
  rw [rdropWhile_append, behind, if_neg (List.cons_ne_nil _ _)]

/-- The last occurrence is found where none follows. -/
theorem strrchr_last {c : Char} {after : CStr} (absent : c ∉ after) (before : CStr) :
    strrchr (before ++ c :: after) c = some (before, after) := by
  have none_after : ∀ s : CStr, c ∉ s → strrchr s c = none := by
    intro s
    induction s with
    | nil => exact fun _ => rfl
    | cons d ds ih =>
        intro missing
        rw [List.mem_cons, not_or] at missing
        rw [strrchr, ih missing.2]
        exact if_neg (Ne.symm missing.1)
  induction before with
  | nil =>
      rw [List.nil_append, strrchr, none_after after absent]
      exact if_pos rfl
  | cons d ds ih => rw [List.cons_append, strrchr, ih]

/-- A terminated buffer is its string, a NUL and the rest. -/
theorem split_at_nul {buf : List Char} (terminated : '\x00' ∈ buf) :
    ∃ rest, buf = cstr buf ++ '\x00' :: rest := by
  induction buf with
  | nil => cases terminated
  | cons c cs ih =>
      by_cases nul : c = '\x00'
      · exact ⟨cs, by simp [cstr, nul]⟩
      · obtain ⟨rest, same⟩ := ih (by
          rcases List.mem_cons.mp terminated with here | later
          · exact absurd here.symm nul
          · exact later)
        refine ⟨rest, ?_⟩
        have head : cstr (c :: cs) = c :: cstr cs := by simp [cstr, nul]
        rw [head, List.cons_append, ← same]

/-- A string is found exactly where it stands inside the other. -/
theorem strstr_isSome_iff {s t : CStr} : (strstr s t).isSome = true ↔ t <:+: s := by
  induction s with
  | nil => cases t <;> simp [strstr]
  | cons c cs ih =>
      rw [strstr, List.infix_cons_iff, ← ih]
      split
      · rename_i here
        exact iff_of_true rfl (.inl (List.isPrefixOf_iff_prefix.mp here))
      · rename_i elsewhere
        rw [List.isPrefixOf_iff_prefix] at elsewhere
        exact ⟨.inr, fun found => found.resolve_left elsewhere⟩

/-- What is found is the longest suffix that starts with the string. -/
theorem strstr_eq_some {s t u : CStr} (found : strstr s t = some u) :
    ∃ before, s = before ++ u ∧ t <+: u ∧
      ∀ before' u', s = before' ++ u' → t <+: u' → before.length ≤ before'.length := by
  induction s with
  | nil =>
      rw [strstr] at found
      split at found
      · rename_i empty
        cases found
        exact ⟨[], rfl, empty ▸ List.nil_prefix, fun _ _ _ _ => Nat.zero_le _⟩
      · cases found
  | cons c cs ih =>
      rw [strstr] at found
      split at found
      · rename_i here
        cases found
        exact ⟨[], rfl, List.isPrefixOf_iff_prefix.mp here, fun _ _ _ _ => Nat.zero_le _⟩
      · rename_i elsewhere
        obtain ⟨before, split, starts, first⟩ := ih found
        refine ⟨c :: before, by rw [split, List.cons_append], starts, fun before' u' split' starts' => ?_⟩
        cases before' with
        | nil =>
            rw [List.nil_append] at split'
            rw [split', List.isPrefixOf_iff_prefix] at elsewhere
            exact absurd starts' elsewhere
        | cons d ds =>
            rw [List.cons_append, List.cons.injEq] at split'
            exact Nat.succ_le_succ (first ds u' split'.2 starts')

/-- What starts with a longer string is not found earlier. -/
theorem strstr_later {s t t' u u' : CStr} (found : strstr s t = some u) (longer : t <+: t')
    (found' : strstr s t' = some u') : u' <:+ u := by
  obtain ⟨before, split, -, first⟩ := strstr_eq_some found
  obtain ⟨before', split', starts', -⟩ := strstr_eq_some found'
  have order := first before' u' split' (longer.trans starts')
  have lengths := congrArg List.length (split.symm.trans split')
  rw [List.length_append, List.length_append] at lengths
  exact List.suffix_of_suffix_length_le ⟨before', split'.symm⟩ ⟨before, split.symm⟩ (by omega)

/-- A longer string that stands where the shorter one is found is found there too. -/
theorem strstr_longer {s t t' u : CStr} (found : strstr s t = some u) (longer : t <+: t')
    (starts : t' <+: u) : strstr s t' = some u := by
  obtain ⟨before, split, -, -⟩ := strstr_eq_some found
  have inside : t' <:+: s := starts.isInfix.trans (split ▸ (List.suffix_append before u).isInfix)
  obtain ⟨u', found'⟩ := Option.isSome_iff_exists.mp (strstr_isSome_iff.mpr inside)
  obtain ⟨before', split', -, first'⟩ := strstr_eq_some found'
  have order := first' before u split starts
  have lengths := congrArg List.length (split.symm.trans split')
  rw [List.length_append, List.length_append] at lengths
  have back := (strstr_later found longer found').length_le
  rw [found', (strstr_later found longer found').eq_of_length (by omega)]

/-- Every character of a substring is a character of the string. -/
theorem strstr_subset {s t : CStr} (found : (strstr s t).isSome = true) : ∀ c ∈ t, c ∈ s :=
  fun _ member => (strstr_isSome_iff.mp found).subset member

/-- Text without `c` is looked for in front of the first `c`. -/
theorem initial_before {c : Char} {t : CStr} (absent : c ∉ t) (s rest : CStr) :
    t <+: s ++ c :: rest ↔ t <+: s := by
  constructor
  · intro whole
    rcases List.prefix_or_prefix_of_prefix whole (List.prefix_append s (c :: rest)) with inside | past
    · exact inside
    · obtain ⟨more, rfl⟩ := past
      cases more with
      | nil => simp
      | cons d ds =>
          rw [List.prefix_append_right_inj, List.cons_prefix_cons] at whole
          exact absurd (by simp [whole.1]) absent
  · exact fun inside => inside.trans (List.prefix_append s (c :: rest))

/-- Text without `c` stands inside a joined string before the `c` or behind it. -/
theorem inside_append_cons {c : Char} {t : CStr} (absent : c ∉ t) (s rest : CStr) :
    t <:+: s ++ c :: rest ↔ t <:+: s ∨ t <:+: rest := by
  rw [List.infix_append_iff, List.infix_cons_iff]
  constructor
  · rintro (before | (across | behind) | ⟨left, right, rfl, left_end, right_start⟩)
    · exact .inl before
    · exact .inl (((initial_before absent [] rest).mp across).isInfix.trans (List.nil_infix))
    · exact .inr behind
    · have empty : right = [] := by
        cases right with
        | nil => rfl
        | cons d ds =>
            rw [List.cons_prefix_cons] at right_start
            exact absurd (by simp [right_start.1]) absent
      rw [empty, List.append_nil]
      exact .inl left_end.isInfix
  · rintro (before | behind)
    · exact .inl before
    · exact .inr (.inl (.inr behind))

end Hbalinux
