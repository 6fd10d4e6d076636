import Hbalinux.C.Loop
import Hbalinux.C.Memory
import Hbalinux.Sysfs
import Mathlib.Order.Bounds.Basic

/-! # The loops of `sa_strncpy_safe`

`saStrncpySafe` says what text the copy is.  Here are the two loops that make it, with
their counters, every byte they read of the source and every byte they store.  The
source and the destination do not overlap.
-/

namespace Hbalinux

def safeChar (c : Char) : Char := if isprint c then c else if isspace c then ' ' else '.'

/-- The variables of `sa_strncpy_safe`; `dp` and `sp` are offsets from `dest` and `src`.
    `inspected` and `stored` collect the places read of the source and written. -/
structure Copying where
  len : UInt64
  srcLen : UInt64
  dest : Memory
  dp : Int
  sp : Nat
  inspected : List Nat
  stored : List Int

/-- `*dp = c` -/
def Copying.store (s : Copying) (c : Char) : Copying :=
  { s with dest := Function.update s.dest s.dp c, stored := s.dp :: s.stored }

/-- `len-- > 1 && src_len-- > 0 && *sp != '\0'` and the copy of one character. -/
def copyRound (src : Nat → Char) (s : Copying) : Round Copying Copying :=
  if 1 < s.len then
    let s := { s with len := s.len - 1 }
    if 0 < s.srcLen then
      let s := { s with srcLen := s.srcLen - 1, inspected := s.sp :: s.inspected }
      if src s.sp ≠ '\x00' then
        let s := s.store (safeChar (src s.sp))
        .again { s with dp := s.dp + 1, sp := s.sp + 1 }
      else .done s
    else .done { s with srcLen := s.srcLen - 1 }
  else .done { s with len := s.len - 1 }

/-- `--dp >= dest && isspace(*dp)` and the removal of one blank. -/
def trimRound (s : Copying) : Round Copying Copying :=
  let s := { s with dp := s.dp - 1 }
  if 0 ≤ s.dp ∧ isspace (s.dest s.dp) then .again (s.store '\x00') else .done s

/-- The whole call; `fuel` bounds the rounds of each loop. -/
def saStrncpySafeRun (fuel : Nat) (dest : Memory) (len : UInt64) (src : Nat → Char)
    (srcLen : UInt64) : Option Copying := do
  let s ← runLoop (copyRound src) fuel ⟨len, srcLen, dest, 0, 0, [], []⟩
  runLoop trimRound fuel (s.store '\x00')

/-- Where the first loop stops: at the last place of `dest`, at the end of the source or at
    its first NUL, whichever comes first. -/
def StopsAt (len : UInt64) (src : Nat → Char) (srcLen : UInt64) (n : Nat) : Prop :=
  IsLeast ({len.toNat - 1, srcLen.toNat} ∪ {i | src i = '\x00'}) n

/-- The first `n` characters of the source as they are copied. -/
def copied (src : Nat → Char) (n : Nat) : CStr := (List.range n).map fun i => safeChar (src i)

section Loops

variable {dest : Memory} {len srcLen : UInt64} {src : Nat → Char}

/-- The places read so far lie in the source and not behind a NUL. -/
def InspectsOnly (src : Nat → Char) (srcLen : UInt64) (inspected : List Nat) : Prop :=
  ∀ i ∈ inspected, i < srcLen.toNat ∧ ∀ j < i, src j ≠ '\x00'

/-- The invariant of the first loop. -/
structure CopyInv (dest : Memory) (len : UInt64) (src : Nat → Char) (srcLen : UInt64) (s : Copying) :
    Prop where
  positive : 0 < s.len.toNat
  room : s.sp + s.len.toNat = len.toNat
  unread : s.sp + s.srcLen.toNat = srcLen.toNat
  clean : ∀ j < s.sp, src j ≠ '\x00'
  place : s.dp = s.sp
  bytes : s.dest = blit dest (copied src s.sp)
  stored : ∀ i ∈ s.stored, 0 ≤ i ∧ i < s.sp
  inspected : InspectsOnly src srcLen s.inspected

/-- What the first loop leaves. -/
structure CopyDone (dest : Memory) (len : UInt64) (src : Nat → Char) (srcLen : UInt64) (s : Copying) :
    Prop where
  stops : StopsAt len src srcLen s.sp
  place : s.dp = s.sp
  bytes : s.dest = blit dest (copied src s.sp)
  stored : ∀ i ∈ s.stored, 0 ≤ i ∧ i < s.sp
  inspected : InspectsOnly src srcLen s.inspected

theorem copied_length (src : Nat → Char) (n : Nat) : (copied src n).length = n := by
  rw [copied, List.length_map, List.length_range]

theorem copied_succ (src : Nat → Char) (n : Nat) :
    copied src (n + 1) = copied src n ++ [safeChar (src n)] := by
  rw [copied, List.range_succ, List.map_append, copied, List.map_singleton]

theorem CopyInv.start (positive : 0 < len.toNat) :
    CopyInv dest len src srcLen ⟨len, srcLen, dest, 0, 0, [], []⟩ where
  positive := positive
  room := Nat.zero_add _
  unread := Nat.zero_add _
  clean := fun _ below => absurd below (Nat.not_lt_zero _)
  place := rfl
  bytes := (blit_nil dest).symm
  stored := fun _ member => absurd member List.not_mem_nil
  inspected := fun _ member => absurd member List.not_mem_nil

theorem CopyInv.stops {s : Copying} (inv : CopyInv dest len src srcLen s)
    (last : s.sp = len.toNat - 1 ∨ s.sp = srcLen.toNat ∨ src s.sp = '\x00') :
    StopsAt len src srcLen s.sp := by
  have positive := inv.positive
  have room := inv.room
  have unread := inv.unread
  constructor
  · rcases last with full | finished | nul
    · exact .inl (.inl full)
    · exact .inl (.inr finished)
    · exact .inr nul
  · rintro m ((rfl | rfl) | nul)
    · omega
    · omega
    · by_contra before
      exact inv.clean m (by omega) nul

/-- One round copies a character or finds the end of what is to be copied. -/
theorem CopyInv.round {s : Copying} (inv : CopyInv dest len src srcLen s) :
    (∃ t, copyRound src s = .again t ∧ CopyInv dest len src srcLen t ∧ t.len.toNat < s.len.toNat) ∨
      ∃ t, copyRound src s = .done t ∧ CopyDone dest len src srcLen t := by
  have positive := inv.positive
  have room := inv.room
  have unread := inv.unread
  have one : (1 : UInt64).toNat = 1 := rfl
  have fewer {n : UInt64} (some : 0 < n.toNat) : (n - 1).toNat = n.toNat - 1 :=
    UInt64.toNat_sub_of_le _ _ (UInt64.le_iff_toNat_le.mpr (by omega))
  rw [copyRound]
  by_cases space : 1 < s.len
  · have above := UInt64.lt_iff_toNat_lt.mp space
    rw [if_pos space]
    by_cases more : 0 < s.srcLen
    · have left : 0 < s.srcLen.toNat := UInt64.lt_iff_toNat_lt.mp more
      have inspected : InspectsOnly src srcLen (s.sp :: s.inspected) := by
        intro i member
        rcases List.mem_cons.mp member with rfl | earlier
        · exact ⟨by omega, inv.clean⟩
        · exact inv.inspected i earlier
      simp only [if_pos more]
      by_cases nul : src s.sp = '\x00'
      · rw [if_neg (not_not.mpr nul)]
        exact .inr ⟨_, rfl, inv.stops (.inr (.inr nul)), inv.place, inv.bytes, inv.stored, inspected⟩
      · rw [if_pos nul]
        refine .inl ⟨_, rfl, ⟨?_, ?_, ?_, ?_, ?_, ?_, ?_, inspected⟩, ?_⟩
        · simp only [Copying.store, fewer positive]
          omega
        · simp only [Copying.store, fewer positive]
          omega
        · simp only [Copying.store, fewer left]
          omega
        · intro j below
          rcases Nat.lt_succ_iff_lt_or_eq.mp below with earlier | rfl
          · exact inv.clean j earlier
          · exact nul
        · simp only [Copying.store, inv.place]
          omega
        · have behind := blit_concat dest (copied src s.sp) (safeChar (src s.sp))
          rw [copied_length] at behind
          simp only [Copying.store, inv.place, inv.bytes, copied_succ, behind]
        · intro i member
          rcases List.mem_cons.mp member with rfl | earlier
          · simp only [Copying.store, inv.place]
            omega
          · have bound := inv.stored i earlier
            simp only [Copying.store]
            omega
        · simp only [Copying.store, fewer positive]
          omega
    · have none : ¬ 0 < s.srcLen.toNat := fun left => more (UInt64.lt_iff_toNat_lt.mpr left)
      simp only [if_neg more]
      exact .inr ⟨_, rfl, inv.stops (.inr (.inl (by omega))), inv.place, inv.bytes, inv.stored,
        inv.inspected⟩
  · have last : ¬ 1 < s.len.toNat := fun above => space (UInt64.lt_iff_toNat_lt.mpr above)
    rw [if_neg space]
    exact .inr ⟨_, rfl, inv.stops (.inl (by omega)), inv.place, inv.bytes, inv.stored, inv.inspected⟩

theorem copyLoop (dest : Memory) (src : Nat → Char) (srcLen : UInt64) (positive : 0 < len.toNat) :
    ∃ s, CopyDone dest len src srcLen s ∧ ∀ fuel, len.toNat < fuel →
      runLoop (copyRound src) fuel ⟨len, srcLen, dest, 0, 0, [], []⟩ = some s :=
  runLoop_total (fun s : Copying => s.len.toNat) (fun _ inv => inv.round) (CopyInv.start positive)

theorem safeChar_print (c : Char) : isprint (safeChar c) = true := by
  rw [safeChar]
  split
  · assumption
  · split <;> rfl

theorem ne_nul_of_isprint {c : Char} (printable : isprint c = true) : c ≠ '\x00' := by
  rintro rfl
  cases printable

theorem copied_print {n : Nat} {c : Char} (member : c ∈ copied src n) : isprint c = true := by
  obtain ⟨i, -, rfl⟩ := List.mem_map.mp member
  exact safeChar_print (src i)

/-- The invariant of the second loop: the blanks behind `text` have become NULs. -/
structure TrimInv (dest : Memory) (whole : CStr) (old : Copying) (s : Copying) : Prop where
  bytes : ∃ text blanks, s.dest = blit dest (text ++ List.replicate (blanks + 1) '\x00') ∧
    s.dp = text.length ∧ text.length + blanks = whole.length ∧
    text.rdropWhile isspace = whole.rdropWhile isspace
  stored : ∀ i ∈ s.stored, 0 ≤ i ∧ i ≤ whole.length
  inspected : s.inspected = old.inspected

/-- What the second loop leaves. -/
structure TrimDone (dest : Memory) (whole : CStr) (old : Copying) (s : Copying) : Prop where
  bytes : ∃ blanks, s.dest = blit dest (whole.rdropWhile isspace ++
    List.replicate (blanks + 1) '\x00') ∧ (whole.rdropWhile isspace).length + blanks = whole.length
  stored : ∀ i ∈ s.stored, 0 ≤ i ∧ i ≤ whole.length
  inspected : s.inspected = old.inspected

/-- One round clears the last blank, or finds that there is none. -/
theorem TrimInv.round {whole : CStr} {old s : Copying} (inv : TrimInv dest whole old s) :
    (∃ t, trimRound s = .again t ∧ TrimInv dest whole old t ∧ t.dp.toNat < s.dp.toNat) ∨
      ∃ t, trimRound s = .done t ∧ TrimDone dest whole old t := by
  obtain ⟨text, blanks, bytes, place, total, same⟩ := inv.bytes
  rw [trimRound]
  cases text using List.reverseRecOn with
  | nil =>
      have before : ¬ 0 ≤ s.dp - 1 := by
        rw [place]
        decide
      simp only [before, false_and, if_false]
      refine .inr ⟨_, rfl, ⟨blanks, ?_, ?_⟩, inv.stored, inv.inspected⟩
      · rw [← same]
        exact bytes
      · rw [← same]
        exact total
  | append_singleton text c _ =>
      rw [List.length_append, List.length_singleton] at place total
      have previous : s.dp - 1 = text.length := by omega
      have split : text ++ [c] ++ List.replicate (blanks + 1) '\x00' =
          text ++ c :: List.replicate (blanks + 1) '\x00' := by
        rw [List.append_assoc, List.singleton_append]
      have last : s.dest text.length = c := by
        rw [bytes, split]
        exact blit_get (by simp)
      simp only [previous, last, Int.natCast_nonneg, true_and]
      by_cases blank : isspace c = true
      · rw [if_pos blank]
        refine .inl ⟨_, rfl, ⟨⟨text, blanks + 1, ?_, rfl, by omega, ?_⟩, ?_, inv.inspected⟩, ?_⟩
        · simp only [Copying.store]
          rw [bytes, split, blit_set]
          rfl
        · rw [← same, List.rdropWhile_concat_pos _ _ _ blank]
        · intro i member
          rcases List.mem_cons.mp member with rfl | earlier
          · simp only
            omega
          · exact inv.stored i earlier
        · simp only [Copying.store]
          omega
      · rw [if_neg blank]
        have kept : whole.rdropWhile isspace = text ++ [c] := by
          rw [← same, List.rdropWhile_concat_neg _ _ _ blank]
        refine .inr ⟨_, rfl, ⟨blanks, ?_, ?_⟩, inv.stored, inv.inspected⟩
        · rw [kept]
          exact bytes
        · rw [kept, List.length_append, List.length_singleton]
          exact total

theorem TrimInv.start {s : Copying} (done : CopyDone dest len src srcLen s) :
    TrimInv dest (copied src s.sp) s (s.store '\x00') where
  bytes := by
    have behind := blit_concat dest (copied src s.sp) '\x00'
    rw [copied_length] at behind
    refine ⟨copied src s.sp, 0, ?_, ?_, rfl, rfl⟩
    · simp only [Copying.store, done.place, done.bytes, behind]
      rfl
    · rw [copied_length]
      exact done.place
  stored := by
    intro i member
    rw [copied_length]
    rcases List.mem_cons.mp member with rfl | earlier
    · have place := done.place
      omega
    · have bound := done.stored i earlier
      omega
  inspected := rfl

theorem trimLoop {s : Copying} (done : CopyDone dest len src srcLen s) :
    ∃ t, TrimDone dest (copied src s.sp) s t ∧
      ∀ fuel, s.sp < fuel → runLoop trimRound fuel (s.store '\x00') = some t := by
  obtain ⟨t, trimmed, ran⟩ :=
    runLoop_total (fun s : Copying => s.dp.toNat) (fun _ inv => inv.round) (TrimInv.start done)
  have place : (s.store '\x00').dp.toNat = s.sp := by
    rw [Copying.store, done.place, Int.toNat_natCast]
  exact ⟨t, trimmed, fun fuel enough => ran fuel (place ▸ enough)⟩

theorem isspace_of_print {c : Char} (printable : isprint c = true) : isspace c = (c == ' ') := by
  have visible : ' ' ≤ c := by
    rw [isprint, Bool.and_eq_true, decide_eq_true_iff] at printable
    exact printable.1
  have noControl : ¬ c ≤ '\r' := fun below => absurd (Char.le_trans visible below) (by decide)
  simp [isspace, noControl]

/-- In printable text the blank is the only white space. -/
theorem trim_of_print {text : CStr} (printable : ∀ c ∈ text, isprint c = true) :
    text.rdropWhile isspace = text.rdropWhile (· == ' ') := by
  induction text using List.reverseRecOn with
  | nil => rfl
  | append_singleton text c ih =>
      have last := isspace_of_print (printable c (by simp))
      rw [List.rdropWhile_concat, List.rdropWhile_concat, last,
        ih fun d member => printable d (List.mem_append_left _ member)]

/-- What a call leaves: the places it stored in and read from, and the string. -/
structure Sanitised (dest : Memory) (len : UInt64) (src : Nat → Char) (srcLen : UInt64) (n : Nat)
    (s : Copying) : Prop where
  stops : StopsAt len src srcLen n
  stored : ∀ i ∈ s.stored, 0 ≤ i ∧ i < len.toNat
  outside : ∀ i, i < 0 ∨ len.toNat ≤ i → s.dest i = dest i
  inspected : InspectsOnly src srcLen s.inspected
  string : IsString s.dest ((copied src n).rdropWhile isspace)

theorem StopsAt.le {n : Nat} (stops : StopsAt len src srcLen n) :
    n ≤ len.toNat - 1 ∧ n ≤ srcLen.toNat ∧ ∀ i < n, src i ≠ '\x00' :=
  ⟨stops.2 (.inl (.inl rfl)), stops.2 (.inl (.inr rfl)),
    fun _ below nul => absurd (stops.2 (.inr nul)) (Nat.not_le.mpr below)⟩

/-- Every call with room for a NUL returns. -/
theorem saStrncpySafeRun_spec (dest : Memory) (src : Nat → Char) (srcLen : UInt64)
    (positive : 0 < len.toNat) : ∃ s n, Sanitised dest len src srcLen n s ∧
      ∀ fuel, len.toNat < fuel → saStrncpySafeRun fuel dest len src srcLen = some s := by
  obtain ⟨s, done, ran⟩ := copyLoop dest src srcLen positive
  obtain ⟨t, trimmed, ran'⟩ := trimLoop done
  have bound := done.stops.le
  have inside : ∀ i ∈ t.stored, 0 ≤ i ∧ i < len.toNat := by
    intro i member
    have place := trimmed.stored i member
    rw [copied_length] at place
    omega
  refine ⟨t, s.sp, ⟨done.stops, inside, fun _ away => ?_, ?_, ?_⟩, fun fuel enough => ?_⟩
  · obtain ⟨blanks, bytes, total⟩ := trimmed.bytes
    rw [copied_length] at total
    rw [bytes]
    apply blit_outside
    rw [List.length_append, List.length_replicate]
    omega
  · rw [trimmed.inspected]
    exact done.inspected
  · obtain ⟨blanks, bytes, -⟩ := trimmed.bytes
    rw [bytes, List.replicate_succ]
    refine isString_blit dest (fun c member => ?_) _
    exact ne_nul_of_isprint (copied_print ((List.rdropWhile_prefix isspace _).subset member))
  · rw [saStrncpySafeRun, ran fuel enough]
    exact ran' fuel (by omega)

/-- The loops compute the text that `saStrncpySafe` says. -/
theorem saStrncpySafe_of_stops {n : Nat} (stops : StopsAt len src srcLen n) :
    saStrncpySafe len.toNat ((List.range srcLen.toNat).map src) srcLen.toNat =
      (copied src n).rdropWhile isspace := by
  obtain ⟨room, unread, clean⟩ := stops.le
  obtain ⟨more, total⟩ := Nat.exists_eq_add_of_le unread
  have before : ∀ c ∈ (List.range n).map src, c ≠ '\x00' := by
    intro c member
    obtain ⟨i, below, rfl⟩ := List.mem_map.mp member
    exact clean i (List.mem_range.mp below)
  have length : ((List.range n).map src).length = n := by simp
  -- behind the first `n` characters the source has ended, or the destination is full
  have behind : n = len.toNat - 1 ∨ cstr ((List.range more).map fun i => src (n + i)) = [] := by
    rcases stops.1 with (full | finished) | nul
    · exact .inl full
    · have none : more = 0 := Nat.add_left_cancel (total.symm.trans (Eq.symm finished))
      rw [none]
      exact .inr rfl
    · refine .inr ?_
      cases more with
      | zero => rfl
      | succ more =>
          rw [List.range_succ_eq_map, List.map_cons, Nat.add_zero, (nul : src n = '\x00')]
          rfl
  have kept : (cstr ((List.range srcLen.toNat).map src)).take (len.toNat - 1) =
      (List.range n).map src := by
    rw [total, List.range_add, List.map_append, List.map_map, cstr,
      List.takeWhile_append_of_pos (by simpa only [decide_eq_true_iff] using before)]
    rcases behind with full | ended
    · rw [← full]
      exact List.take_left' length
    · have nothing := congrArg (((List.range n).map src) ++ ·) ended
      simp only [List.append_nil] at nothing
      exact (congrArg _ nothing).trans (List.take_of_length_le (length.le.trans room))
  have whole : ((List.range srcLen.toNat).map src).take srcLen.toNat =
      (List.range srcLen.toNat).map src := List.take_of_length_le (by simp)
  rw [saStrncpySafe, whole, kept, List.map_map]
  rfl

/-- A source is given by the bytes in front of its NUL, or by enough bytes. -/
theorem saStrncpySafe_memory {bytes : List Char} {n : Nat} (len : Nat)
    (holds : ∀ i c, bytes[i]? = some c → src i = c)
    (ends : n ≤ bytes.length ∨ src bytes.length = '\x00') :
    saStrncpySafe len ((List.range n).map src) n = saStrncpySafe len bytes n := by
  have initial : ∀ m ≤ bytes.length, (List.range m).map src = bytes.take m := by
    intro m short
    apply List.ext_getElem
    · simpa using short
    · intro i inside _
      have below : i < m := by simpa using inside
      simpa using holds i _ (List.getElem?_eq_getElem (by omega))
  have same : cstr (((List.range n).map src).take n) = cstr (bytes.take n) := by
    rw [List.take_of_length_le (l := (List.range n).map src) (by simp)]
    by_cases short : n ≤ bytes.length
    · rw [initial n short]
    · obtain ⟨more, rfl⟩ : ∃ more, n = bytes.length + (more + 1) :=
        ⟨n - bytes.length - 1, by omega⟩
      rw [List.range_add, List.map_append, initial _ (Nat.le_refl _), List.take_length,
        List.range_succ_eq_map, List.map_cons, List.map_cons, Nat.add_zero, ends.resolve_left short,
        cstr_append_nul, List.take_of_length_le (by omega)]
  rw [saStrncpySafe, same, saStrncpySafe]

/-- The string the loops leave is the text that `saStrncpySafe` says. -/
theorem saStrncpySafeRun_text {bytes : List Char} (dest : Memory) (positive : 0 < len.toNat)
    (holds : ∀ i c, bytes[i]? = some c → src i = c)
    (ends : srcLen.toNat ≤ bytes.length ∨ src bytes.length = '\x00') :
    ∃ s, (∀ fuel, len.toNat < fuel → saStrncpySafeRun fuel dest len src srcLen = some s) ∧
      IsString s.dest (saStrncpySafe len.toNat bytes srcLen.toNat) := by
  obtain ⟨s, n, done, ran⟩ := saStrncpySafeRun_spec dest src srcLen positive
  refine ⟨s, ran, ?_⟩
  rw [← saStrncpySafe_memory len.toNat holds ends, saStrncpySafe_of_stops done.stops]
  exact done.string

/-- A copy is copied again as it is. -/
theorem Sanitised.stopsAgain {n : Nat} {s : Copying} {len' srcLen' : UInt64}
    (done : Sanitised dest len src srcLen n s) (wider : len ≤ len') (longer : srcLen ≤ srcLen') :
    StopsAt len' (fun i => s.dest i) srcLen' ((copied src n).rdropWhile isspace).length := by
  have short := (List.rdropWhile_prefix isspace (copied src n)).length_le
  rw [copied_length] at short
  obtain ⟨room, unread, -⟩ := done.stops.le
  have wide := UInt64.le_iff_toNat_le.mp wider
  have long := UInt64.le_iff_toNat_le.mp longer
  refine ⟨.inr done.string.ends, ?_⟩
  rintro m ((rfl | rfl) | nul)
  · omega
  · omega
  · by_contra before
    have inside : m < ((copied src n).rdropWhile isspace).length := Nat.lt_of_not_le before
    obtain ⟨there, clean⟩ := done.string.chars m _ (List.getElem?_eq_getElem inside)
    exact clean (there.symm.trans nul)

/-- Printable text is copied as it is. -/
theorem copied_print_self {text : CStr} (holds : ∀ k c, text[k]? = some c → src k = c)
    (printable : ∀ c ∈ text, isprint c = true) : copied src text.length = text := by
  apply List.ext_getElem
  · exact copied_length ..
  · intro i _ inside
    have there := holds i _ (List.getElem?_eq_getElem inside)
    simp only [copied, List.getElem_map, List.getElem_range]
    rw [there, safeChar, if_pos (printable _ (List.getElem_mem inside))]

end Loops

/-- A bounded copy of the printable image of the source, with its trailing blanks off, and
    the same again when it is copied once more. -/
theorem saStrncpySafe_sanitises {len : UInt64} (positive : 1 ≤ len) (dest : Memory)
    (src : Nat → Char) (srcLen : UInt64) :
    ∃ s text, (∀ fuel, len.toNat < fuel → saStrncpySafeRun fuel dest len src srcLen = some s) ∧
      (∀ i ∈ s.stored, 0 ≤ i ∧ i < len.toNat) ∧
      (∀ i, i < 0 ∨ len.toNat ≤ i → s.dest i = dest i) ∧
      (∀ i ∈ s.inspected, i < srcLen.toNat ∧ ∀ j < i, src j ≠ '\x00') ∧
      IsString s.dest text ∧
      (∃ n, IsLeast ({len.toNat - 1, srcLen.toNat} ∪ {i | src i = '\x00'}) n ∧
        text = ((List.range n).map fun i => safeChar (src i)).rdropWhile (· == ' ')) ∧
      (∀ c ∈ text, isprint c = true) ∧ text.getLast? ≠ some ' ' ∧
      ∀ (dest' : Memory) (len' srcLen' : UInt64), len ≤ len' → srcLen ≤ srcLen' →
        ∃ s', (∀ fuel, len'.toNat < fuel →
            saStrncpySafeRun fuel dest' len' (fun i => s.dest i) srcLen' = some s') ∧
          IsString s'.dest text := by
  have room : 0 < len.toNat := UInt64.le_iff_toNat_le.mp positive
  obtain ⟨s, n, done, ran⟩ := saStrncpySafeRun_spec dest src srcLen room
  have trimmed := trim_of_print fun c (member : c ∈ copied src n) => copied_print member
  have clean : ∀ c ∈ (copied src n).rdropWhile isspace, isprint c = true := fun c member =>
    copied_print ((List.rdropWhile_prefix isspace _).subset member)
  refine ⟨s, (copied src n).rdropWhile isspace, ran, done.stored, done.outside, done.inspected,
    done.string, ⟨n, done.stops, trimmed⟩, clean, ?_, ?_⟩
  · intro blank
    have text := saStrncpySafe_of_stops done.stops
    rw [← text] at blank
    have kept := saStrncpySafe_last blank
    cases kept
  · intro dest' len' srcLen' wider longer
    have wide := UInt64.le_iff_toNat_le.mp wider
    obtain ⟨s', n', done', ran'⟩ :=
      saStrncpySafeRun_spec dest' (fun i => s.dest i) srcLen' (Nat.lt_of_lt_of_le room wide)
    refine ⟨s', ran', ?_⟩
    have string := done'.string
    have again := copied_print_self (fun k c there => (done.string.chars k c there).1) clean
    rw [done'.stops.unique (done.stopsAgain wider longer), again, List.rdropWhile_idempotent] at string
    exact string

/-- Six bytes for a text that is longer and has a blank where it is cut. -/
theorem saStrncpySafe_sanitises_short : ∃ s text,
    saStrncpySafeRun 7 (fun _ => 'x') 6 (fun i => "a\tbc d".toList.getD i '\x00') 50 = some s ∧
      IsString s.dest text ∧ text.getLast? ≠ some ' ' := by
  obtain ⟨s, text, ran, -, -, -, string, -, -, last, -⟩ := saStrncpySafe_sanitises
    (by decide : (1 : UInt64) ≤ 6) (fun _ => 'x') (fun i => "a\tbc d".toList.getD i '\x00') 50
  exact ⟨s, text, ran 7 (by decide), string, last⟩

end Hbalinux
