import Hbalinux.C.Numeral
import Hbalinux.C.Outcome
import Hbalinux.Hbaapi

/-! # Reading sysfs

The file tree the library reads and the readers of `utils.c`.  A reader that fails
leaves the caller's memory as it was: buffers are lists of bytes that keep what an
earlier read left in them, and a failed number is `none`.
-/

namespace Hbalinux

inductive DType where
  | lnk
  | dir
  | other
  deriving Repr, DecidableEq

structure DirEnt where
  dName : CStr
  dType : DType
  deriving Repr, DecidableEq

/-- An unchanging file tree: `none` is a path that cannot be opened. -/
structure Sysfs where
  file : CStr → Option (List Char)
  dir : CStr → Option (List DirEnt)
  link : CStr → Option CStr

/-- `"%s/%s"` -/
def joinPath (dir file : CStr) : CStr := dir ++ '/' :: file

/-- What `fgets` stores before its NUL: at most `len - 1` bytes, up to and with the
    first newline. -/
def fgets (len : Nat) (content : List Char) : List Char :=
  (content.takeWhile (· ≠ '\n') ++ (content.dropWhile (· ≠ '\n')).take 1).take (len - 1)

/-- Overwrite the trailing white space of the string in a buffer with NULs. -/
def trimLine (buf : List Char) : List Char :=
  let text := cstr buf
  let kept := text.rdropWhile isspace
  kept ++ List.replicate (text.length - kept.length) '\x00' ++ buf.drop text.length

/-- `buf` is the whole buffer before the call, of which `len` bytes may be written. -/
def saSysReadLine (sysfs : Sysfs) (dir file : CStr) (buf : List Char) (len : Nat) :
    Int × List Char :=
  match sysfs.file (snprintf 256 (joinPath dir file)) with
  | none => (-1, buf)
  | some content =>
      match fgets len content with
      | [] => (-1, buf)
      | line => (0, trimLine (overlay line buf))

/-- The line `saSysReadLine` leaves in a buffer of 256 bytes, when it succeeds. -/
def sysLine (sysfs : Sysfs) (dir file : CStr) : Option CStr :=
  match saSysReadLine sysfs dir file (List.replicate 256 '\x00') 256 with
  | (0, buf) => some (cstr buf)
  | _ => none

/-- The line is a number up to its end. -/
def saSysReadU64 (sysfs : Sysfs) (dir file : CStr) : Option UInt64 :=
  match sysLine sysfs dir file with
  | none => none
  | some line =>
      match strtoul 0 line with
      | (val, []) => some val
      | _ => none

def saSysReadU32 (sysfs : Sysfs) (dir file : CStr) : Option UInt32 :=
  (saSysReadU64 sysfs dir file).map UInt64.toUInt32

def copyWwn (src : UInt64) : HbaWwn :=
  ⟨[(src >>> 56).toUInt8, (src >>> 48).toUInt8, (src >>> 40).toUInt8, (src >>> 32).toUInt8,
    (src >>> 24).toUInt8, (src >>> 16).toUInt8, (src >>> 8).toUInt8, src.toUInt8], rfl⟩

def sysReadWwn (sysfs : Sysfs) (dir file : CStr) : Option HbaWwn :=
  (saSysReadU64 sysfs dir file).map copyWwn

/-- A printable copy of at most `srcLen` bytes of `src` in `len` bytes of memory. -/
def saStrncpySafe (len : Nat) (src : List Char) (srcLen : Nat) : CStr :=
  (((cstr (src.take srcLen)).take (len - 1)).map fun c =>
    if isprint c then c else if isspace c then ' ' else '.').rdropWhile isspace

/-- The same into a buffer, where the blanks taken off the end become NULs. -/
def safeInto (buf src : List Char) (srcLen : Nat) : List Char :=
  let copied := ((cstr (src.take srcLen)).take (buf.length - 1)).map fun c =>
    if isprint c then c else if isspace c then ' ' else '.'
  trimLine (overlay copied buf)

def saEnumEncode (table : List (CStr × UInt32)) (name : CStr) : Option UInt32 :=
  (table.find? fun entry => strcasecmp entry.1 name).map Prod.snd

/-- Error number of a directory that cannot be opened. -/
def enoent : Int := 2

/-- The entries of a directory that `saDirRead` hands on. -/
def Sysfs.listing (sysfs : Sysfs) (dirName : CStr) : List DirEnt :=
  ((sysfs.dir dirName).getD []).filter fun dp => dp.dName ≠ "." ∧ dp.dName ≠ ".."

def saDirRead {σ : Type} (sysfs : Sysfs) (dirName : CStr)
    (func : DirEnt → σ → Outcome (Int × σ)) (arg : σ) : Outcome (Int × σ) :=
  match sysfs.dir dirName with
  | none => .ok (enoent, arg)
  | some _ => Outcome.untilNonzero func (sysfs.listing dirName) arg

/-- Callers that ignore the result see a missing directory as an empty one. -/
theorem saDirRead_state {σ : Type} (sysfs : Sysfs) (dirName : CStr)
    (func : DirEnt → σ → Outcome (Int × σ)) (arg : σ) :
    Except.map Prod.snd (saDirRead sysfs dirName func arg) =
      Except.map Prod.snd (Outcome.untilNonzero func (sysfs.listing dirName) arg) := by
  rw [saDirRead]
  cases opened : sysfs.dir dirName with
  | none => simp [Sysfs.listing, opened, Outcome.untilNonzero, Except.map]
  | some _ => rfl

theorem saDirRead_preserves {σ : Type} {sysfs : Sysfs} {dirName : CStr}
    {func : DirEnt → σ → Outcome (Int × σ)} {arg s' : σ} {P : σ → Prop}
    (step : ∀ dp ∈ sysfs.listing dirName, ∀ s rc t, P s → func dp s = .ok (rc, t) → P t)
    (start : P arg) (ran : Except.map Prod.snd (saDirRead sysfs dirName func arg) = .ok s') :
    P s' := by
  rw [saDirRead_state, Outcome.map_eq_ok] at ran
  obtain ⟨⟨rc, last⟩, walked, rfl⟩ := ran
  exact Outcome.untilNonzero_preserves step start walked

theorem saDirRead_returns {σ : Type} {sysfs : Sysfs} {dirName : CStr}
    {func : DirEnt → σ → Outcome (Int × σ)} (returns : ∀ e s, ∃ r, func e s = .ok r) (arg : σ) :
    ∃ s, Except.map Prod.snd (saDirRead sysfs dirName func arg) = .ok s := by
  rw [saDirRead_state]
  obtain ⟨r, walked⟩ := Outcome.untilNonzero_returns returns (sysfs.listing dirName) arg
  exact ⟨r.2, by rw [walked]; rfl⟩

private theorem cstr_initial (buf : List Char) : cstr buf <+: buf := List.takeWhile_prefix _

theorem cstr_length_le (buf : List Char) : (cstr buf).length ≤ buf.length :=
  (cstr_initial buf).length_le

theorem trimLine_length (buf : List Char) : (trimLine buf).length = buf.length := by
  have kept := (List.rdropWhile_prefix isspace (cstr buf)).length_le
  have whole := cstr_length_le buf
  simp only [trimLine, List.length_append, List.length_replicate, List.length_drop]
  omega

theorem overlay_length {s : CStr} {buf : List Char} (fits : s.length < buf.length) :
    (overlay s buf).length = buf.length := by
  simp only [overlay, List.length_append, List.length_cons, List.length_drop]
  omega

/-- Behind the string in a buffer stands its NUL. -/
theorem drop_cstr {buf : List Char} (terminated : '\x00' ∈ buf) :
    ∃ rest, buf.drop (cstr buf).length = '\x00' :: rest := by
  obtain ⟨rest, same⟩ := split_at_nul terminated
  refine ⟨rest, ?_⟩
  conv_lhs => rw [same]
  have short : (cstr (cstr buf ++ '\x00' :: rest)).length = (cstr buf).length := by
    rw [← same]
  simp [short]

theorem nul_mem_trimLine {buf : List Char} (terminated : '\x00' ∈ buf) : '\x00' ∈ trimLine buf := by
  obtain ⟨rest, dropped⟩ := drop_cstr terminated
  rw [trimLine]
  simp [dropped]

/-- The text after trimming is the trimmed text. -/
theorem cstr_trimLine {buf : List Char} (terminated : '\x00' ∈ buf) :
    cstr (trimLine buf) = (cstr buf).rdropWhile isspace := by
  obtain ⟨rest, dropped⟩ := drop_cstr terminated
  have clean : ∀ c ∈ (cstr buf).rdropWhile isspace, c ≠ '\x00' := fun c member =>
    cstr_clean buf c ((List.rdropWhile_prefix isspace _).subset member)
  rw [trimLine]
  simp only [dropped, List.append_assoc]
  cases (cstr buf).length - ((cstr buf).rdropWhile isspace).length with
  | zero => exact cstr_append clean rest
  | succ n => exact cstr_append clean _

theorem cstr_append_nul (line rest : List Char) : cstr (line ++ '\x00' :: rest) = cstr line := by
  rw [cstr, cstr, List.takeWhile_append]
  split
  · rename_i whole
    rw [List.takeWhile_cons_of_neg (by simp), List.append_nil]
    exact ((List.takeWhile_prefix _).eq_of_length whole).symm
  · rfl

theorem nul_mem_overlay (line buf : List Char) : '\x00' ∈ overlay line buf :=
  List.mem_append_right _ (List.mem_cons_self ..)

theorem cstr_overlay_line (line buf : List Char) : cstr (overlay line buf) = cstr line :=
  cstr_append_nul line _

/-- A line read into memory is the same text whatever the memory held, and a failed
    read changes nothing. -/
theorem saSysReadLine_cases (sysfs : Sysfs) (dir file : CStr) (buf : List Char) :
    (∃ line, sysLine sysfs dir file = some line ∧
        (saSysReadLine sysfs dir file buf 256).1 = 0 ∧
        cstr (saSysReadLine sysfs dir file buf 256).2 = line) ∨
      (sysLine sysfs dir file = none ∧ saSysReadLine sysfs dir file buf 256 = (-1, buf)) := by
  rw [sysLine, saSysReadLine, saSysReadLine]
  cases sysfs.file (snprintf 256 (joinPath dir file)) with
  | none => exact .inr ⟨rfl, rfl⟩
  | some content =>
      simp only
      cases fgets 256 content with
      | nil => exact .inr ⟨rfl, rfl⟩
      | cons c cs =>
          refine .inl ⟨_, rfl, rfl, ?_⟩
          rw [cstr_trimLine (nul_mem_overlay ..), cstr_trimLine (nul_mem_overlay ..),
            cstr_overlay_line, cstr_overlay_line]

/-- A buffer after a read that fails is the one before. -/
theorem saSysReadLine_unread {sysfs : Sysfs} {dir file : CStr}
    (unread : sysLine sysfs dir file = none) (buf : List Char) :
    saSysReadLine sysfs dir file buf 256 = (-1, buf) := by
  rcases saSysReadLine_cases sysfs dir file buf with ⟨line, read, -⟩ | ⟨-, failed⟩
  · rw [unread] at read
    cases read
  · exact failed

theorem saSysReadLine_read {sysfs : Sysfs} {dir file line : CStr}
    (read : sysLine sysfs dir file = some line) (buf : List Char) :
    (saSysReadLine sysfs dir file buf 256).1 = 0 ∧
      cstr (saSysReadLine sysfs dir file buf 256).2 = line := by
  rcases saSysReadLine_cases sysfs dir file buf with ⟨line', read', ok, text⟩ | ⟨unread, -⟩
  · rw [read, Option.some.injEq] at read'
    exact ⟨ok, text.trans read'.symm⟩
  · rw [read] at unread
    cases unread

/-- A buffer holds a string after a read if the read succeeds or it held one before. -/
theorem nul_mem_saSysReadLine {sysfs : Sysfs} {dir file : CStr} {buf : List Char} :
    '\x00' ∈ (saSysReadLine sysfs dir file buf 256).2 ↔
      (sysLine sysfs dir file).isSome ∨ '\x00' ∈ buf := by
  rcases saSysReadLine_cases sysfs dir file buf with ⟨line, read, ok, -⟩ | ⟨unread, failed⟩
  · refine iff_of_true ?_ (.inl (by rw [read]; rfl))
    have failure : ¬ (-1 : Int) = 0 := by decide
    rw [saSysReadLine] at ok ⊢
    cases opened : sysfs.file (snprintf 256 (joinPath dir file)) with
    | none =>
        rw [opened] at ok
        exact absurd ok failure
    | some content =>
        rw [opened] at ok
        simp only at ok ⊢
        cases got : fgets 256 content with
        | nil =>
            rw [got] at ok
            exact absurd ok failure
        | cons c cs => exact nul_mem_trimLine (nul_mem_overlay (c :: cs) buf)
  · simp only [unread, failed, Option.isSome_none, Bool.false_eq_true, false_or]

theorem fgets_length (content : List Char) : (fgets 256 content).length < 256 := by
  rw [fgets, List.length_take]
  omega

theorem saSysReadLine_length (sysfs : Sysfs) (dir file : CStr) {buf : List Char}
    (room : buf.length = 256) : (saSysReadLine sysfs dir file buf 256).2.length = 256 := by
  rw [saSysReadLine]
  cases sysfs.file (snprintf 256 (joinPath dir file)) with
  | none => exact room
  | some content =>
      have short := fgets_length content
      simp only
      split
      · exact room
      · rw [trimLine_length, overlay_length (room ▸ short), room]

/-- A printable text without blanks at its end that fits is copied as it is. -/
theorem saStrncpySafe_self {len srcLen : Nat} {s : CStr} (clean : ∀ c ∈ s, isprint c = true)
    (last : ∀ c, s.getLast? = some c → isspace c = false) (fits : s.length < len)
    (whole : s.length ≤ srcLen) : saStrncpySafe len s srcLen = s := by
  have noNul : ∀ c ∈ s, c ≠ '\x00' := by
    intro c member same
    have printable := clean c member
    rw [same] at printable
    cases printable
  have kept : (s.map fun c => if isprint c then c else if isspace c then ' ' else '.') = s.map id :=
    List.map_congr_left fun c member => if_pos (clean c member)
  rw [saStrncpySafe, List.take_of_length_le whole, cstr_of_clean noNul,
    List.take_of_length_le (by omega), kept, List.map_id, List.rdropWhile_eq_self_iff]
  intro nonempty
  rw [last _ (List.getLast?_eq_some_getLast nonempty)]
  exact Bool.false_ne_true

theorem saStrncpySafe_clean {len srcLen : Nat} {src : List Char} {c : Char}
    (member : c ∈ saStrncpySafe len src srcLen) : isprint c = true := by
  have mapped := (List.rdropWhile_prefix isspace _).subset member
  obtain ⟨d, -, rfl⟩ := List.mem_map.mp mapped
  split
  · assumption
  · split <;> decide

theorem saStrncpySafe_last {len srcLen : Nat} {src : List Char} {c : Char}
    (last : (saStrncpySafe len src srcLen).getLast? = some c) : isspace c = false := by
  have nonempty : saStrncpySafe len src srcLen ≠ [] := by
    intro empty
    rw [empty] at last
    cases last
  have kept := List.rdropWhile_last_not isspace _ nonempty
  rw [List.getLast?_eq_some_getLast nonempty, Option.some.injEq] at last
  rw [← last]
  exact Bool.eq_false_iff.mpr kept

theorem saStrncpySafe_length (len : Nat) (src : List Char) (srcLen : Nat) :
    (saStrncpySafe len src srcLen).length ≤ len - 1 := by
  refine (List.rdropWhile_prefix isspace _).length_le.trans ?_
  rw [List.length_map, List.length_take]
  exact min_le_left ..

/-- A sanitised text is left alone when it is copied again. -/
theorem saStrncpySafe_again {len len' srcLen srcLen' : Nat} {src : List Char} (positive : 0 < len)
    (wider : len ≤ len') (whole : len - 1 ≤ srcLen') :
    saStrncpySafe len' (saStrncpySafe len src srcLen) srcLen' = saStrncpySafe len src srcLen := by
  have bound := saStrncpySafe_length len src srcLen
  exact saStrncpySafe_self (fun _ => saStrncpySafe_clean) (fun _ => saStrncpySafe_last) (by omega)
    (by omega)

end Hbalinux
