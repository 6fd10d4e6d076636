import Mathlib.Data.List.Nodup
import Hbalinux.C.Items
import Hbalinux.Lport
import Hbalinux.Numbers

/-! # Speed lists

`sys_read_speed` looks the names of a line up in `port_speeds_table` and goes on from
the entry it has found, for the next name too.  So it gets as far as the names stand
in the order of the table, and the flags of the others are missing unless a name in
front has set them already.
-/

namespace Hbalinux

/-- `sys_read_speed` with its result code. -/
def sysReadSpeedInto (sysfs : Sysfs) (dir file : CStr) (buf : List Char) : Int × UInt32 × List Char :=
  let (rc, buf) := saSysReadLine sysfs dir file buf 256
  let line := cstr buf
  if rc = 0 ∧ (strstr line "Unknown").isNone then
    (rc, readSpeedsFrom (line.length + 1) line portSpeedsTable 0, buf)
  else (rc, 0, buf)

/-- The reader as the rest of the library uses it. -/
theorem sysReadSpeed_eq (sysfs : Sysfs) (dir file : CStr) (buf : List Char) :
    sysReadSpeed sysfs dir file buf = (sysReadSpeedInto sysfs dir file buf).2 := by
  unfold sysReadSpeed sysReadSpeedInto
  generalize saSysReadLine sysfs dir file buf 256 = read
  obtain ⟨rc, last⟩ := read
  simp only
  split <;> rfl

/-- The name of an entry other than `Unknown`, in any letter case. -/
def Names (item : CStr) (entry : CStr × UInt32) : Prop :=
  entry ∈ portSpeedsTable.tail ∧ item.map Char.toLower = entry.1.map Char.toLower

/-- A line that lists entries by their names. -/
def SpeedLine (line : CStr) (entries : List (CStr × UInt32)) : Prop :=
  (line = [] ∧ entries = []) ∨ ∃ items, Joined items line ∧ List.Forall₂ Names items entries

/-- Where an entry stands in the table. -/
def speedIndex (entry : CStr × UInt32) : Nat := portSpeedsTable.idxOf entry

/-- Every entry listed occurs in an initial part that is in the order of the table. -/
def CoveredInOrder (entries : List (CStr × UInt32)) : Prop :=
  ∃ before after, entries = before ++ after ∧
    before.Pairwise (fun e e' => speedIndex e ≤ speedIndex e') ∧ ∀ e ∈ after, e ∈ before

/-- A call has read a list of entries as the set of their flags. -/
def ReadsSet (entries : List (CStr × UInt32)) (result : Int × UInt32 × List Char) : Prop :=
  result.1 = 0 ∧ result.2.1 = orAll (entries.map Prod.snd)

/-- The names in small letters. -/
def nameChars : List Char := (portSpeedsTable.tail.flatMap Prod.fst).map Char.toLower

theorem lower_mem_nameChars {item : CStr} {entry : CStr × UInt32} (names : Names item entry) {c : Char}
    (member : c ∈ item) : c.toLower ∈ nameChars := by
  have lower : c.toLower ∈ item.map Char.toLower := List.mem_map_of_mem member
  rw [names.2] at lower
  obtain ⟨d, inside, same⟩ := List.mem_map.mp lower
  exact List.mem_map.mpr ⟨d, List.mem_flatMap.mpr ⟨entry, names.1, inside⟩, same⟩

/-- A character that is not in a name in either case. -/
theorem notMem_of_nameChars {item : CStr} {entry : CStr × UInt32} (names : Names item entry) {c : Char}
    (small : c.toLower = c) (other : c ∉ nameChars) : c ∉ item :=
  fun member => other (small ▸ lower_mem_nameChars names member)

theorem Names.plain {item : CStr} {entry : CStr × UInt32} (names : Names item entry) : PlainItem item := by
  have heads : portSpeedsTable.tail.all (fun e => (e.1.map Char.toLower).head?.any (· ≠ ' ')) = true := by
    decide
  have visible := List.all_eq_true.mp heads entry names.1
  rw [← names.2] at visible
  refine ⟨notMem_of_nameChars names rfl (by decide), fun blank => ?_, ?_⟩
  · obtain ⟨rest, rfl⟩ := List.head?_eq_some_iff.mp blank
    cases visible
  · rintro rfl
    cases visible

/-- A name of the table is found where its entry is listed. -/
theorem strncasecmp_iff {item more : CStr} {entry other : CStr × UInt32} (names : Names item entry)
    (comma : more = [] ∨ ∃ rest, more = ',' :: rest) (listed : other ∈ portSpeedsTable) :
    strncasecmp other.1 (item ++ more) = true ↔ other = entry := by
  have noComma : portSpeedsTable.all (fun e => ',' ∉ e.1.map Char.toLower) = true := by decide
  have apart : portSpeedsTable.all (fun e => portSpeedsTable.tail.all fun e' =>
      !(e.1.map Char.toLower).isPrefixOf (e'.1.map Char.toLower) || e = e') = true := by
    decide +kernel
  have absent : ',' ∉ other.1.map Char.toLower := by
    simpa using List.all_eq_true.mp noComma other listed
  have unique := List.all_eq_true.mp (List.all_eq_true.mp apart other listed) entry names.1
  rw [strncasecmp, List.isPrefixOf_iff_prefix, List.map_append, names.2]
  have within : other.1.map Char.toLower <+: entry.1.map Char.toLower ++ more.map Char.toLower ↔
      other.1.map Char.toLower <+: entry.1.map Char.toLower := by
    rcases comma with rfl | ⟨rest, rfl⟩
    · rw [List.map_nil, List.append_nil]
    · exact initial_before absent _ _
  rw [within]
  constructor
  · intro inside
    rw [List.isPrefixOf_iff_prefix.mpr inside] at unique
    simpa using unique
  · rintro rfl
    exact List.prefix_refl _

/-- The inner loop finds an entry that is still ahead. -/
theorem matchSpeed_eq {cp : CStr} {entry : CStr × UInt32} {table : List (CStr × UInt32)}
    (only : ∀ other ∈ table, (strncasecmp other.1 cp = true ↔ other = entry)) :
    matchSpeed table cp = if entry ∈ table then
      some (entry.2, cp.drop entry.1.length, table.dropWhile (· ≠ entry)) else none := by
  induction table with
  | nil => rfl
  | cons first table ih =>
      obtain ⟨name, value⟩ := first
      have rest := ih fun other member => only other (List.mem_cons_of_mem _ member)
      have here := only (name, value) (by simp)
      rw [matchSpeed]
      by_cases same : (name, value) = entry
      · rw [if_pos (here.mpr same), ← same]
        simp
      · rw [if_neg (fun found => same (here.mp found)), rest]
        simp [same, Ne.symm same]

theorem portSpeedsTable_nodup : portSpeedsTable.Nodup := by
  decide +kernel

/-- What is ahead from one entry on. -/
theorem drop_speedIndex {entry : CStr × UInt32} (listed : entry ∈ portSpeedsTable) (k : Nat) :
    (entry ∈ portSpeedsTable.drop k ↔ k ≤ speedIndex entry) ∧ (k ≤ speedIndex entry →
      (portSpeedsTable.drop k).dropWhile (· ≠ entry) = portSpeedsTable.drop (speedIndex entry)) := by
  obtain ⟨before, after, table, fresh⟩ := List.eq_append_cons_of_mem listed
  have nodup := portSpeedsTable_nodup
  have index : speedIndex entry = before.length := by
    rw [speedIndex, table, List.idxOf_append_of_notMem fresh, List.idxOf_cons_self, Nat.add_zero]
  rw [table] at nodup
  have single : entry ∉ after := (List.nodup_cons.mp (List.nodup_append.mp nodup).2.1).1
  rw [index, table]
  by_cases ahead : k ≤ before.length
  · have others : ∀ e ∈ before.drop k, decide (e ≠ entry) = true := by
      intro e member
      rw [decide_eq_true_eq]
      rintro rfl
      exact fresh (List.mem_of_mem_drop member)
    rw [List.drop_append_of_le_length ahead, List.dropWhile_append_of_pos others,
      List.dropWhile_cons_of_neg (by simp), List.drop_left]
    simp [ahead]
  · obtain ⟨j, rfl⟩ := Nat.exists_eq_add_of_lt (Nat.lt_of_not_le ahead)
    have rest : (before ++ entry :: after).drop (before.length + j + 1) = after.drop j := by
      rw [Nat.add_assoc, List.drop_append, List.drop_eq_nil_of_le (by omega), Nat.add_sub_cancel_left,
        List.drop_succ_cons, List.nil_append]
    rw [rest]
    refine ⟨iff_of_false (fun member => single (List.mem_of_mem_drop member)) ahead, fun le => ?_⟩
    exact absurd le ahead

/-- One round of the loop. -/
theorem readSpeedsFrom_round {item more : CStr} {entry : CStr × UInt32} (names : Names item entry)
    (comma : more = [] ∨ ∃ rest, more = ',' :: rest) (fuel k : Nat) (val : UInt32) :
    readSpeedsFrom (fuel + 1) (item ++ more) (portSpeedsTable.drop k) val =
      if k ≤ speedIndex entry then
        match more with
        | [] => val ||| entry.2
        | _ :: rest =>
            readSpeedsFrom fuel (skipBlank rest) (portSpeedsTable.drop (speedIndex entry)) (val ||| entry.2)
      else val := by
  have listed : entry ∈ portSpeedsTable := List.mem_of_mem_tail names.1
  obtain ⟨ahead, rest⟩ := drop_speedIndex listed k
  have length : entry.1.length = item.length := by
    simpa using (congrArg List.length names.2).symm
  have found := matchSpeed_eq fun other member =>
    strncasecmp_iff names comma (List.mem_of_mem_drop (i := k) member)
  have noComma := names.plain.1
  obtain ⟨c, cs, rfl⟩ := List.exists_cons_of_ne_nil names.plain.2.2
  rw [readSpeedsFrom, if_neg (by simp), found, length, List.drop_left]
  by_cases order : k ≤ speedIndex entry
  · rw [if_pos (ahead.mpr order), if_pos order, rest order]
    rcases comma with rfl | ⟨text, rfl⟩
    · rfl
    · simp only
      by_cases blank : text.head? = some ' '
      · obtain ⟨rest, rfl⟩ := List.head?_eq_some_iff.mp blank
        rfl
      · rw [skipBlank_eq blank]
        split <;> simp_all
  · rw [if_neg fun member => order (ahead.mp member), if_neg order]
    simp only [List.cons_append]
    rw [List.mem_cons, not_or] at noComma
    split
    · rename_i same
      exact absurd (List.cons.inj same).1.symm noComma.1
    · rename_i same
      exact absurd (List.cons.inj same).1.symm noComma.1
    · rfl

/-- The loop reads the entries that are in order, and stops at the first that is not. -/
theorem readSpeedsFrom_eq {items : List CStr} {line : CStr} {entries : List (CStr × UInt32)}
    (joined : Joined items line) (names : List.Forall₂ Names items entries) {fuel : Nat}
    (enough : line.length < fuel) (k : Nat) (val : UInt32) :
    readSpeedsFrom fuel line (portSpeedsTable.drop k) val =
      val ||| orAll ((rising speedIndex k entries).map Prod.snd) := by
  have split : ∀ (k : Nat) (val : UInt32) (entry : CStr × UInt32) (entries : List (CStr × UInt32)),
      (if k ≤ speedIndex entry then
        (val ||| entry.2) ||| orAll ((rising speedIndex (speedIndex entry) entries).map Prod.snd)
      else val) = val ||| orAll ((rising speedIndex k (entry :: entries)).map Prod.snd) := by
    intro k val entry entries
    rw [rising]
    split
    · rw [List.map_cons, orAll_cons, UInt32.or_assoc]
    · simp
  obtain ⟨fuel, rfl⟩ := Nat.exists_eq_add_one_of_ne_zero (Nat.ne_zero_of_lt enough)
  induction joined generalizing entries fuel k val with
  | last item =>
      cases names with
      | cons first rest =>
          cases rest
          have round := readSpeedsFrom_round first (.inl rfl) fuel k val
          rw [List.append_nil] at round
          rw [round, ← split, rising]
          simp
  | @comma item items text more ih =>
      rw [List.length_append, List.length_cons] at enough
      obtain ⟨fuel, rfl⟩ := Nat.exists_eq_add_one_of_ne_zero (by omega : fuel ≠ 0)
      cases names with
      | cons first rest =>
          have plain : ∀ other ∈ items, PlainItem other := fun other member =>
            (exists_of_forall₂ rest member).choose_spec.2.plain
          rw [readSpeedsFrom_round first (.inr ⟨text, rfl⟩), ← split]
          simp only [skipBlank_eq (more.head plain)]
          rw [ih rest _ _ fuel (by omega)]
  | @blank item items text more ih =>
      rw [List.length_append, List.length_cons, List.length_cons] at enough
      obtain ⟨fuel, rfl⟩ := Nat.exists_eq_add_one_of_ne_zero (by omega : fuel ≠ 0)
      cases names with
      | cons first rest =>
          rw [readSpeedsFrom_round first (.inr ⟨' ' :: text, rfl⟩), ← split]
          simp only [skipBlank]
          rw [ih rest _ _ fuel (by omega)]

theorem toLower_of_isspace {c : Char} (blank : isspace c = true) : c.toLower = c := by
  have low : c.toNat < 65 := by
    rcases (by simpa [isspace] using blank : c = ' ' ∨ '\t' ≤ c ∧ c ≤ '\r') with rfl | ⟨-, small⟩
    · decide
    · have bound : c.toNat ≤ 13 := by simpa [Char.le_def, UInt32.le_iff_toNat_le] using small
      omega
  refine dif_neg ?_
  rintro ⟨high, -⟩
  have above : 65 ≤ c.toNat := by simpa [UInt32.le_iff_toNat_le] using high
  omega

section Line

variable {line : CStr} {entries : List (CStr × UInt32)}

/-- A list of names has none of the characters that end a line or make it `Unknown`. -/
theorem SpeedLine.notMem (list : SpeedLine line entries) {c : Char} (small : c.toLower = c)
    (other : c ∉ nameChars) (joint : c ≠ ',' ∧ c ≠ ' ') : c ∉ line := by
  rcases list with ⟨rfl, -⟩ | ⟨items, joined, names⟩
  · exact List.not_mem_nil
  · intro member
    rcases joined.mem member with comma | blank | ⟨item, among, inside⟩
    · exact joint.1 comma
    · exact joint.2 blank
    · obtain ⟨entry, -, named⟩ := exists_of_forall₂ names among
      exact notMem_of_nameChars named small other inside

/-- It does not end with a blank. -/
theorem SpeedLine.trimmed (list : SpeedLine line entries) : line.rdropWhile isspace = line := by
  rcases list with ⟨rfl, -⟩ | ⟨items, joined, names⟩
  · rfl
  · obtain ⟨item, among, before, rfl⟩ := joined.ends
    obtain ⟨entry, -, named⟩ := exists_of_forall₂ names among
    have lasts : portSpeedsTable.tail.all
        (fun e => (e.1.map Char.toLower).getLast?.any fun c => !isspace c) = true := by
      decide
    have visible := List.all_eq_true.mp lasts entry named.1
    rw [← named.2, List.getLast?_map] at visible
    rw [List.rdropWhile_eq_self_iff]
    intro nonempty blank
    rw [List.getLast_append_of_ne_nil _ named.plain.2.2] at blank
    rw [List.getLast?_eq_some_getLast named.plain.2.2, Option.map_some, toLower_of_isspace blank] at visible
    simp [blank] at visible

theorem SpeedLine.listed (list : SpeedLine line entries) :
    ∀ entry ∈ entries, entry ∈ portSpeedsTable.tail := by
  rcases list with ⟨-, rfl⟩ | ⟨items, joined, names⟩
  · simp
  · intro entry member
    obtain ⟨item, -, named⟩ := exists_of_forall₂ names.flip member
    exact named.1

/-- What `sys_read_speed` makes of a list. -/
theorem SpeedLine.read (list : SpeedLine line entries) (fits : line.length < 256) {sysfs : Sysfs}
    {dir file rest : CStr}
    (opened : sysfs.file (snprintf 256 (joinPath dir file)) = some (line ++ '\n' :: rest))
    (buf : List Char) :
    (sysReadSpeedInto sysfs dir file buf).1 = 0 ∧ (sysReadSpeedInto sysfs dir file buf).2.1 =
      orAll ((rising speedIndex 0 entries).map Prod.snd) := by
  have clean : '\x00' ∉ line := list.notMem rfl (by decide) (by decide)
  have first : firstLine (line ++ '\n' :: rest) = line := by
    have noNewline : ∀ c ∈ line, decide (c ≠ '\n') = true := by
      intro c member
      rw [decide_eq_true_eq]
      rintro rfl
      exact list.notMem rfl (by decide) (by decide) member
    rw [firstLine, List.takeWhile_append_of_pos noNewline, List.takeWhile_cons_of_neg (by decide),
      List.append_nil]
  have seen : sysLine sysfs dir file = some line := by
    rw [sysLine_eq opened, if_neg (by simp), seenLine_eq (by rw [first]; exact ⟨fits, clean⟩), first,
      list.trimmed]
  have known : strstr line "Unknown" = none := by
    rw [← Option.not_isSome_iff_eq_none]
    exact fun found => list.notMem rfl (by decide) (by decide) (strstr_subset found 'k' (by decide))
  rcases saSysReadLine_cases sysfs dir file buf with ⟨text, isLine, rc, same⟩ | ⟨noLine, -⟩
  · rw [seen, Option.some.injEq] at isLine
    rw [← isLine] at same
    have value : readSpeedsFrom (line.length + 1) line portSpeedsTable 0 =
        orAll ((rising speedIndex 0 entries).map Prod.snd) := by
      rcases list with ⟨rfl, rfl⟩ | ⟨items, joined, names⟩
      · rfl
      · have loop := readSpeedsFrom_eq joined names (Nat.lt_succ_self _) 0 0
        rwa [List.drop_zero, UInt32.zero_or] at loop
    unfold sysReadSpeedInto
    simp only [rc, same, known, Option.isNone_none, and_self, if_true, value]
  · rw [seen] at noLine
    cases noLine

end Line

/-- Two entries have no bit in common. -/
theorem speeds_apart {e e' : CStr × UInt32} (listed : e ∈ portSpeedsTable.tail)
    (listed' : e' ∈ portSpeedsTable.tail) : e.2 ≠ 0 ∧ (e ≠ e' → e.2 &&& e'.2 = 0) := by
  have all : portSpeedsTable.tail.all (fun e => portSpeedsTable.tail.all fun e' =>
      e.2 ≠ 0 && (e = e' || e.2 &&& e'.2 = 0)) = true := by
    decide +kernel
  have both := List.all_eq_true.mp (List.all_eq_true.mp all e listed) e' listed'
  simp only [ne_eq, Bool.and_eq_true, Bool.or_eq_true, decide_eq_true_eq] at both
  exact ⟨both.1, both.2.resolve_left⟩

/-- The flags of the entries in order are all flags when no others are listed. -/
theorem orAll_rising_iff {entries : List (CStr × UInt32)}
    (listed : ∀ entry ∈ entries, entry ∈ portSpeedsTable.tail) :
    orAll ((rising speedIndex 0 entries).map Prod.snd) = orAll (entries.map Prod.snd) ↔
      CoveredInOrder entries := by
  have initial : rising speedIndex 0 entries <+: entries := rising_initial 0 entries
  constructor
  · intro same
    obtain ⟨after, split⟩ := initial
    refine ⟨_, after, split.symm, rising_pairwise 0 entries, fun e member => ?_⟩
    have among : e ∈ entries := split ▸ List.mem_append_right _ member
    by_contra missing
    have apart : ∀ w ∈ (rising speedIndex 0 entries).map Prod.snd, e.2 &&& w = 0 := by
      intro w flagged
      obtain ⟨e', inside, rfl⟩ := List.mem_map.mp flagged
      have among' : e' ∈ entries := split ▸ List.mem_append_left _ inside
      exact (speeds_apart (listed e among) (listed e' among')).2 fun same => missing (same ▸ inside)
    have none := and_orAll apart
    rw [same, and_orAll_self (List.mem_map_of_mem among)] at none
    exact (speeds_apart (listed e among) (listed e among)).1 none
  · rintro ⟨before, after, rfl, sorted, covered⟩
    obtain ⟨more, split⟩ : before <+: rising speedIndex 0 (before ++ after) :=
      initial_rising sorted fun e _ => Nat.zero_le (speedIndex e)
    obtain ⟨rest, whole⟩ := initial
    rw [← split, List.append_assoc, List.append_right_inj] at whole
    have flags : ∀ es : List (CStr × UInt32), (∀ e ∈ es, e ∈ before) →
        orAll ((before ++ es).map Prod.snd) = orAll (before.map Prod.snd) := by
      intro es inside
      rw [List.map_append]
      apply orAll_subset
      intro w flagged
      obtain ⟨e, member, rfl⟩ := List.mem_map.mp flagged
      exact List.mem_map_of_mem (inside e member)
    rw [← split, flags more fun e member => covered e (whole ▸ List.mem_append_left _ member),
      flags after covered]

/-- A file whose first line lists entries and fits the line buffer. -/
def SpeedFile (sysfs : Sysfs) (dir file : CStr) (entries : List (CStr × UInt32)) : Prop :=
  ∃ line rest, SpeedLine line entries ∧ line.length < 256 ∧
    sysfs.file (snprintf 256 (joinPath dir file)) = some (line ++ '\n' :: rest)

/-- When a list of speeds is read as a set; the order does not matter between lists for
    which that is so. -/
theorem speedList_set_iff {sysfs : Sysfs} {dir file : CStr} {entries : List (CStr × UInt32)}
    (lists : SpeedFile sysfs dir file entries) (buf : List Char) :
    (ReadsSet entries (sysReadSpeedInto sysfs dir file buf) ↔ CoveredInOrder entries) ∧
      ∀ {sysfs' : Sysfs} {dir' file' : CStr} {entries' : List (CStr × UInt32)} (buf' : List Char),
        SpeedFile sysfs' dir' file' entries' → entries.Perm entries' →
        CoveredInOrder entries → CoveredInOrder entries' →
        (sysReadSpeedInto sysfs' dir' file' buf').1 = (sysReadSpeedInto sysfs dir file buf).1 ∧
          (sysReadSpeedInto sysfs' dir' file' buf').2.1 = (sysReadSpeedInto sysfs dir file buf).2.1 := by
  have exact_iff : ∀ {sysfs : Sysfs} {dir file : CStr} {entries : List (CStr × UInt32)} (buf : List Char),
      SpeedFile sysfs dir file entries →
        (ReadsSet entries (sysReadSpeedInto sysfs dir file buf) ↔ CoveredInOrder entries) := by
    rintro sysfs dir file entries buf ⟨line, rest, list, fits, opened⟩
    obtain ⟨rc, speeds⟩ := list.read fits opened buf
    rw [ReadsSet, rc, speeds, orAll_rising_iff list.listed]
    simp
  refine ⟨exact_iff buf lists, fun buf' lists' perm covered covered' => ?_⟩
  obtain ⟨rc, speeds⟩ := (exact_iff buf lists).mpr covered
  obtain ⟨rc', speeds'⟩ := (exact_iff buf' lists').mpr covered'
  exact ⟨rc'.trans rc.symm, by rw [speeds, speeds', orAll_perm (perm.map Prod.snd)]⟩

theorem speedList_set_small :
    ReadsSet [("1 Gbit", 1), ("2 Gbit", 2), ("1 Gbit", 1)]
      (sysReadSpeedInto (.constant "1 Gbit, 2 gbit,1 GBIT\n".toList) [] [] []) ∧
    (sysReadSpeedInto (.constant "1 Gbit,1 Gbit,2 Gbit\n".toList) [] [] []).2.1 =
      (sysReadSpeedInto (.constant "1 Gbit, 2 gbit,1 GBIT\n".toList) [] [] []).2.1 := by
  have one : ∀ {item : CStr}, item.map Char.toLower = "1 gbit".toList → Names item ("1 Gbit", 1) :=
    fun same => ⟨by decide, same⟩
  have two : ∀ {item : CStr}, item.map Char.toLower = "2 gbit".toList → Names item ("2 Gbit", 2) :=
    fun same => ⟨by decide, same⟩
  have lists : SpeedFile (.constant "1 Gbit, 2 gbit,1 GBIT\n".toList) [] []
      [("1 Gbit", 1), ("2 Gbit", 2), ("1 Gbit", 1)] :=
    ⟨"1 Gbit, 2 gbit,1 GBIT".toList, [], .inr ⟨["1 Gbit".toList, "2 gbit".toList, "1 GBIT".toList],
      .blank _ (.comma _ (.last _)),
      .cons (one (by decide)) (.cons (two (by decide)) (.cons (one (by decide)) .nil))⟩,
      by decide, rfl⟩
  have lists' : SpeedFile (.constant "1 Gbit,1 Gbit,2 Gbit\n".toList) [] []
      [("1 Gbit", 1), ("1 Gbit", 1), ("2 Gbit", 2)] :=
    ⟨"1 Gbit,1 Gbit,2 Gbit".toList, [], .inr ⟨["1 Gbit".toList, "1 Gbit".toList, "2 Gbit".toList],
      .comma _ (.comma _ (.last _)),
      .cons (one (by decide)) (.cons (one (by decide)) (.cons (two (by decide)) .nil))⟩,
      by decide, rfl⟩
  have covered : CoveredInOrder [("1 Gbit", 1), ("2 Gbit", 2), ("1 Gbit", 1)] :=
    ⟨[("1 Gbit", 1), ("2 Gbit", 2)], [("1 Gbit", 1)], rfl, by decide, by decide⟩
  have covered' : CoveredInOrder [("1 Gbit", 1), ("1 Gbit", 1), ("2 Gbit", 2)] :=
    ⟨[("1 Gbit", 1), ("1 Gbit", 1), ("2 Gbit", 2)], [], rfl, by decide, by decide⟩
  have both := speedList_set_iff lists []
  exact ⟨both.1.mpr covered, (both.2 [] lists' (by decide) covered covered').2⟩

/-- The table is not searched again from its start: of `10 Gbit, 1 Gbit` the second name is
    lost, while `1 Gbit, 10 Gbit` is read as it should be. -/
theorem speedList_order_matters :
    SpeedFile (.constant "10 Gbit, 1 Gbit\n".toList) [] [] [("10 Gbit", 4), ("1 Gbit", 1)] ∧
    (sysReadSpeedInto (.constant "10 Gbit, 1 Gbit\n".toList) [] [] []).2.1 = 4 ∧
    ¬ ReadsSet [("10 Gbit", 4), ("1 Gbit", 1)]
      (sysReadSpeedInto (.constant "10 Gbit, 1 Gbit\n".toList) [] [] []) ∧
    (sysReadSpeedInto (.constant "1 Gbit, 10 Gbit\n".toList) [] [] []).2.1 = 5 := by
  have values : (sysReadSpeedInto (.constant "10 Gbit, 1 Gbit\n".toList) [] [] []).2.1 = 4 ∧
      (sysReadSpeedInto (.constant "1 Gbit, 10 Gbit\n".toList) [] [] []).2.1 = 5 := by
    decide +kernel
  refine ⟨⟨"10 Gbit, 1 Gbit".toList, [], .inr ⟨["10 Gbit".toList, "1 Gbit".toList],
    .blank _ (.last _), .cons ⟨by decide, rfl⟩ (.cons ⟨by decide, rfl⟩ .nil)⟩, by decide, rfl⟩,
    values.1, fun reads => ?_, values.2⟩
  have both := reads.2
  rw [values.1] at both
  exact absurd both (by decide)

end Hbalinux
