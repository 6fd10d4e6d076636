import Hbalinux.C.Items
import Hbalinux.Numbers
import Hbalinux.Rport

/-! # Class lists

`sys_read_classes` takes the items of a line one by one: it shifts by whatever
`strtoul` makes of an item and only then looks at what follows the number.  Lines
of the grammar are read as they should be.  Of the others those are rejected that
have an item `strtoul` does not read to its end, after the shifts for the items up
to it.
-/

namespace Hbalinux

/-- What `sys_read_classes` takes a number from. -/
def numberPart (item : CStr) : CStr :=
  if List.isPrefixOf "Class ".toList item then item.drop 6 else item

/-- The loop of `sys_read_classes`: the counts it shifts by, and whether it ends
    without a parse error. -/
def classRounds : (fuel : Nat) → CStr → List UInt32 × Bool
  | 0, _ => ([], false)
  | fuel + 1, cp =>
      if cp = [] then ([], true) else
        let (val, ep) := strtoul 10 (numberPart cp)
        let (shifts, ended) := match ep with
          | [] => ([], true)
          | ',' :: ' ' :: rest => classRounds fuel rest
          | ',' :: rest => classRounds fuel rest
          | _ => ([], false)
        (val.toUInt32 :: shifts, ended)

/-- What a call of `sys_read_classes` returns, stores and shifts by. -/
structure ClassesRead where
  rc : Int
  classp : UInt32
  shifts : List UInt32
  deriving DecidableEq

/-- `sys_read_classes` with the value it stores in either case. -/
def sysReadClassesInto (sysfs : Sysfs) (dir file : CStr) : ClassesRead :=
  match sysLine sysfs dir file with
  | none => ⟨-1, 0, []⟩
  | some line =>
      if (strstr line "unspecified").isSome then ⟨0, 0, []⟩
      else
        let (shifts, ended) := classRounds (line.length + 1) line
        ⟨if ended then 0 else -1, shifts.foldl (fun classes val => classes ||| (1 : UInt32) <<< val) 0, shifts⟩

section Rounds

variable {fuel : Nat} {cp ep rest : CStr} {val : UInt64}

theorem classRounds_last (nonempty : cp ≠ []) (read : strtoul 10 (numberPart cp) = (val, [])) :
    classRounds (fuel + 1) cp = ([val.toUInt32], true) := by
  simp [classRounds, nonempty, read]

theorem classRounds_comma (nonempty : cp ≠ []) (read : strtoul 10 (numberPart cp) = (val, ',' :: rest)) :
    classRounds (fuel + 1) cp = (val.toUInt32 :: (classRounds fuel (skipBlank rest)).1,
      (classRounds fuel (skipBlank rest)).2) := by
  simp only [classRounds, nonempty, if_false, read]
  unfold skipBlank
  split <;> simp_all

theorem classRounds_fail {c : Char} (nonempty : cp ≠ []) (other : c ≠ ',')
    (read : strtoul 10 (numberPart cp) = (val, c :: ep)) :
    classRounds (fuel + 1) cp = ([val.toUInt32], false) := by
  simp only [classRounds, nonempty, if_false, read]
  split <;> simp_all

end Rounds

/-- What a round goes on with. -/
private theorem readClassesFrom_round {fuel : Nat} {cp ep : CStr} {val : UInt64} (nonempty : cp ≠ [])
    (read : strtoul 10 (numberPart cp) = (val, ep)) (classes : UInt32) :
    readClassesFrom (fuel + 1) cp classes =
      match ep with
      | [] => some (classes ||| (1 : UInt32) <<< val.toUInt32)
      | ',' :: rest => readClassesFrom fuel (skipBlank rest) (classes ||| (1 : UInt32) <<< val.toUInt32)
      | _ => none := by
  rw [numberPart] at read
  simp only [readClassesFrom, nonempty, if_false, read]
  clear read nonempty
  unfold skipBlank
  split <;> simp_all

theorem readClassesFrom_eq (fuel : Nat) (cp : CStr) (classes : UInt32) :
    readClassesFrom fuel cp classes = if (classRounds fuel cp).2 then
      some ((classRounds fuel cp).1.foldl (fun classes val => classes ||| (1 : UInt32) <<< val) classes)
    else none := by
  induction fuel generalizing cp classes with
  | zero => rfl
  | succ fuel ih =>
      by_cases nonempty : cp = []
      · simp [readClassesFrom, classRounds, nonempty]
      · obtain ⟨val, ep, read⟩ : ∃ val ep, strtoul 10 (numberPart cp) = (val, ep) := ⟨_, _, rfl⟩
        cases ep with
        | nil => simp [readClassesFrom_round nonempty read, classRounds_last nonempty read]
        | cons c rest =>
            by_cases comma : c = ','
            · subst comma
              simp only [readClassesFrom_round nonempty read, classRounds_comma nonempty read,
                List.foldl_cons, ih]
            · simp [readClassesFrom_round nonempty read, classRounds_fail nonempty comma read, comma]

/-- The reader as the rest of the library uses it. -/
theorem sysReadClasses_eq (sysfs : Sysfs) (dir file : CStr) : sysReadClasses sysfs dir file =
    if (sysReadClassesInto sysfs dir file).rc = 0 then
      some (sysReadClassesInto sysfs dir file).classp else none := by
  unfold sysReadClasses sysReadClassesInto
  cases sysLine sysfs dir file with
  | none => rfl
  | some line =>
      simp only
      split
      · rfl
      · rw [readClassesFrom_eq]
        cases (classRounds (line.length + 1) line).2 <;> rfl

/-- The count an item leads to. -/
def itemShift (item : CStr) : UInt32 := (strtoul 10 (numberPart item)).1.toUInt32

/-- `strtoul` reads an item to its end. -/
def WholeItem (item : CStr) : Prop := (strtoul 10 (numberPart item)).2 = []

instance (item : CStr) : Decidable (WholeItem item) := inferInstanceAs (Decidable (_ = _))

/-- The loop over the items of a line; an empty item at its end is not looked at. -/
def classRun : List CStr → List UInt32 × Bool
  | [] => ([], true)
  | item :: items =>
      if item = [] ∧ items = [] then ([], true)
      else if WholeItem item then (itemShift item :: (classRun items).1, (classRun items).2)
      else ([itemShift item], false)

theorem comma_ends : Ends 10 ',' := ⟨rfl, rfl, by decide⟩

/-- The word is looked for within the item. -/
theorem numberPart_append (item rest : CStr) :
    numberPart (item ++ ',' :: rest) = numberPart item ++ ',' :: rest := by
  have same : List.isPrefixOf "Class ".toList (item ++ ',' :: rest) =
      List.isPrefixOf "Class ".toList item := by
    rw [Bool.eq_iff_iff, List.isPrefixOf_iff_prefix, List.isPrefixOf_iff_prefix]
    exact initial_before (by decide) item rest
  unfold numberPart
  rw [same]
  split
  · rename_i inside
    exact List.drop_append_of_le_length (List.isPrefixOf_iff_prefix.mp inside).length_le
  · rfl

theorem comma_notMem_numberPart {item : CStr} (noComma : ',' ∉ item) : ',' ∉ numberPart item := by
  unfold numberPart
  split
  · exact fun member => noComma (List.mem_of_mem_drop member)
  · exact noComma

/-- What `strtoul` leaves of an item does not begin with a comma. -/
theorem itemRest_head {item ep : CStr} {val : UInt64} (noComma : ',' ∉ item)
    (read : strtoul 10 (numberPart item) = (val, ep)) : ',' ∉ ep := by
  have part := strtoul_rest (numberPart item)
  rw [read] at part
  exact fun member => comma_notMem_numberPart noComma (part.subset member)

/-- The loop does what it should with the items. -/
theorem classRounds_eq {fuel : Nat} {cp : CStr} (enough : cp.length < fuel) :
    classRounds fuel cp = classRun (splitItems cp) := by
  induction fuel generalizing cp with
  | zero => exact absurd enough (Nat.not_lt_zero _)
  | succ fuel ih =>
      by_cases comma : ',' ∈ cp
      · obtain ⟨item, rest, rfl, noComma⟩ := List.eq_append_cons_of_mem comma
        have short := skipBlank_length rest
        rw [List.length_append, List.length_cons] at enough
        have more : classRounds fuel (skipBlank rest) = classRun (splitItems (skipBlank rest)) :=
          ih (by omega)
        rw [splitItems_append noComma, classRun, if_neg (fun empty => splitItems_ne_nil _ empty.2),
          ← more]
        simp only [WholeItem, itemShift]
        obtain ⟨val, ep, read⟩ : ∃ val ep, strtoul 10 (numberPart item) = (val, ep) := ⟨_, _, rfl⟩
        have whole : strtoul 10 (numberPart (item ++ ',' :: rest)) = (val, ep ++ ',' :: rest) := by
          rw [numberPart_append, strtoul_before comma_ends, read]
        cases ep with
        | nil => simp [read, classRounds_comma (by simp) whole]
        | cons c cs =>
            have other := itemRest_head noComma read
            rw [List.mem_cons, not_or] at other
            simp [read, classRounds_fail (by simp) (Ne.symm other.1) whole]
      · rw [splitItems_single comma, classRun, classRun]
        by_cases empty : cp = []
        · simp [classRounds, empty]
        · simp only [empty, false_and, if_false, WholeItem, itemShift]
          obtain ⟨val, ep, read⟩ : ∃ val ep, strtoul 10 (numberPart cp) = (val, ep) := ⟨_, _, rfl⟩
          cases ep with
          | nil => simp [read, classRounds_last empty read]
          | cons c cs =>
              have other := itemRest_head comma read
              rw [List.mem_cons, not_or] at other
              simp [read, classRounds_fail empty (Ne.symm other.1) read]

theorem classRun_accepts (items : List CStr) :
    (classRun items).2 = true ↔ ∀ item ∈ items, WholeItem item := by
  induction items with
  | nil => simp [classRun]
  | cons item items ih =>
      unfold classRun
      split
      · rename_i last
        have whole : WholeItem [] := rfl
        simp [last, whole]
      · split
        · rename_i whole
          simp [ih, whole]
        · rename_i broken
          simp [broken]

theorem classRun_shifts {items : List CStr} (whole : ∀ item ∈ items, WholeItem item)
    (nonempty : [] ∉ items) : (classRun items).1 = items.map itemShift := by
  induction items with
  | nil => rfl
  | cons item items ih =>
      rw [List.mem_cons, not_or] at nonempty
      have first : WholeItem item := whole item (by simp)
      have rest := ih (fun other member => whole other (List.mem_cons_of_mem _ member)) nonempty.2
      have shown : ¬ (item = [] ∧ items = []) := fun last => nonempty.1 last.1.symm
      simp only [classRun, shown, if_false, first, if_true, rest, List.map_cons]

/-- A run without success has shifted for every item up to the one that broke it. -/
theorem classRun_rejects {items : List CStr} (rejected : (classRun items).2 = false) :
    ∃ before item after, items = before ++ item :: after ∧ ¬ WholeItem item ∧
      (classRun items).1 = (before ++ [item]).map itemShift := by
  induction items with
  | nil => cases rejected
  | cons item items ih =>
      unfold classRun at rejected ⊢
      split at rejected
      · cases rejected
      · rename_i shown
        rw [if_neg shown]
        split at rejected
        · rename_i whole
          obtain ⟨before, broken, after, rfl, notWhole, shifts⟩ := ih rejected
          refine ⟨item :: before, broken, after, rfl, notWhole, ?_⟩
          rw [if_pos whole, shifts]
          rfl
        · rename_i broken
          exact ⟨[], item, items, rfl, broken, by rw [if_neg broken]; rfl⟩

/-- And it never gets past such an item. -/
theorem classRun_within {before after : List CStr} {item : CStr} (broken : ¬ WholeItem item) :
    (classRun (before ++ item :: after)).2 = false ∧
      ∀ val ∈ (classRun (before ++ item :: after)).1, ∃ i ∈ before ++ [item], val = itemShift i := by
  constructor
  · rw [Bool.eq_false_iff, ne_eq, classRun_accepts]
    exact fun whole => broken (whole item (by simp))
  · induction before with
    | nil =>
        unfold classRun
        intro val member
        have shown : ¬ (item = [] ∧ after = []) := by
          rintro ⟨rfl, -⟩
          exact broken rfl
        rw [List.nil_append] at member
        simp only [shown, broken, if_false, List.mem_singleton] at member
        exact ⟨item, by simp, member⟩
    | cons first before ih =>
        unfold classRun
        intro val member
        have shown : ¬ (first = [] ∧ before ++ item :: after = []) := by simp
        simp only [List.cons_append, shown, if_false] at member
        split at member
        · rcases List.mem_cons.mp member with here | later
          · exact ⟨first, by simp, here⟩
          · obtain ⟨i, among, same⟩ := ih val later
            exact ⟨i, List.mem_cons_of_mem _ among, same⟩
        · exact ⟨first, by simp, List.mem_singleton.mp member⟩

/-- `["Class "]` and a decimal number below 32. -/
inductive ClassItem : CStr → Nat → Prop where
  | bare {s n} (digits : Digits 10 s n) (small : n < 32) : ClassItem s n
  | named {s n} (digits : Digits 10 s n) (small : n < 32) : ClassItem ("Class ".toList ++ s) n

/-- A line of such items, with the numbers it lists. -/
def ClassLine (line : CStr) (ns : List Nat) : Prop :=
  ∃ items, Joined items line ∧ List.Forall₂ ClassItem items ns

/-- One bit for each number. -/
def classBits (ns : List Nat) : UInt32 := orAll (ns.map fun n => (1 : UInt32) <<< UInt32.ofNat n)

/-- A call accepts the lines of the grammar and no others, stores the numbers they list and
    never shifts too far. -/
def ClassesExact (line : CStr) (read : ClassesRead) : Prop :=
  (read.rc = 0 ↔ ∃ ns, ClassLine line ns) ∧ (∀ ns, ClassLine line ns → read.classp = classBits ns) ∧
    ∀ val ∈ read.shifts, val < 32

/-- An item that is not read to its end comes before every number from 32 on. -/
def RejectedEarly (items : List CStr) : Prop :=
  ∃ before item after, items = before ++ item :: after ∧ ¬ WholeItem item ∧
    ∀ i ∈ before ++ [item], itemShift i < 32

theorem ClassItem.numberPart {item : CStr} {n : Nat} (grammar : ClassItem item n) :
    Digits 10 (numberPart item) n ∧ n < 32 := by
  cases grammar with
  | bare digits small =>
      obtain ⟨c, cs, d, rfl, first⟩ := digits.head
      have other : ¬ List.isPrefixOf "Class ".toList (c :: cs) = true := by
        intro inside
        obtain ⟨rest, same⟩ := List.isPrefixOf_iff_prefix.mp inside
        cases same
        cases first
      rw [Hbalinux.numberPart, if_neg other]
      exact ⟨digits, small⟩
  | @named s n digits small =>
      have inside : List.isPrefixOf "Class ".toList ("Class ".toList ++ s) = true :=
        List.isPrefixOf_iff_prefix.mpr (List.prefix_append _ _)
      rw [Hbalinux.numberPart, if_pos inside]
      exact ⟨digits, small⟩

theorem ClassItem.plain {item : CStr} {n : Nat} (grammar : ClassItem item n) : PlainItem item := by
  have noComma : ∀ {s : CStr}, Digits 10 s n → ',' ∉ s := by
    intro s digits member
    cases digits.all ',' member
  cases grammar with
  | bare digits small =>
      obtain ⟨c, cs, d, rfl, first⟩ := digits.head
      refine ⟨noComma digits, ?_, by simp⟩
      rintro head
      cases head
      cases first
  | named digits small =>
      refine ⟨?_, by simp, by simp⟩
      rw [List.mem_append, not_or]
      exact ⟨by decide, noComma digits⟩

theorem ClassItem.read {item : CStr} {n : Nat} (grammar : ClassItem item n) :
    WholeItem item ∧ itemShift item = UInt32.ofNat n := by
  obtain ⟨digits, small⟩ := grammar.numberPart
  have read := strtoul_digits digits (by omega)
  refine ⟨by rw [WholeItem, read], ?_⟩
  rw [itemShift, read]
  simp

/-- A line of the grammar has one reading. -/
theorem ClassLine.items {line : CStr} {ns : List Nat} (grammar : ClassLine line ns) :
    List.Forall₂ ClassItem (splitItems line) ns := by
  obtain ⟨items, joined, all⟩ := grammar
  rwa [joined.splitItems_eq fun item member => (exists_of_forall₂ all member).choose_spec.2.plain]

/-- It is accepted, with the numbers it lists. -/
theorem ClassLine.run {line : CStr} {ns : List Nat} (grammar : ClassLine line ns) :
    (classRun (splitItems line)).2 = true ∧
      (classRun (splitItems line)).1 = ns.map UInt32.ofNat ∧ ∀ n ∈ ns, n < 32 := by
  have all := grammar.items
  have whole : ∀ item ∈ splitItems line, WholeItem item := fun item member =>
    (exists_of_forall₂ all member).choose_spec.2.read.1
  have nonempty : [] ∉ splitItems line := fun member =>
    (exists_of_forall₂ all member).choose_spec.2.plain.2.2 rfl
  refine ⟨(classRun_accepts _).mpr whole, ?_⟩
  rw [classRun_shifts whole nonempty]
  generalize splitItems line = items at all
  clear whole nonempty grammar
  induction all with
  | nil => simp
  | cons first rest ih =>
      rw [List.map_cons, List.map_cons, first.read.2, ih.1, List.forall_mem_cons]
      exact ⟨rfl, first.numberPart.2, ih.2⟩

/-- When a line is read exactly. -/
theorem sysReadClasses_exact_iff {sysfs : Sysfs} {dir file line : CStr}
    (seen : sysLine sysfs dir file = some line)
    (specified : strstr line "unspecified" = none) :
    ClassesExact line (sysReadClassesInto sysfs dir file) ↔
      (∃ ns, ClassLine line ns) ∨ RejectedEarly (splitItems line) := by
  have result : sysReadClassesInto sysfs dir file =
      ⟨if (classRun (splitItems line)).2 then 0 else -1,
        orAll ((classRun (splitItems line)).1.map fun val => (1 : UInt32) <<< val),
        (classRun (splitItems line)).1⟩ := by
    have rounds : classRounds (line.length + 1) line = classRun (splitItems line) :=
      classRounds_eq (Nat.lt_succ_self _)
    unfold sysReadClassesInto
    simp only [seen, specified, Option.isSome_none, Bool.false_eq_true, if_false, rounds, foldl_or,
      UInt32.zero_or]
  rw [result]
  constructor
  · rintro ⟨accepts, -, small⟩
    by_cases grammar : ∃ ns, ClassLine line ns
    · exact .inl grammar
    · have rejected : (classRun (splitItems line)).2 = false := by
        rw [Bool.eq_false_iff]
        intro accepted
        exact grammar (accepts.mp (if_pos accepted))
      obtain ⟨before, item, after, split, broken, shifts⟩ := classRun_rejects rejected
      refine .inr ⟨before, item, after, split, broken, fun i member => small _ ?_⟩
      simp only [shifts]
      exact List.mem_map_of_mem member
  · rintro (⟨ns, grammar⟩ | ⟨before, item, after, split, broken, small⟩)
    · obtain ⟨accepted, shifts, below⟩ := grammar.run
      refine ⟨by simpa [accepted] using ⟨ns, grammar⟩, fun ns' grammar' => ?_, ?_⟩
      · simp only [grammar'.run.2.1, classBits, List.map_map]
        rfl
      · intro val member
        simp only [shifts] at member
        obtain ⟨n, listed, rfl⟩ := List.mem_map.mp member
        have bound := below n listed
        have kept : (UInt32.ofNat n).toNat = n := UInt32.toNat_ofNat_of_lt' (bound.trans (by decide))
        rw [UInt32.lt_iff_toNat_lt, kept]
        exact bound
    · obtain ⟨rejected, within⟩ := @classRun_within before after item broken
      rw [← split] at rejected within
      have noGrammar : ¬ ∃ ns, ClassLine line ns := by
        rintro ⟨ns, grammar⟩
        rw [grammar.run.1] at rejected
        cases rejected
      refine ⟨by simp [rejected, noGrammar], fun ns grammar => absurd ⟨ns, grammar⟩ noGrammar, ?_⟩
      intro val member
      obtain ⟨i, among, rfl⟩ := within val member
      exact small i among

theorem sysReadClasses_exact_small : ClassesExact "Class 3, 4".toList
    (sysReadClassesInto (.constant "Class 3, 4\n".toList) [] []) := by
  have three : Digits 10 ['3'] 3 := ⟨by decide, [3], rfl, rfl⟩
  have four : Digits 10 ['4'] 4 := ⟨by decide, [4], rfl, rfl⟩
  have grammar : ClassLine "Class 3, 4".toList [3, 4] :=
    ⟨["Class 3".toList, "4".toList], .blank _ (.last _),
      .cons (.named three (by decide)) (.cons (.bare four (by decide)) .nil)⟩
  exact (sysReadClasses_exact_iff (by decide) (by decide)).mpr (.inl ⟨_, grammar⟩)

/-- A comma at the end is accepted, and so is a number that the shift cannot take. -/
theorem sysReadClasses_inexact :
    (sysReadClassesInto (.constant "3,\n".toList) [] [] = ⟨0, 8, [3]⟩ ∧
      ¬ ClassesExact "3,".toList (sysReadClassesInto (.constant "3,\n".toList) [] [])) ∧
    sysReadClassesInto (.constant "40\n".toList) [] [] = ⟨0, 256, [40]⟩ ∧
      ¬ ClassesExact "40".toList (sysReadClassesInto (.constant "40\n".toList) [] []) := by
  have comma : sysReadClassesInto (.constant "3,\n".toList) [] [] = ⟨0, 8, [3]⟩ := by decide
  have large : sysReadClassesInto (.constant "40\n".toList) [] [] = ⟨0, 256, [40]⟩ := by decide
  refine ⟨⟨comma, fun exact => ?_⟩, large, fun exact => ?_⟩
  · rw [comma] at exact
    obtain ⟨ns, grammar⟩ := exact.1.mp rfl
    obtain ⟨n, -, empty⟩ := exists_of_forall₂ grammar.items (a := []) (by decide)
    exact empty.plain.2.2 rfl
  · rw [large] at exact
    exact absurd (exact.2.2 40 (by simp)) (by decide)

end Hbalinux
