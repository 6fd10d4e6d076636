import Mathlib.Data.List.Forall2
import Mathlib.Data.List.Perm.Basic
import Mathlib.Data.List.Sort
import Hbalinux.C.Text

/-! # Lists of items in a line

Items are joined by commas, each perhaps with a blank behind it.  Such a list is
often read as a set of flags: `orAll` combines the flags of its items.  A reader that
looks its items up without going back gets as far as they are in order, `rising`; one that
files them by different keys gets them in the same order, `inOrder`, however they came.
-/

namespace Hbalinux

/-- Items joined by `,` or `, `. -/
inductive Joined : List CStr → CStr → Prop where
  | last (item) : Joined [item] item
  | comma (item) {items rest} (more : Joined items rest) : Joined (item :: items) (item ++ ',' :: rest)
  | blank (item) {items rest} (more : Joined items rest) :
      Joined (item :: items) (item ++ ',' :: ' ' :: rest)

/-- One blank may stand behind a comma. -/
def skipBlank : CStr → CStr
  | ' ' :: cs => cs
  | cs => cs

/-- A character more in the first item. -/
def consItem (c : Char) : List CStr → List CStr
  | [] => [[c]]
  | item :: items => (c :: item) :: items

/-- The items of a line. -/
def splitItems : CStr → List CStr
  | [] => [[]]
  | ',' :: ' ' :: cs => [] :: splitItems cs
  | ',' :: cs => [] :: splitItems cs
  | c :: cs => consItem c (splitItems cs)

theorem skipBlank_length (cs : CStr) : (skipBlank cs).length ≤ cs.length := by
  unfold skipBlank
  split <;> simp

theorem skipBlank_eq {cs : CStr} (head : cs.head? ≠ some ' ') : skipBlank cs = cs := by
  unfold skipBlank
  split
  · exact absurd rfl head
  · rfl

theorem splitItems_comma (cs : CStr) : splitItems (',' :: cs) = [] :: splitItems (skipBlank cs) := by
  unfold skipBlank
  split
  · simp [splitItems]
  · rename_i other
    exact splitItems.eq_3 cs other

theorem splitItems_cons {c : Char} (other : c ≠ ',') (cs : CStr) :
    splitItems (c :: cs) = consItem c (splitItems cs) := by
  apply splitItems.eq_4
  · rintro _ rfl -
    exact other rfl
  · rintro rfl
    exact other rfl

theorem splitItems_single {item : CStr} (noComma : ',' ∉ item) : splitItems item = [item] := by
  induction item with
  | nil => rfl
  | cons c cs ih =>
      rw [List.mem_cons, not_or] at noComma
      rw [splitItems_cons (Ne.symm noComma.1), ih noComma.2, consItem]

/-- The first item ends at the first comma. -/
theorem splitItems_append {item : CStr} (noComma : ',' ∉ item) (rest : CStr) :
    splitItems (item ++ ',' :: rest) = item :: splitItems (skipBlank rest) := by
  induction item with
  | nil => exact splitItems_comma rest
  | cons c cs ih =>
      rw [List.mem_cons, not_or] at noComma
      rw [List.cons_append, splitItems_cons (Ne.symm noComma.1), ih noComma.2, consItem]

theorem splitItems_ne_nil (s : CStr) : splitItems s ≠ [] := by
  by_cases comma : ',' ∈ s
  · obtain ⟨item, rest, rfl, noComma⟩ := List.eq_append_cons_of_mem comma
    rw [splitItems_append noComma]
    exact List.cons_ne_nil _ _
  · rw [splitItems_single comma]
    exact List.cons_ne_nil _ _

/-- An item that a line shows as it is. -/
def PlainItem (item : CStr) : Prop := ',' ∉ item ∧ item.head? ≠ some ' ' ∧ item ≠ []

theorem Joined.head {items : List CStr} {s : CStr} (joined : Joined items s)
    (plain : ∀ item ∈ items, PlainItem item) : s.head? ≠ some ' ' := by
  cases joined with
  | last => exact (plain s (by simp)).2.1
  | comma item more =>
      obtain ⟨-, head, nonempty⟩ := plain item (by simp)
      rwa [List.head?_append_of_ne_nil _ nonempty]
  | blank item more =>
      obtain ⟨-, head, nonempty⟩ := plain item (by simp)
      rwa [List.head?_append_of_ne_nil _ nonempty]

/-- The items of a line are those it was made of. -/
theorem Joined.splitItems_eq {items : List CStr} {s : CStr} (joined : Joined items s)
    (plain : ∀ item ∈ items, PlainItem item) : splitItems s = items := by
  induction joined with
  | last item => exact splitItems_single (plain item (by simp)).1
  | @comma item items rest more ih =>
      have others : ∀ other ∈ items, PlainItem other := fun other member =>
        plain other (List.mem_cons_of_mem _ member)
      rw [splitItems_append (plain item (by simp)).1, skipBlank_eq (more.head others), ih others]
  | @blank item items rest more ih =>
      have others : ∀ other ∈ items, PlainItem other := fun other member =>
        plain other (List.mem_cons_of_mem _ member)
      rw [splitItems_append (plain item (by simp)).1, skipBlank, ih others]

theorem Joined.mem {items : List CStr} {s : CStr} (joined : Joined items s) {c : Char}
    (member : c ∈ s) : c = ',' ∨ c = ' ' ∨ ∃ item ∈ items, c ∈ item := by
  induction joined with
  | last item => exact .inr (.inr ⟨item, by simp, member⟩)
  | comma item more ih =>
      simp only [List.mem_append, List.mem_cons] at member
      rcases member with inside | comma | later
      · exact .inr (.inr ⟨item, by simp, inside⟩)
      · exact .inl comma
      · rcases ih later with comma | blank | ⟨other, among, inside⟩
        · exact .inl comma
        · exact .inr (.inl blank)
        · exact .inr (.inr ⟨other, List.mem_cons_of_mem _ among, inside⟩)
  | blank item more ih =>
      simp only [List.mem_append, List.mem_cons] at member
      rcases member with inside | comma | blank | later
      · exact .inr (.inr ⟨item, by simp, inside⟩)
      · exact .inl comma
      · exact .inr (.inl blank)
      · rcases ih later with comma | blank | ⟨other, among, inside⟩
        · exact .inl comma
        · exact .inr (.inl blank)
        · exact .inr (.inr ⟨other, List.mem_cons_of_mem _ among, inside⟩)

theorem Joined.ends {items : List CStr} {s : CStr} (joined : Joined items s) :
    ∃ item ∈ items, item <:+ s := by
  induction joined with
  | last item => exact ⟨item, by simp, List.suffix_refl _⟩
  | comma item more ih =>
      obtain ⟨last, member, ends⟩ := ih
      exact ⟨last, List.mem_cons_of_mem _ member, (ends.trans (List.suffix_cons ..)).trans
        (List.suffix_append ..)⟩
  | blank item more ih =>
      obtain ⟨last, member, ends⟩ := ih
      exact ⟨last, List.mem_cons_of_mem _ member, ((ends.trans (List.suffix_cons ..)).trans
        (List.suffix_cons ..)).trans (List.suffix_append ..)⟩

theorem exists_of_forall₂ {α β : Type} {R : α → β → Prop} {as : List α} {bs : List β}
    (all : List.Forall₂ R as bs) {a : α} (member : a ∈ as) : ∃ b ∈ bs, R a b := by
  induction all with
  | nil => cases member
  | cons first rest ih =>
      rcases List.mem_cons.mp member with rfl | later
      · exact ⟨_, List.mem_cons_self .., first⟩
      · obtain ⟨b, there, related⟩ := ih later
        exact ⟨b, List.mem_cons_of_mem _ there, related⟩

theorem map_eq_of_forall₂ {α β γ : Type} {R : α → β → Prop} {f : α → γ} {g : β → γ} {as : List α}
    {bs : List β} (all : List.Forall₂ R as bs) (same : ∀ a b, R a b → g b = f a) :
    bs.map g = as.map f := by
  induction all with
  | nil => rfl
  | cons first _ ih => rw [List.map_cons, List.map_cons, same _ _ first, ih]

theorem map_some_filterMap {α β : Type} {f : α → Option β} {as : List α}
    (defined : ∀ a ∈ as, ∃ b, f a = some b) : (as.filterMap f).map some = as.map f := by
  induction as with
  | nil => rfl
  | cons a as ih =>
      rw [List.forall_mem_cons] at defined
      obtain ⟨b, value⟩ := defined.1
      rw [List.filterMap_cons_some value, List.map_cons, List.map_cons, ih defined.2, value]

/-- The bitwise OR of a list. -/
def orAll (vs : List UInt32) : UInt32 := vs.foldr (· ||| ·) 0

@[simp] theorem orAll_nil : orAll [] = 0 := rfl

@[simp] theorem orAll_cons (v : UInt32) (vs : List UInt32) : orAll (v :: vs) = v ||| orAll vs := rfl

theorem orAll_append (vs ws : List UInt32) : orAll (vs ++ ws) = orAll vs ||| orAll ws := by
  induction vs with
  | nil => simp
  | cons v vs ih => rw [List.cons_append, orAll_cons, orAll_cons, ih, UInt32.or_assoc]

/-- The order does not matter. -/
theorem orAll_perm {vs ws : List UInt32} (perm : vs.Perm ws) : orAll vs = orAll ws :=
  perm.foldr_op_eq

theorem foldl_or {α : Type} (f : α → UInt32) (as : List α) (start : UInt32) :
    as.foldl (fun flags a => flags ||| f a) start = start ||| orAll (as.map f) := by
  induction as generalizing start with
  | nil => simp
  | cons a as ih => rw [List.foldl_cons, ih, List.map_cons, orAll_cons, UInt32.or_assoc]

theorem orAll_mem {v : UInt32} {vs : List UInt32} (member : v ∈ vs) : v ||| orAll vs = orAll vs := by
  induction vs with
  | nil => cases member
  | cons w vs ih =>
      rcases List.mem_cons.mp member with rfl | later
      · rw [orAll_cons, ← UInt32.or_assoc, UInt32.or_self]
      · rw [orAll_cons, ← UInt32.or_assoc, UInt32.or_comm v, UInt32.or_assoc, ih later]

/-- Nor do repetitions. -/
theorem orAll_subset {vs ws : List UInt32} (subset : ∀ w ∈ ws, w ∈ vs) :
    orAll (vs ++ ws) = orAll vs := by
  rw [orAll_append, UInt32.or_comm]
  induction ws with
  | nil => simp
  | cons w ws ih =>
      rw [orAll_cons, UInt32.or_assoc, ih fun v member => subset v (List.mem_cons_of_mem _ member)]
      exact orAll_mem (subset w (by simp))

theorem le_orAll {v : UInt32} {vs : List UInt32} (member : v ∈ vs) : v ≤ orAll vs := by
  rw [← orAll_mem member, UInt32.le_iff_toNat_le, UInt32.toNat_or]
  exact Nat.left_le_or

/-- A flag that shares no bit with others is not among them. -/
theorem and_orAll {v : UInt32} {vs : List UInt32} (apart : ∀ w ∈ vs, v &&& w = 0) :
    v &&& orAll vs = 0 := by
  induction vs with
  | nil => simp
  | cons w vs ih =>
      have rest := ih fun u member => apart u (List.mem_cons_of_mem _ member)
      have first := apart w (by simp)
      apply UInt32.toBitVec_inj.mp
      have firstBits := congrArg UInt32.toBitVec first
      have restBits := congrArg UInt32.toBitVec rest
      simp only [orAll_cons, UInt32.toBitVec_and, UInt32.toBitVec_or] at firstBits restBits ⊢
      rw [BitVec.and_or_distrib_left, firstBits, restBits]
      rfl

theorem and_orAll_self {v : UInt32} {vs : List UInt32} (member : v ∈ vs) : v &&& orAll vs = v := by
  rw [← orAll_mem member]
  apply UInt32.toBitVec_inj.mp
  apply BitVec.eq_of_getLsbD_eq
  intro i _
  simp only [UInt32.toBitVec_and, UInt32.toBitVec_or, BitVec.getLsbD_and, BitVec.getLsbD_or]
  cases v.toBitVec.getLsbD i <;> rfl

/-- The longest initial part of a list whose keys never fall, from `least` on. -/
def rising {α : Type} (key : α → Nat) : (least : Nat) → List α → List α
  | _, [] => []
  | least, a :: as => if least ≤ key a then a :: rising key (key a) as else []

section Rising

variable {α : Type} {key : α → Nat}

theorem rising_initial (least : Nat) (as : List α) : rising key least as <+: as := by
  induction as generalizing least with
  | nil => exact List.prefix_refl _
  | cons a as ih =>
      rw [rising]
      split
      · exact List.prefix_cons_inj a |>.mpr (ih (key a))
      · exact List.nil_prefix

theorem le_of_mem_rising {least : Nat} {as : List α} {a : α} (member : a ∈ rising key least as) :
    least ≤ key a := by
  induction as generalizing least with
  | nil => cases member
  | cons b bs ih =>
      rw [rising] at member
      split at member
      · rename_i above
        rcases List.mem_cons.mp member with rfl | later
        · exact above
        · exact above.trans (ih later)
      · cases member

theorem rising_pairwise (least : Nat) (as : List α) :
    (rising key least as).Pairwise fun a b => key a ≤ key b := by
  induction as generalizing least with
  | nil => exact .nil
  | cons a as ih =>
      rw [rising]
      split
      · exact .cons (fun b member => le_of_mem_rising member) (ih (key a))
      · exact .nil

/-- No longer initial part has keys in order. -/
theorem initial_rising {least : Nat} {before after : List α}
    (sorted : before.Pairwise fun a b => key a ≤ key b) (above : ∀ a ∈ before, least ≤ key a) :
    before <+: rising key least (before ++ after) := by
  induction before generalizing least with
  | nil => exact List.nil_prefix
  | cons a before ih =>
      rw [List.pairwise_cons] at sorted
      rw [List.cons_append, rising, if_pos (above a (by simp))]
      exact List.prefix_cons_inj a |>.mpr (ih sorted.2 sorted.1)

end Rising

/-- A list in the order of its keys. -/
def inOrder {α : Type} (key : α → Nat) (as : List α) : List α :=
  as.insertionSort fun a b => key a ≤ key b

section Order

variable {α : Type} {key : α → Nat} {as bs : List α}

theorem inOrder_perm (key : α → Nat) (as : List α) : (inOrder key as).Perm as :=
  List.perm_insertionSort _ as

theorem inOrder_pairwise (key : α → Nat) (as : List α) :
    (inOrder key as).Pairwise fun a b => key a ≤ key b := by
  have total : Std.Total fun a b : α => key a ≤ key b := ⟨fun a b => Nat.le_total _ _⟩
  have trans : IsTrans α fun a b => key a ≤ key b := ⟨fun _ _ _ => Nat.le_trans⟩
  exact List.pairwise_insertionSort _ as

/-- With different keys there is one order. -/
theorem eq_inOrder (distinct : (as.map key).Nodup) (perm : bs.Perm as)
    (sorted : bs.Pairwise fun a b => key a ≤ key b) : bs = inOrder key as := by
  refine List.Perm.eq_of_pairwise (fun a b here there le ge => ?_) sorted (inOrder_pairwise key as)
    (perm.trans (inOrder_perm key as).symm)
  exact List.inj_on_of_nodup_map distinct (perm.mem_iff.mp here) ((inOrder_perm key as).mem_iff.mp there)
    (Nat.le_antisymm le ge)

theorem inOrder_congr (distinct : (as.map key).Nodup) (perm : bs.Perm as) :
    inOrder key bs = inOrder key as :=
  eq_inOrder distinct ((inOrder_perm key bs).trans perm) (inOrder_pairwise key bs)

end Order

end Hbalinux
