import Mathlib.Data.List.Lex
import Mathlib.Data.List.MinMax
import Mathlib.Data.Prod.Lex
import Mathlib.Order.OrderDual

/-! # Designation descriptors

The records of a device identification page and the order in which they are
preferred: the higher type, then the shorter designator, then the smaller bytes.
Of equally good records the first is taken.
-/

namespace Hbalinux

section Argmin

variable {α β : Type} [LinearOrder β] {f : α → β}

/-- The first least element has greater ones in front and none that is less behind. -/
theorem argmin_split {as : List α} {a : α} (least : as.argmin f = some a) :
    ∃ before after, as = before ++ a :: after ∧ (∀ b ∈ before, f a < f b) ∧
      ∀ b ∈ after, f a ≤ f b := by
  induction as generalizing a with
  | nil => cases least
  | cons first as ih =>
      rw [List.argmin_cons] at least
      cases rest : as.argmin f with
      | none =>
          rw [rest] at least
          cases least
          obtain rfl := List.argmin_eq_none.mp rest
          exact ⟨[], [], rfl, by simp, by simp⟩
      | some c =>
          rw [rest] at least
          obtain ⟨before, after, split, greater, notLess⟩ := ih rest
          simp only at least
          split at least
          · rename_i less
            cases least
            refine ⟨first :: before, after, by rw [split, List.cons_append], ?_, notLess⟩
            simpa using ⟨less, greater⟩
          · rename_i notLess'
            cases least
            rw [not_lt] at notLess'
            refine ⟨[], as, rfl, by simp, fun b member => ?_⟩
            exact notLess'.trans (List.le_of_mem_argmin member rest)

/-- The least value does not depend on the order. -/
theorem argmin_perm {as bs : List α} (perm : as.Perm bs) {a b : α} (first : as.argmin f = some a)
    (second : bs.argmin f = some b) : f a = f b :=
  le_antisymm
    (List.le_of_mem_argmin (perm.mem_iff.mpr (List.argmin_mem second)) first)
    (List.le_of_mem_argmin (perm.mem_iff.mp (List.argmin_mem first)) second)

end Argmin

/-- A designation descriptor. -/
structure Designation where
  protoCode : UInt8
  typeFlags : UInt8
  resvd : UInt8
  designator : List UInt8
  short : designator.length < 256

namespace Designation

/-- The record of a descriptor. -/
def bytes (d : Designation) : List UInt8 :=
  d.protoCode :: d.typeFlags :: d.resvd :: UInt8.ofNat d.designator.length :: d.designator

def type (d : Designation) : Nat := (d.typeFlags &&& 0xf).toNat

/-- A designator of the logical unit: its type is at most NAA. -/
abbrev Acceptable (d : Designation) : Prop := d.type ≤ 3

/-- What `d` is compared by; the less, the better. -/
def key (d : Designation) : Lex (ℕᵒᵈ × Lex (ℕ × List ℕ)) :=
  toLex (OrderDual.toDual d.type, toLex (d.designator.length, d.designator.map UInt8.toNat))

/-- `d` is better than `e`. -/
def Better (d e : Designation) : Prop :=
  e.type < d.type ∨ e.type = d.type ∧ (d.designator.length < e.designator.length ∨
    d.designator.length = e.designator.length ∧
      d.designator.map UInt8.toNat < e.designator.map UInt8.toNat)

instance decidableBetter (d e : Designation) : Decidable (d.Better e) :=
  inferInstanceAs (Decidable (e.type < d.type ∨ e.type = d.type ∧ (_ ∨ _ ∧ _)))

theorem key_lt_key (d e : Designation) : d.key < e.key ↔ d.Better e := by
  unfold key Better
  rw [Prod.Lex.toLex_lt_toLex, Prod.Lex.toLex_lt_toLex]
  simp [eq_comm]

theorem key_eq {d e : Designation} (same : d.key = e.key) :
    d.type = e.type ∧ d.designator = e.designator := by
  simp only [key, EmbeddingLike.apply_eq_iff_eq, Prod.mk.injEq] at same
  exact ⟨same.1, List.map_injective_iff.mpr (fun _ _ => UInt8.toNat_inj.mp) same.2.2⟩

theorem bytes_length (d : Designation) : d.bytes.length = d.designator.length + 4 := rfl

end Designation

/-- The descriptor at the start of the data, unless fewer than 5 bytes are left or it does not
    fit in. -/
def takeDesignation : List UInt8 → Option (Designation × List UInt8)
  | protoCode :: typeFlags :: resvd :: len :: rest =>
      if h : rest ≠ [] ∧ len.toNat ≤ rest.length then
        some (⟨protoCode, typeFlags, resvd, rest.take len.toNat, by
          have bound := len.toNat_lt
          rw [List.length_take]
          omega⟩, rest.drop len.toNat)
      else none
  | _ => none

theorem takeDesignation_eq_some {data rest : List UInt8} {d : Designation} :
    takeDesignation data = some (d, rest) ↔
      data = d.bytes ++ rest ∧ (d.designator ≠ [] ∨ rest ≠ []) := by
  constructor
  · intro taken
    unfold takeDesignation at taken
    split at taken
    · rename_i protoCode typeFlags resvd len text
      split at taken
      · rename_i fits
        simp only [Option.some.injEq, Prod.mk.injEq] at taken
        obtain ⟨rfl, rfl⟩ := taken
        have length : UInt8.ofNat (text.take len.toNat).length = len := by
          rw [List.length_take, Nat.min_eq_left fits.2, UInt8.ofNat_toNat]
        refine ⟨by rw [Designation.bytes, length]; simp, ?_⟩
        by_contra none
        rw [not_or, not_not, not_not] at none
        have whole := List.take_append_drop len.toNat text
        simp only at none
        rw [none.1, none.2] at whole
        exact fits.1 whole.symm
      · cases taken
    · cases taken
  · rintro ⟨rfl, some_left⟩
    have length : (UInt8.ofNat d.designator.length).toNat = d.designator.length := by
      rw [UInt8.toNat_ofNat']
      exact Nat.mod_eq_of_lt d.short
    have fits : d.designator ++ rest ≠ [] ∧
        (UInt8.ofNat d.designator.length).toNat ≤ (d.designator ++ rest).length := by
      refine ⟨?_, by rw [length, List.length_append]; omega⟩
      rcases some_left with here | behind
      · exact List.append_ne_nil_of_left_ne_nil here rest
      · exact List.append_ne_nil_of_right_ne_nil _ behind
    simp only [Designation.bytes, List.cons_append, takeDesignation, dif_pos fits]
    simp only [length, List.take_left', List.drop_left']

theorem takeDesignation_eq_none {data : List UInt8} :
    takeDesignation data = none ↔
      data.length < 5 ∨ ∃ len, data[3]? = some len ∧ data.length < len.toNat + 4 := by
  unfold takeDesignation
  split
  · rename_i protoCode typeFlags resvd len rest
    have size : (protoCode :: typeFlags :: resvd :: len :: rest).length = rest.length + 4 := rfl
    rw [size]
    split
    · rename_i fits
      have some_left := List.length_pos_of_ne_nil fits.1
      simp only [reduceCtorEq, false_iff, not_or, not_exists, not_and]
      refine ⟨by omega, fun len' here => ?_⟩
      cases here
      omega
    · rename_i unfit
      simp only [true_iff]
      rw [not_and_or, not_not, Nat.not_le] at unfit
      rcases unfit with rfl | long
      · exact .inl (by simp)
      · exact .inr ⟨len, rfl, by omega⟩
  · rename_i other
    simp only [true_iff]
    left
    match data, other with
    | [], _ | [_], _ | [_, _], _ | [_, _, _], _ => simp
    | a :: b :: c :: d :: rest, other => exact absurd rfl (other a b c d rest)

/-- The descriptors a walk looks at: one behind the other, up to the first that does not
    fit. -/
def designations (data : List UInt8) : List Designation :=
  match _taken : takeDesignation data with
  | none => []
  | some (d, rest) => d :: designations rest
termination_by data.length
decreasing_by
  rw [(takeDesignation_eq_some.mp _taken).1, List.length_append, Designation.bytes_length]
  omega

theorem designations_of_none {data : List UInt8} (none : takeDesignation data = none) :
    designations data = [] := by
  rw [designations]
  split
  · rfl
  · rename_i some
    rw [none] at some
    cases some

theorem designations_of_some {data rest : List UInt8} {d : Designation}
    (taken : takeDesignation data = some (d, rest)) : designations data = d :: designations rest := by
  rw [designations]
  split
  · rename_i none
    rw [taken] at none
    cases none
  · rename_i d' rest' taken'
    rw [taken] at taken'
    cases taken'
    rfl

/-- Every descriptor lies inside the data. -/
theorem designations_inside {data : List UInt8} {d : Designation} (found : d ∈ designations data) :
    d.bytes <:+: data := by
  induction size : data.length using Nat.strong_induction_on generalizing data with
  | _ n ih =>
      cases taken : takeDesignation data with
      | none =>
          rw [designations_of_none taken] at found
          cases found
      | some pair =>
          obtain ⟨first, rest⟩ := pair
          rw [designations_of_some taken] at found
          obtain ⟨rfl, -⟩ := takeDesignation_eq_some.mp taken
          rcases List.mem_cons.mp found with rfl | later
          · exact (List.prefix_append _ _).isInfix
          · have shorter : rest.length < n := by
              rw [← size, List.length_append, first.bytes_length]
              omega
            exact (ih rest.length shorter later rfl).trans (List.suffix_append _ _).isInfix

/-- Descriptors that are not empty are found as they were put. -/
theorem designations_flatMap {ds : List Designation} (nonempty : ∀ d ∈ ds, d.designator ≠ []) :
    designations (ds.flatMap Designation.bytes) = ds := by
  induction ds with
  | nil => exact designations_of_none rfl
  | cons d ds ih =>
      have taken : takeDesignation ((d :: ds).flatMap Designation.bytes) =
          some (d, ds.flatMap Designation.bytes) :=
        takeDesignation_eq_some.mpr ⟨List.flatMap_cons, .inl (nonempty d (by simp))⟩
      rw [designations_of_some taken, ih fun e member => nonempty e (List.mem_cons_of_mem _ member)]

/-- The descriptor list of a response that is a device identification page. -/
def identificationPage : List UInt8 → Option (List UInt8)
  | _ :: pageCode :: high :: low :: data =>
      if pageCode = 0x83 then some (data.take (high.toNat * 256 + low.toNat)) else none
  | _ => none

theorem identificationPage_length {response page : List UInt8}
    (carried : identificationPage response = some page) : 4 + page.length ≤ response.length := by
  unfold identificationPage at carried
  split at carried
  · split at carried
    · cases carried
      simp only [List.length_take, List.length_cons]
      omega
    · cases carried
  · cases carried

/-- The descriptors of a response. -/
def responseDesignations (response : List UInt8) : List Designation :=
  match identificationPage response with
  | none => []
  | some page => designations page

/-- A response that lists the descriptors completely. -/
def Lists (response : List UInt8) (ds : List Designation) : Prop :=
  ∃ periph high low rest, high.toNat * 256 + low.toNat = (ds.flatMap Designation.bytes).length ∧
    response = periph :: 0x83 :: high :: low :: (ds.flatMap Designation.bytes ++ rest)

theorem responseDesignations_of_lists {response : List UInt8} {ds : List Designation}
    (lists : Lists response ds) (nonempty : ∀ d ∈ ds, d.designator ≠ []) :
    responseDesignations response = ds := by
  obtain ⟨periph, high, low, rest, length, rfl⟩ := lists
  have page : identificationPage (periph :: 0x83 :: high :: low ::
      (ds.flatMap Designation.bytes ++ rest)) = some (ds.flatMap Designation.bytes) := by
    rw [identificationPage, if_pos rfl, List.take_left' length.symm]
  rw [responseDesignations, page]
  exact designations_flatMap nonempty

/-- The better one of a descriptor and those before it. -/
def prefer (d : Designation) : Option Designation → Designation
  | none => d
  | some best => if d.key < best.key then d else best

/-- The descriptor that is preferred among some. -/
def preferred (ds : List Designation) : Option Designation :=
  (ds.filter fun d => d.Acceptable).argmin Designation.key

theorem mem_of_preferred {ds : List Designation} {d : Designation} (best : preferred ds = some d) :
    d ∈ ds ∧ d.Acceptable := by
  simpa using List.argmin_mem best

/-- Something is preferred among descriptors of which one is acceptable. -/
theorem preferred_isSome {ds : List Designation} (some_acceptable : ∃ d ∈ ds, d.Acceptable) :
    ∃ d, preferred ds = some d := by
  obtain ⟨d, member, acceptable⟩ := some_acceptable
  cases best : preferred ds with
  | some d => exact ⟨d, rfl⟩
  | none =>
      have filtered : ds.filter (fun d => d.Acceptable) = [] := List.argmin_eq_none.mp best
      rw [List.filter_eq_nil_iff] at filtered
      exact absurd (decide_eq_true acceptable) (filtered d member)

theorem preferred_concat (ds : List Designation) (d : Designation) :
    preferred (ds ++ [d]) =
      if d.Acceptable then some (prefer d (preferred ds)) else preferred ds := by
  unfold preferred
  rw [List.filter_append]
  split
  · rename_i acceptable
    rw [List.filter_cons_of_pos (by simpa using acceptable), List.filter_nil, List.argmin_concat]
    cases (ds.filter fun d => d.Acceptable).argmin Designation.key with
    | none => rfl
    | some best => exact (apply_ite some _ _ _).symm
  · rename_i unacceptable
    rw [List.filter_cons_of_neg (by simpa using unacceptable), List.filter_nil, List.append_nil]

end Hbalinux
