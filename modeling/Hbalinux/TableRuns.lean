import Hbalinux.TableSpec

/-! # Runs of table operations

Inserts, appends and destroys in any order, each with its own `realloc` outcome.
Along a run the representation invariant and the all-or-nothing contract of an
insert hold exactly as long as no index with its sign bit set gets past the
allocation check: `saTableGrow` has then already moved `stLimit` when the caller
reads the index, converted to `int`, as a failure.
-/

namespace Hbalinux

variable {α : Type}

inductive TableOp (α : Type) where
  | insert (index : UInt32) (ep : Option α) (mem : Bool)
  | append (ep : Option α) (mem : Bool)
  | destroy

namespace TableOp

def apply (tp : SaTable α) : TableOp α → Outcome (Int × SaTable α)
  | .insert index ep mem => saTableInsert tp index ep mem
  | .append ep mem => saTableAppend tp ep mem
  | .destroy => .ok (0, saTableDestroy tp)

/-- What an insert promises: the index back and one entry changed, or `-1` and
    nothing changed. -/
def Insertion (tp : SaTable α) (index : UInt32) (ep : Option α) (rc : Int) (tp' : SaTable α) :
    Prop :=
  (0 ≤ rc ∧ rc = index.toNat ∧ saTableLookup tp' index = .ok ep ∧
    ∀ other ≠ index, saTableLookup tp' other = saTableLookup tp other) ∨
  (rc = -1 ∧ tp' = tp)

def Contract (tp : SaTable α) : TableOp α → Int → SaTable α → Prop
  | .insert index ep _, rc, tp' => Insertion tp index ep rc tp'
  | .append ep _, rc, tp' => Insertion tp tp.stLimit ep rc tp'
  | .destroy, _, _ => True

/-- Every operation of the run returns, leaves a well-formed table and keeps its
    contract. -/
def RunCorrect : SaTable α → List (TableOp α) → Prop
  | _, [] => True
  | tp, op :: ops => ∃ rc tp', op.apply tp = .ok (rc, tp') ∧ tp'.Wf ∧ op.Contract tp rc tp' ∧
      RunCorrect tp' ops

/-- The index is positive as an `int`, or the allocation fails before anything is
    changed. -/
def SafeIndex (tp : SaTable α) (index : UInt32) (mem : Bool) : Prop :=
  index.toNat < 2 ^ 31 ∨
    (tp.stSize ≤ index ∧ mem = false ∧ ¬ (index + saTableGrowth = 0 ∧ tp.stTable ≠ []))

def Safe (tp : SaTable α) : TableOp α → Prop
  | .insert index _ mem => SafeIndex tp index mem
  | .append _ mem => SafeIndex tp tp.stLimit mem
  | .destroy => True

/-- Every operation of the run is safe in the state it starts from. -/
def RunSafe : SaTable α → List (TableOp α) → Prop
  | _, [] => True
  | tp, op :: ops => op.Safe tp ∧ ∀ rc tp', op.apply tp = .ok (rc, tp') → RunSafe tp' ops

end TableOp

open TableOp

/-- The states of a correct run: a table that was ever grown has at least the
    growth step of slots. -/
structure SaTable.Reached (tp : SaTable α) : Prop where
  wf : tp.Wf
  grown : tp.stSize = 0 ∨ 16 ≤ tp.stSize.toNat

theorem SaTable.Reached.init : (saTableInit : SaTable α).Reached := ⟨SaTable.wf_init, .inl rfl⟩

theorem SaTable.Reached.put {tp : SaTable α} (reached : tp.Reached) {index : UInt32}
    (small : index.toNat < 2 ^ 31) (ep : Option α) : (tp.put index ep).Reached := by
  refine ⟨SaTable.wf_put reached.wf small ep, ?_⟩
  rw [SaTable.put]
  split
  · split
    · right
      simp only [SaTable.toNat_growth small]
      omega
    · exact reached.grown
  · exact reached.grown

/-- A failed allocation leaves the table alone whatever the index. -/
theorem insert_of_no_memory {tp : SaTable α} (wf : tp.Wf) {index : UInt32} (ep : Option α)
    (outside : tp.stSize ≤ index) (kept : ¬ (index + saTableGrowth = 0 ∧ tp.stTable ≠ [])) :
    saTableInsert tp index ep false = .ok (-1, tp) := by
  have past : tp.stLimit ≤ index := UInt32.le_trans wf.limit outside
  simp only [saTableInsert, if_pos past, saTableGrow, if_pos outside, if_true, if_neg kept,
    Outcome.ok_bind]
  rfl

theorem insertion_put {tp : SaTable α} (wf : tp.Wf) {index : UInt32}
    (small : index.toNat < 2 ^ 31) (ep : Option α) :
    Insertion tp index ep index.toNat (tp.put index ep) := by
  refine .inl ⟨by omega, rfl, ?_, ?_⟩
  · rw [SaTable.lookup_eq_view (SaTable.wf_put wf small ep), SaTable.view_put wf small ep,
      Function.update_self]
  · intro other different
    have apart : other.toNat ≠ index.toNat := fun same => different (UInt32.toNat_inj.mp same)
    rw [SaTable.lookup_eq_view (SaTable.wf_put wf small ep), SaTable.view_put wf small ep,
      Function.update_of_ne apart, SaTable.lookup_eq_view wf]

theorem insert_of_safe {tp : SaTable α} (reached : tp.Reached) {index : UInt32} {mem : Bool}
    (ep : Option α) (safe : SafeIndex tp index mem) :
    ∃ rc tp', saTableInsert tp index ep mem = .ok (rc, tp') ∧ tp'.Reached ∧
      Insertion tp index ep rc tp' := by
  rcases safe with small | ⟨outside, rfl, kept⟩
  · rw [SaTable.insert_eq reached.wf small]
    split
    · exact ⟨-1, tp, rfl, reached, .inr ⟨rfl, rfl⟩⟩
    · exact ⟨index.toNat, _, rfl, reached.put small ep, insertion_put reached.wf small ep⟩
  · exact ⟨-1, tp, insert_of_no_memory reached.wf ep outside kept, reached, .inr ⟨rfl, rfl⟩⟩

/-- Below `stLimit` an index with its sign bit set is stored under, and returned
    as a negative number other than `-1`. -/
private theorem insertion_below_limit {tp tp' : SaTable α} {index : UInt32} {ep : Option α}
    {mem : Bool} {rc : Int} (below : index < tp.stLimit) (large : 2 ^ 31 ≤ index.toNat)
    (called : saTableInsert tp index ep mem = .ok (rc, tp')) : ¬ Insertion tp index ep rc tp' := by
  have negative := asInt_neg large
  rw [saTableInsert, if_neg (UInt32.not_le.mpr below), Outcome.bind_eq_ok] at called
  obtain ⟨stored, _, returned⟩ := called
  simp only [Except.ok.injEq, Prod.mk.injEq] at returned
  obtain ⟨rfl, -⟩ := returned
  rintro (⟨nonnegative, -⟩ | ⟨minusOne, -⟩)
  · omega
  · have bits : index.toBitVec.toNat = index.toNat := rfl
    have last := tp.stLimit.toNat_lt
    have inside := UInt32.lt_iff_toNat_lt.mp below
    rw [asInt, BitVec.toInt_eq_toNat_cond, bits, if_neg (by omega)] at minusOne
    omega

/-- Growing to an index with its sign bit set reports failure and has moved
    `stLimit`. -/
private theorem insertion_at_limit {tp tp' : SaTable α} (reached : tp.Reached) {index : UInt32}
    {ep : Option α} {mem : Bool} {rc : Int} (past : tp.stLimit ≤ index)
    (large : 2 ^ 31 ≤ index.toNat)
    (exposed : ¬ (tp.stSize ≤ index ∧ mem = false ∧
      ¬ (index + saTableGrowth = 0 ∧ tp.stTable ≠ [])))
    (called : saTableInsert tp index ep mem = .ok (rc, tp')) : ¬ Insertion tp index ep rc tp' := by
  have negative := asInt_neg large
  have ordered := UInt32.le_iff_toNat_le.mp reached.wf.limit
  have lower := UInt32.le_iff_toNat_le.mp past
  have bound := index.toNat_lt
  have sixteen : saTableGrowth.toNat = 16 := rfl
  have one : (1 : UInt32).toNat = 1 := rfl
  have grown : (index + saTableGrowth).toNat = (index.toNat + 16) % 2 ^ 32 := by
    rw [UInt32.toNat_add, sixteen]
  have next : (index + 1).toNat = (index.toNat + 1) % 2 ^ 32 := by rw [UInt32.toNat_add, one]
  simp only [saTableInsert, if_pos past, saTableGrow] at called
  by_cases outside : tp.stSize ≤ index
  · have size := UInt32.le_iff_toNat_le.mp outside
    cases mem with
    | false =>
        have zero : index + saTableGrowth = 0 ∧ tp.stTable ≠ [] := by
          by_contra kept
          exact exposed ⟨outside, rfl, kept⟩
        simp [outside, zero] at called
    | true =>
        simp only [if_pos outside, Bool.true_eq_false, if_false] at called
        split at called
        · cases called
        · simp only [Outcome.ok_bind, if_pos negative, Except.ok.injEq, Prod.mk.injEq] at called
          obtain ⟨rfl, rfl⟩ := called
          rintro (⟨nonnegative, -⟩ | ⟨-, same⟩)
          · omega
          · have sizes := congrArg (fun t => t.stSize.toNat) same
            have limits := congrArg (fun t => t.stLimit.toNat) same
            simp only at sizes limits
            rcases reached.grown with zero | sixteenUp
            · rw [zero] at ordered sizes
              simp only [UInt32.toNat_zero] at ordered sizes
              omega
            · omega
  · have inside := UInt32.lt_iff_toNat_lt.mp (UInt32.not_le.mp outside)
    simp only [if_neg outside, Outcome.ok_bind, if_pos negative, Except.ok.injEq,
      Prod.mk.injEq] at called
    obtain ⟨rfl, rfl⟩ := called
    rintro (⟨nonnegative, -⟩ | ⟨-, same⟩)
    · omega
    · have limits := congrArg (fun t => t.stLimit.toNat) same
      have last := tp.stSize.toNat_lt
      simp only at limits
      omega

theorem safe_of_insertion {tp tp' : SaTable α} (reached : tp.Reached) {index : UInt32}
    {ep : Option α} {mem : Bool} {rc : Int}
    (called : saTableInsert tp index ep mem = .ok (rc, tp'))
    (kept : Insertion tp index ep rc tp') : SafeIndex tp index mem := by
  by_contra exposed
  simp only [SafeIndex, not_or] at exposed
  obtain ⟨large, exposed⟩ := exposed
  by_cases past : tp.stLimit ≤ index
  · exact insertion_at_limit reached past (by omega) exposed called kept
  · exact insertion_below_limit (UInt32.not_le.mp past) (by omega) called kept

namespace TableOp

/-- One step: the operation is correct exactly when it is safe. -/
theorem step_correct_iff {tp : SaTable α} (reached : tp.Reached) (op : TableOp α) :
    (∃ rc tp', op.apply tp = .ok (rc, tp') ∧ tp'.Reached ∧ op.Contract tp rc tp') ↔
      op.Safe tp := by
  cases op with
  | insert index ep mem =>
      constructor
      · rintro ⟨rc, tp', called, -, kept⟩
        exact safe_of_insertion reached called kept
      · exact insert_of_safe reached ep
  | append ep mem =>
      constructor
      · rintro ⟨rc, tp', called, -, kept⟩
        exact safe_of_insertion reached called kept
      · exact insert_of_safe reached ep
  | destroy =>
      constructor
      · exact fun _ => trivial
      · exact fun _ => ⟨0, _, rfl, SaTable.Reached.init, trivial⟩

theorem runCorrect_iff {tp : SaTable α} (reached : tp.Reached) (ops : List (TableOp α)) :
    RunCorrect tp ops ↔ RunSafe tp ops := by
  induction ops generalizing tp with
  | nil => exact Iff.rfl
  | cons op ops ih =>
      constructor
      · rintro ⟨rc, tp', called, wf, kept, rest⟩
        have safe : op.Safe tp := by
          cases op with
          | insert => exact safe_of_insertion reached called kept
          | append => exact safe_of_insertion reached called kept
          | destroy => trivial
        obtain ⟨rc', mid, same, reached', -⟩ := (step_correct_iff reached op).mpr safe
        rw [called] at same
        cases same
        refine ⟨safe, fun rc'' next again => ?_⟩
        rw [called] at again
        cases again
        exact (ih reached').mp rest
      · rintro ⟨safe, rest⟩
        obtain ⟨rc, tp', called, reached', kept⟩ := (step_correct_iff reached op).mpr safe
        exact ⟨rc, tp', called, reached'.wf, kept, (ih reached').mpr (rest rc tp' called)⟩

end TableOp

/-- From the zeroed table, the representation invariant and the contract of every
    insert hold along a run exactly when every index used is below `2 ^ 31` or
    past the allocation while memory has run out. -/
theorem tableRun_correct_iff (ops : List (TableOp α)) :
    RunCorrect saTableInit ops ↔ RunSafe saTableInit ops :=
  runCorrect_iff SaTable.Reached.init ops

/-- An index eight below `2 ^ 32`: the size wraps to eight slots, the limit passes
    it, and the insert reports failure. -/
theorem tableRun_wraps :
    saTableInsert saTableInit 4294967288 (some 7) true =
      .ok (-1, { stSize := 8, stLimit := 4294967289, stTable := List.replicate 8 none }) ∧
    ¬ RunCorrect saTableInit [TableOp.insert 4294967288 (some 7) true] := by
  have called : saTableInsert saTableInit 4294967288 (some 7) true =
      .ok (-1, { stSize := 8, stLimit := 4294967289, stTable := List.replicate 8 none }) := by
    decide
  refine ⟨called, ?_⟩
  rintro ⟨rc, tp', ran, wf, -⟩
  simp only [apply, called, Except.ok.injEq, Prod.mk.injEq] at ran
  obtain ⟨-, rfl⟩ := ran
  exact absurd wf.limit (by decide)

end Hbalinux
