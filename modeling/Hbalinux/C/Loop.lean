import Mathlib.Data.Fintype.EquivFin
import Mathlib.Data.Set.Finite.Basic
import Mathlib.Logic.Relation
import Mathlib.Order.WellFounded

/-! # Loops that may not end

The body of a `while` loop maps a state to the next one or leaves the loop.  A loop
ends when enough rounds leave it; with finitely many states this is the case
exactly when no state on its way leads back to itself.
-/

namespace Hbalinux

/-- What one round of a loop leads to. -/
inductive Round (σ ρ : Type) where
  | again (s : σ)
  | done (r : ρ)
  deriving Repr, DecidableEq

section Loop

variable {σ ρ : Type} (body : σ → Round σ ρ)

/-- At most `fuel` rounds; `none` when the loop goes on. -/
def runLoop : (fuel : Nat) → σ → Option ρ
  | 0, _ => none
  | fuel + 1, s =>
      match body s with
      | .again t => runLoop fuel t
      | .done r => some r

/-- One round leads from one state to the other. -/
def Goes (s t : σ) : Prop := body s = .again t

/-- Some rounds lead from one state to the other. -/
abbrev Reaches : σ → σ → Prop := Relation.ReflTransGen (Goes body)

/-- The loop ends with a result. -/
def EndsWith (s : σ) (r : ρ) : Prop := ∃ fuel, runLoop body fuel s = some r

/-- A state on the way leads back to itself. -/
def Circles (s : σ) : Prop := ∃ t, Reaches body s t ∧ Relation.TransGen (Goes body) t t

variable {body}

theorem Goes.unique {s t t' : σ} (goes : Goes body s t) (goes' : Goes body s t') : t = t' :=
  Round.again.inj (goes.symm.trans goes')

theorem runLoop_again {s t : σ} (goes : Goes body s t) (fuel : Nat) :
    runLoop body (fuel + 1) s = runLoop body fuel t := by
  rw [runLoop, goes]

theorem runLoop_done {s : σ} {r : ρ} (leaves : body s = .done r) (fuel : Nat) :
    runLoop body (fuel + 1) s = some r := by
  rw [runLoop, leaves]

/-- More fuel does not change a result. -/
theorem runLoop_more {fuel fuel' : Nat} {s : σ} {r : ρ} (ran : runLoop body fuel s = some r)
    (more : fuel ≤ fuel') : runLoop body fuel' s = some r := by
  induction fuel generalizing s fuel' with
  | zero => cases ran
  | succ fuel ih =>
      obtain ⟨rest, rfl⟩ : ∃ rest, fuel' = rest + 1 := ⟨fuel' - 1, by omega⟩
      cases round : body s with
      | again t =>
          rw [runLoop_again round] at ran ⊢
          exact ih ran (by omega)
      | done r' =>
          rw [runLoop_done round] at ran ⊢
          exact ran

/-- A result is left with in a state on the way. -/
theorem endsWith_iff {s : σ} {r : ρ} :
    EndsWith body s r ↔ ∃ t, Reaches body s t ∧ body t = .done r := by
  constructor
  · rintro ⟨fuel, ran⟩
    induction fuel generalizing s with
    | zero => cases ran
    | succ fuel ih =>
        cases round : body s with
        | again t =>
            rw [runLoop_again round] at ran
            obtain ⟨last, reaches, leaves⟩ := ih ran
            exact ⟨last, reaches.head round, leaves⟩
        | done r' =>
            rw [runLoop_done round, Option.some.injEq] at ran
            exact ⟨s, .refl, ran ▸ round⟩
  · rintro ⟨t, reaches, leaves⟩
    induction reaches using Relation.ReflTransGen.head_induction_on with
    | refl => exact ⟨1, runLoop_done leaves 0⟩
    | head goes _ ih =>
        obtain ⟨fuel, ran⟩ := ih
        exact ⟨fuel + 1, (runLoop_again goes fuel).trans ran⟩

theorem EndsWith.unique {s : σ} {r r' : ρ} (ends : EndsWith body s r) (ends' : EndsWith body s r') :
    r = r' := by
  obtain ⟨fuel, ran⟩ := ends
  obtain ⟨fuel', ran'⟩ := ends'
  have both := runLoop_more ran (Nat.le_max_left fuel fuel')
  rw [runLoop_more ran' (Nat.le_max_right fuel fuel')] at both
  exact (Option.some.inj both).symm

/-- There is one state on the way in which the loop is left. -/
theorem left_unique {s t t' : σ} {r r' : ρ} (way : Reaches body s t) (leaves : body t = .done r)
    (way' : Reaches body s t') (leaves' : body t' = .done r') : t = t' := by
  have stays : ∀ {u v : σ} {q : ρ}, body u = .done q → Reaches body u v → u = v := by
    intro u v q left onward
    cases onward using Relation.ReflTransGen.head_induction_on with
    | refl => rfl
    | head goes _ =>
        rw [Goes, left] at goes
        cases goes
  rcases Relation.ReflTransGen.total_of_right_unique
    (fun a b c first second => first.unique second) way way' with forth | back
  · exact stays leaves forth
  · exact (stays leaves' back).symm

/-- What every round keeps holds on the whole way. -/
theorem Reaches.preserves {P : σ → Prop} (step : ∀ s t, P s → Goes body s t → P t) {s t : σ}
    (start : P s) (reaches : Reaches body s t) : P t := by
  induction reaches with
  | refl => exact start
  | tail _ goes ih => exact step _ _ ih goes

/-- A measure that every round on the way lowers makes the loop end. -/
theorem ends_of_measure {P : σ → Prop} (measure : σ → Nat)
    (step : ∀ s t, P s → Goes body s t → P t ∧ measure t < measure s) {s : σ} (start : P s) :
    ∃ r, runLoop body (measure s + 1) s = some r := by
  induction size : measure s using Nat.strong_induction_on generalizing s with
  | _ n ih =>
      cases round : body s with
      | done r => exact ⟨r, runLoop_done round n⟩
      | again t =>
          obtain ⟨kept, lower⟩ := step s t start round
          obtain ⟨r, ran⟩ := ih (measure t) (size ▸ lower) kept rfl
          exact ⟨r, (runLoop_again round n).trans (runLoop_more ran (by omega))⟩

/-- The rule for total correctness: every round keeps the invariant and lowers the measure, or
    leaves the loop with what is wanted. -/
theorem runLoop_total {P : σ → Prop} {Q : ρ → Prop} (measure : σ → Nat)
    (step : ∀ s, P s → (∃ t, body s = .again t ∧ P t ∧ measure t < measure s) ∨
      ∃ r, body s = .done r ∧ Q r) {s : σ} (start : P s) :
    ∃ r, Q r ∧ ∀ fuel, measure s < fuel → runLoop body fuel s = some r := by
  induction size : measure s using Nat.strong_induction_on generalizing s with
  | _ n ih =>
      rcases step s start with ⟨t, goes, kept, lower⟩ | ⟨r, leaves, wanted⟩
      · obtain ⟨r, wanted, ran⟩ := ih (measure t) (size ▸ lower) kept rfl
        refine ⟨r, wanted, fun fuel enough => ?_⟩
        obtain ⟨rest, rfl⟩ : ∃ rest, fuel = rest + 1 := ⟨fuel - 1, by omega⟩
        rw [runLoop_again goes]
        exact ran rest (by omega)
      · refine ⟨r, wanted, fun fuel enough => ?_⟩
        obtain ⟨rest, rfl⟩ : ∃ rest, fuel = rest + 1 := ⟨fuel - 1, by omega⟩
        exact runLoop_done leaves rest

/-- A state from which the loop can be left does not lead back to itself. -/
theorem not_circle {s t : σ} {r : ρ} (reaches : Reaches body s t) (leaves : body t = .done r) :
    ¬ Relation.TransGen (Goes body) s s := by
  induction reaches using Relation.ReflTransGen.head_induction_on with
  | refl =>
      intro circle
      obtain ⟨next, goes, -⟩ := Relation.TransGen.head'_iff.mp circle
      rw [Goes, leaves] at goes
      cases goes
  | head goes _ ih =>
      intro circle
      obtain ⟨next, goes', rest⟩ := Relation.TransGen.head'_iff.mp circle
      obtain rfl := goes.unique goes'
      exact ih (Relation.TransGen.tail' rest goes)

/-- A loop over finitely many states ends unless it comes to a circle. -/
theorem ends_iff_not_circles [Finite σ] (s : σ) :
    (∃ r, EndsWith body s r) ↔ ¬ Circles body s := by
  constructor
  · rintro ⟨r, ends⟩ ⟨t, reaches, circle⟩
    obtain ⟨last, way, leaves⟩ := endsWith_iff.mp ends
    -- the way to the last state passes `t` or stops before it; either way `t` leads there
    have onward : Reaches body t last := by
      rcases Relation.ReflTransGen.total_of_right_unique
        (fun a b c first second => first.unique second) reaches way with forth | back
      · exact forth
      · cases back using Relation.ReflTransGen.head_induction_on with
        | refl => exact .refl
        | head goes _ =>
            rw [Goes, leaves] at goes
            cases goes
    exact not_circle onward leaves circle
  · intro acyclic
    -- induction on the states on the way, later ones first
    let Later (t u : σ) : Prop := Reaches body s u ∧ Relation.TransGen (Goes body) u t
    have transitive : IsTrans σ Later :=
      ⟨fun _ _ _ first second => ⟨second.1, second.2.trans first.2⟩⟩
    have irreflexive : Std.Irrefl Later := ⟨fun t circle => acyclic ⟨t, circle⟩⟩
    have wellFounded : WellFounded Later := Finite.wellFounded_of_trans_of_irrefl Later
    have all : ∀ t, Reaches body s t → ∃ r, EndsWith body t r := by
      intro t
      induction t using wellFounded.induction with
      | _ t ih =>
          intro reaches
          cases round : body t with
          | done r => exact ⟨r, 1, runLoop_done round 0⟩
          | again u =>
              obtain ⟨r, fuel, ran⟩ := ih u ⟨reaches, .single round⟩ (reaches.tail round)
              exact ⟨r, fuel + 1, (runLoop_again round fuel).trans ran⟩
    exact all s .refl

end Loop

end Hbalinux
