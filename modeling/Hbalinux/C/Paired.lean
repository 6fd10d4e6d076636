import Hbalinux.C.Outcome
import Mathlib.Data.List.Forall2

/-! # Two runs side by side

Two runs that begin in different states can be told apart by what they return.  `Paired P x y`
says that either returns if the other does, and that `P` relates their results then.  The rules
follow the way runs are put together, so that two runs of one program are paired as soon as the
calls it makes are.
-/

namespace Hbalinux

namespace Outcome

variable {α β γ δ ε σ τ : Type}

/-- The runs return together, with related results. -/
structure Paired (P : α → β → Prop) (x : Outcome α) (y : Outcome β) : Prop where
  forth : ∀ a, x = .ok a → ∃ b, y = .ok b ∧ P a b
  back : ∀ b, y = .ok b → ∃ a, x = .ok a ∧ P a b

namespace Paired

variable {P : α → β → Prop} {x : Outcome α} {y : Outcome β}

theorem ok {a : α} {b : β} (related : P a b) : Paired P (.ok a) (.ok b) where
  forth := by
    rintro c same
    cases same
    exact ⟨b, rfl, related⟩
  back := by
    rintro c same
    cases same
    exact ⟨a, rfl, related⟩

theorem error (f g : Fault) : Paired P (.error f) (.error g) where
  forth := by
    rintro a same
    cases same
  back := by
    rintro b same
    cases same

/-- Equal runs are paired by what holds of the result. -/
theorem refl {R : α → α → Prop} {x : Outcome α} (related : ∀ a, x = .ok a → R a a) : Paired R x x :=
  ⟨fun a ran => ⟨a, ran, related a ran⟩, fun a ran => ⟨a, ran, related a ran⟩⟩

theorem mono {Q : α → β → Prop} (paired : Paired P x y) (weaker : ∀ a b, P a b → Q a b) :
    Paired Q x y where
  forth a ran := by
    obtain ⟨b, ran', related⟩ := paired.forth a ran
    exact ⟨b, ran', weaker a b related⟩
  back b ran := by
    obtain ⟨a, ran', related⟩ := paired.back b ran
    exact ⟨a, ran', weaker a b related⟩

theorem bind {Q : γ → δ → Prop} {f : α → Outcome γ} {g : β → Outcome δ} (paired : Paired P x y)
    (next : ∀ a b, P a b → Paired Q (f a) (g b)) : Paired Q (x >>= f) (y >>= g) where
  forth c ran := by
    obtain ⟨a, first, rest⟩ := bind_eq_ok.mp ran
    obtain ⟨b, first', related⟩ := paired.forth a first
    obtain ⟨d, rest', last⟩ := (next a b related).forth c rest
    exact ⟨d, bind_eq_ok.mpr ⟨b, first', rest'⟩, last⟩
  back d ran := by
    obtain ⟨b, first, rest⟩ := bind_eq_ok.mp ran
    obtain ⟨a, first', related⟩ := paired.back b first
    obtain ⟨c, rest', last⟩ := (next a b related).back d rest
    exact ⟨c, bind_eq_ok.mpr ⟨a, first', rest'⟩, last⟩

theorem trans {Q : β → γ → Prop} {z : Outcome γ} (first : Paired P x y) (second : Paired Q y z) :
    Paired (fun a c => ∃ b, P a b ∧ Q b c) x z where
  forth a ran := by
    obtain ⟨b, ran', related⟩ := first.forth a ran
    obtain ⟨c, ran'', related'⟩ := second.forth b ran'
    exact ⟨c, ran'', b, related, related'⟩
  back c ran := by
    obtain ⟨b, ran', related'⟩ := second.back c ran
    obtain ⟨a, ran'', related⟩ := first.back b ran'
    exact ⟨a, ran'', b, related, related'⟩

/-- What is known of the result of one run may be used to relate it. -/
theorem strengthen {Q : α → β → Prop} (paired : Paired P x y)
    (stronger : ∀ a b, x = .ok a → y = .ok b → P a b → Q a b) : Paired Q x y where
  forth a ran := by
    obtain ⟨b, ran', related⟩ := paired.forth a ran
    exact ⟨b, ran', stronger a b ran ran' related⟩
  back b ran := by
    obtain ⟨a, ran', related⟩ := paired.back b ran
    exact ⟨a, ran', stronger a b ran' ran related⟩

/-- A call that looks at no state pairs with itself. -/
theorem bind_same {Q : γ → δ → Prop} {z : Outcome α} {f : α → Outcome γ} {g : α → Outcome δ}
    (next : ∀ a, z = .ok a → Paired Q (f a) (g a)) : Paired Q (z >>= f) (z >>= g) := by
  cases z with
  | error fault => exact error fault fault
  | ok a => exact next a rfl

theorem map {Q : γ → δ → Prop} {f : α → γ} {g : β → δ} (paired : Paired P x y)
    (related : ∀ a b, P a b → Q (f a) (g b)) : Paired Q (Except.map f x) (Except.map g y) where
  forth c ran := by
    obtain ⟨a, first, rfl⟩ := map_eq_ok.mp ran
    obtain ⟨b, first', both⟩ := paired.forth a first
    exact ⟨g b, map_eq_ok.mpr ⟨b, first', rfl⟩, related a b both⟩
  back d ran := by
    obtain ⟨b, first, rfl⟩ := map_eq_ok.mp ran
    obtain ⟨a, first', both⟩ := paired.back b first
    exact ⟨f a, map_eq_ok.mpr ⟨a, first', rfl⟩, related a b both⟩

/-- Loops whose calls are paired are paired. -/
theorem untilNonzero {R : σ → τ → Prop} {f : ε → σ → Outcome (Int × σ)} {g : ε → τ → Outcome (Int × τ)}
    {es : List ε} {s : σ} {t : τ} (start : R s t)
    (step : ∀ e ∈ es, ∀ s t, R s t → Paired (fun a b => a.1 = b.1 ∧ R a.2 b.2) (f e s) (g e t)) :
    Paired (fun a b => a.1 = b.1 ∧ R a.2 b.2) (Outcome.untilNonzero f es s)
      (Outcome.untilNonzero g es t) := by
  induction es generalizing s t with
  | nil => exact ok ⟨rfl, start⟩
  | cons e es ih =>
      rw [untilNonzero_cons, untilNonzero_cons]
      refine (step e (List.mem_cons_self ..) s t start).bind fun a b related => ?_
      rw [related.1]
      split
      · exact ih related.2 fun e' member => step e' (List.mem_cons_of_mem _ member)
      · exact ok related

/-- A session of several calls, where each hands its state on to the next, comes to what the calls
    come to on their own, if every call can be taken from any state that `R` relates to the first
    one. -/
theorem session {R : σ → Prop} {f : ε → σ → Outcome (α × σ)}
    {run : List ε → σ → Outcome (List α × σ)} (nil : ∀ s, run [] s = .ok ([], s))
    (cons : ∀ e es s, run (e :: es) s =
      f e s >>= fun r => run es r.2 >>= fun rs => .ok (r.1 :: rs.1, rs.2))
    {first : σ}
    (step : ∀ e s, R s → Paired (fun a b => a.1 = b.1 ∧ R b.2) (f e first) (f e s)) {s : σ} (start : R s)
    (es : List ε) (as : List α) :
    (∃ t, run es s = .ok (as, t)) ↔ List.Forall₂ (fun e a => ∃ t, f e first = .ok (a, t)) es as := by
  induction es generalizing s as with
  | nil =>
      rw [nil, List.forall₂_nil_left_iff]
      constructor
      · rintro ⟨t, ran⟩
        cases ran
        rfl
      · rintro rfl
        exact ⟨s, rfl⟩
  | cons e es ih =>
      rw [cons, List.forall₂_cons_left_iff]
      constructor
      · rintro ⟨t, ran⟩
        obtain ⟨⟨a, mid⟩, called, rest⟩ := bind_eq_ok.mp ran
        obtain ⟨⟨bs, last⟩, ran', rest⟩ := bind_eq_ok.mp rest
        cases rest
        obtain ⟨⟨a', t'⟩, alone, same, reached⟩ := (step e s start).back _ called
        cases same
        exact ⟨a, bs, ⟨t', alone⟩, (ih reached bs).mp ⟨_, ran'⟩, rfl⟩
      · rintro ⟨a, bs, ⟨t', alone⟩, rest, rfl⟩
        obtain ⟨⟨a', mid⟩, called, same, reached⟩ := (step e s start).forth _ alone
        cases same
        obtain ⟨t, ran⟩ := (ih reached bs).mpr rest
        exact ⟨t, by rw [called, ok_bind, ran, ok_bind]⟩

end Paired

end Outcome

/-- Related lists stay related when one of them is put in another order, if the other follows. -/
theorem forall₂_reorder {α β : Type} {R : α → β → Prop} {as as' : List α} {bs : List β}
    (related : List.Forall₂ R as bs) (perm : as.Perm as') :
    ∃ bs', List.Forall₂ R as' bs' ∧ (as.zip bs).Perm (as'.zip bs') := by
  induction perm generalizing bs with
  | nil => exact ⟨bs, related, .refl _⟩
  | cons a perm ih =>
      obtain ⟨b, bs, first, rest, rfl⟩ := List.forall₂_cons_left_iff.mp related
      obtain ⟨bs', rest', zip⟩ := ih rest
      exact ⟨b :: bs', .cons first rest', zip.cons _⟩
  | swap a a' as =>
      obtain ⟨b, bs, first, rest, rfl⟩ := List.forall₂_cons_left_iff.mp related
      obtain ⟨b', bs, second, rest', rfl⟩ := List.forall₂_cons_left_iff.mp rest
      exact ⟨b' :: b :: bs, .cons second (.cons first rest'), .swap _ _ _⟩
  | trans perm perm' ih ih' =>
      obtain ⟨bs', related', zip⟩ := ih related
      obtain ⟨bs'', related'', zip'⟩ := ih' related'
      exact ⟨bs'', related'', zip.trans zip'⟩

end Hbalinux
