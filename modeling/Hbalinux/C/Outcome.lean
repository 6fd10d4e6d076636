import Mathlib.Data.List.Basic

/-! # Outcomes of C code

A C function either returns or does something whose effect the language leaves
undefined.  `Outcome` keeps the two apart: `.error` records the first undefined
act and nothing that follows it is described.  The second half is the loop every
directory reader runs, with the induction rules its callers use; the last of them is
partial and total correctness in one.
-/

namespace Hbalinux

/-- The undefined acts a modelled function can reach. -/
inductive Fault where
  /-- Access past the end of an allocated block or a fixed buffer. -/
  | outOfBounds
  /-- Access through a NULL pointer. -/
  | nullDereference
  /-- Access to an object that has been freed. -/
  | useAfterFree
  /-- `realloc` of a live block to zero bytes: the block is released although the
      call reports failure, so the caller keeps a dangling pointer. -/
  | zeroRealloc
  deriving Repr, DecidableEq

abbrev Outcome (α : Type) := Except Fault α

namespace Outcome

variable {α β ε σ : Type}

theorem bind_eq_ok {x : Outcome α} {f : α → Outcome β} {b : β} :
    (x >>= f) = .ok b ↔ ∃ a, x = .ok a ∧ f a = .ok b := by
  cases x with
  | error fault => simp [bind, Except.bind]
  | ok a => simp [bind, Except.bind]

@[simp] theorem ok_bind (a : α) (f : α → Outcome β) : ((.ok a : Outcome α) >>= f) = f a := rfl

@[simp] theorem error_bind (fault : Fault) (f : α → Outcome β) :
    ((.error fault : Outcome α) >>= f) = .error fault := rfl

theorem map_eq_ok {x : Outcome α} {f : α → β} {b : β} :
    Except.map f x = .ok b ↔ ∃ a, x = .ok a ∧ f a = b := by
  cases x with
  | error fault => simp [Except.map]
  | ok a => simp [Except.map]

/-- Read a pointer's target, or fault when there is none. -/
def demand (fault : Fault) : Option α → Outcome α
  | some a => .ok a
  | none => .error fault

@[simp] theorem demand_some (fault : Fault) (a : α) : demand fault (some a) = .ok a := rfl

theorem demand_eq_ok {fault : Fault} {x : Option α} {a : α} :
    demand fault x = .ok a ↔ x = some a := by
  cases x <;> simp [demand]

/-- A value that is there is the one the default is not needed for. -/
theorem eq_ok_getD {x : Outcome α} (defined : x.toOption.isSome = true) (a : α) :
    x = .ok (x.toOption.getD a) := by
  cases x with
  | error fault => cases defined
  | ok b => rfl

theorem eq_ok_of_toOption {x : Outcome α} {a : α} (value : x.toOption = some a) : x = .ok a := by
  cases x with
  | error fault => cases value
  | ok b =>
      cases value
      rfl

/-- Call `f` on each entry in turn and stop at the first non-zero result. -/
def untilNonzero (f : ε → σ → Outcome (Int × σ)) : List ε → σ → Outcome (Int × σ)
  | [], s => .ok (0, s)
  | e :: es, s => do
      let (rc, s) ← f e s
      if rc = 0 then untilNonzero f es s else .ok (rc, s)

theorem untilNonzero_cons {f : ε → σ → Outcome (Int × σ)} {e es s} :
    untilNonzero f (e :: es) s =
      (f e s >>= fun r => if r.1 = 0 then untilNonzero f es r.2 else .ok r) := rfl

/-- What every call preserves, the loop preserves. -/
theorem untilNonzero_preserves {P : σ → Prop} {f : ε → σ → Outcome (Int × σ)} {es s rc s'}
    (step : ∀ e ∈ es, ∀ t rc t', P t → f e t = .ok (rc, t') → P t') (start : P s)
    (ran : untilNonzero f es s = .ok (rc, s')) : P s' := by
  induction es generalizing s with
  | nil =>
      simp only [untilNonzero, Except.ok.injEq, Prod.mk.injEq] at ran
      exact ran.2 ▸ start
  | cons e es ih =>
      rw [untilNonzero_cons, bind_eq_ok] at ran
      obtain ⟨⟨code, mid⟩, called, rest⟩ := ran
      have kept : P mid := step e (List.mem_cons_self ..) s code mid start called
      split at rest
      · exact ih (fun e' member => step e' (List.mem_cons_of_mem _ member)) kept rest
      · cases rest
        exact kept

/-- A loop that got through its first entries goes on with the others. -/
theorem untilNonzero_append {f : ε → σ → Outcome (Int × σ)} {before es s t}
    (reached : untilNonzero f before s = .ok (0, t)) :
    untilNonzero f (before ++ es) s = untilNonzero f es t := by
  induction before generalizing s with
  | nil =>
      cases reached
      rfl
  | cons e before ih =>
      rw [untilNonzero_cons, bind_eq_ok] at reached
      obtain ⟨⟨code, mid⟩, called, rest⟩ := reached
      rw [List.cons_append, untilNonzero_cons, called, ok_bind]
      split at rest
      · rename_i zero
        rw [if_pos zero]
        exact ih rest
      · rename_i nonzero
        cases rest
        exact absurd rfl nonzero

/-- Two functions that agree on the states on the way. -/
theorem untilNonzero_congr {P : σ → Prop} {f g : ε → σ → Outcome (Int × σ)} {es s} (start : P s)
    (same : ∀ e t, P t → f e t = g e t)
    (keeps : ∀ e t rc t', P t → f e t = .ok (rc, t') → P t') :
    untilNonzero f es s = untilNonzero g es s := by
  induction es generalizing s with
  | nil => rfl
  | cons e es ih =>
      rw [untilNonzero_cons, untilNonzero_cons, ← same e s start]
      cases called : f e s with
      | error fault => rfl
      | ok r =>
          obtain ⟨rc, t⟩ := r
          simp only [ok_bind, ih (keeps e s rc t start called)]

theorem untilNonzero_singleton {f : ε → σ → Outcome (Int × σ)} {e s rc s'}
    (called : f e s = .ok (rc, s')) : untilNonzero f [e] s = .ok (rc, s') := by
  rw [untilNonzero_cons, called, ok_bind]
  split
  · rename_i zero
    simp only at zero
    rw [zero, untilNonzero]
  · rfl

/-- What holds of a state and the entries passed so far holds at the end, with some first
    entries passed.  A call may use how the loop got to it. -/
theorem untilNonzero_passes {P : List ε → σ → Prop} {f : ε → σ → Outcome (Int × σ)}
    {passed es : List ε} {s₀ s s' : σ} {rc : Int} (reached : untilNonzero f passed s₀ = .ok (0, s))
    (start : P passed s)
    (step : ∀ before e after, passed ++ es = before ++ e :: after → ∀ t code t', P before t →
      untilNonzero f before s₀ = .ok (0, t) → f e t = .ok (code, t') → P (before ++ [e]) t')
    (ran : untilNonzero f es s = .ok (rc, s')) : ∃ before, P before s' := by
  induction es generalizing passed s with
  | nil =>
      simp only [untilNonzero, Except.ok.injEq, Prod.mk.injEq] at ran
      exact ⟨passed, ran.2 ▸ start⟩
  | cons e es ih =>
      rw [untilNonzero_cons, bind_eq_ok] at ran
      obtain ⟨⟨code, mid⟩, called, rest⟩ := ran
      have kept : P (passed ++ [e]) mid := step passed e es rfl s code mid start reached called
      split at rest
      · rename_i zero
        have further : untilNonzero f (passed ++ [e]) s₀ = .ok (0, mid) := by
          rw [untilNonzero_append reached, untilNonzero_singleton called]
          simp only at zero
          rw [zero]
        apply ih further kept _ rest
        rw [List.append_assoc, List.singleton_append]
        exact step
      · cases rest
        exact ⟨_, kept⟩

/-- Where every call returns zero all entries are passed. -/
theorem untilNonzero_passes_all {P : List ε → σ → Prop} {f : ε → σ → Outcome (Int × σ)}
    {passed es : List ε} {s s' : σ} {rc : Int} (start : P passed s)
    (step : ∀ before e after, passed ++ es = before ++ e :: after → ∀ t code t', P before t →
      f e t = .ok (code, t') → code = 0 ∧ P (before ++ [e]) t')
    (ran : untilNonzero f es s = .ok (rc, s')) : P (passed ++ es) s' := by
  induction es generalizing passed s with
  | nil =>
      simp only [untilNonzero, Except.ok.injEq, Prod.mk.injEq] at ran
      rw [List.append_nil]
      exact ran.2 ▸ start
  | cons e es ih =>
      rw [untilNonzero_cons, bind_eq_ok] at ran
      obtain ⟨⟨code, mid⟩, called, rest⟩ := ran
      obtain ⟨rfl, kept⟩ := step passed e es rfl s code mid start called
      rw [if_pos rfl] at rest
      rw [List.append_cons]
      apply ih kept _ rest
      rw [List.append_assoc, List.singleton_append]
      exact step

/-- A loop returns when every call returns in the states that lead to it. -/
theorem untilNonzero_returns_passing {P : List ε → σ → Prop} {f : ε → σ → Outcome (Int × σ)}
    {passed es : List ε} {s : σ} (start : P passed s)
    (step : ∀ before e after, passed ++ es = before ++ e :: after → ∀ t, P before t →
      ∃ code t', f e t = .ok (code, t') ∧ P (before ++ [e]) t') :
    ∃ r, untilNonzero f es s = .ok r := by
  induction es generalizing passed s with
  | nil => exact ⟨_, rfl⟩
  | cons e es ih =>
      obtain ⟨code, mid, called, kept⟩ := step passed e es rfl s start
      rw [untilNonzero_cons, called, ok_bind]
      split
      · apply ih kept
        rw [List.append_assoc, List.singleton_append]
        exact step
      · exact ⟨_, rfl⟩

/-- A loop whose calls all return comes to its end. -/
theorem untilNonzero_returns {f : ε → σ → Outcome (Int × σ)}
    (returns : ∀ e s, ∃ r, f e s = .ok r) (es : List ε) (s : σ) :
    ∃ r, untilNonzero f es s = .ok r := by
  induction es generalizing s with
  | nil => exact ⟨_, rfl⟩
  | cons e es ih =>
      obtain ⟨r, called⟩ := returns e s
      rw [untilNonzero_cons, called, ok_bind]
      split
      · exact ih r.2
      · exact ⟨r, rfl⟩

/-- A callback that always returns zero is called on every entry. -/
theorem untilNonzero_of_zero {f : ε → σ → Outcome (Int × σ)} {g : σ → ε → σ} {es : List ε} {s : σ}
    (step : ∀ e ∈ es, ∀ t, f e t = .ok (0, g t e)) :
    untilNonzero f es s = .ok (0, es.foldl g s) := by
  induction es generalizing s with
  | nil => rfl
  | cons e es ih =>
      rw [untilNonzero_cons, step e (List.mem_cons_self ..), ok_bind, if_pos rfl]
      exact ih (fun e' member => step e' (List.mem_cons_of_mem _ member))

/-- `x` returns `b` and leaves a state that has `P`; or it faults, for which there is an excuse.
    Without one this is total correctness, and for results that are there it is partial. -/
inductive Yields (excuse : Prop) (P : σ → Prop) (x : Outcome (β × σ)) (b : β) : Prop where
  | returns (s : σ) (called : x = .ok (b, s)) (held : P s)
  | faults (fault : Fault) (called : x = .error fault) (excused : excuse)

namespace Yields

variable {excuse : Prop} {P Q : σ → Prop} {x : Outcome (β × σ)} {b : β}

theorem of_ok (yields : Yields excuse P x b) {b' : β} {s : σ} (called : x = .ok (b', s)) :
    b' = b ∧ P s := by
  cases yields with
  | returns t returned held =>
      rw [returned, Except.ok.injEq, Prod.mk.injEq] at called
      obtain ⟨rfl, rfl⟩ := called
      exact ⟨rfl, held⟩
  | faults fault faulted _ =>
      rw [faulted] at called
      cases called

theorem imp (yields : Yields excuse P x b) {excuse' : Prop} (weaker : excuse → excuse') :
    Yields excuse' P x b := by
  cases yields with
  | returns s called held => exact .returns s called held
  | faults fault called excused => exact .faults fault called (weaker excused)

theorem total (yields : Yields excuse P x b) (unexcused : ¬ excuse) :
    ∃ s, P s ∧ x = .ok (b, s) := by
  cases yields with
  | returns s called held => exact ⟨s, held, called⟩
  | faults _ _ excused => exact absurd excused unexcused

theorem bind {γ τ : Type} {c : γ} {R : τ → Prop} {f : β × σ → Outcome (γ × τ)}
    (yields : Yields excuse P x b) (rest : ∀ s, P s → Yields excuse R (f (b, s)) c) :
    Yields excuse R (x >>= f) c := by
  cases yields with
  | returns s called held =>
      rw [called, ok_bind]
      exact rest s held
  | faults fault called excused => exact .faults fault (by rw [called, error_bind]) excused

end Yields

/-- A loop whose calls all return zero, if they return. -/
theorem untilNonzero_yields {excuse : Prop} {P : List ε → σ → Prop} {f : ε → σ → Outcome (Int × σ)}
    {passed es : List ε} {s : σ} (start : P passed s)
    (step : ∀ before e after, passed ++ es = before ++ e :: after → ∀ t, P before t →
      Yields excuse (P (before ++ [e])) (f e t) 0) :
    Yields excuse (P (passed ++ es)) (untilNonzero f es s) 0 := by
  induction es generalizing passed s with
  | nil =>
      rw [List.append_nil]
      exact .returns s rfl start
  | cons e es ih =>
      rw [untilNonzero_cons]
      refine (step passed e es rfl s start).bind fun mid held => ?_
      rw [if_pos rfl, List.append_cons]
      apply ih held
      rw [List.append_assoc, List.singleton_append]
      exact step

end Outcome

end Hbalinux
