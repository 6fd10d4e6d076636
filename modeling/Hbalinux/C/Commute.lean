import Hbalinux.C.Outcome
import Mathlib.Data.List.Perm.Basic

/-! # Acts that can be done in either order

An act on a state may fault.  Two acts commute where neither keeps the other from returning and the
order in which they are done makes no difference.  This carries over from single acts to sequences
of them, and acts that commute with each other can be done in any order.
-/

namespace Hbalinux

namespace Outcome

variable {ε κ σ : Type} {W : σ → Prop}

/-- After `f`, `g` returns if it does before, and `f` then leads to the same state. -/
structure Commutes (W : σ → Prop) (f g : σ → Outcome σ) : Prop where
  back : ∀ s t u, W s → f s = .ok t → g t = .ok u → ∃ t', g s = .ok t' ∧ f t' = .ok u
  forth : ∀ s t t', W s → f s = .ok t → g s = .ok t' → ∃ u, g t = .ok u ∧ f t' = .ok u

/-- The act does not lead out of the states in which it commutes. -/
def Keeps (W : σ → Prop) (f : σ → Outcome σ) : Prop := ∀ s t, W s → f s = .ok t → W t

/-- A sequence of acts. -/
def doAll (f : ε → σ → Outcome σ) (es : List ε) (s : σ) : Outcome σ :=
  es.foldlM (fun s e => f e s) s

variable {f : ε → σ → Outcome σ} {g : κ → σ → Outcome σ}

theorem doAll_cons_eq_ok {e : ε} {es : List ε} {s t : σ} :
    doAll f (e :: es) s = .ok t ↔ ∃ mid, f e s = .ok mid ∧ doAll f es mid = .ok t := by
  rw [doAll, List.foldlM_cons, bind_eq_ok]
  rfl

/-- A sequence of acts commutes with an act that each of them commutes with. -/
theorem commutes_doAll_left {es : List ε} {h : σ → Outcome σ}
    (commutes : ∀ e ∈ es, Commutes W (f e) h) (keeps : ∀ e ∈ es, Keeps W (f e)) :
    Commutes W (doAll f es) h := by
  induction es with
  | nil =>
      constructor
      · intro s t u held ran called
        cases ran
        exact ⟨u, called, rfl⟩
      · intro s t t' held ran called
        cases ran
        exact ⟨t', called, rfl⟩
  | cons e es ih =>
      rw [List.forall_mem_cons] at commutes keeps
      have rest := ih commutes.2 keeps.2
      constructor
      · intro s t u held ran called
        obtain ⟨mid, first, ran⟩ := doAll_cons_eq_ok.mp ran
        obtain ⟨mid', called', ran'⟩ := rest.back mid t u (keeps.1 s mid held first) ran called
        obtain ⟨s', before, after⟩ := commutes.1.back s mid mid' held first called'
        exact ⟨s', before, doAll_cons_eq_ok.mpr ⟨mid', after, ran'⟩⟩
      · intro s t s' held ran called
        obtain ⟨mid, first, ran⟩ := doAll_cons_eq_ok.mp ran
        obtain ⟨mid', called', after⟩ := commutes.1.forth s mid s' held first called
        obtain ⟨u, last, ran'⟩ := rest.forth mid t mid' (keeps.1 s mid held first) ran called'
        exact ⟨u, last, doAll_cons_eq_ok.mpr ⟨mid', after, ran'⟩⟩

theorem commutes_doAll_right {ks : List κ} {h : σ → Outcome σ}
    (commutes : ∀ k ∈ ks, Commutes W h (g k)) (keeps : ∀ k ∈ ks, Keeps W (g k)) :
    Commutes W h (doAll g ks) := by
  induction ks with
  | nil =>
      constructor
      · intro s t u held called ran
        cases ran
        exact ⟨s, rfl, called⟩
      · intro s t t' held called ran
        cases ran
        exact ⟨t, rfl, called⟩
  | cons k ks ih =>
      rw [List.forall_mem_cons] at commutes keeps
      have rest := ih commutes.2 keeps.2
      constructor
      · intro s t u held called ran
        obtain ⟨mid, first, ran⟩ := doAll_cons_eq_ok.mp ran
        obtain ⟨s', before, after⟩ := commutes.1.back s t mid held called first
        obtain ⟨last, ran', called'⟩ := rest.back s' mid u (keeps.1 s s' held before) after ran
        exact ⟨last, doAll_cons_eq_ok.mpr ⟨s', before, ran'⟩, called'⟩
      · intro s t t' held called ran
        obtain ⟨s', first, ran⟩ := doAll_cons_eq_ok.mp ran
        obtain ⟨mid, before, after⟩ := commutes.1.forth s t s' held called first
        obtain ⟨u, ran', called'⟩ := rest.forth s' mid t' (keeps.1 s s' held first) after ran
        exact ⟨u, doAll_cons_eq_ok.mpr ⟨mid, before, ran'⟩, called'⟩

/-- Acts that commute with each other lead to the same state in any order. -/
theorem doAll_perm {es es' : List ε} (perm : es.Perm es')
    (commutes : ∀ e ∈ es, ∀ e' ∈ es, Commutes W (f e) (f e')) (keeps : ∀ e ∈ es, Keeps W (f e))
    {s t : σ} (held : W s) (ran : doAll f es s = .ok t) : doAll f es' s = .ok t := by
  induction perm generalizing s with
  | nil => exact ran
  | cons e perm ih =>
      obtain ⟨mid, called, rest⟩ := doAll_cons_eq_ok.mp ran
      refine doAll_cons_eq_ok.mpr ⟨mid, called, ih (fun a member b member' => ?_) (fun a member => ?_)
        (keeps e (List.mem_cons_self ..) s mid held called) rest⟩
      · exact commutes a (List.mem_cons_of_mem _ member) b (List.mem_cons_of_mem _ member')
      · exact keeps a (List.mem_cons_of_mem _ member)
  | swap e e' es =>
      simp only [doAll_cons_eq_ok] at ran ⊢
      obtain ⟨mid, first, next, second, rest⟩ := ran
      obtain ⟨mid', before, after⟩ := (commutes e' (List.mem_cons_self ..) e
        (List.mem_cons_of_mem _ (List.mem_cons_self ..))).back s mid next held first second
      exact ⟨mid', before, next, after, rest⟩
  | trans perm perm' ih ih' =>
      refine ih' (fun a member b member' => ?_) (fun a member => ?_) held (ih commutes keeps held ran)
      · exact commutes a (perm.mem_iff.mpr member) b (perm.mem_iff.mpr member')
      · exact keeps a (perm.mem_iff.mpr member)

end Outcome

end Hbalinux
