import Hbalinux.Reload

/-! # The objects on the heap

The library finds each of its objects in a table: the adapters in `adapter_table`, a local port in
the table of its adapter, the remote ports in `rports_table`.  Whatever fails on the way, there are
no others.  Freeing the library therefore frees all adapters and local ports.  The remote ports stay
for the rest of the process: their table does not change any more, and neither do they, but for the
mark that each may get once.
-/

namespace Hbalinux

open Outcome

/-! ## Nothing is lost -/

/-- Every remote port on the heap is in the table. -/
def Lib.ListsRports (lib : Lib) : Prop :=
  ∀ rp rport, lib.rports.get rp = some rport → rp ∈ lib.rportsTable.entries

/-- What a process does next with the library. -/
inductive Lib.Step (allowed : Env → Prop) : Lib → Lib → Prop where
  | load {env lib lib'} (admitted : allowed env) (few : FewAdapters env lib)
      (loaded : loadLibrary env lib = .ok lib') : Step allowed lib lib'
  | free {lib lib'} (freed : freeLibrary lib = .ok lib') : Step allowed lib lib'
  | ask {env lib lib'} {query : Query} {reply} (admitted : allowed env)
      (asked : query.ask env lib = .ok (reply, lib')) : Step allowed lib lib'

theorem Reachable.step {allowed : Env → Prop} {lib lib' : Lib} (reachable : Reachable allowed lib)
    (step : lib.Step allowed lib') : Reachable allowed lib' := by
  cases step with
  | load admitted few loaded => exact .load reachable admitted few loaded
  | free freed => exact .free reachable freed
  | ask admitted asked => exact .ask reachable admitted asked

/-- The remote ports are the same, except that some have been claimed meanwhile. -/
structure Lib.KeepsRports (lib lib' : Lib) : Prop where
  table : lib'.rportsTable = lib.rportsTable
  live : ∀ rp, lib'.rports.get rp = none ↔ lib.rports.get rp = none
  marks : ∀ rp rport rport', lib.rports.get rp = some rport → lib'.rports.get rp = some rport' →
    rport' = rport ∨ rport.apAdapt = none ∧ rport' = rport.claimedBy rport'.apAdapt

theorem Lib.KeepsRports.of_eq {lib lib' : Lib} (table : lib'.rportsTable = lib.rportsTable)
    (rports : lib'.rports = lib.rports) : lib.KeepsRports lib' where
  table := table
  live rp := by rw [rports]
  marks rp rport rport' here there := by
    rw [rports, here, Option.some.injEq] at there
    exact .inl there.symm

theorem Lib.KeepsRports.trans {a b c : Lib} (first : a.KeepsRports b) (second : b.KeepsRports c) :
    a.KeepsRports c where
  table := second.table.trans first.table
  live rp := (second.live rp).trans (first.live rp)
  marks rp rport rport' here there := by
    obtain ⟨mid, between⟩ : ∃ mid, b.rports.get rp = some mid := by
      refine Option.ne_none_iff_exists'.mp fun none => ?_
      rw [(first.live rp).mp none] at here
      cases here
    rcases first.marks rp rport mid here between with rfl | ⟨unmarked, marked⟩
    · exact second.marks rp mid rport' between there
    · refine .inr ⟨unmarked, ?_⟩
      rcases second.marks rp mid rport' between there with rfl | ⟨-, marked'⟩
      · exact marked
      · rw [marked', marked]
        rfl

theorem claimRport_keeps {env pp rp lib lib'} (claimed : claimRport env pp rp lib = .ok lib') :
    lib.KeepsRports lib' := by
  obtain ⟨rport, port, live, -, ⟨-, rfl⟩ | ⟨⟨-, -, unmarked⟩, found, rc, table, -, -, rfl⟩⟩ :=
    claimRport_eq_ok.mp claimed
  · exact .of_eq rfl rfl
  · refine ⟨rfl, fun q => ?_, fun q other other' here there => ?_⟩
    · simp only [Lib.mark, Arena.get_store]
      by_cases same : q = rp
      · rw [if_pos same, same, live]
        exact iff_of_false (Option.some_ne_none _) (Option.some_ne_none _)
      · rw [if_neg same]
    · simp only [Lib.mark, Arena.get_store] at there
      by_cases same : q = rp
      · rw [same, live, Option.some.injEq] at here
        rw [if_pos same, Option.some.injEq] at there
        rw [← here, ← there]
        exact .inr ⟨unmarked, rfl⟩
      · rw [if_neg same, here, Option.some.injEq] at there
        exact .inl there.symm

theorem getRportInfo_keeps {env pp lib lib'} (filled : lib.rportsTable.stSize ≠ 0)
    (called : getRportInfo env pp lib = .ok lib') : lib.KeepsRports lib' := by
  refine getRportInfo_preserves called (fun loaded load => ?_)
    fun rp a b kept claimed => kept.trans (claimRport_keeps claimed)
  rw [loadRports, if_neg filled, Except.ok.injEq] at load
  exact load ▸ .of_eq rfl rfl

theorem Lib.Step.keeps {allowed : Env → Prop} {lib lib' : Lib} (reachable : Reachable allowed lib)
    (filled : lib.rportsTable.stSize ≠ 0) (step : lib.Step allowed lib') : lib.KeepsRports lib' := by
  have inv := adapterInv_of_reachable reachable
  cases step with
  | load _ few loaded =>
      obtain ⟨table, rports⟩ := loadLibrary_rports inv few loaded
      exact .of_eq table rports
  | free freed =>
      rw [freeLibrary_eq inv, Except.ok.injEq] at freed
      exact freed ▸ .of_eq rfl rfl
  | ask _ asked =>
      refine (ask_attaches asked).preserves (P := fun t => lib.KeepsRports t) ?_ (.of_eq rfl rfl)
      intro pp a b kept called
      refine kept.trans (getRportInfo_keeps ?_ called)
      rw [kept.table]
      exact filled

/-- Once remote ports have been read, they stay what they are through all that follows, and a mark
    that one has got stays as well. -/
theorem remotes_permanent {allowed : Env → Prop} {lib later : Lib} (reachable : Reachable allowed lib)
    (filled : lib.rportsTable.stSize ≠ 0)
    (steps : Relation.ReflTransGen (Lib.Step allowed) lib later) : lib.KeepsRports later := by
  suffices kept : Reachable allowed later ∧ lib.KeepsRports later from kept.2
  induction steps with
  | refl => exact ⟨reachable, .of_eq rfl rfl⟩
  | tail _ step ih =>
      obtain ⟨reached, kept⟩ := ih
      refine ⟨reached.step step, kept.trans (step.keeps reached ?_)⟩
      rw [kept.table]
      exact filled

/-- The sample system after a query for its remote port. -/
def rportFound : Lib :=
  ((Query.rport 0x100 0 1).ask smallSystem (loadedState smallSystem)).toOption.elim .init Prod.snd

theorem remotes_permanent_small : ∃ freed reloaded, freeLibrary rportFound = .ok freed ∧
    loadLibrary smallSystem freed = .ok reloaded ∧ rportFound.KeepsRports reloaded := by
  have facts : ((Query.rport 0x100 0 1).ask smallSystem (loadedState smallSystem)).toOption.isSome ∧
      rportFound.rportsTable.stSize ≠ 0 ∧ (hosts smallSystem).length < 2 ^ 31 := by
    decide +kernel
  have reachable : Reachable (fun _ => True) rportFound := by
    obtain ⟨⟨reply, found⟩, answered⟩ := Option.isSome_iff_exists.mp facts.1
    rw [rportFound, answered]
    exact .ask reachable_small trivial (eq_ok_of_toOption answered)
  have free := freeLibrary_eq (adapterInv_of_reachable reachable)
  have load := loadLibrary_small_over rportFound
  have few : FewAdapters smallSystem (Lib.init.over rportFound) :=
    fewAdapters_of_length SaTable.wf_init ((Nat.zero_add _).trans_le facts.2.2)
  exact ⟨_, _, free, load, remotes_permanent reachable facts.2.1
    (.tail (.single (.free free)) (.load trivial few load))⟩

end Hbalinux
