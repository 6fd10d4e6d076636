import Hbalinux.Pool

/-! # What queries do to the pool

A query takes the remote ports of its host out of the pool, if it gets as far as to need them, and
does nothing else to it.
-/

namespace Hbalinux

open Outcome

/-- The remote port directory has been read, and had remote ports. -/
def Lib.Filled (lib : Lib) : Prop := lib.rportsTable.stSize ≠ 0

theorem Lib.Filled.load {lib : Lib} (filled : lib.Filled) (env : Env) : loadRports env lib = .ok lib :=
  if_neg filled

/-- When the directory has been read, what is in it does not matter. -/
theorem Lib.Filled.getRportInfo_eq {lib : Lib} (filled : lib.Filled) {env env' : Env} (pp : Ptr)
    (mem : env'.mem = env.mem) : getRportInfo env' pp lib = getRportInfo env pp lib := by
  have claim : claimRport env' pp = claimRport env pp := by
    funext rp state
    rw [claimRport, claimRport, mem]
  have walk : getRportInfoFrom env' pp = getRportInfoFrom env pp := by
    funext count
    induction count with
    | zero => rfl
    | succ count ih =>
        funext ri state
        rw [getRportInfoFrom, getRportInfoFrom, claim, ih]
  rw [getRportInfo, getRportInfo, filled.load, filled.load, walk]

theorem Lib.Filled.view_eq {lib : Lib} (filled : lib.Filled) {env env' : Env}
    (mem : env'.mem = env.mem) : lib.view env' = lib.view env := by
  funext handle
  simp only [Lib.view, attachedRemotes, filled.getRportInfo_eq _ mem]

theorem Lib.Filled.of_pool {lib : Lib} (inv : RportInv lib) (some : lib.pool ≠ []) : lib.Filled := by
  intro empty
  refine some ?_
  have limit : lib.rportsTable.stLimit.toNat = 0 := by
    have bound := UInt32.le_iff_toNat_le.mp inv.wf.limit
    rw [empty] at bound
    exact Nat.le_zero.mp bound
  rw [Lib.pool, SaTable.entries, limit]
  rfl

/-- The pool as the next query that needs it finds it. -/
def Lib.poolIn (lib : Lib) (env : Env) : List PortInfo :=
  match loadRports env lib with
  | .ok loaded => loaded.pool
  | .error _ => []

theorem Lib.poolIn_of_load {lib loaded : Lib} {env : Env} (load : loadRports env lib = .ok loaded) :
    lib.poolIn env = loaded.pool := by
  rw [Lib.poolIn, load]

/-- A query needs this remote port. -/
def Query.Claims (env : Env) (lib : Lib) (query : Query) (rport : PortInfo) : Prop :=
  ∃ pp port, query.CallsFor env lib pp ∧ lib.lports.get pp = some port ∧ port.belongs rport = true

/-- A library that can answer. -/
structure Ready (env : Env) (s : Lib) : Prop where
  steady : s.Steady
  smallInv : SmallInv s
  small : SmallRports env
  loads : ∃ loaded, loadRports env s = .ok loaded

section Called

variable {env : Env} {pp : Ptr} {port : PortInfo} {s t loaded : Lib} (ready : Ready env s)
  (live : s.lports.get pp = some port) (owner : port.apAdapt ≠ none)
  (called : getRportInfo env pp s = .ok t)
include ready live owner called

/-- A call for a local port takes its remote ports. -/
theorem Ready.called_pool (load : loadRports env s = .ok loaded) :
    t.rportsTable = loaded.rportsTable ∧ t.pool = loaded.pool.filter fun rport => !port.belongs rport := by
  obtain ⟨t', called', after⟩ :=
    getRportInfo_small ready.small ready.steady.sound.rports ready.smallInv live load
  obtain rfl : t' = t := Except.ok.inj (called'.symm.trans called)
  refine ⟨after.rportsTable, ?_⟩
  rw [Lib.pool, Lib.pool, after.rportsTable, List.filter_filter, List.filter_filterMap,
    List.filter_filterMap]
  refine List.filterMap_congr fun rp entry => ?_
  rw [after.rports rp]
  cases here : loaded.rports.get rp with
  | none => rfl
  | some rport =>
      have eligible : loaded.eligible port rp = (port.belongs rport && rport.apAdapt.isNone) :=
        Lib.eligible_of_get here
      by_cases waits : loaded.eligible port rp = true
      · rw [waits, eq_comm, Bool.and_eq_true] at eligible
        obtain ⟨ap, owned⟩ := Option.ne_none_iff_exists'.mp owner
        simp [entry, waits, owned, eligible.1, Option.filter]
      · rw [Bool.not_eq_true] at waits
        rw [waits, eq_comm, Bool.and_eq_false_iff] at eligible
        rcases eligible with foreign | marked
        · simp [waits, foreign, Option.filter]
        · simp [waits, marked, Option.filter]

theorem Ready.called_poolIn :
    t.poolIn env = (s.poolIn env).filter fun rport => !port.belongs rport := by
  obtain ⟨loaded, load⟩ := ready.loads
  obtain ⟨table, pool⟩ := ready.called_pool live owner called load
  rw [Lib.poolIn_of_load load]
  rcases getRportInfo_settles ready.steady.sound.rports live owner called with
    settled | ⟨rfl, unread⟩
  · have filled : t.Filled := settled.1
    rw [Lib.poolIn_of_load (filled.load env), pool]
  · -- an empty directory leaves everything as it was
    have same := load_idle ready.steady.sound.rports load (table ▸ unread)
    rw [Lib.poolIn_of_load load, ← pool, same]

end Called

section Ask

variable {env : Env} {query : Query} {s t : Lib} {reply : Reply} (ready : Ready env s)
  (asked : query.ask env s = .ok (reply, t))
include ready asked

/-- A query that calls for no local port changes nothing. -/
theorem Ready.ask_idle (idle : ∀ pp, ¬ query.CallsFor env s pp) : t = s := by
  rcases ask_state ready.steady.sound asked with ⟨pp, calls, -⟩ | ⟨-, same⟩
  · exact absurd calls (idle pp)
  · exact same

theorem Ready.ask_called {pp : Ptr} (calls : query.CallsFor env s pp) :
    getRportInfo env pp s = .ok t := by
  rcases ask_state ready.steady.sound asked with ⟨qq, calls', called⟩ | ⟨none, -⟩
  · rw [ready.steady.sound.callsFor_unique calls calls']
    exact called
  · exact absurd calls (none pp)

/-- What a query takes is what it needs. -/
theorem Ready.ask_poolIn {claims : PortInfo → Bool}
    (same : ∀ rport, claims rport = true ↔ query.Claims env s rport) :
    t.poolIn env = (s.poolIn env).filter fun rport => !claims rport := by
  rcases ask_state ready.steady.sound asked with ⟨pp, calls, called⟩ | ⟨none, rfl⟩
  · obtain ⟨port, live, owner⟩ := calls.port ready.steady.sound
    rw [ready.called_poolIn live owner called]
    refine List.filter_congr fun rport _ => congrArg _ (Bool.eq_iff_iff.mpr ?_)
    rw [same]
    constructor
    · exact fun own => ⟨pp, port, calls, live, own⟩
    · rintro ⟨qq, other, calls', live', own⟩
      obtain rfl := ready.steady.sound.callsFor_unique calls calls'
      rw [live, Option.some.injEq] at live'
      exact live' ▸ own
  · refine (List.filter_eq_self.mpr fun rport _ => ?_).symm
    rw [Bool.not_eq_true', Bool.eq_false_iff, ne_eq, same]
    rintro ⟨pp, -, calls, -, -⟩
    exact none pp calls

theorem Ready.ask_filled (filled : s.Filled) : t.Filled := by
  rcases ask_state ready.steady.sound asked with ⟨pp, calls, called⟩ | ⟨-, rfl⟩
  · obtain ⟨port, live, owner⟩ := calls.port ready.steady.sound
    rcases getRportInfo_settles ready.steady.sound.rports live owner called with settled | ⟨rfl, -⟩
    · exact settled.1
    · exact filled
  · exact filled

/-- Where the directory has no remote ports a query leaves everything as it is. -/
theorem Ready.ask_bare (load : loadRports env s = .ok s) (bare : ¬ s.Filled) : t = s := by
  rcases ask_state ready.steady.sound asked with ⟨pp, calls, called⟩ | ⟨-, rfl⟩
  · obtain ⟨port, live, owner⟩ := calls.port ready.steady.sound
    rcases getRportInfo_settles ready.steady.sound.rports live owner called with settled | ⟨rfl, -⟩
    · refine absurd ?_ bare
      rw [Lib.Filled, ← (ready.called_pool live owner called load).1]
      exact settled.1
    · rfl
  · rfl

/-- A query that needs remote ports fills the table. -/
theorem Ready.ask_fills {loaded : Lib} (load : loadRports env s = .ok loaded) (filled : loaded.Filled)
    {pp : Ptr} (calls : query.CallsFor env s pp) : t.Filled := by
  obtain ⟨port, live, owner⟩ := calls.port ready.steady.sound
  rw [Lib.Filled, (ready.called_pool live owner (ready.ask_called asked calls) load).1]
  exact filled

end Ask

end Hbalinux
