import Hbalinux.Reload

/-! # When remote ports are attached

A call of `get_rport_info` attaches all remote ports of a local port that are still free, and
once one has been made there is nothing left to attach.  So in every reachable state a local
port has none of its remote ports or all it will ever get, and whatever queries follow, it
keeps what it has or gets what a call would give it at once.
-/

namespace Hbalinux

open Outcome

/-- Claiming a remote port leaves all local ports but one as they were. -/
theorem claimRport_others {env : Env} {pp qq rp : Ptr} {lib lib' : Lib} (other : qq ≠ pp)
    (claimed : claimRport env pp rp lib = .ok lib') : lib'.lports.get qq = lib.lports.get qq := by
  obtain ⟨rport, port, -, -, ⟨-, rfl⟩ | ⟨-, found, rc, table, -, -, rfl⟩⟩ :=
    claimRport_eq_ok.mp claimed
  · rfl
  · exact Arena.get_store_ne _ other

theorem getRportInfo_others {env : Env} {pp qq : Ptr} {lib lib' : Lib} (other : qq ≠ pp)
    (called : getRportInfo env pp lib = .ok lib') : lib'.lports.get qq = lib.lports.get qq := by
  refine getRportInfo_preserves called (fun loaded load => ?_)
    fun rp a b held claimed => (claimRport_others other claimed).trans held
  rw [loadRports_framed load]

/-- A remote port that can be attached could be attached before. -/
theorem Kept.eligible {a b : Lib} (kept : Kept a b) {port : PortInfo} {rp : Ptr}
    (live : ∃ rport, a.rports.get rp = some rport) (eligible : b.eligible port rp) :
    a.eligible port rp := by
  obtain ⟨rport, here⟩ := live
  obtain ⟨owner, there, same⟩ := kept.rports rp rport here
  rw [Lib.eligible_of_get there, Bool.and_eq_true, PortInfo.belongs_claimedBy] at eligible
  rw [Lib.eligible_of_get here, Bool.and_eq_true]
  refine ⟨eligible.1, ?_⟩
  by_contra marked
  have claimed : rport.apAdapt ≠ none := fun free => marked (by rw [free]; rfl)
  apply marked
  rw [← same claimed]
  exact eligible.2

theorem Lib.Settled.attach {env : Env} {qq : Ptr} {port : PortInfo} {lib lib' : Lib}
    (settled : lib.Settled port) (inv : RportInv lib) (called : getRportInfo env qq lib = .ok lib') :
    lib'.Settled port := by
  have table : lib'.rportsTable = lib.rportsTable := by
    rw [getRportInfo_eq (if_neg settled.1) inv.wf] at called
    exact (attachAll_framed called).2
  refine ⟨table ▸ settled.1, fun rp entry eligible => ?_⟩
  rw [table] at entry
  exact settled.2 rp entry
    ((getRportInfo_kept inv called).eligible (inv.live_entry entry) eligible)

/-- A local port knows its adapter, and has attached nothing yet or all there is. -/
def Lib.AllOrNothing (lib : Lib) : Prop :=
  ∀ pp port, lib.lports.get pp = some port →
    port.apAdapt ≠ none ∧ (port.apRports = saTableInit ∨ lib.Settled port)

theorem allOrNothing_of_reachable {allowed : Env → Prop} {lib : Lib}
    (reachable : Reachable allowed lib) : lib.AllOrNothing := by
  apply reachable.attach_invariant
  · intro pp port live
    rw [Lib.init, Arena.get_empty] at live
    cases live
  · intro env dp t exit t' inv held scanned pp port live
    rcases sysfsScan_cases inv.wf scanned with
      ⟨-, table, rfl, -⟩ | ⟨-, -, found, made, adPorts, buf, adapter, -, built, -, rfl⟩
    · exact held pp port live
    · obtain ⟨-, owner, -, -, fresh⟩ := buildPort_eq built
      simp only [Lib.publish, Arena.get_store] at live
      split at live
      · cases live
        exact ⟨by rw [owner]; exact Option.some_ne_none _, .inl fresh⟩
      · exact held pp port live
  · intro t _ pp port live
    rw [Lib.init, Arena.get_empty] at live
    cases live
  · intro env qq t t' inv held _ called pp port live
    by_cases same : pp = qq
    · subst same
      obtain ⟨table, after⟩ := (getRportInfo_framed called).lports pp
      cases before : t.lports.get pp with
      | none =>
          rw [before, live] at after
          cases after
      | some old =>
          rw [before, live, Option.map_some, Option.some.injEq] at after
          obtain ⟨owner, -⟩ := held pp old before
          rcases getRportInfo_settles inv before owner called with settled | ⟨rfl, -⟩
          · rw [after]
            exact ⟨owner, .inr settled⟩
          · exact held pp port live
    · rw [getRportInfo_others same called] at live
      obtain ⟨owner, tables⟩ := held pp port live
      exact ⟨owner, tables.imp_right fun settled => settled.attach inv called⟩

/-- Two states agree on the local port at `pp` and, marks apart, on every remote port. -/
structure Agree (pp : Ptr) (a b : Lib) : Prop where
  table : b.rportsTable = a.rportsTable
  port : b.lports.get pp = a.lports.get pp
  rports : ∀ rp, ∃ owner, b.rports.get rp = (a.rports.get rp).map fun rport => rport.claimedBy owner

theorem Agree.refl (pp : Ptr) (lib : Lib) : Agree pp lib lib := by
  refine ⟨rfl, rfl, fun rp => ?_⟩
  cases lib.rports.get rp with
  | none => exact ⟨none, rfl⟩
  | some rport => exact ⟨rport.apAdapt, rfl⟩

theorem Agree.trans {pp : Ptr} {a b c : Lib} (first : Agree pp a b) (second : Agree pp b c) :
    Agree pp a c := by
  refine ⟨second.table.trans first.table, second.port.trans first.port, fun rp => ?_⟩
  obtain ⟨owner, mid⟩ := first.rports rp
  obtain ⟨owner', last⟩ := second.rports rp
  refine ⟨owner', ?_⟩
  rw [last, mid, Option.map_map]
  rfl

theorem Agree.rport {pp rp : Ptr} {a b : Lib} (agree : Agree pp a b) {rport : PortInfo}
    (live : a.rports.get rp = some rport) :
    ∃ owner, b.rports.get rp = some (rport.claimedBy owner) := by
  obtain ⟨owner, same⟩ := agree.rports rp
  exact ⟨owner, by rw [same, live, Option.map_some]⟩

/-- Storing a mark. -/
theorem store_marked {rports : Arena PortInfo} {rp : Ptr} {rport : PortInfo}
    (live : rports.get rp = some rport) (owner : Option Ptr) (q : Ptr) :
    ∃ mark, (rports.store rp (rport.claimedBy owner)).get q =
      (rports.get q).map fun other => other.claimedBy mark := by
  rw [Arena.get_store]
  split
  · rename_i same
    exact ⟨owner, by rw [same, live, Option.map_some]⟩
  · cases rports.get q with
    | none => exact ⟨owner, rfl⟩
    | some other => exact ⟨other.apAdapt, rfl⟩

/-- A walk changes nothing of a remote port but its mark. -/
theorem attachAll_marks {env : Env} {pp : Ptr} {rps : List Ptr} {lib lib' : Lib}
    (attached : attachAll env pp rps lib = .ok lib') (q : Ptr) :
    ∃ owner, lib'.rports.get q = (lib.rports.get q).map fun rport => rport.claimedBy owner := by
  induction rps generalizing lib with
  | nil =>
      cases attached
      exact (Agree.refl pp _).rports q
  | cons rp rps ih =>
      rw [attachAll, List.foldlM_cons, bind_eq_ok] at attached
      obtain ⟨mid, claimed, rest⟩ := attached
      obtain ⟨owner, last⟩ := ih rest
      obtain ⟨rport, port, live, -, ⟨-, rfl⟩ | ⟨-, found, rc, table, -, -, rfl⟩⟩ :=
        claimRport_eq_ok.mp claimed
      · exact ⟨owner, last⟩
      · obtain ⟨mark, stored⟩ := store_marked live port.apAdapt q
        exact ⟨owner, (last.trans (congrArg _ stored)).trans (Option.map_map ..)⟩

/-- A claim for another local port. -/
theorem claimRport_agree {env : Env} {pp qq rp : Ptr} {a b : Lib} (other : pp ≠ qq)
    (claimed : claimRport env qq rp a = .ok b) : Agree pp a b := by
  obtain ⟨rport, port, live, -, ⟨-, rfl⟩ | ⟨-, found, rc, table, -, -, rfl⟩⟩ :=
    claimRport_eq_ok.mp claimed
  · exact .refl pp a
  · exact ⟨rfl, Arena.get_store_ne _ other, store_marked live _⟩

/-- Agreeing states make the same of a claim for the local port they agree on. -/
theorem Agree.claim {env : Env} {pp rp : Ptr} {a b a' : Lib} {port : PortInfo}
    (agree : Agree pp a b) (live : a.lports.get pp = some port)
    (free : ∀ q, b.eligible port q = a.eligible port q)
    (claimed : claimRport env pp rp a = .ok a') :
    ∃ b', claimRport env pp rp b = .ok b' ∧ Agree pp a' b' ∧
      ∀ q, b'.eligible port q = a'.eligible port q := by
  obtain ⟨rport, port', here, livePort, rest⟩ := claimRport_eq_ok.mp claimed
  obtain rfl : port' = port := Option.some.inj (livePort.symm.trans live)
  obtain ⟨owner, here'⟩ := agree.rport here
  have livePort' : b.lports.get pp = some port' := agree.port.trans live
  have sameGuard := Bool.eq_iff_iff.mp (free rp)
  rw [Lib.eligible_iff here, Lib.eligible_iff here'] at sameGuard
  rcases rest with ⟨guard, rfl⟩ | ⟨guard, found, rc, table, looked, inserted, rfl⟩
  · exact ⟨b, claimRport_eq_ok.mpr ⟨_, port', here', livePort', .inl ⟨mt sameGuard.mp guard, rfl⟩⟩,
      agree, free⟩
  · refine ⟨_, claimRport_eq_ok.mpr ⟨_, port', here', livePort',
      .inr ⟨sameGuard.mpr guard, found, rc, table, looked, inserted, rfl⟩⟩, ⟨agree.table, ?_, ?_⟩, ?_⟩
    · exact (Arena.get_store_self _ _ _).trans (Arena.get_store_self _ _ _).symm
    · intro q
      by_cases same : q = rp
      · refine ⟨port'.apAdapt, ?_⟩
        rw [same, Lib.mark, Lib.mark, Arena.get_store_self, Arena.get_store_self]
        rfl
      · rw [Lib.mark, Lib.mark, Arena.get_store_ne _ same, Arena.get_store_ne _ same]
        exact agree.rports q
    · intro q
      by_cases same : q = rp
      · rw [same, Lib.eligible_of_get (Arena.get_store_self _ _ _),
          Lib.eligible_of_get (Arena.get_store_self _ _ _)]
        rfl
      · have same' := free q
        simpa only [Lib.mark, Lib.eligible, Arena.get_store_ne _ same] using same'

theorem Agree.attachAll {env : Env} {pp : Ptr} {rps : List Ptr} {a b a' : Lib} {port : PortInfo}
    (agree : Agree pp a b) (live : a.lports.get pp = some port)
    (free : ∀ q, b.eligible port q = a.eligible port q)
    (attached : Hbalinux.attachAll env pp rps a = .ok a') :
    ∃ b', Hbalinux.attachAll env pp rps b = .ok b' ∧ Agree pp a' b' := by
  induction rps generalizing a b port with
  | nil =>
      cases attached
      exact ⟨b, rfl, agree⟩
  | cons rp rps ih =>
      rw [Hbalinux.attachAll, List.foldlM_cons, bind_eq_ok] at attached
      obtain ⟨mid, claimed, rest⟩ := attached
      obtain ⟨mid', claimed', agree', free'⟩ := agree.claim live free claimed
      obtain ⟨table, live'⟩ := (claimRport_framed claimed).1.lports pp
      rw [live, Option.map_some] at live'
      obtain ⟨b', rest', last⟩ := ih agree' live' free' rest
      refine ⟨b', ?_, last⟩
      rw [Hbalinux.attachAll, List.foldlM_cons, claimed', ok_bind]
      exact rest'

theorem getRportInfo_agree {env : Env} {pp qq : Ptr} {a b : Lib} (other : pp ≠ qq)
    (read : a.rportsTable.stSize ≠ 0) (called : getRportInfo env qq a = .ok b) : Agree pp a b := by
  refine getRportInfo_preserves called (fun loaded load => ?_)
    fun rp s t held claimed => held.trans (claimRport_agree other claimed)
  rw [loadRports, if_neg read, Except.ok.injEq] at load
  exact load ▸ .refl pp a

/-- A walk with something to look at needs its local port. -/
theorem attachAll_live {env : Env} {pp : Ptr} {rps : List Ptr} {lib lib' : Lib} (some : rps ≠ [])
    (attached : attachAll env pp rps lib = .ok lib') : ∃ port, lib.lports.get pp = .some port := by
  cases rps with
  | nil => exact absurd rfl some
  | cons rp rps =>
      rw [attachAll, List.foldlM_cons, bind_eq_ok] at attached
      obtain ⟨mid, claimed, -⟩ := attached
      obtain ⟨rport, port, -, live, -⟩ := claimRport_eq_ok.mp claimed
      exact ⟨port, live⟩

/-- Claims for a local port of another host or number leave the remote ports of this one free. -/
theorem attachAll_free {env : Env} {qq : Ptr} {rps : List Ptr} {a b : Lib} {port other : PortInfo}
    (live : a.lports.get qq = some other)
    (apart : ¬ (other.apKernHba = port.apKernHba ∧ other.apIndex = port.apIndex))
    (attached : attachAll env qq rps a = .ok b) : ∀ q, b.eligible port q = a.eligible port q := by
  induction rps generalizing a other with
  | nil =>
      cases attached
      exact fun _ => rfl
  | cons rp rps ih =>
      rw [attachAll, List.foldlM_cons, bind_eq_ok] at attached
      obtain ⟨mid, claimed, rest⟩ := attached
      obtain ⟨table, live'⟩ := (claimRport_framed claimed).1.lports qq
      rw [live, Option.map_some] at live'
      intro q
      rw [ih live' apart rest q]
      obtain ⟨rport, port', here, livePort, ⟨-, rfl⟩ | ⟨guard, found, rc, table, -, -, rfl⟩⟩ :=
        claimRport_eq_ok.mp claimed
      · rfl
      · obtain rfl : port' = other := Option.some.inj (livePort.symm.trans live)
        by_cases same : q = rp
        · have foreign : port.belongs rport = false := by
            rw [Bool.eq_false_iff, ne_eq, PortInfo.belongs_iff]
            exact fun mine => apart ⟨guard.1.symm.trans mine.1, guard.2.1.symm.trans mine.2⟩
          have marked : port.belongs { rport with apAdapt := port'.apAdapt } = false := foreign
          rw [same, Lib.eligible_of_get here, Lib.eligible_of_get (Arena.get_store_self _ _ _),
            foreign, marked, Bool.false_and, Bool.false_and]
        · simp only [Lib.mark, Lib.eligible, Arena.get_store_ne _ same]

/-- What calls of `get_rport_info` for whatever local ports can do to the one at `pp`: its
    remote ports are still free, or they are attached or given away. -/
def Phase (pp : Ptr) (port : PortInfo) (loaded attached s : Lib) : Prop :=
  (Agree pp loaded s ∧ ∀ q, s.eligible port q = loaded.eligible port q) ∨
    (Agree pp loaded s ∨ Agree pp attached s) ∧ s.Settled port

/-- No other local port has the host and number of the one at `pp`. -/
def Lib.Alone (lib : Lib) (pp : Ptr) (port : PortInfo) : Prop :=
  ∀ qq other, lib.lports.get qq = some other → other.apKernHba = port.apKernHba →
    other.apIndex = port.apIndex → qq = pp

theorem Framed.alone {lib lib' : Lib} {pp : Ptr} {port : PortInfo} (framed : Framed lib lib')
    (alone : lib.Alone pp port) : lib'.Alone pp port := by
  intro qq other live kern index
  obtain ⟨table, before⟩ := framed.lports qq
  rw [live] at before
  cases here : lib.lports.get qq with
  | none =>
      rw [here] at before
      cases before
  | some old =>
      rw [here, Option.map_some, Option.some.injEq] at before
      rw [before] at kern index
      exact alone qq old here kern index

/-- Once nothing is left for a local port, it stays as it is. -/
theorem Agree.settled_step {env : Env} {pp qq : Ptr} {port : PortInfo} {table : SaTable Ptr}
    {target s s' : Lib} (agree : Agree pp target s) (settled : s.Settled port) (rports : RportInv s)
    (live : s.lports.get pp = some (port.withRports table))
    (asked : getRportInfo env qq s = .ok s') : Agree pp target s' ∧ s'.Settled port := by
  refine ⟨?_, settled.attach rports asked⟩
  by_cases same : pp = qq
  · subst same
    have still : s.Settled (port.withRports table) := settled
    rw [still.idle rports live env, Except.ok.injEq] at asked
    exact asked ▸ agree
  · exact agree.trans (getRportInfo_agree same settled.1 asked)

section Phase

variable {env : Env} {pp : Ptr} {port : PortInfo} {loaded attached : Lib}
  (live : loaded.lports.get pp = some port) (read : loaded.rportsTable.stSize ≠ 0)
  (inv : RportInv loaded) (called : getRportInfo env pp loaded = .ok attached)
include live read inv called

/-- A call where the remote ports are still free attaches them, leaves them free, or gives them
    to another local port of the same host and number. -/
theorem Agree.free_step {qq : Ptr} {s s' : Lib} (sound : s.Sound) (owner : port.apAdapt ≠ none)
    (agree : Agree pp loaded s) (free : ∀ q, s.eligible port q = loaded.eligible port q)
    (asked : getRportInfo env qq s = .ok s') :
    (Agree pp attached s' ∧ s'.Settled port) ∨
      (Agree pp loaded s' ∧ ∀ q, s'.eligible port q = loaded.eligible port q) ∨
      (Agree pp loaded s' ∧ s'.Settled port ∧ pp ≠ qq ∧ ∃ other, s.lports.get qq = some other ∧
        other.apKernHba = port.apKernHba ∧ other.apIndex = port.apIndex) := by
  have walk := called
  rw [getRportInfo_eq (if_neg read) inv.wf] at walk
  have readHere : s.rportsTable.stSize ≠ 0 := agree.table ▸ read
  have walked := asked
  rw [getRportInfo_eq (if_neg readHere) sound.rports.wf, agree.table] at walked
  have liveHere : s.lports.get pp = some port := agree.port.trans live
  by_cases same : pp = qq
  · subst same
    obtain ⟨last, walked', agree'⟩ := agree.attachAll live free walk
    obtain rfl : s' = last := Except.ok.inj (walked.symm.trans walked')
    exact .inl ⟨agree', (getRportInfo_settles sound.rports liveHere owner asked).resolve_right
      fun idle => readHere idle.2⟩
  have agree' := agree.trans (getRportInfo_agree same readHere asked)
  by_cases entries : loaded.rportsTable.entries = []
  · rw [entries] at walked
    cases walked
    exact .inr (.inl ⟨agree, free⟩)
  obtain ⟨other, liveOther⟩ := attachAll_live entries walked
  obtain ⟨i, ap, adapter, slot⟩ := sound.adapters.port_slot liveOther
  have ownerOther : other.apAdapt ≠ none := by
    rw [slot.owns.owner]
    exact Option.some_ne_none _
  by_cases alike : other.apKernHba = port.apKernHba ∧ other.apIndex = port.apIndex
  · -- what the other local port leaves is not for this one either
    have settled := (getRportInfo_settles sound.rports liveOther ownerOther asked).resolve_right
      fun idle => readHere idle.2
    have sameClaims : ∀ rp, s'.eligible other rp = s'.eligible port rp := by
      intro rp
      simp only [Lib.eligible, PortInfo.belongs, alike.1, alike.2]
    refine .inr (.inr ⟨agree', ⟨settled.1, fun rp entry eligible => settled.2 rp entry ?_⟩, same,
      other, liveOther, alike⟩)
    rwa [sameClaims]
  · refine .inr (.inl ⟨agree', fun q => ?_⟩)
    rw [attachAll_free liveOther alike walked q, free q]

/-- The local port in a state that agrees with the one before or after the call. -/
theorem agree_live {s : Lib} (agree : Agree pp loaded s ∨ Agree pp attached s) :
    ∃ table, s.lports.get pp = some (port.withRports table) := by
  rw [getRportInfo_eq (if_neg read) inv.wf] at called
  rcases agree with agree | agree
  · exact ⟨port.apRports, agree.port.trans live⟩
  · obtain ⟨table, after⟩ := (attachAll_framed called).1.lports pp
    rw [live, Option.map_some] at after
    exact ⟨table, agree.port.trans after⟩

theorem Phase.step {qq : Ptr} {s s' : Lib} (sound : s.Sound) (owner : port.apAdapt ≠ none)
    (phase : Phase pp port loaded attached s) (asked : getRportInfo env qq s = .ok s') :
    Phase pp port loaded attached s' := by
  rcases phase with ⟨agree, free⟩ | ⟨agree, settled⟩
  · rcases agree.free_step live read inv called sound owner free asked with
      ⟨agree', settled⟩ | still | ⟨agree', settled, -⟩
    · exact .inr ⟨.inr agree', settled⟩
    · exact .inl still
    · exact .inr ⟨.inl agree', settled⟩
  · obtain ⟨table, liveHere⟩ := agree_live live read inv called agree
    refine .inr ⟨?_, settled.attach sound.rports asked⟩
    exact agree.imp (fun before => (before.settled_step settled sound.rports liveHere asked).1)
      fun after => (after.settled_step settled sound.rports liveHere asked).1

/-- Where no other local port has the same host and number, or there is nothing to attach, the
    remote ports stay free until they are attached. -/
theorem Phase.alone_step {qq : Ptr} {s s' : Lib} (sound : s.Sound) (owner : port.apAdapt ≠ none)
    (alone : s.Alone pp port ∨ attached = loaded)
    (phase : (Agree pp loaded s ∧ ∀ q, s.eligible port q = loaded.eligible port q) ∨
      (Agree pp attached s ∧ s.Settled port)) (asked : getRportInfo env qq s = .ok s') :
    (Agree pp loaded s' ∧ ∀ q, s'.eligible port q = loaded.eligible port q) ∨
      (Agree pp attached s' ∧ s'.Settled port) := by
  rcases phase with ⟨agree, free⟩ | ⟨agree, settled⟩
  · rcases agree.free_step live read inv called sound owner free asked with
      done | still | ⟨agree', settled, different, other, liveOther, kern, index⟩
    · exact .inr done
    · exact .inl still
    · rcases alone with alone | idle
      · exact absurd (alone qq other liveOther kern index).symm different
      · exact .inr ⟨idle ▸ agree', settled⟩
  · obtain ⟨table, liveHere⟩ := agree_live live read inv called (.inr agree)
    exact .inr (agree.settled_step settled sound.rports liveHere asked)

end Phase

theorem Attaches.framed {env : Env} {lib later : Lib} (attaches : Attaches env lib later) :
    Framed lib later :=
  attaches.preserves (fun _ _ _ held called => held.trans (getRportInfo_framed called)) (.refl lib)

/-- Whatever is attached on the way, a local port is left as it was or gets what a call of
    `get_rport_info` gives it at the start. -/
theorem Attaches.agree {env : Env} {pp : Ptr} {port : PortInfo} {lib loaded attached later : Lib}
    (sound : lib.Sound) (live : lib.lports.get pp = some port) (owner : port.apAdapt ≠ none)
    (load : loadRports env lib = .ok loaded) (called : getRportInfo env pp lib = .ok attached)
    (attaches : Attaches env lib later) :
    later = lib ∨ Agree pp loaded later ∨ Agree pp attached later := by
  have reread := Reread.of_load sound.rports load
  have inv := loadRports_inv sound.rports load
  by_cases idle : loaded.rportsTable.stSize = 0
  · have same : loaded = lib := load_idle sound.rports load idle
    refine .inl (attaches.preserves (P := fun s => s = lib) (fun qq a b held asked => ?_) rfl)
    rw [held, getRportInfo_eq load inv.wf, SaTable.eq_init inv.wf idle, SaTable.entries_init]
      at asked
    exact (Except.ok.inj asked).symm.trans same
  · cases attaches with
    | refl => exact .inl rfl
    | step asked rest =>
        have fromLoaded : Attaches env loaded later := by
          rw [reread.getRportInfo_eq] at asked
          exact .step asked rest
        have liveLoaded : loaded.lports.get pp = some port := by
          rw [loadRports_framed load]
          exact live
        rw [reread.getRportInfo_eq] at called
        have phase := (fromLoaded.preserves
          (P := fun s => s.Sound ∧ Phase pp port loaded attached s)
          (fun qq a b held asked => ⟨held.1.attach asked,
            held.2.step liveLoaded idle inv called held.1 owner asked⟩)
          ⟨sound.load load, .inl ⟨.refl pp loaded, fun _ => rfl⟩⟩).2
        rcases phase with ⟨agree, -⟩ | ⟨agree, -⟩
        · exact .inr (.inl agree)
        · exact .inr agree

/-- Whatever is attached on the way, a call for the only local port of its host, or for one that
    gets nothing, gives it in the end what it gives it at the start. -/
theorem Attaches.reaches {env : Env} {pp : Ptr} {port : PortInfo} {lib loaded attached later : Lib}
    (sound : lib.Sound) (live : lib.lports.get pp = some port) (owner : port.apAdapt ≠ none)
    (load : loadRports env lib = .ok loaded) (called : getRportInfo env pp lib = .ok attached)
    (alone : lib.Alone pp port ∨ attached = loaded) (attaches : Attaches env lib later) :
    ∃ last, getRportInfo env pp later = .ok last ∧ Agree pp attached last := by
  have inv := loadRports_inv sound.rports load
  have reread := Reread.of_load sound.rports load
  by_cases idle : loaded.rportsTable.stSize = 0
  · have same : later = lib := by
      have loadedSame : loaded = lib := load_idle sound.rports load idle
      refine attaches.preserves (P := fun s => s = lib) (fun qq a b held asked => ?_) rfl
      rw [held, getRportInfo_eq load inv.wf, SaTable.eq_init inv.wf idle, SaTable.entries_init]
        at asked
      exact (Except.ok.inj asked).symm.trans loadedSame
    exact ⟨attached, same ▸ called, .refl pp attached⟩
  cases attaches with
  | refl => exact ⟨attached, called, .refl pp attached⟩
  | step asked rest =>
      have fromLoaded : Attaches env loaded later := by
        rw [reread.getRportInfo_eq] at asked
        exact .step asked rest
      have liveLoaded : loaded.lports.get pp = some port := by
        rw [loadRports_framed load]
        exact live
      rw [reread.getRportInfo_eq] at called
      obtain ⟨soundLater, -, phase⟩ := fromLoaded.preserves
        (P := fun s => s.Sound ∧ Framed lib s ∧
          ((Agree pp loaded s ∧ ∀ q, s.eligible port q = loaded.eligible port q) ∨
            (Agree pp attached s ∧ s.Settled port)))
        (fun qq a b held asked => by
          refine ⟨held.1.attach asked, held.2.1.trans (getRportInfo_framed asked), ?_⟩
          exact Phase.alone_step liveLoaded idle inv called held.1 owner
            (alone.imp_left held.2.1.alone) held.2.2 asked)
        ⟨sound.load load, by
          rw [loadRports_framed load]
          exact .of_lports_eq rfl rfl rfl, .inl ⟨.refl pp loaded, fun _ => rfl⟩⟩
      rcases phase with ⟨agree, free⟩ | ⟨agree, settled⟩
      · have walk := called
        rw [getRportInfo_eq (if_neg idle) inv.wf] at walk
        obtain ⟨last, walked, agree'⟩ := agree.attachAll liveLoaded free walk
        refine ⟨last, ?_, agree'⟩
        rw [getRportInfo_eq (if_neg (agree.table ▸ idle)) soundLater.rports.wf, agree.table]
        exact walked
      · obtain ⟨table, liveLater⟩ := agree_live liveLoaded idle inv called (.inr agree)
        have still : later.Settled (port.withRports table) := settled
        exact ⟨later, still.idle soundLater.rports liveLater env, agree⟩

theorem lookup_last (tp : SaTable Ptr) : saTableLookup tp 0xffffffff = .ok none := by
  have bound := tp.stLimit.toNat_lt
  rw [saTableLookup, if_neg]
  rw [UInt32.lt_iff_toNat_lt]
  have last : (0xffffffff : UInt32).toNat = 2 ^ 32 - 1 := rfl
  omega

/-- There is a query that attaches the remote ports and finds none. -/
theorem Lib.Slot.ask_attached {env : Env} {lib attached : Lib} {i : Nat} {ap pp : Ptr}
    {adapter : AdapterInfo} {port : PortInfo} (slot : lib.Slot i ap pp adapter port)
    {handle : HbaHandle} (opened : adapterOpenHandle lib handle = .ok (some ap))
    (called : getRportInfo env pp lib = .ok attached) :
    (Query.rport handle 0 0xffffffff).ask env lib = .ok (.port none, attached) := by
  obtain ⟨t, slot'⟩ := slot.framed (getRportInfo_framed called)
  have found : adapterGetRport env handle 0 0xffffffff lib = .ok (none, attached) := by
    simp only [adapterGetRport, findRportOf, slot.adapterGetPort_eq opened, ok_bind, if_true, findRport,
      called, Lib.port, slot'.owns.livePort, demand_some, lookup_last]
  simp only [Query.ask, found, replyPort, ok_bind]

end Hbalinux
