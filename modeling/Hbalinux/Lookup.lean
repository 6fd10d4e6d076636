import Hbalinux.AttachInvariant
import Hbalinux.Bind

/-! # Lookups of remote ports

A lookup first attaches the remote ports of a local port, then searches its table.
In between come states in which the remote ports may or may not be attached yet;
they all lead to the same one, so that a lookup does not depend on earlier ones.
-/

namespace Hbalinux

open Outcome

/-- A search of live remote ports is a search of a list. -/
theorem firstMatch_eq {lib : Lib} {test : PortInfo → Bool} {rps : List Ptr}
    (live : ∀ rp ∈ rps, ∃ rport, lib.rports.get rp = some rport) :
    SaTable.firstMatch (matchRport test lib) rps =
      .ok (rps.find? fun rp => (lib.rports.get rp).any test) := by
  induction rps with
  | nil => rfl
  | cons rp rps ih =>
      obtain ⟨rport, here⟩ := live rp (List.mem_cons_self ..)
      rw [SaTable.firstMatch, matchRport, Lib.rport, here, List.find?_cons, here]
      simp only [demand_some, ok_bind, Option.any_some]
      cases test rport with
      | true => rfl
      | false => exact ih fun q member => live q (List.mem_cons_of_mem _ member)

/-- Searching the table of a local port. -/
theorem search_table_eq {lib : Lib} (own : OwnInv lib) {pp : Ptr} {port : PortInfo}
    (live : lib.lports.get pp = some port) (wf : port.apRports.Wf)
    (limit : port.apRports.stLimit.toNat ≤ 2 ^ 31) (test : PortInfo → Bool) :
    saTableSearch port.apRports (matchRport test lib) =
      .ok (port.apRports.entries.find? fun rp => (lib.rports.get rp).any test) := by
  rw [SaTable.search_eq wf limit, firstMatch_eq]
  intro rp entry
  obtain ⟨i, found⟩ := SaTable.mem_entries.mp entry
  obtain ⟨rport, here, -⟩ := own pp port live i rp (SaTable.slot_of_view found)
  exact ⟨rport, here⟩

theorem slotInt_view {tp : SaTable Ptr} {i : Nat} {cell : Option Ptr} (inside : i < tp.stLimit.toNat)
    (read : tp.slotInt i = .ok cell) : tp.view i = cell := by
  unfold SaTable.slotInt at read
  split at read
  · rw [SaTable.slot, demand_eq_ok] at read
    rw [SaTable.view, if_pos inside, read, Option.join_some]
  · cases read

/-- A search that returns has searched the entries, whatever state the table is in. -/
theorem searchFrom_find {tp : SaTable Ptr} {lib : Lib} {test : PortInfo → Bool} {count i : Nat}
    {found : Option Ptr} (inside : i + count ≤ tp.stLimit.toNat)
    (searched : tp.searchFrom (matchRport test lib) count i = .ok found) :
    found = ((List.range' i count).filterMap tp.view).find? fun rp =>
      (lib.rports.get rp).any test := by
  induction count generalizing i with
  | zero =>
      cases searched
      rfl
  | succ count ih =>
      obtain ⟨cell, read, rest⟩ := bind_eq_ok.mp searched
      have view := slotInt_view (by omega) read
      rw [List.range'_succ]
      cases cell with
      | none =>
          rw [List.filterMap_cons_none view]
          exact ih (by omega) rest
      | some rp =>
          obtain ⟨result, matched, rest⟩ := bind_eq_ok.mp rest
          obtain ⟨rport, here, matched⟩ := bind_eq_ok.mp matched
          rw [Lib.rport, demand_eq_ok] at here
          cases matched
          rw [List.filterMap_cons_some view, List.find?_cons, here, Option.any_some]
          cases passes : test rport with
          | true =>
              rw [passes] at rest
              cases rest
              rfl
          | false =>
              rw [passes] at rest
              exact ih (by omega) rest

/-- A search that found a remote port finds it under any other test that only it
    passes. -/
theorem searchFrom_other {tp : SaTable Ptr} {lib : Lib} {test test' : PortInfo → Bool}
    {count i : Nat} {rp : Ptr} {rport : PortInfo} (inside : i + count ≤ tp.stLimit.toNat)
    (searched : tp.searchFrom (matchRport test lib) count i = .ok (some rp))
    (here : lib.rports.get rp = some rport) (passes : test' rport = true)
    (only : ∀ q other, q ∈ tp.entries → lib.rports.get q = some other → test' other = true →
      other = rport) :
    ∃ q, tp.searchFrom (matchRport test' lib) count i = .ok (some q) ∧
      lib.rports.get q = some rport := by
  induction count generalizing i with
  | zero => cases searched
  | succ count ih =>
      obtain ⟨cell, read, rest⟩ := bind_eq_ok.mp searched
      have view := slotInt_view (by omega) read
      rw [SaTable.searchFrom, read, ok_bind]
      cases cell with
      | none => exact ih (by omega) rest
      | some q =>
          obtain ⟨result, matched, rest⟩ := bind_eq_ok.mp rest
          obtain ⟨other, there, matched⟩ := bind_eq_ok.mp matched
          have live := there
          rw [Lib.rport, demand_eq_ok] at live
          cases matched
          simp only [matchRport, there, ok_bind]
          cases passes' : test' other with
          | true =>
              refine ⟨q, rfl, ?_⟩
              rw [live, only q other (SaTable.mem_entries.mpr ⟨i, view⟩) live passes']
          | false =>
              cases found : test other with
              | true =>
                  rw [found] at rest
                  cases rest
                  rw [here, Option.some.injEq] at live
                  rw [← live, passes] at passes'
                  cases passes'
              | false =>
                  rw [found] at rest
                  exact ih (by omega) rest

/-- The remote ports attached to a local port, in index order. -/
def Lib.remotes (lib : Lib) (pp : Ptr) : List PortInfo :=
  match lib.lports.get pp with
  | none => []
  | some port => port.apRports.entries.filterMap lib.rports.get

/-- A search of the table finds the address of what a search of its remote ports
    finds. -/
theorem Lib.find_remotes {lib : Lib} {pp : Ptr} {port : PortInfo}
    (live : lib.lports.get pp = some port) (test : PortInfo → Bool) :
    (port.apRports.entries.find? fun rp => (lib.rports.get rp).any test).map lib.rports.get =
      ((lib.remotes pp).find? test).map some := by
  simp only [Lib.remotes, live, List.find?_filterMap]
  cases found : port.apRports.entries.find? fun rp => (lib.rports.get rp).any test with
  | none => rfl
  | some rp =>
      have passes := List.find?_some found
      obtain ⟨rport, here, -⟩ := (Option.any_eq_true _ _).mp passes
      simp [here]

/-- The remote ports of a local port, once they are attached. -/
def attachedRemotes (env : Env) (pp : Ptr) (lib : Lib) : List PortInfo :=
  match getRportInfo env pp lib with
  | .ok attached => attached.remotes pp
  | .error _ => []

/-- The first remote port with the target number of an address, of the local port of
    a handle that the address names. -/
def targetRport (env : Env) (handle : HbaHandle) (lib : Lib) (address : ScsiAddress) :
    Option PortInfo :=
  match adapterGetPort lib handle address.port with
  | .ok (some pp) => (attachedRemotes env pp lib).find? fun rport =>
      rport.apScsiTarget == address.tgt
  | _ => none

theorem targetRport_of_port {env : Env} {handle : HbaHandle} {lib : Lib} {address : ScsiAddress}
    {pp : Ptr} (localPort : adapterGetPort lib handle address.port = .ok (some pp)) :
    targetRport env handle lib address = (attachedRemotes env pp lib).find? fun rport =>
      rport.apScsiTarget == address.tgt := by
  rw [targetRport, localPort]

/-- A state between `lib` and the state `attached` in which the remote ports of the
    local port at `pp` are attached. -/
structure Between (env : Env) (pp : Ptr) (lib attached s : Lib) : Prop where
  sound : s.Sound
  framed : Framed lib s
  reaches : getRportInfo env pp s = .ok attached

/-- The states before and after a call of `getRportInfo`. -/
theorem Lib.Sound.between {env : Env} {lib attached : Lib} (sound : lib.Sound) {i : Nat}
    {ap pp : Ptr} {adapter : AdapterInfo} {port : PortInfo} (slot : lib.Slot i ap pp adapter port)
    (called : getRportInfo env pp lib = .ok attached) :
    Between env pp lib attached lib ∧ Between env pp lib attached attached := by
  have owner : port.apAdapt ≠ none := by
    rw [slot.owns.owner]
    exact Option.some_ne_none _
  exact ⟨⟨sound, .refl lib, called⟩, sound.attach called, getRportInfo_framed called,
    getRportInfo_idempotent sound.rports slot.owns.livePort owner called⟩

/-- An adapter as a state between sees it. -/
structure Opened (handle : HbaHandle) (ap pp : Ptr) (adapter : AdapterInfo) (port : PortInfo)
    (s : Lib) : Prop where
  slot : ∃ i, s.Slot i ap pp adapter port
  handle : adapterOpenHandle s handle = .ok (some ap)

theorem Between.opened {env : Env} {lib attached s : Lib} {handle : HbaHandle} {ap pp : Ptr}
    {adapter : AdapterInfo} {port : PortInfo} (between : Between env pp lib attached s)
    (opened : Opened handle ap pp adapter port lib) :
    ∃ t, Opened handle ap pp adapter { port with apRports := t } s := by
  obtain ⟨i, slot⟩ := opened.slot
  obtain ⟨t, after⟩ := slot.framed between.framed
  refine ⟨t, ⟨i, after⟩, ?_⟩
  rw [adapterOpenHandle, between.framed.adapterTable]
  exact opened.handle

theorem Between.targetRport_eq {env : Env} {lib attached s : Lib} {handle : HbaHandle} {ap pp : Ptr}
    {adapter : AdapterInfo} {port : PortInfo} (between : Between env pp lib attached s)
    (opened : Opened handle ap pp adapter port s) (address : ScsiAddress) :
    targetRport env handle s address = if address.port = 0 then
      (attached.remotes pp).find? fun rport => rport.apScsiTarget == address.tgt else none := by
  obtain ⟨i, slot⟩ := opened.slot
  unfold targetRport
  rw [slot.adapterGetPort_eq opened.handle]
  by_cases first : address.port = 0
  · simp only [if_pos first, attachedRemotes, between.reaches]
  · simp only [if_neg first]

/-- A target lookup that returns has found what it would find on its own. -/
theorem Between.target_lookup {env : Env} {lib attached s s' : Lib} {handle : HbaHandle}
    {ap pp : Ptr} {adapter : AdapterInfo} {port : PortInfo} (between : Between env pp lib attached s)
    (before : Between env pp lib attached lib) (after : Between env pp lib attached attached)
    (opened : Opened handle ap pp adapter port lib) {address : ScsiAddress} {rp : Option Ptr}
    (looked : adapterGetRportTarget env handle address.port address.tgt s = .ok (rp, s')) :
    Between env pp lib attached s' ∧
      rp.map s'.rports.get = (targetRport env handle lib address).map some := by
  obtain ⟨t, ⟨i, slot⟩, handleOpens⟩ := between.opened opened
  rw [before.targetRport_eq opened]
  simp only [adapterGetRportTarget, findRportOf, slot.adapterGetPort_eq handleOpens, ok_bind]
    at looked
  by_cases first : address.port = 0
  · simp only [if_pos first, findRport, between.reaches, ok_bind] at looked ⊢
    obtain ⟨port', here, looked⟩ := bind_eq_ok.mp looked
    obtain ⟨found, searched, looked⟩ := bind_eq_ok.mp looked
    rw [Lib.port, demand_eq_ok] at here
    cases looked
    have same := searchFrom_find (by omega) searched
    refine ⟨after, ?_⟩
    rw [same]
    exact Lib.find_remotes here _
  · simp only [if_neg first] at looked ⊢
    cases looked
    exact ⟨between, rfl⟩

/-- In a table of the right size a target lookup returns. -/
theorem Between.target_returns {env : Env} {lib attached s : Lib} {handle : HbaHandle}
    {ap pp : Ptr} {adapter : AdapterInfo} {port : PortInfo} (between : Between env pp lib attached s)
    (after : Between env pp lib attached attached) (inv : NarrowInv attached)
    (opened : Opened handle ap pp adapter port lib) (narrow : attached.Narrow port)
    (index target : UInt32) : ∃ r, adapterGetRportTarget env handle index target s = .ok r := by
  obtain ⟨t, ⟨i, slot⟩, handleOpens⟩ := between.opened opened
  obtain ⟨t', ⟨i', slot'⟩, -⟩ := after.opened opened
  simp only [adapterGetRportTarget, findRportOf, slot.adapterGetPort_eq handleOpens, ok_bind]
  by_cases first : index = 0
  · have here := slot'.owns.livePort
    obtain ⟨wf, limit⟩ := inv pp _ here narrow
    simp only [if_pos first, findRport, between.reaches, ok_bind, Lib.port, here, demand_some,
      adapterTargetMatch]
    rw [search_table_eq after.sound.own here wf limit]
    exact ⟨_, rfl⟩
  · simp only [if_neg first]
    exact ⟨_, rfl⟩

/-- Where the remote ports cannot be attached only addresses that name no local port can be
    looked up, and they lead to no remote port. -/
theorem Opened.target_lookup {env : Env} {lib s' : Lib} {handle : HbaHandle} {ap pp : Ptr}
    {adapter : AdapterInfo} {port : PortInfo} (opened : Opened handle ap pp adapter port lib)
    {fault : Fault} (faults : getRportInfo env pp lib = .error fault) {address : ScsiAddress}
    {rp : Option Ptr}
    (looked : adapterGetRportTarget env handle address.port address.tgt lib = .ok (rp, s')) :
    s' = lib ∧ rp = none ∧ targetRport env handle lib address = none := by
  obtain ⟨i, slot⟩ := opened.slot
  have port_eq := slot.adapterGetPort_eq opened.handle address.port
  simp only [adapterGetRportTarget, findRportOf, port_eq, ok_bind] at looked
  by_cases first : address.port = 0
  · simp only [if_pos first, findRport, faults, error_bind] at looked
    cases looked
  · rw [if_neg first] at port_eq looked
    cases looked
    exact ⟨rfl, rfl, by rw [targetRport, port_eq]⟩

/-- The states that a walk can come to which looks remote ports of a handle up, and where it
    finds those it would find on its own. -/
structure Looking (env : Env) (handle : HbaHandle) (ap pp : Ptr) (adapter : AdapterInfo)
    (port : PortInfo) (lib : Lib) (W : Lib → Prop) : Prop where
  start : W lib
  opened : ∀ s, W s → ∃ t, Opened handle ap pp adapter { port with apRports := t } s
  lookup : ∀ s, W s → ∀ (address : ScsiAddress) rp s',
    adapterGetRportTarget env handle address.port address.tgt s = .ok (rp, s') →
      W s' ∧ rp.map s'.rports.get = (targetRport env handle lib address).map some

theorem Between.looking {env : Env} {lib attached : Lib} {handle : HbaHandle} {ap pp : Ptr}
    {adapter : AdapterInfo} {port : PortInfo} (before : Between env pp lib attached lib)
    (after : Between env pp lib attached attached)
    (opened : Opened handle ap pp adapter port lib) :
    Looking env handle ap pp adapter port lib (Between env pp lib attached) where
  start := before
  opened := fun _ between => between.opened opened
  lookup := fun _ between _ _ _ looked => between.target_lookup before after opened looked

/-- There always are such states. -/
theorem Opened.looking {env : Env} {lib : Lib} {handle : HbaHandle} {ap pp : Ptr}
    {adapter : AdapterInfo} {port : PortInfo} (sound : lib.Sound)
    (opened : Opened handle ap pp adapter port lib) :
    ∃ W, Looking env handle ap pp adapter port lib W := by
  cases called : getRportInfo env pp lib with
  | ok attached =>
      obtain ⟨i, slot⟩ := opened.slot
      obtain ⟨before, after⟩ := sound.between slot called
      exact ⟨_, before.looking after opened⟩
  | error fault =>
      refine ⟨(· = lib), rfl, ?_, ?_⟩
      · rintro s rfl
        exact ⟨port.apRports, opened⟩
      · rintro s rfl address rp s' looked
        obtain ⟨same, rfl, unmapped⟩ := opened.target_lookup called looked
        exact ⟨same, by rw [unmapped]; rfl⟩

/-- All lookups return on the way. -/
def TargetReturns (env : Env) (handle : HbaHandle) (W : Lib → Prop) : Prop :=
  ∀ (address : ScsiAddress) s, W s →
    ∃ r, adapterGetRportTarget env handle address.port address.tgt s = .ok r

end Hbalinux
