import Hbalinux.ClaimMarks
import Hbalinux.QueryEffect

/-! # Loading the library again

`FreeLibrary` destroys the adapters and leaves the remote ports, with the marks of
adapters that no longer exist.  Whether anything of this shows after the next load
depends on whether a query has attached a remote port before.
-/

namespace Hbalinux

open Outcome

section Commutes

variable {α ε σ : Type} {g : σ → σ}

/-- A loop over directory entries commutes with a change that each call commutes with. -/
theorem untilNonzero_commutes {f : ε → σ → Outcome (Int × σ)}
    (step : ∀ e s, f e (g s) = Except.map (Prod.map id g) (f e s)) (es : List ε) (s : σ) :
    untilNonzero f es (g s) = Except.map (Prod.map id g) (untilNonzero f es s) := by
  induction es generalizing s with
  | nil => rfl
  | cons e es ih =>
      rw [untilNonzero_cons, untilNonzero_cons, step]
      cases f e s with
      | error fault => rfl
      | ok r =>
          obtain ⟨rc, mid⟩ := r
          by_cases zero : rc = 0
          · simp only [Except.map, Prod.map, id, ok_bind, if_pos zero]
            exact ih mid
          · simp only [Except.map, Prod.map, id, ok_bind, if_neg zero]

/-- Destroying the entries of a table commutes with it likewise. -/
theorem destroyFrom_commutes {release : α → σ → Outcome σ}
    (step : ∀ a s, release a (g s) = Except.map g (release a s)) (count i : Nat) (tp : SaTable α)
    (s : σ) : tp.destroyFrom release count i (g s) =
      Except.map (Prod.map id g) (tp.destroyFrom release count i s) := by
  induction count generalizing i tp s with
  | zero => rfl
  | succ count ih =>
      rw [SaTable.destroyFrom, SaTable.destroyFrom]
      cases tp.slotInt i with
      | error fault => rfl
      | ok cell =>
          cases cell with
          | none => exact ih (i + 1) tp s
          | some ep =>
              simp only [ok_bind, step]
              cases release ep s with
              | error fault => rfl
              | ok s' => exact ih (i + 1) _ s'

end Commutes

/-- The adapters of one state with the remote ports of another. -/
def Lib.over (lib remotes : Lib) : Lib :=
  { lib with rportsTable := remotes.rportsTable, rports := remotes.rports }

theorem adapterCreate_over (ap : Ptr) (mem : Bool) (lib remotes : Lib) :
    adapterCreate ap mem (lib.over remotes) =
      Except.map (Prod.map id (·.over remotes)) (adapterCreate ap mem lib) := by
  unfold adapterCreate
  have table : (lib.over remotes).adapterTable = lib.adapterTable := rfl
  have adapters : (lib.over remotes).adapter ap = lib.adapter ap := rfl
  rw [table]
  cases saTableAppend lib.adapterTable (some ap) mem with
  | error fault => rfl
  | ok r =>
      obtain ⟨index, table⟩ := r
      simp only [ok_bind]
      split
      · rfl
      · rw [adapters]
        cases lib.adapter ap <;> rfl

theorem adapterDestroy_over (ap : Ptr) (lib remotes : Lib) :
    adapterDestroy ap (lib.over remotes) = Except.map (·.over remotes) (adapterDestroy ap lib) := by
  unfold adapterDestroy
  have adapters : (lib.over remotes).adapter ap = lib.adapter ap := rfl
  rw [adapters]
  cases lib.adapter ap with
  | error fault => rfl
  | ok adapter =>
      have frees : ∀ pp (t : Lib), freePort pp (t.over remotes) =
          Except.map (·.over remotes) (freePort pp t) := by
        intro pp t
        have ports : (t.over remotes).port pp = t.port pp := rfl
        rw [freePort, freePort, ports]
        cases t.port pp <;> rfl
      simp only [ok_bind, saTableDestroyAll]
      split
      · rfl
      · rw [destroyFrom_commutes frees]
        cases adapter.adPorts.destroyFrom freePort adapter.adPorts.stLimit.toNat 0 lib <;> rfl

/-- Scanning a host does not depend on the remote ports. -/
theorem sysfsScan_over (env : Env) (dp : DirEnt) (lib remotes : Lib) :
    sysfsScan env dp (lib.over remotes) =
      Except.map (Prod.map id (·.over remotes)) (sysfsScan env dp lib) := by
  unfold sysfsScan
  have adapters : (lib.over remotes).adapters = lib.adapters := rfl
  have lports : (lib.over remotes).lports = lib.lports := rfl
  simp only [adapters, lports, Arena.alloc]
  split
  · rfl
  · split
    · rfl
    · cases identifyHost env.sysfs (env.scratch dp.dName) dp with
      | error fault => rfl
      | ok identified =>
          cases identified with
          | none => rfl
          | some found =>
              simp only [ok_bind]
              cases buildPort env dp found lib.adapters.fresh lib.lports.fresh with
              | error fault => rfl
              | ok built =>
                  rcases built with _ | ⟨port, adPorts, buf⟩
                  · rfl
                  · simp only [ok_bind]
                    cases buildAdapter env dp found port adPorts buf with
                    | error fault => rfl
                    | ok adapter =>
                        have create := adapterCreate_over lib.adapters.fresh
                          (env.mem (.adapterSlot dp.dName)) { lib with
                            adapters := (lib.adapters.store lib.adapters.fresh .zero).store
                              lib.adapters.fresh adapter
                            lports := (lib.lports.store lib.lports.fresh .zero).store
                              lib.lports.fresh port } remotes
                        unfold Lib.over at create
                        unfold Lib.over
                        simp only [ok_bind, create]
                        cases adapterCreate _ _ _ with
                        | error fault => rfl
                        | ok created =>
                            obtain ⟨status, last⟩ := created
                            have destroy := adapterDestroy_over lib.adapters.fresh last remotes
                            unfold Lib.over at destroy
                            by_cases published : status = hbaStatusOk
                            · simp only [Except.map, Prod.map, ok_bind, if_pos published, id]
                            · simp only [Except.map, Prod.map, ok_bind, if_neg published, id, destroy]
                              cases adapterDestroy _ last <;> rfl

theorem loadLibrary_over (env : Env) (lib remotes : Lib) :
    loadLibrary env (lib.over remotes) = Except.map (·.over remotes) (loadLibrary env lib) := by
  have scans : ∀ dp (t : Lib), scanEntry env dp (t.over remotes) =
      Except.map (Prod.map id (·.over remotes)) (scanEntry env dp t) := by
    intro dp t
    rw [scanEntry, scanEntry, sysfsScan_over]
    cases sysfsScan env dp t <;> rfl
  rw [loadLibrary, loadLibrary, adapterInit, adapterInit, saDirRead_state, saDirRead_state]
  have walk := untilNonzero_commutes scans (hosts env) lib
  unfold scanEntry hosts at walk
  rw [walk]
  cases untilNonzero _ _ lib <;> rfl

/-- Two calls that begin in `a` and in `b` have the same outcome, or give the same answer and leave
    both states alone. -/
def Alike {α : Type} (a b : Lib) (x y : Outcome (α × Lib)) : Prop :=
  x = y ∨ ∃ r, x = .ok (r, a) ∧ y = .ok (r, b)

section Alike

variable {α β : Type} {a b : Lib}

theorem Alike.bind {x y : Outcome (α × Lib)} {f g : α × Lib → Outcome (β × Lib)}
    (alike : Alike a b x y) (same : ∀ r, f r = g r) (next : ∀ r, Alike a b (f (r, a)) (g (r, b))) :
    Alike a b (x >>= f) (y >>= g) := by
  rcases alike with rfl | ⟨r, rfl, rfl⟩
  · exact .inl (by rw [funext same])
  · exact next r

theorem Alike.map {x y : Outcome (α × Lib)} (wrap : α → β) (alike : Alike a b x y) :
    Alike a b (Except.map (Prod.map wrap id) x) (Except.map (Prod.map wrap id) y) := by
  rcases alike with rfl | ⟨r, rfl, rfl⟩
  · exact .inl rfl
  · exact .inr ⟨wrap r, rfl, rfl⟩

theorem replyPort_alike {x y : Outcome (Option Ptr × Lib)}
    (found : x = y ∨ x = .ok (none, a) ∧ y = .ok (none, b)) :
    Alike a b (replyPort x) (replyPort y) := by
  rcases found with rfl | ⟨rfl, rfl⟩
  · exact .inl rfl
  · exact .inr ⟨.port none, rfl, rfl⟩

end Alike

/-- `b` is `a` once the remote port directory has been read. -/
structure Reread (env : Env) (a b : Lib) : Prop where
  load : loadRports env a = .ok b
  again : loadRports env b = .ok b

/-- Reading the directory once is enough. -/
theorem Reread.of_load {env : Env} {a b : Lib} (inv : RportInv a) (load : loadRports env a = .ok b) :
    Reread env a b := by
  refine ⟨load, ?_⟩
  by_cases empty : b.rportsTable.stSize = 0
  · have same : b = a := load_idle inv load empty
    rw [same] at load ⊢
    exact load
  · exact if_neg empty

namespace Reread

variable {env : Env} {a b : Lib} (reread : Reread env a b)
include reread

theorem framed : b = { a with rportsTable := b.rportsTable, rports := b.rports } :=
  loadRports_framed reread.load

theorem getRportInfo_eq (pp : Ptr) : getRportInfo env pp a = getRportInfo env pp b := by
  rw [getRportInfo, getRportInfo, reread.load, reread.again]

theorem adapterGetPort_eq (handle : HbaHandle) (index : UInt32) :
    adapterGetPort a handle index = adapterGetPort b handle index := by
  rw [reread.framed]
  rfl

theorem findRport_eq (pp : Ptr) (find : Lib → SaTable Ptr → Outcome (Option Ptr)) :
    findRport env pp find a = findRport env pp find b := by
  rw [findRport, findRport, reread.getRportInfo_eq]

/-- A remote port is only found by a call that reads the directory. -/
theorem findRportOf_alike (handle : HbaHandle) (port : UInt32)
    (find : Lib → SaTable Ptr → Outcome (Option Ptr)) :
    findRportOf env handle port find a = findRportOf env handle port find b ∨
      findRportOf env handle port find a = .ok (none, a) ∧
        findRportOf env handle port find b = .ok (none, b) := by
  rw [findRportOf, findRportOf, reread.adapterGetPort_eq]
  cases adapterGetPort b handle port with
  | error fault => exact .inl rfl
  | ok found =>
      cases found with
      | none => exact .inr ⟨rfl, rfl⟩
      | some pp => exact .inl (reread.findRport_eq pp find)

/-- One entry of the walk over the SCSI devices, in a context without a remote port. -/
theorem getBindingTargetMapping_alike (dp : DirEnt) {cp : BindingContext} (free : cp.ocRport = none) :
    getBindingTargetMapping env dp (cp, a) = getBindingTargetMapping env dp (cp, b) ∨
      ∃ cp', cp'.ocRport = none ∧ getBindingTargetMapping env dp (cp, a) = .ok (0, cp', a) ∧
        getBindingTargetMapping env dp (cp, b) = .ok (0, cp', b) := by
  unfold getBindingTargetMapping
  simp only
  split
  · exact .inr ⟨cp, free, rfl, rfl⟩
  · rename_i address parsed
    split
    · exact .inr ⟨cp, free, rfl, rfl⟩
    · split
      · cases cp.place with
        | error fault => exact .inl rfl
        | ok before =>
            simp only [ok_bind, mappedRport, free]
            rcases reread.findRportOf_alike cp.ocHandle address.port
              fun lib table => saTableSearch table (adapterTargetMatch address.tgt lib) with
              same | ⟨first, second⟩
            · rw [adapterGetRportTarget, same]
              exact .inl rfl
            · rw [adapterGetRportTarget, first, second]
              -- without a remote port the entry is filled from the directories alone
              have entry : ∀ s t, fillEntry env cp.ocVer dp.dName address none s before =
                  fillEntry env cp.ocVer dp.dName address none t before := fun _ _ => rfl
              simp only [ok_bind]
              rw [entry b a]
              cases fillEntry env cp.ocVer dp.dName address none a before with
              | error fault => exact .inl rfl
              | ok filled =>
                  refine .inr ⟨_, ?_, rfl, rfl⟩
                  rfl
      · refine .inr ⟨_, ?_, rfl, rfl⟩
        exact free

theorem mappingWalk_alike (es : List DirEnt) {cp : BindingContext} (free : cp.ocRport = none) :
    untilNonzero (getBindingTargetMapping env) es (cp, a) =
        untilNonzero (getBindingTargetMapping env) es (cp, b) ∨
      ∃ cp', untilNonzero (getBindingTargetMapping env) es (cp, a) = .ok (0, cp', a) ∧
        untilNonzero (getBindingTargetMapping env) es (cp, b) = .ok (0, cp', b) := by
  induction es generalizing cp with
  | nil => exact .inr ⟨cp, rfl, rfl⟩
  | cons dp es ih =>
      rw [untilNonzero_cons, untilNonzero_cons]
      rcases reread.getBindingTargetMapping_alike dp free with same | ⟨cp', free', first, second⟩
      · rw [same]
        exact .inl rfl
      · rw [first, second]
        exact ih free'

theorem readMapping_alike {cp : BindingContext} (free : cp.ocRport = none) :
    Alike a b (readMapping env cp a) (readMapping env cp b) := by
  unfold readMapping
  cases clearEntries cp.ocLimit cp.ocEntries HbaFcpScsiEntryV2.zero with
  | error fault => exact .inl rfl
  | ok entries =>
      simp only [ok_bind, saDirRead_state]
      have cleared : ({ cp with ocEntries := entries } : BindingContext).ocRport = none := free
      rcases reread.mappingWalk_alike (env.sysfs.listing sysfsLunDir) cleared with
        same | ⟨cp', first, second⟩
      · rw [same]
        exact .inl rfl
      · rw [first, second]
        exact .inr ⟨_, rfl, rfl⟩

theorem getBindingTargetMappingV1_alike (handle : HbaHandle)
    (map : HbaFcpTargetMapping HbaFcpScsiEntry) :
    Alike a b (getBindingTargetMappingV1 env handle map a)
      (getBindingTargetMappingV1 env handle map b) := by
  have opens : adapterOpenHandle b handle = adapterOpenHandle a handle := by
    rw [reread.framed]
    rfl
  have adapters : ∀ ap, b.adapter ap = a.adapter ap := by
    intro ap
    rw [reread.framed]
    rfl
  unfold getBindingTargetMappingV1
  rw [opens]
  cases adapterOpenHandle a handle with
  | error fault => exact .inl rfl
  | ok opened =>
      cases opened with
      | none => exact .inr ⟨_, rfl, rfl⟩
      | some ap =>
          simp only [ok_bind, adapters]
          cases a.adapter ap with
          | error fault => exact .inl rfl
          | ok adapter =>
              exact (reread.readMapping_alike rfl).bind (fun _ => rfl) fun _ => .inr ⟨_, rfl, rfl⟩

theorem adapterGetPortByWwn_eq (handle : HbaHandle) (wwn : HbaWwn) :
    adapterGetPortByWwn b handle wwn = adapterGetPortByWwn a handle wwn := by
  have walk : ∀ (lports : SaTable Ptr) count p found,
      portByWwnFrom b wwn lports count p found = portByWwnFrom a wwn lports count p found := by
    intro lports count
    induction count with
    | zero => exact fun _ _ => rfl
    | succ count ih =>
        intro p found
        have ports : ∀ pp, b.port pp = a.port pp := by
          intro pp
          rw [reread.framed]
          rfl
        simp only [portByWwnFrom, ports, ih]
  have opens : adapterOpenHandle b handle = adapterOpenHandle a handle := by
    rw [reread.framed]
    rfl
  have adapters : ∀ ap, b.adapter ap = a.adapter ap := by
    intro ap
    rw [reread.framed]
    rfl
  simp only [adapterGetPortByWwn, opens, adapters, walk]

theorem getBindingTargetMappingV2_alike (handle : HbaHandle) (wwn : HbaWwn)
    (map : HbaFcpTargetMapping HbaFcpScsiEntryV2) :
    Alike a b (getBindingTargetMappingV2 env handle wwn map a)
      (getBindingTargetMappingV2 env handle wwn map b) := by
  have ports : ∀ pp, b.port pp = a.port pp := by
    intro pp
    rw [reread.framed]
    rfl
  have adapters : ∀ ap, b.adapter ap = a.adapter ap := by
    intro ap
    rw [reread.framed]
    rfl
  unfold getBindingTargetMappingV2
  rw [reread.adapterGetPortByWwn_eq]
  cases adapterGetPortByWwn a handle wwn with
  | error fault => exact .inl rfl
  | ok found =>
      obtain ⟨found, count⟩ := found
      cases found with
      | none => exact .inr ⟨_, rfl, rfl⟩
      | some pp =>
          simp only [ok_bind, ports]
          cases a.port pp with
          | error fault => exact .inl rfl
          | ok port =>
              simp only [ok_bind]
              cases port.apAdapt with
              | none => exact .inr ⟨_, rfl, rfl⟩
              | some ap =>
                  simp only [adapters]
                  cases a.adapter ap with
                  | error fault => exact .inl rfl
                  | ok adapter => exact reread.readMapping_alike rfl

theorem onPort_alike {handle : HbaHandle} {f : Ptr → Lib → Outcome (Reply × Lib)}
    (same : ∀ pp, f pp a = f pp b) : Alike a b (onPort handle f a) (onPort handle f b) := by
  rw [onPort, onPort, reread.adapterGetPort_eq]
  cases adapterGetPort b handle 0 with
  | error fault => exact .inl rfl
  | ok found =>
      cases found with
      | none => exact .inr ⟨.noPort, rfl, rfl⟩
      | some pp => exact .inl (same pp)

/-- A query does not tell whether the directory has been read. -/
theorem ask_alike (query : Query) : Alike a b (query.ask env a) (query.ask env b) := by
  cases query with
  | rport handle port | rportTarget handle port =>
      rw [Query.ask, Query.ask]
      exact replyPort_alike (reread.findRportOf_alike handle port _)
  | rportAttr handle port n =>
      rw [Query.ask, Query.ask]
      refine .map _ ?_
      unfold adapterGetRportAttr
      have found := reread.findRportOf_alike handle port fun _ table => saTableLookupN table n
      unfold adapterGetRportN
      rcases found with same | ⟨first, second⟩
      · rw [same]
        exact .inl rfl
      · rw [first, second]
        exact .inr ⟨_, rfl, rfl⟩
  | rportByWwn | rportByFcid =>
      rw [Query.ask, Query.ask]
      refine reread.onPort_alike fun pp => ?_
      exact congrArg replyPort (reread.findRport_eq pp _)
  | mappingV1 handle map =>
      rw [Query.ask, Query.ask]
      exact .map _ (reread.getBindingTargetMappingV1_alike handle map)
  | mappingV2 handle wwn map =>
      rw [Query.ask, Query.ask]
      exact .map _ (reread.getBindingTargetMappingV2_alike handle wwn map)
  | sgName handle wwn lun len =>
      rw [Query.ask, Query.ask]
      refine reread.onPort_alike fun pp => ?_
      have same : adapterGetRportByWwn env pp wwn a = adapterGetRportByWwn env pp wwn b :=
        reread.findRport_eq pp _
      rw [getBindingSgName, getBindingSgName, same]

end Reread
/-- Remote ports stay where they are, and a mark that is set stays set. -/
structure Kept (lib lib' : Lib) : Prop where
  entries : ∀ rp ∈ lib.rportsTable.entries, rp ∈ lib'.rportsTable.entries
  rports : ∀ rp rport, lib.rports.get rp = some rport → ∃ owner,
    lib'.rports.get rp = some (rport.claimedBy owner) ∧
      (rport.apAdapt ≠ none → owner = rport.apAdapt)

theorem Kept.refl (lib : Lib) : Kept lib lib :=
  ⟨fun _ entry => entry, fun _ rport live => ⟨rport.apAdapt, live, fun _ => rfl⟩⟩

theorem Kept.trans {a b c : Lib} (first : Kept a b) (second : Kept b c) : Kept a c := by
  refine ⟨fun rp entry => second.entries rp (first.entries rp entry), fun rp rport live => ?_⟩
  obtain ⟨owner, there, same⟩ := first.rports rp rport live
  obtain ⟨owner', there', same'⟩ := second.rports rp _ there
  refine ⟨owner', there', fun marked => ?_⟩
  have mid : owner = rport.apAdapt := same marked
  rw [← mid] at marked ⊢
  exact same' marked

theorem claimRport_kept {env : Env} {pp rp : Ptr} {lib lib' : Lib}
    (claimed : claimRport env pp rp lib = .ok lib') : Kept lib lib' := by
  obtain ⟨rport, port, here, -, ⟨-, rfl⟩ | ⟨guard, found, rc, table, -, -, rfl⟩⟩ :=
    claimRport_eq_ok.mp claimed
  · exact .refl lib
  · refine ⟨fun _ entry => entry, fun q other live => ?_⟩
    by_cases same : q = rp
    · rw [same, here, Option.some.injEq] at live
      subst live
      rw [same]
      exact ⟨port.apAdapt, Arena.get_store_self _ _ _, fun marked => absurd guard.2.2 marked⟩
    · exact ⟨other.apAdapt, (Arena.get_store_ne _ same).trans live, fun _ => rfl⟩

theorem loadRports_kept {env : Env} {lib loaded : Lib} (inv : RportInv lib)
    (load : loadRports env lib = .ok loaded) : Kept lib loaded := by
  refine ⟨?_, fun rp rport live => ⟨rport.apAdapt, (loadRports_marks inv load).kept rp rport live,
    fun _ => rfl⟩⟩
  unfold loadRports at load
  split at load
  · rename_i empty
    intro rp entry
    rw [SaTable.eq_init inv.wf empty, SaTable.entries_init] at entry
    cases entry
  · cases load
    exact fun _ entry => entry

theorem getRportInfo_kept {env : Env} {pp : Ptr} {lib lib' : Lib} (inv : RportInv lib)
    (called : getRportInfo env pp lib = .ok lib') : Kept lib lib' :=
  getRportInfo_preserves called (fun _ load => loadRports_kept inv load)
    fun _ _ _ kept claimed => kept.trans (claimRport_kept claimed)

/-- No loaded remote port has been claimed. -/
def Lib.Unmarked (lib : Lib) : Prop :=
  ∀ rp ∈ lib.rportsTable.entries, ∀ rport, lib.rports.get rp = some rport → rport.apAdapt = none

theorem Kept.unmarked {a b : Lib} (kept : Kept a b) (unmarked : b.Unmarked) : a.Unmarked := by
  intro rp entry rport live
  obtain ⟨owner, there, same⟩ := kept.rports rp rport live
  have none : owner = Option.none := unmarked rp (kept.entries rp entry) _ there
  by_contra marked
  exact marked ((same marked).symm.trans none)

/-- Some queries, in the given order. -/
def asks (env : Env) : List Query → Lib → Outcome (List Reply × Lib)
  | [], lib => .ok ([], lib)
  | query :: queries, lib => do
      let (reply, lib) ← query.ask env lib
      let (replies, lib) ← asks env queries lib
      .ok (reply :: replies, lib)

/-- What the caller of the queries sees. -/
def answers (env : Env) (queries : List Query) (lib : Lib) : Outcome (List Reply) :=
  Except.map Prod.fst (asks env queries lib)

theorem asks_attaches {env : Env} {queries : List Query} {lib lib' : Lib} {replies : List Reply}
    (asked : asks env queries lib = .ok (replies, lib')) : Attaches env lib lib' := by
  induction queries generalizing lib replies with
  | nil =>
      cases asked
      exact .refl _
  | cons query queries ih =>
      obtain ⟨⟨reply, mid⟩, first, rest⟩ := bind_eq_ok.mp asked
      obtain ⟨⟨others, last⟩, second, rest⟩ := bind_eq_ok.mp rest
      cases rest
      exact (ask_attaches first).trans (ih second)

theorem Reread.asks_alike {env : Env} {a b : Lib} (reread : Reread env a b) (queries : List Query) :
    Alike a b (asks env queries a) (asks env queries b) := by
  induction queries with
  | nil => exact .inr ⟨[], rfl, rfl⟩
  | cons query queries ih =>
      refine (reread.ask_alike query).bind (fun _ => rfl) fun reply => ?_
      exact ih.bind (fun _ => rfl) fun replies => .inr ⟨reply :: replies, rfl, rfl⟩

theorem Reread.answers_eq {env : Env} {a b : Lib} (reread : Reread env a b) (queries : List Query) :
    answers env queries a = answers env queries b := by
  rcases reread.asks_alike queries with same | ⟨replies, first, second⟩
  · rw [answers, answers, same]
  · rw [answers, answers, first, second]
    rfl

/-- The query attaches no remote port in a freshly loaded library. -/
def Query.Idle (env : Env) (fresh : Lib) (query : Query) : Prop :=
  ∀ pp port loaded, query.CallsFor env fresh pp → fresh.lports.get pp = some port →
    loadRports env fresh = .ok loaded → ∀ rp ∈ loaded.rportsTable.entries, ∀ rport,
    loaded.rports.get rp = some rport → ¬ port.belongs rport

/-- A query calls for remote ports in the same state before and after the directory is read. -/
theorem Reread.callsFor_iff {env : Env} {a b : Lib} (reread : Reread env a b) (query : Query) (pp : Ptr) :
    query.CallsFor env b pp ↔ query.CallsFor env a pp := by
  have ports := fun handle index => (reread.adapterGetPort_eq handle index).symm
  have opens : ∀ handle, adapterOpenHandle b handle = adapterOpenHandle a handle := by
    intro handle
    rw [reread.framed]
    rfl
  have adapters : b.adapters = a.adapters := by rw [reread.framed]
  have lports : b.lports = a.lports := by rw [reread.framed]
  cases query <;>
    simp only [Query.CallsFor, BindingContext.LooksUp, ports, opens, adapters, lports,
      reread.adapterGetPortByWwn_eq]

/-- A query calls for the remote ports of one local port at most. -/
theorem Lib.Sound.callsFor_unique {env : Env} {lib : Lib} (sound : lib.Sound) {query : Query}
    {pp qq : Ptr} (first : query.CallsFor env lib pp) (second : query.CallsFor env lib qq) : pp = qq := by
  have handle : ∃ handle, ∀ pp, query.CallsFor env lib pp →
      ∃ index, adapterGetPort lib handle index = .ok (some pp) := by
    cases query with
    | rport handle port | rportAttr handle port | rportTarget handle port =>
        exact ⟨handle, fun _ calls => ⟨port, calls⟩⟩
    | rportByWwn handle | rportByFcid handle | sgName handle =>
        exact ⟨handle, fun _ calls => ⟨0, calls⟩⟩
    | mappingV1 handle =>
        refine ⟨handle, ?_⟩
        rintro pp ⟨ap, adapter, -, -, k, device, -, -, port⟩
        exact ⟨_, port⟩
    | mappingV2 handle =>
        refine ⟨handle, ?_⟩
        rintro pp ⟨q, count, port, ap, adapter, -, -, -, -, k, device, -, -, found⟩
        exact ⟨_, found⟩
  obtain ⟨handle, calls⟩ := handle
  obtain ⟨index, found⟩ := calls pp first
  obtain ⟨index', found'⟩ := calls qq second
  exact ((sound.handle_port found).2 index' qq found').symm

theorem Query.CallsFor.port {env : Env} {lib : Lib} (sound : lib.Sound) {query : Query} {pp : Ptr}
    (calls : query.CallsFor env lib pp) :
    ∃ port, lib.lports.get pp = some port ∧ port.apAdapt ≠ none := by
  cases query with
  | rport | rportAttr | rportTarget | rportByWwn | rportByFcid | sgName =>
      exact (sound.handle_port calls).1
  | mappingV1 =>
      obtain ⟨ap, adapter, -, -, k, device, -, -, found⟩ := calls
      exact (sound.handle_port found).1
  | mappingV2 =>
      obtain ⟨q, count, port, ap, adapter, -, -, -, -, k, device, -, -, found⟩ := calls
      exact (sound.handle_port found).1

theorem Lib.Sound.load {env : Env} {lib loaded : Lib} (sound : lib.Sound)
    (load : loadRports env lib = .ok loaded) : loaded.Sound := by
  refine ⟨sound.adapters.framed ?_, loadRports_inv sound.rports load,
    loadRports_own sound.rports sound.own load⟩
  rw [loadRports_framed load]
  exact .of_lports_eq rfl rfl rfl

/-- Nothing has happened to the library since it was loaded, but for reading the remote port
    directory. -/
def Untouched (env : Env) (fresh lib : Lib) : Prop :=
  lib = fresh ∨ loadRports env fresh = .ok lib

section Untouched

variable {env : Env} {fresh s s' : Lib} {query : Query} {reply : Reply}

theorem Untouched.sound (untouched : Untouched env fresh s) (sound : fresh.Sound) : s.Sound := by
  rcases untouched with rfl | load
  · exact sound
  · exact sound.load load

/-- A query that calls for no remote port of its local port leaves the library untouched, and
    one that does leaves a mark. -/
theorem Untouched.ask (sound : fresh.Sound) (untouched : Untouched env fresh s)
    (asked : query.ask env s = .ok (reply, s')) :
    (query.Idle env fresh → Untouched env fresh s') ∧ (s'.Unmarked → query.Idle env fresh) := by
  have calls_iff : ∀ pp, query.CallsFor env s pp ↔ query.CallsFor env fresh pp := by
    rcases untouched with rfl | load
    · exact fun _ => Iff.rfl
    · exact (Reread.of_load sound.rports load).callsFor_iff query
  rcases ask_state (untouched.sound sound) asked with ⟨pp, calls, called⟩ | ⟨none, rfl⟩
  · rw [calls_iff] at calls
    obtain ⟨port, live, owner⟩ := calls.port sound
    have first : getRportInfo env pp fresh = .ok s' := by
      rcases untouched with rfl | load
      · exact called
      · rw [(Reread.of_load sound.rports load).getRportInfo_eq, called]
    obtain ⟨loaded, load, -⟩ := bind_eq_ok.mp first
    have inv : RportInv loaded := loadRports_inv sound.rports load
    have walked := first
    rw [getRportInfo_eq load inv.wf] at walked
    have liveLoaded : loaded.lports.get pp = some port := by
      rw [loadRports_framed load]
      exact live
    constructor
    · intro idle
      have liveRports : ∀ rp ∈ loaded.rportsTable.entries, ∃ rport, loaded.rports.get rp = some rport :=
        fun rp => inv.live_entry
      have unchanged : attachAll env pp loaded.rportsTable.entries loaded = .ok loaded := by
        apply attachAll_idle liveLoaded liveRports
        intro rp entry eligible
        obtain ⟨rport, here⟩ := liveRports rp entry
        rw [Lib.eligible_of_get here, Bool.and_eq_true] at eligible
        exact idle pp port loaded calls live load rp entry rport here eligible.1
      rw [walked] at unchanged
      exact .inr (by rw [load, unchanged])
    · intro unmarked qq port' loaded' calls' live' load' rp entry rport here belongs
      obtain rfl := sound.callsFor_unique calls calls'
      obtain rfl : port' = port := Option.some.inj (live'.symm.trans live)
      obtain rfl : loaded' = loaded := Except.ok.inj (load'.symm.trans load)
      have second : getRportInfo env pp loaded' = .ok s' := by
        rw [← (Reread.of_load sound.rports load).getRportInfo_eq, first]
      have kept := getRportInfo_kept inv second
      obtain ⟨mark, there, -⟩ := kept.rports rp rport here
      have free : mark = none := unmarked rp (kept.entries rp entry) _ there
      apply (attachAll_exhausted liveLoaded owner walked).1 rp entry
      rw [Lib.eligible_of_get there, Bool.and_eq_true]
      exact ⟨belongs, by rw [free]; rfl⟩
  · refine ⟨fun _ => untouched, fun _ pp port loaded calls => ?_⟩
    exact absurd ((calls_iff pp).mpr calls) (none pp)

/-- The same for a sequence of queries. -/
theorem Untouched.asks {queries : List Query} {replies : List Reply} (sound : fresh.Sound)
    (untouched : Untouched env fresh s) (asked : Hbalinux.asks env queries s = .ok (replies, s')) :
    ((∀ query ∈ queries, query.Idle env fresh) → Untouched env fresh s') ∧
      (s'.Unmarked → ∀ query ∈ queries, query.Idle env fresh) := by
  have idle : (∀ query ∈ queries, query.Idle env fresh) → Untouched env fresh s' := by
    induction queries generalizing s replies with
    | nil =>
        cases asked
        exact fun _ => untouched
    | cons query queries ih =>
        obtain ⟨⟨reply, mid⟩, first, rest⟩ := bind_eq_ok.mp asked
        obtain ⟨⟨others, last⟩, second, rest⟩ := bind_eq_ok.mp rest
        cases rest
        rw [List.forall_mem_cons]
        exact fun idle => ih ((untouched.ask sound first).1 idle.1) second idle.2
  refine ⟨idle, fun unmarked => ?_⟩
  clear idle
  induction queries generalizing s replies with
  | nil => exact fun _ member => absurd member List.not_mem_nil
  | cons query queries ih =>
      obtain ⟨⟨reply, mid⟩, first, rest⟩ := bind_eq_ok.mp asked
      obtain ⟨⟨others, last⟩, second, rest⟩ := bind_eq_ok.mp rest
      cases rest
      -- a mark that the first query leaves is still there at the end
      have inv : RportInv mid := ((ask_attaches first).preserves
        (fun _ _ _ kept called => getRportInfo_inv kept called) (untouched.sound sound).rports)
      have kept : Kept mid s' := ((asks_attaches second).preserves
        (P := fun t => RportInv t ∧ Kept mid t)
        (fun _ _ _ held called => ⟨getRportInfo_inv held.1 called,
          held.2.trans (getRportInfo_kept held.1 called)⟩) ⟨inv, .refl mid⟩).2
      obtain ⟨goes, stays⟩ := untouched.ask sound first
      have head := stays (kept.unmarked unmarked)
      rw [List.forall_mem_cons]
      exact ⟨head, ih (goes head) second⟩

end Untouched

/-- Whatever a remote port refers to is there. -/
structure Lib.Remote (lib : Lib) (rp : Ptr) : Prop where
  live : ∃ rport, lib.rports.get rp = some rport
  owner : ∀ rport, lib.rports.get rp = some rport → ∀ ap, rport.apAdapt = some ap →
    ∃ adapter, lib.adapters.get ap = some adapter

/-- Whatever a local port refers to is there. -/
structure Lib.Local (lib : Lib) (pp : Ptr) : Prop where
  live : ∃ port, lib.lports.get pp = some port
  owner : ∀ port, lib.lports.get pp = some port → ∀ ap, port.apAdapt = some ap →
    ∃ adapter, lib.adapters.get ap = some adapter
  rports : ∀ port, lib.lports.get pp = some port → ∀ rp ∈ port.apRports.entries, lib.Remote rp

/-- Nothing that can be reached from the two tables refers to a destroyed object. -/
structure Lib.NoDangling (lib : Lib) : Prop where
  adapters : ∀ ap ∈ lib.adapterTable.entries, ∃ adapter, lib.adapters.get ap = some adapter
  lports : ∀ ap ∈ lib.adapterTable.entries, ∀ adapter, lib.adapters.get ap = some adapter →
    ∀ pp ∈ adapter.adPorts.entries, lib.Local pp
  rports : ∀ rp ∈ lib.rportsTable.entries, lib.Remote rp

/-- After `FreeLibrary` the marks are all that can dangle. -/
theorem noDangling_iff {used freed : Lib} (sound : used.Sound) (free : freeLibrary used = .ok freed) :
    freed.NoDangling ↔ used.Unmarked := by
  rw [freeLibrary_eq sound.adapters] at free
  cases free
  constructor
  · intro clean rp entry rport live
    cases mark : rport.apAdapt with
    | none => rfl
    | some ap =>
        obtain ⟨adapter, gone⟩ := (clean.rports rp entry).owner rport live ap mark
        cases gone
  · intro unmarked
    have empty : ∀ ap, ap ∉ Lib.init.adapterTable.entries := by
      intro ap entry
      rw [Lib.init, SaTable.entries_init] at entry
      cases entry
    refine ⟨fun ap entry => absurd entry (empty ap), fun ap entry => absurd entry (empty ap),
      fun rp entry => ⟨?_, fun rport live ap mark => ?_⟩⟩
    · exact sound.rports.live_entry entry
    · rw [unmarked rp entry rport live] at mark
      cases mark

/-- Loading, queries, freeing and loading again leave nothing dangling and cannot be told from
    loading once, exactly when none of the queries has attached a remote port. -/
theorem reload_transparent_iff {env : Env} {fresh used freed reloaded : Lib} {queries : List Query}
    {replies : List Reply} (few : FewAdapters env .init) (load : loadLibrary env .init = .ok fresh)
    (asked : asks env queries fresh = .ok (replies, used)) (free : freeLibrary used = .ok freed)
    (again : loadLibrary env freed = .ok reloaded) :
    (freed.NoDangling ∧ ∀ later, answers env later reloaded = answers env later fresh) ↔
      ∀ query ∈ queries, query.Idle env fresh := by
  have reachable : Reachable (fun _ => True) fresh := .load .init trivial few load
  have sound : fresh.Sound := .of_reachable reachable
  have soundUsed : used.Sound := (asks_attaches asked).preserves
    (fun _ _ _ held called => held.attach called) sound
  obtain ⟨goes, stays⟩ := Untouched.asks sound (.inl rfl) asked
  constructor
  · rintro ⟨clean, -⟩
    exact stays ((noDangling_iff soundUsed free).mp clean)
  · intro idle
    have untouched := goes idle
    have table : fresh.rportsTable = saTableInit :=
      (loadLibrary_rports (.of_empty rfl rfl rfl) few load).1
    have unmarkedFresh : fresh.Unmarked := by
      intro rp entry
      rw [table, SaTable.entries_init] at entry
      cases entry
    have reloads : reloaded = fresh.over used := by
      rw [freeLibrary_eq soundUsed.adapters] at free
      cases free
      have same := loadLibrary_over env .init used
      rw [load] at same
      exact Except.ok.inj (again.symm.trans same)
    rcases untouched with rfl | loaded
    · exact ⟨(noDangling_iff soundUsed free).mpr unmarkedFresh, fun later => by rw [reloads]; rfl⟩
    · constructor
      · rw [noDangling_iff soundUsed free]
        intro rp entry rport live
        by_contra marked
        have old := ((loadRports_marks sound.rports loaded).marks rp entry rport live marked).1
        rw [table, SaTable.entries_init] at old
        cases old
      · intro later
        have same : reloaded = used := by
          rw [reloads]
          exact (loadRports_framed loaded).symm
        rw [same, (Reread.of_load sound.rports loaded).answers_eq]

/-- Loading the sample system again. -/
theorem loadLibrary_small_over (remotes : Lib) : loadLibrary smallSystem (Lib.init.over remotes) =
    .ok ((loadedState smallSystem).over remotes) := by
  rw [loadLibrary_over, loadLibrary_small]
  rfl

/-- Asking with a handle of no adapter leaves no trace. -/
theorem reload_transparent_small : ∃ replies freed reloaded,
    asks smallSystem [.rportAttr 0x101 0 0] (loadedState smallSystem) =
        .ok (replies, loadedState smallSystem) ∧
      freeLibrary (loadedState smallSystem) = .ok freed ∧
      loadLibrary smallSystem freed = .ok reloaded ∧ freed.NoDangling ∧
      ∀ later, answers smallSystem later reloaded = answers smallSystem later (loadedState smallSystem) := by
  have noPort : adapterGetPort (loadedState smallSystem) 0x101 0 = .ok none := by
    have past : ¬ (0x101 - adapterHandleOffset : UInt32) < 1 := by decide
    rw [adapterGetPort, adapterOpenHandle, saTableLookup, loadedState_small_limit, if_neg past]
    rfl
  have few : FewAdapters smallSystem .init := fewAdapters_of_length SaTable.wf_init (by decide +kernel)
  have sound : (loadedState smallSystem).Sound := .of_reachable reachable_small
  have free := freeLibrary_eq sound.adapters
  have refused : ∀ lib, adapterGetPort lib 0x101 0 = .ok none →
      asks smallSystem [.rportAttr 0x101 0 0] lib = .ok ([.attr (.error hbaStatusError)], lib) := by
    intro lib noPort
    simp only [asks, Query.ask, adapterGetRportAttr, adapterGetRportN, findRportOf, noPort, ok_bind,
      Except.map, Prod.map, id]
  have asked := refused _ noPort
  have again := loadLibrary_small_over (loadedState smallSystem)
  obtain ⟨clean, same⟩ := (reload_transparent_iff few loadLibrary_small asked free again).mpr (by
    intro query member pp port loaded calls
    rw [List.mem_singleton.mp member, Query.CallsFor, noPort] at calls
    cases calls)
  exact ⟨_, _, _, asked, free, again, clean, same⟩

/-- The sample system after a query for the attributes of its remote port. -/
def rportAsked : Lib :=
  ((asks smallSystem [.rportAttr 0x100 0 0] (loadedState smallSystem)).toOption.map
    Prod.snd).getD .init

/-- The same after the library is freed and loaded again. -/
def rportReloaded : Lib := (loadedState smallSystem).over rportAsked

/-- The answer has attributes. -/
def Reply.answered : Reply → Bool
  | .attr answer => answer.toOption.isSome
  | _ => false

private theorem rportAsked_facts :
    (asks smallSystem [.rportAttr 0x100 0 0] (loadedState smallSystem)).toOption.isSome = true ∧
      rportAsked.rportsTable.entries = [0] ∧
      (rportAsked.rports.get 0).map PortInfo.apAdapt = some (some 0) ∧
      (answers smallSystem [.rportAttr 0x100 0 0] (loadedState smallSystem)).toOption.map
        (List.map Reply.answered) = some [true] ∧
      (answers smallSystem [.rportAttr 0x100 0 0] rportReloaded).toOption.map
        (List.map Reply.answered) = some [false] := by
  decide +kernel

/-- Asking once before the library is loaded again makes the remote port disappear. -/
theorem reload_not_transparent : ∃ replies freed,
    loadLibrary smallSystem .init = .ok (loadedState smallSystem) ∧
      asks smallSystem [.rportAttr 0x100 0 0] (loadedState smallSystem) = .ok (replies, rportAsked) ∧
      freeLibrary rportAsked = .ok freed ∧ loadLibrary smallSystem freed = .ok rportReloaded ∧
      ¬ freed.NoDangling ∧
      answers smallSystem [.rportAttr 0x100 0 0] rportReloaded ≠
        answers smallSystem [.rportAttr 0x100 0 0] (loadedState smallSystem) := by
  obtain ⟨defined, entries, mark, first, second⟩ := rportAsked_facts
  obtain ⟨replies, asked⟩ : ∃ replies, asks smallSystem [.rportAttr 0x100 0 0]
      (loadedState smallSystem) = .ok (replies, rportAsked) := by
    cases called : asks smallSystem [.rportAttr 0x100 0 0] (loadedState smallSystem) with
    | error fault =>
        rw [called] at defined
        cases defined
    | ok answer =>
        have last : rportAsked = answer.2 := by
          rw [rportAsked, called]
          rfl
        exact ⟨answer.1, by rw [last]⟩
  have sound : rportAsked.Sound := (asks_attaches asked).preserves
    (fun _ _ _ held called => held.attach called) (.of_reachable reachable_small)
  have free := freeLibrary_eq sound.adapters
  refine ⟨replies, _, loadLibrary_small, asked, free, loadLibrary_small_over rportAsked, ?_, fun same => ?_⟩
  · rw [noDangling_iff sound free]
    intro unmarked
    obtain ⟨rport, live, claimed⟩ := Option.map_eq_some_iff.mp mark
    have entry : 0 ∈ rportAsked.rportsTable.entries := by
      rw [entries]
      exact List.mem_singleton_self 0
    rw [unmarked 0 entry rport live] at claimed
    cases claimed
  · rw [same, first] at second
    cases second

end Hbalinux
