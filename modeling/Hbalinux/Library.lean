import Hbalinux.Bind
import Hbalinux.Lport

/-! # Runs of the library

`lib.c`: loading and freeing, and the calls that look at remote ports.  A run is
any sequence of these.  Everything a call does to the state besides loading and
freeing is done by `getRportInfo`.
-/

namespace Hbalinux

open Outcome

def loadLibrary (env : Env) (lib : Lib) : Outcome Lib := adapterInit env lib

def freeLibrary (lib : Lib) : Outcome Lib := adapterDestroyAll lib

/-- The calls that attach remote ports.  Those that take a local port get the one
    with index 0 of a handle, as the entry points of `scsi.c` do. -/
inductive Query where
  | rport (handle : HbaHandle) (port index : UInt32)
  | rportAttr (handle : HbaHandle) (port n : UInt32)
  | rportTarget (handle : HbaHandle) (port target : UInt32)
  | rportByWwn (handle : HbaHandle) (wwn : HbaWwn)
  | rportByFcid (handle : HbaHandle) (fcid : UInt32)
  | mappingV1 (handle : HbaHandle) (map : HbaFcpTargetMapping HbaFcpScsiEntry)
  | mappingV2 (handle : HbaHandle) (wwn : HbaWwn) (map : HbaFcpTargetMapping HbaFcpScsiEntryV2)
  | sgName (handle : HbaHandle) (wwn : HbaWwn) (lun : UInt64) (len : Nat)

/-- What a caller sees of an answer; a pointer stands for what it points to. -/
inductive Reply where
  | noPort
  | port (rport : Option PortInfo)
  | attr (answer : Answer HbaPortAttributes)
  | mappingV1 (answer : HbaStatus × HbaFcpTargetMapping HbaFcpScsiEntry)
  | mappingV2 (answer : HbaStatus × HbaFcpTargetMapping HbaFcpScsiEntryV2)
  | sgName (answer : Except Int CStr)

/-- The remote port a lookup returns. -/
def replyPort (found : Outcome (Option Ptr × Lib)) : Outcome (Reply × Lib) := do
  let (rp, lib) ← found
  match rp with
  | none => .ok (.port none, lib)
  | some rp => do
      let rport ← lib.rport rp
      .ok (.port (some rport), lib)

/-- Call `f` on the local port with index 0. -/
def onPort (handle : HbaHandle) (f : Ptr → Lib → Outcome (Reply × Lib)) (lib : Lib) :
    Outcome (Reply × Lib) := do
  match ← adapterGetPort lib handle 0 with
  | none => .ok (.noPort, lib)
  | some pp => f pp lib

def Query.ask (env : Env) : Query → Lib → Outcome (Reply × Lib)
  | .rport handle port index, lib => replyPort (adapterGetRport env handle port index lib)
  | .rportAttr handle port n, lib =>
      Except.map (Prod.map .attr id) (adapterGetRportAttr env handle port n lib)
  | .rportTarget handle port target, lib =>
      replyPort (adapterGetRportTarget env handle port target lib)
  | .rportByWwn handle wwn, lib =>
      onPort handle (fun pp lib => replyPort (adapterGetRportByWwn env pp wwn lib)) lib
  | .rportByFcid handle fcid, lib =>
      onPort handle (fun pp lib => replyPort (adapterGetRportByFcid env pp fcid lib)) lib
  | .mappingV1 handle map, lib =>
      Except.map (Prod.map .mappingV1 id) (getBindingTargetMappingV1 env handle map lib)
  | .mappingV2 handle wwn map, lib =>
      Except.map (Prod.map .mappingV2 id) (getBindingTargetMappingV2 env handle wwn map lib)
  | .sgName handle wwn lun len, lib =>
      onPort handle (fun pp lib =>
        Except.map (Prod.map .sgName id) (getBindingSgName env pp wwn lun len lib)) lib

/-- The entries of the host directory. -/
def hosts (env : Env) : List DirEnt := env.sysfs.listing sysfsHostDir

/-- `sysfs_scan` as the directory reader calls it. -/
def scanEntry (env : Env) (dp : DirEnt) (lib : Lib) : Outcome (Int × Lib) :=
  Except.map (Prod.map ScanExit.code id) (sysfsScan env dp lib)

/-- While `env` is loaded from `lib` there are always fewer than `2 ^ 31` adapters. -/
def FewAdapters (env : Env) (lib : Lib) : Prop :=
  ∀ before after, hosts env = before ++ after → ∀ rc lib',
    untilNonzero (scanEntry env) before lib = .ok (rc, lib') →
      lib'.adapterTable.stLimit.toNat < 2 ^ 31

/-- The states of a process, where every environment met on the way is admitted. -/
inductive Reachable (allowed : Env → Prop) : Lib → Prop where
  | init : Reachable allowed .init
  | load {env lib lib'} (before : Reachable allowed lib) (admitted : allowed env)
      (few : FewAdapters env lib) (loaded : loadLibrary env lib = .ok lib') : Reachable allowed lib'
  | free {lib lib'} (before : Reachable allowed lib) (freed : freeLibrary lib = .ok lib') :
      Reachable allowed lib'
  | ask {env lib lib'} {query : Query} {reply} (before : Reachable allowed lib) (admitted : allowed env)
      (asked : query.ask env lib = .ok (reply, lib')) : Reachable allowed lib'

/-- Some calls of `getRportInfo` lead from one state to the other. -/
inductive Attaches (env : Env) : Lib → Lib → Prop where
  | refl (lib) : Attaches env lib lib
  | step {lib mid lib' pp} (called : getRportInfo env pp lib = .ok mid)
      (rest : Attaches env mid lib') : Attaches env lib lib'

theorem Attaches.trans {env a b c} (first : Attaches env a b) (second : Attaches env b c) :
    Attaches env a c := by
  induction first with
  | refl => exact second
  | step called _ ih => exact .step called (ih second)

/-- What every call of `getRportInfo` preserves. -/
theorem Attaches.preserves {env lib lib'} {P : Lib → Prop}
    (step : ∀ pp a b, P a → getRportInfo env pp a = .ok b → P b)
    (attaches : Attaches env lib lib') (start : P lib) : P lib' := by
  induction attaches with
  | refl => exact start
  | step called _ ih => exact ih (step _ _ _ start called)

theorem findRport_attaches {env pp find lib rp lib'}
    (called : findRport env pp find lib = .ok (rp, lib')) : Attaches env lib lib' := by
  rw [findRport, bind_eq_ok] at called
  obtain ⟨mid, attached, rest⟩ := called
  obtain ⟨port, -, rest⟩ := bind_eq_ok.mp rest
  obtain ⟨found, -, rest⟩ := bind_eq_ok.mp rest
  cases rest
  exact .step attached (.refl _)

theorem findRportOf_attaches {env handle port find lib rp lib'}
    (called : findRportOf env handle port find lib = .ok (rp, lib')) : Attaches env lib lib' := by
  rw [findRportOf, bind_eq_ok] at called
  obtain ⟨pp, -, rest⟩ := called
  cases pp with
  | none =>
      cases rest
      exact .refl _
  | some pp => exact findRport_attaches rest

theorem getBindingTargetMapping_attaches {env dp cp lib rc cp' lib'}
    (called : getBindingTargetMapping env dp (cp, lib) = .ok (rc, cp', lib')) :
    Attaches env lib lib' := by
  rw [getBindingTargetMapping] at called
  simp only at called
  split at called
  · cases called
    exact .refl _
  · split at called
    · cases called
      exact .refl _
    · split at called
      · obtain ⟨before, -, rest⟩ := bind_eq_ok.mp called
        obtain ⟨⟨rp, mid⟩, found, rest⟩ := bind_eq_ok.mp rest
        obtain ⟨⟨entry, sg⟩, -, rest⟩ := bind_eq_ok.mp rest
        cases rest
        rw [mappedRport] at found
        split at found
        · cases found
          exact .refl _
        · exact findRportOf_attaches found
      · cases called
        exact .refl _

theorem walk_attaches {env : Env} {start final : BindingContext × Lib}
    (walked : Except.map Prod.snd (saDirRead env.sysfs sysfsLunDir
      (getBindingTargetMapping env) start) = .ok final) : Attaches env start.2 final.2 :=
  saDirRead_preserves (P := fun state => Attaches env start.2 state.2)
    (fun _ _ _ _ _ reached called => reached.trans (getBindingTargetMapping_attaches called))
    (.refl _) walked

theorem readMapping_attaches {env ctxt lib answer lib'}
    (called : readMapping env ctxt lib = .ok (answer, lib')) : Attaches env lib lib' := by
  obtain ⟨entries, -, rest⟩ := bind_eq_ok.mp called
  obtain ⟨⟨cp, mid⟩, walked, rest⟩ := bind_eq_ok.mp rest
  cases rest
  exact walk_attaches walked

theorem getBindingTargetMappingV1_attaches {env handle map lib answer lib'}
    (called : getBindingTargetMappingV1 env handle map lib = .ok (answer, lib')) :
    Attaches env lib lib' := by
  obtain ⟨ap, -, rest⟩ := bind_eq_ok.mp called
  cases ap with
  | none =>
      cases rest
      exact .refl _
  | some ap =>
      obtain ⟨adapter, -, rest⟩ := bind_eq_ok.mp rest
      obtain ⟨⟨⟨status, filled⟩, mid⟩, mapped, rest⟩ := bind_eq_ok.mp rest
      cases rest
      exact readMapping_attaches mapped

theorem getBindingTargetMappingV2_attaches {env handle wwn map lib answer lib'}
    (called : getBindingTargetMappingV2 env handle wwn map lib = .ok (answer, lib')) :
    Attaches env lib lib' := by
  obtain ⟨⟨found, count⟩, -, rest⟩ := bind_eq_ok.mp called
  cases found with
  | none =>
      cases rest
      exact .refl _
  | some pp =>
      obtain ⟨port, -, rest⟩ := bind_eq_ok.mp rest
      cases owner : port.apAdapt with
      | none =>
          rw [owner] at rest
          cases rest
          exact .refl _
      | some ap =>
          rw [owner] at rest
          obtain ⟨adapter, -, rest⟩ := bind_eq_ok.mp rest
          exact readMapping_attaches rest

theorem getBindingSgName_attaches {env lp wwn lun len lib answer lib'}
    (called : getBindingSgName env lp wwn lun len lib = .ok (answer, lib')) :
    Attaches env lib lib' := by
  obtain ⟨⟨found, mid⟩, looked, rest⟩ := bind_eq_ok.mp called
  have first : Attaches env lib mid := findRport_attaches looked
  cases found with
  | none =>
      cases rest
      exact first
  | some rp =>
      obtain ⟨rport, -, rest⟩ := bind_eq_ok.mp rest
      simp only at rest
      split at rest
      · cases rest
        exact first
      · obtain ⟨⟨ctxt, last⟩, walked, rest⟩ := bind_eq_ok.mp rest
        have second : Attaches env mid last := walk_attaches walked
        simp only at rest
        split at rest <;> cases rest <;> exact first.trans second

theorem adapterGetRportAttr_attaches {env handle port n lib answer lib'}
    (called : adapterGetRportAttr env handle port n lib = .ok (answer, lib')) :
    Attaches env lib lib' := by
  obtain ⟨⟨found, mid⟩, looked, rest⟩ := bind_eq_ok.mp called
  have attaches : Attaches env lib mid := findRportOf_attaches looked
  cases found with
  | none =>
      cases rest
      exact attaches
  | some rp =>
      obtain ⟨rport, -, rest⟩ := bind_eq_ok.mp rest
      cases rest
      exact attaches

private theorem replyPort_attaches {env : Env} {lib lib' : Lib}
    {found : Outcome (Option Ptr × Lib)} {reply : Reply}
    (lookup : ∀ rp mid, found = .ok (rp, mid) → Attaches env lib mid)
    (called : replyPort found = .ok (reply, lib')) : Attaches env lib lib' := by
  obtain ⟨⟨rp, mid⟩, looked, rest⟩ := bind_eq_ok.mp called
  have attaches := lookup rp mid looked
  cases rp with
  | none =>
      cases rest
      exact attaches
  | some rp =>
      obtain ⟨rport, -, rest⟩ := bind_eq_ok.mp rest
      cases rest
      exact attaches

private theorem onPort_attaches {env : Env} {handle : HbaHandle} {lib lib' : Lib}
    {f : Ptr → Lib → Outcome (Reply × Lib)} {reply : Reply}
    (inner : ∀ pp, f pp lib = .ok (reply, lib') → Attaches env lib lib')
    (called : onPort handle f lib = .ok (reply, lib')) : Attaches env lib lib' := by
  obtain ⟨pp, -, rest⟩ := bind_eq_ok.mp called
  cases pp with
  | none =>
      cases rest
      exact .refl _
  | some pp => exact inner pp rest

private theorem mapped_attaches {α : Type} {env : Env} {lib lib' : Lib} {reply : Reply}
    {wrap : α → Reply} {answer : Outcome (α × Lib)}
    (inner : ∀ a mid, answer = .ok (a, mid) → Attaches env lib mid)
    (called : Except.map (Prod.map wrap id) answer = .ok (reply, lib')) : Attaches env lib lib' := by
  obtain ⟨⟨a, mid⟩, answered, same⟩ := map_eq_ok.mp called
  cases same
  exact inner a mid answered

/-- The state after a query is reached by attaching remote ports. -/
theorem ask_attaches {env : Env} {query : Query} {lib lib' : Lib} {reply : Reply}
    (asked : query.ask env lib = .ok (reply, lib')) : Attaches env lib lib' := by
  cases query with
  | rport | rportTarget =>
      rw [Query.ask] at asked
      exact replyPort_attaches (fun _ _ => findRportOf_attaches) asked
  | rportAttr =>
      rw [Query.ask] at asked
      exact mapped_attaches (fun _ _ => adapterGetRportAttr_attaches) asked
  | rportByWwn | rportByFcid =>
      rw [Query.ask] at asked
      refine onPort_attaches (fun pp called => ?_) asked
      exact replyPort_attaches (fun _ _ => findRport_attaches) called
  | mappingV1 =>
      rw [Query.ask] at asked
      exact mapped_attaches (fun _ _ => getBindingTargetMappingV1_attaches) asked
  | mappingV2 =>
      rw [Query.ask] at asked
      exact mapped_attaches (fun _ _ => getBindingTargetMappingV2_attaches) asked
  | sgName =>
      rw [Query.ask] at asked
      refine onPort_attaches (fun pp called => ?_) asked
      exact mapped_attaches (fun _ _ => getBindingSgName_attaches) called

/-- An invariant holds in every reachable state if the first state has it and
    loading, freeing and attaching keep it. -/
theorem Reachable.invariant {allowed : Env → Prop} {P : Lib → Prop} (init : P .init)
    (load : ∀ env lib lib', P lib → allowed env → FewAdapters env lib →
      loadLibrary env lib = .ok lib' → P lib')
    (free : ∀ lib lib', P lib → freeLibrary lib = .ok lib' → P lib')
    (attach : ∀ env pp lib lib', P lib → allowed env → getRportInfo env pp lib = .ok lib' → P lib')
    {lib : Lib} (reachable : Reachable allowed lib) : P lib := by
  induction reachable with
  | init => exact init
  | load _ admitted few loaded ih => exact load _ _ _ ih admitted few loaded
  | free _ freed ih => exact free _ _ ih freed
  | ask _ admitted asked ih =>
      exact (ask_attaches asked).preserves
        (fun pp a b kept called => attach _ pp a b kept admitted called) ih

end Hbalinux
