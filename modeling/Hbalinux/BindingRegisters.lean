import Hbalinux.BindingSupport
import Hbalinux.Wants

/-! # The bindings of the hosts

For each host there is a file with its binding.  To the three calls of `bind.c` that are about
bindings these files are registers, one for each host: setting changes the register of the host of
the port that is named, if the line is written, and nothing else, whatever calls came before.
-/

namespace Hbalinux

open Outcome

/-- `get_binding_capability`: the status and what has been stored in `*cp`, if anything. -/
def getBindingCapability (can : CanBindTo) (handle : HbaHandle) (wwn : HbaWwn) (lib : Lib) :
    Outcome (HbaStatus × Option UInt32) := do
  let (found, count) ← adapterGetPortByWwn lib handle wwn
  if 1 < count then .ok (hbaStatusErrorAmbiguousWwn, none) else
    match found with
    | none => .ok (hbaStatusErrorIllegalWwn, none)
    | some _ => .ok (hbaStatusOk, some can.capabilities)

inductive BindingRequest where
  | capability
  | support
  | set (flags : UInt32) (write : WriteOutcome)

/-- A request for the port with a name. -/
structure BindingCall where
  handle : HbaHandle
  wwn : HbaWwn
  request : BindingRequest

/-- What is returned and stored, and the files afterwards. -/
def BindingCall.run (can : CanBindTo) (lib : Lib) (call : BindingCall) (sysfs : Sysfs) :
    Outcome ((HbaStatus × Option UInt32) × Sysfs) :=
  match call.request with
  | .capability => do
      let answer ← getBindingCapability can call.handle call.wwn lib
      .ok (answer, sysfs)
  | .support => do
      let answer ← getBindingSupport can sysfs call.handle call.wwn lib
      .ok (answer, sysfs)
  | .set flags write => do
      let (status, after) ← setBindingSupport can write sysfs call.handle call.wwn flags lib
      .ok ((status, none), after)

def runBindings (can : CanBindTo) (lib : Lib) :
    List BindingCall → Sysfs → Outcome (List (HbaStatus × Option UInt32) × Sysfs)
  | [], sysfs => .ok ([], sysfs)
  | call :: calls, sysfs => do
      let (answer, sysfs) ← call.run can lib sysfs
      let (answers, sysfs) ← runBindings can lib calls sysfs
      .ok (answer :: answers, sysfs)

/-! ## Registers -/

/-- What each host is bound by, where that is known. -/
abbrev Bindings := UInt32 → Option UInt32

def BindingRequest.meaning (can : CanBindTo) (kernHba : UInt32) (bindings : Bindings) :
    BindingRequest → (HbaStatus × Option UInt32) × Bindings
  | .capability => ((hbaStatusOk, some can.capabilities), bindings)
  | .support => ((hbaStatusOk, bindings kernHba), bindings)
  | .set flags write =>
      if flags ∈ (bindingTypesTable can).map Prod.snd then
        ((hbaStatusOk, none),
          if write = .written then Function.update bindings kernHba (some flags) else bindings)
      else ((hbaStatusErrorNotSupported, none), bindings)

/-- A call is for the host of the adapter behind the handle, if its port has the name. -/
def BindingCall.meaning (can : CanBindTo) (ids : HbaHandle → Option AdapterId) (call : BindingCall)
    (bindings : Bindings) : (HbaStatus × Option UInt32) × Bindings :=
  match (ids call.handle).filter fun id => id.portWwn = call.wwn with
  | none => ((hbaStatusErrorIllegalWwn, none), bindings)
  | some id => call.request.meaning can id.kernHba bindings

def bindingsMeaning (can : CanBindTo) (ids : HbaHandle → Option AdapterId) :
    List BindingCall → Bindings → List (HbaStatus × Option UInt32) × Bindings
  | [], bindings => ([], bindings)
  | call :: calls, bindings =>
      let (answer, bindings) := call.meaning can ids bindings
      let (answers, bindings) := bindingsMeaning can ids calls bindings
      (answer :: answers, bindings)

/-! ## The files -/

def bindPath (kernHba : UInt32) : CStr := snprintf 256 (joinPath (bindDir kernHba) sysfsBind)

/-- What the files have in the registers. -/
def bindingsIn (can : CanBindTo) (sysfs : Sysfs) : Bindings := fun kernHba =>
  (bindLine sysfs kernHba).bind (saEnumEncode (bindingTypesTable can))

/-- Nothing but bindings has been written. -/
structure OnlyBindings (before after : Sysfs) : Prop where
  dir : after.dir = before.dir
  link : after.link = before.link
  file : ∀ path, (∀ kernHba, path ≠ bindPath kernHba) → after.file path = before.file path

theorem OnlyBindings.refl (sysfs : Sysfs) : OnlyBindings sysfs sysfs := ⟨rfl, rfl, fun _ _ => rfl⟩

theorem OnlyBindings.trans {a b c : Sysfs} (first : OnlyBindings a b) (second : OnlyBindings b c) :
    OnlyBindings a c where
  dir := second.dir.trans first.dir
  link := second.link.trans first.link
  file path other := (second.file path other).trans (first.file path other)

/-- The directory of a host fits. -/
theorem bindDir_eq (kernHba : UInt32) :
    bindDir kernHba = sysfsHostDir ++ "/host".toList ++ decimal kernHba.toNat ∧
      (bindDir kernHba).length ≤ 33 := by
  have number := decimal_length (k := 10) (kernHba.toNat_lt.trans (by decide)) (by decide)
  have root : sysfsHostDir.length = 18 := rfl
  have five : "/host".toList.length = 5 := rfl
  have length : (sysfsHostDir ++ "/host".toList ++ decimal kernHba.toNat).length ≤ 33 := by
    rw [List.length_append, List.length_append]
    omega
  have whole : bindDir kernHba = sysfsHostDir ++ "/host".toList ++ decimal kernHba.toNat :=
    List.take_of_length_le (length.trans (by decide))
  exact ⟨whole, whole ▸ length⟩

theorem bindPath_injective {kernHba kernHba' : UInt32} (same : bindPath kernHba = bindPath kernHba') :
    kernHba = kernHba' := by
  have whole : ∀ n, bindPath n = bindDir n ++ '/' :: sysfsBind := by
    intro n
    have short := (bindDir_eq n).2
    have length : sysfsBind.length = 15 := rfl
    refine List.take_of_length_le ?_
    rw [joinPath, List.length_append, List.length_cons]
    omega
  rw [whole, whole, (bindDir_eq _).1, (bindDir_eq _).1] at same
  have numbers := List.append_cancel_left (List.append_cancel_right same)
  exact UInt32.toNat_inj.mp (decimal_injective numbers)

theorem bindLine_congr {sysfs sysfs' : Sysfs} {kernHba : UInt32}
    (same : sysfs'.file (bindPath kernHba) = sysfs.file (bindPath kernHba)) :
    bindLine sysfs' kernHba = bindLine sysfs kernHba := by
  unfold bindPath at same
  unfold bindLine saSysReadLine
  rw [same]

section Write

variable {can : CanBindTo} {entry : CStr × UInt32} (listed : entry ∈ bindingTypesTable can)
  (write : WriteOutcome) (sysfs : Sysfs) (kernHba : UInt32)

theorem saSysWriteLine_only (text : CStr) :
    OnlyBindings sysfs (saSysWriteLine write sysfs (bindDir kernHba) sysfsBind text).2 := by
  cases write with
  | notOpened | notPrinted | notFlushed => exact .refl sysfs
  | written => exact ⟨rfl, rfl, fun path other => if_neg (other kernHba)⟩

include listed

/-- Writing changes the register of one host. -/
theorem bindingsIn_write :
    bindingsIn can (saSysWriteLine write sysfs (bindDir kernHba) sysfsBind entry.1).2 =
      if write = .written then Function.update (bindingsIn can sysfs) kernHba (some entry.2)
      else bindingsIn can sysfs := by
  cases write with
  | notOpened | notPrinted | notFlushed => rfl
  | written =>
      rw [if_pos rfl]
      funext other
      by_cases same : other = kernHba
      · rw [same, Function.update_self, bindingsIn, bindLine_write listed, Option.bind_some,
          saEnumEncode_bindingTypes listed]
      · rw [Function.update_of_ne same, bindingsIn, bindingsIn]
        refine congrArg (Option.bind · _) (bindLine_congr (if_neg fun path => ?_))
        exact same (bindPath_injective path)

end Write

/-! ## Calls -/

section Call

variable {can : CanBindTo} {lib : Lib} {handle : HbaHandle} {wwn : HbaWwn}

/-- A name that no port behind the handle has. -/
theorem BindingCall.run_unnamed (found : adapterGetPortByWwn lib handle wwn = .ok (none, 0))
    (request : BindingRequest) (sysfs : Sysfs) :
    (BindingCall.mk handle wwn request).run can lib sysfs =
      .ok ((hbaStatusErrorIllegalWwn, none), sysfs) := by
  cases request with
  | capability => simp only [BindingCall.run, getBindingCapability, found, ok_bind]; rfl
  | support => simp only [BindingCall.run, getBindingSupport, found, ok_bind]; rfl
  | set => simp only [BindingCall.run, setBindingSupport, found, ok_bind]; rfl

theorem BindingCall.run_named {pp : Ptr} {port : PortInfo}
    (found : adapterGetPortByWwn lib handle wwn = .ok (some pp, 1))
    (live : lib.lports.get pp = some port) (request : BindingRequest) (sysfs : Sysfs) :
    ∃ answer after, (BindingCall.mk handle wwn request).run can lib sysfs = .ok (answer, after) ∧
      request.meaning can port.apKernHba (bindingsIn can sysfs) = (answer, bindingsIn can after) ∧
      OnlyBindings sysfs after := by
  cases request with
  | capability =>
      refine ⟨_, sysfs, ?_, rfl, .refl sysfs⟩
      simp only [BindingCall.run, getBindingCapability, found, ok_bind]
      rfl
  | support =>
      refine ⟨_, sysfs, ?_, rfl, .refl sysfs⟩
      simp only [BindingCall.run, getBindingSupport_eq found live, ok_bind]
      rfl
  | set flags write =>
      have set : setBindingSupport can write sysfs handle wwn flags lib = _ :=
        setBindingSupport_eq found live write sysfs flags
      cases known : (bindingTypesTable can).find? fun entry => entry.2 = flags with
      | none =>
          have missing : flags ∉ (bindingTypesTable can).map Prod.snd := by
            rw [List.mem_map]
            rintro ⟨entry, listed, value⟩
            simpa [value] using List.find?_eq_none.mp known entry listed
          rw [known] at set
          refine ⟨_, sysfs, ?_, if_neg missing, .refl sysfs⟩
          simp only [BindingCall.run, set, ok_bind]
      | some entry =>
          have listed := List.mem_of_find?_eq_some known
          have value : entry.2 = flags := by simpa using List.find?_some known
          rw [known] at set
          refine ⟨(hbaStatusOk, none), _, ?_, ?_, saSysWriteLine_only write sysfs port.apKernHba entry.1⟩
          · simp only [BindingCall.run, set, ok_bind]
          · rw [bindingsIn_write listed, value]
            exact if_pos (List.mem_map.mpr ⟨entry, listed, value⟩)

end Call

/-- A call does what it means. -/
theorem AdapterInv.bindingCall {lib : Lib} (inv : AdapterInv lib) (can : CanBindTo)
    (call : BindingCall) (sysfs : Sysfs) :
    ∃ answer after, call.run can lib sysfs = .ok (answer, after) ∧
      call.meaning can lib.adapterId (bindingsIn can sysfs) = (answer, bindingsIn can after) ∧
      OnlyBindings sysfs after := by
  obtain ⟨handle, wwn, request⟩ := call
  rcases inv.opened_cases handle with closed | ⟨i, ap, pp, adapter, port, opened, slot⟩
  · have found : adapterGetPortByWwn lib handle wwn = .ok (none, 0) := by
      rw [adapterGetPortByWwn, closed]
      rfl
    refine ⟨_, sysfs, BindingCall.run_unnamed found request sysfs, ?_, .refl sysfs⟩
    rw [BindingCall.meaning, Lib.adapterId_closed closed]
    rfl
  · have found := slot.adapterGetPortByWwn_eq opened wwn
    rw [BindingCall.meaning, slot.adapterId_eq opened, ← slot.host]
    by_cases named : port.apAttr.portWwn = wwn
    · rw [if_pos named] at found
      obtain ⟨answer, after, ran, meaning, only⟩ :=
        @BindingCall.run_named can _ _ _ _ _ found slot.owns.livePort request sysfs
      refine ⟨answer, after, ran, ?_, only⟩
      rw [Option.filter_some, if_pos (decide_eq_true named)]
      exact meaning
    · rw [if_neg named] at found
      refine ⟨_, sysfs, BindingCall.run_unnamed found request sysfs, ?_, .refl sysfs⟩
      rw [Option.filter_some, if_neg (by simpa using named)]

/-- Any calls about bindings are answered as by registers, one for each host, and write nothing
    else. -/
theorem bindings_refine {allowed : Env → Prop} {lib : Lib} (reachable : Reachable allowed lib)
    (can : CanBindTo) (calls : List BindingCall) (sysfs : Sysfs) :
    ∃ answers after, runBindings can lib calls sysfs = .ok (answers, after) ∧
      bindingsMeaning can lib.adapterId calls (bindingsIn can sysfs) =
        (answers, bindingsIn can after) ∧
      OnlyBindings sysfs after := by
  have inv := adapterInv_of_reachable reachable
  induction calls generalizing sysfs with
  | nil => exact ⟨[], sysfs, rfl, rfl, .refl sysfs⟩
  | cons call calls ih =>
      obtain ⟨answer, mid, ran, meaning, only⟩ := inv.bindingCall can call sysfs
      obtain ⟨answers, after, later, meanings, only'⟩ := ih mid
      refine ⟨answer :: answers, after, ?_, ?_, only.trans only'⟩
      · simp only [runBindings, ran, later, ok_bind]
      · simp only [bindingsMeaning, meaning, meanings]

theorem bindings_refine_small : ∃ answers after,
    runBindings canBindTo (loadedState smallSystem) [⟨0x100, smallWwn, .set 2 .written⟩,
      ⟨0x100, smallWwn, .support⟩] smallSystem.sysfs = .ok (answers, after) ∧
    bindingsMeaning canBindTo (loadedState smallSystem).adapterId [⟨0x100, smallWwn, .set 2 .written⟩,
      ⟨0x100, smallWwn, .support⟩] (bindingsIn canBindTo smallSystem.sysfs) =
        (answers, bindingsIn canBindTo after) ∧
    OnlyBindings smallSystem.sysfs after :=
  bindings_refine reachable_small canBindTo _ smallSystem.sysfs

end Hbalinux
