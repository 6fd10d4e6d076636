import Hbalinux.AdapterInvariant

/-! # The name of the driver

The last use of the line buffer in `sysfs_scan`: the target of a link is read into
it, and the driver name is taken to begin seven characters behind the start of the
first `module` in it.  The result is right where a slash is the seventh of them.
-/

namespace Hbalinux

open Outcome

def driverLink (found : Identified) : CStr := snprintf 80 (found.hbaDir ++ sysfsModule)

/-- Where `driverName` points to in the buffer, unless it points to `"Unknown"`. -/
def driverOffset (buf : List Char) : Option Nat :=
  (strstr (cstr buf) "module").map fun text => (cstr buf).length - text.length + 7

/-- The driver name for the target of a link, `none` if there is no link, with the buffer the
    target is read into. -/
def driverName (link : Option CStr) (buf : List Char) : Outcome CStr := do
  let i := ((link.map (List.take 256)).getD []).length
  if 256 ≤ i then .error .outOfBounds
  let buf := overlay ((link.map (List.take 256)).getD []) buf
  let name ← match driverOffset buf with
    | none => .ok "Unknown".toList
    | some offset => terminated (buf.drop offset)
  .ok (saStrncpySafe 256 name 256)

/-- The model description, whose first word is the model. -/
def modelDescription (env : Env) (found : Identified) : CStr :=
  let read (file : CStr) := (saSysReadU32 env.sysfs found.hbaDir file).getD 0
  let info := env.findPciDevice { found.info with
    vendorId := read "vendor"
    deviceId := read "device"
    subsystemVendorId := read "subsystem_vendor"
    subsystemDeviceId := read "subsystem_device"
    deviceClass := read "class" >>> 8 }
  if info.modelDescription = "Unknown" then snprintf 256 (modelNumbers info)
  else saStrncpySafe 256 info.modelDescription 256

/-- What the buffer holds when the link is read into it: the model. -/
def modelBuffer (env : Env) (found : Identified) (buf : List Char) : List Char :=
  strtokInto (safeInto buf (modelDescription env found) 256) ' '

/-- This is how `sysfs_scan` gets the name. -/
theorem adapterAttributes_driverName (env : Env) (found : Identified) (adName : CStr)
    (nodeWwn : HbaWwn) (buf : List Char) :
    Except.map HbaAdapterAttributes.driverName (adapterAttributes env found adName nodeWwn buf) =
      driverName (env.sysfs.link (driverLink found)) (modelBuffer env found buf) := by
  unfold adapterAttributes driverName driverOffset readlink
  dsimp only []
  generalize work : strtokInto _ _ = line
  rw [show modelBuffer env found buf = line from work, driverLink]
  generalize ((env.sysfs.link (snprintf 80 (found.hbaDir ++ sysfsModule))).map
    (List.take 256)).getD [] = target
  by_cases long : 256 ≤ target.length
  · rw [if_pos long, if_pos long]
    rfl
  · rw [if_neg long, if_neg long]
    cases strstr (cstr (overlay target line)) "module" with
    | none => rfl
    | some text =>
        simp only [Option.map_some]
        generalize terminated _ = name
        cases name <;> rfl

theorem modelBuffer_length (env : Env) (found : Identified) {buf : List Char} (room : 0 < buf.length) :
    (modelBuffer env found buf).length = buf.length := by
  have copied : (safeInto buf (modelDescription env found) 256).length = buf.length := by
    rw [safeInto, trimLine_length, overlay_length]
    rw [List.length_map, List.length_take]
    omega
  rw [modelBuffer, strtokInto]
  split
  · exact copied
  · rw [List.length_set, copied]

/-- The text behind the first `module/`. -/
def moduleText (target : CStr) : Option CStr :=
  (strstr target "module/").map (List.drop 7)

/-- The name that should be found. -/
def moduleName (link : Option CStr) : CStr :=
  saStrncpySafe 256 ((link.bind moduleText).getD "Unknown") 256

/-- The name is taken from the link alone: its NUL is stored inside the buffer, and nothing is
    read behind it. -/
structure ReadSafely (link : Option CStr) (buf : List Char) : Prop where
  inside : ((link.map (List.take 256)).getD []).length < buf.length
  before : ∀ offset, driverOffset (overlay ((link.map (List.take 256)).getD []) buf) = some offset →
    offset ≤ ((link.map (List.take 256)).getD []).length
  name : driverName link buf = .ok (moduleName link)

/-- Which targets are read safely: those that fit and whose first `module` a slash follows.  There
    is one more way to end with `"Unknown"`. -/
def GoodTarget (target : CStr) : Prop :=
  target.length ≤ 255 ∧
    ∀ text, strstr target "module" = some text →
      text[6]? = some '/' ∨
        6 < text.length ∧ strstr target "module/" = none ∧
          saStrncpySafe 256 (text.drop 7) 256 = "Unknown".toList

section

variable {target text : CStr} {buf : List Char}

/-- The first `module/` is the first `module` if a slash follows that. -/
theorem strstr_slash (found : strstr target "module" = some text) (slash : text[6]? = some '/') :
    strstr target "module/" = some text := by
  obtain ⟨before, -, ⟨rest, starts⟩, -⟩ := strstr_eq_some found
  refine strstr_longer found (by decide) ?_
  rw [← starts] at slash ⊢
  cases rest with
  | nil => cases slash
  | cons c cs =>
      cases slash
      exact ⟨cs, rfl⟩

/-- A later `module/` does not overlap with the first `module`. -/
theorem module_apart {mid rest rest' : CStr}
    (same : "module".toList ++ rest = mid ++ ("module/".toList ++ rest'))
    (other : ("module".toList ++ rest)[6]? ≠ some '/') : 6 ≤ mid.length := by
  match mid, same with
  | [], same => exact absurd (by rw [same]; rfl) other
  | [_], same => simp at same
  | [_, _], same => simp at same
  | [_, _, _], same => simp at same
  | [_, _, _, _], same => simp at same
  | [_, _, _, _, _], same => simp at same
  | _ :: _ :: _ :: _ :: _ :: _ :: _, _ =>
      simp only [List.length_cons]
      omega

/-- Then the text behind the first `module` has more in front of the text behind `module/`. -/
theorem module_longer (found : strstr target "module" = some text) (other : text[6]? ≠ some '/')
    {text' : CStr} (found' : strstr target "module/" = some text') :
    ∃ more, text.drop 7 = more ++ '/' :: text'.drop 7 := by
  obtain ⟨mid, split⟩ := strstr_later found (by decide) found'
  obtain ⟨-, -, ⟨rest, starts⟩, -⟩ := strstr_eq_some found
  obtain ⟨-, -, ⟨rest', starts'⟩, -⟩ := strstr_eq_some found'
  subst starts starts'
  have apart := module_apart split.symm other
  refine ⟨(mid ++ "module".toList).drop 7, ?_⟩
  have long : 7 ≤ (mid ++ "module".toList).length := by
    rw [List.length_append]
    exact Nat.add_le_add apart (by decide : 1 ≤ "module".toList.length)
  have joined : "module".toList ++ rest = (mid ++ "module".toList) ++ '/' :: rest' := by
    rw [← split, List.append_assoc]
    rfl
  rw [joined, List.drop_append_of_le_length long]
  rfl

theorem saStrncpySafe_short {s : CStr} (clean : ∀ c ∈ s, c ≠ '\x00') (short : s.length < 256) :
    saStrncpySafe 256 s 256 =
      (s.map fun c => if isprint c then c else if isspace c then ' ' else '.').rdropWhile isspace := by
  rw [saStrncpySafe, List.take_of_length_le (by omega : s.length ≤ 256), cstr_of_clean clean,
    List.take_of_length_le (by omega)]

/-- More text in front cannot be hidden by taking blanks off the end. -/
theorem saStrncpySafe_longer {more rest : CStr} (clean : ∀ c ∈ more ++ '/' :: rest, c ≠ '\x00')
    (short : (more ++ '/' :: rest).length < 256) :
    saStrncpySafe 256 (more ++ '/' :: rest) 256 ≠ saStrncpySafe 256 rest 256 := by
  have shortRest : rest.length < 256 := by
    rw [List.length_append, List.length_cons] at short
    omega
  have cleanRest : ∀ c ∈ rest, c ≠ '\x00' := fun c member =>
    clean c (List.mem_append_right _ (List.mem_cons_of_mem _ member))
  have shape : saStrncpySafe 256 (more ++ '/' :: rest) 256 =
      more.map (fun c => if isprint c then c else if isspace c then ' ' else '.') ++
        '/' :: saStrncpySafe 256 rest 256 := by
    rw [saStrncpySafe_short clean short, saStrncpySafe_short cleanRest shortRest, List.map_append,
      List.map_cons]
    exact rdropWhile_append_cons (by decide) _ _
  intro same
  have lengths := congrArg List.length (shape.symm.trans same)
  rw [List.length_append, List.length_cons] at lengths
  omega

/-- The buffer with a target that fits. -/
theorem overlay_target (clean : ∀ c ∈ target, c ≠ '\x00') (buf : List Char) :
    cstr (overlay target buf) = target := cstr_append clean _

theorem driverOffset_target (clean : ∀ c ∈ target, c ≠ '\x00') (buf : List Char) :
    driverOffset (overlay target buf) =
      (strstr target "module").map fun text => target.length - text.length + 7 := by
  rw [driverOffset, overlay_target clean]

/-- What is read from the start of the name up to the NUL. -/
theorem terminated_target (clean : ∀ c ∈ target, c ≠ '\x00') {offset : Nat}
    (inside : offset ≤ target.length) (buf : List Char) :
    terminated ((overlay target buf).drop offset) = .ok (target.drop offset) := by
  rw [overlay, List.drop_append_of_le_length inside, terminated,
    if_pos (List.mem_append_right _ (List.mem_cons_self ..)),
    cstr_append fun c member => clean c (List.mem_of_mem_drop member)]

/-- The name for a target that fits and has a `module` in it. -/
theorem driverName_found (short : target.length ≤ 255) (clean : ∀ c ∈ target, c ≠ '\x00')
    (found : strstr target "module" = some text) (long : 6 < text.length) (buf : List Char) :
    driverName (some target) buf = .ok (saStrncpySafe 256 (text.drop 7) 256) := by
  obtain ⟨before, split, -, -⟩ := strstr_eq_some found
  have whole : target.take 256 = target := List.take_of_length_le (by omega)
  have offset : target.length - text.length + 7 = before.length + 7 := by
    rw [split, List.length_append]
    omega
  have rest : target.drop (before.length + 7) = text.drop 7 := by
    rw [split, ← List.drop_drop, List.drop_left]
  simp only [driverName, Option.map_some, Option.getD_some, whole]
  rw [if_neg (by omega), driverOffset_target clean, found]
  simp only [Option.map_some, offset]
  rw [terminated_target clean (by rw [split, List.length_append]; omega), rest]
  rfl

theorem driverName_unknown (short : target.length ≤ 255) (clean : ∀ c ∈ target, c ≠ '\x00')
    (missing : strstr target "module" = none) (buf : List Char) :
    driverName (some target) buf = .ok "Unknown".toList := by
  have whole : target.take 256 = target := List.take_of_length_le (by omega)
  simp only [driverName, Option.map_some, Option.getD_some, whole]
  rw [if_neg (by omega), driverOffset_target clean, missing]
  rfl

/-- What the name should be, by the first `module/`. -/
theorem moduleName_some : moduleName (some target) =
    match strstr target "module/" with
    | none => "Unknown".toList
    | some text => saStrncpySafe 256 (text.drop 7) 256 := by
  rw [moduleName, Option.bind_some, moduleText]
  cases strstr target "module/" with
  | none =>
      rw [Option.map_none, Option.getD_none]
      decide
  | some text => rfl

/-- The name found behind the first `module` is the right one. -/
theorem foundName_iff (short : target.length ≤ 255) (clean : ∀ c ∈ target, c ≠ '\x00')
    (found : strstr target "module" = some text) :
    saStrncpySafe 256 (text.drop 7) 256 = moduleName (some target) ↔
      text[6]? = some '/' ∨ strstr target "module/" = none ∧
        saStrncpySafe 256 (text.drop 7) 256 = "Unknown".toList := by
  rw [moduleName_some]
  by_cases slash : text[6]? = some '/'
  · rw [strstr_slash found slash]
    exact iff_of_true rfl (.inl slash)
  · cases found' : strstr target "module/" with
    | none => simp [slash]
    | some text' =>
        refine iff_of_false (fun same => ?_) fun either => ?_
        · obtain ⟨more, longer⟩ := module_longer found slash found'
          obtain ⟨before, split, -, -⟩ := strstr_eq_some found
          have part : text.drop 7 <:+ target :=
            (List.drop_suffix 7 text).trans (split ▸ List.suffix_append before text)
          rw [longer] at same part
          exact saStrncpySafe_longer (fun c member => clean c (part.subset member))
            (part.length_le.trans_lt (by omega)) same
        · rcases either with here | ⟨missing, -⟩
          · exact slash here
          · cases missing

theorem readSafely_some_iff (room : buf.length = 256) (clean : ∀ c ∈ target, c ≠ '\x00') :
    ReadSafely (some target) buf ↔ GoodTarget target := by
  by_cases short : target.length ≤ 255
  · have whole : ((some target).map (List.take 256)).getD [] = target :=
      List.take_of_length_le (by omega)
    cases found : strstr target "module" with
    | none =>
        refine iff_of_true ⟨?_, fun offset points => ?_, ?_⟩ ⟨short, fun text here => ?_⟩
        · rw [whole, room]
          omega
        · rw [whole, driverOffset_target clean, found] at points
          cases points
        · have missing : strstr target "module/" = none := by
            rw [← Option.not_isSome_iff_eq_none, strstr_isSome_iff]
            intro inside
            have inner : "module".toList <:+: target :=
              (show "module".toList <+: "module/".toList by decide).isInfix.trans inside
            rw [← strstr_isSome_iff, found] at inner
            cases inner
          rw [driverName_unknown short clean found, moduleName_some, missing]
        · rw [found] at here
          cases here
    | some text =>
        obtain ⟨before, split, -, -⟩ := strstr_eq_some found
        have lengths : target.length = before.length + text.length := by
          rw [split, List.length_append]
        constructor
        · intro safe
          have behind := safe.before (target.length - text.length + 7)
            (by rw [whole, driverOffset_target clean, found]; rfl)
          rw [whole] at behind
          have long : 6 < text.length := by omega
          have name := safe.name
          rw [driverName_found short clean found long, Except.ok.injEq,
            foundName_iff short clean found] at name
          refine ⟨short, fun text' here => ?_⟩
          rw [found, Option.some.injEq] at here
          subst here
          exact name.imp_right fun both => ⟨long, both⟩
        · rintro ⟨-, good⟩
          have either := good text found
          have long : 6 < text.length := by
            rcases either with slash | ⟨long, -⟩
            · exact (List.getElem?_eq_some_iff.mp slash).1
            · exact long
          refine ⟨by rw [whole, room]; omega, fun offset points => ?_, ?_⟩
          · rw [whole, driverOffset_target clean, found, Option.map_some, Option.some.injEq] at points
            rw [whole, ← points]
            omega
          · rw [driverName_found short clean found long, Except.ok.injEq,
              foundName_iff short clean found]
            exact either.imp_right And.right
  · refine iff_of_false (fun safe => ?_) fun good => short good.1
    have inside := safe.inside
    rw [room, Option.map_some, Option.getD_some, List.length_take] at inside
    omega

theorem readSafely_none (room : buf.length = 256) : ReadSafely none buf := by
  have offset : driverOffset (overlay [] buf) = none := by
    have empty : cstr (overlay [] buf) = [] :=
      overlay_target (fun c member => absurd member List.not_mem_nil) buf
    rw [driverOffset, empty]
    rfl
  refine ⟨by rw [room]; decide, fun offset' points => ?_, ?_⟩
  · rw [Option.map_none, Option.getD_none, offset] at points
    cases points
  · simp only [driverName, Option.map_none, Option.getD_none, offset]
    rfl

end

/-- A link that is missing, or whose target is good. -/
def GoodLink : Option CStr → Prop
  | none => True
  | some target => GoodTarget target

/-- `sysfs_scan` takes the driver name from the module link alone exactly when the link is missing
    or its target is good. -/
theorem driverName_safe_iff {env : Env} {found : Identified} {buf : List Char}
    (room : buf.length = 256)
    (clean : ∀ target, env.sysfs.link (driverLink found) = some target → ∀ c ∈ target, c ≠ '\x00')
    (adName : CStr) (nodeWwn : HbaWwn) :
    Except.map HbaAdapterAttributes.driverName (adapterAttributes env found adName nodeWwn buf) =
        driverName (env.sysfs.link (driverLink found)) (modelBuffer env found buf) ∧
      (ReadSafely (env.sysfs.link (driverLink found)) (modelBuffer env found buf) ↔
        GoodLink (env.sysfs.link (driverLink found))) := by
  refine ⟨adapterAttributes_driverName env found adName nodeWwn buf, ?_⟩
  have room' : (modelBuffer env found buf).length = 256 := by
    rw [modelBuffer_length env found (by omega), room]
  cases link : env.sysfs.link (driverLink found) with
  | none => exact iff_of_true (readSafely_none room') trivial
  | some target => exact readSafely_some_iff room' (clean target link)

/-- A device with a driver of its own. -/
def fnicFound : Identified := ⟨[], [], "/sys/class/net/eth2/device", [], [], .zero⟩

def fnicSystem : Env :=
  .withTree (.ofLists [] [] [("/sys/class/net/eth2/device/driver/module", "../../../module/fnic")])

/-- The name of this driver is read safely. -/
theorem driverName_fnic :
    ReadSafely (some "../../../module/fnic".toList)
      (modelBuffer fnicSystem fnicFound (List.replicate 256 'A')) := by
  have link : fnicSystem.sysfs.link (driverLink fnicFound) = some "../../../module/fnic".toList := by
    decide
  have clean : ∀ target, fnicSystem.sysfs.link (driverLink fnicFound) = some target →
      ∀ c ∈ target, c ≠ '\x00' := by
    intro target same
    rw [link, Option.some.injEq] at same
    rw [← same]
    simp
  have good : GoodLink (some "../../../module/fnic".toList) := by
    refine ⟨by decide +kernel, fun text here => .inl ?_⟩
    cases here
    rfl
  have room : (List.replicate 256 'A').length = 256 := List.length_replicate ..
  have read := (driverName_safe_iff room clean [] .zero).2
  rw [link] at read
  exact read.mpr good

/-- A buffer that holds a model, and behind its NUL the rest of the description. -/
def modelLeft : List Char :=
  "82599ES".toList ++ '\x00' :: "10-Gigabit".toList ++ List.replicate 238 '\x00'

/-- For a link that ends in `module` the name is taken from what is left in the buffer. -/
theorem driverName_stale :
    driverName (some "../../module".toList) modelLeft = .ok "gabit".toList ∧
      ¬ ReadSafely (some "../../module".toList) modelLeft := by
  have evaluated : (driverName (some "../../module".toList) modelLeft).toOption =
      some "gabit".toList ∧ moduleName (some "../../module".toList) = "Unknown".toList := by
    decide +kernel
  have stale := eq_ok_of_toOption evaluated.1
  refine ⟨stale, fun safe => ?_⟩
  have name := safe.name
  rw [stale, evaluated.2, Except.ok.injEq] at name
  exact absurd name (by decide)

end Hbalinux
