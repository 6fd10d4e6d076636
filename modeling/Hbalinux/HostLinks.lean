import Hbalinux.AdapterInvariant
import Hbalinux.C.Loop

/-! # The interface and the PCI address of a host

The link behind a host names its PCI device.  For a virtual interface the link of its
parent is taken, which is the interface with the index in `iflink`; the buffer with
this index is overwritten by the name that is found.  The address is looked for from
the end of the link backwards.
-/

namespace Hbalinux

open Outcome

/-! ## The parent of a virtual interface -/

/-- The line `check_ifindex` reads for an interface. -/
def ifindexLine (sysfs : Sysfs) (dp : DirEnt) : Option CStr :=
  match saSysReadLine sysfs (snprintf 256 (joinPath sysfsHbaDir dp.dName)) "ifindex"
      (List.replicate 256 '\x00') 255 with
  | (0, line) => some (cstr line)
  | _ => none

/-- The first interface with this index. -/
def interfaceWith (sysfs : Sysfs) (line : CStr) : List DirEnt → Option DirEnt :=
  List.find? fun dp => ifindexLine sysfs dp = some line

theorem ifindexLine_iff {sysfs : Sysfs} {dp : DirEnt} {key : CStr} :
    ifindexLine sysfs dp = some key ↔
      (saSysReadLine sysfs (snprintf 256 (joinPath sysfsHbaDir dp.dName)) "ifindex"
        (List.replicate 256 '\x00') 255).1 = 0 ∧
      key = cstr (saSysReadLine sysfs (snprintf 256 (joinPath sysfsHbaDir dp.dName)) "ifindex"
        (List.replicate 256 '\x00') 255).2 := by
  unfold ifindexLine
  generalize saSysReadLine sysfs _ _ _ _ = read
  obtain ⟨rc, line⟩ := read
  simp only
  split
  · rename_i read
    cases read
    rw [Option.some.injEq]
    exact ⟨fun same => ⟨rfl, same.symm⟩, fun both => both.2.symm⟩
  · rename_i failed
    exact ⟨nofun, fun both => (failed line (Prod.ext both.1 rfl)).elim⟩

theorem checkIfindex_eq (sysfs : Sysfs) (dp : DirEnt) (buf : List Char) :
    checkIfindex sysfs dp buf =
      .ok (if ifindexLine sysfs dp = some (cstr buf) then (1, overlay dp.dName buf) else (0, buf)) := by
  by_cases here : ifindexLine sysfs dp = some (cstr buf)
  · rw [if_pos here]
    exact if_pos (ifindexLine_iff.mp here)
  · rw [if_neg here]
    exact if_neg fun both => here (ifindexLine_iff.mpr both)

/-- The directory is read up to the first interface with the index in the buffer. -/
theorem checkIfindex_walk (sysfs : Sysfs) (es : List DirEnt) (buf : List Char) :
    untilNonzero (checkIfindex sysfs) es buf =
      .ok (match interfaceWith sysfs (cstr buf) es with
        | none => (0, buf)
        | some dp => (1, overlay dp.dName buf)) := by
  induction es with
  | nil => rfl
  | cons dp es ih =>
      rw [untilNonzero_cons, checkIfindex_eq, ok_bind, interfaceWith, List.find?_cons]
      by_cases here : ifindexLine sysfs dp = some (cstr buf)
      · simp [here]
      · simp only [here, if_false, decide_false]
        exact ih

/-- What should be returned: zero and the name of the first interface with the index in
    `iflink`, or something else when there is none. -/
structure NamesParent (sysfs : Sysfs) (hbaDir : CStr) (rc : Int) (buf : List Char) : Prop where
  zero : rc = 0 ↔ ∃ line, sysLine sysfs hbaDir "iflink" = some line ∧
    ∃ dp ∈ sysfs.listing sysfsHbaDir, ifindexLine sysfs dp = some line
  name : rc = 0 → ∃ line dp, sysLine sysfs hbaDir "iflink" = some line ∧
    interfaceWith sysfs line (sysfs.listing sysfsHbaDir) = some dp ∧ cstr buf = cstr dp.dName

theorem findPhysIf_unread {sysfs : Sysfs} {hbaDir : CStr} {buf : List Char}
    (unread : sysLine sysfs hbaDir "iflink" = none) : findPhysIf sysfs hbaDir buf = .ok (1, buf) := by
  rw [findPhysIf, saSysReadLine_unread unread]
  rfl

/-- A readable `iflink` is enough for the result zero. -/
theorem findPhysIf_read {sysfs : Sysfs} {hbaDir line : CStr} {buf : List Char}
    (read : sysLine sysfs hbaDir "iflink" = some line) :
    ∃ buf', findPhysIf sysfs hbaDir buf = .ok (0, buf') ∧
      cstr buf' = match interfaceWith sysfs line (sysfs.listing sysfsHbaDir) with
        | none => line
        | some dp => cstr dp.dName := by
  obtain ⟨zero, text⟩ := saSysReadLine_read read buf
  generalize reads : saSysReadLine sysfs hbaDir "iflink" buf 256 = result at zero text
  obtain ⟨rc, key⟩ := result
  cases zero
  simp only [findPhysIf, reads, ne_eq, saDirRead_state, checkIfindex_walk, text]
  refine ⟨_, rfl, ?_⟩
  cases interfaceWith sysfs line (sysfs.listing sysfsHbaDir) with
  | none => exact text
  | some dp => exact cstr_overlay_line dp.dName key

/-- An interface has the index that `iflink` gives, if it gives one. -/
def ParentListed (sysfs : Sysfs) (hbaDir : CStr) : Prop :=
  ∀ line, sysLine sysfs hbaDir "iflink" = some line →
    ∃ dp ∈ sysfs.listing sysfsHbaDir, ifindexLine sysfs dp = some line

theorem interfaceWith_listed {sysfs : Sysfs} {line : CStr} {es : List DirEnt} :
    (interfaceWith sysfs line es).isSome ↔ ∃ dp ∈ es, ifindexLine sysfs dp = some line := by
  rw [interfaceWith, List.find?_isSome]
  simp only [decide_eq_true_eq]

/-- The parent is reported as it should be exactly when there is one, or `iflink` cannot be
    read; in all other cases its text is left as the name of an interface. -/
theorem findPhysIf_parent_iff (sysfs : Sysfs) (hbaDir : CStr) (buf : List Char) :
    (∃ rc buf', findPhysIf sysfs hbaDir buf = .ok (rc, buf') ∧ NamesParent sysfs hbaDir rc buf') ↔
      ParentListed sysfs hbaDir := by
  cases read : sysLine sysfs hbaDir "iflink" with
  | none =>
      refine iff_of_true ⟨1, buf, findPhysIf_unread read, ⟨nofun, ?_⟩, nofun⟩ fun line given => ?_
      · rintro ⟨line, given, -⟩
        rw [read] at given
        cases given
      · rw [read] at given
        cases given
  | some line =>
      obtain ⟨named, found, text⟩ := @findPhysIf_read sysfs hbaDir line buf read
      have only : ∀ line', sysLine sysfs hbaDir "iflink" = some line' ↔ line' = line := by
        intro line'
        rw [read, Option.some.injEq, eq_comm]
      constructor
      · rintro ⟨rc, buf', called, parent⟩
        rw [found] at called
        cases called
        obtain ⟨line', given, listed⟩ := parent.zero.mp rfl
        intro line'' given'
        rw [(only _).mp given', ← (only _).mp given]
        exact listed
      · intro listed
        have here := listed line read
        refine ⟨0, named, found, ⟨fun _ => ⟨line, read, here⟩, fun _ => rfl⟩, fun _ => ?_⟩
        obtain ⟨dp, first⟩ := Option.isSome_iff_exists.mp (interfaceWith_listed.mpr here)
        rw [first] at text
        exact ⟨line, dp, read, first, text⟩

/-- A virtual interface whose parent has been removed. -/
def orphanedVlan : Sysfs :=
  .ofLists [("/sys/class/net/eth2.5/ifindex", "9\n"), ("/sys/class/net/eth2.5/iflink", "7\n")]
    [("/sys/class/net", [⟨"eth2.5", .lnk⟩])] []

/-- The index of the missing parent is left as the name of an interface. -/
theorem findPhysIf_orphaned :
    (∃ buf, findPhysIf orphanedVlan "/sys/class/net/eth2.5" (List.replicate 256 'A') = .ok (0, buf) ∧
      cstr buf = "7".toList) ∧
    ¬ ∃ rc buf, findPhysIf orphanedVlan "/sys/class/net/eth2.5" (List.replicate 256 'A') =
      .ok (rc, buf) ∧ NamesParent orphanedVlan "/sys/class/net/eth2.5" rc buf := by
  have evaluated : sysLine orphanedVlan "/sys/class/net/eth2.5" "iflink" = some "7".toList ∧
      interfaceWith orphanedVlan "7" (orphanedVlan.listing sysfsHbaDir) = none := by decide +kernel
  obtain ⟨buf, found, text⟩ := @findPhysIf_read orphanedVlan "/sys/class/net/eth2.5" _
    (List.replicate 256 'A') evaluated.1
  rw [evaluated.2] at text
  refine ⟨⟨buf, found, text⟩, ?_⟩
  rintro ⟨rc, buf', called, parent⟩
  rw [found] at called
  cases called
  obtain ⟨line, given, listed⟩ := parent.zero.mp rfl
  rw [evaluated.1, Option.some.injEq] at given
  have some := interfaceWith_listed.mpr listed
  rw [← given, evaluated.2] at some
  cases some

/-! ## The PCI address in a link -/

/-- The components of a path that stand behind a slash. -/
def slashComponents (path : CStr) : List CStr := (path.splitOn '/').tail

theorem slashComponents_none {path : CStr} (noSlash : '/' ∉ path) : slashComponents path = [] := by
  rw [slashComponents, List.splitOn_eq_singleton noSlash]
  rfl

theorem slashComponents_last {before component : CStr} (noSlash : '/' ∉ component) :
    slashComponents (before ++ '/' :: component) = slashComponents before ++ [component] := by
  rw [slashComponents, List.splitOn_append_cons_self, List.splitOn_eq_singleton noSlash,
    List.tail_append_of_ne_nil (List.splitOn_ne_nil '/' before), slashComponents]

/-- The last component that is read completely. -/
def lastAddress (scan : CStr → List UInt32) (path : CStr) : Option CStr :=
  (slashComponents path).reverse.find? fun component => (scan component).length = 4

/-- The variables of an address. -/
def HbaInfo.address (info : HbaInfo) : List UInt32 := [info.domain, info.bus, info.dev, info.func]

/-- Everything but the address. -/
def HbaInfo.unaddressed (info : HbaInfo) : HbaInfo :=
  { info with domain := 0, bus := 0, dev := 0, func := 0 }

/-- A complete address replaces whatever was stored before. -/
theorem setAddress_address {parts : List UInt32} (complete : parts.length = 4) (info : HbaInfo) :
    (info.setAddress parts).address = parts := by
  match parts, complete with
  | [domain, bus, dev, func], _ => rfl

/-- Only the address is touched, also by an incomplete one. -/
theorem setAddress_unaddressed (info : HbaInfo) (parts : List UInt32) :
    (info.setAddress parts).unaddressed = info.unaddressed := by
  unfold HbaInfo.setAddress
  split <;> rfl

/-- One round of the loop over the components. -/
def pciRound (scan : CStr → List UInt32) (s : List Char × HbaInfo) :
    Round (List Char × HbaInfo) (Option (List Char × HbaInfo)) :=
  match strrchr (cstr s.1) '/' with
  | none => .done none
  | some (before, component) =>
      let parts := scan component
      let info := s.2.setAddress parts
      if parts.length = 4 then .done (some (s.1, info))
      else if before = [] then .done none
      else .again (s.1.set before.length '\x00', info)

/-- `pciAddress` runs this loop and takes exhausted fuel for no address. -/
theorem pciAddress_eq_run (scan : CStr → List UInt32) (fuel : Nat) (buf : List Char) (info : HbaInfo) :
    pciAddress scan fuel buf info = (runLoop (pciRound scan) fuel (buf, info)).join := by
  induction fuel generalizing buf info with
  | zero => rfl
  | succ fuel ih =>
      rw [pciAddress, runLoop, pciRound]
      simp only
      cases strrchr (cstr buf) '/' with
      | none => rfl
      | some parts =>
          obtain ⟨before, component⟩ := parts
          simp only
          by_cases complete : (scan component).length = 4
          · rw [if_pos complete, if_pos complete]
            rfl
          · rw [if_neg complete, if_neg complete]
            by_cases first : before = []
            · rw [if_pos first, if_pos first]
              rfl
            · rw [if_neg first, if_neg first]
              exact ih _ _

/-- What `strrchr` finds is the last component. -/
theorem strrchr_cases (s : CStr) :
    (strrchr s '/' = none ∧ '/' ∉ s) ∨
      ∃ before component, strrchr s '/' = some (before, component) ∧
        s = before ++ '/' :: component ∧ '/' ∉ component := by
  induction s with
  | nil => exact .inl ⟨rfl, nofun⟩
  | cons d ds ih =>
      rw [strrchr]
      rcases ih with ⟨missing, absent⟩ | ⟨before, component, found, split, absent⟩
      · rw [missing]
        by_cases slash : d = '/'
        · exact .inr ⟨[], ds, if_pos slash, by rw [slash, List.nil_append], absent⟩
        · refine .inl ⟨if_neg slash, ?_⟩
          rw [List.mem_cons, not_or]
          exact ⟨Ne.symm slash, absent⟩
      · exact .inr ⟨d :: before, component, by rw [found], by rw [split, List.cons_append], absent⟩

/-- Cutting the string at its last slash. -/
theorem cstr_cut {buf : List Char} {before component : CStr}
    (split : cstr buf = before ++ '/' :: component) :
    cstr (buf.set before.length '\x00') = before := by
  obtain ⟨rest, whole⟩ : cstr buf <+: buf := List.takeWhile_prefix _
  have clean : ∀ c ∈ before, c ≠ '\x00' := fun c member =>
    cstr_clean buf c (split ▸ List.mem_append_left _ member)
  rw [← whole, split, List.append_assoc, List.cons_append, List.set_append_right _ _ le_rfl,
    Nat.sub_self, List.set_cons_zero]
  exact cstr_append clean _

/-- What the loop should leave with. -/
def IsLastAddress (scan : CStr → List UInt32) (path : CStr) (info : HbaInfo) :
    Option (List Char × HbaInfo) → Prop
  | none => lastAddress scan path = none
  | some (_, found) => ∃ component, lastAddress scan path = some component ∧
      found.address = scan component ∧ found.unaddressed = info.unaddressed

theorem lastAddress_last {scan : CStr → List UInt32} {before component : CStr}
    (noSlash : '/' ∉ component) : lastAddress scan (before ++ '/' :: component) =
      if (scan component).length = 4 then some component else lastAddress scan before := by
  rw [lastAddress, slashComponents_last noSlash, List.reverse_append, List.reverse_singleton,
    List.singleton_append, List.find?_cons]
  by_cases complete : (scan component).length = 4
  · simp [complete]
  · simp only [complete, decide_false, if_false]
    rfl

/-- One round: it leaves with the right result, or goes on with a shorter path that has the
    same last address. -/
theorem pciRound_cases (scan : CStr → List UInt32) (buf : List Char) (info : HbaInfo) :
    (∃ result, pciRound scan (buf, info) = .done result ∧
        IsLastAddress scan (cstr buf) info result) ∨
      ∃ buf' info', pciRound scan (buf, info) = .again (buf', info') ∧
        (cstr buf').length < (cstr buf).length ∧
        lastAddress scan (cstr buf) = lastAddress scan (cstr buf') ∧
        info'.unaddressed = info.unaddressed := by
  unfold pciRound
  rcases strrchr_cases (cstr buf) with ⟨missing, noSlash⟩ | ⟨before, component, found, split, noSlash⟩
  · refine .inl ⟨none, by rw [missing], ?_⟩
    rw [IsLastAddress, lastAddress, slashComponents_none noSlash]
    rfl
  · have last := @lastAddress_last scan before component noSlash
    rw [← split] at last
    simp only [found]
    by_cases complete : (scan component).length = 4
    · rw [if_pos complete] at last ⊢
      exact .inl ⟨_, rfl, component, last, setAddress_address complete info,
        setAddress_unaddressed info _⟩
    · rw [if_neg complete] at last ⊢
      by_cases first : before = []
      · rw [if_pos first]
        refine .inl ⟨none, rfl, ?_⟩
        rw [IsLastAddress, last, first]
        rfl
      · rw [if_neg first]
        refine .inr ⟨_, _, rfl, ?_, ?_, setAddress_unaddressed info _⟩
        · rw [cstr_cut split, split, List.length_append, List.length_cons]
          omega
        · rw [cstr_cut split, last]

/-- The loop ends after at most as many rounds as the path has characters. -/
theorem pciRound_run (scan : CStr → List UInt32) (buf : List Char) (info : HbaInfo) :
    ∃ result, runLoop (pciRound scan) ((cstr buf).length + 1) (buf, info) = some result ∧
      IsLastAddress scan (cstr buf) info result := by
  induction size : (cstr buf).length using Nat.strong_induction_on generalizing buf info with
  | _ n ih =>
      rcases pciRound_cases scan buf info with
        ⟨result, leaves, right⟩ | ⟨buf', info', goes, shorter, same, kept⟩
      · exact ⟨result, runLoop_done leaves n, right⟩
      · obtain ⟨result, ran, right⟩ := ih _ (size ▸ shorter) buf' info' rfl
        refine ⟨result, ?_, ?_⟩
        · rw [runLoop_again goes]
          exact runLoop_more ran (by omega)
        · cases result with
          | none => exact same.trans right
          | some found =>
              obtain ⟨component, last, address, rest⟩ := right
              exact ⟨component, same.trans last, address, rest.trans kept⟩

/-- The link of a host, where `identifyHost` comes to look for its address. -/
def LinkRead (sysfs : Sysfs) (scratch : Scratch) (dp : DirEnt) (link : List Char) : Prop :=
  let hostDir := snprintf 80 (joinPath sysfsHostDir dp.dName)
  let buf := (saSysReadLine sysfs hostDir "symbolic_name" scratch.buf.toList 256).2
  ∃ cp hbaDir ifname, strstr (saStrncpySafe 256 buf 256) " over " = some cp ∧
    pciLink sysfs hostDir (cp.drop 6) scratch.ifname.toList buf = .ok (some (hbaDir, ifname, link))

/-- What becomes of the host is decided by the loop. -/
theorem identifyHostBy_eq {scan : CStr → List UInt32} {sysfs : Sysfs} {scratch : Scratch}
    {dp : DirEnt} {link : List Char} (read : LinkRead sysfs scratch dp link) :
    Except.map (Option.map Identified.info) (identifyHostBy scan sysfs scratch dp) =
      .ok ((pciAddress scan (link.length + 1) link .zero).map Prod.snd) := by
  obtain ⟨cp, hbaDir, ifname, found, linked⟩ := read
  simp only [identifyHostBy, found, linked, ok_bind]
  cases pciAddress scan (link.length + 1) link .zero <;> rfl

theorem lastAddress_isSome {scan : CStr → List UInt32} {path : CStr} :
    (lastAddress scan path).isSome ↔
      ∃ component ∈ slashComponents path, (scan component).length = 4 := by
  rw [lastAddress, List.find?_isSome]
  simp only [List.mem_reverse, decide_eq_true_eq]

/-- No later component is complete. -/
theorem lastAddress_eq_some {scan : CStr → List UInt32} {path component : CStr}
    (last : lastAddress scan path = some component) :
    (scan component).length = 4 ∧ ∃ before after,
      slashComponents path = before ++ component :: after ∧
        ∀ later ∈ after, (scan later).length ≠ 4 := by
  obtain ⟨complete, later, earlier, split, incomplete⟩ := List.find?_eq_some_iff_append.mp last
  refine ⟨of_decide_eq_true complete, earlier.reverse, later.reverse, ?_, fun other member => ?_⟩
  · rw [← List.reverse_reverse (slashComponents path), split]
    simp
  · simpa using incomplete other (List.mem_reverse.mp member)

theorem lastAddress_of_split {scan : CStr → List UInt32} {path : CStr} {before after : List CStr}
    {component : CStr} (split : slashComponents path = before ++ component :: after)
    (complete : (scan component).length = 4)
    (incomplete : ∀ later ∈ after, (scan later).length ≠ 4) :
    lastAddress scan path = some component := by
  rw [lastAddress, List.find?_eq_some_iff_append]
  refine ⟨decide_eq_true complete, after.reverse, before.reverse, by simp [split],
    fun later member => ?_⟩
  simpa using incomplete later (List.mem_reverse.mp member)

/-- The loop ends.  It finds an address exactly when some component behind a slash is one, and
    then all four numbers are those of the last such component, which are stored for the host; a
    host without one is skipped. -/
theorem pciAddress_last (scan : CStr → List UInt32) :
    (∀ (buf : List Char) (info : HbaInfo),
      ∃ result, EndsWith (pciRound scan) (buf, info) result ∧
        pciAddress scan (buf.length + 1) buf info = result ∧
        (result.isSome ↔ ∃ component ∈ slashComponents (cstr buf), (scan component).length = 4) ∧
        ∀ buf' info', result = some (buf', info') →
          ∃ before component after,
            slashComponents (cstr buf) = before ++ component :: after ∧
            (scan component).length = 4 ∧ (∀ later ∈ after, (scan later).length ≠ 4) ∧
            [info'.domain, info'.bus, info'.dev, info'.func] = scan component) ∧
    ∀ sysfs scratch dp link, LinkRead sysfs scratch dp link →
      ((∀ component ∈ slashComponents (cstr link), (scan component).length ≠ 4) →
        identifyHostBy scan sysfs scratch dp = .ok none) ∧
      ∀ before component after, slashComponents (cstr link) = before ++ component :: after →
        (scan component).length = 4 → (∀ later ∈ after, (scan later).length ≠ 4) →
          ∃ found, identifyHostBy scan sysfs scratch dp = .ok (some found) ∧
            [found.info.domain, found.info.bus, found.info.dev, found.info.func] =
              scan component := by
  have computes (buf : List Char) (info : HbaInfo) :
      ∃ result, EndsWith (pciRound scan) (buf, info) result ∧
        pciAddress scan (buf.length + 1) buf info = result ∧
        IsLastAddress scan (cstr buf) info result := by
    obtain ⟨result, ran, right⟩ := pciRound_run scan buf info
    have enough := runLoop_more ran (Nat.add_le_add_right (cstr_length_le buf) 1)
    exact ⟨result, ⟨_, ran⟩, by rw [pciAddress_eq_run, enough, Option.join_some], right⟩
  constructor
  · intro buf info
    obtain ⟨result, ends, computed, right⟩ := computes buf info
    refine ⟨result, ends, computed, ?_, fun buf' info' found => ?_⟩
    · rw [← lastAddress_isSome]
      cases result with
      | none => simp [show lastAddress scan (cstr buf) = none from right]
      | some found =>
          obtain ⟨component, last, -⟩ := right
          simp [last]
    · subst found
      obtain ⟨component, last, address, -⟩ := right
      obtain ⟨complete, before, after, split, incomplete⟩ := lastAddress_eq_some last
      exact ⟨before, component, after, split, complete, incomplete, address⟩
  · intro sysfs scratch dp link read
    obtain ⟨result, -, computed, right⟩ := computes link .zero
    have decided := @identifyHostBy_eq scan _ _ _ _ read
    rw [computed] at decided
    obtain ⟨identified, called, info⟩ := map_eq_ok.mp decided
    constructor
    · intro incomplete
      cases result with
      | none => rw [called, Option.map_eq_none_iff.mp info]
      | some found =>
          obtain ⟨component, last, -⟩ := right
          obtain ⟨complete, before, after, split, -⟩ := lastAddress_eq_some last
          exact absurd complete (incomplete component (by simp [split]))
    · intro before component after split complete incomplete
      have last := lastAddress_of_split split complete incomplete
      cases result with
      | none => cases last.symm.trans right
      | some found =>
          obtain ⟨component', last', address, -⟩ := right
          obtain rfl : component' = component := Option.some.inj (last'.symm.trans last)
          obtain ⟨stored, rfl, same⟩ := Option.map_eq_some_iff.mp info
          exact ⟨stored, called, by rw [same]; exact address⟩

/-- A host behind a PCI device of its own, which is not the last component of its link. -/
def pciHost : Sysfs :=
  .ofLists [("/sys/class/fc_host/host7/symbolic_name", "fnic v1.6 over fnic7\n")] []
    [("/sys/class/fc_host/host7/device", "../../devices/pci0000:00/0000:03:00.1/host7")]

def pciHostLink : List Char :=
  overlay "../../devices/pci0000:00/0000:03:00.1/host7".toList (smallSystem.scratch []).buf.toList

theorem linkRead_pciHost :
    LinkRead pciHost (smallSystem.scratch []) ⟨"host7", .lnk⟩ pciHostLink := by
  refine ⟨" over fnic7", "/sys/class/fc_host/host7/device/..", (smallSystem.scratch []).ifname.toList,
    ?_, eq_ok_of_toOption ?_⟩ <;> decide +kernel

/-- Its address is found, and it would be skipped if nothing could be read. -/
theorem pciAddress_last_small :
    (∃ found, identifyHost pciHost (smallSystem.scratch []) ⟨"host7", .lnk⟩ = .ok (some found) ∧
      [found.info.domain, found.info.bus, found.info.dev, found.info.func] = [0, 3, 0, 1]) ∧
    identifyHostBy (fun _ => []) pciHost (smallSystem.scratch []) ⟨"host7", .lnk⟩ = .ok none := by
  have components : slashComponents (cstr pciHostLink) =
      ["..", "devices", "pci0000:00"].map String.toList ++
        "0000:03:00.1".toList :: ["host7".toList] ∧
      sscanf pciFormat "0000:03:00.1" = [0, 3, 0, 1] ∧ sscanf pciFormat "host7" = [] := by
    decide +kernel
  obtain ⟨split, address, behind⟩ := components
  have incomplete : ∀ later ∈ ["host7".toList], (sscanf pciFormat later).length ≠ 4 := by
    intro later member
    rw [List.mem_singleton.mp member, behind]
    decide
  have finds := ((pciAddress_last (sscanf pciFormat)).2 _ _ _ _ linkRead_pciHost).2 _ _ _ split
    (by rw [address]; rfl) incomplete
  rw [address] at finds
  exact ⟨finds, ((pciAddress_last fun _ => []).2 _ _ _ _ linkRead_pciHost).1 fun _ _ => nofun⟩

end Hbalinux
