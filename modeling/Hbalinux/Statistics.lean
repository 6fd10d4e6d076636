import Hbalinux.HostDirectory
import Hbalinux.Leaks
import Hbalinux.Numbers
import Mathlib.Logic.Function.Basic

/-! # Port statistics

The statistics of a local port are not kept: each call reads them from the directory
`statistics` of the host, one file for every counter.  A counter that cannot be read stays at
the pattern of -1, and makes the call fail, but the others are there.
-/

namespace Hbalinux

open Outcome

/-! ## `lport.c` -/

/-- The members of `HBA_PORTSTATISTICS`. -/
inductive PortCounter where
  | secondsSinceLastReset
  | txFrames
  | txWords
  | rxFrames
  | rxWords
  | lipCount
  | nosCount
  | errorFrames
  | dumpedFrames
  | linkFailureCount
  | lossOfSyncCount
  | lossOfSignalCount
  | primitiveSeqProtocolErrCount
  | invalidTxWordCount
  | invalidCrcCount
  deriving DecidableEq

/-- The members of `HBA_FC4STATISTICS`. -/
inductive Fc4Counter where
  | inputRequests
  | outputRequests
  | controlRequests
  | inputMegabytes
  | outputMegabytes
  deriving DecidableEq

/-- A structure of 64-bit counters with the given members. -/
abbrev Counters (κ : Type) := κ → UInt64

abbrev HbaPortStatistics := Counters PortCounter
abbrev HbaFc4statistics := Counters Fc4Counter

/-- After `memset` to 0xff. -/
def Counters.unsupported {κ : Type} : Counters κ := fun _ => 0xffffffffffffffff

def portCounterFiles : List (CStr × PortCounter) :=
  [("seconds_since_last_reset", .secondsSinceLastReset), ("tx_frames", .txFrames),
    ("tx_words", .txWords), ("rx_frames", .rxFrames), ("rx_words", .rxWords),
    ("lip_count", .lipCount), ("nos_count", .nosCount), ("error_frames", .errorFrames),
    ("dumped_frames", .dumpedFrames), ("link_failure_count", .linkFailureCount),
    ("loss_of_sync_count", .lossOfSyncCount), ("loss_of_signal_count", .lossOfSignalCount),
    ("prim_seq_protocol_err_count", .primitiveSeqProtocolErrCount),
    ("invalid_tx_word_count", .invalidTxWordCount), ("invalid_crc_count", .invalidCrcCount)]

def fc4CounterFiles : List (CStr × Fc4Counter) :=
  [("fcp_input_requests", .inputRequests), ("fcp_output_requests", .outputRequests),
    ("fcp_control_requests", .controlRequests), ("fcp_input_megabytes", .inputMegabytes),
    ("fcp_output_megabytes", .outputMegabytes)]

section Read

variable {κ : Type} [DecidableEq κ] (sysfs : Sysfs) (dir : CStr) (scratch : CStr → List Char)

/-- Read one file after the other, and combine the bits of the result codes.  `scratch` is what
    the line buffer holds when a file is read. -/
def readCounters : List (CStr × κ) → UInt32 × Counters κ → UInt32 × Counters κ
  | [], result => result
  | (file, member) :: files, (rc, sp) =>
      let (code, value) := saSysReadU64Into sysfs dir file (scratch file) (sp member)
      readCounters files (rc ||| UInt32.ofInt code, Function.update sp member value)

def sysfsGetPortStats (sp : HbaPortStatistics) : UInt32 × HbaPortStatistics :=
  readCounters sysfs dir scratch portCounterFiles (0, sp)

def sysfsGetPortFc4stats (sp : HbaFc4statistics) : UInt32 × HbaFc4statistics :=
  readCounters sysfs dir scratch fc4CounterFiles (0, sp)

end Read

/-- The directory of the statistics, in the 80 bytes there are for it. -/
def PortInfo.statistics (port : PortInfo) : CStr := snprintf 80 (joinPath port.hostDir "statistics")

/-- What the two calls do with the local port they have found. -/
def portStatisticsOf {κ : Type} (read : CStr → Counters κ → UInt32 × Counters κ) (pp : Ptr) (lib : Lib) :
    Outcome (HbaStatus × Counters κ) := do
  let port ← lib.port pp
  let (rc, sp) := read port.statistics .unsupported
  if rc = 0 then .ok (hbaStatusOk, sp)
  else do
    -- the message names the host of the adapter
    let ap ← demand .nullDereference port.apAdapt
    let _ ← lib.adapter ap
    .ok (hbaStatusError, sp)

def getPortStatistics (sysfs : Sysfs) (scratch : CStr → List Char) (handle : HbaHandle)
    (port : UInt32) (lib : Lib) : Outcome (HbaStatus × HbaPortStatistics) := do
  match ← adapterGetPort lib handle port with
  | none => .ok (hbaStatusError, .unsupported)
  | some pp => portStatisticsOf (fun dir => sysfsGetPortStats sysfs dir scratch) pp lib

/-- The FC-4 type is not looked at. -/
def getPortFc4Statistics (sysfs : Sysfs) (scratch : CStr → List Char) (handle : HbaHandle)
    (wwn : HbaWwn) (_fc4Type : UInt8) (lib : Lib) : Outcome (HbaStatus × HbaFc4statistics) := do
  let (found, count) ← adapterGetPortByWwn lib handle wwn
  if 1 < count then .ok (hbaStatusErrorAmbiguousWwn, .unsupported)
  else match found with
    | none => .ok (hbaStatusErrorIllegalWwn, .unsupported)
    | some pp => portStatisticsOf (fun dir => sysfsGetPortFc4stats sysfs dir scratch) pp lib

/-! ## What the counters are -/

theorem saSysReadU64Into_eq (sysfs : Sysfs) (dir file : CStr) (buf : List Char) (vp : UInt64) :
    saSysReadU64Into sysfs dir file buf vp =
      (if (saSysReadU64 sysfs dir file).isSome then 0 else -1,
        (saSysReadU64 sysfs dir file).getD vp) := by
  rw [saSysReadU64Into, saSysReadNumber_eq]
  cases saSysReadU64 sysfs dir file <;> rfl

/-- All counters in the list can be read. -/
def AllReadable {κ : Type} (sysfs : Sysfs) (dir : CStr) (files : List (CStr × κ)) : Prop :=
  ∀ entry ∈ files, (saSysReadU64 sysfs dir entry.1).isSome = true

instance decidableAllReadable {κ : Type} (sysfs : Sysfs) (dir : CStr) (files : List (CStr × κ)) :
    Decidable (AllReadable sysfs dir files) :=
  inferInstanceAs (Decidable (∀ entry ∈ files, (saSysReadU64 sysfs dir entry.1).isSome = true))

section Read

variable {κ : Type} [DecidableEq κ] {sysfs : Sysfs} {dir : CStr} {scratch : CStr → List Char}
  {files : List (CStr × κ)}

/-- One failure is left in the combination of the codes. -/
theorem readCounters_code (rc : UInt32) (sp : Counters κ) :
    (readCounters sysfs dir scratch files (rc, sp)).1 = 0 ↔ rc = 0 ∧ AllReadable sysfs dir files := by
  induction files generalizing rc sp with
  | nil => simp [readCounters, AllReadable]
  | cons entry files ih =>
      obtain ⟨file, member⟩ := entry
      have code : UInt32.ofInt (if (saSysReadU64 sysfs dir file).isSome then 0 else -1) = 0 ↔
          (saSysReadU64 sysfs dir file).isSome = true := by
        split <;> rename_i readable <;> simp only [readable] <;> decide
      rw [readCounters, saSysReadU64Into_eq]
      refine (ih _ _).trans ?_
      rw [UInt32.or_eq_zero_iff, code, AllReadable, AllReadable, List.forall_mem_cons, and_assoc]

/-- Each member receives the number of its own file, and others are left alone. -/
theorem readCounters_member (distinct : (files.map Prod.snd).Nodup) (rc : UInt32) (sp : Counters κ) :
    (∀ file member, (file, member) ∈ files →
      (readCounters sysfs dir scratch files (rc, sp)).2 member =
        (saSysReadU64 sysfs dir file).getD (sp member)) ∧
      ∀ member ∉ files.map Prod.snd,
        (readCounters sysfs dir scratch files (rc, sp)).2 member = sp member := by
  induction files generalizing rc sp with
  | nil => exact ⟨fun _ _ absent => absurd absent List.not_mem_nil, fun _ _ => rfl⟩
  | cons entry files ih =>
      obtain ⟨first, own⟩ := entry
      rw [List.map_cons, List.nodup_cons] at distinct
      rw [readCounters, saSysReadU64Into_eq]
      obtain ⟨later, others⟩ := ih distinct.2
        (rc ||| UInt32.ofInt (if (saSysReadU64 sysfs dir first).isSome then 0 else -1))
        (Function.update sp own ((saSysReadU64 sysfs dir first).getD (sp own)))
      refine ⟨fun file member listed => ?_, fun member absent => ?_⟩
      · rcases List.mem_cons.mp listed with here | there
        · cases here
          exact (others own distinct.1).trans (Function.update_self ..)
        · have other : member ≠ own := fun same =>
            distinct.1 (same ▸ List.mem_map.mpr ⟨_, there, rfl⟩)
          rw [← Function.update_of_ne other ((saSysReadU64 sysfs dir first).getD (sp own)) sp]
          exact later file member there
      · rw [List.map_cons, List.mem_cons, not_or] at absent
        rw [← Function.update_of_ne absent.1 ((saSysReadU64 sysfs dir first).getD (sp own)) sp]
        exact others member absent.2

end Read

/-- The answer of a call that reads its counters from `dir`: success when all of them can be
    read, and in any case those that can. -/
structure CountersFrom {κ : Type} (sysfs : Sysfs) (dir : CStr) (files : List (CStr × κ))
    (answer : HbaStatus × Counters κ) : Prop where
  status : answer.1 = if AllReadable sysfs dir files then hbaStatusOk else hbaStatusError
  counters : ∀ file member, (file, member) ∈ files →
    answer.2 member = (saSysReadU64 sysfs dir file).getD 0xffffffffffffffff

theorem CountersFrom.of_read {κ : Type} [DecidableEq κ] {sysfs : Sysfs} {dir : CStr}
    (scratch : CStr → List Char) {files : List (CStr × κ)} (distinct : (files.map Prod.snd).Nodup) :
    CountersFrom sysfs dir files
      (if (readCounters sysfs dir scratch files (0, .unsupported)).1 = 0 then hbaStatusOk else
        hbaStatusError, (readCounters sysfs dir scratch files (0, .unsupported)).2) where
  status := if_congr ((readCounters_code 0 _).trans (and_iff_right rfl)) rfl rfl
  counters := (readCounters_member distinct 0 _).1

/-- The calls that have found a local port report. -/
theorem Lib.Owns.portStatistics {κ : Type} [DecidableEq κ] {lib : Lib} {ap pp : Ptr}
    {adapter : AdapterInfo} {port : PortInfo} (owns : lib.Owns ap pp adapter port) (sysfs : Sysfs)
    (scratch : CStr → List Char) {files : List (CStr × κ)} (distinct : (files.map Prod.snd).Nodup) :
    ∃ answer, portStatisticsOf (fun dir sp => readCounters sysfs dir scratch files (0, sp)) pp lib =
      .ok answer ∧ CountersFrom sysfs port.statistics files answer := by
  refine ⟨_, ?_, CountersFrom.of_read scratch distinct⟩
  simp only [portStatisticsOf, Lib.port, owns.livePort, demand_some, ok_bind]
  split
  · rfl
  · simp only [owns.owner, demand_some, ok_bind, Lib.adapter, owns.live]

theorem portCounterFiles_distinct : (portCounterFiles.map Prod.snd).Nodup := by decide

theorem fc4CounterFiles_distinct : (fc4CounterFiles.map Prod.snd).Nodup := by decide

/-- Every member has a file of its own. -/
theorem portCounterFiles_all (member : PortCounter) : ∃ file, (file, member) ∈ portCounterFiles := by
  cases member <;> exact ⟨_, by simp only [portCounterFiles, List.mem_cons]; tauto⟩

/-- What the two calls answer about the adapter behind a handle. -/
structure StatisticsOf (sysfs : Sysfs) (scratch : CStr → List Char) (handle : HbaHandle) (lib : Lib)
    (port : PortInfo) : Prop where
  own : ∃ answer, getPortStatistics sysfs scratch handle 0 lib = .ok answer ∧
    CountersFrom sysfs port.statistics portCounterFiles answer
  other : ∀ index ≠ 0, getPortStatistics sysfs scratch handle index lib =
    .ok (hbaStatusError, .unsupported)
  named : ∀ fc4Type, ∃ answer,
    getPortFc4Statistics sysfs scratch handle port.apAttr.portWwn fc4Type lib = .ok answer ∧
      CountersFrom sysfs port.statistics fc4CounterFiles answer
  unnamed : ∀ fc4Type wwn, wwn ≠ port.apAttr.portWwn →
    getPortFc4Statistics sysfs scratch handle wwn fc4Type lib =
      .ok (hbaStatusErrorIllegalWwn, .unsupported)

theorem Lib.Slot.statisticsOf {lib : Lib} {i : Nat} {ap pp : Ptr} {adapter : AdapterInfo}
    {port : PortInfo} (slot : lib.Slot i ap pp adapter port) {handle : HbaHandle}
    (opened : adapterOpenHandle lib handle = .ok (some ap)) (sysfs : Sysfs)
    (scratch : CStr → List Char) : StatisticsOf sysfs scratch handle lib port where
  own := by
    simp only [getPortStatistics, slot.adapterGetPort_eq opened, ok_bind, if_true]
    exact slot.owns.portStatistics sysfs scratch portCounterFiles_distinct
  other index different := by
    simp only [getPortStatistics, slot.adapterGetPort_eq opened, ok_bind, if_neg different]
  named fc4Type := by
    have single : ¬ 1 < 1 := by decide
    simp only [getPortFc4Statistics, slot.adapterGetPortByWwn_eq opened, ok_bind, if_true,
      if_neg single]
    exact slot.owns.portStatistics sysfs scratch fc4CounterFiles_distinct
  unnamed fc4Type wwn different := by
    have none : ¬ 1 < 0 := by decide
    simp only [getPortFc4Statistics, slot.adapterGetPortByWwn_eq opened, ok_bind,
      if_neg different.symm, if_neg none]

/-- The statistics of a handle that is not open. -/
structure NoStatistics (sysfs : Sysfs) (scratch : CStr → List Char) (handle : HbaHandle) (lib : Lib) :
    Prop where
  byHandle : ∀ index, getPortStatistics sysfs scratch handle index lib =
    .ok (hbaStatusError, .unsupported)
  byWwn : ∀ fc4Type wwn, getPortFc4Statistics sysfs scratch handle wwn fc4Type lib =
    .ok (hbaStatusErrorIllegalWwn, .unsupported)

theorem noStatistics_of_closed {lib : Lib} {handle : HbaHandle}
    (closed : adapterOpenHandle lib handle = .ok none) (sysfs : Sysfs) (scratch : CStr → List Char) :
    NoStatistics sysfs scratch handle lib where
  byHandle index := by
    simp only [getPortStatistics, adapterGetPort, closed, ok_bind]
  byWwn fc4Type wwn := by
    have none : ¬ 1 < 0 := by decide
    simp only [getPortFc4Statistics, adapterGetPortByWwn, closed, ok_bind, if_neg none]

/-- In every state both calls answer, for every handle: with the counters of the one local port
    that the handle has, each from its own file, or with nothing but the error. -/
theorem statistics_report {allowed : Env → Prop} {lib : Lib} (reachable : Reachable allowed lib)
    (sysfs : Sysfs) (scratch : CStr → List Char) (handle : HbaHandle) :
    (adapterOpenHandle lib handle = .ok none ∧ NoStatistics sysfs scratch handle lib) ∨
      ∃ pp port, adapterGetPort lib handle 0 = .ok (some pp) ∧ lib.lports.get pp = some port ∧
        StatisticsOf sysfs scratch handle lib port := by
  rcases (adapterInv_of_reachable reachable).opened_cases handle with
    closed | ⟨i, ap, pp, adapter, port, opened, slot⟩
  · exact .inl ⟨closed, noStatistics_of_closed closed sysfs scratch⟩
  · refine .inr ⟨pp, port, ?_, slot.owns.livePort, slot.statisticsOf opened sysfs scratch⟩
    rw [slot.adapterGetPort_eq opened, if_pos rfl]

/-- The sample host has no counters. -/
theorem statistics_report_small : ∃ answer,
    getPortStatistics smallSystem.sysfs (fun _ => []) 0x100 0 (loadedState smallSystem) = .ok answer ∧
      answer.1 = hbaStatusError := by
  have facts : (adapterOpenHandle (loadedState smallSystem) 0x100).toOption = some (some 0) ∧
      (getPortStatistics smallSystem.sysfs (fun _ => []) 0x100 0 (loadedState smallSystem)).toOption.map
        Prod.fst = some hbaStatusError := by
    decide +kernel
  rcases statistics_report reachable_small smallSystem.sysfs (fun _ => []) 0x100 with
    ⟨closed, -⟩ | ⟨pp, port, -, -, statistics⟩
  · rw [closed] at facts
    cases facts.1
  · obtain ⟨answer, called, -⟩ := statistics.own
    rw [called] at facts
    exact ⟨answer, called, Option.some.inj facts.2⟩

/-! ## The counters of a host -/

/-- The first line of a file is a numeral, and fits the line buffer. -/
structure ShowsNumber (content : List Char) (n : UInt64) : Prop where
  fits : (firstLine content).length < 256 ∧ '\x00' ∉ firstLine content
  number : Magnitude (trimmedLine content) n.toNat

theorem ShowsNumber.read {sysfs : Sysfs} {dir file : CStr} {content : List Char} {n : UInt64}
    (shows : ShowsNumber content n)
    (opened : sysfs.file (snprintf 256 (joinPath dir file)) = some content) :
    saSysReadU64 sysfs dir file = some n := by
  have filled : content ≠ [] := by
    rintro rfl
    exact not_magnitude_nil shows.number
  have numeral : Numeral (trimmedLine content) false n.toNat :=
    ⟨trimmedLine content, rfl, shows.number⟩
  obtain ⟨body, signed, magnitude⟩ := sign_of_numeral numeral
  have value := strtoul_numeral (s := (firstLine content).rdropWhile isspace) signed magnitude
  have small : ¬ 2 ^ 64 ≤ n.toNat := Nat.not_le.mpr n.toNat_lt
  rw [if_neg small, UInt64.ofNat_toNat] at value
  rw [saSysReadU64, sysLine_eq opened, if_neg filled, seenLine_eq shows.fits]
  simp only [value]
  rfl

/-- `"host%u"` -/
def hostName (n : UInt32) : CStr := "host".toList ++ decimal n.toNat

/-- The file of a counter of a host. -/
def counterPath (n : UInt32) (file : CStr) : CStr :=
  joinPath (joinPath (joinPath sysfsHostDir (hostName n)) "statistics") file

theorem isDigit_plain {c : Char} (digit : c.isDigit = true) : isprint c = true ∧ isspace c = false := by
  simp only [Char.isDigit, Bool.and_eq_true, decide_eq_true_eq, UInt32.le_iff_toNat_le] at digit
  simp only [isprint, isspace, Bool.and_eq_true, Bool.or_eq_false_iff, Bool.and_eq_false_iff,
    decide_eq_true_eq, decide_eq_false_iff_not, beq_eq_false_iff_ne, Char.le_def,
    UInt32.le_iff_toNat_le]
  obtain ⟨above, below⟩ := digit
  refine ⟨⟨?_, ?_⟩, ?_, .inr ?_⟩
  · exact Nat.le_trans (by decide) above
  · exact Nat.le_trans below (by decide)
  · rintro rfl
    exact absurd above (by decide)
  · exact fun low => absurd (Nat.le_trans above low) (by decide)

theorem hostName_plain (n : UInt32) : ∀ c ∈ joinPath sysfsHostDir (hostName n),
    isprint c = true ∧ isspace c = false := by
  have lead : (sysfsHostDir ++ '/' :: "host".toList).all (fun c => isprint c && !isspace c) = true := by
    decide
  intro c member
  rw [joinPath, hostName, ← List.cons_append, ← List.append_assoc] at member
  rcases List.mem_append.mp member with inside | last
  · simpa using List.all_eq_true.mp lead c inside
  · exact isDigit_plain (decimal_isDigit last)

theorem hostName_length (n : UInt32) : (joinPath sysfsHostDir (hostName n)).length ≤ 33 := by
  have number := decimal_length (k := 10) (n.toNat_lt.trans (by decide)) (by decide)
  have root : sysfsHostDir.length = 18 := rfl
  have four : "host".toList.length = 4 := rfl
  simp only [joinPath, hostName, List.length_append, List.length_cons, root, four]
  omega

/-- The directories of a host are not cut. -/
theorem hostDirOf_hostName {dp : DirEnt} {n : UInt32} (named : dp.dName = hostName n) :
    hostDirOf dp = joinPath sysfsHostDir (hostName n) := by
  have short := hostName_length n
  rw [hostDirOf, named, snprintf, List.take_of_length_le (by omega)]
  exact saStrncpySafe_self (fun c member => (hostName_plain n c member).1)
    (fun c last => (hostName_plain n c (List.mem_of_getLast? last)).2) (by omega) (by omega)

theorem identifyHost_hostDir {sysfs : Sysfs} {scratch : Scratch} {dp : DirEnt} {found : Identified}
    (identified : identifyHost sysfs scratch dp = .ok (some found)) : found.hostDir = hostDirOf dp := by
  unfold identifyHost identifyHostBy at identified
  simp only at identified
  split at identified
  · cases identified
  · obtain ⟨linked, -, identified⟩ := bind_eq_ok.mp identified
    rcases linked with _ | ⟨hbaDir, ifname, buf⟩
    · cases identified
    · simp only at identified
      split at identified
      · cases identified
      · cases identified
        rfl

theorem scannedAs_hostDir {env : Env} {dp : DirEnt} {made : Created} (scans : scannedAs env dp = some made) :
    ∀ port ∈ made.ports, port.hostDir = hostDirOf dp := by
  obtain ⟨found, identified, scans⟩ := Option.bind_eq_some_iff.mp scans
  obtain ⟨⟨port, adPorts, buf⟩, built, scans⟩ := Option.bind_eq_some_iff.mp scans
  obtain ⟨adapter, -, same⟩ := Option.bind_eq_some_iff.mp scans
  cases same
  intro port' member
  rw [List.mem_singleton.mp member]
  obtain ⟨⟨pap, line⟩, -, rest⟩ :=
    bind_eq_ok.mp (eq_ok_of_toOption (Option.join_eq_some_iff.mp built))
  obtain ⟨⟨rc, table⟩, -, rest⟩ := bind_eq_ok.mp rest
  simp only at rest
  split at rest
  · cases rest
  · cases rest
    exact identifyHost_hostDir (eq_ok_of_toOption (Option.join_eq_some_iff.mp identified))

/-- Files that show the values of all counters. -/
def ShowsCounters {κ : Type} (sysfs : Sysfs) (n : UInt32) (files : List (CStr × κ))
    (values : Counters κ) : Prop :=
  ∀ file member, (file, member) ∈ files →
    ∃ content, sysfs.file (counterPath n file) = some content ∧ ShowsNumber content (values member)

/-- Where all counters of the host are shown the answer is what they show. -/
theorem CountersFrom.exact {κ : Type} {sysfs : Sysfs} {port : PortInfo} {n : UInt32}
    {files : List (CStr × κ)} {answer : HbaStatus × Counters κ}
    (read : CountersFrom sysfs port.statistics files answer)
    (dir : port.hostDir = joinPath sysfsHostDir (hostName n))
    (all : ∀ member, ∃ file, (file, member) ∈ files) (brief : ∀ entry ∈ files, entry.1.length ≤ 100)
    {values : Counters κ} (shown : ShowsCounters sysfs n files values) :
    answer = (hbaStatusOk, values) := by
  have number : ∀ file member, (file, member) ∈ files →
      saSysReadU64 sysfs port.statistics file = some (values member) := by
    intro file member listed
    obtain ⟨content, opened, shows⟩ := shown file member listed
    have short := hostName_length n
    have word : "statistics".toList.length = 10 := rfl
    have inner : port.statistics = joinPath (joinPath sysfsHostDir (hostName n)) "statistics" := by
      rw [PortInfo.statistics, dir]
      exact snprintf_joinPath (by omega)
    rw [inner]
    refine shows.read ?_
    have length : (joinPath (joinPath sysfsHostDir (hostName n)) "statistics").length ≤ 44 := by
      rw [joinPath, List.length_append, List.length_cons]
      omega
    have fits := brief _ listed
    rw [snprintf_joinPath (by simp only at fits; omega)]
    exact opened
  refine Prod.ext ?_ (funext fun member => ?_)
  · rw [read.status, if_pos]
    intro entry listed
    rw [number entry.1 entry.2 listed]
    rfl
  · obtain ⟨file, listed⟩ := all member
    rw [read.counters file member listed, number file member listed, Option.getD_some]

theorem fc4CounterFiles_all (member : Fc4Counter) : ∃ file, (file, member) ∈ fc4CounterFiles := by
  cases member <;> exact ⟨_, by simp only [fc4CounterFiles, List.mem_cons]; tauto⟩

theorem portCounterFiles_brief : ∀ entry ∈ portCounterFiles, entry.1.length ≤ 100 := by decide

theorem fc4CounterFiles_brief : ∀ entry ∈ fc4CounterFiles, entry.1.length ≤ 100 := by decide

/-- After loading, and after any queries, the calls for an adapter report the counters of the host
    that it was made of, as they are when the call is made. -/
theorem statistics_of_host {env env' : Env} {lib later : Lib} {queries : List Query}
    {replies : List Reply} (mem : ∀ site, env.mem site = true) (few : (hosts env).length < 2 ^ 31)
    (loaded : loadLibrary env .init = .ok lib)
    (asked : asks env' queries lib = .ok (replies, later)) {i : UInt32} {made : Created}
    (host : (scannedHosts env)[i.toNat]? = some made) :
    ∃ dp ∈ hosts env, scannedAs env dp = some made ∧ ∃ port, made.ports = [port] ∧
      ∀ n, dp.dName = hostName n → ∀ (sysfs : Sysfs) (scratch : CStr → List Char),
        (∀ values, ShowsCounters sysfs n portCounterFiles values →
          getPortStatistics sysfs scratch (adapterHandleOffset + i) 0 later = .ok (hbaStatusOk, values)) ∧
        ∀ values fc4Type, ShowsCounters sysfs n fc4CounterFiles values →
          getPortFc4Statistics sysfs scratch (adapterHandleOffset + i) port.apAttr.portWwn fc4Type
            later = .ok (hbaStatusOk, values) := by
  have framed := (asks_attaches asked).framed
  have inv := (loadLibrary_creations mem few loaded).1.framed framed
  obtain ⟨ap, pp, adapter, port, slot, rfl⟩ := scanned_slot mem few loaded framed host
  obtain ⟨dp, listed, scans⟩ := List.mem_filterMap.mp (List.mem_of_getElem? host)
  have opened : adapterOpenHandle later (adapterHandleOffset + i) = .ok (some ap) := by
    rw [adapterOpenHandle_offset inv, slot.entry]
  refine ⟨dp, listed, scans, port.unlinked, rfl, fun n named sysfs scratch => ?_⟩
  have dir : port.hostDir = joinPath sysfsHostDir (hostName n) :=
    (scannedAs_hostDir scans port.unlinked List.mem_cons_self).trans (hostDirOf_hostName named)
  have reports := slot.statisticsOf opened sysfs scratch
  refine ⟨fun values shown => ?_, fun values fc4Type shown => ?_⟩
  · obtain ⟨answer, called, read⟩ := reports.own
    rw [called, read.exact dir portCounterFiles_all portCounterFiles_brief shown]
  · obtain ⟨answer, called, read⟩ := reports.named fc4Type
    exact called.trans
      (congrArg Except.ok (read.exact dir fc4CounterFiles_all fc4CounterFiles_brief shown))

/-- Every file shows 16. -/
def allSixteen : Sysfs := ⟨fun _ => some "0x10\n".toList, fun _ => none, fun _ => none⟩

theorem showsCounters_sixteen {κ : Type} (n : UInt32) (files : List (CStr × κ)) :
    ShowsCounters allSixteen n files fun _ => 16 := by
  have number : Magnitude "0x10".toList 16 :=
    @Magnitude.hex _ "10".toList 16 rfl ⟨by decide, [1, 0], rfl, rfl⟩
  exact fun _ _ _ => ⟨_, rfl, by decide +kernel, number⟩

theorem statistics_of_host_small : ∃ replies later,
    asks smallSystem smallQueries (loadedState smallSystem) = .ok (replies, later) ∧
      getPortStatistics allSixteen (fun _ => []) (adapterHandleOffset + 0) 0 later =
        .ok (hbaStatusOk, fun _ => 16) := by
  have facts : (hosts smallSystem).length < 2 ^ 31 ∧
      (scannedHosts smallSystem)[(0 : UInt32).toNat]?.isSome = true ∧
      ∀ dp ∈ hosts smallSystem, dp.dName = hostName 3 := by
    decide +kernel
  obtain ⟨replies, later, asked⟩ := asks_small
  obtain ⟨made, host⟩ := Option.isSome_iff_exists.mp facts.2.1
  obtain ⟨dp, listed, -, port, -, reports⟩ :=
    statistics_of_host (fun _ => rfl) facts.1 loadLibrary_small asked host
  have named := facts.2.2 dp listed
  exact ⟨replies, later, asked,
    (reports 3 named allSixteen fun _ => []).1 _ (showsCounters_sixteen 3 _)⟩

end Hbalinux
