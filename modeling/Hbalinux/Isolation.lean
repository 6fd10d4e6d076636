import Hbalinux.ClassService
import Hbalinux.Speeds
import Hbalinux.HostLinks
import Hbalinux.RportSpec

/-! # Isolation of attributes

The attributes of a local port are read one after the other through one line buffer, one
integer array and one name, and few results are looked at.  An attribute is isolated where
it depends on its own file and on nothing else that was read or left in memory.
-/

namespace Hbalinux

open Outcome

/-- What can be read from a file: nothing from one that is missing or empty. -/
def Sysfs.content (sysfs : Sysfs) (path : CStr) : Option (List Char) :=
  (sysfs.file path).filter fun content => content ≠ []

/-- The directory in `pp->host_dir`. -/
def hostDirOf (dp : DirEnt) : CStr := saStrncpySafe 80 (snprintf 80 (joinPath sysfsHostDir dp.dName)) 80

/-- The attributes of a local port that have a file of their own. -/
inductive PortAttribute where
  | nodeWwn
  | portWwn
  | portFcId
  | portType
  | portState
  | portSpeed
  | portSupportedSpeed
  | portMaxFrameSize
  | portSupportedFc4Types
  | portActiveFc4Types
  | fabricName
  | portSupportedClassofService
  deriving DecidableEq

namespace PortAttribute

def file : PortAttribute → CStr
  | nodeWwn => "node_name"
  | portWwn => "port_name"
  | portFcId => "port_id"
  | portType => "port_type"
  | portState => "port_state"
  | portSpeed => "speed"
  | portSupportedSpeed => "supported_speeds"
  | portMaxFrameSize => "maxframe_size"
  | portSupportedFc4Types => "supported_fc4s"
  | portActiveFc4Types => "active_fc4s"
  | fabricName => "fabric_name"
  | portSupportedClassofService => "supported_classes"

def path (a : PortAttribute) (dp : DirEnt) : CStr := snprintf 256 (joinPath (hostDirOf dp) a.file)

def Value : PortAttribute → Type
  | nodeWwn | portWwn | fabricName => HbaWwn
  | portSupportedFc4Types | portActiveFc4Types => HbaFc4types
  | _ => UInt32

def value : (a : PortAttribute) → HbaPortAttributes → a.Value
  | nodeWwn, attr => attr.nodeWwn
  | portWwn, attr => attr.portWwn
  | portFcId, attr => attr.portFcId
  | portType, attr => attr.portType
  | portState, attr => attr.portState
  | portSpeed, attr => attr.portSpeed
  | portSupportedSpeed, attr => attr.portSupportedSpeed
  | portMaxFrameSize, attr => attr.portMaxFrameSize
  | portSupportedFc4Types, attr => attr.portSupportedFc4Types
  | portActiveFc4Types, attr => attr.portActiveFc4Types
  | fabricName, attr => attr.fabricName
  | portSupportedClassofService, attr => attr.portSupportedClassofService

end PortAttribute

/-- A line with nothing behind its first `Class`, not even a newline. -/
def CutAtClass (content : List Char) : Prop :=
  seenLine content = fgets 256 content ∧ strstr (seenLine content) "Class" = some "Class".toList

/-- All 32 numbers of the line are there. -/
def AllFc4 (sysfs : Sysfs) (dir file : CStr) : Prop :=
  ∃ line, sysLine sysfs dir file = some line ∧ 32 ≤ (sscanf fc4Format line).length

/-- The file of the attribute decides its value. -/
def PortAttribute.Decided (sysfs : Sysfs) (dp : DirEnt) : PortAttribute → Prop
  | nodeWwn => (sysReadWwn sysfs (hostDirOf dp) "node_name").isSome
  | portState => (sysLine sysfs (hostDirOf dp) "port_state").isSome
  | portMaxFrameSize => (sysLine sysfs (hostDirOf dp) "maxframe_size").isSome
  | portSupportedFc4Types => AllFc4 sysfs (hostDirOf dp) "supported_fc4s"
  | portActiveFc4Types => AllFc4 sysfs (hostDirOf dp) "active_fc4s"
  | portSupportedClassofService =>
      ∃ content, sysfs.content (path portSupportedClassofService dp) = some content ∧ ¬ CutAtClass content
  | _ => True

/-- `d_name` has 256 bytes. -/
def Sysfs.NamesFit (sysfs : Sysfs) : Prop :=
  ∀ dirName, ∀ dp ∈ sysfs.listing dirName, dp.dName.length ≤ 255

/-- A call of `sysfs_scan` for the entry publishes a local port with these attributes. -/
def Publishes (dp : DirEnt) (env : Env) (attr : HbaPortAttributes) : Prop :=
  env.sysfs.NamesFit ∧ ∃ lib lib' port, sysfsScan env dp lib = .ok (.published, lib') ∧
    lib'.lports.get lib.lports.fresh = some port ∧ port.apAttr = attr

/-- A call of `sysfs_get_rport` for the entry adds a remote port with these attributes. -/
def Builds (dp : DirEnt) (env : Env) (attr : HbaPortAttributes) : Prop :=
  ∃ lib rc lib' rport, sysfsGetRport env dp lib = .ok (rc, lib') ∧
    lib'.rports.get lib.rports.fresh = some rport ∧ rport.apAttr = attr

/-- Whatever else is read or left in memory, the value stays as long as the file at `path`
    does. -/
def SameElsewhere {β : Type} (gives : Env → HbaPortAttributes → Prop) (path : CStr)
    (value : HbaPortAttributes → β) (env : Env) (attr : HbaPortAttributes) : Prop :=
  ∀ env' attr', gives env' attr' → env'.sysfs.content path = env.sysfs.content path →
    value attr' = value attr

section

variable {sysfs : Sysfs} {dir file : CStr}

theorem sysLine_content : sysLine sysfs dir file =
    (sysfs.content (snprintf 256 (joinPath dir file))).map seenLine := by
  unfold Sysfs.content
  cases opened : sysfs.file (snprintf 256 (joinPath dir file)) with
  | none =>
      rw [sysLine, saSysReadLine, opened]
      rfl
  | some content =>
      rw [sysLine_eq opened]
      by_cases empty : content = [] <;> simp [Option.filter, empty]

end

theorem sysReadSpeed_buf (sysfs : Sysfs) (dir file : CStr) (buf : List Char) :
    (sysReadSpeed sysfs dir file buf).2 = (saSysReadLine sysfs dir file buf 256).2 := by
  unfold sysReadSpeed
  generalize saSysReadLine sysfs dir file buf 256 = read
  obtain ⟨rc, last⟩ := read
  simp only
  split <;> rfl

/-- The files of a host that go through the line buffer, in order. -/
def lineFiles : List CStr :=
  ["port_type", "port_state", "speed", "supported_speeds", "maxframe_size", "supported_fc4s",
    "active_fc4s", "supported_classes"]

/-- The line buffer after some files of a directory have been read. -/
def lineAfter (sysfs : Sysfs) (dir : CStr) (files : List CStr) (buf : List Char) : List Char :=
  files.foldl (fun buf file => (saSysReadLine sysfs dir file buf 256).2) buf

/-- The line buffer after a file and those in front of it. -/
def lineBuffer (sysfs : Sysfs) (dir file : CStr) (buf : List Char) : List Char :=
  lineAfter sysfs dir (lineFiles.takeWhile (· ≠ file) ++ [file]) buf

/-- What the attributes of a local port are read from. -/
structure ReadFrom (sysfs : Sysfs) (scratch : Scratch) (dir : CStr) (buf : List Char)
    (attr : HbaPortAttributes) : Prop where
  nodeWwn : attr.nodeWwn = (sysReadWwn sysfs dir "node_name").getD scratch.wwnn
  portWwn : attr.portWwn = (sysReadWwn sysfs dir "port_name").getD .zero
  portFcId : attr.portFcId = (saSysReadU32 sysfs dir "port_id").getD 0
  portType : attr.portType =
    (saEnumEncode portTypesTable (cstr (lineBuffer sysfs dir "port_type" buf))).getD 0
  portState : attr.portState =
    (saEnumEncode portStatesTable (cstr (lineBuffer sysfs dir "port_state" buf))).getD 0
  portSpeed : ∃ before, attr.portSpeed = (sysReadSpeed sysfs dir "speed" before).1
  portSupportedSpeed : ∃ before,
    attr.portSupportedSpeed = (sysReadSpeed sysfs dir "supported_speeds" before).1
  portMaxFrameSize : attr.portMaxFrameSize = scanInt (lineBuffer sysfs dir "maxframe_size" buf) 0
  fc4Types : ∃ data,
    data = overwrite (sscanf fc4Format (cstr (lineBuffer sysfs dir "supported_fc4s" buf)))
      scratch.data.toList ∧
    attr.portSupportedFc4Types = fc4Types data ∧
    attr.portActiveFc4Types =
      fc4Types (overwrite (sscanf fc4Format (cstr (lineBuffer sysfs dir "active_fc4s" buf))) data)
  fabricName : attr.fabricName = (sysReadWwn sysfs dir "fabric_name").getD .zero
  portSupportedClassofService : ∃ classes,
    classDigit (lineBuffer sysfs dir "supported_classes" buf) = .ok classes ∧
      attr.portSupportedClassofService = classes.getD 0

theorem portAttributes_readFrom {sysfs : Sysfs} {scratch : Scratch} {found : Identified} {dp : DirEnt}
    {attr : HbaPortAttributes} {last : List Char}
    (ran : portAttributes sysfs scratch found dp = .ok (attr, last)) :
    ReadFrom sysfs scratch found.hostDir found.buf attr := by
  unfold portAttributes at ran
  simp only [sysReadSpeed_buf] at ran
  obtain ⟨classes, digit, rest⟩ := bind_eq_ok.mp ran
  obtain ⟨count, -, rest⟩ := bind_eq_ok.mp rest
  cases rest
  exact ⟨rfl, rfl, rfl, rfl, rfl, ⟨_, rfl⟩, ⟨_, rfl⟩, rfl, ⟨_, rfl, rfl, rfl⟩, rfl, ⟨_, digit, rfl⟩⟩

/-- Only the class of service can keep the attributes from being read. -/
theorem portAttributes_returns {sysfs : Sysfs} {scratch : Scratch} {found : Identified} (dp : DirEnt)
    {classes : Option UInt32}
    (digit : classDigit (lineBuffer sysfs found.hostDir "supported_classes" found.buf) = .ok classes) :
    ∃ r, portAttributes sysfs scratch found dp = .ok r := by
  obtain ⟨count, counted⟩ := @saDirRead_returns _ sysfs (snprintf 256 (joinPath found.hostDir "device"))
    countingRports (fun _ _ => ⟨_, rfl⟩) 0
  unfold portAttributes
  simp only [sysReadSpeed_buf]
  change ∃ r, (classDigit (lineBuffer sysfs found.hostDir "supported_classes" found.buf) >>= _) = .ok r
  rw [digit, ok_bind, counted]
  exact ⟨_, rfl⟩

theorem lineBuffer_length (sysfs : Sysfs) (dir file : CStr) {buf : List Char}
    (room : buf.length = 256) : (lineBuffer sysfs dir file buf).length = 256 := by
  rw [lineBuffer]
  generalize lineFiles.takeWhile (· ≠ file) ++ [file] = files
  induction files generalizing buf with
  | nil => exact room
  | cons file files ih => exact ih (saSysReadLine_length sysfs dir file room)

theorem findPhysIf_length {sysfs : Sysfs} {hbaDir : CStr} {buf buf' : List Char} {rc : Int}
    (fits : sysfs.NamesFit) (room : buf.length = 256)
    (found : findPhysIf sysfs hbaDir buf = .ok (rc, buf')) : buf'.length = 256 := by
  unfold findPhysIf at found
  have lineRoom := saSysReadLine_length sysfs hbaDir "iflink" room
  generalize saSysReadLine sysfs hbaDir "iflink" buf 256 = read at found lineRoom
  obtain ⟨rc', key⟩ := read
  simp only [saDirRead_state, checkIfindex_walk] at found lineRoom
  split at found
  · cases found
    exact lineRoom
  · cases here : interfaceWith sysfs (cstr key) (sysfs.listing sysfsHbaDir) with
    | none =>
        rw [here] at found
        cases found
        exact lineRoom
    | some dp =>
        have short := fits sysfsHbaDir dp (List.mem_of_find?_eq_some here)
        rw [here] at found
        cases found
        rw [overlay_length (by omega), lineRoom]

theorem readlink_length {sysfs : Sysfs} {path : CStr} {link : CStr}
    (read : readlink sysfs path 255 = some link) : link.length ≤ 255 := by
  obtain ⟨target, -, rfl⟩ := Option.map_eq_some_iff.mp read
  rw [List.length_take]
  exact min_le_left ..

theorem pciLink_length {sysfs : Sysfs} {hostDir overName hbaDir : CStr}
    {ifname ifname' buf buf' : List Char} (fits : sysfs.NamesFit) (room : buf.length = 256)
    (linked : pciLink sysfs hostDir overName ifname buf = .ok (some (hbaDir, ifname', buf'))) :
    buf'.length = 256 := by
  have overlaid : ∀ {link : CStr} {b : List Char}, link.length ≤ 255 → b.length = 256 →
      (overlay link b).length = 256 := fun short long => by rw [overlay_length (by omega), long]
  have first : (overlay ((readlink sysfs (snprintf 128 (joinPath hostDir "device")) 255).getD []) buf).length =
      256 := by
    cases read : readlink sysfs (snprintf 128 (joinPath hostDir "device")) 255 with
    | none => exact overlaid (Nat.zero_le _) room
    | some link => exact overlaid (readlink_length read) room
  unfold pciLink at linked
  simp only at linked
  split at linked
  · cases linked
    exact first
  · split at linked
    · split at linked
      · obtain ⟨⟨rc, key⟩, looked, linked⟩ := bind_eq_ok.mp linked
        obtain ⟨found, chosen, linked⟩ := bind_eq_ok.mp linked
        split at chosen
        · cases chosen
          cases linked
        · cases chosen
          obtain ⟨text, -, linked⟩ := bind_eq_ok.mp linked
          split at linked
          · cases linked
          · rename_i link read
            cases linked
            exact overlaid (readlink_length read) (findPhysIf_length fits first looked)
      · obtain ⟨found, chosen, linked⟩ := bind_eq_ok.mp linked
        cases chosen
        obtain ⟨text, -, linked⟩ := bind_eq_ok.mp linked
        split at linked
        · cases linked
        · rename_i link read
          cases linked
          exact overlaid (readlink_length read) first
    · cases linked

theorem pciAddress_found {scan : CStr → List UInt32} {fuel : Nat} {buf buf' : List Char}
    {info info' : HbaInfo} (found : pciAddress scan fuel buf info = some (buf', info')) :
    buf'.length = buf.length ∧ '/' ∈ cstr buf' := by
  induction fuel generalizing buf info with
  | zero => cases found
  | succ fuel ih =>
      rw [pciAddress] at found
      rcases strrchr_cases (cstr buf) with ⟨missing, -⟩ | ⟨before, component, last, split, -⟩
      · rw [missing] at found
        cases found
      · rw [last] at found
        simp only at found
        split at found
        · cases found
          exact ⟨rfl, split ▸ List.mem_append_right _ (List.mem_cons_self ..)⟩
        · split at found
          · cases found
          · obtain ⟨long, slash⟩ := ih found
            exact ⟨long.trans List.length_set, slash⟩

/-- The reading of the attributes starts with a path in a buffer of 256 bytes. -/
theorem identifyHost_found {sysfs : Sysfs} {scratch : Scratch} {dp : DirEnt} {found : Identified}
    (fits : sysfs.NamesFit) (identified : identifyHost sysfs scratch dp = .ok (some found)) :
    found.hostDir = hostDirOf dp ∧ found.buf.length = 256 ∧ '/' ∈ cstr found.buf := by
  unfold identifyHost identifyHostBy at identified
  have room := saSysReadLine_length sysfs (snprintf 80 (joinPath sysfsHostDir dp.dName)) "symbolic_name"
    scratch.buf.toList_length
  simp only at identified
  split at identified
  · cases identified
  · obtain ⟨linked, looked, identified⟩ := bind_eq_ok.mp identified
    rcases linked with _ | ⟨hbaDir, ifname, buf⟩
    · cases identified
    · simp only at identified
      split at identified
      · cases identified
      · rename_i last info located
        cases identified
        obtain ⟨long, slash⟩ := pciAddress_found located
        exact ⟨rfl, long.trans (pciLink_length fits room looked), slash⟩

section

variable {sysfs sysfs' : Sysfs} {dir file : CStr}

theorem sysLine_same (same : sysfs'.content (snprintf 256 (joinPath dir file)) =
    sysfs.content (snprintf 256 (joinPath dir file))) : sysLine sysfs' dir file = sysLine sysfs dir file := by
  rw [sysLine_content, sysLine_content, same]

theorem sysReadWwn_same (file : CStr) (same : sysfs'.content (snprintf 256 (joinPath dir file)) =
    sysfs.content (snprintf 256 (joinPath dir file))) :
    sysReadWwn sysfs' dir file = sysReadWwn sysfs dir file := by
  rw [sysReadWwn, sysReadWwn, saSysReadU64, saSysReadU64, sysLine_same same]

theorem saSysReadU32_same (file : CStr) (same : sysfs'.content (snprintf 256 (joinPath dir file)) =
    sysfs.content (snprintf 256 (joinPath dir file))) :
    saSysReadU32 sysfs' dir file = saSysReadU32 sysfs dir file := by
  rw [saSysReadU32, saSysReadU32, saSysReadU64, saSysReadU64, sysLine_same same]

theorem sysReadSpeed_same (same : sysfs'.content (snprintf 256 (joinPath dir file)) =
    sysfs.content (snprintf 256 (joinPath dir file))) (buf buf' : List Char) :
    (sysReadSpeed sysfs' dir file buf').1 = (sysReadSpeed sysfs dir file buf).1 := by
  have alone : ∀ (tree : Sysfs) (b : List Char), (sysReadSpeed tree dir file b).1 =
      (sysLine tree dir file).elim 0 fun line =>
        if (strstr line "Unknown").isNone then readSpeedsFrom (line.length + 1) line portSpeedsTable 0
        else 0 := by
    intro tree b
    unfold sysReadSpeed
    cases read : sysLine tree dir file with
    | none =>
        have failed : ¬ (-1 : Int) = 0 := by decide
        simp only [saSysReadLine_unread read, failed, false_and, if_false, Option.elim_none]
    | some line =>
        obtain ⟨ok, text⟩ := saSysReadLine_read read b
        simp only [ok, text, true_and, Option.elim_some]
        split <;> rfl
  rw [alone, alone, sysLine_same same]

/-- After a read that succeeds the buffer holds the line. -/
theorem cstr_lineBuffer {line : CStr} (read : sysLine sysfs dir file = some line) (buf : List Char) :
    cstr (lineBuffer sysfs dir file buf) = line := by
  rw [lineBuffer, lineAfter, List.foldl_concat]
  exact (saSysReadLine_read read _).2

end

theorem trimLine_rest (line rest : List Char) :
    trimLine (line ++ '\x00' :: rest) = trimLine (line ++ ['\x00']) ++ rest := by
  have short : (cstr line).length ≤ line.length := cstr_length_le line
  simp only [trimLine, cstr_append_nul, List.append_assoc]
  rw [List.drop_append_of_le_length short, List.drop_append_of_le_length short, List.append_assoc]
  rfl

/-- The line is stored at the start of the buffer, and the rest stays. -/
theorem saSysReadLine_opened {sysfs : Sysfs} {dir file : CStr} {content : List Char}
    (opened : sysfs.content (snprintf 256 (joinPath dir file)) = some content) (buf : List Char) :
    (saSysReadLine sysfs dir file buf 256).2 =
      trimLine (fgets 256 content ++ ['\x00']) ++ buf.drop ((fgets 256 content).length + 1) := by
  obtain ⟨here, nonempty⟩ := Option.filter_eq_some_iff.mp opened
  have read := sysLine_eq here
  rw [if_neg (of_decide_eq_true nonempty)] at read
  rw [← trimLine_rest]
  rw [sysLine, saSysReadLine, here] at read
  rw [saSysReadLine, here]
  simp only at read ⊢
  cases line : fgets 256 content with
  | nil =>
      rw [line] at read
      cases read
  | cons c cs => rfl

theorem classDigit_rest {line rest : List Char} (notCut : ¬ ((cstr line).rdropWhile isspace = line ∧
    strstr ((cstr line).rdropWhile isspace) "Class" = some "Class".toList)) :
    classDigit (trimLine (line ++ ['\x00']) ++ rest) = classDigit (trimLine (line ++ ['\x00'])) := by
  have terminated : '\x00' ∈ line ++ ['\x00'] := List.mem_append_right _ (List.mem_singleton_self _)
  have text : cstr (trimLine (line ++ ['\x00'])) = (cstr line).rdropWhile isspace := by
    rw [cstr_trimLine terminated, cstr_append_nul]
  have whole : cstr (trimLine (line ++ ['\x00']) ++ rest) = (cstr line).rdropWhile isspace := by
    rw [← trimLine_rest, cstr_trimLine (List.mem_append_right _ (List.mem_cons_self ..)), cstr_append_nul]
  have part : (cstr line).rdropWhile isspace <+: line :=
    (List.rdropWhile_prefix _ _).trans (List.takeWhile_prefix _)
  unfold classDigit
  rw [whole, text]
  cases found : strstr ((cstr line).rdropWhile isspace) "Class" with
  | none => rfl
  | some cp =>
      obtain ⟨before, split, starts, -⟩ := strstr_eq_some found
      have five := starts.length_le
      have lengths := congrArg List.length split
      have inside : ((cstr line).rdropWhile isspace).length - cp.length + 6 < line.length + 1 := by
        by_contra past
        have word : "Class".toList.length = 5 := rfl
        rw [List.length_append] at lengths
        have long := part.length_le
        have same := part.eq_of_length (by omega)
        have last := starts.eq_of_length (by omega)
        exact notCut ⟨same, last ▸ found⟩
      simp only
      rw [List.getElem?_append_left]
      rwa [trimLine_length, List.length_append]

theorem overwrite_length {α : Type} (vs old : List α) : (overwrite vs old).length = old.length := by
  fun_induction overwrite vs old with
  | case1 old => rfl
  | case2 vs => rfl
  | case3 v vs o old ih => rw [List.length_cons, List.length_cons, ih]

theorem overwrite_full {α : Type} {vs old : List α} (full : old.length ≤ vs.length) :
    overwrite vs old = vs.take old.length := by
  fun_induction overwrite vs old with
  | case1 old => rw [List.length_eq_zero_iff.mp (Nat.le_zero.mp full), List.length_nil, List.take_zero]
  | case2 vs => rfl
  | case3 v vs o old ih =>
      rw [ih (Nat.le_of_succ_le_succ full), List.length_cons, List.take_succ_cons]

/-- What is not overwritten stays. -/
theorem getElem?_overwrite {α : Type} {vs old : List α} {i : Nat} (past : vs.length ≤ i) :
    (overwrite vs old)[i]? = old[i]? := by
  fun_induction overwrite vs old generalizing i with
  | case1 old => rfl
  | case2 vs => rfl
  | case3 v vs o old ih =>
      cases i with
      | zero => cases past
      | succ i =>
          rw [List.getElem?_cons_succ, List.getElem?_cons_succ, ih (Nat.le_of_succ_le_succ past)]

/-- A path is no port type. -/
theorem saEnumEncode_path {path : CStr} (slash : '/' ∈ path) : saEnumEncode portTypesTable path = none := by
  rw [saEnumEncode, Option.map_eq_none_iff, List.find?_eq_none]
  intro entry listed same
  have lower : '/' ∈ path.map Char.toLower := List.mem_map.mpr ⟨'/', slash, rfl⟩
  rw [strcasecmp, beq_iff_eq] at same
  rw [← same] at lower
  have none : ∀ entry ∈ portTypesTable, '/' ∉ entry.1.map Char.toLower := by decide
  exact none entry listed lower

/-- The attributes a call publishes are read from the directory of the entry, starting with a
    path in the line buffer. -/
theorem Publishes.readFrom {dp : DirEnt} {env : Env} {attr : HbaPortAttributes}
    (published : Publishes dp env attr) : ∃ buf : List Char, buf.length = 256 ∧ '/' ∈ cstr buf ∧
      ReadFrom env.sysfs (env.scratch dp.dName) (hostDirOf dp) buf attr := by
  obtain ⟨fits, lib, lib', port, scanned, stored, rfl⟩ := published
  obtain ⟨found, port', adPorts, last, identified, built, live⟩ := sysfsScan_published scanned
  obtain rfl : port' = port := Option.some.inj (live.symm.trans stored)
  obtain ⟨dir, room, slash⟩ := identifyHost_found fits identified
  obtain ⟨⟨pap, line⟩, attributes, rest⟩ := bind_eq_ok.mp built
  obtain ⟨⟨rc, table⟩, -, rest⟩ := bind_eq_ok.mp rest
  have same : port'.apAttr = pap := by
    simp only at rest
    split at rest
    · cases rest
    · cases rest
      rfl
  exact ⟨found.buf, room, slash, same ▸ dir ▸ portAttributes_readFrom attributes⟩

section

variable {sysfs sysfs' : Sysfs} {dir file : CStr}

/-- A path is no port type, so that the type is 0 where it cannot be read. -/
theorem portType_same {buf buf' : List Char} (slash : '/' ∈ cstr buf) (slash' : '/' ∈ cstr buf')
    (same : sysLine sysfs' dir "port_type" = sysLine sysfs dir "port_type") :
    saEnumEncode portTypesTable (cstr (lineBuffer sysfs' dir "port_type" buf')) =
      saEnumEncode portTypesTable (cstr (lineBuffer sysfs dir "port_type" buf)) := by
  cases read : sysLine sysfs dir "port_type" with
  | none =>
      have kept : lineBuffer sysfs dir "port_type" buf = buf :=
        congrArg Prod.snd (saSysReadLine_unread read buf)
      have kept' : lineBuffer sysfs' dir "port_type" buf' = buf' :=
        congrArg Prod.snd (saSysReadLine_unread (same.trans read) buf')
      rw [kept, kept', saEnumEncode_path slash, saEnumEncode_path slash']
  | some line => rw [cstr_lineBuffer read, cstr_lineBuffer (same.trans read)]

/-- A buffer scanned behind a read that succeeds holds the same line everywhere. -/
theorem cstr_lineBuffer_same {line : CStr} {buf buf' : List Char}
    (read : sysLine sysfs dir file = some line)
    (same : sysLine sysfs' dir file = sysLine sysfs dir file) :
    cstr (lineBuffer sysfs' dir file buf') = cstr (lineBuffer sysfs dir file buf) := by
  rw [cstr_lineBuffer read, cstr_lineBuffer (same.trans read)]

/-- Thirty-two numbers leave nothing of the array. -/
theorem overwrite_read {line : CStr} {buf : List Char} {old : List UInt32}
    (read : sysLine sysfs dir file = some line) (full : 32 ≤ (sscanf fc4Format line).length)
    (room : old.length = 32) :
    overwrite (sscanf fc4Format (cstr (lineBuffer sysfs dir file buf))) old =
      (sscanf fc4Format line).take 32 := by
  rw [cstr_lineBuffer read, overwrite_full (room ▸ full), room]

/-- The digit behind a `Class` that is not cut off is one of the line. -/
theorem classDigit_same {content buf : List Char} {classes : Option UInt32}
    (notCut : ¬ CutAtClass content)
    (opened : sysfs.content (snprintf 256 (joinPath dir file)) = some content)
    (digit : classDigit (lineBuffer sysfs dir file buf) = .ok classes) :
    classDigit (trimLine (fgets 256 content ++ ['\x00'])) = .ok classes := by
  rwa [lineBuffer, lineAfter, List.foldl_concat, saSysReadLine_opened opened, classDigit_rest notCut]
    at digit

end

/-- What is decided by its file is isolated. -/
theorem sameElsewhere_of_decided {dp : DirEnt} {env : Env} {attr : HbaPortAttributes}
    (published : Publishes dp env attr) {a : PortAttribute} (decided : a.Decided env.sysfs dp) :
    SameElsewhere (Publishes dp) (a.path dp) a.value env attr := by
  intro env' attr' published' same
  obtain ⟨buf, -, slash, here⟩ := published.readFrom
  obtain ⟨buf', -, slash', there⟩ := published'.readFrom
  have line := sysLine_same same
  cases a with
  | nodeWwn =>
      obtain ⟨wwn, read⟩ := Option.isSome_iff_exists.mp decided
      have read' := (sysReadWwn_same "node_name" same).trans read
      change attr'.nodeWwn = attr.nodeWwn
      rw [there.nodeWwn, here.nodeWwn, read', read, Option.getD_some, Option.getD_some]
  | portWwn =>
      change attr'.portWwn = attr.portWwn
      rw [there.portWwn, here.portWwn, sysReadWwn_same "port_name" same]
  | portFcId =>
      change attr'.portFcId = attr.portFcId
      rw [there.portFcId, here.portFcId, saSysReadU32_same "port_id" same]
  | fabricName =>
      change attr'.fabricName = attr.fabricName
      rw [there.fabricName, here.fabricName, sysReadWwn_same "fabric_name" same]
  | portType =>
      change attr'.portType = attr.portType
      rw [there.portType, here.portType, portType_same slash slash' line]
  | portState =>
      obtain ⟨text, read⟩ := Option.isSome_iff_exists.mp decided
      change attr'.portState = attr.portState
      rw [there.portState, here.portState, cstr_lineBuffer_same read line]
  | portSpeed =>
      obtain ⟨before, value⟩ := here.portSpeed
      obtain ⟨before', value'⟩ := there.portSpeed
      change attr'.portSpeed = attr.portSpeed
      rw [value', value]
      exact sysReadSpeed_same same before before'
  | portSupportedSpeed =>
      obtain ⟨before, value⟩ := here.portSupportedSpeed
      obtain ⟨before', value'⟩ := there.portSupportedSpeed
      change attr'.portSupportedSpeed = attr.portSupportedSpeed
      rw [value', value]
      exact sysReadSpeed_same same before before'
  | portMaxFrameSize =>
      obtain ⟨text, read⟩ := Option.isSome_iff_exists.mp decided
      change attr'.portMaxFrameSize = attr.portMaxFrameSize
      rw [there.portMaxFrameSize, here.portMaxFrameSize, scanInt, scanInt,
        cstr_lineBuffer_same read line]
  | portSupportedFc4Types =>
      obtain ⟨text, read, full⟩ := decided
      have read' : sysLine env'.sysfs (hostDirOf dp) "supported_fc4s" = some text := line.trans read
      obtain ⟨data, stored, value, -⟩ := here.fc4Types
      obtain ⟨data', stored', value', -⟩ := there.fc4Types
      change attr'.portSupportedFc4Types = attr.portSupportedFc4Types
      rw [value, value', stored, stored', overwrite_read read full (List.Vector.toList_length _),
        overwrite_read read' full (List.Vector.toList_length _)]
  | portActiveFc4Types =>
      obtain ⟨text, read, full⟩ := decided
      have read' : sysLine env'.sysfs (hostDirOf dp) "active_fc4s" = some text := line.trans read
      obtain ⟨data, stored, -, value⟩ := here.fc4Types
      obtain ⟨data', stored', -, value'⟩ := there.fc4Types
      have room : data.length = 32 := by
        rw [stored, overwrite_length, List.Vector.toList_length]
      have room' : data'.length = 32 := by
        rw [stored', overwrite_length, List.Vector.toList_length]
      change attr'.portActiveFc4Types = attr.portActiveFc4Types
      rw [value, value', overwrite_read read full room, overwrite_read read' full room']
  | portSupportedClassofService =>
      obtain ⟨content, opened, notCut⟩ := decided
      obtain ⟨classes, digit, value⟩ := here.portSupportedClassofService
      obtain ⟨classes', digit', value'⟩ := there.portSupportedClassofService
      have alone := classDigit_same notCut opened digit
      have alone' := classDigit_same notCut (same.trans opened) digit'
      rw [alone, Except.ok.injEq] at alone'
      change attr'.portSupportedClassofService = attr.portSupportedClassofService
      rw [value, value', alone']

end Hbalinux
