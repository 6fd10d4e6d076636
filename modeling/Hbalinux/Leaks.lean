import Hbalinux.Isolation

/-! # Leaks between attributes

An attribute whose file does not decide it is read from what other files or earlier
calls left in memory: for each of them there are two trees that differ elsewhere and
give it two values.  The rest are isolated.
-/

namespace Hbalinux

open Outcome

/-- A tree that looks at the last component of a path only: the files have the given contents,
    and a `device` is behind a PCI link. -/
def Sysfs.byName (files : CStr → Option (List Char)) : Sysfs where
  file path := (strrchr path '/').bind fun split => files split.2
  dir _ := none
  link path := (strrchr path '/').bind fun split =>
    if split.2 = "device" then some "devices/pci/0:0:0.0" else none

def spareDigit (b : Bool) : Char := if b then '2' else '1'

/-- Memory full of one character or another. -/
def spareScratch (b : Bool) : Scratch where
  buf := .replicate 256 (spareDigit b)
  data := .replicate 32 (if b then 2 else 1)
  wwnn := if b then ⟨List.replicate 8 1, rfl⟩ else .zero
  ifname := .replicate 20 '\x00'

def spareSystem (files : CStr → Option (List Char)) (b : Bool) : Env :=
  { Env.withTree (.byName files) with scratch := fun _ => spareScratch b }

/-- The line buffer when the reading of the attributes starts. -/
def spareBuffer (b : Bool) : List Char :=
  overlay "devices/pci/0:0:0.0" (trimLine (overlay "x over y" (spareScratch b).buf.toList))

section

variable {files : CStr → Option (List Char)}

theorem strrchr_joinPath (dir : CStr) {file : CStr} (plain : '/' ∉ file) :
    strrchr (joinPath dir file) '/' = some (dir, file) := strrchr_last plain dir

theorem snprintf_joinPath {len : Nat} {dir file : CStr} (short : dir.length + file.length + 1 < len) :
    snprintf len (joinPath dir file) = joinPath dir file := by
  rw [snprintf, List.take_of_length_le]
  rw [joinPath, List.length_append, List.length_cons]
  omega

theorem byName_file {dir file : CStr} (plain : '/' ∉ file) (short : dir.length + file.length < 255) :
    (Sysfs.byName files).file (snprintf 256 (joinPath dir file)) = files file := by
  rw [snprintf_joinPath (by omega), Sysfs.byName]
  simp only [strrchr_joinPath dir plain, Option.bind_some]

theorem hostDir_length (dp : DirEnt) : (snprintf 80 (joinPath sysfsHostDir dp.dName)).length ≤ 79 := by
  rw [snprintf, List.length_take]
  exact min_le_left ..

theorem byName_symbolic (symbolic : files "symbolic_name" = some "x over y".toList) {dir : CStr}
    (short : dir.length ≤ 79) (buf : List Char) :
    saSysReadLine (.byName files) dir "symbolic_name" buf 256 =
      (0, trimLine (overlay "x over y" buf)) := by
  have line : fgets 256 "x over y".toList = "x over y".toList := by decide
  have length : "symbolic_name".toList.length = 13 := by decide
  have opened := (@byName_file files dir "symbolic_name" (by decide) (by omega)).trans symbolic
  rw [saSysReadLine, opened]
  simp only [line]
  split
  · rename_i nil
    exact absurd nil (by decide)
  · rfl

theorem byName_link {dir : CStr} (short : dir.length ≤ 79) :
    readlink (.byName files) (snprintf 128 (joinPath dir "device")) 255 =
      some "devices/pci/0:0:0.0".toList := by
  have length : "device".toList.length = 6 := by decide
  have linked : (Sysfs.byName files).link (joinPath dir "device") = some "devices/pci/0:0:0.0".toList := by
    dsimp only [Sysfs.byName]
    rw [strrchr_joinPath dir (by decide)]
    rfl
  rw [readlink, snprintf_joinPath (by omega), linked]
  rfl

end

theorem spareLine_eq (b : Bool) : trimLine (overlay "x over y" (spareScratch b).buf.toList) =
    "x over y".toList ++ '\x00' :: List.replicate 247 (spareDigit b) := by
  have line : trimLine ("x over y".toList ++ ['\x00']) = "x over y".toList ++ ['\x00'] := by decide
  have stored : (spareScratch b).buf.toList = List.replicate 256 (spareDigit b) := rfl
  rw [overlay, trimLine_rest, line, stored, List.drop_replicate]
  rfl

theorem spareBuffer_eq (b : Bool) :
    spareBuffer b = "devices/pci/0:0:0.0".toList ++ '\x00' :: List.replicate 236 (spareDigit b) := by
  have eight : "x over y".toList.length = 8 := rfl
  have twenty : "devices/pci/0:0:0.0".toList.length + 1 = 20 := rfl
  rw [spareBuffer, spareLine_eq, overlay, twenty, List.drop_append, eight]
  change _ ++ '\x00' :: ([] ++ List.drop 11 (List.replicate 247 (spareDigit b))) = _
  rw [List.nil_append, List.drop_replicate]

theorem spareBuffer_text (b : Bool) : cstr (spareBuffer b) = "devices/pci/0:0:0.0".toList := by
  rw [spareBuffer, cstr_overlay_line]
  rfl

theorem spareBuffer_name (b : Bool) :
    saStrncpySafe 256 (trimLine (overlay "x over y" (spareScratch b).buf.toList)) 256 =
      "x over y".toList := by
  have length : ("x over y".toList ++ '\x00' :: List.replicate 247 (spareDigit b)).length ≤ 256 := by
    rw [List.length_append, List.length_cons, List.length_replicate]
    decide
  rw [spareLine_eq, saStrncpySafe, List.take_of_length_le length, cstr_append (by simp)]
  rfl

theorem spareBuffer_address (b : Bool) (fuel : Nat) :
    (pciAddress (sscanf pciFormat) (fuel + 1) (spareBuffer b) .zero).map Prod.fst =
      some (spareBuffer b) := by
  rw [pciAddress, spareBuffer_text]
  rfl

theorem byName_identified {files : CStr → Option (List Char)}
    (symbolic : files "symbolic_name" = some "x over y".toList) (b : Bool) (dp : DirEnt) : ∃ found,
      identifyHost (.byName files) (spareScratch b) dp = .ok (some found) ∧
        found.hostDir = hostDirOf dp ∧ found.buf = spareBuffer b ∧ '\x00' ∈ found.ifname := by
  obtain ⟨⟨last, info⟩, located, here⟩ := Option.map_eq_some_iff.mp
    (spareBuffer_address b (spareBuffer b).length)
  have pci : (strstr (cstr (spareBuffer b)) "devices/pci").isSome ∧
      (strstr (cstr (spareBuffer b)) "/net/").isNone := by
    rw [spareBuffer_text]
    decide
  have short := hostDir_length dp
  have ended : '\x00' ∈ (spareScratch b).ifname.toList := by
    cases b <;> decide
  have found : strstr "x over y".toList " over " = some " over y".toList := by decide
  have linked : pciLink (.byName files) (snprintf 80 (joinPath sysfsHostDir dp.dName))
      (" over y".toList.drop 6) (spareScratch b).ifname.toList
      (trimLine (overlay "x over y" (spareScratch b).buf.toList)) =
      .ok (some (snprintf 80 (joinPath (snprintf 80 (joinPath sysfsHostDir dp.dName)) "device/.."),
        (spareScratch b).ifname.toList, spareBuffer b)) := by
    have link := @byName_link files _ short
    unfold pciLink
    dsimp only
    rw [link, Option.getD_some]
    exact if_pos pci
  unfold identifyHost identifyHostBy
  dsimp only
  rw [byName_symbolic symbolic short]
  simp only [spareBuffer_name, found, linked, ok_bind, located]
  exact ⟨_, rfl, rfl, here, ended⟩

/-- Every entry is published from such a tree if the class of service can be read. -/
theorem spare_publishes {files : CStr → Option (List Char)}
    (symbolic : files "symbolic_name" = some "x over y".toList) (b : Bool) (dp : DirEnt)
    {classes : Option UInt32}
    (digit : classDigit (lineBuffer (.byName files) (hostDirOf dp) "supported_classes" (spareBuffer b)) =
      .ok classes) :
    ∃ attr, Publishes dp (spareSystem files b) attr ∧
      ReadFrom (.byName files) (spareScratch b) (hostDirOf dp) (spareBuffer b) attr := by
  obtain ⟨found, identified, dir, buffer, ended⟩ := byName_identified symbolic b dp
  rw [← dir, ← buffer] at digit
  obtain ⟨⟨attr, last⟩, read⟩ := @portAttributes_returns _ (spareScratch b) _ dp _ digit
  obtain ⟨port, adPorts, builtPort, same⟩ := @buildPort_returns (spareSystem files b) dp found
    (Lib.init).adapters.fresh (Lib.init).lports.fresh _ _ (fun _ => rfl) read
  obtain ⟨adapter, builtAdapter⟩ := @buildAdapter_returns (spareSystem files b) dp found port adPorts
    last (fun _ => rfl) ended (by
      intro target linked
      obtain ⟨split, -, linked⟩ := Option.bind_eq_some_iff.mp linked
      split at linked
      · cases linked
        exact ⟨by decide, by decide⟩
      · cases linked)
  have fits : (Sysfs.byName files).NamesFit := by
    intro dirName dp listed
    cases listed
  have scanned := @sysfsScan_publishes (spareSystem files b) dp .init found port adPorts last adapter
    SaTable.wf_init (by decide) (fun _ => rfl) identified builtPort builtAdapter
  refine ⟨attr, ⟨fits, .init, _, port, scanned, Arena.get_store_self _ _ _, same⟩, ?_⟩
  have reads := portAttributes_readFrom read
  rwa [dir, buffer] at reads

section

variable {files : CStr → Option (List Char)} {dir : CStr} {b : Bool} {attr : HbaPortAttributes}

theorem byName_line {file : CStr} (plain : '/' ∉ file) (short : dir.length + file.length < 255) :
    sysLine (.byName files) dir file =
      ((files file).filter fun content => content ≠ []).map seenLine := by
  rw [sysLine_content, Sysfs.content, byName_file plain short]

theorem unspecified_digit {sysfs : Sysfs} {buf : List Char}
    (read : sysLine sysfs dir "supported_classes" = some "unspecified".toList) :
    classDigit (lineBuffer sysfs dir "supported_classes" buf) = .ok none := by
  rw [classDigit, cstr_lineBuffer read]
  rfl

/-- A file that cannot be read leaves the buffer to the one before it. -/
theorem lineBuffer_unread {sysfs : Sysfs} {file : CStr} (unread : sysLine sysfs dir file = none)
    (buf : List Char) :
    lineBuffer sysfs dir file buf = lineAfter sysfs dir (lineFiles.takeWhile (· ≠ file)) buf := by
  rw [lineBuffer, lineAfter, List.foldl_concat, saSysReadLine_unread unread]
  rfl

theorem lineBuffer_last {sysfs : Sysfs} {files' : List CStr} (before : CStr)
    (last : files' = lineFiles.takeWhile (· ≠ before) ++ [before]) (buf : List Char) :
    lineAfter sysfs dir files' buf = lineBuffer sysfs dir before buf := by
  rw [last, lineBuffer]

theorem lineAfter_unread {sysfs : Sysfs} {files' : List CStr}
    (unread : ∀ file ∈ files', sysLine sysfs dir file = none) (buf : List Char) :
    lineAfter sysfs dir files' buf = buf := by
  induction files' with
  | nil => rfl
  | cons file files' ih =>
      rw [lineAfter, List.foldl_cons, saSysReadLine_unread (unread file (List.mem_cons_self ..))]
      exact ih fun other member => unread other (List.mem_cons_of_mem _ member)

theorem leaks_nodeWwn (reads : ReadFrom (.byName files) (spareScratch b) dir (spareBuffer b) attr)
    (unread : sysReadWwn (.byName files) dir "node_name" = none) :
    attr.nodeWwn = (spareScratch b).wwnn := by
  rw [reads.nodeWwn, unread, Option.getD_none]

theorem leaks_portState (reads : ReadFrom (.byName files) (spareScratch b) dir (spareBuffer b) attr)
    (unread : sysLine (.byName files) dir "port_state" = none) {line : CStr}
    (before : sysLine (.byName files) dir "port_type" = some line) :
    attr.portState = (saEnumEncode portStatesTable line).getD 0 := by
  rw [reads.portState, lineBuffer_unread unread, lineBuffer_last "port_type" (by decide),
    cstr_lineBuffer before]

theorem leaks_portMaxFrameSize
    (reads : ReadFrom (.byName files) (spareScratch b) dir (spareBuffer b) attr)
    (unread : sysLine (.byName files) dir "maxframe_size" = none) {line : CStr}
    (before : sysLine (.byName files) dir "supported_speeds" = some line) :
    attr.portMaxFrameSize = ((sscanf [.d] line).head?).getD 0 := by
  rw [reads.portMaxFrameSize, lineBuffer_unread unread,
    lineBuffer_last "supported_speeds" (by decide), scanInt, cstr_lineBuffer before]

/-- Fewer than 32 numbers leave the last one as it was. -/
theorem fc4Types_short {vs old : List UInt32} (short : vs.length < 32) {u : UInt32}
    (last : old[31]? = some u) : (fc4Types (overwrite vs old)).toList[31]? = some u.toUInt8 := by
  have stays : (overwrite vs old)[31]? = some u := (getElem?_overwrite (Nat.le_of_lt_succ short)).trans last
  change ((List.range 32).map fun i => ((overwrite vs old).getD i 0).toUInt8)[31]? = _
  rw [List.getElem?_map, List.getElem?_range (by decide), Option.map_some, List.getD_eq_getElem?_getD,
    stays, Option.getD_some]

/-- Neither a short line nor the path in the buffer has 32 numbers. -/
theorem spare_short {file : CStr} (short : ¬ AllFc4 (.byName files) dir file)
    (unread : ∀ other ∈ lineFiles.takeWhile (· ≠ file), sysLine (.byName files) dir other = none) :
    (sscanf fc4Format (cstr (lineBuffer (.byName files) dir file (spareBuffer b)))).length < 32 := by
  cases read : sysLine (.byName files) dir file with
  | none =>
      rw [lineBuffer_unread read, lineAfter_unread unread, spareBuffer_text]
      decide
  | some line =>
      rw [cstr_lineBuffer read]
      exact Nat.lt_of_not_le fun full => short ⟨line, read, full⟩

theorem spareScratch_last (b : Bool) : (spareScratch b).data.toList[31]? = some (if b then 2 else 1) := by
  cases b <;> decide

theorem leaks_portSupportedFc4Types
    (reads : ReadFrom (.byName files) (spareScratch b) dir (spareBuffer b) attr)
    (short : ¬ AllFc4 (.byName files) dir "supported_fc4s")
    (unread : ∀ other ∈ lineFiles.takeWhile (· ≠ "supported_fc4s".toList),
      sysLine (.byName files) dir other = none) :
    attr.portSupportedFc4Types.toList[31]? = some (UInt32.toUInt8 (if b then 2 else 1)) := by
  obtain ⟨data, stored, value, -⟩ := reads.fc4Types
  rw [value, stored]
  exact fc4Types_short (spare_short short unread) (spareScratch_last b)

theorem leaks_portActiveFc4Types
    (reads : ReadFrom (.byName files) (spareScratch b) dir (spareBuffer b) attr)
    (short : ¬ AllFc4 (.byName files) dir "active_fc4s")
    (unread : ∀ other ∈ lineFiles.takeWhile (· ≠ "active_fc4s".toList),
      sysLine (.byName files) dir other = none) :
    attr.portActiveFc4Types.toList[31]? = some (UInt32.toUInt8 (if b then 2 else 1)) := by
  obtain ⟨data, stored, -, value⟩ := reads.fc4Types
  have none : ¬ AllFc4 (.byName files) dir "supported_fc4s" := by
    rintro ⟨line, read, -⟩
    rw [unread "supported_fc4s" (by decide)] at read
    cases read
  have before : (sscanf fc4Format
      (cstr (lineBuffer (.byName files) dir "supported_fc4s" (spareBuffer b)))).length < 32 :=
    spare_short none fun other member => unread other (List.mem_of_mem_dropLast member)
  have last : data[31]? = some (if b then 2 else 1) := by
    rw [stored, getElem?_overwrite (Nat.le_of_lt_succ before), spareScratch_last]
  rw [value]
  exact fc4Types_short (spare_short short unread) last

/-- A line that others are read over. -/
def spareLine (b : Bool) : List Char := "Class ".toList ++ List.replicate 249 (spareDigit b)

theorem spareLine_mem {b : Bool} {c : Char} (member : c ∈ spareLine b) : c ≠ '\x00' ∧ c ≠ '\n' := by
  have all : ∀ b : Bool, ∀ c ∈ "Class ".toList ++ [spareDigit b], c ≠ '\x00' ∧ c ≠ '\n' := by
    intro b
    cases b <;> simp [spareDigit]
  rcases List.mem_append.mp member with word | digit
  · exact all b c (List.mem_append_left _ word)
  · rw [List.eq_of_mem_replicate digit]
    exact all b _ (List.mem_append_right _ (List.mem_singleton_self _))

theorem spareLine_length (b : Bool) : (spareLine b).length = 255 := by
  have shape : spareLine b = "Class ".toList ++ List.replicate 249 (spareDigit b) := rfl
  rw [shape, List.length_append, List.length_replicate]
  rfl

theorem fgets_spareLine (b : Bool) : fgets 256 (spareLine b) = spareLine b := by
  have noNewline : firstLine (spareLine b) = spareLine b :=
    List.takeWhile_eq_self_iff.mpr fun c member => decide_eq_true (spareLine_mem member).2
  have nothing : (spareLine b).dropWhile (· ≠ '\n') = [] :=
    List.dropWhile_eq_nil_iff.mpr fun c member => decide_eq_true (spareLine_mem member).2
  have length := spareLine_length b
  rw [fgets, show (spareLine b).takeWhile (· ≠ '\n') = spareLine b from noNewline, nothing,
    List.take_nil, List.append_nil, List.take_of_length_le (by omega)]

theorem spareLine_trimmed (b : Bool) : (spareLine b).rdropWhile isspace = spareLine b := by
  have visible : isspace (spareDigit b) = false := by
    cases b <;> decide
  have last : spareLine b = ("Class ".toList ++ List.replicate 248 (spareDigit b)) ++ [spareDigit b] := by
    rw [List.append_assoc, ← List.replicate_succ']
    rfl
  rw [last, List.rdropWhile_concat_neg _ _ _ (by rw [visible]; exact Bool.false_ne_true)]

theorem spareDigit_value (b : Bool) :
    UInt32.ofInt (signedChar (spareDigit b) - 48) = if b then 2 else 1 := by
  cases b <;> decide

/-- Without a line of its own the class of service is that of the line before. -/
theorem leaks_class_unread (unread : sysLine (.byName files) dir "supported_classes" = none)
    (before : (Sysfs.byName files).content (snprintf 256 (joinPath dir "active_fc4s")) = some (spareLine b)) :
    classDigit (lineBuffer (.byName files) dir "supported_classes" (spareBuffer b)) =
      .ok (some (if b then 2 else 1)) := by
  have line : seenLine (spareLine b) = className (if b then 2 else 1) ++ List.replicate 248 (spareDigit b) := by
    have clean : ∀ c ∈ spareLine b, c ≠ '\x00' := fun c member => (spareLine_mem member).1
    rw [seenLine, fgets_spareLine, cstr_of_clean clean, spareLine_trimmed]
    cases b <;> rfl
  have read : sysLine (.byName files) dir "active_fc4s" = some (seenLine (spareLine b)) := by
    rw [sysLine_content, before, Option.map_some]
  have text := (cstr_lineBuffer read (spareBuffer b)).trans line
  rw [lineBuffer_unread unread, lineBuffer_last "active_fc4s" (by decide),
    classDigit_first (by cases b <;> decide) text]
  cases b <;> rfl

theorem cut_length {content : List Char} (cut : CutAtClass content) :
    5 ≤ (fgets 256 content).length := by
  obtain ⟨whole, found⟩ := cut
  obtain ⟨before, split, -, -⟩ := strstr_eq_some found
  have word : "Class".toList.length = 5 := rfl
  have length := congrArg List.length split
  rw [whole, List.length_append] at length
  omega

/-- Behind a line that ends in `Class` the digit is the next character but one, which the line
    does not reach. -/
theorem classDigit_cut {sysfs : Sysfs} {file : CStr} {content : List Char} (cut : CutAtClass content)
    (opened : sysfs.content (snprintf 256 (joinPath dir file)) = some content) (buf : List Char) :
    classDigit (lineBuffer sysfs dir file buf) = (do
      let c ← demand .outOfBounds (lineBuffer sysfs dir file buf)[(fgets 256 content).length + 1]?
      .ok (some (UInt32.ofInt (signedChar c - 48)))) := by
  have long := cut_length cut
  obtain ⟨whole, found⟩ := cut
  have read : sysLine sysfs dir file = some (fgets 256 content) := by
    rw [sysLine_content, opened, Option.map_some, whole]
  have word : "Class".toList.length = 5 := rfl
  have index : (fgets 256 content).length - "Class".toList.length + 6 =
      (fgets 256 content).length + 1 := by
    omega
  rw [whole] at found
  unfold classDigit
  rw [cstr_lineBuffer read, found]
  simp only [index]

/-- So it is read from what was there. -/
theorem leaks_class_cut {content : List Char} (cut : CutAtClass content)
    (opened : (Sysfs.byName files).content (snprintf 256 (joinPath dir "supported_classes")) = some content)
    (stale : (lineBuffer (.byName files) dir "active_fc4s" (spareBuffer b))[(fgets 256 content).length + 1]? =
      some (spareDigit b)) :
    classDigit (lineBuffer (.byName files) dir "supported_classes" (spareBuffer b)) =
      .ok (some (if b then 2 else 1)) := by
  have here : (lineBuffer (.byName files) dir "supported_classes" (spareBuffer b))[
      (fgets 256 content).length + 1]? = some (spareDigit b) := by
    have full : (trimLine (fgets 256 content ++ ['\x00'])).length = (fgets 256 content).length + 1 := by
      rw [trimLine_length, List.length_append, List.length_singleton]
    rw [lineBuffer, lineAfter, List.foldl_concat, saSysReadLine_opened opened,
      List.getElem?_append_right (Nat.le_of_eq full), full, Nat.sub_self, List.getElem?_drop]
    exact stale
  rw [classDigit_cut cut opened, here, demand_some, ok_bind, spareDigit_value]

theorem spareLine_stale {i : Nat} (low : 6 ≤ i) (high : i < 255)
    (before : (Sysfs.byName files).content (snprintf 256 (joinPath dir "active_fc4s")) = some (spareLine b)) :
    (lineBuffer (.byName files) dir "active_fc4s" (spareBuffer b))[i]? = some (spareDigit b) := by
  have clean : ∀ c ∈ spareLine b, c ≠ '\x00' := fun c member => (spareLine_mem member).1
  have line : trimLine (fgets 256 (spareLine b) ++ ['\x00']) = spareLine b ++ ['\x00'] := by
    rw [fgets_spareLine, trimLine, cstr_append clean, spareLine_trimmed, Nat.sub_self,
      List.drop_append_of_le_length (Nat.le_refl _), List.drop_length, List.replicate_zero,
      List.append_nil, List.nil_append]
  have digits (rest : List Char) : (spareLine b ++ rest)[i]? = some (spareDigit b) := by
    have tail : (List.replicate 249 (spareDigit b) ++ rest)[i - 6]? = some (spareDigit b) := by
      rw [List.getElem?_append_left (by rw [List.length_replicate]; omega), List.getElem?_replicate,
        if_pos (by omega)]
    have six : "Class ".toList.length = 6 := rfl
    have shape : spareLine b = "Class ".toList ++ List.replicate 249 (spareDigit b) := rfl
    rw [shape, List.append_assoc, List.getElem?_append_right (six ▸ low), six, tail]
  rw [lineBuffer, lineAfter, List.foldl_concat, saSysReadLine_opened before, line, List.append_assoc]
  exact digits _

theorem spareBuffer_stale (unread : ∀ other ∈ lineFiles.dropLast, sysLine (.byName files) dir other = none) :
    (lineBuffer (.byName files) dir "active_fc4s" (spareBuffer b))[255]? = some (spareDigit b) := by
  have kept : lineBuffer (.byName files) dir "active_fc4s" (spareBuffer b) = spareBuffer b :=
    lineAfter_unread unread (spareBuffer b)
  have length : "devices/pci/0:0:0.0".toList.length = 19 := rfl
  rw [kept, spareBuffer_eq, List.getElem?_append_right (by rw [length]; omega), length]
  exact List.getElem?_replicate_of_lt (show 235 < 236 by decide)

end

theorem content_filter (sysfs : Sysfs) (path : CStr) :
    (sysfs.content path).filter (fun content => content ≠ []) = sysfs.content path := by
  rw [Sysfs.content, Option.filter_filter]
  simp only [Bool.and_self]

/-- What is read besides the file of the attribute, to be seen where that one leaves a gap. -/
def spareExtra (a : PortAttribute) (own : Option (List Char)) (b : Bool) : List (CStr × List Char) :=
  match a with
  | .portState => [("port_type", if b then "Online".toList else "Offline".toList)]
  | .portMaxFrameSize => [("supported_speeds", [spareDigit b])]
  | .portSupportedClassofService =>
      if own.map (fun content => (fgets 256 content).length) = some 254 then []
      else [("active_fc4s", spareLine b)]
  | _ => []

def spareFiles (a : PortAttribute) (own : Option (List Char)) (b : Bool) (name : CStr) :
    Option (List Char) :=
  if name = a.file then own
  else (("symbolic_name".toList, "x over y".toList) :: ("supported_classes".toList, "unspecified".toList) ::
    spareExtra a own b).lookup name

section

variable {a : PortAttribute} {dp : DirEnt} {env : Env} {attr : HbaPortAttributes}

theorem spareFiles_content (b : Bool) : (Sysfs.byName
    (spareFiles a (env.sysfs.content (a.path dp)) b)).content (a.path dp) = env.sysfs.content (a.path dp) := by
  have plain : '/' ∉ a.file ∧ a.file.length < 20 := by
    cases a <;> decide
  have short := saStrncpySafe_length 80 (snprintf 80 (joinPath sysfsHostDir dp.dName)) 80
  have opened : (Sysfs.byName (spareFiles a (env.sysfs.content (a.path dp)) b)).file (a.path dp) =
      spareFiles a (env.sysfs.content (a.path dp)) b a.file :=
    byName_file plain.1 (by rw [hostDirOf]; omega)
  rw [Sysfs.content, opened, spareFiles, if_pos rfl, content_filter]

/-- Two published ports that differ while the file is the same show that it does not decide. -/
theorem not_sameElsewhere {β : Type} (observe : a.Value → β) (f : Bool → β) (apart : f true ≠ f false)
    (each : ∀ b, ∃ attr', Publishes dp (spareSystem (spareFiles a (env.sysfs.content (a.path dp)) b) b) attr' ∧
      observe (a.value attr') = f b) :
    ¬ SameElsewhere (Publishes dp) (a.path dp) a.value env attr := by
  intro same
  have value : ∀ b, f b = observe (a.value attr) := by
    intro b
    obtain ⟨attr', published, seen⟩ := each b
    rw [← seen, same _ _ published (spareFiles_content b)]
  exact apart ((value true).trans (value false).symm)

/-- The other files of such a tree. -/
theorem spareFiles_line {own : Option (List Char)} {b : Bool} {file : CStr} (other : file ≠ a.file)
    (plain : '/' ∉ file) (short : file.length < 20) :
    sysLine (.byName (spareFiles a own b)) (hostDirOf dp) file =
      (((("symbolic_name".toList, "x over y".toList) :: ("supported_classes".toList, "unspecified".toList) ::
        spareExtra a own b).lookup file).filter fun content => content ≠ []).map seenLine := by
  have small := saStrncpySafe_length 80 (snprintf 80 (joinPath sysfsHostDir dp.dName)) 80
  rw [byName_line plain (by rw [hostDirOf]; omega), spareFiles, if_neg other]

/-- An attribute other than the class of service is read from any tree of this kind. -/
theorem spareFiles_publishes (own : Option (List Char)) (b : Bool)
    (other : a ≠ .portSupportedClassofService) :
    ∃ attr', Publishes dp (spareSystem (spareFiles a own b) b) attr' ∧
      ReadFrom (.byName (spareFiles a own b)) (spareScratch b) (hostDirOf dp) (spareBuffer b) attr' := by
  have files : "symbolic_name".toList ≠ a.file ∧ "supported_classes".toList ≠ a.file := by
    revert other
    cases a <;> decide
  have classes : sysLine (.byName (spareFiles a own b)) (hostDirOf dp) "supported_classes" =
      some "unspecified".toList := by
    rw [spareFiles_line files.2 (by decide) (by decide)]
    rfl
  refine spare_publishes ?_ b dp (unspecified_digit classes)
  rw [spareFiles, if_neg files.1]
  rfl

/-- The file of the attribute reads the same in such a tree. -/
theorem spareFiles_own (a : PortAttribute) (dp : DirEnt) (env : Env) (b : Bool) :
    sysLine (.byName (spareFiles a (env.sysfs.content (a.path dp)) b)) (hostDirOf dp) a.file =
      sysLine env.sysfs (hostDirOf dp) a.file :=
  sysLine_same (spareFiles_content b)

theorem nodeWwn_leaks (unread : sysReadWwn env.sysfs (hostDirOf dp) "node_name" = none) :
    ¬ SameElsewhere (Publishes dp) (PortAttribute.nodeWwn.path dp) PortAttribute.nodeWwn.value env attr := by
  refine @not_sameElsewhere .nodeWwn dp env attr HbaWwn id (fun b => (spareScratch b).wwnn) ?_ fun b => ?_
  · intro same
    cases congrArg List.Vector.toList same
  · obtain ⟨attr', publishes, reads⟩ := @spareFiles_publishes .nodeWwn dp
      (env.sysfs.content (PortAttribute.nodeWwn.path dp)) b (by decide)
    have still := sysReadWwn_same "node_name" (@spareFiles_content .nodeWwn dp env b)
    exact ⟨attr', publishes, leaks_nodeWwn reads (still.trans unread)⟩

theorem portState_leaks (unread : sysLine env.sysfs (hostDirOf dp) "port_state" = none) :
    ¬ SameElsewhere (Publishes dp) (PortAttribute.portState.path dp) PortAttribute.portState.value env attr := by
  refine @not_sameElsewhere .portState dp env attr UInt32 id (fun b => if b then 2 else 3) (by decide)
    fun b => ?_
  obtain ⟨attr', publishes, reads⟩ := @spareFiles_publishes .portState dp
    (env.sysfs.content (PortAttribute.portState.path dp)) b (by decide)
  have before := @spareFiles_line .portState dp (env.sysfs.content (PortAttribute.portState.path dp)) b
    "port_type" (by decide) (by decide) (by decide)
  have line : sysLine (.byName (spareFiles .portState
      (env.sysfs.content (PortAttribute.portState.path dp)) b)) (hostDirOf dp) "port_type" =
      some (if b then "Online".toList else "Offline".toList) := by
    rw [before]
    cases b <;> rfl
  refine ⟨attr', publishes, ?_⟩
  have value := leaks_portState reads ((spareFiles_own .portState dp env b).trans unread) line
  exact value.trans (by cases b <;> decide)

theorem portMaxFrameSize_leaks (unread : sysLine env.sysfs (hostDirOf dp) "maxframe_size" = none) :
    ¬ SameElsewhere (Publishes dp) (PortAttribute.portMaxFrameSize.path dp)
      PortAttribute.portMaxFrameSize.value env attr := by
  refine @not_sameElsewhere .portMaxFrameSize dp env attr UInt32 id (fun b => if b then 2 else 1)
    (by decide) fun b => ?_
  obtain ⟨attr', publishes, reads⟩ := @spareFiles_publishes .portMaxFrameSize dp
    (env.sysfs.content (PortAttribute.portMaxFrameSize.path dp)) b (by decide)
  have before := @spareFiles_line .portMaxFrameSize dp
    (env.sysfs.content (PortAttribute.portMaxFrameSize.path dp)) b "supported_speeds" (by decide)
    (by decide) (by decide)
  have line : sysLine (.byName (spareFiles .portMaxFrameSize
      (env.sysfs.content (PortAttribute.portMaxFrameSize.path dp)) b)) (hostDirOf dp)
      "supported_speeds" = some [spareDigit b] := by
    rw [before]
    cases b <;> rfl
  refine ⟨attr', publishes, ?_⟩
  have value := leaks_portMaxFrameSize reads ((spareFiles_own .portMaxFrameSize dp env b).trans unread) line
  exact value.trans (by cases b <;> decide)

/-- No other file than that of an array is there. -/
theorem spareFiles_fc4 {own : Option (List Char)} {b : Bool}
    (array : a = .portSupportedFc4Types ∨ a = .portActiveFc4Types) :
    ∀ other ∈ lineFiles.takeWhile (· ≠ a.file),
      sysLine (.byName (spareFiles a own b)) (hostDirOf dp) other = none := by
  have apart : ∀ other ∈ lineFiles.takeWhile (· ≠ a.file), other ≠ a.file ∧ '/' ∉ other ∧
      other.length < 20 ∧ other ≠ "symbolic_name".toList ∧ other ≠ "supported_classes".toList := by
    rcases array with rfl | rfl <;> decide
  have extra : spareExtra a own b = [] := by
    rcases array with rfl | rfl <;> rfl
  intro other member
  obtain ⟨own', plain, short, symbolic, classes⟩ := apart other member
  rw [spareFiles_line own' plain short, extra, List.lookup_cons, beq_false_of_ne symbolic,
    List.lookup_cons, beq_false_of_ne classes]
  rfl

theorem portSupportedFc4Types_leaks (short : ¬ AllFc4 env.sysfs (hostDirOf dp) "supported_fc4s") :
    ¬ SameElsewhere (Publishes dp) (PortAttribute.portSupportedFc4Types.path dp)
      PortAttribute.portSupportedFc4Types.value env attr := by
  refine @not_sameElsewhere .portSupportedFc4Types dp env attr _ (fun v => v.toList[31]?)
    (fun b => some (UInt32.toUInt8 (if b then 2 else 1))) (by decide) fun b => ?_
  obtain ⟨attr', publishes, reads⟩ := @spareFiles_publishes .portSupportedFc4Types dp
    (env.sysfs.content (PortAttribute.portSupportedFc4Types.path dp)) b (by decide)
  refine ⟨attr', publishes, leaks_portSupportedFc4Types reads ?_ (spareFiles_fc4 (.inl rfl))⟩
  rintro ⟨line, read, full⟩
  exact short ⟨line, (spareFiles_own .portSupportedFc4Types dp env b).symm.trans read, full⟩

theorem portActiveFc4Types_leaks (short : ¬ AllFc4 env.sysfs (hostDirOf dp) "active_fc4s") :
    ¬ SameElsewhere (Publishes dp) (PortAttribute.portActiveFc4Types.path dp)
      PortAttribute.portActiveFc4Types.value env attr := by
  refine @not_sameElsewhere .portActiveFc4Types dp env attr _ (fun v => v.toList[31]?)
    (fun b => some (UInt32.toUInt8 (if b then 2 else 1))) (by decide) fun b => ?_
  obtain ⟨attr', publishes, reads⟩ := @spareFiles_publishes .portActiveFc4Types dp
    (env.sysfs.content (PortAttribute.portActiveFc4Types.path dp)) b (by decide)
  refine ⟨attr', publishes, leaks_portActiveFc4Types reads ?_ (spareFiles_fc4 (.inr rfl))⟩
  rintro ⟨line, read, full⟩
  exact short ⟨line, (spareFiles_own .portActiveFc4Types dp env b).symm.trans read, full⟩

theorem spareFiles_active {own : Option (List Char)} {b : Bool}
    (other : own.map (fun content => (fgets 256 content).length) ≠ some 254) :
    (Sysfs.byName (spareFiles .portSupportedClassofService own b)).content
      (snprintf 256 (joinPath (hostDirOf dp) "active_fc4s")) = some (spareLine b) := by
  have small : (hostDirOf dp).length ≤ 79 :=
    saStrncpySafe_length 80 (snprintf 80 (joinPath sysfsHostDir dp.dName)) 80
  have length : "active_fc4s".toList.length = 11 := by decide
  have extra : spareExtra .portSupportedClassofService own b = [("active_fc4s".toList, spareLine b)] :=
    if_neg other
  rw [Sysfs.content, byName_file (by decide) (by omega), spareFiles, if_neg (by decide), extra]
  cases b <;> rfl

theorem spareFiles_alone {own : Option (List Char)} {b : Bool}
    (full : own.map (fun content => (fgets 256 content).length) = some 254) :
    ∀ other ∈ lineFiles.dropLast,
      sysLine (.byName (spareFiles .portSupportedClassofService own b)) (hostDirOf dp) other = none := by
  have apart : ∀ other ∈ lineFiles.dropLast, other ≠ PortAttribute.portSupportedClassofService.file ∧
      '/' ∉ other ∧ other.length < 20 ∧ other ≠ "symbolic_name".toList := by
    decide
  have extra : spareExtra .portSupportedClassofService own b = [] := if_pos full
  intro other member
  obtain ⟨own', plain, short, symbolic⟩ := apart other member
  have classes : other ≠ "supported_classes".toList := own'
  rw [spareFiles_line own' plain short, extra, List.lookup_cons, beq_false_of_ne symbolic,
    List.lookup_cons, beq_false_of_ne classes]
  rfl

/-- What was stored in the place where the digit is read from. -/
theorem spareFiles_stale {content : List Char} (cut : CutAtClass content)
    (short : (fgets 256 content).length ≤ 254) (b : Bool) :
    (lineBuffer (.byName (spareFiles .portSupportedClassofService (some content) b)) (hostDirOf dp)
      "active_fc4s" (spareBuffer b))[(fgets 256 content).length + 1]? = some (spareDigit b) := by
  by_cases full : (fgets 256 content).length = 254
  · rw [full]
    exact spareBuffer_stale (spareFiles_alone (congrArg some full))
  · have long := cut_length cut
    refine spareLine_stale (by omega) (by omega) (spareFiles_active fun same => full ?_)
    exact Option.some.inj same

theorem portSupportedClassofService_leaks (published : Publishes dp env attr)
    (undecided : ¬ PortAttribute.portSupportedClassofService.Decided env.sysfs dp) :
    ¬ SameElsewhere (Publishes dp) (PortAttribute.portSupportedClassofService.path dp)
      PortAttribute.portSupportedClassofService.value env attr := by
  refine @not_sameElsewhere .portSupportedClassofService dp env attr UInt32 id
    (fun b => if b then 2 else 1) (by decide) fun b => ?_
  have digit : classDigit (lineBuffer (.byName (spareFiles .portSupportedClassofService
      (env.sysfs.content (PortAttribute.portSupportedClassofService.path dp)) b)) (hostDirOf dp)
      "supported_classes" (spareBuffer b)) = .ok (some (if b then 2 else 1)) := by
    have same := @spareFiles_content .portSupportedClassofService dp env b
    cases opened : env.sysfs.content (PortAttribute.portSupportedClassofService.path dp) with
    | none =>
        rw [opened] at same
        refine leaks_class_unread ?_ (spareFiles_active nofun)
        rw [sysLine_content]
        exact congrArg (Option.map seenLine) same
    | some content =>
        rw [opened] at same
        have cut : CutAtClass content := by
          by_contra notCut
          exact undecided ⟨content, opened, notCut⟩
        refine leaks_class_cut cut same (spareFiles_stale cut ?_ b)
        obtain ⟨buf, room, -, reads⟩ := published.readFrom
        obtain ⟨classes, read, -⟩ := reads.portSupportedClassofService
        have opened' : env.sysfs.content (snprintf 256 (joinPath (hostDirOf dp) "supported_classes")) =
            some content := opened
        rw [classDigit_cut cut opened'] at read
        obtain ⟨c, inside, -⟩ := bind_eq_ok.mp read
        obtain ⟨below, -⟩ := List.getElem?_eq_some_iff.mp (demand_eq_ok.mp inside)
        rw [lineBuffer_length _ _ _ room] at below
        omega
  obtain ⟨attr', publishes, reads⟩ := @spare_publishes (spareFiles .portSupportedClassofService
    (env.sysfs.content (PortAttribute.portSupportedClassofService.path dp)) b) rfl b dp _ digit
  obtain ⟨classes, read, value⟩ := reads.portSupportedClassofService
  rw [digit, Except.ok.injEq] at read
  exact ⟨attr', publishes, value.trans (read ▸ rfl)⟩

end

/-- The file of the maximum frame size of a remote port. -/
def rportFramePath (dp : DirEnt) : CStr :=
  snprintf 256 (joinPath (snprintf 256 (joinPath sysfsRportRoot dp.dName)) "maxframe_size")

theorem readRport_frame {env : Env} {dp : DirEnt} {hba port rpIndex : UInt32} {rport : PortInfo}
    (read : readRport env dp hba port rpIndex = .ok (some rport)) :
    rport.apAttr.portMaxFrameSize = scanInt (saSysReadLine env.sysfs
      (snprintf 256 (joinPath sysfsRportRoot dp.dName)) "maxframe_size"
      (env.rportScratch dp.dName).toList 256).2 0 := by
  rw [readRport] at read
  simp only at read
  split at read
  · cases read
  · split at read
    · cases read
      rfl
    · cases read

/-- How a remote port comes to be built. -/
theorem builds_iff {dp : DirEnt} {env : Env} {attr : HbaPortAttributes} :
    Builds dp env attr ↔ ∃ (lib : Lib) (hba port rpIndex : UInt32) (rport : PortInfo) (rc : Int)
      (table : SaTable Ptr), sscanf sysfsRportFormat dp.dName = [hba, port, rpIndex] ∧
        env.mem (.rport dp.dName) = true ∧ readRport env dp hba port rpIndex = .ok (some rport) ∧
        saTableAppend lib.rportsTable (some lib.rports.fresh) (env.mem (.rportSlot dp.dName)) =
          .ok (rc, table) ∧ 0 ≤ rc ∧ rport.apAttr = attr := by
  constructor
  · rintro ⟨lib, rc, lib', rport, called, live, rfl⟩
    have absent : ∀ {t : Lib}, t.rports = lib.rports → t.rports.get lib.rports.fresh ≠ some rport := by
      intro t same here
      rw [same, Arena.get_fresh] at here
      cases here
    rw [sysfsGetRport] at called
    split at called
    · rename_i hba port rpIndex parsed
      split at called
      · cases called
        exact absurd live (absent rfl)
      · rename_i mem
        obtain ⟨read, reading, called⟩ := bind_eq_ok.mp called
        cases read with
        | none =>
            cases called
            exact absurd live (absent rfl)
        | some rport' =>
            obtain ⟨⟨code, table⟩, appended, called⟩ := bind_eq_ok.mp called
            cases called
            by_cases failed : code < 0
            · simp only [if_pos failed, Arena.free_store _ (Arena.get_fresh _), Arena.get_fresh] at live
              cases live
            · rw [if_neg failed] at live
              have same : rport' = rport :=
                Option.some.inj ((Arena.get_store_self _ _ _).symm.trans live)
              exact ⟨lib, hba, port, rpIndex, rport', code, table, parsed, Bool.eq_true_of_not_eq_false mem,
                reading, appended, Int.not_lt.mp failed, by rw [same]⟩
    · cases called
      exact absurd live (absent rfl)
  · rintro ⟨lib, hba, port, rpIndex, rport, code, table, parsed, mem, reading, appended, done, rfl⟩
    have called : sysfsGetRport env dp lib = .ok (0, { lib with
        rportsTable := table
        rports := lib.rports.store lib.rports.fresh rport }) := by
      rw [sysfsGetRport, parsed]
      simp only [mem, Bool.true_eq_false, if_false, reading, ok_bind, Arena.alloc, appended,
        if_neg (Int.not_lt.mpr done)]
    exact ⟨lib, 0, _, rport, called, Arena.get_store_self _ _ _, rfl⟩

/-- The line buffer of `sysfs_get_rport` with a number left in it. -/
def rportSpare (b : Bool) : List.Vector Char 256 :=
  ⟨spareDigit b :: List.replicate 255 '\x00', by rw [List.length_cons, List.length_replicate]⟩

/-- The same remote port is read with a number that was left in memory. -/
theorem readRport_spare {env : Env} {dp : DirEnt} {hba port rpIndex : UInt32} {rport : PortInfo}
    (read : readRport env dp hba port rpIndex = .ok (some rport))
    (unread : sysLine env.sysfs (snprintf 256 (joinPath sysfsRportRoot dp.dName)) "maxframe_size" = none)
    (b : Bool) : ∃ rport', readRport { env with rportScratch := fun _ => rportSpare b } dp hba port rpIndex =
      .ok (some rport') ∧ rport'.apAttr.portMaxFrameSize = if b then 2 else 1 := by
  have number : '\x00' ∈ (rportSpare b).toList ∧
      scanInt (rportSpare b).toList 0 = if b then 2 else 1 := by
    cases b <;> decide +kernel
  have frame : ∀ {rport'}, readRport { env with rportScratch := fun _ => rportSpare b } dp hba port rpIndex =
      .ok (some rport') → rport'.apAttr.portMaxFrameSize = if b then 2 else 1 := by
    intro rport' read'
    have value := readRport_frame read'
    rw [saSysReadLine_unread unread] at value
    exact value.trans number.2
  rw [readRport] at read
  simp only at read
  split at read
  · cases read
  · split at read
    · rename_i nodeWwn portWwn portFcId scsiTarget portState classes
      have again : ∃ rport', readRport { env with rportScratch := fun _ => rportSpare b } dp hba port
          rpIndex = .ok (some rport') := by
        rw [readRport]
        simp only [saSysReadLine_unread unread, number.1, not_true_eq_false, if_false, nodeWwn, portWwn,
          portFcId, scsiTarget, portState, classes]
        exact ⟨_, rfl⟩
      obtain ⟨rport', read'⟩ := again
      exact ⟨rport', read', frame read'⟩
    · cases read

/-- The frame size of a remote port depends on its file alone where that can be read. -/
theorem rportFrame_iff {dp : DirEnt} {env : Env} {attr : HbaPortAttributes} (built : Builds dp env attr) :
    SameElsewhere (Builds dp) (rportFramePath dp) HbaPortAttributes.portMaxFrameSize env attr ↔
      (sysLine env.sysfs (snprintf 256 (joinPath sysfsRportRoot dp.dName)) "maxframe_size").isSome := by
  obtain ⟨lib, hba, port, rpIndex, rport, rc, table, parsed, mem, read, appended, done, rfl⟩ :=
    builds_iff.mp built
  constructor
  · intro same
    by_contra missing
    have unread := Option.not_isSome_iff_eq_none.mp missing
    have value : ∀ b : Bool, (if b then 2 else 1) = rport.apAttr.portMaxFrameSize := by
      intro b
      obtain ⟨rport', read', frame⟩ := readRport_spare read unread b
      rw [← frame]
      refine same { env with rportScratch := fun _ => rportSpare b } _ (builds_iff.mpr ?_) rfl
      exact ⟨lib, hba, port, rpIndex, rport', rc, table, parsed, mem, read', appended, done, rfl⟩
    exact absurd ((value true).trans (value false).symm) (by decide)
  · intro readable env' attr' built' same
    obtain ⟨-, hba', port', rpIndex', rport', -, -, -, -, read', -, -, rfl⟩ := builds_iff.mp built'
    obtain ⟨line, here⟩ := Option.isSome_iff_exists.mp readable
    have there := (sysLine_same same).trans here
    rw [readRport_frame read, readRport_frame read', scanInt, scanInt, (saSysReadLine_read here _).2,
      (saSysReadLine_read there _).2]

/-- An attribute that its file does not decide has another value elsewhere. -/
theorem not_sameElsewhere_of_undecided {dp : DirEnt} {env : Env} {attr : HbaPortAttributes}
    (published : Publishes dp env attr) {a : PortAttribute} (undecided : ¬ a.Decided env.sysfs dp) :
    ¬ SameElsewhere (Publishes dp) (a.path dp) a.value env attr := by
  cases a with
  | portWwn | portFcId | portType | portSpeed | portSupportedSpeed | fabricName =>
      exact absurd trivial undecided
  | nodeWwn => exact nodeWwn_leaks (Option.not_isSome_iff_eq_none.mp undecided)
  | portState => exact portState_leaks (Option.not_isSome_iff_eq_none.mp undecided)
  | portMaxFrameSize => exact portMaxFrameSize_leaks (Option.not_isSome_iff_eq_none.mp undecided)
  | portSupportedFc4Types => exact portSupportedFc4Types_leaks undecided
  | portActiveFc4Types => exact portActiveFc4Types_leaks undecided
  | portSupportedClassofService => exact portSupportedClassofService_leaks published undecided

/-- The attributes of a local port and the frame size of a remote port are isolated where their
    file decides them, and nowhere else. -/
theorem attributes_isolated_iff (dp : DirEnt) (env : Env) (attr : HbaPortAttributes) :
    (Publishes dp env attr → ∀ a : PortAttribute,
      (SameElsewhere (Publishes dp) (a.path dp) a.value env attr ↔ a.Decided env.sysfs dp)) ∧
    (Builds dp env attr →
      (SameElsewhere (Builds dp) (rportFramePath dp) HbaPortAttributes.portMaxFrameSize env attr ↔
        (sysLine env.sysfs (snprintf 256 (joinPath sysfsRportRoot dp.dName)) "maxframe_size").isSome)) := by
  refine ⟨fun published a => ⟨fun same => ?_, sameElsewhere_of_decided published⟩,
    fun built => rportFrame_iff built⟩
  by_contra undecided
  exact not_sameElsewhere_of_undecided published undecided same

theorem namesFit_ofLists {files : List (CStr × CStr)} {dirs : List (CStr × List DirEnt)}
    {links : List (CStr × CStr)} (fit : ∀ dir ∈ dirs, ∀ dp ∈ dir.2, dp.dName.length ≤ 255) :
    (Sysfs.ofLists files dirs links).NamesFit := by
  intro dirName dp listed
  obtain ⟨entry, -⟩ := List.mem_filter.mp listed
  change dp ∈ (dirs.lookup dirName).getD [] at entry
  cases found : dirs.lookup dirName with
  | none =>
      rw [found] at entry
      cases entry
  | some dps =>
      rw [found, Option.getD_some] at entry
      obtain ⟨before, after, split, -⟩ := List.lookup_eq_some_iff.mp found
      exact fit (dirName, dps) (split ▸ List.mem_append_right _ (List.mem_cons_self ..)) dp entry

theorem publishes_of_scan {env : Env} {dp : DirEnt} {β : Type} {observe : HbaPortAttributes → β} {v : β}
    (fits : env.sysfs.NamesFit)
    (evaluated : (sysfsScan env dp .init).toOption.map (fun r =>
      (r.1, (r.2.lports.get 0).map fun port => observe port.apAttr)) = some (.published, some v)) :
    ∃ attr, Publishes dp env attr ∧ observe attr = v := by
  obtain ⟨⟨exit, lib⟩, scanned, value⟩ := Option.map_eq_some_iff.mp evaluated
  simp only [Prod.mk.injEq, Option.map_eq_some_iff] at value
  obtain ⟨rfl, port, live, seen⟩ := value
  exact ⟨port.apAttr, ⟨fits, .init, lib, port, eq_ok_of_toOption scanned, live, rfl⟩, seen⟩

def hostEntry : DirEnt := ⟨"host3", .lnk⟩

def rportEntry : DirEnt := ⟨"rport-3:0-1", .lnk⟩

/-- Of `host3` the port name can be read and the node name cannot; the frame size of its remote
    port can. -/
theorem attributes_isolated_small :
    (∃ attr, Publishes hostEntry smallSystem attr ∧
      SameElsewhere (Publishes hostEntry) (PortAttribute.portWwn.path hostEntry)
        PortAttribute.portWwn.value smallSystem attr ∧
      ¬ SameElsewhere (Publishes hostEntry) (PortAttribute.nodeWwn.path hostEntry)
        PortAttribute.nodeWwn.value smallSystem attr) ∧
    ∃ attr, Builds rportEntry smallSystem attr ∧
      SameElsewhere (Builds rportEntry) (rportFramePath rportEntry) HbaPortAttributes.portMaxFrameSize
        smallSystem attr := by
  obtain ⟨scanned, unread, built, readable⟩ :
      (sysfsScan smallSystem hostEntry .init).toOption.map (fun r =>
        (r.1, (r.2.lports.get 0).map fun port => port.apAttr.portFcId)) = some (.published, some 0) ∧
      (sysReadWwn smallSystem.sysfs (hostDirOf hostEntry) "node_name").isSome = false ∧
      (sysfsGetRport smallSystem rportEntry .init).toOption.map (fun r =>
        (r.2.rports.get 0).isSome) = some true ∧
      (sysLine smallSystem.sysfs (snprintf 256 (joinPath sysfsRportRoot rportEntry.dName))
        "maxframe_size").isSome := by
    decide +kernel
  obtain ⟨attr, published, -⟩ := publishes_of_scan
    (show smallSystem.sysfs.NamesFit from namesFit_ofLists (by decide)) scanned
  obtain ⟨⟨rc, lib⟩, called, live⟩ := Option.map_eq_some_iff.mp built
  obtain ⟨rport, live⟩ := Option.isSome_iff_exists.mp live
  have builds : Builds rportEntry smallSystem rport.apAttr :=
    ⟨.init, rc, lib, rport, eq_ok_of_toOption called, live, rfl⟩
  refine ⟨⟨attr, published, ((attributes_isolated_iff ..).1 published .portWwn).mpr trivial, ?_⟩,
    rport.apAttr, builds, ((attributes_isolated_iff ..).2 builds).mpr readable⟩
  intro same
  have decided := ((attributes_isolated_iff ..).1 published .nodeWwn).mp same
  exact absurd decided (Bool.eq_false_iff.mp unread)

/-- The sample system with a list of speeds, and without a frame size for `host3`. -/
def speedSystem (speeds : CStr) : Env := .withTree (.ofLists
  (("/sys/class/fc_host/host3/supported_speeds".toList, speeds) :: smallFiles) smallDirs smallLinks)

/-- The maximum frame size of a host that gives none is the first number of its speeds. -/
theorem portMaxFrameSize_leaked : ∃ attr attr',
    Publishes hostEntry (speedSystem "10 Gbit\n") attr ∧
      Publishes hostEntry (speedSystem "8 Gbit\n") attr' ∧
      (speedSystem "10 Gbit\n").sysfs.content (PortAttribute.portMaxFrameSize.path hostEntry) =
        (speedSystem "8 Gbit\n").sysfs.content (PortAttribute.portMaxFrameSize.path hostEntry) ∧
      attr.portMaxFrameSize = 10 ∧ attr'.portMaxFrameSize = 8 := by
  have fits (speeds : CStr) : (speedSystem speeds).sysfs.NamesFit := namesFit_ofLists (by decide)
  obtain ⟨ten, eight, same⟩ :
      (sysfsScan (speedSystem "10 Gbit\n") hostEntry .init).toOption.map (fun r =>
        (r.1, (r.2.lports.get 0).map fun port => port.apAttr.portMaxFrameSize)) =
          some (.published, some 10) ∧
      (sysfsScan (speedSystem "8 Gbit\n") hostEntry .init).toOption.map (fun r =>
        (r.1, (r.2.lports.get 0).map fun port => port.apAttr.portMaxFrameSize)) =
          some (.published, some 8) ∧
      (speedSystem "10 Gbit\n").sysfs.content (PortAttribute.portMaxFrameSize.path hostEntry) =
        (speedSystem "8 Gbit\n").sysfs.content (PortAttribute.portMaxFrameSize.path hostEntry) := by
    decide +kernel
  obtain ⟨attr, published, value⟩ := publishes_of_scan (fits _) ten
  obtain ⟨attr', published', value'⟩ := publishes_of_scan (fits _) eight
  exact ⟨attr, attr', published, published', same, value, value'⟩

end Hbalinux
