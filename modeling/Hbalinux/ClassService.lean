import Hbalinux.AdapterInvariant
import Hbalinux.Classes

/-! # Class of service

From the same line a remote port gets one bit for each class listed and a local port
the first class as a number.  The two never agree: a number is smaller than its bit.
-/

namespace Hbalinux

open Outcome

/-- `"Class %d"` -/
def className (n : Nat) : CStr := ['C', 'l', 'a', 's', 's', ' '] ++ decimal n

/-- `"Class a[, Class b]..."` -/
def classesLine (a : Nat) (ns : List Nat) : CStr :=
  className a ++ ns.flatMap fun n => ',' :: ' ' :: className n

theorem classesLine_mem {a : Nat} {ns : List Nat} {c : Char} (member : c ∈ classesLine a ns) :
    c ∈ ['C', 'l', 'a', 's', 's', ' ', ','] ∨ c.isDigit = true := by
  have words : ∀ {n : Nat}, c ∈ className n → c ∈ ['C', 'l', 'a', 's', 's', ' ', ','] ∨ c.isDigit = true := by
    intro n inside
    rcases List.mem_append.mp inside with word | number
    · exact .inl (List.mem_append_left [','] word)
    · exact .inr (decimal_isDigit number)
  rcases List.mem_append.mp member with first | later
  · exact words first
  · obtain ⟨n, -, inside⟩ := List.mem_flatMap.mp later
    simp only [List.mem_cons] at inside
    rcases inside with rfl | rfl | rest
    · exact .inl (by decide)
    · exact .inl (by decide)
    · exact words rest

/-- A number of one digit. -/
theorem decimal_digit {a : Nat} (range : 1 ≤ a ∧ a ≤ 9) :
    ∃ c : Char, decimal a = [c] ∧ c.toNat = 48 + a := by
  have all : ∀ a < 10, decimal a = [Nat.digitChar a] ∧ (Nat.digitChar a).toNat = 48 + a := by decide
  exact ⟨_, all a (by omega)⟩

/-- The line buffer receives the first class whole, with a comma behind it unless the line
    ends there. -/
theorem seenLine_classes {content : List Char} {a : Nat} {ns : List Nat} (range : 1 ≤ a ∧ a ≤ 9)
    (line : firstLine content = classesLine a ns) :
    ∃ more, seenLine content = className a ++ more ∧
      (more = [] ∨ ∃ rest, more = ',' :: rest) ∧ ∀ c ∈ seenLine content, c ∈ classesLine a ns := by
  obtain ⟨c, digit, value⟩ := decimal_digit range
  have visible : isspace c = false := isspace_of_isDigit (decimal_isDigit (n := a) (by simp [digit]))
  have clean : '\x00' ∉ firstLine content := by
    intro member
    rcases classesLine_mem (line ▸ member) with word | number
    · exact absurd word (by decide)
    · cases number
  have part : seenLine content <+: classesLine a ns := by
    rw [seenLine_take clean, line]
    exact (List.rdropWhile_prefix _ _).trans (List.take_prefix _ _)
  obtain ⟨tail, same⟩ : ∃ tail, tail = ns.flatMap fun n => ',' :: ' ' :: className n := ⟨_, rfl⟩
  have name : className a = ['C', 'l', 'a', 's', 's', ' '] ++ [c] := by rw [className, digit]
  have whole : classesLine a ns = ['C', 'l', 'a', 's', 's', ' '] ++ c :: tail := by
    rw [classesLine, name, ← same, List.append_assoc, List.singleton_append]
  have comma : tail = [] ∨ ∃ rest, tail = ',' :: rest := by
    cases ns with
    | nil => exact .inl same
    | cons b ns => exact .inr ⟨_, same⟩
  refine ⟨(tail.take 248).rdropWhile isspace, ?_, ?_, fun d member => part.subset member⟩
  · rw [seenLine_take clean, line, whole, name]
    exact rdropWhile_append_cons visible ['C', 'l', 'a', 's', 's', ' '] (tail.take 248)
  · rcases comma with rfl | ⟨rest, rfl⟩
    · exact .inl rfl
    · exact .inr ⟨_, rdropWhile_append_cons (by decide) [] (rest.take 247)⟩

/-- A remote port has the bit of the first class. -/
theorem sysReadClasses_first {sysfs : Sysfs} {dir file : CStr} {content : List Char} {a : Nat}
    {ns : List Nat} (range : 1 ≤ a ∧ a ≤ 9)
    (opened : sysfs.file (snprintf 256 (joinPath dir file)) = some content)
    (line : firstLine content = classesLine a ns) :
    (1 : UInt32) <<< UInt32.ofNat a ≤ (sysReadClassesInto sysfs dir file).classp := by
  obtain ⟨more, seen, comma, inside⟩ := seenLine_classes range line
  obtain ⟨c, digit, -⟩ := decimal_digit range
  have nonempty : content ≠ [] := by
    rintro rfl
    cases line
  have specified : strstr (seenLine content) "unspecified" = none := by
    rw [← Option.not_isSome_iff_eq_none]
    intro found
    rcases classesLine_mem (inside 'u' (strstr_subset found 'u' (by decide))) with word | number
    · exact absurd word (by decide)
    · cases number
  have item : ClassItem (className a) a := .named (digits1_full.mp
    (by simpa using digits1_decimal a stops_nil)) (by omega)
  obtain ⟨rest, items⟩ : ∃ rest, splitItems (seenLine content) = className a :: rest := by
    rcases comma with rfl | ⟨rest, rfl⟩
    · exact ⟨[], by rw [seen, List.append_nil, splitItems_single item.plain.1]⟩
    · exact ⟨_, by rw [seen, splitItems_append item.plain.1]⟩
  have rounds : classRounds ((seenLine content).length + 1) (seenLine content) =
      (UInt32.ofNat a :: (classRun rest).1, (classRun rest).2) := by
    rw [classRounds_eq (Nat.lt_succ_self _), items, classRun, if_neg, if_pos item.read.1, item.read.2]
    exact fun empty => item.plain.2.2 empty.1
  unfold sysReadClassesInto
  simp only [sysLine_eq opened, nonempty, if_false, specified, Option.isSome_none, Bool.false_eq_true,
    rounds, foldl_or, UInt32.zero_or]
  exact le_orAll (by simp)

/-- A local port has the number of the first class. -/
theorem classDigit_first {buf : List Char} {a : Nat} {more : CStr} (range : 1 ≤ a ∧ a ≤ 9)
    (line : cstr buf = className a ++ more) :
    classDigit buf = .ok (some (UInt32.ofNat a)) := by
  obtain ⟨c, digit, value⟩ := decimal_digit range
  have whole : cstr buf = ['C', 'l', 'a', 's', 's', ' ', c] ++ more := by
    rw [line, className, digit]
    rfl
  have here : buf[6]? = some c := by
    have split : cstr buf ++ buf.dropWhile (· ≠ '\x00') = buf := List.takeWhile_append_dropWhile
    rw [← split, whole]
    rfl
  have signed : signedChar c - 48 = a := by
    rw [signedChar, if_pos (by omega)]
    omega
  have found : strstr (cstr buf) "Class" = some (cstr buf) := by
    rw [whole]
    rfl
  have number : ∀ b < 10, UInt32.ofInt (b : Nat) = UInt32.ofNat b := by decide
  unfold classDigit
  simp only [found, Nat.sub_self, Nat.zero_add, here, demand_some, ok_bind, signed,
    number a (by omega)]

theorem portAttributes_classes {sysfs : Sysfs} {scratch : Scratch} {found : Identified} {dp : DirEnt}
    {attr : HbaPortAttributes} {last : List Char}
    (ran : portAttributes sysfs scratch found dp = .ok (attr, last)) :
    ∃ buf classes,
      classDigit (saSysReadLine sysfs found.hostDir "supported_classes" buf 256).2 = .ok classes ∧
        attr.portSupportedClassofService = classes.getD 0 := by
  unfold portAttributes at ran
  obtain ⟨classes, read, rest⟩ := bind_eq_ok.mp ran
  obtain ⟨count, -, rest⟩ := bind_eq_ok.mp rest
  cases rest
  exact ⟨_, classes, read, rfl⟩

/-- The local port that a call of `sysfs_scan` publishes. -/
theorem sysfsScan_published {env : Env} {dp : DirEnt} {lib lib' : Lib}
    (scanned : sysfsScan env dp lib = .ok (.published, lib')) :
    ∃ found port adPorts buf,
      identifyHost env.sysfs (env.scratch dp.dName) dp = .ok (some found) ∧
        buildPort env dp found lib.adapters.fresh lib.lports.fresh = .ok (some (port, adPorts, buf)) ∧
        lib'.lports.get lib.lports.fresh = some port := by
  have created : ∀ {ap mem status} {t t' : Lib}, adapterCreate ap mem t = .ok (status, t') →
      t'.lports = t.lports := by
    intro ap mem status t t' made
    obtain ⟨⟨index, table⟩, -, rest⟩ := bind_eq_ok.mp made
    simp only at rest
    split at rest
    · cases rest
      rfl
    · obtain ⟨adapter, -, rest⟩ := bind_eq_ok.mp rest
      cases rest
      rfl
  rw [sysfsScan] at scanned
  split at scanned
  · cases scanned
  · simp only [Arena.alloc] at scanned
    split at scanned
    · cases scanned
    · obtain ⟨found, identified, scanned⟩ := bind_eq_ok.mp scanned
      cases found with
      | none => cases scanned
      | some found =>
          obtain ⟨parts, builtPort, scanned⟩ := bind_eq_ok.mp scanned
          rcases parts with _ | ⟨port, adPorts, buf⟩
          · cases scanned
          · obtain ⟨adapter, -, scanned⟩ := bind_eq_ok.mp scanned
            obtain ⟨⟨status, last⟩, made, scanned⟩ := bind_eq_ok.mp scanned
            simp only at scanned
            split at scanned
            · cases scanned
              refine ⟨found, port, adPorts, buf, identified, builtPort, ?_⟩
              rw [created made, Arena.get_store_self]
            · obtain ⟨after, -, scanned⟩ := bind_eq_ok.mp scanned
              cases scanned

/-- A class and its bit differ. -/
theorem ofNat_lt_bit {a : Nat} (range : 1 ≤ a ∧ a ≤ 9) :
    UInt32.ofNat a < (1 : UInt32) <<< UInt32.ofNat a := by
  have all : ∀ b < 10, UInt32.ofNat b < (1 : UInt32) <<< UInt32.ofNat b := by decide
  exact all a (by omega)

/-- A local port never has the class of service that a remote port has by the same line. -/
theorem classOfService_differs {env : Env} {dp : DirEnt} {lib lib' : Lib} {port : PortInfo}
    (scanned : sysfsScan env dp lib = .ok (.published, lib'))
    (stored : lib'.lports.get lib.lports.fresh = some port) {sysfs : Sysfs} {dir file : CStr}
    {here there : List Char}
    (openedHere : env.sysfs.file (snprintf 256 (joinPath port.hostDir "supported_classes")) = some here)
    (openedThere : sysfs.file (snprintf 256 (joinPath dir file)) = some there) {a : Nat} {ns : List Nat}
    (range : ∀ n ∈ a :: ns, 1 ≤ n ∧ n ≤ 9) (lineHere : firstLine here = classesLine a ns)
    (lineThere : firstLine there = classesLine a ns) :
    port.apAttr.portSupportedClassofService ≠ (sysReadClassesInto sysfs dir file).classp := by
  have first := range a (by simp)
  have remote := sysReadClasses_first first openedThere lineThere
  obtain ⟨found, port', adPorts, last, -, built, published⟩ := sysfsScan_published scanned
  obtain rfl : port' = port := Option.some.inj (published.symm.trans stored)
  obtain ⟨⟨pap, line⟩, attributes, rest⟩ := bind_eq_ok.mp built
  obtain ⟨⟨rc, table⟩, -, rest⟩ := bind_eq_ok.mp rest
  have fields : port'.apAttr = pap ∧ port'.hostDir = found.hostDir := by
    simp only at rest
    split at rest
    · cases rest
    · cases rest
      exact ⟨rfl, rfl⟩
  obtain ⟨buf, classes, read, value⟩ := portAttributes_classes attributes
  rw [fields.2] at openedHere
  have nonempty : here ≠ [] := by
    rintro rfl
    cases lineHere
  obtain ⟨more, text, -, -⟩ := seenLine_classes first lineHere
  have seen : cstr (saSysReadLine env.sysfs found.hostDir "supported_classes" buf 256).2 =
      className a ++ more := by
    have isLine := sysLine_eq openedHere
    rw [if_neg nonempty] at isLine
    rw [(saSysReadLine_read isLine buf).2, text]
  rw [classDigit_first first seen, Except.ok.injEq] at read
  rw [fields.1, value, ← read, Option.getD_some]
  intro same
  have below := ofNat_lt_bit first
  rw [UInt32.lt_iff_toNat_lt] at below
  rw [UInt32.le_iff_toNat_le] at remote
  have numbers := congrArg UInt32.toNat same
  omega

/-- The sample system with a class of service for both ports. -/
def classSystem : Env := .withTree (.ofLists
  (("/sys/class/fc_host/host3/supported_classes".toList, "Class 3\n".toList) :: smallFiles)
  smallDirs smallLinks)

def classRport : CStr := "/sys/class/fc_remote_ports/rport-3:0-1"

private theorem classSystem_facts :
    (sysfsScan classSystem ⟨"host3", .lnk⟩ .init).toOption.map (fun r =>
      (r.1, (r.2.lports.get 0).map fun port => (port.hostDir, port.apAttr.portSupportedClassofService))) =
        some (.published, some ("/sys/class/fc_host/host3".toList, 3)) ∧
      classSystem.sysfs.file (snprintf 256 (joinPath "/sys/class/fc_host/host3" "supported_classes")) =
        some "Class 3\n" ∧
      classSystem.sysfs.file (snprintf 256 (joinPath classRport "supported_classes")) =
        some "Class 3\n" ∧
      sysReadClassesInto classSystem.sysfs classRport "supported_classes" = ⟨0, 8, [3]⟩ := by
  decide +kernel

private theorem classSystem_scanned : ∃ lib port,
    sysfsScan classSystem ⟨"host3", .lnk⟩ .init = .ok (.published, lib) ∧
      lib.lports.get Lib.init.lports.fresh = some port ∧
      classSystem.sysfs.file (snprintf 256 (joinPath port.hostDir "supported_classes")) =
        some "Class 3\n" ∧ port.apAttr.portSupportedClassofService = 3 := by
  obtain ⟨scanned, file, -⟩ := classSystem_facts
  obtain ⟨⟨exit, lib⟩, same, value⟩ := Option.map_eq_some_iff.mp scanned
  simp only [Prod.mk.injEq, Option.map_eq_some_iff] at value
  obtain ⟨rfl, port, live, dir, number⟩ := value
  exact ⟨lib, port, eq_ok_of_toOption same, live, by rw [dir, file], number⟩

theorem classOfService_differs_small : ∃ lib port,
    sysfsScan classSystem ⟨"host3", .lnk⟩ .init = .ok (.published, lib) ∧
      lib.lports.get Lib.init.lports.fresh = some port ∧
      port.apAttr.portSupportedClassofService ≠
        (sysReadClassesInto classSystem.sysfs classRport "supported_classes").classp := by
  obtain ⟨lib, port, scanned, live, file, -⟩ := classSystem_scanned
  have line : firstLine "Class 3\n".toList = classesLine 3 [] := by decide
  exact ⟨lib, port, scanned, live, classOfService_differs scanned live file classSystem_facts.2.2.1
    (by decide) line line⟩

/-- From `Class 3` a local port has class of service 3 and a remote port 8. -/
theorem classOfService_three : ∃ lib port,
    sysfsScan classSystem ⟨"host3", .lnk⟩ .init = .ok (.published, lib) ∧
      lib.lports.get Lib.init.lports.fresh = some port ∧
      classSystem.sysfs.file (snprintf 256 (joinPath port.hostDir "supported_classes")) =
        some "Class 3\n" ∧
      classSystem.sysfs.file (snprintf 256 (joinPath classRport "supported_classes")) =
        some "Class 3\n" ∧
      port.apAttr.portSupportedClassofService = 3 ∧
      (sysReadClassesInto classSystem.sysfs classRport "supported_classes").classp = 8 := by
  obtain ⟨lib, port, scanned, live, file, value⟩ := classSystem_scanned
  obtain ⟨-, -, remote, read⟩ := classSystem_facts
  exact ⟨lib, port, scanned, live, file, remote, value, by rw [read]⟩

end Hbalinux
