import Hbalinux.RportSpec

/-! # What loading the remote ports leaves

While memory lasts the read of the remote port directory goes through all its entries.  Those
that have the right form of name and attributes that can be read become remote ports, in the
order of the directory, until the table has used up the indices of an `int`.
-/

namespace Hbalinux

open Outcome

/-- The directory of a remote port as `sysfs_get_rport` writes it. -/
def rportDir (dp : DirEnt) : CStr := snprintf 256 (joinPath sysfsRportRoot dp.dName)

/-- The entry has the name of a remote port. -/
def rportNamed (dp : DirEnt) : Bool := (sscanf sysfsRportFormat dp.dName).length = 3

/-- The attributes without which a remote port is dropped can be read. -/
def requiredReadable (sysfs : Sysfs) (dp : DirEnt) : Bool :=
  (sysReadWwn sysfs (rportDir dp) "node_name").isSome &&
    (sysReadWwn sysfs (rportDir dp) "port_name").isSome &&
    (saSysReadU32 sysfs (rportDir dp) "port_id").isSome &&
    (saSysReadU32 sysfs (rportDir dp) "scsi_target_id").isSome &&
    (sysReadPortState sysfs (rportDir dp) "port_state").isSome &&
    (sysReadClasses sysfs (rportDir dp) "supported_classes").isSome

/-- The scan for `maxframe_size` stays inside the line buffer. -/
def Scannable (env : Env) (dp : DirEnt) : Prop :=
  (sysLine env.sysfs (rportDir dp) "maxframe_size").isSome ∨
    '\x00' ∈ (env.rportScratch dp.dName).toList

/-- The entries that become remote ports. -/
def loadable (sysfs : Sysfs) (dps : List DirEnt) : List DirEnt :=
  dps.filter fun dp => rportNamed dp && requiredReadable sysfs dp

/-- Reading a remote port faults in the scan, or tells whether the attributes could be read. -/
theorem readRport_cases (env : Env) (dp : DirEnt) (hba port rpIndex : UInt32) :
    (¬ Scannable env dp ∧ readRport env dp hba port rpIndex = .error .outOfBounds) ∨
      (Scannable env dp ∧ ∃ read, readRport env dp hba port rpIndex = .ok read ∧
        read.isSome = requiredReadable env.sysfs dp) := by
  have text := @nul_mem_saSysReadLine env.sysfs (rportDir dp) "maxframe_size".toList
    (env.rportScratch dp.dName).toList
  have dir : snprintf 256 (joinPath sysfsRportRoot dp.dName) = rportDir dp := rfl
  unfold readRport
  simp only [dir]
  by_cases scans : Scannable env dp
  · refine .inr ⟨scans, ?_⟩
    rw [if_neg (not_not_intro (text.mpr scans))]
    unfold requiredReadable
    cases sysReadWwn env.sysfs (rportDir dp) "node_name" <;>
      cases sysReadWwn env.sysfs (rportDir dp) "port_name" <;>
      cases saSysReadU32 env.sysfs (rportDir dp) "port_id" <;>
      cases saSysReadU32 env.sysfs (rportDir dp) "scsi_target_id" <;>
      cases sysReadPortState env.sysfs (rportDir dp) "port_state" <;>
      cases sysReadClasses env.sysfs (rportDir dp) "supported_classes" <;>
      exact ⟨_, rfl, rfl⟩
  · refine .inl ⟨scans, ?_⟩
    rw [if_pos (mt text.mp scans)]
    rfl

theorem rportNamed_iff {dp : DirEnt} :
    rportNamed dp ↔ ∃ hba port rpIndex, sscanf sysfsRportFormat dp.dName = [hba, port, rpIndex] := by
  rw [rportNamed, decide_eq_true_iff, List.length_eq_three]

theorem loadable_append (sysfs : Sysfs) (passed : List DirEnt) (dp : DirEnt) :
    loadable sysfs (passed ++ [dp]) = loadable sysfs passed ++
      if rportNamed dp && requiredReadable sysfs dp then [dp] else [] := by
  rw [loadable, loadable, List.filter_append, List.filter_singleton]
  cases rportNamed dp && requiredReadable sysfs dp <;> rfl

/-- The remote port at `rp` is what the entry is read as. -/
def Lib.ReadFrom (lib : Lib) (env : Env) (dp : DirEnt) (rp : Ptr) : Prop :=
  ∃ rport, lib.rports.get rp = some rport ∧ Loads env dp rport

/-- The state after the entries in `passed` have been handed to `sysfs_get_rport`. -/
structure LoadedFrom (env : Env) (passed : List DirEnt) (lib : Lib) : Prop where
  inv : RportInv lib
  aligned : 16 ∣ lib.rportsTable.stSize.toNat
  limit : lib.rportsTable.stLimit.toNat = (loadable env.sysfs passed).length
  scanned : ∀ dp ∈ passed, rportNamed dp → Scannable env dp
  listed : ∀ rp rport, lib.rports.get rp = some rport → rp ∈ lib.rportsTable.entries
  entries : List.Forall₂ (lib.ReadFrom env) ((loadable env.sysfs passed).take (2 ^ 31))
    lib.rportsTable.entries

theorem LoadedFrom.of_empty {env : Env} {lib : Lib} (inv : RportInv lib)
    (table : lib.rportsTable = saTableInit) (rports : lib.rports = .empty) :
    LoadedFrom env [] lib := by
  refine ⟨inv, ?_, ?_, fun dp member => absurd member List.not_mem_nil, fun rp rport live => ?_, ?_⟩
  · rw [table]
    exact Nat.dvd_zero 16
  · rw [table]
    rfl
  · rw [rports, Arena.get_empty] at live
    cases live
  · rw [table]
    exact .nil

section Step

variable {env : Env} {passed : List DirEnt} {dp : DirEnt} {lib : Lib}
  (mem : ∀ site, env.mem site = true) (held : LoadedFrom env passed lib)
include mem held

omit mem in
/-- An entry that does not become a remote port leaves the state as it is. -/
theorem LoadedFrom.skip (scans : rportNamed dp → Scannable env dp)
    (skipped : (rportNamed dp && requiredReadable env.sysfs dp) = false) :
    LoadedFrom env (passed ++ [dp]) lib := by
  have same : loadable env.sysfs (passed ++ [dp]) = loadable env.sysfs passed := by
    rw [loadable_append, skipped, if_neg Bool.false_ne_true, List.append_nil]
  refine ⟨held.inv, held.aligned, same ▸ held.limit, fun dq member named => ?_, held.listed,
    same ▸ held.entries⟩
  rcases List.mem_append.mp member with before | last
  · exact held.scanned dq before named
  · rw [List.mem_singleton.mp last] at named ⊢
    exact scans named

/-- One more entry. -/
theorem LoadedFrom.step {rc : Int} {lib' : Lib} (called : sysfsGetRport env dp lib = .ok (rc, lib')) :
    rc = 0 ∧ LoadedFrom env (passed ++ [dp]) lib' := by
  have inv := sysfsGetRport_inv held.inv called
  unfold sysfsGetRport at called
  split at called
  · rename_i hba port rpIndex parsed
    have named : rportNamed dp := rportNamed_iff.mpr ⟨hba, port, rpIndex, parsed⟩
    rw [mem, if_neg (by simp)] at called
    obtain ⟨read, reading, rest⟩ := bind_eq_ok.mp called
    rcases readRport_cases env dp hba port rpIndex with ⟨-, faults⟩ | ⟨scans, read', same, tells⟩
    · rw [faults] at reading
      cases reading
    obtain rfl : read' = read := Except.ok.inj (same.symm.trans reading)
    cases read' with
    | none =>
        cases rest
        exact ⟨rfl, held.skip (fun _ => scans) (by rw [← tells, Bool.and_eq_false_iff]; exact .inr rfl)⟩
    | some rport =>
        have loads : Loads env dp rport := ⟨hba, port, rpIndex, parsed, reading⟩
        have more : loadable env.sysfs (passed ++ [dp]) = loadable env.sysfs passed ++ [dp] := by
          rw [loadable_append, named, ← tells]
          rfl
        have scanned : ∀ dq ∈ passed ++ [dp], rportNamed dq → Scannable env dq := by
          intro dq member named
          rcases List.mem_append.mp member with before | last
          · exact held.scanned dq before named
          · rw [List.mem_singleton.mp last]
            exact scans
        obtain ⟨⟨code, table⟩, appended, rest⟩ := bind_eq_ok.mp rest
        have aligned := SaTable.append_aligned held.inv.wf held.aligned appended
        cases rest
        rcases SaTable.append_cases held.inv.wf appended with
          ⟨-, -, refused⟩ | ⟨failed, large, -, same, moved⟩ | ⟨done, small, rfl⟩
        · exact absurd ((mem _).symm.trans refused) (by decide)
        · rw [held.limit] at large moved
          have entries := SaTable.entries_of_moved same (moved.trans (by rw [held.limit]))
          refine ⟨rfl, inv, aligned, ?_, scanned, ?_, ?_⟩
          · rw [more, List.length_append, List.length_singleton]
            exact moved
          · rw [if_pos failed, Arena.free_store _ (Arena.get_fresh _), entries]
            exact held.listed
          · rw [more, List.take_append_of_le_length large, if_pos failed,
              Arena.free_store _ (Arena.get_fresh _), entries]
            exact held.entries
        · have few : (loadable env.sysfs passed).length < 2 ^ 31 := held.limit ▸ small
          have length : (loadable env.sysfs passed ++ [dp]).length =
              (loadable env.sysfs passed).length + 1 := by simp
          refine ⟨rfl, inv, aligned, ?_, scanned, fun q old live => ?_, ?_⟩
          · rw [more, length, ← held.limit, SaTable.limit_put small]
            omega
          · rw [if_neg (Int.not_lt.mpr done), Arena.get_store] at live
            rw [SaTable.mem_entries_append held.inv.wf small]
            split at live
            · rename_i new
              exact .inl new
            · exact .inr (held.listed q old live)
          · have before := held.entries
            rw [List.take_of_length_le (Nat.le_of_lt few)] at before
            rw [more, List.take_of_length_le (by omega), if_neg (Int.not_lt.mpr done),
              SaTable.entries_append held.inv.wf small]
            refine List.rel_append (before.imp ?_) (.cons ?_ .nil)
            · rintro dq rp ⟨old, here, read⟩
              exact ⟨old, by rw [← here]; exact Arena.get_store_ne _ (Arena.ne_fresh here), read⟩
            · exact ⟨rport, Arena.get_store_self _ _ _, loads⟩
  · rename_i other
    cases called
    have unnamed : rportNamed dp = false := by
      rw [Bool.eq_false_iff, ne_eq, rportNamed_iff]
      rintro ⟨hba, port, rpIndex, parsed⟩
      exact other hba port rpIndex parsed
    refine ⟨rfl, held.skip (fun named => ?_) ?_⟩
    · rw [unnamed] at named
      cases named
    · rw [unnamed, Bool.false_and]

omit mem in
/-- No more entries become remote ports than a table that grows in steps of 16 can index. -/
theorem LoadedFrom.bounded : (loadable env.sysfs passed).length ≤ 2 ^ 32 - 16 := by
  have ordered := UInt32.le_iff_toNat_le.mp held.inv.wf.limit
  have bound := lib.rportsTable.stSize.toNat_lt
  obtain ⟨k, multiple⟩ := held.aligned
  rw [← held.limit]
  omega

theorem LoadedFrom.returns (scans : rportNamed dp → Scannable env dp)
    (room : (loadable env.sysfs (passed ++ [dp])).length ≤ 2 ^ 32 - 16) :
    ∃ r, sysfsGetRport env dp lib = .ok r := by
  unfold sysfsGetRport
  split
  · rename_i hba port rpIndex parsed
    have named : rportNamed dp := rportNamed_iff.mpr ⟨hba, port, rpIndex, parsed⟩
    rw [mem, if_neg (by simp)]
    rcases readRport_cases env dp hba port rpIndex with ⟨faults, -⟩ | ⟨-, read, reading, tells⟩
    · exact absurd (scans named) faults
    rw [reading, ok_bind]
    cases read with
    | none => exact ⟨_, rfl⟩
    | some rport =>
        have few : lib.rportsTable.stLimit.toNat < 2 ^ 32 - 16 := by
          rw [loadable_append, named, ← tells, List.length_append] at room
          rw [held.limit]
          simp only [Option.isSome_some, Bool.and_self, if_true, List.length_singleton] at room
          omega
        obtain ⟨⟨code, table⟩, appended⟩ := SaTable.append_returns held.inv.wf few lib.rports.fresh
        rw [mem]
        simp only [Arena.alloc, appended, ok_bind]
        exact ⟨_, rfl⟩
  · exact ⟨_, rfl⟩

end Step

section Load

variable {env : Env} {lib : Lib} (mem : ∀ site, env.mem site = true) (inv : RportInv lib)
  (empty : lib.rportsTable = saTableInit) (none : lib.rports = .empty)
include mem inv empty none

/-- Loading into an empty table goes through the whole directory. -/
theorem loadRports_exact {loaded : Lib} (load : loadRports env lib = .ok loaded) :
    LoadedFrom env (env.sysfs.listing sysfsRportRoot) loaded := by
  have unread : lib.rportsTable.stSize = 0 := by
    rw [empty]
    rfl
  rw [loadRports, if_pos unread, sysfsFindRports, saDirRead_state, map_eq_ok] at load
  obtain ⟨⟨rc, last⟩, walked, rfl⟩ := load
  exact untilNonzero_passes_all (P := LoadedFrom env) (.of_empty inv empty none)
    (fun _ _ _ _ _ _ _ held called => held.step mem called) walked

/-- It returns unless a scan leaves its line buffer or the table runs out of indices. -/
theorem loadRports_returns_iff : (∃ loaded, loadRports env lib = .ok loaded) ↔
    (∀ dp ∈ env.sysfs.listing sysfsRportRoot, rportNamed dp → Scannable env dp) ∧
      (loadable env.sysfs (env.sysfs.listing sysfsRportRoot)).length ≤ 2 ^ 32 - 16 := by
  constructor
  · rintro ⟨loaded, load⟩
    have held := loadRports_exact mem inv empty none load
    exact ⟨held.scanned, held.bounded⟩
  · rintro ⟨scans, few⟩
    obtain ⟨r, walked⟩ : ∃ r, untilNonzero (sysfsGetRport env)
        (env.sysfs.listing sysfsRportRoot) lib = .ok r := by
      refine untilNonzero_returns_passing (P := LoadedFrom env) (.of_empty inv empty none) ?_
      intro before dp after listing t held
      rw [List.nil_append] at listing
      have room : (loadable env.sysfs (before ++ [dp])).length ≤ 2 ^ 32 - 16 := by
        refine Nat.le_trans (List.Sublist.length_le ?_) few
        rw [listing, List.append_cons before dp after]
        exact (List.sublist_append_left _ _).filter _
      obtain ⟨⟨code, t'⟩, called⟩ := held.returns mem (scans dp (by simp [listing])) room
      exact ⟨code, t', called, (held.step mem called).2⟩
    have unread : lib.rportsTable.stSize = 0 := by
      rw [empty]
      rfl
    refine ⟨r.2, ?_⟩
    rw [loadRports, if_pos unread, sysfsFindRports, saDirRead_state, walked]
    rfl

end Load

end Hbalinux
