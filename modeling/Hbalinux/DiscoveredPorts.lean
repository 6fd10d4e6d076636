import Hbalinux.Attachment
import Hbalinux.C.Items
import Hbalinux.OpenByWwn
import Hbalinux.RportLoading
import Mathlib.Data.List.MinMax

/-! # Advertised and enumerable discovered ports

The number of discovered ports of a local port is counted when the library is loaded, by the
names in its device directory.  The ports themselves come later from the remote port directory,
where one with an unreadable attribute is dropped, and are enumerated by their rank in the table
of the local port.  So the count is right just when none is dropped.
-/

namespace Hbalinux

open Outcome

/-! ## The count -/

/-- An entry that `counting_rports` counts. -/
def countedRport (dp : DirEnt) : Bool := (strstr dp.dName "rport-").isSome

/-- The device directory of a local port as `sysfs_scan` writes it. -/
def hostDevices (port : PortInfo) : CStr := snprintf 256 (joinPath port.hostDir "device")

theorem foldl_counted (dps : List DirEnt) (count : UInt32) :
    dps.foldl (fun count dp => if countedRport dp then count + 1 else count) count =
      count + UInt32.ofNat (dps.countP countedRport) := by
  induction dps generalizing count with
  | nil => simp
  | cons dp dps ih =>
      rw [List.foldl_cons, ih, List.countP_cons]
      split
      · rw [UInt32.ofNat_add, UInt32.add_comm (UInt32.ofNat _), ← UInt32.add_assoc]
        rfl
      · rfl

theorem countingRports_total {sysfs : Sysfs} {dir : CStr} {count : UInt32}
    (counted : Except.map Prod.snd (saDirRead sysfs dir countingRports 0) = .ok count) :
    count = UInt32.ofNat ((sysfs.listing dir).countP countedRport) := by
  have walked : untilNonzero countingRports (sysfs.listing dir) 0 = .ok (0, (sysfs.listing dir).foldl
      (fun count dp => if countedRport dp then count + 1 else count) 0) :=
    untilNonzero_of_zero fun _ _ _ => rfl
  rw [saDirRead_state, walked, foldl_counted, UInt32.zero_add] at counted
  exact (Except.ok.inj counted).symm

/-- The number of discovered ports of a new local port. -/
theorem buildPort_count {env : Env} {dp : DirEnt} {found : Identified} {ap pp : Ptr} {port : PortInfo}
    {adPorts : SaTable Ptr} {buf : List Char}
    (built : buildPort env dp found ap pp = .ok (some (port, adPorts, buf))) :
    port.apAttr.numberofDiscoveredPorts =
      UInt32.ofNat ((env.sysfs.listing (hostDevices port)).countP countedRport) := by
  obtain ⟨⟨pap, line⟩, read, rest⟩ := bind_eq_ok.mp built
  obtain ⟨⟨rc, table⟩, -, rest⟩ := bind_eq_ok.mp rest
  simp only at rest
  split at rest
  · cases rest
  · cases rest
    rw [portAttributes] at read
    obtain ⟨classes, -, read⟩ := bind_eq_ok.mp read
    obtain ⟨count, counted, read⟩ := bind_eq_ok.mp read
    cases read
    exact countingRports_total counted

/-- The host directory numbers its entries differently. -/
def DistinctHosts (env : Env) : Prop :=
  (hosts env).Pairwise fun dp dq => kernIndex dp ≠ kernIndex dq

instance decidableDistinctHosts (env : Env) : Decidable (DistinctHosts env) :=
  inferInstanceAs (Decidable ((hosts env).Pairwise _))

section Loading

variable {env : Env} {lib : Lib} (few : FewAdapters env .init)
  (loaded : loadLibrary env .init = .ok lib)
include few loaded

theorem loadLibrary_counts {pp : Ptr} {port : PortInfo} (live : lib.lports.get pp = some port) :
    port.apAttr.numberofDiscoveredPorts =
      UInt32.ofNat ((env.sysfs.listing (hostDevices port)).countP countedRport) := by
  refine (loadLibrary_preserves (P := fun t => ∀ pp port, t.lports.get pp = some port →
    port.apAttr.numberofDiscoveredPorts =
      UInt32.ofNat ((env.sysfs.listing (hostDevices port)).countP countedRport))
    (.of_empty rfl rfl rfl) few loaded ?_ ?_).2 pp port live
  · intro dp _ t exit t' inv held scanned qq other there
    rcases sysfsScan_cases inv.wf scanned with
      ⟨-, table, rfl, -⟩ | ⟨-, -, found, made, adPorts, buf, adapter, -, built, -, rfl⟩
    · exact held qq other there
    · simp only [Lib.publish, Arena.get_store] at there
      split at there
      · cases there
        exact buildPort_count built
      · exact held qq other there
  · intro qq other there
    rw [Lib.init, Arena.get_empty] at there
    cases there

/-- Local ports of different hosts do not get in each other's way. -/
theorem loadLibrary_alone (distinct : DistinctHosts env) {pp : Ptr} {port : PortInfo}
    (live : lib.lports.get pp = some port) : lib.Alone pp port := by
  have numbered := (loadLibrary_passes (P := fun before t =>
    (∀ qq other, t.lports.get qq = some other → ∃ dp ∈ before, other.apKernHba = kernIndex dp) ∧
      ∀ qq other, t.lports.get qq = some other → t.Alone qq other)
    (.of_empty rfl rfl rfl) few loaded ?_ ⟨?_, ?_⟩).2
  · obtain ⟨before, -, alone⟩ := numbered
    exact alone pp port live
  · rintro before dp after listing t exit t' inv ⟨passed, alone⟩ scanned
    rcases sysfsScan_cases inv.wf scanned with
      ⟨-, table, rfl, -⟩ | ⟨-, -, found, made, adPorts, buf, adapter, -, built, -, rfl⟩
    · refine ⟨fun qq other there => ?_, alone⟩
      obtain ⟨dq, member, same⟩ := passed qq other there
      exact ⟨dq, List.mem_append_left _ member, same⟩
    · have kern := (buildPort_eq built).2.2.2.1
      -- an older local port has another host
      have older : ∀ qq other, t.lports.get qq = some other → other.apKernHba ≠ made.apKernHba := by
        intro qq other there same
        obtain ⟨dq, member, number⟩ := passed qq other there
        rw [DistinctHosts, listing, List.pairwise_append] at distinct
        exact distinct.2.2 dq member dp (List.mem_cons_self ..) (number.symm.trans (same.trans kern))
      refine ⟨fun qq other there => ?_, fun qq other there rr another there' sameKern sameIndex => ?_⟩
      · simp only [Lib.publish, Arena.get_store] at there
        split at there
        · cases there
          exact ⟨dp, by simp, kern⟩
        · obtain ⟨dq, member, same⟩ := passed qq other there
          exact ⟨dq, List.mem_append_left _ member, same⟩
      · simp only [Lib.publish, Arena.get_store] at there there'
        split at there <;> split at there'
        · rename_i first second
          rw [first, second]
        · cases there
          exact absurd sameKern (older rr another there')
        · cases there'
          exact absurd sameKern.symm (older qq other there)
        · exact alone qq other there rr another there' sameKern sameIndex
  · intro qq other there
    rw [Lib.init, Arena.get_empty] at there
    cases there
  · intro qq other there
    rw [Lib.init, Arena.get_empty] at there
    cases there

end Loading

/-! ## The remote ports of a host -/

/-- `"rport-%u:0-%u"`, as the kernel names the remote ports of a host with one channel. -/
def rportName (hba rpIndex : UInt32) : CStr :=
  "rport-".toList ++ (decimal hba.toNat ++ ':' :: ("0".toList ++ '-' :: decimal rpIndex.toNat))

-- the equation that `rw` would generate takes long, as it decodes the text
theorem rportName_eq (hba rpIndex : UInt32) : rportName hba rpIndex =
    "rport-".toList ++ (decimal hba.toNat ++ ':' :: ("0".toList ++ '-' :: decimal rpIndex.toNat)) :=
  rfl

theorem sscanf_rportName (hba rpIndex : UInt32) :
    sscanf sysfsRportFormat (rportName hba rpIndex) = [hba, 0, rpIndex] := by
  have zero : "0".toList = decimal (0 : UInt32).toNat := rfl
  have last := sscanf_decimal rpIndex [] stops_nil
  rw [List.append_nil, sscanf_nil] at last
  rw [sysfsRportFormat, rportName_eq, sscanf_lits, sscanf_decimal _ _ (stops_cons (by decide) _), sscanf_lit,
    zero, sscanf_decimal _ _ (stops_cons (by decide) _), sscanf_lit, last]

theorem rportName_length (hba rpIndex : UInt32) : (rportName hba rpIndex).length ≤ 29 := by
  have first := decimal_length (k := 10) (hba.toNat_lt.trans (by decide)) (by decide)
  have second := decimal_length (k := 10) (rpIndex.toNat_lt.trans (by decide)) (by decide)
  have lead : "rport-".toList.length = 6 := rfl
  have channel : "0".toList.length = 1 := rfl
  simp only [rportName_eq, List.length_append, List.length_cons, lead, channel]
  omega

/-- The last number in the name of an entry. -/
def rportNumber (dp : DirEnt) : UInt32 := (sscanf sysfsRportFormat dp.dName).getD 2 0

/-- The name belongs to a remote port of the same host and port. -/
def PortInfo.names (port : PortInfo) (dp : DirEnt) : Bool :=
  match sscanf sysfsRportFormat dp.dName with
  | [hba, index, _] => hba = port.apKernHba ∧ index = port.apIndex
  | _ => false

/-- The remote ports of a local port in the remote port directory. -/
def ownEntries (env : Env) (port : PortInfo) : List DirEnt :=
  (env.sysfs.listing sysfsRportRoot).filter port.names

theorem Loads.fields {env : Env} {dp : DirEnt} {rport : PortInfo} (loads : Loads env dp rport)
    (port : PortInfo) :
    port.names dp = port.belongs rport ∧ rport.apDiscIndex = rportNumber dp ∧
      rport.apAdapt = none ∧ rport.apAttr.osDeviceName = rportDir dp := by
  obtain ⟨hba, index, rpIndex, parsed, read⟩ := loads
  obtain ⟨kern, number, disc, free, path⟩ := readRport_eq read
  refine ⟨?_, ?_, free, path⟩
  · rw [PortInfo.names, parsed, PortInfo.belongs, kern, number]
  · rw [disc, rportNumber, parsed]
    rfl

/-- The path of a remote port with a regular name is not cut. -/
theorem rportDir_rportName {dp : DirEnt} {hba rpIndex : UInt32}
    (named : dp.dName = rportName hba rpIndex) :
    rportDir dp = joinPath sysfsRportRoot dp.dName := by
  have short := rportName_length hba rpIndex
  have root : sysfsRportRoot.length = 26 := rfl
  apply List.take_of_length_le
  simp only [joinPath, List.length_append, List.length_cons, named, root]
  omega

theorem dName_of_rportDir {dp dq : DirEnt} {hba rpIndex : UInt32}
    (named : dp.dName = rportName hba rpIndex) (same : rportDir dq = rportDir dp) :
    dq.dName = dp.dName := by
  have short := rportName_length hba rpIndex
  have root : sysfsRportRoot.length = 26 := rfl
  have lengths := congrArg List.length same
  rw [rportDir_rportName named] at same lengths
  rw [rportDir, snprintf] at same lengths
  simp only [joinPath, List.length_take, List.length_append, List.length_cons, named, root] at lengths
  rw [List.take_of_length_le] at same
  · simpa [joinPath] using same
  · simp only [joinPath, List.length_append, List.length_cons, root]
    omega

/-- The entry has the regular name of a remote port of the host. -/
def PortInfo.lists (port : PortInfo) (dp : DirEnt) : Bool :=
  dp.dName = rportName port.apKernHba (rportNumber dp)

/-- The device directory of the host lists `rport-H:0-N` exactly for its remote ports in the
    remote port directory. -/
structure ListsRports (env : Env) (port : PortInfo) : Prop where
  named : ∀ dp ∈ ownEntries env port, port.lists dp
  nodup : ((ownEntries env port).map DirEnt.dName).Nodup
  listed : List.Perm
    (((env.sysfs.listing (hostDevices port)).filter port.lists).map DirEnt.dName)
    ((ownEntries env port).map DirEnt.dName)

theorem listsRports_iff {env : Env} {port : PortInfo} : ListsRports env port ↔
    (∀ dp ∈ ownEntries env port, port.lists dp) ∧
      ((ownEntries env port).map DirEnt.dName).Nodup ∧
      List.Perm (((env.sysfs.listing (hostDevices port)).filter port.lists).map DirEnt.dName)
        ((ownEntries env port).map DirEnt.dName) := by
  constructor
  · rintro ⟨named, nodup, listed⟩
    exact ⟨named, nodup, listed⟩
  · rintro ⟨named, nodup, listed⟩
    exact ⟨named, nodup, listed⟩

instance decidableListsRports (env : Env) (port : PortInfo) : Decidable (ListsRports env port) :=
  decidable_of_iff _ listsRports_iff.symm

/-- How many entries are counted that do not name a remote port of the host. -/
def strayEntries (env : Env) (port : PortInfo) : Nat :=
  (env.sysfs.listing (hostDevices port)).countP fun dp => countedRport dp && !port.lists dp

theorem PortInfo.counted_of_lists {port : PortInfo} {dp : DirEnt} (lists : port.lists dp) :
    countedRport dp := by
  rw [PortInfo.lists, decide_eq_true_iff] at lists
  rw [countedRport, strstr_isSome_iff, lists]
  exact (List.prefix_append _ _).isInfix

theorem ListsRports.count {env : Env} {port : PortInfo} (lists : ListsRports env port) :
    (env.sysfs.listing (hostDevices port)).countP countedRport =
      (ownEntries env port).length + strayEntries env port := by
  have lengths := lists.listed.length_eq
  rw [List.length_map, List.length_map] at lengths
  rw [List.countP_eq_countP_filter_add _ _ port.lists, List.countP_filter (q := fun dp => !port.lists dp),
    strayEntries, ← lengths, Nat.add_right_cancel_iff, List.countP_eq_length]
  intro dp member
  exact PortInfo.counted_of_lists (List.mem_filter.mp member).2

theorem ListsRports.number {env : Env} {port : PortInfo} (lists : ListsRports env port) {dp : DirEnt}
    (own : dp ∈ ownEntries env port) : dp.dName = rportName port.apKernHba (rportNumber dp) :=
  of_decide_eq_true (lists.named dp own)

/-- The remote ports of a host have different numbers. -/
theorem ListsRports.numbers {env : Env} {port : PortInfo} (lists : ListsRports env port) :
    ((ownEntries env port).map rportNumber).Nodup := by
  have names : (ownEntries env port).map DirEnt.dName =
      ((ownEntries env port).map rportNumber).map (rportName port.apKernHba) := by
    rw [List.map_map]
    exact List.map_congr_left fun dp own => lists.number own
  exact .of_map _ (names ▸ lists.nodup)

theorem ListsRports.path {env : Env} {port : PortInfo} (lists : ListsRports env port) {dp : DirEnt}
    (own : dp ∈ ownEntries env port) : rportDir dp = joinPath sysfsRportRoot dp.dName :=
  rportDir_rportName (lists.number own)

/-- A name stands in the directory once. -/
theorem ListsRports.eq_of_dName {env : Env} {port : PortInfo} (lists : ListsRports env port)
    {dp dq : DirEnt} (own : dp ∈ ownEntries env port) (other : dq ∈ env.sysfs.listing sysfsRportRoot)
    (same : dq.dName = dp.dName) : dq = dp := by
  have own' : dq ∈ ownEntries env port := by
    rw [ownEntries, List.mem_filter] at own ⊢
    refine ⟨other, ?_⟩
    rw [PortInfo.names, same]
    exact own.2
  exact List.inj_on_of_nodup_map lists.nodup own' own same

/-! ## What is attached -/

/-- The entries that become the remote ports of a local port. -/
def enteredEntries (env : Env) (port : PortInfo) : List DirEnt :=
  ((loadable env.sysfs (env.sysfs.listing sysfsRportRoot)).take (2 ^ 31)).filter port.names

theorem enteredEntries_sublist (env : Env) (port : PortInfo) :
    (enteredEntries env port).Sublist (ownEntries env port) :=
  ((List.take_sublist _ _).trans List.filter_sublist).filter _

/-- The remote ports that a call attaches to a local port. -/
def Lib.waiting (lib : Lib) (port : PortInfo) : List Ptr :=
  lib.rportsTable.entries.filter (lib.eligible port)

def Lib.rportPath (lib : Lib) (rp : Ptr) : CStr :=
  ((lib.rports.get rp).map fun rport => rport.apAttr.osDeviceName).getD []

theorem Lib.rportPath_of_get {lib : Lib} {rport : PortInfo} {rp : Ptr}
    (live : lib.rports.get rp = some rport) : lib.rportPath rp = rport.apAttr.osDeviceName := by
  simp [Lib.rportPath, live]

section Waiting

variable {env : Env} {lib : Lib} (held : LoadedFrom env (env.sysfs.listing sysfsRportRoot) lib)
  (port : PortInfo)
include held

theorem LoadedFrom.waiting :
    List.Forall₂ (lib.ReadFrom env) (enteredEntries env port) (lib.waiting port) := by
  refine List.rel_filter ?_ held.entries
  rintro dp rp ⟨rport, live, loads⟩
  obtain ⟨names, -, free, -⟩ := loads.fields port
  have same : port.names dp = lib.eligible port rp := by
    rw [Lib.eligible_of_get live, names, free, Option.isNone_none, Bool.and_true]
  exact Bool.eq_iff_iff.mp same

theorem LoadedFrom.waiting_numbers :
    (lib.waiting port).map lib.discIndex = (enteredEntries env port).map rportNumber := by
  refine map_eq_of_forall₂ (held.waiting port) ?_
  rintro dp rp ⟨rport, live, loads⟩
  rw [Lib.discIndex_of_get live]
  exact (loads.fields port).2.1

theorem LoadedFrom.waiting_paths :
    (lib.waiting port).map lib.rportPath = (enteredEntries env port).map rportDir := by
  refine map_eq_of_forall₂ (held.waiting port) ?_
  rintro dp rp ⟨rport, live, loads⟩
  rw [Lib.rportPath_of_get live]
  exact (loads.fields port).2.2.2

variable {port}

theorem LoadedFrom.waiting_distinct (lists : ListsRports env port) : ∀ rp ∈ lib.waiting port,
    ∀ rq ∈ lib.waiting port, lib.discIndex rp = lib.discIndex rq → rp = rq := by
  have nodup : ((lib.waiting port).map lib.discIndex).Nodup := by
    rw [held.waiting_numbers]
    exact lists.numbers.sublist ((enteredEntries_sublist env port).map _)
  intro rp member rq member' same
  exact List.inj_on_of_nodup_map nodup member member' same

/-- The number of a remote port that is to be attached is that of its entry. -/
theorem LoadedFrom.waiting_number {rp : Ptr} (member : rp ∈ lib.waiting port) :
    ∃ dp ∈ enteredEntries env port, lib.discIndex rp = rportNumber dp := by
  obtain ⟨dp, entered, rport, live, loads⟩ := exists_of_forall₂ (held.waiting port).flip member
  exact ⟨dp, entered, (Lib.discIndex_of_get live).trans (loads.fields port).2.1⟩

theorem LoadedFrom.waiting_small (small : ∀ dp ∈ ownEntries env port, (rportNumber dp).toNat < 2 ^ 31) :
    ∀ rp ∈ lib.waiting port, (lib.discIndex rp).toNat < 2 ^ 31 := by
  intro rp member
  obtain ⟨dp, entered, same⟩ := held.waiting_number member
  rw [same]
  exact small dp ((enteredEntries_sublist env port).subset entered)

end Waiting

/-- A local port of a library that has been loaded and not asked for remote ports. -/
structure Fresh (lib : Lib) (pp : Ptr) (port : PortInfo) : Prop where
  sound : lib.Sound
  live : lib.lports.get pp = some port
  owner : port.apAdapt ≠ none
  table : port.apRports = saTableInit
  unread : lib.rportsTable = saTableInit
  none : lib.rports = .empty

theorem fresh_of_load {env : Env} {lib : Lib} (few : FewAdapters env .init)
    (loaded : loadLibrary env .init = .ok lib) {pp : Ptr} {port : PortInfo}
    (live : lib.lports.get pp = some port) : Fresh lib pp port := by
  have reachable : Reachable (fun _ => True) lib := .load .init trivial few loaded
  obtain ⟨unread, none⟩ := loadLibrary_rports (.of_empty rfl rfl rfl) few loaded
  obtain ⟨owner, table⟩ := allOrNothing_of_reachable reachable pp port live
  refine ⟨.of_reachable reachable, live, owner, table.resolve_right fun settled => settled.1 ?_, unread,
    none⟩
  rw [unread]
  rfl

section Fresh

variable {env : Env} {lib loaded : Lib} {pp : Ptr} {port : PortInfo}
  (mem : ∀ site, env.mem site = true) (fresh : Fresh lib pp port)
  (load : loadRports env lib = .ok loaded)
include mem fresh load

theorem Fresh.loadedFrom : LoadedFrom env (env.sysfs.listing sysfsRportRoot) loaded :=
  loadRports_exact mem fresh.sound.rports fresh.unread fresh.none load

omit mem in
theorem Fresh.live_loaded : loaded.lports.get pp = some port := by
  rw [loadRports_framed load]
  exact fresh.live

omit mem in
theorem Fresh.attached_eq : getRportInfo env pp lib =
    attachAll env pp loaded.rportsTable.entries loaded :=
  getRportInfo_eq load (loadRports_inv fresh.sound.rports load).wf

omit mem in
theorem Fresh.rportPath_attached {attached : Lib} (called : getRportInfo env pp lib = .ok attached)
    (rp : Ptr) : attached.rportPath rp = loaded.rportPath rp := by
  rw [fresh.attached_eq load] at called
  obtain ⟨owner, same⟩ := attachAll_marks called rp
  rw [Lib.rportPath, Lib.rportPath, same, Option.map_map]
  rfl

omit mem in
theorem Fresh.marked {attached : Lib} (called : getRportInfo env pp lib = .ok attached) {rp : Ptr}
    {rport : PortInfo} (here : loaded.rports.get rp = some rport) :
    ∃ owner, attached.rports.get rp = some (rport.claimedBy owner) := by
  rw [fresh.attached_eq load] at called
  obtain ⟨owner, same⟩ := attachAll_marks called rp
  exact ⟨owner, by rw [same, here, Option.map_some]⟩

/-- With small numbers a call attaches everything that is waiting. -/
theorem Fresh.attach (small : ∀ rp ∈ loaded.waiting port, (loaded.discIndex rp).toNat < 2 ^ 31)
    (distinct : ∀ rp ∈ loaded.waiting port, ∀ rq ∈ loaded.waiting port,
      loaded.discIndex rp = loaded.discIndex rq → rp = rq) :
    ∃ attached table, getRportInfo env pp lib = .ok attached ∧
      attached.lports.get pp = some (port.withRports table) ∧ table.Wf ∧
      table.entries.Perm (loaded.waiting port) := by
  have inv := loadRports_inv fresh.sound.rports load
  have wf : port.apRports.Wf := fresh.table ▸ SaTable.wf_init
  have nodup : loaded.rportsTable.entries.Nodup := SaTable.entries_nodup inv.distinct
  obtain ⟨attached, walked, after⟩ : ∃ attached, attachAll env pp loaded.rportsTable.entries loaded =
      .ok attached ∧ Attached env pp port loaded.rportsTable.entries loaded attached :=
    attachAll_spec (fresh.live_loaded load) wf nodup (fun rp => inv.live_entry)
      fun rp entry eligible => small rp (List.mem_filter.mpr ⟨entry, eligible⟩)
  refine ⟨attached, fill env loaded port.apRports (loaded.waiting port),
    (fresh.attached_eq load).trans walked, ?_, fill_wf wf small, ?_⟩
  · rw [after.lports]
    exact Arena.get_store_self _ _ _
  · have empty : ∀ d, port.apRports.view d = Option.none := by
      rw [fresh.table]
      exact SaTable.view_init
    have view : ∀ d rp, (fill env loaded port.apRports (loaded.waiting port)).view d = some rp ↔
        rp ∈ loaded.waiting port ∧ (loaded.discIndex rp).toNat = d :=
      fill_view_iff wf empty small (fun _ _ => mem _) distinct
    refine (List.perm_ext_iff_of_nodup (SaTable.entries_nodup ?_) (nodup.filter _)).mpr fun rp => ?_
    · intro i j rp first second
      exact ((view i rp).mp first).2.symm.trans ((view j rp).mp second).2
    · rw [SaTable.mem_entries]
      constructor
      · rintro ⟨d, there⟩
        exact ((view d rp).mp there).1
      · exact fun member => ⟨_, (view _ rp).mpr ⟨member, rfl⟩⟩

/-- What a local port of the same host and number attaches is gone for this one. -/
theorem Fresh.taken {qq : Ptr} {other : PortInfo} (others : Fresh lib qq other) (different : qq ≠ pp)
    (kern : other.apKernHba = port.apKernHba) (index : other.apIndex = port.apIndex)
    (small : ∀ rp ∈ loaded.waiting port, (loaded.discIndex rp).toNat < 2 ^ 31)
    (distinct : ∀ rp ∈ loaded.waiting port, ∀ rq ∈ loaded.waiting port,
      loaded.discIndex rp = loaded.discIndex rq → rp = rq) :
    ∃ taken, getRportInfo env qq lib = .ok taken ∧ getRportInfo env pp taken = .ok taken ∧
      taken.lports.get pp = some port := by
  have alike : ∀ s : Lib, s.eligible other = s.eligible port := by
    intro s
    funext rp
    simp only [Lib.eligible, PortInfo.belongs, kern, index]
  have same : loaded.waiting other = loaded.waiting port := by rw [Lib.waiting, Lib.waiting, alike]
  obtain ⟨taken, -, called, -⟩ := others.attach mem load (same ▸ small) (same ▸ distinct)
  have live : taken.lports.get pp = some port :=
    (getRportInfo_others different.symm called).trans fresh.live
  refine ⟨taken, called, ?_, live⟩
  rcases getRportInfo_settles fresh.sound.rports others.live others.owner called with
    ⟨read, settled⟩ | ⟨rfl, -⟩
  · have left : taken.Settled port := ⟨read, fun rp entry => alike taken ▸ settled rp entry⟩
    exact left.idle (getRportInfo_inv fresh.sound.rports called) live env
  · -- the directory has no remote ports at all
    rw [others.attached_eq load] at called
    have table := (attachAll_framed called).2
    rw [← table, fresh.unread, SaTable.entries_init] at called
    rw [fresh.attached_eq load, ← table, fresh.unread, SaTable.entries_init]
    exact called

/-- A remote port in the table of the local port comes from an entry of the directory. -/
theorem Fresh.entered (lists : ListsRports env port) {attached : Lib} {port' : PortInfo}
    (called : getRportInfo env pp lib = .ok attached) (live : attached.lports.get pp = some port')
    {n : UInt32} {rp : Ptr} (looked : saTableLookupN port'.apRports n = .ok (some rp)) {dp : DirEnt}
    (own : dp ∈ ownEntries env port) (path : attached.rportPath rp = rportDir dp) :
    dp ∈ enteredEntries env port ∧ port'.apRports.stTable[(rportNumber dp).toNat]? = some (some rp) := by
  have held := fresh.loadedFrom mem load
  obtain ⟨i, slot⟩ := SaTable.slot_of_lookupN looked
  obtain ⟨rport, there, -, number⟩ := (fresh.sound.attach called).own pp port' live i rp slot
  rw [fresh.attached_eq load] at called
  obtain ⟨owner, marked⟩ := attachAll_marks called rp
  cases here : loaded.rports.get rp with
  | none =>
      rw [here, there] at marked
      cases marked
  | some old =>
      rw [here, there, Option.map_some, Option.some.injEq] at marked
      obtain ⟨dq, kept, old', here', loads⟩ := exists_of_forall₂ held.entries.flip (held.listed rp old here)
      obtain rfl : old' = old := Option.some.inj (here'.symm.trans here)
      obtain ⟨-, disc, -, read⟩ := loads.fields port
      rw [Lib.rportPath_of_get there, marked] at path
      have name : dq.dName = dp.dName := dName_of_rportDir (lists.number own) (read.symm.trans path)
      have listed : dq ∈ env.sysfs.listing sysfsRportRoot :=
        List.mem_of_mem_filter (List.mem_of_mem_take kept)
      obtain rfl : dq = dp := lists.eq_of_dName own listed name
      refine ⟨List.mem_filter.mpr ⟨kept, (List.mem_filter.mp own).2⟩, ?_⟩
      rw [← disc, ← slot, ← number, marked]
      rfl

/-- Where all remote ports of the host stand in the table, their numbers are small: the one with
    the largest would not be entered. -/
theorem Fresh.small_of_entered (lists : ListsRports env port) {attached : Lib} {port' : PortInfo}
    (called : getRportInfo env pp lib = .ok attached) (live : attached.lports.get pp = some port')
    (all : ∀ dp ∈ ownEntries env port,
      ∃ rp, port'.apRports.stTable[(rportNumber dp).toNat]? = some (some rp)) :
    ∀ dp ∈ ownEntries env port, (rportNumber dp).toNat < 2 ^ 31 := by
  intro dp own
  by_contra large
  have held := fresh.loadedFrom mem load
  cases largest : (ownEntries env port).argmax fun dp => (rportNumber dp).toNat with
  | none =>
      rw [List.argmax_eq_none.mp largest] at own
      cases own
  | some top =>
      have bound : ∀ dq ∈ ownEntries env port, (rportNumber dq).toNat ≤ (rportNumber top).toNat :=
        fun dq member =>
          List.le_of_mem_argmax (f := fun dp => (rportNumber dp).toNat) member largest
      have below : Below loaded port loaded.rportsTable.entries (rportNumber top).toNat := by
        refine ⟨SaTable.entries_nodup held.inv.distinct, fun rp entry eligible => ?_,
          fun rp entry rq entry' eligible eligible' => ?_, .inl ?_, fun rp => ?_⟩
        · obtain ⟨dq, entered, same⟩ := held.waiting_number (List.mem_filter.mpr ⟨entry, eligible⟩)
          rw [same]
          exact bound dq ((enteredEntries_sublist env port).subset entered)
        · exact held.waiting_distinct lists rp (List.mem_filter.mpr ⟨entry, eligible⟩) rq
            (List.mem_filter.mpr ⟨entry', eligible'⟩)
        · rw [fresh.table]
          exact Nat.zero_le _
        · simp [fresh.table, saTableInit]
      have atTop := bound dp own
      rw [fresh.attached_eq load] at called
      obtain ⟨rp, there⟩ := all top (List.argmax_mem largest)
      exact attachAll_unentered below (by omega) (fresh.live_loaded load) called live rp there

end Fresh

/-- A lookup in a local port whose remote ports are attached. -/
theorem adapterGetRportAttr_attached {env : Env} {lib attached : Lib} {handle : HbaHandle} {pp : Ptr}
    {port : PortInfo} (found : adapterGetPort lib handle 0 = .ok (some pp))
    (called : getRportInfo env pp lib = .ok attached) (live : attached.lports.get pp = some port)
    (wf : port.apRports.Wf)
    (rports : ∀ rp ∈ port.apRports.entries, ∃ rport, attached.rports.get rp = some rport) (n : UInt32) :
    ∃ answer, adapterGetRportAttr env handle 0 n lib = .ok (answer, attached) ∧
      (answer.toOption.map fun attr => attr.osDeviceName) =
        (port.apRports.entries.map attached.rportPath)[n.toNat]? := by
  simp only [adapterGetRportAttr, adapterGetRportN, findRportOf, found, ok_bind, findRport, called,
    Lib.port, live, demand_some, SaTable.lookupN_eq wf]
  rw [List.getElem?_map]
  cases entry : port.apRports.entries[n.toNat]? with
  | none => exact ⟨_, rfl, rfl⟩
  | some rp =>
      obtain ⟨rport, here⟩ := rports rp (List.mem_of_getElem? entry)
      simp only [Lib.rport, here, demand_some, ok_bind, Option.map_some, Lib.rportPath_of_get here]
      exact ⟨_, rfl, rfl⟩

/-- What a successful lookup has found. -/
theorem adapterGetRportAttr_found {env : Env} {lib last : Lib} {handle : HbaHandle} {pp : Ptr}
    {n : UInt32} {attr : HbaPortAttributes} (found : adapterGetPort lib handle 0 = .ok (some pp))
    (asked : adapterGetRportAttr env handle 0 n lib = .ok (.ok attr, last)) :
    getRportInfo env pp lib = .ok last ∧ ∃ port rp, last.lports.get pp = some port ∧
      saTableLookupN port.apRports n = .ok (some rp) ∧ last.rportPath rp = attr.osDeviceName := by
  obtain ⟨⟨entry, mid⟩, searched, rest⟩ := bind_eq_ok.mp asked
  simp only [adapterGetRportN, findRportOf, found, ok_bind] at searched
  obtain ⟨after, called, searched⟩ := bind_eq_ok.mp searched
  obtain ⟨port, live, searched⟩ := bind_eq_ok.mp searched
  obtain ⟨rp, looked, searched⟩ := bind_eq_ok.mp searched
  cases searched
  cases entry with
  | none => cases rest
  | some rp =>
      obtain ⟨rport, here, rest⟩ := bind_eq_ok.mp rest
      cases rest
      rw [Lib.rport, demand_eq_ok] at here
      rw [Lib.port, demand_eq_ok] at live
      exact ⟨called, port, rp, live, looked, Lib.rportPath_of_get here⟩

/-! ## The advertised and the enumerated ports -/

/-- The paths of the remote ports of the host. -/
def rportPaths (env : Env) (port : PortInfo) : List CStr :=
  (ownEntries env port).map fun dp => joinPath sysfsRportRoot dp.dName

/-- The advertised number is that of `paths`, and whatever queries came before, the `n`-th
    remote port of the handle is the one at the `n`-th of them. -/
structure Enumerates (env : Env) (lib : Lib) (handle : HbaHandle) (port : PortInfo)
    (paths : List CStr) : Prop where
  counted : port.apAttr.numberofDiscoveredPorts.toNat = paths.length
  yields : ∀ queries replies later, asks env queries lib = .ok (replies, later) → ∀ n : UInt32,
    ∃ answer last, adapterGetRportAttr env handle 0 n later = .ok (answer, last) ∧
      (answer.toOption.map fun attr => attr.osDeviceName) = paths[n.toNat]?

/-- No remote port is dropped between the count and the enumeration. -/
structure NoneDropped (env : Env) (lib : Lib) (pp : Ptr) (port : PortInfo) : Prop where
  scannable : ∀ dp ∈ env.sysfs.listing sysfsRportRoot, rportNamed dp → Scannable env dp
  total : (loadable env.sysfs (env.sysfs.listing sysfsRportRoot)).length ≤ 2 ^ 32 - 16
  entered : ∀ dp ∈ ownEntries env port, dp ∈ enteredEntries env port
  small : ∀ dp ∈ ownEntries env port, (rportNumber dp).toNat < 2 ^ 31
  strays : strayEntries env port % 2 ^ 32 = 0
  alone : ownEntries env port = [] ∨ lib.Alone pp port

theorem ListsRports.paths {env : Env} {port : PortInfo} (lists : ListsRports env port) :
    (ownEntries env port).map rportDir = rportPaths env port :=
  List.map_congr_left fun _ own => lists.path own

theorem ListsRports.entered_eq {env : Env} {port : PortInfo} (lists : ListsRports env port)
    (all : ∀ dp ∈ ownEntries env port, dp ∈ enteredEntries env port) :
    enteredEntries env port = ownEntries env port := by
  have nodup : (ownEntries env port).Nodup := .of_map _ lists.nodup
  exact (enteredEntries_sublist env port).eq_of_length_le (List.subperm_of_subset nodup all).length_le

section Agreement

variable {env : Env} {lib : Lib} {handle : HbaHandle} {pp : Ptr} {port : PortInfo}
  (mem : ∀ site, env.mem site = true) (few : FewAdapters env .init)
  (init : loadLibrary env .init = .ok lib)
  (found : adapterGetPort lib handle 0 = .ok (some pp)) (live : lib.lports.get pp = some port)
  (lists : ListsRports env port)
include mem few init found live lists

/-- Where none is dropped, the paths in the order of the table are what is enumerated. -/
theorem NoneDropped.enumerates (none : NoneDropped env lib pp port) :
    ∃ paths, paths.Perm (rportPaths env port) ∧ Enumerates env lib handle port paths := by
  have fresh := fresh_of_load few init live
  obtain ⟨loaded, load⟩ := (loadRports_returns_iff mem fresh.sound.rports fresh.unread fresh.none).mpr
    ⟨none.scannable, none.total⟩
  have held := fresh.loadedFrom mem load
  have entered := lists.entered_eq none.entered
  obtain ⟨attached, table, called, liveAttached, wf, order⟩ :=
    fresh.attach mem load (held.waiting_small none.small) (held.waiting_distinct lists)
  have paths : (table.entries.map attached.rportPath).Perm (rportPaths env port) := by
    rw [← lists.paths, ← entered, ← held.waiting_paths]
    refine (order.map _).trans (.of_eq (List.map_congr_left fun rp _ => ?_))
    exact fresh.rportPath_attached load called rp
  refine ⟨table.entries.map attached.rportPath, paths, ?_, fun queries replies later asked n => ?_⟩
  · have length := paths.length_eq
    rw [rportPaths, List.length_map, List.length_map] at length
    have few' : (ownEntries env port).length ≤
        (loadable env.sysfs (env.sysfs.listing sysfsRportRoot)).length := by
      rw [← entered]
      exact (List.filter_sublist.trans (List.take_sublist _ _)).length_le
    have total := none.total
    have strays := none.strays
    rw [loadLibrary_counts few init live, UInt32.toNat_ofNat', lists.count, List.length_map, length]
    omega
  · have attaches := asks_attaches asked
    have idle : lib.Alone pp port ∨ attached = loaded := by
      refine none.alone.elim (fun empty => .inr ?_) .inl
      have waiting := held.waiting port
      rw [entered, empty, List.forall₂_nil_left_iff] at waiting
      rw [fresh.attached_eq load, attachAll_idle (fresh.live_loaded load) (fun rp => held.inv.live_entry)
        fun rp entry eligible => ?_, Except.ok.injEq] at called
      · exact called.symm
      · have there : rp ∈ loaded.waiting port := List.mem_filter.mpr ⟨entry, eligible⟩
        rw [waiting] at there
        cases there
    obtain ⟨last, calledLast, agree⟩ :=
      attaches.reaches fresh.sound live fresh.owner load called idle
    have marked : ∀ rp ∈ table.entries, ∃ rport owner, attached.rports.get rp = some rport ∧
        last.rports.get rp = some (rport.claimedBy owner) := by
      intro rp entry
      obtain ⟨rport, here⟩ :=
        held.inv.live_entry (List.mem_of_mem_filter (order.mem_iff.mp entry))
      obtain ⟨mark, there⟩ := fresh.marked load called here
      obtain ⟨owner, after⟩ := agree.rport there
      exact ⟨_, owner, there, after⟩
    have same : table.entries.map last.rportPath = table.entries.map attached.rportPath := by
      apply List.map_congr_left
      intro rp entry
      obtain ⟨rport, owner, here, there⟩ := marked rp entry
      rw [Lib.rportPath_of_get here, Lib.rportPath_of_get there]
      rfl
    obtain ⟨answer, asked, yields⟩ := adapterGetRportAttr_attached
      ((adapterGetPort_framed attaches.framed handle 0).trans found) calledLast
      (agree.port.trans liveAttached) wf
      (fun rp entry => (marked rp entry).elim fun _ after => after.elim fun _ both => ⟨_, both.2⟩) n
    exact ⟨answer, last, asked, same ▸ yields⟩

section Enumerated

variable {paths : List CStr} (order : paths.Perm (rportPaths env port))
  (enumerates : Enumerates env lib handle port paths)
include order enumerates

omit mem few init live lists order in
theorem Enumerates.attaches : ∃ attached, getRportInfo env pp lib = .ok attached := by
  obtain ⟨answer, last, asked, -⟩ := enumerates.yields [] [] lib rfl 0
  obtain ⟨⟨rp, mid⟩, searched, -⟩ := bind_eq_ok.mp asked
  simp only [adapterGetRportN, findRportOf, found, ok_bind] at searched
  exact ⟨mid, findRport_state searched⟩

/-- Each remote port of the host is found by its path. -/
theorem Enumerates.entered {loaded attached : Lib} {port' : PortInfo}
    (load : loadRports env lib = .ok loaded) (called : getRportInfo env pp lib = .ok attached)
    (live' : attached.lports.get pp = some port') {dp : DirEnt} (own : dp ∈ ownEntries env port) :
    dp ∈ enteredEntries env port ∧
      ∃ rp, port'.apRports.stTable[(rportNumber dp).toNat]? = some (some rp) := by
  have fresh := fresh_of_load few init live
  have listed : joinPath sysfsRportRoot dp.dName ∈ paths :=
    order.mem_iff.mpr (List.mem_map_of_mem own)
  obtain ⟨n, below, there⟩ := List.getElem_of_mem listed
  have bound := port.apAttr.numberofDiscoveredPorts.toNat_lt
  have index : (UInt32.ofNat n).toNat = n := by
    have counted := enumerates.counted
    rw [UInt32.toNat_ofNat']
    omega
  obtain ⟨answer, last, asked, path⟩ := enumerates.yields [] [] lib rfl (UInt32.ofNat n)
  rw [index, List.getElem?_eq_getElem below, there, ← lists.path own] at path
  cases answer with
  | error status => cases path
  | ok attr =>
      obtain ⟨again, port'', rp, live'', looked, named⟩ := adapterGetRportAttr_found found asked
      obtain rfl : last = attached := Except.ok.inj (again.symm.trans called)
      obtain rfl : port'' = port' := Option.some.inj (live''.symm.trans live')
      obtain ⟨entered, slot⟩ := fresh.entered mem load lists called live' looked own
        (named.trans (Option.some.inj path))
      exact ⟨entered, rp, slot⟩

/-- No other local port can take the remote ports away. -/
theorem Enumerates.alone {loaded : Lib} (load : loadRports env lib = .ok loaded)
    (small : ∀ dp ∈ ownEntries env port, (rportNumber dp).toNat < 2 ^ 31) :
    ownEntries env port = [] ∨ lib.Alone pp port := by
  have fresh := fresh_of_load few init live
  have held := fresh.loadedFrom mem load
  by_cases empty : ownEntries env port = []
  · exact .inl empty
  refine .inr fun qq other liveOther kern index => ?_
  by_contra different
  obtain ⟨taken, calledOther, idle, liveTaken⟩ :=
    fresh.taken mem load (fresh_of_load few init liveOther) different kern index
      (held.waiting_small small) (held.waiting_distinct lists)
  obtain ⟨i, ap, adapter, slot⟩ := fresh.sound.adapters.port_slot liveOther
  have asked : asks env [.rport (lib.handleOf ap) 0 0xffffffff] lib =
      .ok ([.port none], taken) := by
    simp only [asks, slot.ask_attached (slot.opens fresh.sound.adapters.wf) calledOther, ok_bind]
  have left : port.apRports.entries = [] := by rw [fresh.table, SaTable.entries_init]
  obtain ⟨answer, none, missing⟩ := adapterGetRportAttr_attached
    ((adapterGetPort_framed (getRportInfo_framed calledOther) handle 0).trans found) idle liveTaken
    (fresh.table ▸ SaTable.wf_init) (fun rp entry => absurd (left ▸ entry) List.not_mem_nil) 0
  obtain ⟨answer', last, one, there⟩ := enumerates.yields _ _ _ asked 0
  rw [none, Except.ok.injEq, Prod.mk.injEq] at one
  rw [← one.1, missing, left, List.map_nil, List.getElem?_nil, eq_comm,
    List.getElem?_eq_none_iff] at there
  have first : (0 : UInt32).toNat = 0 := rfl
  have length := order.length_eq
  rw [rportPaths, List.length_map] at length
  exact empty (List.eq_nil_of_length_eq_zero (by omega))

/-- What is enumerated was not dropped. -/
theorem Enumerates.noneDropped : NoneDropped env lib pp port := by
  have fresh := fresh_of_load few init live
  obtain ⟨attached, called⟩ := enumerates.attaches found
  obtain ⟨loaded, load, -⟩ := bind_eq_ok.mp called
  obtain ⟨scannable, total⟩ := (loadRports_returns_iff mem fresh.sound.rports fresh.unread
    fresh.none).mp ⟨loaded, load⟩
  obtain ⟨table, liveAttached⟩ := (getRportInfo_framed called).lports pp
  rw [live, Option.map_some] at liveAttached
  have entered : ∀ dp ∈ ownEntries env port, dp ∈ enteredEntries env port ∧
      ∃ rp, table.stTable[(rportNumber dp).toNat]? = some (some rp) :=
    fun dp => enumerates.entered mem few init found live lists order load called liveAttached
  have small := fresh.small_of_entered mem load lists called liveAttached
    fun dp own => (entered dp own).2
  refine ⟨scannable, total, fun dp own => (entered dp own).1, small, ?_,
    enumerates.alone mem few init found live lists order load small⟩
  have length := order.length_eq
  have counted := enumerates.counted
  rw [rportPaths, List.length_map] at length
  rw [loadLibrary_counts few init live, UInt32.toNat_ofNat', lists.count, length] at counted
  omega

end Enumerated

/-- The advertised number is the number of remote ports of the host, and the calls yield each of
    them once, exactly when none is dropped. -/
theorem discoveredPorts_agree_iff :
    (∃ paths, paths.Perm (rportPaths env port) ∧ Enumerates env lib handle port paths) ↔
      NoneDropped env lib pp port := by
  constructor
  · rintro ⟨paths, order, enumerates⟩
    exact enumerates.noneDropped mem few init found live lists order
  · exact fun none => none.enumerates mem few init found live lists

end Agreement

/-- The local port that loading finds first. -/
def firstPort (env : Env) : PortInfo := ((loadedState env).lports.get 0).getD .zero

/-- The one it finds next. -/
def secondPort (env : Env) : PortInfo := ((loadedState env).lports.get 1).getD .zero

private theorem twinPorts_facts :
    (∀ place ∈ [(0x100, 0, firstPort twinSystem), (0x101, 1, secondPort twinSystem)],
      adapterGetPort (loadedState twinSystem) place.1 0 = .ok (some place.2.1) ∧
        (loadedState twinSystem).lports.get place.2.1 = some place.2.2 ∧
        ListsRports twinSystem place.2.2 ∧
        (∀ dp ∈ ownEntries twinSystem place.2.2,
          dp ∈ enteredEntries twinSystem place.2.2 ∧ (rportNumber dp).toNat < 2 ^ 31) ∧
        strayEntries twinSystem place.2.2 = 0) ∧
      DistinctHosts twinSystem ∧
      (∀ dp ∈ twinSystem.sysfs.listing sysfsRportRoot,
        (sysLine twinSystem.sysfs (rportDir dp) "maxframe_size").isSome) ∧
      (loadable twinSystem.sysfs (twinSystem.sysfs.listing sysfsRportRoot)).length ≤ 2 ^ 32 - 16 ∧
      rportPaths twinSystem (firstPort twinSystem) =
        ["/sys/class/fc_remote_ports/rport-3:0-1".toList,
          "/sys/class/fc_remote_ports/rport-3:0-2".toList] ∧
      rportPaths twinSystem (secondPort twinSystem) =
        ["/sys/class/fc_remote_ports/rport-4:0-1".toList] := by
  decide +kernel

/-- The remote ports of each of two hosts are counted and enumerated. -/
theorem discoveredPorts_agree_small :
    (∃ paths, paths.Perm ["/sys/class/fc_remote_ports/rport-3:0-1".toList,
        "/sys/class/fc_remote_ports/rport-3:0-2".toList] ∧
      Enumerates twinSystem (loadedState twinSystem) 0x100 (firstPort twinSystem) paths) ∧
    ∃ paths, paths.Perm ["/sys/class/fc_remote_ports/rport-4:0-1".toList] ∧
      Enumerates twinSystem (loadedState twinSystem) 0x101 (secondPort twinSystem) paths := by
  obtain ⟨ports, distinct, scannable, total, first, second⟩ := twinPorts_facts
  have agree : ∀ place ∈ [(0x100, 0, firstPort twinSystem), (0x101, 1, secondPort twinSystem)],
      ∃ paths, paths.Perm (rportPaths twinSystem place.2.2) ∧
        Enumerates twinSystem (loadedState twinSystem) place.1 place.2.2 paths := by
    intro place member
    obtain ⟨found, live, lists, own, strays⟩ := ports place member
    refine (discoveredPorts_agree_iff (fun _ => rfl) fewAdapters_twin loadLibrary_twin found live
      lists).mpr ⟨fun dp listed _ => .inl (scannable dp listed), total, fun dp mine => (own dp mine).1,
        fun dp mine => (own dp mine).2, by simp [strays], .inr ?_⟩
    exact loadLibrary_alone fewAdapters_twin loadLibrary_twin distinct live
  have agree0 := agree (0x100, 0, firstPort twinSystem) (List.mem_cons_self ..)
  have agree1 := agree (0x101, 1, secondPort twinSystem)
    (List.mem_cons_of_mem _ (List.mem_cons_self ..))
  simp only at agree0 agree1
  rw [first] at agree0
  rw [second] at agree1
  exact ⟨agree0, agree1⟩

/-- The small system with a remote port that does not tell its node name. -/
def namelessSystem : Env := .withTree (.ofLists
  (smallFiles.filter fun file => file.1 ≠ "/sys/class/fc_remote_ports/rport-3:0-1/node_name")
  smallDirs smallLinks)

private theorem namelessSystem_facts :
    (loadLibrary namelessSystem .init).toOption.isSome = true ∧
      adapterGetPort (loadedState namelessSystem) 0x100 0 = .ok (some 0) ∧
      (loadedState namelessSystem).lports.get 0 = some (firstPort namelessSystem) ∧
      ListsRports namelessSystem (firstPort namelessSystem) ∧
      (firstPort namelessSystem).apAttr.numberofDiscoveredPorts = 1 ∧
      (adapterGetRportAttr namelessSystem 0x100 0 0 (loadedState namelessSystem)).toOption.map
        (fun reply => reply.1.toOption.isSome) = some false := by
  decide +kernel

/-- Where one remote port is advertised, asking for it must not be an error. -/
theorem not_enumerates {env : Env} {lib last : Lib} {handle : HbaHandle} {port : PortInfo}
    {status : HbaStatus} {paths : List CStr} (one : port.apAttr.numberofDiscoveredPorts = 1)
    (refused : adapterGetRportAttr env handle 0 0 lib = .ok (.error status, last)) :
    ¬ Enumerates env lib handle port paths := by
  intro enumerates
  obtain ⟨answer, last', asked, missing⟩ := enumerates.yields [] [] lib rfl 0
  rw [refused, Except.ok.injEq, Prod.mk.injEq] at asked
  rw [← asked.1] at missing
  have counted := enumerates.counted
  rw [one] at counted
  have single : (1 : UInt32).toNat = 1 := rfl
  have first : (0 : UInt32).toNat = 0 := rfl
  have past := List.getElem?_eq_none_iff.mp missing.symm
  omega

/-- A remote port without a node name is counted, but asking for it is an error. -/
theorem discoveredPorts_disagree :
    (∀ site, namelessSystem.mem site = true) ∧ FewAdapters namelessSystem .init ∧
      loadLibrary namelessSystem .init = .ok (loadedState namelessSystem) ∧
      adapterGetPort (loadedState namelessSystem) 0x100 0 = .ok (some 0) ∧
      (loadedState namelessSystem).lports.get 0 = some (firstPort namelessSystem) ∧
      ListsRports namelessSystem (firstPort namelessSystem) ∧
      (firstPort namelessSystem).apAttr.numberofDiscoveredPorts = 1 ∧
      (∃ status last, adapterGetRportAttr namelessSystem 0x100 0 0 (loadedState namelessSystem) =
        .ok (.error status, last)) ∧
      ¬ ∃ paths, paths.Perm (rportPaths namelessSystem (firstPort namelessSystem)) ∧
        Enumerates namelessSystem (loadedState namelessSystem) 0x100 (firstPort namelessSystem) paths := by
  obtain ⟨defined, found, live, lists, one, refused⟩ := namelessSystem_facts
  obtain ⟨status, last, refused⟩ : ∃ status last, adapterGetRportAttr namelessSystem 0x100 0 0
      (loadedState namelessSystem) = .ok (.error status, last) := by
    match asked : adapterGetRportAttr namelessSystem 0x100 0 0 (loadedState namelessSystem) with
    | .error fault =>
        rw [asked] at refused
        cases refused
    | .ok (.ok attr, last) =>
        rw [asked] at refused
        cases refused
    | .ok (.error status, last) => exact ⟨status, last, rfl⟩
  refine ⟨fun _ => rfl, fewAdapters_of_length SaTable.wf_init (by decide +kernel),
    eq_ok_getD defined _, found, live, lists, one, ⟨status, last, refused⟩, ?_⟩
  rintro ⟨paths, -, enumerates⟩
  exact not_enumerates one refused enumerates

end Hbalinux
