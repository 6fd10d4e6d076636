import Hbalinux.ClaimMarks
import Hbalinux.Pool

/-! # The remote port directory

The first call that needs remote ports reads their directory, and fills a table which the calls
for local ports then go through.  What comes out of it can be read off the directory: a local port
has the remote ports of its host, in the order of their numbers, whatever the order in which the
directory lists them.
-/

namespace Hbalinux

open Outcome

/-! ## What the directory says -/

/-- The remote port that an entry of the directory becomes, if it becomes one. -/
def readAs (env : Env) (dp : DirEnt) : Option PortInfo :=
  match sscanf sysfsRportFormat dp.dName with
  | [hba, port, rpIndex] => (readRport env dp hba port rpIndex).toOption.join
  | _ => none

theorem readAs_eq_some {env : Env} {dp : DirEnt} {rport : PortInfo} :
    readAs env dp = some rport ↔ Loads env dp rport := by
  have joined : ∀ read : Outcome (Option PortInfo),
      read.toOption.join = some rport ↔ read = .ok (some rport) := by
    intro read
    cases read with
    | error fault => simp [Except.toOption]
    | ok rport' => simp [Except.toOption]
  rw [readAs, Loads]
  split
  · rename_i hba port rpIndex parsed
    rw [joined]
    constructor
    · exact fun read => ⟨hba, port, rpIndex, parsed, read⟩
    · rintro ⟨hba', port', rpIndex', parsed', read⟩
      rw [parsed] at parsed'
      cases parsed'
      exact read
  · rename_i other
    constructor
    · intro none
      cases none
    · rintro ⟨hba, port, rpIndex, parsed, -⟩
      exact absurd parsed (other hba port rpIndex)

theorem Loads.loadable {env : Env} {dp : DirEnt} {rport : PortInfo} (loads : Loads env dp rport) :
    (rportNamed dp && requiredReadable env.sysfs dp) = true := by
  obtain ⟨hba, port, rpIndex, parsed, read⟩ := loads
  have named : rportNamed dp = true := rportNamed_iff.mpr ⟨hba, port, rpIndex, parsed⟩
  rcases readRport_cases env dp hba port rpIndex with ⟨-, fault⟩ | ⟨-, read', same, readable⟩
  · rw [read] at fault
    cases fault
  · rw [read, Except.ok.injEq] at same
    rw [named, ← readable, ← same]
    rfl

/-- The remote ports of the directory. -/
def directoryPool (env : Env) : List PortInfo :=
  (env.sysfs.listing sysfsRportRoot).filterMap (readAs env)

/-- Those of the host of a local port, as the directory lists them. -/
def ownRports (env : Env) (port : PortInfo) : List PortInfo :=
  (directoryPool env).filter port.belongs

/-- The same in the order of their numbers, with the mark of the local port. -/
def listedRemotes (env : Env) (port : PortInfo) : List PortInfo :=
  claimedInOrder port.apAdapt (ownRports env port)

/-- All that are listed can be attached, and no number is given twice. -/
structure RegularRports (env : Env) : Prop where
  small : SmallRports env
  distinct : DistinctTriples env
  few : (loadable env.sysfs (env.sysfs.listing sysfsRportRoot)).length ≤ 2 ^ 31
  scannable : ∀ dp ∈ env.sysfs.listing sysfsRportRoot, rportNamed dp → Scannable env dp

section Regular

variable {env : Env} (regular : RegularRports env) (port : PortInfo)
include regular

theorem RegularRports.keys_nodup : ((ownRports env port).map rportKey).Nodup := by
  rw [ownRports, directoryPool, List.Nodup, List.pairwise_map, List.pairwise_filter, List.pairwise_filterMap]
  refine regular.distinct.imp ?_
  intro dp dq different rport read rport' read' own own' same
  obtain ⟨hba, index, rpIndex, parsed, first⟩ := readAs_eq_some.mp read
  obtain ⟨hba', index', rpIndex', parsed', second⟩ := readAs_eq_some.mp read'
  obtain ⟨kern, number, disc, -⟩ := readRport_eq first
  obtain ⟨kern', number', disc', -⟩ := readRport_eq second
  rw [PortInfo.belongs, decide_eq_true_iff] at own own'
  obtain rfl : hba = hba' := by rw [← kern, ← kern', own.1, own'.1]
  obtain rfl : index = index' := by rw [← number, ← number', own.2, own'.2]
  obtain rfl : rpIndex = rpIndex' := by
    rw [← disc, ← disc']
    exact UInt32.toNat_inj.mp same
  exact different hba index rpIndex parsed parsed'

/-- The directory can be read, by a process that has not read it. -/
theorem RegularRports.loads (mem : ∀ site, env.mem site = true) {lib : Lib} (inv : RportInv lib)
    (unread : lib.rportsTable = saTableInit) (none : lib.rports = .empty) :
    ∃ loaded, loadRports env lib = .ok loaded :=
  (loadRports_returns_iff mem inv unread none).mpr
    ⟨regular.scannable, regular.few.trans (by decide)⟩

end Regular

/-- What is read from the directory is the pool. -/
theorem RegularRports.loaded_pool {env : Env} (regular : RegularRports env)
    (mem : ∀ site, env.mem site = true) {lib loaded : Lib} (inv : RportInv lib)
    (unread : lib.rportsTable = saTableInit) (none : lib.rports = .empty)
    (load : loadRports env lib = .ok loaded) : loaded.pool = directoryPool env := by
  have held := loadRports_exact mem inv unread none load
  have entries := held.entries
  rw [List.take_of_length_le regular.few] at entries
  have same : loaded.rportsTable.entries.map loaded.rports.get =
      (loadable env.sysfs (env.sysfs.listing sysfsRportRoot)).map (readAs env) := by
    refine map_eq_of_forall₂ entries ?_
    rintro dp rp ⟨rport, live, loads⟩
    rw [live, readAs_eq_some.mpr loads]
  have reduced := congrArg (List.filterMap id) same
  rw [List.filterMap_map, List.filterMap_map] at reduced
  have whole : (loadable env.sysfs (env.sysfs.listing sysfsRportRoot)).filterMap (readAs env) =
      directoryPool env := by
    rw [loadable, List.filterMap_filter, directoryPool]
    refine List.filterMap_congr fun dp _ => ?_
    cases read : readAs env dp with
    | none => simp
    | some rport => rw [(readAs_eq_some.mp read).loadable, if_pos rfl]
  have unmarked : ∀ rport ∈ directoryPool env, rport.apAdapt.isNone = true := by
    intro rport member
    obtain ⟨dp, -, read⟩ := List.mem_filterMap.mp member
    rw [((readAs_eq_some.mp read).fields .zero).2.2.1]
    rfl
  exact (congrArg (List.filter _) (reduced.trans whole)).trans (List.filter_eq_self.mpr unmarked)

/-! ## Sessions -/

/-- The remote port directory has not been read. -/
structure Lib.Unread (lib : Lib) : Prop where
  table : lib.rportsTable = saTableInit
  none : lib.rports = .empty

theorem unread_of_load {env : Env} {lib : Lib} (few : FewAdapters env .init)
    (loaded : loadLibrary env .init = .ok lib) : lib.Unread :=
  (loadLibrary_rports (.of_empty rfl rfl rfl) few loaded).elim fun table none => ⟨table, none⟩

theorem Lib.Unread.blank {allowed : Env → Prop} {lib : Lib} (unread : lib.Unread)
    (reachable : Reachable allowed lib) {pp : Ptr} {port : PortInfo}
    (live : lib.lports.get pp = some port) : Blank lib pp port := by
  obtain ⟨owner, table⟩ := allOrNothing_of_reachable reachable pp port live
  refine ⟨.of_reachable reachable, live, owner, table.resolve_right fun settled => settled.1 ?_⟩
  rw [unread.table]
  rfl

/-- The adapter behind a handle, with the remote ports that the directory lists. -/
def Lib.directory (lib : Lib) (env : Env) (handle : HbaHandle) : Option AdapterView := do
  let ap ← (adapterOpenHandle lib handle).toOption.join
  let adapter ← lib.adapters.get ap
  let pp ← adapter.adPorts.view 0
  let port ← lib.lports.get pp
  some ⟨adapter.adKernIndex, port.apAttr.portWwn, listedRemotes env port⟩

section Unread

variable {env : Env} {lib : Lib} (reachable : Reachable SmallRports lib) (unread : lib.Unread)
  (mem : ∀ site, env.mem site = true) (regular : RegularRports env)
include reachable unread mem regular

theorem Lib.Unread.view_eq : lib.view env = lib.directory env := by
  obtain ⟨loaded, load⟩ :=
    regular.loads mem (rportInv_of_reachable reachable) unread.table unread.none
  funext handle
  refine Option.bind_congr fun ap _ => Option.bind_congr fun adapter _ =>
    Option.bind_congr fun pp _ => Option.bind_congr fun port live => ?_
  have inv := rportInv_of_reachable reachable
  have pool := regular.loaded_pool mem inv unread.table unread.none load
  have smallInv := loadRports_small_inv regular.small inv (smallInv_of_reachable reachable) load
  have keys : ((loaded.pool.filter port.belongs).map rportKey).Nodup := by
    rw [pool]
    exact regular.keys_nodup port
  rw [(unread.blank reachable live).attachedRemotes_eq load smallInv mem keys, pool]
  rfl

/-- The answers of a session can be read off the directories. -/
theorem Lib.Unread.asks_eq (lonely : lib.Lonely) (few : FewDevices env) {queries : List Query}
    (room : ∀ query ∈ queries, query.HasRoom) :
    ∃ last, asks env queries lib =
      .ok (queries.map (Query.meaning env (lib.directory env)), last) := by
  rw [← unread.view_eq reachable mem regular]
  exact Lib.Steady.asks_meaning ⟨.of_reachable reachable, lonely⟩ (smallInv_of_reachable reachable)
    regular.small few (regular.loads mem (rportInv_of_reachable reachable) unread.table unread.none) room

end Unread

/-- Where the remote port directory has not been read, all queries of a session are answered, and
    the answers are those that can be read off the directories. -/
theorem session_of_directory {env : Env} {lib : Lib} (reachable : Reachable SmallRports lib)
    (lonely : lib.Lonely) (unread : lib.Unread) (mem : ∀ site, env.mem site = true)
    (regular : RegularRports env) (few : FewDevices env) {queries : List Query}
    (room : ∀ query ∈ queries, query.HasRoom) :
    ∃ last, asks env queries lib =
        .ok (queries.map (Query.meaning env (lib.directory env)), last) ∧
      last.view env = lib.directory env := by
  obtain ⟨last, asked⟩ := unread.asks_eq reachable mem regular lonely few room
  refine ⟨last, asked, ?_⟩
  rw [← unread.view_eq reachable mem regular]
  exact (Lib.Steady.view_eq ⟨.of_reachable reachable, lonely⟩ asked).2

/-! ### A system with two remote ports -/

def bothRports : List DirEnt := [⟨"rport-3:0-1", .lnk⟩, ⟨"rport-3:0-2", .lnk⟩]

/-- The sample system when the second remote port has come. -/
def pairSystem : Env := .withTree (.ofLists (secondFiles ++ smallFiles)
  ((sysfsRportRoot, bothRports) :: smallDirs) smallLinks)

theorem distinctTriples_of_nodup {env : Env} (distinct : ((env.sysfs.listing sysfsRportRoot).map
    fun dp => sscanf sysfsRportFormat dp.dName).Nodup) : DistinctTriples env :=
  (List.pairwise_map.mp distinct).imp fun different _ _ _ parsed parsed' =>
    different (parsed.trans parsed'.symm)

theorem regular_pair : RegularRports pairSystem := by
  have facts : ((pairSystem.sysfs.listing sysfsRportRoot).map
        fun dp => sscanf sysfsRportFormat dp.dName).Nodup ∧
      (loadable pairSystem.sysfs (pairSystem.sysfs.listing sysfsRportRoot)).length ≤ 2 ^ 31 ∧
      ∀ dp ∈ pairSystem.sysfs.listing sysfsRportRoot,
        (sysLine pairSystem.sysfs (rportDir dp) "maxframe_size").isSome := by
    decide +kernel
  exact ⟨smallRports_of_all (by decide +kernel), distinctTriples_of_nodup facts.1, facts.2.1,
    fun dp listed _ => .inl (facts.2.2 dp listed)⟩

theorem unread_small : (loadedState smallSystem).Unread :=
  unread_of_load (fewAdapters_of_length SaTable.wf_init (by decide +kernel)) loadLibrary_small

theorem fewDevices_pair : FewDevices pairSystem := by
  rw [FewDevices]
  decide +kernel

theorem session_of_directory_small : ∃ last,
    asks pairSystem smallQueries (loadedState smallSystem) =
        .ok (smallQueries.map (Query.meaning pairSystem
          ((loadedState smallSystem).directory pairSystem)), last) ∧
      last.view pairSystem = (loadedState smallSystem).directory pairSystem :=
  session_of_directory (reachable_small_of smallRports_small) lonely_small unread_small
    (fun _ => rfl) regular_pair fewDevices_pair smallQueries_hasRoom

/-! ## Another listing of the same remote ports -/

/-- The directory lists its entries differently. -/
def Env.relisted (env : Env) (dps : List DirEnt) : Env :=
  { env with sysfs := { env.sysfs with
      dir := fun path => if path = sysfsRportRoot then some dps else env.sysfs.dir path } }

/-- What the paths in the directory of SCSI devices have in common. -/
def lunStem : CStr := "/sys/class/s".toList

theorem lunStem_other {path : CStr} (inside : lunStem <+: path) : path ≠ sysfsRportRoot := by
  rintro rfl
  revert inside
  decide

theorem lunStem_snprintf {path : CStr} {len : Nat} (room : 13 ≤ len) (inside : lunStem <+: path) :
    lunStem <+: snprintf len path :=
  List.prefix_take_iff.mpr ⟨inside, Nat.le_sub_of_add_le room⟩

theorem lunStem_joinPath {path : CStr} (inside : lunStem <+: path) (name : CStr) :
    lunStem <+: joinPath path name :=
  inside.trans (List.prefix_append _ _)

theorem lunStem_safe {path : CStr} {len srcLen : Nat} (room : 13 ≤ len) (long : 12 ≤ srcLen)
    (inside : lunStem <+: path) : lunStem <+: saStrncpySafe len path srcLen := by
  obtain ⟨rest, rfl⟩ := inside
  have length : lunStem.length = 12 := rfl
  have all : lunStem.all (fun c => decide (c ≠ '\x00')) = true := by decide
  have clean := List.all_eq_true.mp all
  have safe : lunStem.map (fun c => if isprint c then c else if isspace c then ' ' else '.') =
      lunStem := by decide
  have whole : lunStem.take srcLen = lunStem := List.take_of_length_le (by omega)
  have fits : lunStem.take (len - 1) = lunStem := List.take_of_length_le (by omega)
  rw [saStrncpySafe, List.take_append, whole, cstr, List.takeWhile_append_of_pos clean,
    List.take_append, fits, List.map_append, safe]
  exact prefix_rdropWhile (by decide) _

section Relisted

variable {env : Env} {dps : List DirEnt}

theorem saDirRead_relisted {σ : Type} {path : CStr} (other : path ≠ sysfsRportRoot)
    (func : DirEnt → σ → Outcome (Int × σ)) (arg : σ) :
    saDirRead (env.relisted dps).sysfs path func arg = saDirRead env.sysfs path func arg := by
  simp only [saDirRead, Sysfs.listing, Env.relisted, if_neg other]

theorem getBindingOsNames_relisted {names : OsNames} (inside : lunStem <+: names.ocPath)
    (dp : DirEnt) : getBindingOsNames (env.relisted dps).sysfs dp names =
      getBindingOsNames env.sysfs dp names := by
  have path : lunStem <+:
      snprintf 256 (joinPath (saStrncpySafe 256 names.ocPath 256) dp.dName) :=
    lunStem_snprintf (by decide) (lunStem_joinPath (lunStem_safe (by decide) (by decide) inside) _)
  simp only [getBindingOsNames, saDirRead_relisted (lunStem_other path)]

theorem getBindingOsNames_inside {names names' : OsNames} {sysfs : Sysfs} {dp : DirEnt} {rc : Int}
    (inside : lunStem <+: names.ocPath)
    (called : getBindingOsNames sysfs dp names = .ok (rc, names')) : lunStem <+: names'.ocPath := by
  rw [getBindingOsNames] at called
  split at called
  · split at called
    · cases called
      exact inside
    · split at called <;> cases called <;> exact inside
  · split at called
    · obtain ⟨read, -, rest⟩ := bind_eq_ok.mp called
      cases rest
      exact lunStem_safe (by decide) (by decide) (lunStem_safe (by decide) (by decide) inside)
    · cases called
      exact inside
  · cases called
    exact inside

theorem deviceNames_relisted (dName : CStr) :
    deviceNames (env.relisted dps).sysfs dName = deviceNames env.sysfs dName := by
  have inside : lunStem <+: deviceDir dName :=
    lunStem_snprintf (by decide) (lunStem_joinPath (lunStem_joinPath (by decide) _) _)
  have start : lunStem <+: saStrncpySafe 256 (deviceDir dName) 50 :=
    lunStem_safe (by decide) (by decide) inside
  rw [deviceNames, deviceNames, osNames, osNames, saDirRead_relisted (lunStem_other inside),
    saDirRead_state, saDirRead_state]
  rw [untilNonzero_congr (P := fun names => lunStem <+: names.ocPath) start
    (fun dp names inside => getBindingOsNames_relisted inside dp)
    fun dp names rc names' inside called => getBindingOsNames_inside inside called]

theorem scsiDevices_relisted (test : ScsiAddress → Bool) :
    scsiDevices (env.relisted dps).sysfs test = scsiDevices env.sysfs test := by
  have other : sysfsLunDir ≠ sysfsRportRoot := by decide
  simp only [scsiDevices, Sysfs.listing, Env.relisted, if_neg other]

theorem mappingEntry_relisted : mappingEntry (env.relisted dps) = mappingEntry env := by
  funext ver rport device
  simp only [mappingEntry, scsiIdOf, deviceNames_relisted]
  rfl

/-- The queries mean the same. -/
theorem Query.meaning_relisted (query : Query) (views : HbaHandle → Option AdapterView) :
    query.meaning (env.relisted dps) views = query.meaning env views := by
  cases query <;> simp only [Query.meaning, AdapterView.mappings, AdapterView.sgNameOf,
    AdapterView.sgName, mappingEntry_relisted, scsiDevices_relisted, deviceNames_relisted]

theorem relisted_perm {listing : List DirEnt} (listed : env.sysfs.dir sysfsRportRoot = some listing)
    (perm : dps.Perm listing) : ((env.relisted dps).sysfs.listing sysfsRportRoot).Perm
      (env.sysfs.listing sysfsRportRoot) := by
  have there : (env.relisted dps).sysfs.dir sysfsRportRoot = some dps := by
    simp only [Env.relisted, if_true]
  rw [Sysfs.listing, Sysfs.listing, there, listed]
  exact perm.filter _

theorem RegularRports.relisted (regular : RegularRports env)
    (perm : ((env.relisted dps).sysfs.listing sysfsRportRoot).Perm
      (env.sysfs.listing sysfsRportRoot)) : RegularRports (env.relisted dps) where
  small dp listed := regular.small dp (perm.mem_iff.mp listed)
  distinct := (perm.pairwise_iff fun different hba port rpIndex parsed parsed' =>
    different hba port rpIndex parsed' parsed).mpr regular.distinct
  few := by
    have length := (perm.filter fun dp =>
      rportNamed dp && requiredReadable env.sysfs dp).length_eq
    exact length.trans_le regular.few
  scannable dp listed := regular.scannable dp (perm.mem_iff.mp listed)

/-- A local port has the same remote ports. -/
theorem RegularRports.listedRemotes_relisted (regular : RegularRports env)
    (perm : ((env.relisted dps).sysfs.listing sysfsRportRoot).Perm
      (env.sysfs.listing sysfsRportRoot)) (port : PortInfo) :
    listedRemotes (env.relisted dps) port = listedRemotes env port := by
  refine inOrder_congr ?_ (List.Perm.map _ ((perm.filterMap _).filter _))
  rw [List.map_map]
  exact regular.keys_nodup port

end Relisted

/-- In whatever order the directory lists the remote ports, a session gets the same answers. -/
theorem session_relisted {env : Env} {lib : Lib} (reachable : Reachable SmallRports lib)
    (lonely : lib.Lonely) (unread : lib.Unread) (mem : ∀ site, env.mem site = true)
    (regular : RegularRports env) (few : FewDevices env) {dps dps' : List DirEnt}
    (listed : env.sysfs.dir sysfsRportRoot = some dps) (perm : dps'.Perm dps) {queries : List Query}
    (room : ∀ query ∈ queries, query.HasRoom) :
    ∃ replies last last', asks env queries lib = .ok (replies, last) ∧
      asks (env.relisted dps') queries lib = .ok (replies, last') := by
  have perm' : ((env.relisted dps').sysfs.listing sysfsRportRoot).Perm
      (env.sysfs.listing sysfsRportRoot) := relisted_perm listed perm
  have few' : FewDevices (env.relisted dps') := by
    rw [FewDevices, scsiDevices_relisted]
    exact few
  obtain ⟨last, asked⟩ := unread.asks_eq reachable mem regular lonely few room
  obtain ⟨last', asked'⟩ :=
    have mem' : ∀ site, (env.relisted dps').mem site = true := mem
    unread.asks_eq reachable mem' (regular.relisted perm') lonely few' room
  have views : lib.directory (env.relisted dps') = lib.directory env := by
    funext handle
    simp only [Lib.directory, regular.listedRemotes_relisted perm']
  have meanings : Query.meaning (env.relisted dps') = Query.meaning env := by
    funext views query
    exact query.meaning_relisted views
  rw [views, meanings] at asked'
  exact ⟨_, last, last', asked, asked'⟩

theorem session_relisted_small : ∃ replies last last',
    asks pairSystem smallQueries (loadedState smallSystem) = .ok (replies, last) ∧
      asks (pairSystem.relisted bothRports.reverse) smallQueries (loadedState smallSystem) =
        .ok (replies, last') :=
  session_relisted (reachable_small_of smallRports_small) lonely_small unread_small
    (fun _ => rfl) regular_pair fewDevices_pair (by decide +kernel)
    (List.reverse_perm bothRports) smallQueries_hasRoom

end Hbalinux
