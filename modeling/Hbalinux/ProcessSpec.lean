import Hbalinux.HostDirectory
import Hbalinux.Wants

/-! # The lives of the library in a process

A process may load and free the library again and again, while hosts and remote ports come and go
at any time.  The library looks at the remote port directory until there are remote ports in it, and
never again.  What it has read then is its cache.  Each host that is asked for takes its own out of
what goes over to the next life.  `Life.answers` and `Life.next` say so in terms of the directories
alone, and the library does this.
-/

namespace Hbalinux

open Outcome

/-! ## The lives -/

/-- From loading the library to freeing it.  Each query finds the directories as they are then. -/
structure Life where
  host : Env
  asked : List (Env × Query)

def asksAt : List (Env × Query) → Lib → Outcome (List Reply × Lib)
  | [], lib => .ok ([], lib)
  | (env, query) :: later, lib => do
      let (reply, lib) ← query.ask env lib
      let (rest, lib) ← asksAt later lib
      .ok (reply :: rest, lib)

def Life.run (life : Life) (lib : Lib) : Outcome (List Reply × Lib) := do
  let loaded ← loadLibrary life.host lib
  let (replies, used) ← asksAt life.asked loaded
  let freed ← freeLibrary used
  .ok (replies, freed)

/-- One life after the other. -/
def runLives : List Life → Lib → Outcome (List (List Reply) × Lib)
  | [], lib => .ok ([], lib)
  | life :: lives, lib => do
      let (replies, lib) ← life.run lib
      let (rest, lib) ← runLives lives lib
      .ok (replies :: rest, lib)

/-! ## What they are -/

/-- The remote ports that have been read, and the hosts that have taken theirs. -/
structure Cache where
  pool : List PortInfo
  taken : List UInt32

def Cache.take (kern : UInt32) (cache : Cache) : Cache := { cache with taken := kern :: cache.taken }

/-- The cache as a query finds it that needs remote ports; it is filled unless there is nothing. -/
def Cache.fill (env : Env) : Option Cache → Option Cache
  | some cache => some cache
  | none => if directoryPool env = [] then none else some ⟨directoryPool env, []⟩

/-- A life begins with what the lives before have left. -/
def Cache.start (before : Option (List PortInfo)) : Option Cache := before.map fun pool => ⟨pool, []⟩

/-- What is there for later lives. -/
def Cache.left (cache : Cache) : List PortInfo :=
  cache.pool.filter fun rport => !cache.taken.any fun kern => ofHost kern rport

namespace Life

/-- The adapter behind a handle. -/
def ids (life : Life) (handle : HbaHandle) : Option AdapterId := do
  let made ← (scannedHosts life.host)[(handle - adapterHandleOffset).toNat]?
  let port ← made.ports.head?
  some ⟨made.adapter.adKernIndex, port.apAttr.portWwn⟩

/-- The same adapters with the remote ports of their hosts in the pool, which carry their marks. -/
def views (life : Life) (marks : HbaHandle → Option Ptr) (pool : List PortInfo) (handle : HbaHandle) :
    Option AdapterView :=
  (life.ids handle).map fun id =>
    ⟨id.kernHba, id.portWwn, claimedInOrder (marks handle) (pool.filter (ofHost id.kernHba))⟩

/-- The cache after a query. -/
def after (life : Life) (env : Env) (query : Query) (cache : Option Cache) : Option Cache :=
  match query.wants env life.ids with
  | none => cache
  | some kern => (Cache.fill env cache).map (Cache.take kern)

def afterAll (life : Life) (asked : List (Env × Query)) (cache : Option Cache) : Option Cache :=
  asked.foldl (fun cache asked => life.after asked.1 asked.2 cache) cache

def answersFrom (life : Life) (marks : HbaHandle → Option Ptr) :
    List (Env × Query) → Option Cache → List Reply
  | [], _ => []
  | (env, query) :: later, cache =>
      query.meaning env (life.views marks ((cache.map Cache.pool).getD (directoryPool env))) ::
        answersFrom life marks later (life.after env query cache)

def answers (life : Life) (marks : HbaHandle → Option Ptr) (before : Option (List PortInfo)) :
    List Reply :=
  life.answersFrom marks life.asked (Cache.start before)

/-- What is left when the life has ended. -/
def next (life : Life) (before : Option (List PortInfo)) : Option (List PortInfo) :=
  (life.afterAll life.asked (Cache.start before)).map Cache.left

end Life

/-! ## What a life finds -/

/-- No number is given twice to the remote ports of a host. -/
def Numbered (pool : List PortInfo) : Prop :=
  ∀ kern, ((pool.filter (ofHost kern)).map rportKey).Nodup

theorem Numbered.filter {pool : List PortInfo} (numbered : Numbered pool) (keep : PortInfo → Bool) :
    Numbered (pool.filter keep) :=
  fun kern => ((List.filter_sublist.filter _).map _).nodup (numbered kern)

theorem RegularRports.numbered {env : Env} (regular : RegularRports env) : Numbered (directoryPool env) :=
  fun kern => regular.keys_nodup { PortInfo.zero with apKernHba := kern }

/-- The owner that the remote ports of an adapter are marked with. -/
def Lib.owner (lib : Lib) (handle : HbaHandle) : Option Ptr :=
  lib.adapterTable.view (handle - adapterHandleOffset).toNat

/-- The library in the middle of a life. -/
structure Serves (life : Life) (lib : Lib) : Prop where
  reachable : Reachable SmallRports lib
  lonely : lib.Lonely
  creations : lib.creations = (scannedHosts life.host).map some

namespace Serves

variable {life : Life} {lib : Lib} (serves : Serves life lib)
include serves

theorem inv : AdapterInv lib := adapterInv_of_reachable serves.reachable

/-- What is behind a handle is what became of a host. -/
theorem handle_cases (handle : HbaHandle) :
    (adapterOpenHandle lib handle = .ok none ∧ life.ids handle = none) ∨
      ∃ ap pp adapter port, adapterOpenHandle lib handle = .ok (some ap) ∧
        lib.Slot (handle - adapterHandleOffset).toNat ap pp adapter port ∧
        lib.owner handle = some ap ∧
        life.ids handle = some ⟨adapter.adKernIndex, port.apAttr.portWwn⟩ := by
  have looked : adapterOpenHandle lib handle = .ok (lib.owner handle) :=
    SaTable.lookup_eq_view serves.inv.wf _
  have here := congrArg (fun l => l[(handle - adapterHandleOffset).toNat]?) serves.creations
  simp only [Lib.creations, List.getElem?_map, serves.inv.entries_getElem?] at here
  rw [looked, Life.ids]
  unfold Lib.owner
  cases entry : lib.adapterTable.view (handle - adapterHandleOffset).toNat with
  | none =>
      rw [entry, eq_comm, Option.map_none, Option.map_eq_none_iff] at here
      rw [here]
      exact .inl ⟨rfl, rfl⟩
  | some ap =>
      obtain ⟨pp, adapter, port, slot⟩ := serves.inv.slot entry
      rw [entry, Option.map_some, slot.created_eq, eq_comm, Option.map_eq_some_iff] at here
      obtain ⟨made, host, same⟩ := here
      rw [host]
      cases same
      exact .inr ⟨ap, pp, adapter, port, rfl, slot, rfl, rfl⟩

theorem adapterId_eq : lib.adapterId = life.ids := by
  funext handle
  rcases serves.handle_cases handle with ⟨closed, none⟩ | ⟨ap, pp, adapter, port, opened, slot, -, ids⟩
  · rw [Lib.adapterId_closed closed, none]
  · rw [slot.adapterId_eq opened, ids]

theorem ready {env : Env} (small : SmallRports env) (loads : ∃ loaded, loadRports env lib = .ok loaded) :
    Ready env lib :=
  ⟨⟨.of_reachable serves.reachable, serves.lonely⟩, smallInv_of_reachable serves.reachable, small, loads⟩

/-- While no adapter has remote ports yet, the adapters of the library are those of the hosts, with
    what the pool has for them. -/
theorem view_eq {env : Env} {loaded : Lib} (blank : ∀ pp port, lib.lports.get pp = some port → Blank lib pp port)
    (mem : ∀ site, env.mem site = true) (load : loadRports env lib = .ok loaded)
    (small : SmallInv loaded) (numbered : Numbered loaded.pool) :
    lib.view env = life.views lib.owner loaded.pool := by
  funext handle
  rw [Life.views]
  rcases serves.handle_cases handle with ⟨closed, none⟩ | ⟨ap, pp, adapter, port, opened, slot, owner, ids⟩
  · rw [none, Lib.view, closed]
    rfl
  · have keys : ((loaded.pool.filter port.belongs).map rportKey).Nodup := by
      rw [slot.belongs_eq]
      exact numbered _
    have remotes := (blank pp port slot.owns.livePort).attachedRemotes_eq load small mem keys
    rw [slot.belongs_eq, slot.owns.owner] at remotes
    simp only [Lib.view, opened, Except.toOption, Option.join_some, Option.bind_eq_bind,
      Option.bind_some, slot.owns.live, slot.onlyEntry, slot.owns.livePort, remotes, ids, owner,
      Option.map_some]

theorem ask {env : Env} {query : Query} {reply : Reply} {lib' : Lib} (small : SmallRports env)
    (asked : query.ask env lib = .ok (reply, lib')) : Serves life lib' ∧ lib'.owner = lib.owner := by
  have framed := (ask_attaches asked).framed
  refine ⟨⟨.ask serves.reachable small asked, serves.lonely.framed framed,
    framed.creations_eq.trans serves.creations⟩, ?_⟩
  funext handle
  rw [Lib.owner, Lib.owner, framed.adapterTable]

end Serves

/-! ## One query -/

theorem Lib.Unread.not_filled {lib : Lib} (unread : lib.Unread) : ¬ lib.Filled := by
  rw [Lib.Filled, unread.table]
  exact fun filled => filled rfl

/-- A directory without remote ports leaves the library as it was. -/
theorem loadRports_bare {env : Env} {lib loaded : Lib} (bare : directoryPool env = [])
    (load : loadRports env lib = .ok loaded) : loaded = lib := by
  unfold loadRports at load
  split at load
  · refine saDirRead_preserves (P := fun t => t = lib) ?_ rfl load
    rintro dp listed t rc t' rfl called
    have unread : ¬ ∃ rport, readAs env dp = some rport := by
      rintro ⟨rport, read⟩
      have member : rport ∈ directoryPool env := List.mem_filterMap.mpr ⟨dp, listed, read⟩
      rw [bare] at member
      cases member
    rw [sysfsGetRport] at called
    split at called
    · rename_i hba port rpIndex parsed
      split at called
      · cases called
        rfl
      · obtain ⟨read, reading, rest⟩ := bind_eq_ok.mp called
        cases read with
        | none =>
            cases rest
            rfl
        | some rport =>
            exact absurd ⟨rport, readAs_eq_some.mpr ⟨hba, port, rpIndex, parsed, reading⟩⟩ unread
    · cases called
      rfl
  · exact (Except.ok.inj load).symm

/-- What the library has of the remote ports is what the cache says. -/
def Lib.Caches (life : Life) (lib : Lib) : Option Cache → Prop
  | none => lib.Unread ∧ ∀ pp port, lib.lports.get pp = some port → Blank lib pp port
  | some cache => lib.Filled ∧ lib.pool = cache.left ∧ ∀ env, (∀ site, env.mem site = true) →
      lib.view env = life.views lib.owner cache.pool

/-- The directories can be read, and the buffer is as large as it says. -/
structure RegularAt (env : Env) (query : Query) : Prop where
  mem : ∀ site, env.mem site = true
  rports : RegularRports env
  devices : FewDevices env
  room : query.HasRoom

theorem Cache.left_take (cache : Cache) (kern : UInt32) :
    (cache.take kern).left = cache.left.filter fun rport => !ofHost kern rport := by
  rw [Cache.left, Cache.left, List.filter_filter, Cache.take]
  refine List.filter_congr fun rport _ => ?_
  rw [List.any_cons, Bool.not_or]

theorem Cache.left_nil (pool : List PortInfo) : (Cache.mk pool []).left = pool :=
  List.filter_eq_self.mpr fun _ _ => rfl

section Ask

variable {life : Life} {lib lib' : Lib} {env : Env} {query : Query} {reply : Reply}
  (serves : Serves life lib) (regular : RegularAt env query)
include serves regular

theorem Serves.ready_of_caches {cache : Option Cache} (caches : lib.Caches life cache) :
    Ready env lib := by
  refine serves.ready regular.rports.small ?_
  cases cache with
  | none =>
      exact regular.rports.loads regular.mem (rportInv_of_reachable serves.reachable) caches.1.table
        caches.1.none
  | some cache => exact ⟨lib, caches.1.load env⟩

/-- A query finds the remote ports of the cache, or else of the directory. -/
theorem Serves.view_of_caches {cache : Option Cache} (caches : lib.Caches life cache) :
    lib.view env = life.views lib.owner ((cache.map Cache.pool).getD (directoryPool env)) := by
  cases cache with
  | some cache => exact caches.2.2 env regular.mem
  | none =>
      have inv := rportInv_of_reachable serves.reachable
      obtain ⟨loaded, load⟩ := (serves.ready_of_caches regular caches).loads
      have pool := regular.rports.loaded_pool regular.mem inv caches.1.table caches.1.none load
      have small := loadRports_small_inv regular.rports.small inv
        (smallInv_of_reachable serves.reachable) load
      rw [serves.view_eq caches.2 regular.mem load small (pool ▸ regular.rports.numbered), pool]
      rfl

variable (asked : query.ask env lib = .ok (reply, lib'))
include asked

/-- The first query that finds remote ports fills the cache. -/
theorem Serves.fills (caches : lib.Caches life none) (nonempty : directoryPool env ≠ []) {kern : UInt32}
    (wants : query.wants env life.ids = some kern) :
    lib'.Caches life (some (Cache.take kern ⟨directoryPool env, []⟩)) := by
  have ready := serves.ready_of_caches regular caches
  have inv := rportInv_of_reachable serves.reachable
  obtain ⟨loaded, load⟩ := ready.loads
  have pool := regular.rports.loaded_pool regular.mem inv caches.1.table caches.1.none load
  rw [← serves.adapterId_eq] at wants
  obtain ⟨pp, calls⟩ := (query.looks_iff serves.inv regular.devices).mp (Option.isSome_of_eq_some wants)
  have filled : lib'.Filled :=
    ready.ask_fills asked load (.of_pool (loadRports_inv inv load) (pool ▸ nonempty)) calls
  refine ⟨filled, ?_, fun env' mem => ?_⟩
  · have taken := ready.ask_poolIn asked (query.claims_iff serves.inv regular.devices)
    rw [Lib.poolIn_of_load (filled.load env), Lib.poolIn_of_load load, pool] at taken
    rw [taken, Cache.left_take, Cache.left_nil]
    simp only [wants, Option.any_some]
  · obtain ⟨qq, ahead⟩ := ready.steady.ahead asked
    have same : env'.mem = env.mem := funext fun site => (mem site).trans (regular.mem site).symm
    rw [filled.view_eq same, ahead.view_eq, serves.view_of_caches regular caches,
      (serves.ask regular.rports.small asked).2]
    rfl

/-- Later queries only take their own out of what is left. -/
theorem Serves.takes {cache : Cache} (caches : lib.Caches life (some cache)) {kern : UInt32}
    (wants : query.wants env life.ids = some kern) :
    lib'.Caches life (some (cache.take kern)) := by
  have ready := serves.ready_of_caches regular caches
  obtain ⟨filled, pool, view⟩ := caches
  have filled' := ready.ask_filled asked filled
  rw [← serves.adapterId_eq] at wants
  refine ⟨filled', ?_, fun env' mem => ?_⟩
  · have taken := ready.ask_poolIn asked (query.claims_iff serves.inv regular.devices)
    rw [Lib.poolIn_of_load (filled'.load env), Lib.poolIn_of_load (filled.load env), pool] at taken
    rw [taken, Cache.left_take]
    simp only [wants, Option.any_some]
  · obtain ⟨qq, ahead⟩ := ready.steady.ahead asked
    have same : env'.mem = env.mem := funext fun site => (mem site).trans (regular.mem site).symm
    rw [filled'.view_eq same, ahead.view_eq, view env regular.mem,
      (serves.ask regular.rports.small asked).2]
    rfl

/-- A query leaves in the cache what it should. -/
theorem Serves.caches_after {cache : Option Cache} (caches : lib.Caches life cache) :
    lib'.Caches life (life.after env query cache) := by
  have ready := serves.ready_of_caches regular caches
  rw [Life.after]
  cases wants : query.wants env life.ids with
  | none =>
      have idle : ∀ pp, ¬ query.CallsFor env lib pp := by
        intro pp calls
        have looks := (query.looks_iff serves.inv regular.devices).mpr ⟨pp, calls⟩
        rw [serves.adapterId_eq, wants] at looks
        cases looks
      rw [ready.ask_idle asked idle]
      exact caches
  | some kern =>
      cases cache with
      | some cache => exact serves.takes regular asked caches wants
      | none =>
          by_cases bare : directoryPool env = []
          · obtain ⟨loaded, load⟩ := ready.loads
            obtain rfl := loadRports_bare bare load
            have unchanged : Cache.fill env none = none := if_pos bare
            rw [ready.ask_bare asked load caches.1.not_filled]
            simp only [unchanged]
            exact caches
          · have filled : Cache.fill env none = some ⟨directoryPool env, []⟩ := if_neg bare
            simp only [filled]
            exact serves.fills regular asked caches bare wants

end Ask

/-- A query is answered from the cache. -/
theorem Serves.ask_cached {life : Life} {lib : Lib} {env : Env} {query : Query} {cache : Option Cache}
    (serves : Serves life lib) (caches : lib.Caches life cache) (regular : RegularAt env query) :
    ∃ lib', query.ask env lib = .ok (query.meaning env
        (life.views lib.owner ((cache.map Cache.pool).getD (directoryPool env))), lib') ∧
      Serves life lib' ∧ lib'.owner = lib.owner ∧ lib'.Caches life (life.after env query cache) := by
  have ready := serves.ready_of_caches regular caches
  obtain ⟨lib', asked⟩ := ask_meaning ready.steady.sound ready.smallInv ready.small regular.devices
    ready.loads regular.room
  rw [serves.view_of_caches regular caches] at asked
  obtain ⟨serves', owner⟩ := serves.ask regular.rports.small asked
  exact ⟨lib', asked, serves', owner, serves.caches_after regular asked caches⟩

theorem Serves.asksAt {life : Life} {lib : Lib} {cache : Option Cache} (serves : Serves life lib)
    (caches : lib.Caches life cache) {asked : List (Env × Query)}
    (regular : ∀ at' ∈ asked, RegularAt at'.1 at'.2) :
    ∃ used, Hbalinux.asksAt asked lib = .ok (life.answersFrom lib.owner asked cache, used) ∧
      Serves life used ∧ used.Caches life (life.afterAll asked cache) := by
  induction asked generalizing lib cache with
  | nil => exact ⟨lib, rfl, serves, caches⟩
  | cons at' asked ih =>
      obtain ⟨env, query⟩ := at'
      obtain ⟨mid, answered, serves', owner, caches'⟩ :=
        serves.ask_cached caches (regular _ List.mem_cons_self)
      obtain ⟨used, later, final⟩ :=
        ih serves' caches' fun other member => regular other (List.mem_cons_of_mem _ member)
      refine ⟨used, ?_, final⟩
      rw [owner] at later
      simp only [Hbalinux.asksAt, answered, later, ok_bind]
      rfl

/-! ## Lives -/

/-- The library holds the pool; where there is none no remote port has been read. -/
def Lib.Holds (lib : Lib) : Option (List PortInfo) → Prop
  | none => lib.Unread
  | some pool => lib.Filled ∧ lib.pool = pool ∧ Numbered pool

/-- The library between two lives. -/
structure Rests (before : Option (List PortInfo)) (lib : Lib) : Prop where
  reachable : Reachable SmallRports lib
  empty : lib = Lib.init.over lib
  holds : lib.Holds before

/-- A life in which nothing fails. -/
structure Life.Regular (life : Life) : Prop where
  memHost : ∀ site, life.host.mem site = true
  few : (hosts life.host).length < 2 ^ 31
  distinct : DistinctHosts life.host
  loads : ∃ fresh, loadLibrary life.host .init = .ok fresh
  small : SmallRports life.host
  asked : ∀ asked ∈ life.asked, RegularAt asked.1 asked.2

theorem Rests.load {life : Life} (regular : life.Regular) {before : Option (List PortInfo)} {lib : Lib}
    (rests : Rests before lib) :
    ∃ loaded, loadLibrary life.host lib = .ok loaded ∧ Serves life loaded ∧ loaded.Holds before ∧
      ∀ pp port, loaded.lports.get pp = some port → Blank loaded pp port := by
  obtain ⟨fresh, load⟩ := regular.loads
  have loaded : loadLibrary life.host lib = .ok (fresh.over lib) := by
    rw [rests.empty, loadLibrary_over, load]
    rfl
  have wf : lib.adapterTable.Wf := by
    rw [rests.empty]
    exact SaTable.wf_init
  have few : FewAdapters life.host lib := by
    refine fewAdapters_of_length wf ?_
    rw [rests.empty]
    exact (Nat.zero_add _).trans_lt regular.few
  have fewInit : FewAdapters life.host .init :=
    fewAdapters_of_length SaTable.wf_init ((Nat.zero_add _).trans_lt regular.few)
  have reachable : Reachable SmallRports (fresh.over lib) :=
    .load rests.reachable regular.small few loaded
  have reachableFresh : Reachable SmallRports fresh := .load .init regular.small fewInit load
  have lonely : fresh.Lonely := lonely_of_load regular.distinct fewInit load
  refine ⟨_, loaded, ⟨reachable, lonely, (loadLibrary_creations regular.memHost regular.few load).2⟩,
    ?_, fun pp port live => ?_⟩
  · have holds := rests.holds
    cases before with
    | none => exact ⟨holds.table, holds.none⟩
    | some pool => exact holds
  · have blank := (unread_of_load fewInit load).blank reachableFresh live
    exact ⟨.of_reachable reachable, live, blank.owner, blank.table⟩

/-- A life begins with a cache that nobody has taken from. -/
theorem Serves.caches_of_holds {life : Life} {lib : Lib} {before : Option (List PortInfo)}
    (serves : Serves life lib) (holds : lib.Holds before)
    (blank : ∀ pp port, lib.lports.get pp = some port → Blank lib pp port) :
    lib.Caches life (Cache.start before) := by
  cases before with
  | none => exact ⟨holds, blank⟩
  | some pool =>
      obtain ⟨filled, rfl, numbered⟩ := holds
      exact ⟨filled, (Cache.left_nil _).symm, fun env mem => serves.view_eq blank mem (filled.load env)
        (smallInv_of_reachable serves.reachable) numbered⟩

theorem Life.numbered_after {life : Life} {env : Env} {query : Query} (regular : RegularAt env query)
    {cache : Option Cache} (numbered : ∀ c ∈ cache, Numbered c.pool) :
    ∀ c ∈ life.after env query cache, Numbered c.pool := by
  intro c here
  rw [Life.after] at here
  split at here
  · exact numbered c here
  · obtain ⟨filled, fill, rfl⟩ := Option.map_eq_some_iff.mp here
    cases cache with
    | some cache =>
        cases fill
        exact numbered filled rfl
    | none =>
        rw [Cache.fill] at fill
        split at fill
        · cases fill
        · cases fill
          exact regular.rports.numbered

theorem Life.numbered_afterAll {life : Life} {asked : List (Env × Query)}
    (regular : ∀ at' ∈ asked, RegularAt at'.1 at'.2) {cache : Option Cache}
    (numbered : ∀ c ∈ cache, Numbered c.pool) : ∀ c ∈ life.afterAll asked cache, Numbered c.pool := by
  induction asked generalizing cache with
  | nil => exact numbered
  | cons at' asked ih =>
      exact ih (fun other member => regular other (List.mem_cons_of_mem _ member))
        (life.numbered_after (regular at' List.mem_cons_self) numbered)

/-- A life that begins in a library at rest answers from its cache and leaves what it should. -/
theorem Rests.run {life : Life} (regular : life.Regular) {before : Option (List PortInfo)} {lib : Lib}
    (rests : Rests before lib) :
    ∃ marks last, life.run lib = .ok (life.answers marks before, last) ∧
      Rests (life.next before) last := by
  obtain ⟨loaded, load, serves, holds, blank⟩ := rests.load regular
  obtain ⟨used, asked, serves', caches⟩ :=
    serves.asksAt (serves.caches_of_holds holds blank) regular.asked
  have freed : freeLibrary used = .ok (Lib.init.over used) := freeLibrary_eq serves'.inv
  refine ⟨loaded.owner, Lib.init.over used, ?_, .free serves'.reachable freed, rfl, ?_⟩
  · simp only [Life.run, load, asked, freed, ok_bind]
    rfl
  · have numbered : ∀ c ∈ Cache.start before, Numbered c.pool := by
      intro c here
      obtain ⟨pool, rfl, rfl⟩ := Option.map_eq_some_iff.mp here
      exact holds.2.2
    have numbered' := life.numbered_afterAll regular.asked numbered
    rw [Life.next]
    cases after : life.afterAll life.asked (Cache.start before) with
    | none =>
        rw [after] at caches
        exact ⟨caches.1.table, caches.1.none⟩
    | some cache =>
        rw [after] at caches
        exact ⟨caches.1, caches.2.1, (numbered' cache after).filter _⟩

theorem Rests.init : Rests none .init := ⟨.init, rfl, rfl, rfl⟩

/-- The pool after some lives. -/
def poolAfter (lives : List Life) (before : Option (List PortInfo)) : Option (List PortInfo) :=
  lives.foldl (fun before life => life.next before) before

/-- What a process may be told in its lives, from the pools it has in them. -/
inductive Tells : Option (List PortInfo) → List Life → List (List Reply) → Prop where
  | nil (before) : Tells before [] []
  | cons {before life lives replies} (marks : HbaHandle → Option Ptr)
      (later : Tells (life.next before) lives replies) :
      Tells before (life :: lives) (life.answers marks before :: replies)

/-- A process can go on from any library at rest. -/
theorem Rests.runLives {lives : List Life} (regular : ∀ life ∈ lives, life.Regular)
    {before : Option (List PortInfo)} {lib : Lib} (rests : Rests before lib) :
    ∃ replies last, Hbalinux.runLives lives lib = .ok (replies, last) ∧ Tells before lives replies ∧
      Rests (poolAfter lives before) last := by
  induction lives generalizing before lib with
  | nil => exact ⟨[], lib, rfl, .nil before, rests⟩
  | cons life lives ih =>
      obtain ⟨marks, mid, ran, rests'⟩ := rests.run (regular life List.mem_cons_self)
      obtain ⟨replies, last, later, tells, rests''⟩ :=
        ih (fun other member => regular other (List.mem_cons_of_mem _ member)) rests'
      refine ⟨_, last, ?_, .cons marks tells, rests''⟩
      simp only [Hbalinux.runLives, ran, later, ok_bind]

/-- Whatever lives a process has, and however the directories change meanwhile, all of its queries
    are answered, as from a cache that is filled once and of which a life leaves to the next what
    has not been taken. -/
theorem process_refines {lives : List Life} (regular : ∀ life ∈ lives, life.Regular) :
    ∃ replies last, runLives lives .init = .ok (replies, last) ∧ Tells none lives replies ∧
      last.Holds (poolAfter lives none) := by
  obtain ⟨replies, last, ran, tells, rests⟩ := Rests.init.runLives regular
  exact ⟨replies, last, ran, tells, rests.holds⟩

/-! ### A process with the sample system -/

/-- The second remote port comes after the first query. -/
def smallLife : Life := ⟨smallSystem, [(smallSystem, .rportAttr 0x100 0 0), (pairSystem, .rport 0x100 0 2)]⟩

theorem regularAt_small : RegularAt smallSystem (.rportAttr 0x100 0 0) := by
  have facts : ((smallSystem.sysfs.listing sysfsRportRoot).map
        fun dp => sscanf sysfsRportFormat dp.dName).Nodup ∧
      (loadable smallSystem.sysfs (smallSystem.sysfs.listing sysfsRportRoot)).length ≤ 2 ^ 31 ∧
      (scsiDevices smallSystem.sysfs fun _ => true).length < 2 ^ 32 ∧
      ∀ dp ∈ smallSystem.sysfs.listing sysfsRportRoot,
        (sysLine smallSystem.sysfs (rportDir dp) "maxframe_size").isSome := by
    decide +kernel
  exact ⟨fun _ => rfl, ⟨smallRports_small, distinctTriples_of_nodup facts.1, facts.2.1,
    fun dp listed _ => .inl (facts.2.2.2 dp listed)⟩, facts.2.2.1, trivial⟩

theorem regular_small : smallLife.Regular := by
  have facts : (hosts smallSystem).length < 2 ^ 31 ∧ DistinctHosts smallSystem := by decide +kernel
  refine ⟨fun _ => rfl, facts.1, facts.2, ⟨_, loadLibrary_small⟩, smallRports_small, fun asked member => ?_⟩
  rw [smallLife, List.mem_cons, List.mem_singleton] at member
  rcases member with rfl | rfl
  · exact regularAt_small
  · exact ⟨fun _ => rfl, regular_pair, fewDevices_pair, trivial⟩

theorem regular_smallLives (n : Nat) : ∀ life ∈ List.replicate n smallLife, life.Regular := by
  intro life member
  rw [List.eq_of_mem_replicate member]
  exact regular_small

theorem process_refines_small : ∃ replies last,
    runLives (List.replicate 2 smallLife) .init = .ok (replies, last) ∧
      Tells none (List.replicate 2 smallLife) replies ∧
      last.Holds (poolAfter (List.replicate 2 smallLife) none) :=
  process_refines (regular_smallLives 2)

/-! ## What becomes of a host -/

/-- A cache in which nothing is left of the host. -/
def Cache.Lacks (kern : UInt32) (cache : Cache) : Prop := cache.left.filter (ofHost kern) = []

/-- What has been taken does not come back. -/
theorem Cache.Lacks.afterAll {life : Life} {asked : List (Env × Query)} {kern : UInt32} {cache : Cache}
    (lacks : cache.Lacks kern) :
    ∃ later, life.afterAll asked (some cache) = some later ∧ later.Lacks kern := by
  induction asked generalizing cache with
  | nil => exact ⟨cache, rfl, lacks⟩
  | cons at' asked ih =>
      have step : ∃ c, life.after at'.1 at'.2 (some cache) = some c ∧ c.Lacks kern := by
        rw [Life.after]
        split
        · exact ⟨cache, rfl, lacks⟩
        · rename_i other _
          refine ⟨cache.take other, rfl, ?_⟩
          rw [Cache.Lacks, Cache.left_take]
          exact List.sublist_nil.mp (lacks ▸ List.filter_sublist.filter _)
      obtain ⟨c, after, lacks'⟩ := step
      obtain ⟨later, rest, gone⟩ := ih lacks'
      refine ⟨later, ?_, gone⟩
      rw [Life.afterAll, List.foldl_cons, after]
      exact rest

/-- What is told last is told from the pool that the lives before have left. -/
theorem Tells.last {before : Option (List PortInfo)} {lives : List Life} {last : Life}
    {replies : List (List Reply)} (tells : Tells before (lives ++ [last]) replies) :
    ∃ earlier marks, replies = earlier ++ [last.answers marks (poolAfter lives before)] := by
  induction lives generalizing before replies with
  | nil =>
      cases tells with
      | cons marks later =>
          cases later
          exact ⟨[], marks, rfl⟩
  | cons life lives ih =>
      cases tells with
      | cons _ later =>
          obtain ⟨earlier, marks, rfl⟩ := ih later
          exact ⟨_ :: earlier, marks, rfl⟩

end Hbalinux
