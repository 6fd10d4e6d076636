import Hbalinux.Partition

/-! # Claim marks

A remote port is marked as claimed before it is entered in the table of its local
port, and the mark outlives the local port.  A process is followed through the
rounds of the loop in `get_rport_info`: a marked remote port can be found as long as
every insert stores its entry and the library is freed only while nothing is marked.
-/

namespace Hbalinux

open Outcome

/-- Every remote port with a claim mark is found at its index in the table of its local port. -/
def Findable (lib : Lib) : Prop :=
  ∀ rp ∈ lib.rportsTable.entries, ∀ rport, lib.rports.get rp = some rport → rport.apAdapt ≠ none →
    ∃ pp port, lib.lports.get pp = some port ∧ port.apKernHba = rport.apKernHba ∧
      port.apIndex = rport.apIndex ∧
      saTableLookup port.apRports rport.apDiscIndex = .ok (some rp)

/-- The remote port directory names no host, port and index twice. -/
def DistinctTriples (env : Env) : Prop :=
  (env.sysfs.listing sysfsRportRoot).Pairwise fun dp dq => ∀ hba port rpIndex,
    sscanf sysfsRportFormat dp.dName = [hba, port, rpIndex] →
    sscanf sysfsRportFormat dq.dName ≠ [hba, port, rpIndex]

/-- What a process does: load and free the library, read the remote port directory, and go
    once round the loop of `get_rport_info` for the local port `pp` and the entry `rp`. -/
inductive Act where
  | load (env : Env)
  | free
  | readRports (env : Env)
  | claim (env : Env) (pp rp : Ptr)

namespace Act

def run : Act → Lib → Outcome Lib
  | load env, lib => loadLibrary env lib
  | free, lib => freeLibrary lib
  | readRports env, lib => loadRports env lib
  | claim env pp rp, lib => claimRport env pp rp lib

/-- The act can come up in the state. -/
def Occurs : Act → Lib → Prop
  | load env, lib => FewAdapters env lib
  | free, _ => True
  | readRports env, _ => DistinctTriples env
  | claim _ _ rp, lib => rp ∈ lib.rportsTable.entries

/-- An insert has room for the entry and can return its index, and nothing is marked when the
    library is freed. -/
def Safe : Act → Lib → Prop
  | load _, _ => True
  | free, lib => ∀ rp ∈ lib.rportsTable.entries, ∀ rport, lib.rports.get rp = some rport →
      rport.apAdapt = none
  | readRports _, _ => True
  | claim env pp rp, lib => ∀ port rport, lib.lports.get pp = some port →
      lib.rports.get rp = some rport → lib.eligible port rp →
      rport.apDiscIndex.toNat < 2 ^ 31 ∧
        (rport.apDiscIndex < port.apRports.stSize ∨ env.mem (.discoveredSlot rp) = true)

end Act

/-- The states of a process whose acts are all admitted where they come up. -/
inductive RunsTo (admitted : Act → Lib → Prop) : Lib → Prop where
  | init : RunsTo admitted .init
  | act {lib lib'} (a : Act) (before : RunsTo admitted lib) (met : admitted a lib)
      (ran : a.run lib = .ok lib') : RunsTo admitted lib'

/-- A walk over entries goes round the loop once for each. -/
theorem RunsTo.attachAll {lib lib' : Lib} {env : Env} {pp : Ptr} {rps : List Ptr}
    (before : RunsTo Act.Occurs lib) (entries : ∀ rp ∈ rps, rp ∈ lib.rportsTable.entries)
    (attached : Hbalinux.attachAll env pp rps lib = .ok lib') : RunsTo Act.Occurs lib' := by
  induction rps generalizing lib with
  | nil =>
      cases attached
      exact before
  | cons rp rps ih =>
      rw [List.forall_mem_cons] at entries
      rw [Hbalinux.attachAll, List.foldlM_cons, bind_eq_ok] at attached
      obtain ⟨mid, claimed, rest⟩ := attached
      refine ih (.act (.claim env pp rp) before entries.1 claimed) ?_ rest
      rw [(claimRport_framed claimed).2]
      exact entries.2

/-- A call of `get_rport_info` is made up of such acts. -/
theorem RunsTo.getRportInfo {lib lib' : Lib} {env : Env} {pp : Ptr} (inv : RportInv lib)
    (distinct : DistinctTriples env) (before : RunsTo Act.Occurs lib)
    (called : Hbalinux.getRportInfo env pp lib = .ok lib') : RunsTo Act.Occurs lib' := by
  obtain ⟨loaded, load, -⟩ := bind_eq_ok.mp called
  rw [getRportInfo_eq load (loadRports_inv inv load).wf] at called
  have read : RunsTo Act.Occurs loaded := .act (.readRports env) before distinct load
  exact read.attachAll (fun _ entry => entry) called

/-- Every reachable state is one of a process. -/
theorem RunsTo.of_reachable {lib : Lib} (reachable : Reachable DistinctTriples lib) :
    RunsTo Act.Occurs lib := by
  induction reachable with
  | init => exact .init
  | load _ _ few loaded ih => exact .act (.load _) ih few loaded
  | free _ freed ih => exact .act .free ih trivial freed
  | ask before distinct asked ih =>
      exact ((ask_attaches asked).preserves (P := fun t => RportInv t ∧ RunsTo Act.Occurs t)
        (fun pp a b kept called => ⟨getRportInfo_inv kept.1 called,
          kept.2.getRportInfo kept.1 distinct called⟩) ⟨rportInv_of_reachable before, ih⟩).2

/-- No two loaded remote ports have host, port and index in common. -/
def Lib.Triples (lib : Lib) : Prop :=
  ∀ rp ∈ lib.rportsTable.entries, ∀ rq ∈ lib.rportsTable.entries, ∀ rport rport',
    lib.rports.get rp = some rport → lib.rports.get rq = some rport' →
    rport.apKernHba = rport'.apKernHba → rport.apIndex = rport'.apIndex →
    rport.apDiscIndex = rport'.apDiscIndex → rp = rq

/-- The entries of the remote port table come from the directory entries passed so far. -/
structure Passed (passed : List DirEnt) (lib : Lib) : Prop where
  inv : RportInv lib
  triples : lib.Triples
  named : ∀ rp ∈ lib.rportsTable.entries, ∀ rport, lib.rports.get rp = some rport →
    ∃ dp ∈ passed, sscanf sysfsRportFormat dp.dName =
      [rport.apKernHba, rport.apIndex, rport.apDiscIndex]

/-- One more entry of the directory. -/
theorem Passed.step {passed after : List DirEnt} {dp : DirEnt} {env : Env} {lib lib' : Lib} {rc : Int}
    (held : Passed passed lib) (distinct : DistinctTriples env)
    (listing : env.sysfs.listing sysfsRportRoot = passed ++ dp :: after)
    (called : sysfsGetRport env dp lib = .ok (rc, lib')) : Passed (passed ++ [dp]) lib' := by
  have inv := sysfsGetRport_inv held.inv called
  rcases sysfsGetRport_cases held.inv.wf called with
    ⟨table, wf, same, rfl⟩ | ⟨rport, ⟨hba, port, rpIndex, parsed, read⟩, small, rfl⟩
  · have entries : ∀ rp, rp ∈ table.entries ↔ rp ∈ lib.rportsTable.entries := by
      intro rp
      rw [SaTable.mem_entries, SaTable.mem_entries, same]
    refine ⟨inv, fun rp entry rq entry' => ?_, fun rp entry rport live => ?_⟩
    · exact held.triples rp ((entries rp).mp entry) rq ((entries rq).mp entry')
    · obtain ⟨dq, member, name⟩ := held.named rp ((entries rp).mp entry) rport live
      exact ⟨dq, List.mem_append_left _ member, name⟩
  · obtain ⟨kern, index, disc, -⟩ := readRport_eq read
    -- an older entry has another name, and so another triple
    have other : ∀ rq ∈ lib.rportsTable.entries, ∀ rport', lib.rports.get rq = some rport' →
        rport.apKernHba = rport'.apKernHba → rport.apIndex = rport'.apIndex →
        rport.apDiscIndex ≠ rport'.apDiscIndex := by
      intro rq entry rport' live sameKern sameIndex sameDisc
      obtain ⟨dq, member, name⟩ := held.named rq entry rport' live
      rw [DistinctTriples, listing, List.pairwise_append] at distinct
      rw [← sameKern, ← sameIndex, ← sameDisc, kern, index, disc] at name
      exact distinct.2.2 dq member dp (List.mem_cons_self ..) _ _ _ name parsed
    have old : ∀ {rq rport'}, rq ≠ lib.rports.fresh →
        (lib.rports.store lib.rports.fresh rport).get rq = some rport' →
        lib.rports.get rq = some rport' := by
      intro rq rport' new live
      rwa [Arena.get_store_ne _ new] at live
    have entries := SaTable.mem_entries_append held.inv.wf small lib.rports.fresh
    have earlier : ∀ {rq}, rq ∈ (lib.rportsTable.put lib.rportsTable.stLimit
        (some lib.rports.fresh)).entries → rq ≠ lib.rports.fresh → rq ∈ lib.rportsTable.entries :=
      fun entry new => ((entries _).mp entry).resolve_left new
    refine ⟨inv, fun rp entry rq entry' a b live live' sameKern sameIndex sameDisc => ?_,
      fun rp entry a live => ?_⟩
    · by_cases new : rp = lib.rports.fresh <;> by_cases new' : rq = lib.rports.fresh
      · rw [new, new']
      · rw [new, Arena.get_store_self] at live
        cases live
        exact absurd sameDisc (other rq (earlier entry' new') b (old new' live') sameKern sameIndex)
      · rw [new', Arena.get_store_self] at live'
        cases live'
        exact absurd sameDisc.symm
          (other rp (earlier entry new) a (old new live) sameKern.symm sameIndex.symm)
      · exact held.triples rp (earlier entry new) rq (earlier entry' new') a b (old new live)
          (old new' live') sameKern sameIndex sameDisc
    · by_cases new : rp = lib.rports.fresh
      · rw [new, Arena.get_store_self] at live
        cases live
        exact ⟨dp, by simp, by rw [parsed, kern, index, disc]⟩
      · obtain ⟨dq, member, name⟩ := held.named rp (earlier entry new) a (old new live)
        exact ⟨dq, List.mem_append_left _ member, name⟩

/-- Reading the directory leaves different triples. -/
theorem loadRports_triples {env : Env} {lib loaded : Lib} (inv : RportInv lib) (triples : lib.Triples)
    (distinct : DistinctTriples env) (load : loadRports env lib = .ok loaded) : loaded.Triples := by
  unfold loadRports at load
  split at load
  · rename_i empty
    have entries : lib.rportsTable.entries = [] := by
      rw [SaTable.eq_init inv.wf empty, SaTable.entries_init]
    rw [sysfsFindRports, saDirRead_state, map_eq_ok] at load
    obtain ⟨⟨rc, last⟩, walked, rfl⟩ := load
    have start : Passed [] lib :=
      ⟨inv, triples, fun rp entry => absurd (entries ▸ entry) List.not_mem_nil⟩
    obtain ⟨passed, held⟩ := untilNonzero_passes rfl start
      (fun before dp after listing t code t' held _ called => held.step distinct listing called) walked
    exact held.triples
  · cases load
    exact triples

/-- What the acts of a process keep while they are safe. -/
structure ClaimInv (lib : Lib) : Prop where
  rports : RportInv lib
  triples : lib.Triples
  tables : ∀ pp port, lib.lports.get pp = some port →
    port.apRports.Wf ∧ port.apRports.stLimit.toNat ≤ 2 ^ 31
  /-- Whatever a table holds has been claimed. -/
  held : ∀ pp port, lib.lports.get pp = some port → ∀ d rp,
    port.apRports.stTable[(d : Nat)]? = some (some rp) →
    ∃ rport, lib.rports.get rp = some rport ∧ rport.apAdapt ≠ none
  findable : Findable lib

theorem ClaimInv.of_empty {lib : Lib} (rports : RportInv lib) (triples : lib.Triples) (lports : lib.lports = .empty)
    (unmarked : ∀ rp ∈ lib.rportsTable.entries, ∀ rport, lib.rports.get rp = some rport →
      rport.apAdapt = none) : ClaimInv lib where
  rports := rports
  triples := triples
  tables pp port live := by
    rw [lports, Arena.get_empty] at live
    cases live
  held pp port live := by
    rw [lports, Arena.get_empty] at live
    cases live
  findable rp entry rport live marked := absurd (unmarked rp entry rport live) marked

theorem ClaimInv.init : ClaimInv .init := by
  refine .of_empty .init ?_ rfl ?_
  · intro rp entry
    rw [Lib.init, SaTable.entries_init] at entry
    cases entry
  · intro rp entry
    rw [Lib.init, SaTable.entries_init] at entry
    cases entry

/-- A new local port comes with an empty table. -/
theorem ClaimInv.publish {lib : Lib} (inv : ClaimInv lib) {adapter : AdapterInfo} {port : PortInfo}
    (fresh : port.apRports = saTableInit) :
    ClaimInv (lib.publish adapter port) := by
  have cases_live : ∀ {P : PortInfo → Prop}, P port → (∀ pp other, lib.lports.get pp = some other →
      P other) → ∀ pp other, (lib.publish adapter port).lports.get pp = some other → P other := by
    intro P new old pp other live
    simp only [Lib.publish, Arena.get_store] at live
    split at live
    · cases live
      exact new
    · exact old pp other live
  refine ⟨inv.rports.congr rfl rfl, inv.triples, ?_, ?_, ?_⟩
  · apply cases_live
    · rw [fresh]
      exact ⟨SaTable.wf_init, by decide⟩
    · exact inv.tables
  · apply cases_live
    · intro d rp slot
      rw [fresh] at slot
      simp [saTableInit] at slot
    · exact inv.held
  · intro rp entry rport live marked
    obtain ⟨pp, other, here, rest⟩ := inv.findable rp entry rport live marked
    refine ⟨pp, other, ?_, rest⟩
    rw [← here]
    exact Arena.get_store_ne _ (Arena.ne_fresh here)

theorem ClaimInv.load {env : Env} {lib lib' : Lib} (adapters : AdapterInv lib) (inv : ClaimInv lib)
    (few : FewAdapters env lib) (loaded : loadLibrary env lib = .ok lib') : ClaimInv lib' := by
  refine (loadLibrary_preserves adapters few loaded (fun dp _ t exit t' adapters held scanned => ?_)
    inv).2
  rcases sysfsScan_cases adapters.wf scanned with
    ⟨-, table, rfl, -⟩ | ⟨-, -, found, port, adPorts, buf, adapter, -, built, -, rfl⟩
  · exact ⟨held.rports.congr rfl rfl, held.triples, held.tables, held.held, held.findable⟩
  · exact held.publish (buildPort_eq built).2.2.2.2

/-- No remote port is lost or changed, and none with a mark is new. -/
structure SameMarks (lib lib' : Lib) : Prop where
  kept : ∀ rp rport, lib.rports.get rp = some rport → lib'.rports.get rp = some rport
  marks : ∀ rp ∈ lib'.rportsTable.entries, ∀ rport, lib'.rports.get rp = some rport →
    rport.apAdapt ≠ none → rp ∈ lib.rportsTable.entries ∧ lib.rports.get rp = some rport

theorem SameMarks.refl (lib : Lib) : SameMarks lib lib :=
  ⟨fun _ _ live => live, fun _ entry _ live _ => ⟨entry, live⟩⟩

theorem SameMarks.trans {a b c : Lib} (first : SameMarks a b) (second : SameMarks b c) :
    SameMarks a c := by
  refine ⟨fun rp rport live => second.kept rp rport (first.kept rp rport live), ?_⟩
  intro rp entry rport live marked
  obtain ⟨entry', live'⟩ := second.marks rp entry rport live marked
  exact first.marks rp entry' rport live' marked

/-- A remote port that is read has no mark. -/
theorem sysfsGetRport_marks {env : Env} {dp : DirEnt} {lib lib' : Lib} {rc : Int} (inv : RportInv lib)
    (called : sysfsGetRport env dp lib = .ok (rc, lib')) : SameMarks lib lib' := by
  rcases sysfsGetRport_cases inv.wf called with
    ⟨table, wf, same, rfl⟩ | ⟨rport, ⟨hba, port, rpIndex, parsed, read⟩, small, rfl⟩
  · refine ⟨fun _ _ live => live, fun rp entry rport live _ => ⟨?_, live⟩⟩
    rw [SaTable.mem_entries] at entry ⊢
    rwa [← same]
  · refine ⟨fun rp held live => ?_, fun rp entry held live marked => ?_⟩
    · rw [← live]
      exact Arena.get_store_ne _ (Arena.ne_fresh live)
    · by_cases new : rp = lib.rports.fresh
      · rw [new, Arena.get_store_self] at live
        cases live
        exact absurd (readRport_eq read).2.2.2.1 marked
      · rw [SaTable.mem_entries_append inv.wf small] at entry
        rw [Arena.get_store_ne _ new] at live
        exact ⟨entry.resolve_left new, live⟩

theorem loadRports_marks {env : Env} {lib loaded : Lib} (inv : RportInv lib)
    (load : loadRports env lib = .ok loaded) : SameMarks lib loaded := by
  unfold loadRports at load
  split at load
  · exact (saDirRead_preserves (P := fun t => RportInv t ∧ SameMarks lib t)
      (fun _ _ _ _ _ kept called => ⟨sysfsGetRport_inv kept.1 called,
        kept.2.trans (sysfsGetRport_marks kept.1 called)⟩) ⟨inv, .refl lib⟩ load).2
  · cases load
    exact .refl lib

theorem ClaimInv.readRports {env : Env} {lib loaded : Lib} (inv : ClaimInv lib)
    (distinct : DistinctTriples env) (load : loadRports env lib = .ok loaded) : ClaimInv loaded := by
  have lports : loaded.lports = lib.lports := by rw [loadRports_framed load]
  obtain ⟨kept, marks⟩ := loadRports_marks inv.rports load
  refine ⟨loadRports_inv inv.rports load, loadRports_triples inv.rports inv.triples distinct load,
    ?_, ?_, ?_⟩
  · rw [lports]
    exact inv.tables
  · rw [lports]
    intro pp port live d rp slot
    obtain ⟨rport, here, marked⟩ := inv.held pp port live d rp slot
    exact ⟨rport, kept rp rport here, marked⟩
  · intro rp entry rport live marked
    obtain ⟨before, here⟩ := marks rp entry rport live marked
    rw [lports]
    exact inv.findable rp before rport here marked

/-- The remote port at `rp` is claimed for the local port at `pp`, and its insert succeeds. -/
structure Entering (env : Env) (pp rp : Ptr) (lib : Lib) (port rport : PortInfo) : Prop where
  inv : ClaimInv lib
  entry : rp ∈ lib.rportsTable.entries
  owner : port.apAdapt ≠ none
  livePort : lib.lports.get pp = some port
  live : lib.rports.get rp = some rport
  eligible : lib.eligible port rp
  small : rport.apDiscIndex.toNat < 2 ^ 31
  room : rport.apDiscIndex < port.apRports.stSize ∨ env.mem (.discoveredSlot rp) = true

section Entering

variable {env : Env} {pp rp : Ptr} {lib : Lib} {port rport : PortInfo}

theorem Entering.belongs (entering : Entering env pp rp lib port rport) :
    rport.apKernHba = port.apKernHba ∧ rport.apIndex = port.apIndex := by
  have eligible := entering.eligible
  rw [Lib.eligible_of_get entering.live, Bool.and_eq_true, PortInfo.belongs_iff] at eligible
  exact eligible.1

theorem Entering.stored (entering : Entering env pp rp lib port rport) :
    port.apRports.tryPut rport.apDiscIndex (some rp) (env.mem (.discoveredSlot rp)) =
      port.apRports.put rport.apDiscIndex (some rp) := by
  rw [SaTable.tryPut, if_neg]
  rintro ⟨full, failed⟩
  rcases entering.room with inside | succeeds
  · exact UInt32.not_le.mpr inside full
  · rw [succeeds] at failed
    cases failed

/-- The table of the local port afterwards. -/
theorem Entering.table (entering : Entering env pp rp lib port rport) :
    (lib.claim env pp rp port rport).lports.get pp =
      some (port.withRports (port.apRports.put rport.apDiscIndex (some rp))) := by
  rw [← entering.stored]
  exact Arena.get_store_self _ _ _

theorem Lib.claim_lports {qq : Ptr} (other : qq ≠ pp) :
    (lib.claim env pp rp port rport).lports.get qq = lib.lports.get qq := Arena.get_store_ne _ other

theorem Lib.claim_mark : (lib.claim env pp rp port rport).rports.get rp =
    some { rport with apAdapt := port.apAdapt } := Arena.get_store_self _ _ _

theorem Lib.claim_rports {q : Ptr} (other : q ≠ rp) :
    (lib.claim env pp rp port rport).rports.get q = lib.rports.get q := Arena.get_store_ne _ other

/-- A claim changes nothing but the mark of a remote port. -/
theorem Entering.triple (entering : Entering env pp rp lib port rport) {q : Ptr} {a : PortInfo}
    (here : (lib.claim env pp rp port rport).rports.get q = some a) :
    ∃ old, lib.rports.get q = some old ∧ a.apKernHba = old.apKernHba ∧ a.apIndex = old.apIndex ∧
      a.apDiscIndex = old.apDiscIndex := by
  by_cases same : q = rp
  · rw [same, Lib.claim_mark] at here
    cases here
    exact ⟨rport, same ▸ entering.live, rfl, rfl, rfl⟩
  · rw [Lib.claim_rports same] at here
    exact ⟨a, here, rfl, rfl, rfl⟩

theorem Entering.triples (entering : Entering env pp rp lib port rport) :
    (lib.claim env pp rp port rport).Triples := by
  intro q first r second a b here there sameKern sameIndex sameDisc
  obtain ⟨old, here', kern, index, disc⟩ := entering.triple here
  obtain ⟨old', there', kern', index', disc'⟩ := entering.triple there
  exact entering.inv.triples q first r second old old' here' there'
    (kern.symm.trans (sameKern.trans kern')) (index.symm.trans (sameIndex.trans index'))
    (disc.symm.trans (sameDisc.trans disc'))

/-- What a table holds is what it held before, or the remote port. -/
theorem Entering.held (entering : Entering env pp rp lib port rport) {qq q : Ptr} {other : PortInfo}
    {d : Nat} (here : (lib.claim env pp rp port rport).lports.get qq = some other)
    (slot : other.apRports.stTable[d]? = some (some q)) :
    ∃ a, (lib.claim env pp rp port rport).rports.get q = some a ∧ a.apAdapt ≠ none := by
  have before : q = rp ∨ ∃ old, lib.rports.get q = some old ∧ old.apAdapt ≠ none := by
    by_cases same : qq = pp
    · rw [same, entering.table] at here
      cases here
      obtain ⟨wf, -⟩ := entering.inv.tables pp port entering.livePort
      obtain ⟨rc, inserted⟩ := SaTable.insert_table wf entering.small (some rp)
        (env.mem (.discoveredSlot rp))
      rw [entering.stored] at inserted
      rcases SaTable.insert_entries inserted slot with before | ⟨-, new⟩
      · exact .inr (entering.inv.held pp port entering.livePort d q before)
      · exact .inl (Option.some.inj new).symm
    · rw [Lib.claim_lports same] at here
      exact .inr (entering.inv.held qq other here d q slot)
  by_cases same : q = rp
  · rw [same]
    exact ⟨_, Lib.claim_mark, entering.owner⟩
  · obtain ⟨old, here', marked⟩ := before.resolve_left same
    exact ⟨old, (Lib.claim_rports same).trans here', marked⟩

/-- The remote port is found where it has been entered, and the others where they were. -/
theorem Entering.findable (entering : Entering env pp rp lib port rport) :
    Findable (lib.claim env pp rp port rport) := by
  obtain ⟨wf, -⟩ := entering.inv.tables pp port entering.livePort
  obtain ⟨kern, index⟩ := entering.belongs
  have lookup : ∀ d, saTableLookup (port.apRports.put rport.apDiscIndex (some rp)) d =
      .ok (if d = rport.apDiscIndex then some rp else port.apRports.view d.toNat) := by
    intro d
    rw [SaTable.lookup_eq_view (SaTable.wf_put wf entering.small _),
      SaTable.view_put wf entering.small, Function.update_apply]
    simp only [UInt32.toNat_inj]
  intro q entry a here marked
  by_cases same : q = rp
  · rw [same, Lib.claim_mark] at here
    cases here
    refine ⟨pp, _, entering.table, kern.symm, index.symm, ?_⟩
    rw [PortInfo.withRports_apRports, lookup, if_pos rfl, same]
  · rw [Lib.claim_rports same] at here
    obtain ⟨qq, other, there, kern', index', found⟩ := entering.inv.findable q entry a here marked
    by_cases samePort : qq = pp
    · rw [samePort, entering.livePort] at there
      cases there
      refine ⟨pp, _, entering.table, kern', index', ?_⟩
      rw [SaTable.lookup_eq_view wf] at found
      rw [PortInfo.withRports_apRports, lookup, if_neg]
      · exact found
      · intro sameDisc
        exact same (entering.inv.triples q entry rp entering.entry a rport here entering.live
          (kern'.symm.trans kern.symm) (index'.symm.trans index.symm) sameDisc)
    · exact ⟨qq, other, (Lib.claim_lports samePort).trans there, kern', index', found⟩

theorem Entering.claimInv (entering : Entering env pp rp lib port rport) :
    ClaimInv (lib.claim env pp rp port rport) := by
  obtain ⟨wf, few⟩ := entering.inv.tables pp port entering.livePort
  have claimed := @claimRport_eq env _ _ _ _ _ entering.livePort entering.live wf
    fun _ => entering.small
  rw [if_pos entering.eligible] at claimed
  refine ⟨claimRport_inv entering.inv.rports claimed, entering.triples, ?_,
    fun _ _ here _ _ slot => entering.held here slot, entering.findable⟩
  intro qq other here
  by_cases same : qq = pp
  · rw [same, entering.table] at here
    cases here
    refine ⟨SaTable.wf_put wf entering.small _, ?_⟩
    have small := entering.small
    rw [PortInfo.withRports_apRports, SaTable.limit_put small]
    omega
  · rw [Lib.claim_lports same] at here
    exact entering.inv.tables qq other here

end Entering

theorem SaTable.slot_of_lookup {α : Type} {tp : SaTable α} {index : UInt32} {ep : α}
    (found : saTableLookup tp index = .ok (some ep)) : tp.stTable[index.toNat]? = some (some ep) := by
  unfold saTableLookup at found
  split at found
  · exact demand_eq_ok.mp found
  · cases found

/-- A claim whose insert stores nothing leaves a remote port that cannot be found. -/
theorem ClaimInv.lost {env : Env} {pp rp : Ptr} {lib lib' : Lib} {port rport : PortInfo}
    (inv : ClaimInv lib) (entry : rp ∈ lib.rportsTable.entries) (owner : port.apAdapt ≠ none)
    (livePort : lib.lports.get pp = some port) (live : lib.rports.get rp = some rport)
    (eligible : lib.eligible port rp)
    (unstorable : ¬ (rport.apDiscIndex.toNat < 2 ^ 31 ∧
      (rport.apDiscIndex < port.apRports.stSize ∨ env.mem (.discoveredSlot rp) = true)))
    (claimed : claimRport env pp rp lib = .ok lib') : ¬ Findable lib' := by
  obtain ⟨wf, few⟩ := inv.tables pp port livePort
  have unmarked : rport.apAdapt = none := ((Lib.eligible_iff live).mp eligible).2.2
  have unheld : ∀ qq other, lib.lports.get qq = some other → ∀ d,
      other.apRports.stTable[(d : Nat)]? ≠ some (some rp) := by
    intro qq other here d slot
    obtain ⟨held, there, marked⟩ := inv.held qq other here d rp slot
    rw [live, Option.some.injEq] at there
    exact marked (there ▸ unmarked)
  obtain ⟨rport', port', live', livePort', rest⟩ := claimRport_eq_ok.mp claimed
  obtain rfl : rport' = rport := Option.some.inj (live'.symm.trans live)
  obtain rfl : port' = port := Option.some.inj (livePort'.symm.trans livePort)
  rcases rest with ⟨skipped, -⟩ | ⟨-, found, rc, table, -, inserted, rfl⟩
  · exact absurd ((Lib.eligible_iff live').mp eligible) skipped
  intro findable
  obtain ⟨qq, other, here, -, -, looked⟩ := findable rp entry _ (Arena.get_store_self _ _ _) owner
  have slot := SaTable.slot_of_lookup looked
  simp only [Lib.mark, Arena.get_store] at here
  split at here
  · cases here
    exact unheld pp port' livePort _ (SaTable.insert_unstored wf few unstorable inserted slot)
  · exact unheld qq other here _ slot

/-- An act keeps the marked remote ports findable exactly when it is safe. -/
theorem ClaimInv.act {lib lib' : Lib} (adapters : AdapterInv lib) (inv : ClaimInv lib) (a : Act)
    (occurs : a.Occurs lib) (ran : a.run lib = .ok lib') :
    (a.Safe lib → ClaimInv lib') ∧ (Findable lib' → a.Safe lib) := by
  cases a with
  | load env => exact ⟨fun _ => inv.load adapters occurs ran, fun _ => trivial⟩
  | free =>
      rw [Act.run, freeLibrary_eq adapters] at ran
      cases ran
      refine ⟨fun safe => ?_, fun findable rp entry rport live => ?_⟩
      · exact .of_empty (inv.rports.congr rfl rfl) inv.triples rfl safe
      · by_contra marked
        obtain ⟨pp, port, here, -⟩ := findable rp entry rport live marked
        cases here
  | readRports env => exact ⟨fun _ => inv.readRports occurs ran, fun _ => trivial⟩
  | claim env pp rp =>
      obtain ⟨rport, live, rest⟩ := bind_eq_ok.mp ran
      obtain ⟨port, livePort, rest⟩ := bind_eq_ok.mp rest
      rw [Lib.rport, demand_eq_ok] at live
      rw [Lib.port, demand_eq_ok] at livePort
      obtain ⟨i, ap, adapter, slot⟩ := adapters.port_slot livePort
      have owner : port.apAdapt ≠ none := by
        rw [slot.owns.owner]
        exact Option.some_ne_none ap
      have wf := (inv.tables pp port livePort).1
      by_cases eligible : lib.eligible port rp
      · refine ⟨fun safe => ?_, fun findable port' rport' livePort' live' _ => ?_⟩
        · obtain ⟨small, room⟩ := safe port rport livePort live eligible
          rw [Act.run, claimRport_eq livePort live wf fun _ => small, if_pos eligible] at ran
          cases ran
          exact Entering.claimInv
            ⟨inv, occurs, owner, livePort, live, eligible, small, room⟩
        · obtain rfl : port' = port := Option.some.inj (livePort'.symm.trans livePort)
          obtain rfl : rport' = rport := Option.some.inj (live'.symm.trans live)
          by_contra unstorable
          exact inv.lost occurs owner livePort live eligible unstorable ran findable
      · rw [Act.run, claimRport_eq livePort live wf fun chosen => absurd chosen eligible,
          if_neg eligible] at ran
        cases ran
        refine ⟨fun _ => inv, fun _ port' rport' livePort' _ chosen => ?_⟩
        obtain rfl : port' = port := Option.some.inj (livePort'.symm.trans livePort)
        exact absurd chosen eligible

theorem AdapterInv.act {lib lib' : Lib} (inv : AdapterInv lib) (a : Act) (occurs : a.Occurs lib)
    (ran : a.run lib = .ok lib') : AdapterInv lib' := by
  cases a with
  | load env => exact loadLibrary_inv inv occurs ran
  | free =>
      rw [Act.run, freeLibrary_eq inv] at ran
      cases ran
      exact .of_empty rfl rfl rfl
  | readRports env =>
      apply inv.framed
      rw [loadRports_framed ran]
      exact .of_lports_eq rfl rfl rfl
  | claim env pp rp => exact inv.framed (claimRport_framed ran).1

/-- What holds in every state of a process whose acts are safe. -/
theorem claimInv_of_runsTo {lib : Lib}
    (runs : RunsTo (fun a t => a.Occurs t ∧ a.Safe t) lib) : AdapterInv lib ∧ ClaimInv lib := by
  induction runs with
  | init => exact ⟨.of_empty rfl rfl rfl, .init⟩
  | act a _ met ran ih =>
      exact ⟨ih.1.act a met.1 ran, (ClaimInv.act ih.1 ih.2 a met.1 ran).1 met.2⟩

/-- While inserts store their entries and nothing is marked when the library is freed, every
    marked remote port can be found; the first act for which this fails loses one. -/
theorem claimMarks_findable {lib : Lib}
    (runs : RunsTo (fun a t => a.Occurs t ∧ a.Safe t) lib) :
    Findable lib ∧ ∀ (a : Act) (lib' : Lib), a.Occurs lib → a.run lib = .ok lib' → (Findable lib' ↔ a.Safe lib) := by
  obtain ⟨adapters, inv⟩ := claimInv_of_runsTo runs
  refine ⟨inv.findable, fun a lib' occurs ran => ?_⟩
  obtain ⟨keeps, needs⟩ := inv.act adapters a occurs ran
  exact ⟨needs, fun safe => (keeps safe).findable⟩

/-- The sample system with its remote port loaded. -/
def rportsLoaded : Lib := (loadRports smallSystem (loadedState smallSystem)).toOption.getD .init

/-- The sample system after its remote port is claimed. -/
def rportsClaimed : Lib := (claimRport smallSystem 0 0 rportsLoaded).toOption.getD .init

private theorem rportsClaimed_facts :
    (loadRports smallSystem (loadedState smallSystem)).toOption.isSome = true ∧
      rportsLoaded.rportsTable.entries = [0] ∧
      (rportsLoaded.rports.get 0).map PortInfo.apDiscIndex = some 1 ∧
      (claimRport smallSystem 0 0 rportsLoaded).toOption.isSome = true ∧
      (rportsClaimed.rports.get 0).map PortInfo.apAdapt = some (some 0) := by
  decide +kernel

theorem distinctTriples_small {env : Env} (sysfs : env.sysfs = smallSystem.sysfs) :
    DistinctTriples env := by
  have listing : smallSystem.sysfs.listing sysfsRportRoot = [⟨"rport-3:0-1", .lnk⟩] := by
    decide +kernel
  rw [DistinctTriples, sysfs, listing]
  exact List.pairwise_singleton _ _

theorem claimMarks_findable_small :
    Findable rportsClaimed ∧ (rportsClaimed.rports.get 0).map PortInfo.apAdapt = some (some 0) := by
  obtain ⟨loads, entries, index, called, marked⟩ := rportsClaimed_facts
  have entry : 0 ∈ rportsLoaded.rportsTable.entries := by
    rw [entries]
    exact List.mem_singleton_self 0
  have loaded : RunsTo (fun a t => a.Occurs t ∧ a.Safe t) (loadedState smallSystem) :=
    .act (.load smallSystem) .init
      ⟨fewAdapters_of_length SaTable.wf_init (by decide +kernel), trivial⟩ loadLibrary_small
  have read : RunsTo (fun a t => a.Occurs t ∧ a.Safe t) rportsLoaded :=
    .act (.readRports smallSystem) loaded ⟨distinctTriples_small rfl, trivial⟩ (eq_ok_getD loads _)
  have safe : (Act.claim smallSystem 0 0).Safe rportsLoaded := by
    intro port rport _ live _
    rw [live, Option.map_some, Option.some.injEq] at index
    refine ⟨?_, .inr rfl⟩
    rw [index]
    decide
  have claimed : RunsTo (fun a t => a.Occurs t ∧ a.Safe t) rportsClaimed :=
    .act (.claim smallSystem 0 0) read ⟨entry, safe⟩ (eq_ok_getD called _)
  exact ⟨(claimMarks_findable claimed).1, marked⟩

/-- The sample system where the table of the local port cannot grow. -/
def fullSystem : Env := { smallSystem with
  mem := fun site => match site with
    | .discoveredSlot _ => false
    | _ => true }

/-- The state after a query that finds no memory for its remote port. -/
def rportLost : Lib :=
  (((Query.rportAttr 0x100 0 0).ask fullSystem (loadedState smallSystem)).toOption.map
    Prod.snd).getD .init

private theorem rportLost_facts :
    ((Query.rportAttr 0x100 0 0).ask fullSystem (loadedState smallSystem)).toOption.isSome = true ∧
      rportLost.rportsTable.stSize ≠ 0 ∧ rportLost.rportsTable.entries = [0] ∧
      (rportLost.rports.get 0).map PortInfo.apAdapt = some (some 0) ∧
      rportLost.lports.cells.length = 1 ∧
      (rportLost.lports.get 0).map PortInfo.apRports = some saTableInit := by
  decide +kernel

/-- The remote port is lost: a later call, with memory, does not attach it. -/
theorem claimMark_lost :
    Reachable DistinctTriples rportLost ∧ ¬ Findable rportLost ∧
      getRportInfo smallSystem 0 rportLost = .ok rportLost := by
  obtain ⟨asked, size, entries, marks, ports, tables⟩ := rportLost_facts
  have reachable : Reachable DistinctTriples rportLost := by
    cases answered : (Query.rportAttr 0x100 0 0).ask fullSystem (loadedState smallSystem) with
    | error fault =>
        rw [answered] at asked
        cases asked
    | ok answer =>
        obtain ⟨reply, lib⟩ := answer
        have last : rportLost = lib := by
          rw [rportLost, answered]
          rfl
        have distinct : DistinctTriples fullSystem := distinctTriples_small rfl
        rw [last]
        exact .ask (reachable_small_of (distinctTriples_small rfl)) distinct answered
  have entry : 0 ∈ rportLost.rportsTable.entries := by
    rw [entries]
    exact List.mem_singleton_self 0
  obtain ⟨rport, live, mark⟩ := Option.map_eq_some_iff.mp marks
  obtain ⟨port, livePort, table⟩ := Option.map_eq_some_iff.mp tables
  refine ⟨reachable, fun findable => ?_, ?_⟩
  · obtain ⟨pp, other, here, -, -, found⟩ := findable 0 entry rport live (by rw [mark]; decide)
    have first : pp = 0 := by
      have below := Arena.lt_of_get here
      omega
    rw [first, livePort, Option.some.injEq] at here
    rw [← here, table, SaTable.lookup_eq_view SaTable.wf_init, SaTable.view_init] at found
    cases found
  · have load : loadRports smallSystem rportLost = .ok rportLost := if_neg size
    rw [getRportInfo_eq load (rportInv_of_reachable reachable).wf, entries]
    apply attachAll_idle livePort
    · intro rp member
      rw [List.mem_singleton.mp member]
      exact ⟨rport, live⟩
    · intro rp member
      rw [List.mem_singleton.mp member, Lib.eligible_of_get live, mark]
      simp

end Hbalinux
