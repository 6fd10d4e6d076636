import Hbalinux.MappingSpec

/-! # Target mappings

Both mapping functions report all devices of their adapter, fill as many entries as
the caller has room for, and say when that was not all.  An entry depends on its
own device and on the remote ports of its own local port; the walk attaches these
at the first entry that asks for them, and finds them attached from then on.
-/

namespace Hbalinux

open Outcome

/-- The walk finds for every address the remote port it would find on its own. -/
theorem Looking.remoteLookup {env : Env} {lib : Lib} {handle : HbaHandle} {ap pp : Ptr}
    {adapter : AdapterInfo} {port : PortInfo} {W : Lib → Prop}
    (looking : Looking env handle ap pp adapter port lib W) {cp : BindingContext}
    (noRport : cp.ocRport = none) (handleOf : cp.ocHandle = handle) :
    RemoteLookup env cp W (targetRport env handle lib) := by
  intro address s rp s' held looked
  rw [mappedRport, noRport, handleOf] at looked
  exact looking.lookup s held address rp s' looked

theorem TargetReturns.lookupReturns {env : Env} {handle : HbaHandle} {W : Lib → Prop}
    (returns : TargetReturns env handle W) {cp : BindingContext} (noRport : cp.ocRport = none)
    (handleOf : cp.ocHandle = handle) : LookupReturns env cp W := by
  intro address s held
  rw [mappedRport, noRport, handleOf]
  exact returns address s held

/-- Reading a mapping in a context that looks remote ports up. -/
theorem readMapping_yields {env : Env} {cp : BindingContext} {W : Lib → Prop}
    {remote : ScsiAddress → Option PortInfo} (lookup : RemoteLookup env cp W remote)
    (ver : cp.ocVer = 1 ∨ cp.ocVer = 2) (started : cp.ocCount = 0)
    (room : cp.ocLimit.toNat ≤ cp.ocEntries.length)
    (few : (scsiDevices env.sysfs cp.accepts).length ≤ 2 ^ 32) {lib : Lib} (held : W lib) :
    Yields (¬ LookupReturns env cp W) W (readMapping env cp lib)
      (if cp.ocStatus = hbaStatusOk ∧
          cp.ocLimit < UInt32.ofNat (scsiDevices env.sysfs cp.accepts).length then
          hbaStatusErrorMoreData else cp.ocStatus,
        { numberOfEntries := UInt32.ofNat (scsiDevices env.sysfs cp.accepts).length
          entry := offered .zero cp.ocLimit.toNat
            ((scsiDevices env.sysfs cp.accepts).map fun device =>
              mappingEntry env cp.ocVer (remote device.2) device)
            (cp.ocEntries.drop cp.ocLimit.toNat) }) := by
  have cleared : clearEntries cp.ocLimit cp.ocEntries .zero =
      .ok (offered .zero cp.ocLimit.toNat [] (cp.ocEntries.drop cp.ocLimit.toNat)) := by
    rw [clearEntries, if_pos room, offered_nil]
  have start : { cp with
      ocEntries := offered .zero cp.ocLimit.toNat [] (cp.ocEntries.drop cp.ocLimit.toNat) } =
      cp.after env remote (cp.ocEntries.drop cp.ocLimit.toNat) [] := by
    simp [BindingContext.after, started]
  rw [readMapping, cleared, ok_bind, start, saDirRead_state]
  cases mapping_walk lookup ver (cp.ocEntries.drop cp.ocLimit.toNat)
      (env.sysfs.listing sysfsLunDir) held few with
  | returns s walked held' =>
      obtain ⟨ctxt, lib'⟩ := s
      obtain ⟨rfl, held'⟩ := held'
      exact .returns lib' (by rw [walked]; rfl) held'
  | faults fault walked excused => exact .faults fault (by rw [walked]; rfl) excused

/-- What a mapping function has to return: `expected` are the mappings there are,
    `map` is what the caller passes and `filled` what it gets back. -/
structure Mapped {α : Type} (zero : α) (expected : List α) (map : HbaFcpTargetMapping α)
    (status : HbaStatus) (filled : HbaFcpTargetMapping α) : Prop where
  count : filled.numberOfEntries.toNat = expected.length
  status : status = if expected.length ≤ map.numberOfEntries.toNat then hbaStatusOk
    else hbaStatusErrorMoreData
  entries : ∀ k < map.numberOfEntries.toNat, k < expected.length → filled.entry[k]? = expected[k]?
  cleared : ∀ k < map.numberOfEntries.toNat, expected.length ≤ k → filled.entry[k]? = some zero
  kept : ∀ k, map.numberOfEntries.toNat ≤ k → filled.entry[k]? = map.entry[k]?

/-- A call that has room for `numberOfEntries` entries and returns, returns what it has to.
    A retry with the returned number has room for all entries, and reports success. -/
def Maps {α : Type} (zero : α) (expected : List α)
    (call : HbaFcpTargetMapping α → Lib → Outcome ((HbaStatus × HbaFcpTargetMapping α) × Lib))
    (lib : Lib) : Prop :=
  ∀ map, map.numberOfEntries.toNat ≤ map.entry.length → ∀ status filled lib',
    call map lib = .ok ((status, filled), lib') → Mapped zero expected map status filled ∧
    ∀ map', map'.numberOfEntries = filled.numberOfEntries →
      map'.numberOfEntries.toNat ≤ map'.entry.length → ∀ status' filled' lib'',
      call map' lib' = .ok ((status', filled'), lib'') →
        status' = hbaStatusOk ∧ Mapped zero expected map' status' filled'

/-- The call and the retry return. -/
def MappingReturns {α : Type}
    (call : HbaFcpTargetMapping α → Lib → Outcome ((HbaStatus × HbaFcpTargetMapping α) × Lib))
    (lib : Lib) : Prop :=
  ∀ map, map.numberOfEntries.toNat ≤ map.entry.length → ∃ status filled lib',
    call map lib = .ok ((status, filled), lib') ∧
    ∀ map', map'.numberOfEntries = filled.numberOfEntries →
      map'.numberOfEntries.toNat ≤ map'.entry.length → ∃ r, call map' lib' = .ok r

/-- The mappings of an adapter, as version 1 entries. -/
def mappingsV1 (env : Env) (handle : HbaHandle) (lib : Lib) (adapter : AdapterInfo) :
    List HbaFcpScsiEntry :=
  (scsiDevices env.sysfs fun address => address.hba = adapter.adKernIndex).map fun device =>
    (mappingEntry env 1 (targetRport env handle lib device.2) device).toHbaFcpScsiEntry

/-- The mappings of one local port of an adapter. -/
def mappingsV2 (env : Env) (handle : HbaHandle) (lib : Lib) (adapter : AdapterInfo)
    (port : PortInfo) : List HbaFcpScsiEntryV2 :=
  (scsiDevices env.sysfs fun address =>
    address.hba = adapter.adKernIndex ∧ address.port = port.apIndex).map fun device =>
    mappingEntry env 2 (targetRport env handle lib device.2) device

/-- What a call leaves: the number of mappings modulo `2 ^ 32`, and as many entries as there is
    room for. -/
def mappingAnswer {α : Type} (zero : α) (expected : List α) (map : HbaFcpTargetMapping α) :
    HbaStatus × HbaFcpTargetMapping α :=
  (if map.numberOfEntries < UInt32.ofNat expected.length then hbaStatusErrorMoreData else hbaStatusOk,
    { numberOfEntries := UInt32.ofNat expected.length
      entry := offered zero map.numberOfEntries.toNat expected
        (map.entry.drop map.numberOfEntries.toNat) })

/-- What the walk leaves is what has to be returned. -/
theorem mapped_of_offered {α : Type} (zero : α) {expected : List α} (few : expected.length < 2 ^ 32)
    (map : HbaFcpTargetMapping α) : Mapped zero expected map (mappingAnswer zero expected map).1
      (mappingAnswer zero expected map).2 where
  count := toNat_ofNat_small few
  status := by
    simp only [mappingAnswer, UInt32.lt_iff_toNat_lt, toNat_ofNat_small few]
    by_cases enough : expected.length ≤ map.numberOfEntries.toNat
    · rw [if_pos enough, if_neg (by omega)]
    · rw [if_neg enough, if_pos (by omega)]
  entries := fun k room given => offered_get room given _
  cleared := fun k room notGiven => offered_get_zero room notGiven _
  kept := fun k behind => by
    rw [mappingAnswer, offered_get_rest behind, List.getElem?_drop]
    congr 1
    omega

section States

variable {α : Type} {excuse : Prop} {W : Lib → Prop} {zero : α} {expected : List α}
  {call : HbaFcpTargetMapping α → Lib → Outcome ((HbaStatus × HbaFcpTargetMapping α) × Lib)}
  (few : expected.length < 2 ^ 32)
  (answers : ∀ s, W s → ∀ map, map.numberOfEntries.toNat ≤ map.entry.length →
    Yields excuse W (call map s) (mappingAnswer zero expected map))
  {lib : Lib} (start : W lib)
include answers start

/-- The state after a call answers as the state before, and so does a retry. -/
theorem returns_of_states (unexcused : ¬ excuse) : MappingReturns call lib := by
  intro map room
  obtain ⟨lib', held, called⟩ := (answers lib start map room).total unexcused
  refine ⟨_, _, lib', called, fun map' _ room' => ?_⟩
  obtain ⟨lib'', -, called'⟩ := (answers lib' held map' room').total unexcused
  exact ⟨_, called'⟩

include few in
theorem maps_of_states : Maps zero expected call lib := by
  intro map room status filled lib' called
  obtain ⟨same, held⟩ := (answers lib start map room).of_ok called
  cases same
  refine ⟨mapped_of_offered zero few map, fun map' number room' status' filled' lib'' called' => ?_⟩
  obtain ⟨same, -⟩ := (answers lib' held map' room').of_ok called'
  cases same
  have mapped := mapped_of_offered zero few map'
  have enough : expected.length ≤ map'.numberOfEntries.toNat := by
    rw [number]
    exact Nat.le_of_eq (mapped_of_offered zero few map).count.symm
  exact ⟨mapped.status.trans (if_pos enough), mapped⟩

end States

/-- The context in which the mappings of an adapter are read. -/
def mappingContext (handle : HbaHandle) (kern port ver limit : UInt32)
    (entries : List HbaFcpScsiEntryV2) : BindingContext :=
  { BindingContext.zero with
    ocHandle := handle
    ocKernHba := kern
    ocPort := port
    ocTarget := anyPart
    ocLun := anyPart
    ocLimit := limit
    ocVer := ver
    ocEntries := entries
    ocStatus := hbaStatusOk }

theorem mappingContext_accepts (handle : HbaHandle) (kern ver limit : UInt32)
    (entries : List HbaFcpScsiEntryV2) :
    (mappingContext handle kern anyPart ver limit entries).accepts =
      fun address : ScsiAddress => decide (address.hba = kern) := by
  funext address
  simp [BindingContext.accepts, mappingContext]

theorem mappingContext_accepts_port (handle : HbaHandle) (kern ver limit : UInt32)
    (entries : List HbaFcpScsiEntryV2) {port : UInt32} (definite : port ≠ anyPart) :
    (mappingContext handle kern port ver limit entries).accepts =
      fun address : ScsiAddress => decide (address.hba = kern ∧ address.port = port) := by
  funext address
  simp [BindingContext.accepts, mappingContext, definite]

section Looking

variable {env : Env} {lib s : Lib} {handle : HbaHandle} {ap pp : Ptr} {adapter : AdapterInfo}
  {port : PortInfo} {W : Lib → Prop} (looking : Looking env handle ap pp adapter port lib W)
include looking

/-- Reading mappings in a state of the walk. -/
theorem Looking.read (held : W s) {kern number ver : UInt32} (version : ver = 1 ∨ ver = 2)
    {test : ScsiAddress → Bool} {limit : UInt32} {entries : List HbaFcpScsiEntryV2}
    (accepts : (mappingContext handle kern number ver limit entries).accepts = test)
    (few : (scsiDevices env.sysfs test).length ≤ 2 ^ 32) (room : limit.toNat ≤ entries.length) :
    Yields (¬ TargetReturns env handle W) W
      (readMapping env (mappingContext handle kern number ver limit entries) s)
      (mappingAnswer .zero ((scsiDevices env.sysfs test).map fun device =>
        mappingEntry env ver (targetRport env handle lib device.2) device) ⟨limit, entries⟩) := by
  have lookup : RemoteLookup env (mappingContext handle kern number ver limit entries) W
      (targetRport env handle lib) := looking.remoteLookup rfl rfl
  have read := readMapping_yields lookup version rfl room (accepts ▸ few) held
  have status : (mappingContext handle kern number ver limit entries).ocStatus = hbaStatusOk := rfl
  simp only [accepts, status, true_and] at read
  rw [mappingAnswer, List.length_map]
  exact read.imp (mt fun returns => returns.lookupReturns rfl rfl)

theorem Looking.mappingV1 (few : (mappingsV1 env handle lib adapter).length ≤ 2 ^ 32) (held : W s)
    (map : HbaFcpTargetMapping HbaFcpScsiEntry)
    (room : map.numberOfEntries.toNat ≤ map.entry.length) :
    Yields (¬ TargetReturns env handle W) W (getBindingTargetMappingV1 env handle map s)
      (mappingAnswer .zero (mappingsV1 env handle lib adapter) map) := by
  obtain ⟨t, ⟨i, slot⟩, opens⟩ := looking.opened s held
  rw [mappingsV1, List.length_map] at few
  have read := looking.read held (.inl rfl)
    (mappingContext_accepts handle adapter.adKernIndex 1 map.numberOfEntries
      (map.entry.map HbaFcpScsiEntry.widen)) few (by rwa [List.length_map])
  unfold getBindingTargetMappingV1
  simp only [opens, ok_bind, Lib.adapter, slot.owns.live, demand_some]
  unfold mappingContext at read
  refine read.bind fun s' held' => .returns s' ?_ held'
  have narrowed : HbaFcpScsiEntryV2.toHbaFcpScsiEntry ∘ HbaFcpScsiEntry.widen = id := rfl
  simp only [mappingAnswer, offered_map, ← List.map_drop, List.map_map, narrowed, List.map_id,
    mappingsV1, List.length_map]
  rfl

theorem Looking.mappingV2 {wwn : HbaWwn} (named : port.apAttr.portWwn = wwn)
    (few : (mappingsV2 env handle lib adapter port).length ≤ 2 ^ 32) (held : W s)
    (map : HbaFcpTargetMapping HbaFcpScsiEntryV2)
    (room : map.numberOfEntries.toNat ≤ map.entry.length) :
    Yields (¬ TargetReturns env handle W) W (getBindingTargetMappingV2 env handle wwn map s)
      (mappingAnswer .zero (mappingsV2 env handle lib adapter port) map) := by
  obtain ⟨t, ⟨i, slot⟩, opens⟩ := looking.opened s held
  have index : port.apIndex = 0 := slot.portIndex
  have definite : port.apIndex ≠ anyPart := by
    rw [index]
    decide
  have owner : port.apAdapt = some ap := slot.owns.owner
  rw [mappingsV2, List.length_map] at few
  have read := looking.read held (.inr rfl)
    (mappingContext_accepts_port handle adapter.adKernIndex 2 map.numberOfEntries map.entry definite)
    few room
  unfold getBindingTargetMappingV2
  simp only [slot.adapterGetPortByWwn_eq opens, named, if_true, ok_bind, Lib.port,
    slot.owns.livePort, demand_some, owner, Lib.adapter, slot.owns.live]
  exact read

end Looking

/-- Once the directory has been read, the remote ports of the adapter are numbered below
    `2 ^ 31`. -/
def NarrowRports (env : Env) (lib : Lib) (adapter : AdapterInfo) : Prop :=
  ∃ loaded, loadRports env lib = .ok loaded ∧ ∀ rp rport, loaded.rports.get rp = some rport →
    rport.apKernHba = adapter.adKernIndex → rport.apIndex = 0 → rport.apDiscIndex.toNat < 2 ^ 31

/-- Then all remote ports of the adapter can be looked up. -/
theorem NarrowRports.looking {env : Env} {lib : Lib} {handle : HbaHandle} {ap pp : Ptr}
    {adapter : AdapterInfo} {port : PortInfo} (narrow : NarrowRports env lib adapter)
    (sound : lib.Sound) (inv : NarrowInv lib) (opened : Opened handle ap pp adapter port lib) :
    ∃ W, Looking env handle ap pp adapter port lib W ∧ TargetReturns env handle W := by
  obtain ⟨i, slot⟩ := opened.slot
  obtain ⟨loaded, load, small⟩ := narrow
  have own : loaded.Narrow port := by
    intro rp rport live mine
    have mine' := of_decide_eq_true mine
    exact small rp rport live (mine'.1.trans slot.host) (mine'.2.trans slot.portIndex)
  obtain ⟨attached, called, after⟩ :=
    getRportInfo_narrow sound.rports inv slot.owns.livePort load own
  obtain ⟨before, behind⟩ := sound.between slot called
  refine ⟨_, before.looking behind opened, fun address s between => ?_⟩
  exact between.target_returns behind (getRportInfo_narrow_inv sound.rports inv called) opened
    (after.narrow own) address.port address.tgt

/-- In every state both mapping functions report the mappings of an opened adapter when they
    return, whatever the caller has room for, and a retry with the reported number succeeds.
    They return unless reading the remote ports goes wrong, or a number among those of the
    adapter is too large for its table. -/
theorem targetMapping_contract {allowed : Env → Prop} {env : Env} {lib : Lib}
    (reachable : Reachable allowed lib) {handle : HbaHandle} {ap : Ptr} {adapter : AdapterInfo}
    (opened : adapterOpenHandle lib handle = .ok (some ap))
    (live : lib.adapters.get ap = some adapter) :
    ((mappingsV1 env handle lib adapter).length < 2 ^ 32 →
      Maps .zero (mappingsV1 env handle lib adapter) (getBindingTargetMappingV1 env handle) lib ∧
      (NarrowRports env lib adapter → MappingReturns (getBindingTargetMappingV1 env handle) lib)) ∧
    ∀ wwn pp n port, adapterGetPortByWwn lib handle wwn = .ok (some pp, n) →
      lib.lports.get pp = some port → (mappingsV2 env handle lib adapter port).length < 2 ^ 32 →
      Maps .zero (mappingsV2 env handle lib adapter port)
        (getBindingTargetMappingV2 env handle wwn) lib ∧
      (NarrowRports env lib adapter →
        MappingReturns (getBindingTargetMappingV2 env handle wwn) lib) := by
  have sound := Lib.Sound.of_reachable reachable
  have inv := narrowInv_of_reachable reachable
  obtain ⟨i, pp, adapter', port, slot⟩ := sound.adapters.opened opened
  obtain rfl : adapter' = adapter := Option.some.inj (slot.owns.live.symm.trans live)
  have isOpen : Opened handle ap pp adapter' port lib := ⟨⟨i, slot⟩, opened⟩
  obtain ⟨W, looking⟩ : ∃ W, Looking env handle ap pp adapter' port lib W :=
    isOpen.looking sound
  constructor
  · intro few
    refine ⟨maps_of_states few (fun _ held => looking.mappingV1 (Nat.le_of_lt few) held)
      looking.start, fun narrow => ?_⟩
    obtain ⟨W', looking', returns⟩ := narrow.looking sound inv isOpen
    exact returns_of_states (fun _ held => looking'.mappingV1 (Nat.le_of_lt few) held)
      looking'.start (not_not_intro returns)
  · intro wwn pp' n port' found here few
    rw [slot.adapterGetPortByWwn_eq opened] at found
    split at found
    · rename_i named
      cases found
      obtain rfl : port = port' := Option.some.inj (slot.owns.livePort.symm.trans here)
      refine ⟨maps_of_states few (fun _ held => looking.mappingV2 named (Nat.le_of_lt few) held)
        looking.start, fun narrow => ?_⟩
      obtain ⟨W', looking', returns⟩ := narrow.looking sound inv isOpen
      exact returns_of_states (fun _ held => looking'.mappingV2 named (Nat.le_of_lt few) held)
        looking'.start (not_not_intro returns)
    · cases found

/-- With small numbers throughout, the numbers of every adapter are. -/
theorem SmallRports.narrow {env : Env} {lib : Lib} (small : SmallRports env)
    (reachable : Reachable SmallRports lib) (loads : ∃ loaded, loadRports env lib = .ok loaded)
    (adapter : AdapterInfo) : NarrowRports env lib adapter := by
  obtain ⟨loaded, load⟩ := loads
  have inv := loadRports_small_inv small (rportInv_of_reachable reachable)
    (smallInv_of_reachable reachable) load
  exact ⟨loaded, load, fun rp rport live _ _ => inv.rports rp rport live⟩

theorem smallRports_small : SmallRports smallSystem := smallRports_of_all (by decide +kernel)

private theorem smallSystem_opened :
    (adapterOpenHandle (loadedState smallSystem) 0x100).toOption = some (some 0) ∧
      ((loadedState smallSystem).adapters.get 0).map AdapterInfo.adKernIndex = some 3 ∧
      (loadRports smallSystem (loadedState smallSystem)).toOption.isSome = true ∧
      (scsiDevices smallSystem.sysfs fun address => address.hba = 3).length = 1 := by
  decide +kernel

/-- The adapter behind `eth2` has one mapping. -/
theorem targetMapping_contract_small : ∃ adapter,
    (mappingsV1 smallSystem 0x100 (loadedState smallSystem) adapter).length = 1 ∧
    Maps .zero (mappingsV1 smallSystem 0x100 (loadedState smallSystem) adapter)
      (getBindingTargetMappingV1 smallSystem 0x100) (loadedState smallSystem) ∧
    MappingReturns (getBindingTargetMappingV1 smallSystem 0x100) (loadedState smallSystem) := by
  obtain ⟨opened, kern, loads, one⟩ := smallSystem_opened
  obtain ⟨adapter, live, index⟩ := Option.map_eq_some_iff.mp kern
  have length : (mappingsV1 smallSystem 0x100 (loadedState smallSystem) adapter).length = 1 := by
    rw [mappingsV1, List.length_map, index]
    exact one
  have reachable := reachable_small_of smallRports_small
  have narrow : NarrowRports smallSystem (loadedState smallSystem) adapter :=
    smallRports_small.narrow reachable ⟨_, eq_ok_getD loads .init⟩ adapter
  obtain ⟨maps, returns⟩ := (targetMapping_contract reachable (eq_ok_of_toOption opened) live).1
    (by rw [length]; decide)
  exact ⟨adapter, length, maps, returns narrow⟩

/-- A directory with a device for every LUN number there is. -/
def everyLun : List DirEnt :=
  (List.range (2 ^ 32)).map fun lun => ⟨scsiName ⟨3, 0, 0, UInt32.ofNat lun⟩, .lnk⟩

def everyLunSystem : Env :=
  { smallSystem with sysfs := { smallSystem.sysfs with
      dir := fun path => if path = sysfsLunDir then some everyLun else smallSystem.sysfs.dir path } }

theorem everyLun_listing : everyLunSystem.sysfs.listing sysfsLunDir = everyLun := by
  have directory : everyLunSystem.sysfs.dir sysfsLunDir = some everyLun := by
    simp [everyLunSystem]
  rw [Sysfs.listing, directory, Option.getD_some, List.filter_eq_self]
  intro dp member
  obtain ⟨lun, -, rfl⟩ := List.mem_map.mp member
  have three : decimal 3 = ['3'] := by decide
  have head : (scsiName ⟨3, 0, 0, UInt32.ofNat lun⟩).head? = some '3' := by
    simp [scsiName, three]
  simp only [decide_eq_true_eq]
  constructor <;>
  · intro same
    rw [same] at head
    cases head

theorem everyLun_length {test : ScsiAddress → Bool} (all : ∀ lun, test ⟨3, 0, 0, lun⟩ = true) :
    (scsiDevices everyLunSystem.sysfs test).length = 2 ^ 32 := by
  have found : ∀ lun : Nat, accepted test ⟨scsiName ⟨3, 0, 0, UInt32.ofNat lun⟩, .lnk⟩ =
      some (scsiName ⟨3, 0, 0, UInt32.ofNat lun⟩, ⟨3, 0, 0, UInt32.ofNat lun⟩) := fun lun =>
    accepted_eq_some.mpr ⟨rfl, scsiAddress_scsiName _, all _⟩
  rw [scsiDevices, everyLun_listing, addressed, everyLun, List.filterMap_map,
    List.length_filterMap_eq_countP, List.countP_eq_length.mpr, List.length_range]
  intro lun _
  simp [found]

/-- The count is kept in 32 bits: `2 ^ 32` devices are reported as none, and as all
    there are. -/
theorem targetMapping_wraps : ∃ adapter lib',
    (loadedState smallSystem).adapters.get 0 = some adapter ∧
    (mappingsV1 everyLunSystem 0x100 (loadedState smallSystem) adapter).length = 2 ^ 32 ∧
    getBindingTargetMappingV1 everyLunSystem 0x100 ⟨0, []⟩ (loadedState smallSystem) =
      .ok ((hbaStatusOk, ⟨0, []⟩), lib') := by
  obtain ⟨opened, kern, -, -⟩ := smallSystem_opened
  obtain ⟨adapter, live, index⟩ := Option.map_eq_some_iff.mp kern
  have handle := eq_ok_of_toOption opened
  have small : SmallRports everyLunSystem := smallRports_of_all (by decide +kernel)
  have load : loadRports everyLunSystem (loadedState smallSystem) = .ok _ :=
    eq_ok_getD (by decide +kernel) .init
  have reachable := reachable_small_of smallRports_small
  have sound := Lib.Sound.of_reachable reachable
  obtain ⟨i, pp, adapter', port, slot⟩ := sound.adapters.opened handle
  obtain rfl : adapter' = adapter := Option.some.inj (slot.owns.live.symm.trans live)
  obtain ⟨W, looking, returns⟩ := (small.narrow reachable ⟨_, load⟩ adapter').looking sound
    (narrowInv_of_reachable reachable) ⟨⟨i, slot⟩, handle⟩
  have length : (mappingsV1 everyLunSystem 0x100 (loadedState smallSystem) adapter').length =
      2 ^ 32 := by
    rw [mappingsV1, List.length_map]
    apply everyLun_length
    intro lun
    simp [index]
  obtain ⟨lib', -, mapped⟩ := (looking.mappingV1 (Nat.le_of_eq length) looking.start ⟨0, []⟩
    (Nat.le_refl 0)).total (not_not_intro returns)
  refine ⟨adapter', lib', live, length, ?_⟩
  have none : UInt32.ofNat (2 ^ 32) = 0 := by decide
  have empty : ∀ all : List HbaFcpScsiEntry, offered .zero (0 : UInt32).toNat all [] = [] := by
    intro all
    simp [offered]
  simp only [mapped, mappingAnswer, length, none, List.drop_nil, empty]
  rfl

end Hbalinux
