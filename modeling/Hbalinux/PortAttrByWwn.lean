import Hbalinux.Attachment
import Hbalinux.C.Census

/-! # Attributes of a port by its name

`adapter_get_port_attr_by_wwn` looks for a name among the local ports of an adapter and the
remote ports in their tables.  It does not attach remote ports first, and it stops at the
first remote port with the name, so that it may miss some.
-/

namespace Hbalinux

open Outcome

/-- Every slot up to the first hit can be read. -/
def SaTable.Readable (tp : SaTable Ptr) (hit : Ptr → Bool) : Prop :=
  ∀ i < tp.stLimit.toNat, (∀ j < i, ∀ rp, tp.view j = some rp → hit rp = false) →
    i < 2 ^ 31 ∧ i < tp.stTable.length

/-- A search over some slots returns unless it comes to one that cannot be read. -/
theorem searchFrom_returns_iff {tp : SaTable Ptr} {lib : Lib} {test : PortInfo → Bool}
    (live : ∀ i rp, tp.view i = some rp → ∃ rport, lib.rports.get rp = some rport) {count i : Nat}
    (inside : i + count ≤ tp.stLimit.toNat) :
    (∃ found, tp.searchFrom (matchRport test lib) count i = .ok found) ↔
      ∀ j, i ≤ j → j < i + count → (∀ k, i ≤ k → k < j → ∀ rp, tp.view k = some rp →
        (lib.rports.get rp).any test = false) → j < 2 ^ 31 ∧ j < tp.stTable.length := by
  induction count generalizing i with
  | zero => exact iff_of_true ⟨none, rfl⟩ fun j lower upper => by omega
  | succ count ih =>
      by_cases room : i < 2 ^ 31 ∧ i < tp.stTable.length
      · have read : tp.slotInt i = .ok (tp.view i) := by
          rw [SaTable.slotInt, if_pos room.1, SaTable.slot_of_lt room.2, SaTable.view,
            if_pos (by omega), List.getElem?_eq_getElem room.2, Option.join_some]
        -- past a slot without a hit the rest decides
        have onward (miss : ∀ rp, tp.view i = some rp → (lib.rports.get rp).any test = false) :
            (∃ found, tp.searchFrom (matchRport test lib) count (i + 1) = .ok found) ↔
              ∀ j, i ≤ j → j < i + (count + 1) → (∀ k, i ≤ k → k < j → ∀ rp, tp.view k = some rp →
                (lib.rports.get rp).any test = false) → j < 2 ^ 31 ∧ j < tp.stTable.length := by
          rw [ih (by omega)]
          constructor
          · intro rest j lower upper before
            rcases Nat.eq_or_lt_of_le lower with rfl | later
            · exact room
            · exact rest j later (by omega) fun k low => before k (by omega)
          · intro all j lower upper before
            refine all j (by omega) (by omega) fun k low high => ?_
            rcases Nat.eq_or_lt_of_le low with rfl | later
            · exact miss
            · exact before k later high
        rw [SaTable.searchFrom, read, ok_bind]
        cases cell : tp.view i with
        | none =>
            apply onward
            intro rp entry
            rw [cell] at entry
            cases entry
        | some rp =>
            obtain ⟨rport, here⟩ := live i rp cell
            simp only [matchRport, Lib.rport, here, demand_some, ok_bind]
            cases passes : test rport with
            | true =>
                refine iff_of_true ⟨some rp, rfl⟩ fun j lower upper before => ?_
                rcases Nat.eq_or_lt_of_le lower with rfl | later
                · exact room
                · have miss := before i (Nat.le_refl i) later rp cell
                  rw [here, Option.any_some, passes] at miss
                  cases miss
            | false =>
                apply onward
                intro q entry
                obtain rfl : rp = q := Option.some.inj (cell.symm.trans entry)
                rw [here, Option.any_some, passes]
      · refine iff_of_false ?_ fun all => room (all i (Nat.le_refl i) (by omega) fun k low high => by omega)
        rintro ⟨found, searched⟩
        obtain ⟨cell, read, -⟩ := bind_eq_ok.mp searched
        rw [SaTable.slotInt] at read
        split at read
        · rename_i small
          rw [SaTable.slot, demand_eq_ok] at read
          exact room ⟨small, (List.getElem?_eq_some_iff.mp read).1⟩
        · cases read

/-- The remote port at `rp` has the name. -/
def Lib.named (lib : Lib) (wwn : HbaWwn) (rp : Ptr) : Bool :=
  (lib.rports.get rp).any fun rport => rport.apAttr.portWwn == wwn

/-- The attached remote ports of a local port that have the name, in index order. -/
def Lib.namesakes (lib : Lib) (pp : Ptr) (wwn : HbaWwn) : List Ptr :=
  ((lib.lports.get pp).map fun port => port.apRports.entries.filter (lib.named wwn)).getD []

/-- A search for the name does not leave the table of the local port. -/
def Lib.Searchable (lib : Lib) (pp : Ptr) (wwn : HbaWwn) : Prop :=
  ∀ port, lib.lports.get pp = some port → port.apRports.Readable (lib.named wwn)

theorem OwnInv.live_view {lib : Lib} (own : OwnInv lib) {pp : Ptr} {port : PortInfo}
    (live : lib.lports.get pp = some port) {i : Nat} {rp : Ptr}
    (entry : port.apRports.view i = some rp) : ∃ rport, lib.rports.get rp = some rport := by
  obtain ⟨rport, here, -⟩ := own pp port live i rp (SaTable.slot_of_view entry)
  exact ⟨rport, here⟩

/-- What the search of a local port's table finds. -/
theorem search_eq_ok {lib : Lib} (own : OwnInv lib) {pp : Ptr} {port : PortInfo}
    (live : lib.lports.get pp = some port) (wwn : HbaWwn) {found : Option Ptr} :
    saTableSearch port.apRports (adapterWwpnMatch wwn lib) = .ok found ↔
      lib.Searchable pp wwn ∧ found = (lib.namesakes pp wwn).head? := by
  have returns := @searchFrom_returns_iff _ _ (fun rport => rport.apAttr.portWwn == wwn)
    (fun i rp => own.live_view live) port.apRports.stLimit.toNat 0 (Nat.le_of_eq (Nat.zero_add _))
  have searchable : lib.Searchable pp wwn ↔ ∃ found,
      saTableSearch port.apRports (adapterWwpnMatch wwn lib) = .ok found := by
    refine Iff.trans ?_ returns.symm
    constructor
    · intro reads j _ upper before
      exact reads port live j (by omega) fun k high => before k (Nat.zero_le k) high
    · intro all port' live' j upper before
      obtain rfl : port' = port := Option.some.inj (live'.symm.trans live)
      exact all j (Nat.zero_le j) (by omega) fun k _ high => before k high
  have finds : ∀ result, saTableSearch port.apRports (adapterWwpnMatch wwn lib) = .ok result →
      result = (lib.namesakes pp wwn).head? := by
    intro result searched
    rw [searchFrom_find (by omega) searched, Lib.namesakes, live, Option.map_some, Option.getD_some,
      List.head?_filter]
    rfl
  rw [searchable]
  constructor
  · intro searched
    exact ⟨⟨found, searched⟩, finds found searched⟩
  · rintro ⟨⟨result, searched⟩, rfl⟩
    rw [← finds result searched, searched]

/-- In a table of the right size every search stays inside. -/
theorem SmallInv.searchable {lib : Lib} (inv : SmallInv lib) (pp : Ptr) (wwn : HbaWwn) :
    lib.Searchable pp wwn := by
  intro port live i below _
  have few := inv.limit pp port live
  have room := (inv.wf pp port live).limit_le
  exact ⟨by omega, by omega⟩

/-- What the ports with the name call for. -/
def attrAnswer (lib : Lib) : Census PortPtr → Outcome (Answer HbaPortAttributes)
  | .none => .ok (.error hbaStatusErrorIllegalWwn)
  | .one pp => do
      let port ← lib.portAt pp
      .ok (.ok port.apAttr)
  | .several => .ok (.error hbaStatusErrorAmbiguousWwn)

/-- The local port, if it has the name. -/
def ownHit (pp : Ptr) (port : PortInfo) (wwn : HbaWwn) : List PortPtr :=
  if port.apAttr.portWwn = wwn then [.lport pp] else []

theorem adapterGetPortAttrByWwn_eq {lib : Lib} {i : Nat} {ap pp : Ptr} {adapter : AdapterInfo}
    {port : PortInfo} (slot : lib.Slot i ap pp adapter port) {handle : HbaHandle}
    (opened : adapterOpenHandle lib handle = .ok (some ap)) (wwn : HbaWwn) :
    adapterGetPortAttrByWwn lib handle wwn =
      (saTableSearch port.apRports (adapterWwpnMatch wwn lib) >>= fun rp =>
        attrAnswer lib (Census.ofList (ownHit pp port wwn ++ rp.toList.map PortPtr.rport))) := by
  have one : (onlyPort pp).stLimit.toNat = 1 := rfl
  have entry : (onlyPort pp).slot 0 = .ok (some pp) := rfl
  unfold adapterGetPortAttrByWwn
  simp only [opened, ok_bind, Lib.adapter, slot.owns.live, demand_some, slot.owns.ports, one,
    portAttrByWwnFrom, entry, Lib.port, slot.owns.livePort, ownHit]
  cases saTableSearch port.apRports (adapterWwpnMatch wwn lib) with
  | error fault => rfl
  | ok rp =>
      by_cases named : port.apAttr.portWwn = wwn
      · simp only [if_pos named]
        cases rp <;> rfl
      · simp only [if_neg named]
        cases rp <;> rfl

/-- The local ports of an adapter and the remote ports in their tables. -/
def Lib.portsOf (lib : Lib) (ap : Ptr) : Set PortPtr :=
  {p | ∃ adapter i pp port, lib.adapters.get ap = some adapter ∧ adapter.adPorts.view i = some pp ∧
    lib.lports.get pp = some port ∧
    (p = .lport pp ∨ ∃ d rp, port.apRports.view d = some rp ∧ p = .rport rp)}

/-- Those of them that have the name. -/
def Lib.bearers (lib : Lib) (ap : Ptr) (wwn : HbaWwn) : Set PortPtr :=
  {p | p ∈ lib.portsOf ap ∧ ∃ port, lib.portAt p = .ok port ∧ port.apAttr.portWwn = wwn}

/-- The answer tells whether none, one or several of the ports have the name, and gives the
    attributes of the only one. -/
def AnswersFor (attached : Lib) (ap : Ptr) (wwn : HbaWwn)
    (answer : Outcome (Answer HbaPortAttributes)) : Prop :=
  ∃ c : Census PortPtr, c.Counts (attached.bearers ap wwn) ∧ answer = attrAnswer attached c

/-- The ports with the name, the local one first. -/
def Lib.bearerList (lib : Lib) (pp : Ptr) (port : PortInfo) (wwn : HbaWwn) : List PortPtr :=
  ownHit pp port wwn ++ (lib.namesakes pp wwn).map PortPtr.rport

section Slot

variable {lib : Lib} {i : Nat} {ap pp : Ptr} {adapter : AdapterInfo} {port : PortInfo}
  (slot : lib.Slot i ap pp adapter port)
include slot

theorem Lib.Slot.mem_namesakes {wwn : HbaWwn} {rp : Ptr} : rp ∈ lib.namesakes pp wwn ↔
    (∃ d, port.apRports.view d = some rp) ∧
      ∃ rport, lib.rports.get rp = some rport ∧ rport.apAttr.portWwn = wwn := by
  rw [Lib.namesakes, slot.owns.livePort, Option.map_some, Option.getD_some, List.mem_filter,
    SaTable.mem_entries, Lib.named, Option.any_eq_true]
  simp only [beq_iff_eq]

/-- An adapter has the one local port. -/
theorem Lib.Slot.only {adapter' : AdapterInfo} {j : Nat} {qq : Ptr}
    (live : lib.adapters.get ap = some adapter') (entry : adapter'.adPorts.view j = some qq) :
    qq = pp := by
  rw [slot.owns.live, Option.some.injEq] at live
  rw [← live, slot.owns.ports, onlyPort_view] at entry
  split at entry
  · exact (Option.some.inj entry).symm
  · cases entry

theorem Lib.Slot.lport_mem {wwn : HbaWwn} {qq : Ptr} :
    .lport qq ∈ lib.bearers ap wwn ↔ qq = pp ∧ port.apAttr.portWwn = wwn := by
  constructor
  · rintro ⟨⟨adapter', j, pp', port', live, entry, -, which⟩, held, found, name⟩
    obtain rfl := slot.only live entry
    rcases which with same | ⟨d, rp, -, other⟩
    · cases same
      rw [Lib.portAt, Lib.port, demand_eq_ok, slot.owns.livePort, Option.some.injEq] at found
      exact ⟨rfl, found ▸ name⟩
    · cases other
  · rintro ⟨rfl, name⟩
    refine ⟨⟨adapter, 0, qq, port, slot.owns.live, ?_, slot.owns.livePort, .inl rfl⟩, port, ?_, name⟩
    · rw [slot.owns.ports, onlyPort_view, if_pos rfl]
    · rw [Lib.portAt, Lib.port, slot.owns.livePort, demand_some]

theorem Lib.Slot.rport_mem {wwn : HbaWwn} {rp : Ptr} :
    .rport rp ∈ lib.bearers ap wwn ↔ rp ∈ lib.namesakes pp wwn := by
  rw [slot.mem_namesakes]
  constructor
  · rintro ⟨⟨adapter', j, pp', port', live, entry, livePort, which⟩, held, found, name⟩
    obtain rfl := slot.only live entry
    obtain rfl : port' = port := Option.some.inj (livePort.symm.trans slot.owns.livePort)
    rcases which with other | ⟨d, rq, there, same⟩
    · cases other
    · cases same
      rw [Lib.portAt, Lib.rport, demand_eq_ok] at found
      exact ⟨⟨d, there⟩, held, found, name⟩
  · rintro ⟨⟨d, there⟩, rport, here, name⟩
    refine ⟨⟨adapter, 0, pp, port, slot.owns.live, ?_, slot.owns.livePort,
      .inr ⟨d, rp, there, rfl⟩⟩, rport, ?_, name⟩
    · rw [slot.owns.ports, onlyPort_view, if_pos rfl]
    · rw [Lib.portAt, Lib.rport, here, demand_some]

/-- The list has the ports with the name, each once. -/
theorem Lib.Slot.bearers_counts (own : OwnInv lib) (wwn : HbaWwn) :
    (Census.ofList (lib.bearerList pp port wwn)).Counts (lib.bearers ap wwn) := by
  have table : port.apRports.entries.Nodup := by
    apply SaTable.entries_nodup
    intro d e rp first second
    obtain ⟨rport, here, -, disc⟩ := own pp port slot.owns.livePort d rp (SaTable.slot_of_view first)
    obtain ⟨rport', here', -, disc'⟩ :=
      own pp port slot.owns.livePort e rp (SaTable.slot_of_view second)
    rw [here, Option.some.injEq] at here'
    rw [← disc, ← disc', here']
  have remote : (lib.namesakes pp wwn).Nodup := by
    rw [Lib.namesakes, slot.owns.livePort, Option.map_some, Option.getD_some]
    exact table.filter _
  have nodup : (lib.bearerList pp port wwn).Nodup := by
    rw [Lib.bearerList, List.nodup_append]
    refine ⟨?_, remote.map fun _ _ same => PortPtr.rport.inj same, ?_⟩
    · rw [ownHit]
      split <;> simp
    · intro p first q second same
      rw [List.mem_map] at second
      obtain ⟨rp, -, rfl⟩ := second
      rw [ownHit] at first
      split at first
      · rw [List.mem_singleton.mp first] at same
        cases same
      · cases first
  have same : lib.bearers ap wwn = {p | p ∈ lib.bearerList pp port wwn} := by
    ext p
    show _ ↔ p ∈ ownHit pp port wwn ++ (lib.namesakes pp wwn).map PortPtr.rport
    rw [List.mem_append, List.mem_map, ownHit]
    cases p with
    | lport qq =>
        rw [slot.lport_mem]
        split <;> simp [*]
    | rport rp =>
        rw [slot.rport_mem]
        split <;> simp
  rw [same]
  exact Census.counts_ofList nodup

/-- The ports with the name that the function comes across. -/
def Lib.firstBearers (lib : Lib) (pp : Ptr) (port : PortInfo) (wwn : HbaWwn) : List PortPtr :=
  ownHit pp port wwn ++ (lib.namesakes pp wwn).head?.toList.map PortPtr.rport

theorem Lib.Slot.answer_eq (own : OwnInv lib) {handle : HbaHandle}
    (opened : adapterOpenHandle lib handle = .ok (some ap)) {wwn : HbaWwn}
    (searchable : lib.Searchable pp wwn) : adapterGetPortAttrByWwn lib handle wwn =
      attrAnswer lib (Census.ofList (lib.firstBearers pp port wwn)) := by
  rw [adapterGetPortAttrByWwn_eq slot opened,
    (search_eq_ok own slot.owns.livePort wwn).mpr ⟨searchable, rfl⟩]
  rfl

theorem Lib.Slot.searchable_of_answer (own : OwnInv lib) {handle : HbaHandle}
    (opened : adapterOpenHandle lib handle = .ok (some ap)) {wwn : HbaWwn}
    {answer : Answer HbaPortAttributes}
    (called : adapterGetPortAttrByWwn lib handle wwn = .ok answer) : lib.Searchable pp wwn := by
  rw [adapterGetPortAttrByWwn_eq slot opened] at called
  obtain ⟨found, searched, -⟩ := bind_eq_ok.mp called
  exact ((search_eq_ok own slot.owns.livePort wwn).mp searched).1

omit slot in
/-- Attributes are not an error. -/
theorem attrAnswer_one_ne (p : PortPtr) (status : HbaStatus) :
    attrAnswer lib (.one p) ≠ .ok (.error status) := by
  intro same
  obtain ⟨held, -, answer⟩ := bind_eq_ok.mp same
  cases answer

omit slot in
/-- The first remote port with the name tells as much as all of them if the local port has it
    too, or if there is no other. -/
theorem firstBearers_iff (wwn : HbaWwn) :
    attrAnswer lib (Census.ofList (lib.firstBearers pp port wwn)) =
        attrAnswer lib (Census.ofList (lib.bearerList pp port wwn)) ↔
      port.apAttr.portWwn = wwn ∨ (lib.namesakes pp wwn).length ≤ 1 := by
  rw [Lib.firstBearers, Lib.bearerList, ownHit]
  by_cases name : port.apAttr.portWwn = wwn
  · rw [if_pos name]
    refine iff_of_true ?_ (.inl name)
    cases lib.namesakes pp wwn <;> rfl
  · rw [if_neg name]
    match lib.namesakes pp wwn with
    | [] | [_] => exact iff_of_true rfl (.inr (by simp))
    | a :: b :: rest =>
        refine iff_of_false (attrAnswer_one_ne (.rport a) _) ?_
        rintro (same | short)
        · exact name same
        · simp at short

omit slot in
theorem AnswersFor.returns {wwn : HbaWwn} {answer : Outcome (Answer HbaPortAttributes)}
    (answers : AnswersFor lib ap wwn answer) : ∃ r, answer = .ok r := by
  obtain ⟨c, counts, rfl⟩ := answers
  cases c with
  | none => exact ⟨_, rfl⟩
  | several => exact ⟨_, rfl⟩
  | one p =>
      have only : lib.bearers ap wwn = {p} := counts
      have member : p ∈ lib.bearers ap wwn := only ▸ rfl
      obtain ⟨-, held, found, -⟩ := member
      exact ⟨.ok held.apAttr, by rw [attrAnswer, found, ok_bind]⟩

/-- Where the remote ports are attached. -/
theorem Lib.Slot.answersFor_iff (own : OwnInv lib) {handle : HbaHandle}
    (opened : adapterOpenHandle lib handle = .ok (some ap)) (wwn : HbaWwn) :
    AnswersFor lib ap wwn (adapterGetPortAttrByWwn lib handle wwn) ↔
      lib.Searchable pp wwn ∧ (port.apAttr.portWwn = wwn ∨ (lib.namesakes pp wwn).length ≤ 1) := by
  have counts := slot.bearers_counts own wwn
  constructor
  · intro answers
    obtain ⟨r, returned⟩ := answers.returns
    have searchable := slot.searchable_of_answer own opened returned
    obtain ⟨c, counts', same⟩ := answers
    rw [slot.answer_eq own opened searchable, counts'.unique counts] at same
    exact ⟨searchable, (firstBearers_iff wwn).mp same⟩
  · rintro ⟨searchable, told⟩
    exact ⟨_, counts, (slot.answer_eq own opened searchable).trans ((firstBearers_iff wwn).mpr told)⟩

end Slot

/-- A search does not tell apart matches that agree on the entries. -/
theorem searchFrom_congr {tp : SaTable Ptr} {accept accept' : Ptr → Outcome (Option Ptr)}
    (same : ∀ i rp, tp.view i = some rp → accept rp = accept' rp) {count i : Nat}
    (inside : i + count ≤ tp.stLimit.toNat) :
    tp.searchFrom accept count i = tp.searchFrom accept' count i := by
  induction count generalizing i with
  | zero => rfl
  | succ count ih =>
      rw [SaTable.searchFrom, SaTable.searchFrom, ih (by omega)]
      cases read : tp.slotInt i with
      | error fault => rfl
      | ok cell =>
          cases cell with
          | none => rfl
          | some rp =>
              simp only [ok_bind]
              rw [same i rp (slotInt_view (by omega) read)]

/-- The answer depends on the local port and the attributes of its remote ports. -/
theorem Lib.Slot.answer_congr {a b : Lib} {i : Nat} {ap pp : Ptr} {adapter : AdapterInfo}
    {port : PortInfo} (slot : a.Slot i ap pp adapter port) (own : OwnInv a)
    (table : b.adapterTable = a.adapterTable) (adapters : b.adapters = a.adapters)
    (same : b.lports.get pp = a.lports.get pp)
    (rports : ∀ rp rport, a.rports.get rp = some rport →
      ∃ owner, b.rports.get rp = some (rport.claimedBy owner)) {handle : HbaHandle}
    (opened : adapterOpenHandle a handle = .ok (some ap)) (wwn : HbaWwn) :
    adapterGetPortAttrByWwn b handle wwn = adapterGetPortAttrByWwn a handle wwn := by
  have slot' : b.Slot i ap pp adapter port := ⟨table ▸ slot.entry,
    ⟨adapters ▸ slot.owns.live, slot.owns.ports, same.trans slot.owns.livePort,
      slot.owns.owner⟩, slot.index, slot.portIndex, slot.host⟩
  have opened' : adapterOpenHandle b handle = .ok (some ap) := by
    rw [adapterOpenHandle, table]
    exact opened
  have searches : saTableSearch port.apRports (adapterWwpnMatch wwn b) =
      saTableSearch port.apRports (adapterWwpnMatch wwn a) := by
    refine searchFrom_congr (fun j rp entry => ?_) (by omega)
    obtain ⟨rport, here⟩ := own.live_view slot.owns.livePort entry
    obtain ⟨owner, there⟩ := rports rp rport here
    simp only [adapterWwpnMatch, matchRport, Lib.rport, here, there, demand_some, ok_bind]
    rfl
  rw [adapterGetPortAttrByWwn_eq slot opened, adapterGetPortAttrByWwn_eq slot' opened', searches]
  cases searched : saTableSearch port.apRports (adapterWwpnMatch wwn a) with
  | error fault => rfl
  | ok found =>
      rw [ok_bind, ok_bind]
      have hit := ((search_eq_ok own slot.owns.livePort wwn).mp searched).2
      cases census : Census.ofList (ownHit pp port wwn ++ found.toList.map PortPtr.rport) with
      | none | several => rfl
      | one p =>
          have member : p ∈ ownHit pp port wwn ++ found.toList.map PortPtr.rport := by
            rw [Census.ofList_eq_one.mp census]
            exact List.mem_singleton_self p
          rw [List.mem_append, List.mem_map] at member
          rcases member with mine | ⟨rp, other, rfl⟩
          · rw [ownHit] at mine
            split at mine
            · rw [List.mem_singleton.mp mine, attrAnswer, attrAnswer, Lib.portAt, Lib.portAt, Lib.port,
                Lib.port, same]
            · cases mine
          · rw [hit, Option.mem_toList] at other
            obtain ⟨-, rport, here, -⟩ := slot.mem_namesakes.mp (List.mem_of_mem_head? other)
            obtain ⟨owner, there⟩ := rports rp rport here
            rw [attrAnswer, attrAnswer, Lib.portAt, Lib.portAt, Lib.rport, Lib.rport, here, there]
            rfl

/-- What holds of the state and the name when `adapter_get_port_attr_by_wwn` tells what a
    search of all ports would: its search stays inside the table, one remote port with the name
    is enough to know, and that one is attached. -/
structure Reliable (lib attached : Lib) (pp : Ptr) (port : PortInfo) (wwn : HbaWwn) : Prop where
  inside : attached.Searchable pp wwn
  told : port.apAttr.portWwn = wwn ∨ (attached.namesakes pp wwn).length ≤ 1
  attached : attached.namesakes pp wwn = [] ∨ lib.namesakes pp wwn ≠ []

section Attached

variable {env : Env} {lib attached : Lib} {i : Nat} {ap pp : Ptr} {adapter : AdapterInfo}
  {port : PortInfo} (slot : lib.Slot i ap pp adapter port) {handle : HbaHandle}
  (opened : adapterOpenHandle lib handle = .ok (some ap))
  (called : getRportInfo env pp lib = .ok attached)
include slot opened called

/-- A sequence of queries changes the answer to the one given with the remote ports attached, or
    not at all. -/
theorem Lib.Slot.answer_later (sound : lib.Sound) {later : Lib} (attaches : Attaches env lib later)
    (wwn : HbaWwn) :
    adapterGetPortAttrByWwn later handle wwn = adapterGetPortAttrByWwn lib handle wwn ∨
      adapterGetPortAttrByWwn later handle wwn = adapterGetPortAttrByWwn attached handle wwn := by
  obtain ⟨loaded, load, -⟩ := bind_eq_ok.mp called
  have owner : port.apAdapt ≠ none := by
    rw [slot.owns.owner]
    exact Option.some_ne_none _
  have framed := attaches.framed
  have framedAttached := getRportInfo_framed called
  rcases attaches.agree sound slot.owns.livePort owner load called with rfl | agree | agree
  · exact .inl rfl
  · have kept : Kept lib later := (attaches.preserves
      (P := fun s => RportInv s ∧ Kept lib s) (fun _ _ _ held asked =>
        ⟨getRportInfo_inv held.1 asked, held.2.trans (getRportInfo_kept held.1 asked)⟩)
      ⟨sound.rports, .refl lib⟩).2
    have port : later.lports.get pp = lib.lports.get pp := by
      rw [agree.port, loadRports_framed load]
    refine .inl (slot.answer_congr sound.own framed.adapterTable framed.adapters port
      (fun rp rport live => ?_) opened wwn)
    obtain ⟨mark, there, -⟩ := kept.rports rp rport live
    exact ⟨mark, there⟩
  · obtain ⟨t, slot'⟩ := slot.framed framedAttached
    have opened' : adapterOpenHandle attached handle = .ok (some ap) := by
      rw [adapterOpenHandle, framedAttached.adapterTable]
      exact opened
    exact .inr (slot'.answer_congr (sound.attach called).own
      (framed.adapterTable.trans framedAttached.adapterTable.symm)
      (framed.adapters.trans framedAttached.adapters.symm) agree.port (fun rp rport => agree.rport)
      opened' wwn)

/-- Without attaching, the answer is the same if there is nothing to find or it is found. -/
theorem Lib.Slot.answer_attached_iff (sound : lib.Sound) (all : lib.AllOrNothing) {wwn : HbaWwn}
    (searchable : attached.Searchable pp wwn) :
    adapterGetPortAttrByWwn attached handle wwn = adapterGetPortAttrByWwn lib handle wwn ↔
      attached.namesakes pp wwn = [] ∨ lib.namesakes pp wwn ≠ [] := by
  have framed := getRportInfo_framed called
  obtain ⟨t, slot'⟩ := slot.framed framed
  have opened' : adapterOpenHandle attached handle = .ok (some ap) := by
    rw [adapterOpenHandle, framed.adapterTable]
    exact opened
  rcases (all pp port slot.owns.livePort).2 with empty | settled
  · have none : lib.namesakes pp wwn = [] := by
      rw [Lib.namesakes, slot.owns.livePort, Option.map_some, Option.getD_some, empty,
        SaTable.entries_init, List.filter_nil]
    have before : lib.Searchable pp wwn := by
      intro port' live j below
      rw [slot.owns.livePort, Option.some.injEq] at live
      rw [← live, empty] at below
      exact absurd below (Nat.not_lt_zero j)
    rw [slot.answer_eq sound.own opened before,
      slot'.answer_eq (sound.attach called).own opened' searchable, Lib.firstBearers,
      Lib.firstBearers, none, ownHit, ownHit]
    have mine : attrAnswer attached (.one (.lport pp)) = attrAnswer lib (.one (.lport pp)) := by
      simp only [attrAnswer, Lib.portAt, Lib.port, slot.owns.livePort, slot'.owns.livePort, demand_some,
        ok_bind]
    by_cases name : port.apAttr.portWwn = wwn
    · simp only [if_pos name]
      cases attached.namesakes pp wwn with
      | nil => exact iff_of_true mine (.inl rfl)
      | cons rp rps =>
          refine iff_of_false (fun same => attrAnswer_one_ne (.lport pp) _ same.symm) ?_
          rintro (empty | found)
          · cases empty
          · exact found rfl
    · simp only [if_neg name]
      cases attached.namesakes pp wwn with
      | nil => exact iff_of_true rfl (.inl rfl)
      | cons rp rps =>
          refine iff_of_false (attrAnswer_one_ne (.rport rp) _) ?_
          rintro (empty | found)
          · cases empty
          · exact found rfl
  · obtain rfl : lib = attached := by
      rw [settled.idle sound.rports slot.owns.livePort env, Except.ok.injEq] at called
      exact called
    exact iff_of_true rfl (em _)

end Attached

/-- In every reachable state the answer is that for the local ports and all remote ports they
    get, and no queries before it change it, exactly when the name is reliable there. -/
theorem portAttrByWwn_classifies_iff {allowed : Env → Prop} {env : Env} {lib attached : Lib}
    {handle : HbaHandle} {ap pp : Ptr} {adapter : AdapterInfo} {port : PortInfo}
    (reachable : Reachable allowed lib) (opened : adapterOpenHandle lib handle = .ok (some ap))
    (live : lib.adapters.get ap = some adapter) (entry : adapter.adPorts.view 0 = some pp)
    (livePort : lib.lports.get pp = some port)
    (called : attachPorts env adapter.adPorts.entries lib = .ok attached) (wwn : HbaWwn) :
    (AnswersFor attached ap wwn (adapterGetPortAttrByWwn lib handle wwn) ∧
      ∀ queries replies later, asks env queries lib = .ok (replies, later) →
        adapterGetPortAttrByWwn later handle wwn = adapterGetPortAttrByWwn lib handle wwn) ↔
      Reliable lib attached pp port wwn := by
  have sound := Lib.Sound.of_reachable reachable
  have all := allOrNothing_of_reachable reachable
  obtain ⟨i, pp', adapter', port', slot⟩ := sound.adapters.opened opened
  obtain rfl : adapter' = adapter := Option.some.inj (slot.owns.live.symm.trans live)
  obtain rfl : pp = pp' := slot.only live entry
  obtain rfl : port' = port := Option.some.inj (slot.owns.livePort.symm.trans livePort)
  have calls : getRportInfo env pp lib = .ok attached := by
    have entries : (onlyPort pp).entries = [pp] := rfl
    rw [slot.owns.ports, entries, attachPorts, List.foldlM_cons] at called
    obtain ⟨mid, first, last⟩ := bind_eq_ok.mp called
    cases last
    exact first
  have framed := getRportInfo_framed calls
  obtain ⟨t, slot'⟩ := slot.framed framed
  have opened' : adapterOpenHandle attached handle = .ok (some ap) := by
    rw [adapterOpenHandle, framed.adapterTable]
    exact opened
  have right := slot'.answersFor_iff (sound.attach calls).own opened' wwn
  constructor
  · rintro ⟨answers, stays⟩
    have asked : asks env [.rport handle 0 0xffffffff] lib = .ok ([.port none], attached) := by
      simp only [asks, slot.ask_attached opened calls, ok_bind]
    have same := stays _ _ _ asked
    rw [← same] at answers
    obtain ⟨inside, told⟩ := right.mp answers
    exact ⟨inside, told, (slot.answer_attached_iff opened calls sound all inside).mp same⟩
  · rintro ⟨inside, told, attached⟩
    have same := (slot.answer_attached_iff opened calls sound all inside).mpr attached
    have answers := right.mpr ⟨inside, told⟩
    rw [same] at answers
    refine ⟨answers, fun queries replies later asked => ?_⟩
    rcases slot.answer_later opened calls sound (asks_attaches asked) wwn with before | after
    · exact before
    · exact after.trans same

/-- The sample system with its remote port attached. -/
def rportAttached : Lib :=
  (getRportInfo smallSystem 0 (loadedState smallSystem)).toOption.getD .init

/-- The name of the sample remote port. -/
def rportWwn : HbaWwn := copyWwn 0x4000000000000001

private theorem rportAttached_facts :
    (getRportInfo smallSystem 0 (loadedState smallSystem)).toOption.isSome = true ∧
      adapterOpenHandle (loadedState smallSystem) 0x100 = .ok (some 0) ∧
      adapterGetPort (loadedState smallSystem) 0x100 0 = .ok (some 0) ∧
      adapterGetPortAttrByWwn (loadedState smallSystem) 0x100 rportWwn =
        .ok (.error hbaStatusErrorIllegalWwn) ∧
      (adapterGetPortAttrByWwn rportAttached 0x100 rportWwn).toOption.bind Except.toOption ≠ none ∧
      rportAttached.namesakes 0 rportWwn = [0] := by
  decide +kernel

private theorem rportAttached_slot : ∃ i adapter port t,
    (loadedState smallSystem).Slot i 0 0 adapter port ∧
      getRportInfo smallSystem 0 (loadedState smallSystem) = .ok rportAttached ∧
      rportAttached.Slot i 0 0 adapter { port with apRports := t } ∧
      adapterOpenHandle rportAttached 0x100 = .ok (some 0) := by
  obtain ⟨defined, opened, local0, -⟩ := rportAttached_facts
  have called : getRportInfo smallSystem 0 (loadedState smallSystem) = .ok rportAttached :=
    eq_ok_getD defined .init
  have framed := getRportInfo_framed called
  obtain ⟨i, pp, adapter, port, slot⟩ := (Lib.Sound.of_reachable reachable_small).adapters.opened opened
  rw [slot.adapterGetPort_eq opened, if_pos rfl, Except.ok.injEq, Option.some.injEq] at local0
  subst local0
  obtain ⟨t, slot'⟩ := slot.framed framed
  refine ⟨i, adapter, port, t, slot, called, slot', ?_⟩
  rw [adapterOpenHandle, framed.adapterTable]
  exact opened

/-- Once a query has attached the remote port, it is found by its name. -/
theorem portAttrByWwn_classifies_small :
    AnswersFor rportAttached 0 rportWwn (adapterGetPortAttrByWwn rportAttached 0x100 rportWwn) ∧
      ∀ queries replies later, asks smallSystem queries rportAttached = .ok (replies, later) →
        adapterGetPortAttrByWwn later 0x100 rportWwn =
          adapterGetPortAttrByWwn rportAttached 0x100 rportWwn := by
  obtain ⟨-, opened, -, -, found, names⟩ := rportAttached_facts
  obtain ⟨i, adapter, port, t, slot, called, slot', opened'⟩ := rportAttached_slot
  have reachable : Reachable (fun _ => True) rportAttached :=
    .ask reachable_small trivial (slot.ask_attached opened called)
  have sound := Lib.Sound.of_reachable reachable
  have owner : port.apAdapt ≠ none := by
    rw [slot.owns.owner]
    exact Option.some_ne_none _
  have again : attachPorts smallSystem adapter.adPorts.entries rportAttached = .ok rportAttached := by
    have entries : (onlyPort 0).entries = [0] := rfl
    rw [slot.owns.ports, entries, attachPorts, List.foldlM_cons,
      getRportInfo_idempotent (Lib.Sound.of_reachable reachable_small).rports slot.owns.livePort owner
        called]
    rfl
  have reliable : Reliable rportAttached rportAttached 0 { port with apRports := t } rportWwn := by
    refine ⟨?_, .inr (by rw [names]; exact Nat.le_refl 1), .inr (by rw [names]; simp)⟩
    cases answer : adapterGetPortAttrByWwn rportAttached 0x100 rportWwn with
    | error fault =>
        rw [answer] at found
        exact absurd rfl found
    | ok r => exact slot'.searchable_of_answer sound.own opened' answer
  exact (portAttrByWwn_classifies_iff reachable opened' slot'.owns.live
    (by rw [slot.owns.ports]; rfl) slot'.owns.livePort again rportWwn).mpr reliable

/-- Before any query the remote port is not found by its name, and after one it is. -/
theorem portAttrByWwn_misses : ∃ replies attr,
    asks smallSystem [.rport 0x100 0 0xffffffff] (loadedState smallSystem) =
      .ok (replies, rportAttached) ∧
    attachPorts smallSystem [0] (loadedState smallSystem) = .ok rportAttached ∧
    adapterGetPortAttrByWwn (loadedState smallSystem) 0x100 rportWwn =
      .ok (.error hbaStatusErrorIllegalWwn) ∧
    adapterGetPortAttrByWwn rportAttached 0x100 rportWwn = .ok (.ok attr) ∧
    ¬ AnswersFor rportAttached 0 rportWwn
      (adapterGetPortAttrByWwn (loadedState smallSystem) 0x100 rportWwn) := by
  obtain ⟨-, opened, -, missed, found, names⟩ := rportAttached_facts
  obtain ⟨i, adapter, port, t, slot, called, slot', opened'⟩ := rportAttached_slot
  have bearer : .rport 0 ∈ rportAttached.bearers 0 rportWwn := by
    rw [slot'.rport_mem, names]
    exact List.mem_singleton_self 0
  obtain ⟨attr, answered⟩ : ∃ attr,
      adapterGetPortAttrByWwn rportAttached 0x100 rportWwn = .ok (.ok attr) := by
    match answer : adapterGetPortAttrByWwn rportAttached 0x100 rportWwn with
    | .error fault =>
        rw [answer] at found
        exact absurd rfl found
    | .ok (.error status) =>
        rw [answer] at found
        exact absurd rfl found
    | .ok (.ok attr) => exact ⟨attr, rfl⟩
  refine ⟨[.port none], attr, ?_, ?_, missed, answered, ?_⟩
  · simp only [asks, slot.ask_attached opened called, ok_bind]
  · rw [attachPorts, List.foldlM_cons, called]
    rfl
  · rintro ⟨c, counts, same⟩
    rw [missed] at same
    cases c with
    | none =>
        have empty : rportAttached.bearers 0 rportWwn = ∅ := counts
        rw [empty] at bearer
        exact bearer
    | one p => exact attrAnswer_one_ne p _ same.symm
    | several =>
        rw [attrAnswer, Except.ok.injEq, Except.error.injEq] at same
        exact absurd same (by decide)

end Hbalinux
