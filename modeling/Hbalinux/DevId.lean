import Hbalinux.Designation
import Hbalinux.Inquiry

/-! # The identifier of a logical unit

The walk through the identification page keeps an offset where `Designation` has a
descriptor.  On every response it ends inside the returned bytes with the preferred
descriptor (`devIdSelect_eq`).  What is left in the buffer when there is none is not
cleared.
-/

namespace Hbalinux

open Outcome

theorem memcmpLess_iff {as bs : List UInt8} (size : as.length = bs.length) :
    memcmpLess as bs = true ↔ as.map UInt8.toNat < bs.map UInt8.toNat := by
  induction as generalizing bs with
  | nil =>
      obtain rfl := List.length_eq_zero_iff.mp size.symm
      simp [memcmpLess]
  | cons a as ih =>
      cases bs with
      | nil => cases size
      | cons b bs =>
          rw [memcmpLess, List.map_cons, List.map_cons, List.cons_lt_cons_iff, ← ih (by simpa using size)]
          simp [UInt8.lt_iff_toNat_lt, UInt8.toNat_inj]

/-- The record of `d` begins at the offset. -/
def RecordAt (mem : List UInt8) (offset : Nat) (d : Designation) : Prop :=
  d.bytes <+: mem.drop offset

section RecordAt

variable {mem : List UInt8} {offset : Nat} {d : Designation}

theorem RecordAt.byteAt (here : RecordAt mem offset d) {i : Nat} {byte : UInt8}
    (found : d.bytes[i]? = some byte) : byteAt mem (offset + i) = .ok byte := by
  obtain ⟨rest, split⟩ := here
  rw [Hbalinux.byteAt, ← List.getElem?_drop, ← split, List.getElem?_append_left, found]
  · rfl
  · exact (List.getElem?_eq_some_iff.mp found).1

theorem RecordAt.bytesAt (here : RecordAt mem offset d) :
    bytesAt mem offset d.bytes.length = .ok d.bytes := by
  obtain ⟨rest, split⟩ := here
  have size := congrArg List.length split
  have positive := d.bytes_length
  simp only [List.length_append, List.length_drop] at size
  rw [Hbalinux.bytesAt, if_pos (by omega), ← split, List.take_left']
  rfl

theorem RecordAt.designatorAt (here : RecordAt mem offset d) :
    Hbalinux.bytesAt mem (offset + 4) d.designator.length = .ok d.designator := by
  obtain ⟨rest, split⟩ := here
  have size := congrArg List.length split
  have length := d.bytes_length
  simp only [List.length_append, List.length_drop] at size
  rw [Hbalinux.bytesAt, if_pos (by omega), ← List.drop_drop, ← split]
  simp [Designation.bytes]

theorem RecordAt.idType (here : RecordAt mem offset d) :
    sgGetIdType mem offset = .ok (d.typeFlags &&& scsiInqtTypeMask) := by
  rw [sgGetIdType, here.byteAt rfl, ok_bind]

theorem RecordAt.idLen (here : RecordAt mem offset d) :
    idDesignatorLen mem offset = .ok (UInt8.ofNat d.designator.length) := by
  rw [idDesignatorLen, here.byteAt rfl]

end RecordAt

theorem Designation.lenByte (d : Designation) :
    (UInt8.ofNat d.designator.length).toNat = d.designator.length := by
  rw [UInt8.toNat_ofNat', Nat.mod_eq_of_lt d.short]

theorem descLen_toNat (idLen : UInt8) : (descLen idLen).toNat = idLen.toNat + 4 := by
  have bound := idLen.toNat_lt
  have header : sizeofDesc.toNat = 5 := rfl
  have sum : (idLen.toUInt64 + sizeofDesc).toNat = idLen.toNat + 5 := by
    rw [UInt64.toNat_add, UInt8.toNat_toUInt64, header]
    omega
  rw [descLen, UInt64.toNat_sub_of_le _ _ (by rw [UInt64.le_iff_toNat_le, sum]; simp), sum]
  simp

/-- A record is as long as the walk takes it to be. -/
theorem Designation.descLen (d : Designation) :
    (descLen (UInt8.ofNat d.designator.length)).toNat = d.bytes.length := by
  rw [descLen_toNat, d.lenByte, d.bytes_length]

/-- The offset that is kept belongs to the descriptor. -/
abbrev Holds (mem : List UInt8) : Option Nat → Option Designation → Prop :=
  Option.Rel (RecordAt mem)

theorem type_lt_iff (d e : Designation) :
    d.typeFlags &&& scsiInqtTypeMask < e.typeFlags &&& scsiInqtTypeMask ↔ d.type < e.type :=
  UInt8.lt_iff_toNat_lt

theorem type_eq_iff (d e : Designation) :
    d.typeFlags &&& scsiInqtTypeMask = e.typeFlags &&& scsiInqtTypeMask ↔ d.type = e.type :=
  UInt8.toNat_inj.symm

theorem acceptable_iff (d : Designation) :
    ¬ d.typeFlags &&& scsiInqtTypeMask > scsiDtypeNaa ↔ d.Acceptable := by
  rw [gt_iff_lt, UInt8.lt_iff_toNat_lt, not_lt]
  rfl

theorem sameTypeBetter_eq {mem : List UInt8} {dp best : Nat} {d e : Designation}
    (here : RecordAt mem dp d) (there : RecordAt mem best e) :
    sameTypeBetter mem dp best (d.typeFlags &&& scsiInqtTypeMask) =
      .ok (decide (e.type = d.type ∧ d.Better e)) := by
  rw [sameTypeBetter, there.idType, ok_bind]
  by_cases type : d.type = e.type
  · rw [if_pos ((type_eq_iff d e).mpr type), here.idLen, ok_bind, there.idLen, ok_bind]
    simp only [UInt8.lt_iff_toNat_lt, ← UInt8.toNat_inj, d.lenByte, e.lenByte]
    have better : e.type = d.type ∧ d.Better e ↔ d.designator.length < e.designator.length ∨
        d.designator.length = e.designator.length ∧
          d.designator.map UInt8.toNat < e.designator.map UInt8.toNat := by
      simp [Designation.Better, type]
    by_cases shorter : d.designator.length < e.designator.length
    · rw [if_pos shorter, decide_eq_true (better.mpr (.inl shorter))]
    · rw [if_neg shorter]
      by_cases length : d.designator.length = e.designator.length
      · rw [if_pos length, there.designatorAt, ← length, here.designatorAt]
        simp only [ok_bind, Except.ok.injEq]
        rw [Bool.eq_iff_iff, memcmpLess_iff length, decide_eq_true_iff, better]
        simp [length]
      · rw [if_neg length, decide_eq_false]
        rw [better]
        simp [shorter, length]
  · rw [if_neg (mt (type_eq_iff d e).mp type), decide_eq_false]
    exact fun both => type both.1.symm

theorem chooseDesc_eq {mem : List UInt8} {dp : Nat} {d : Designation} {best : Option Nat}
    {best' : Option Designation} (here : RecordAt mem dp d) (held : Holds mem best best') :
    ∃ chosen, chooseDesc mem dp (d.typeFlags &&& scsiInqtTypeMask) best = .ok chosen ∧
      Holds mem chosen (some (prefer d best')) := by
  cases held with
  | none => exact ⟨some dp, rfl, .some here⟩
  | @some best e there =>
      rw [chooseDesc, sameTypeBetter_eq here there, ok_bind, there.idType]
      by_cases better : d.key < e.key
      · refine ⟨some dp, ?_, by simpa [prefer, better] using here⟩
        have better' := (Designation.key_lt_key d e).mp better
        by_cases type : e.type = d.type
        · simp [type, better']
        · have higher : e.type < d.type := by
            rcases better' with higher | ⟨same, -⟩
            · exact higher
            · exact absurd same type
          have flags := (type_lt_iff e d).mpr higher
          simp [type, flags]
      · refine ⟨some best, ?_, by simpa [prefer, better] using there⟩
        rw [Designation.key_lt_key] at better
        have flags : ¬ e.typeFlags &&& scsiInqtTypeMask < d.typeFlags &&& scsiInqtTypeMask :=
          fun less => better (.inl ((type_lt_iff e d).mp less))
        simp [better, flags]

/-- The bytes that are still to be walked through. -/
def Walk.region (mem : List UInt8) (s : Walk) : List UInt8 := (mem.drop s.dp).take s.rlen.toNat

/-- What holds of the walk between its rounds. -/
structure Walking (mem page : List UInt8) (s : Walk) : Prop where
  /-- What is left of the page is walked through next. -/
  inside : s.dp + s.rlen.toNat = 4 + page.length
  fits : 4 + page.length ≤ mem.length
  /-- The descriptors so far and those to come are the ones of the page. -/
  found : ∃ seen, designations page = seen ++ designations (s.region mem) ∧
    Holds mem s.best (preferred seen)

section Walking

variable {mem page : List UInt8} {s : Walk}

theorem Walking.region_length (walking : Walking mem page s) :
    (s.region mem).length = s.rlen.toNat := by
  have inside := walking.inside
  have fits := walking.fits
  rw [Walk.region, List.length_take, List.length_drop]
  omega

theorem Walking.recordAt {d : Designation} {rest : List UInt8}
    (taken : takeDesignation (s.region mem) = some (d, rest)) : RecordAt mem s.dp d :=
  ((takeDesignation_eq_some.mp taken).1 ▸ List.prefix_append _ _ : d.bytes <+: s.region mem).trans
    (List.take_prefix ..)

/-- Where no descriptor follows, the walk ends. -/
theorem Walking.stops (walking : Walking mem page s) (none : takeDesignation (s.region mem) = none) :
    descRound mem s = .done (.ok s.best) := by
  have length := walking.region_length
  unfold descRound
  by_cases few : s.rlen < sizeofDesc
  · rw [if_pos few]
  · rw [if_neg few]
    have five : sizeofDesc.toNat = 5 := rfl
    rw [UInt64.lt_iff_toNat_lt, five] at few
    rcases takeDesignation_eq_none.mp none with short | ⟨idLen, here, unfit⟩
    · omega
    · rw [Walk.region, List.getElem?_take_of_lt (by omega), List.getElem?_drop] at here
      have long : descLen idLen > s.rlen := by
        rw [gt_iff_lt, UInt64.lt_iff_toNat_lt, descLen_toNat]
        omega
      rw [descStep, idDesignatorLen, byteAt, here, demand_some, ok_bind, if_pos long]

/-- The round for a descriptor. -/
theorem Walking.goes (walking : Walking mem page s) {d : Designation} {rest : List UInt8}
    (taken : takeDesignation (s.region mem) = some (d, rest)) :
    ∃ t, Goes (descRound mem) s t ∧ Walking mem page t := by
  obtain ⟨split, some_left⟩ := takeDesignation_eq_some.mp taken
  have here := Walking.recordAt taken
  have length := congrArg List.length split
  rw [walking.region_length, List.length_append] at length
  have five : sizeofDesc.toNat = 5 := rfl
  have header := d.bytes_length
  have enough : ¬ s.rlen < sizeofDesc := by
    rw [UInt64.lt_iff_toNat_lt, five]
    rcases some_left with inside | behind
    · have positive := List.length_pos_of_ne_nil inside
      omega
    · have positive := List.length_pos_of_ne_nil behind
      omega
  have fits : ¬ descLen (UInt8.ofNat d.designator.length) > s.rlen := by
    rw [gt_iff_lt, UInt64.lt_iff_toNat_lt, d.descLen]
    omega
  obtain ⟨seen, found, held⟩ := walking.found
  rw [designations_of_some taken, List.append_cons] at found
  obtain ⟨best, step, held'⟩ : ∃ best, descStep mem s = .ok (some
      ⟨s.dp + d.bytes.length, s.rlen - descLen (UInt8.ofNat d.designator.length), best⟩) ∧
      Holds mem best (preferred (seen ++ [d])) := by
    rw [descStep, here.idLen, preferred_concat]
    simp only [ok_bind, if_neg fits, here.idType, d.descLen]
    by_cases acceptable : d.Acceptable
    · obtain ⟨chosen, chose, held'⟩ := chooseDesc_eq here held
      rw [if_neg ((acceptable_iff d).mpr acceptable), if_pos acceptable, chose]
      exact ⟨chosen, rfl, held'⟩
    · rw [if_pos (not_not.mp (mt (acceptable_iff d).mp acceptable)), if_neg acceptable]
      exact ⟨s.best, rfl, held⟩
  have rest_length : (s.rlen - descLen (UInt8.ofNat d.designator.length)).toNat = rest.length := by
    rw [UInt64.toNat_sub_of_le _ _ (UInt64.not_lt.mp fits), d.descLen]
    omega
  have onward : ((mem.drop (s.dp + d.bytes.length)).take rest.length) = rest := by
    have dropped := congrArg (List.drop d.bytes.length) split
    rw [Walk.region, List.drop_take, List.drop_drop, List.drop_left] at dropped
    rw [← Nat.sub_eq_of_eq_add' length]
    exact dropped
  refine ⟨_, by rw [Goes, descRound, if_neg enough, step], ?_, walking.fits, seen ++ [d], ?_, held'⟩
  · have inside := walking.inside
    simp only [rest_length]
    omega
  · rw [found, Walk.region]
    simp only [rest_length, onward]

end Walking

/-- A round that goes on steps over a record that does not exceed what is left. -/
theorem descRound_goes {mem : List UInt8} {s t : Walk} (goes : Goes (descRound mem) s t) :
    ∃ idLen, idDesignatorLen mem s.dp = .ok idLen ∧ descLen idLen ≤ s.rlen ∧
      t.dp = s.dp + (descLen idLen).toNat ∧ t.rlen.toNat + (descLen idLen).toNat = s.rlen.toNat := by
  unfold Goes descRound at goes
  split at goes
  · cases goes
  · split at goes
    · cases goes
    · cases goes
    · rename_i next step
      obtain rfl := Round.again.inj goes
      unfold descStep at step
      obtain ⟨idLen, read, step⟩ := bind_eq_ok.mp step
      dsimp only at step
      split at step
      · cases step
      · rename_i fits
        refine ⟨idLen, read, UInt64.not_lt.mp fits, ?_⟩
        obtain ⟨type, -, step⟩ := bind_eq_ok.mp step
        have moved : ∀ best : Option Nat,
            (⟨s.dp + (descLen idLen).toNat, s.rlen - descLen idLen, best⟩ : Walk) = next →
            next.dp = s.dp + (descLen idLen).toNat ∧
              next.rlen.toNat + (descLen idLen).toNat = s.rlen.toNat := by
          rintro best rfl
          refine ⟨rfl, ?_⟩
          have bound := UInt64.le_iff_toNat_le.mp (UInt64.not_lt.mp fits)
          simp only [UInt64.toNat_sub_of_le _ _ (UInt64.not_lt.mp fits)]
          omega
        split at step
        · exact moved _ (Option.some.inj (Except.ok.inj step))
        · obtain ⟨best, -, step⟩ := bind_eq_ok.mp step
          exact moved _ (Option.some.inj (Except.ok.inj step))

section Walking

variable {mem page : List UInt8} {s : Walk}

theorem Walking.keeps {t : Walk} (walking : Walking mem page s) (goes : Goes (descRound mem) s t) :
    Walking mem page t ∧ t.rlen.toNat < s.rlen.toNat := by
  constructor
  · cases taken : takeDesignation (s.region mem) with
    | none =>
        have stops := walking.stops taken
        rw [goes] at stops
        cases stops
    | some pair =>
        obtain ⟨t', goes', walking'⟩ := walking.goes taken
        exact goes.unique goes' ▸ walking'
  · obtain ⟨idLen, -, -, -, rest⟩ := descRound_goes goes
    rw [descLen_toNat] at rest
    omega

/-- A round that leaves does so with the preferred descriptor. -/
theorem Walking.leaves (walking : Walking mem page s) {r : Outcome (Option Nat)}
    (leaves : descRound mem s = .done r) :
    ∃ best, r = .ok best ∧ Holds mem best (preferred (designations page)) := by
  cases taken : takeDesignation (s.region mem) with
  | none =>
      obtain ⟨seen, found, held⟩ := walking.found
      rw [designations_of_none taken, List.append_nil] at found
      rw [walking.stops taken] at leaves
      exact ⟨s.best, (Round.done.inj leaves).symm, found ▸ held⟩
  | some pair =>
      obtain ⟨t, goes, -⟩ := walking.goes taken
      rw [goes] at leaves
      cases leaves

/-- The walk comes to its end. -/
theorem Walking.run (walking : Walking mem page s) {fuel : Nat} (enough : s.rlen.toNat < fuel) :
    ∃ best, runLoop (descRound mem) fuel s = some (.ok best) ∧
      Holds mem best (preferred (designations page)) := by
  obtain ⟨r, ran⟩ := ends_of_measure (fun s : Walk => s.rlen.toNat)
    (fun s t walking goes => Walking.keeps walking goes) walking
  obtain ⟨last, reaches, leaves⟩ := endsWith_iff.mp ⟨_, ran⟩
  have walking' := Reaches.preserves (fun s t walking goes => (Walking.keeps walking goes).1)
    walking reaches
  obtain ⟨best, rfl, holds⟩ := walking'.leaves leaves
  exact ⟨best, runLoop_more ran enough, holds⟩

end Walking

/-- A page length from its two bytes. -/
theorem pageLength (high low : UInt8) :
    (high.toUInt64 <<< 8 ||| low.toUInt64).toNat = high.toNat * 256 + low.toNat := by
  have high_lt := high.toNat_lt
  have low_lt := low.toNat_lt
  have shift : (8 : UInt64).toNat % 64 = 8 := rfl
  have shifted : (high.toUInt64 <<< 8).toNat = high.toNat <<< 8 := by
    rw [UInt64.toNat_shiftLeft, UInt8.toNat_toUInt64, shift, Nat.shiftLeft_eq]
    omega
  rw [UInt64.toNat_or, shifted, UInt8.toNat_toUInt64, ← Nat.shiftLeft_add_eq_or_of_lt low_lt,
    Nat.shiftLeft_eq]

section Response

variable {mem : List UInt8} {len : UInt32}

theorem devIdStart_of_few (few : len < sizeofDevId) :
    devIdStart mem len = .ok none ∧ identificationPage (mem.take len.toNat) = none := by
  refine ⟨if_pos few, ?_⟩
  have size : (mem.take len.toNat).length < 4 := by
    rw [UInt32.lt_iff_toNat_lt] at few
    exact (List.length_take_le ..).trans_lt few
  generalize mem.take len.toNat = response at size
  match response, size with
  | [], _ | [_], _ | [_, _], _ | [_, _, _], _ => rfl

/-- The header of a response with at least four bytes. -/
theorem devIdStart_of_header {periph pageCode high low : UInt8} {rest : List UInt8}
    (enough : ¬ len < sizeofDevId) :
    devIdStart (periph :: pageCode :: high :: low :: rest) len =
        (if pageCode ≠ scsiInqpDevId then .ok none
        else .ok (some ⟨4, if high.toUInt64 <<< 8 ||| low.toUInt64 > (len - sizeofDevId).toUInt64
          then (len - sizeofDevId).toUInt64 else high.toUInt64 <<< 8 ||| low.toUInt64, none⟩)) ∧
      identificationPage ((periph :: pageCode :: high :: low :: rest).take len.toNat) =
        if pageCode = scsiInqpDevId then
          some ((rest.take (len.toNat - 4)).take (high.toNat * 256 + low.toNat))
        else none := by
  have four : 4 ≤ len.toNat := UInt32.le_iff_toNat_le.mp (UInt32.not_lt.mp enough)
  constructor
  · rw [devIdStart, if_neg enough]
    rfl
  · obtain ⟨more, size⟩ := Nat.exists_eq_add_of_le' four
    rw [size]
    rfl

/-- The walk starts with the descriptor list that has been returned, if there is one. -/
theorem devIdStart_eq (returned : len.toNat ≤ mem.length) :
    match identificationPage (mem.take len.toNat) with
    | none => devIdStart mem len = .ok none
    | some page => ∃ start, devIdStart mem len = .ok (some start) ∧
        start.rlen.toNat = page.length ∧ Walking mem page start := by
  by_cases few : len < sizeofDevId
  · rw [(devIdStart_of_few few).2]
    exact (devIdStart_of_few few).1
  have four : 4 ≤ len.toNat := UInt32.le_iff_toNat_le.mp (UInt32.not_lt.mp few)
  obtain ⟨periph, pageCode, high, low, rest, rfl⟩ : ∃ periph pageCode high low rest,
      mem = periph :: pageCode :: high :: low :: rest := by
    match mem, four.trans returned with
    | periph :: pageCode :: high :: low :: rest, _ => exact ⟨_, _, _, _, _, rfl⟩
  obtain ⟨start, page⟩ := @devIdStart_of_header len periph pageCode high low rest few
  rw [start, page]
  by_cases code : pageCode = scsiInqpDevId
  · rw [if_pos code]
    have left : (len - sizeofDevId).toUInt64.toNat = len.toNat - 4 := by
      rw [UInt32.toNat_toUInt64, UInt32.toNat_sub_of_le _ _ (UInt32.not_lt.mp few)]
      rfl
    simp only [List.length_cons] at returned
    have length : ((rest.take (len.toNat - 4)).take (high.toNat * 256 + low.toNat)).length =
        min (high.toNat * 256 + low.toNat) (len.toNat - 4) := by
      simp only [List.length_take]
      omega
    have rlen : (if high.toUInt64 <<< 8 ||| low.toUInt64 > (len - sizeofDevId).toUInt64
        then (len - sizeofDevId).toUInt64 else high.toUInt64 <<< 8 ||| low.toUInt64).toNat =
        min (high.toNat * 256 + low.toNat) (len.toNat - 4) := by
      simp only [gt_iff_lt, UInt64.lt_iff_toNat_lt, apply_ite UInt64.toNat, left, pageLength]
      split <;> omega
    refine ⟨_, if_neg (not_not.mpr code), by rw [rlen, length], by simp only [rlen, length], ?_, [],
      ?_, .none⟩
    · simp only [length, List.length_cons]
      omega
    · rw [Walk.region, rlen, List.take_take]
      rfl
  · rw [if_neg code]
    exact if_pos code

theorem devIdStart_eq_some (returned : len.toNat ≤ mem.length) {start : Walk}
    (started : devIdStart mem len = .ok (some start)) :
    ∃ page, Walking mem page start ∧ 4 + page.length ≤ len.toNat := by
  have start_eq := devIdStart_eq returned
  cases carried : identificationPage (mem.take len.toNat) with
  | none =>
      rw [carried] at start_eq
      simp only [started] at start_eq
      cases start_eq
  | some page =>
      rw [carried] at start_eq
      obtain ⟨start', started', -, walking⟩ := start_eq
      rw [started] at started'
      cases started'
      have length := identificationPage_length carried
      rw [List.length_take, Nat.min_eq_left returned] at length
      exact ⟨page, walking, length⟩

/-- What is selected is the preferred descriptor of the response. -/
theorem devIdSelect_eq {resultLen : UInt64} {fuel : Nat} (returned : len.toNat ≤ mem.length)
    (short : len.toNat ≤ 255) (room : len.toNat ≤ resultLen.toNat) (enough : 256 ≤ fuel) :
    devIdSelect mem len resultLen fuel =
      some (.ok ((preferred (responseDesignations (mem.take len.toNat))).map Designation.bytes)) := by
  have start := devIdStart_eq returned
  unfold responseDesignations
  cases carried : identificationPage (mem.take len.toNat) with
  | none =>
      rw [carried] at start
      simp only at start
      rw [devIdSelect, start]
      rfl
  | some page =>
      rw [carried] at start
      obtain ⟨start, started, rlen, walking⟩ := start
      have length := identificationPage_length carried
      rw [List.length_take, Nat.min_eq_left returned] at length
      obtain ⟨best, ran, held⟩ := walking.run (by omega : start.rlen.toNat < fuel)
      rw [devIdSelect, started]
      simp only [ran, Option.map_some, ok_bind]
      cases chosen : preferred (designations _) with
      | none =>
          rw [chosen] at held
          cases held
          rfl
      | some d =>
          rw [chosen] at held
          cases held with
          | some there =>
              have inside := (designations_inside (mem_of_preferred chosen).1).length_le
              have room : ¬ descLen (UInt8.ofNat d.designator.length) > resultLen := by
                rw [gt_iff_lt, UInt64.lt_iff_toNat_lt, d.descLen]
                omega
              simp only [devIdMove, there.idLen, ok_bind, if_neg room, d.descLen, there.bytesAt]
              rfl

end Response

/-- The bytes that the inquiry has returned. -/
def Inquired.response (inquired : Inquired) : List UInt8 := inquired.buf.take inquired.lenp.toNat

/-- The residual count is a part of what was asked for. -/
def ResidInRange (devices : SgDevices) : Prop :=
  ∀ name request reply, devices name request = some reply →
    0 ≤ reply.resid ∧ reply.resid ≤ request.dxferLen.toNat

/-- The request for the identification page. -/
def devIdRequest (resultLen : UInt64) : SgRequest :=
  let len := resultLen.toUInt32.toUInt64
  let len := if len > 255 then 255 else len
  ⟨inquiryCommand scsiInqfEvpd scsiInqpDevId len, len, 252⟩

section Inquiry

variable {devices : SgDevices} {name : CStr} {resultLen : UInt64}

theorem devIdRequest_len (resultLen : UInt64) :
    (devIdRequest resultLen).dxferLen.toNat ≤ 255 ∧
      (devIdRequest resultLen).dxferLen.toNat ≤ resultLen.toNat := by
  have bound : resultLen.toUInt32.toUInt64.toNat ≤ resultLen.toNat := by
    rw [UInt32.toNat_toUInt64, UInt64.toNat_toUInt32]
    exact Nat.mod_le ..
  have largest : (255 : UInt64).toNat = 255 := rfl
  simp only [devIdRequest, gt_iff_lt, UInt64.lt_iff_toNat_lt, apply_ite UInt64.toNat, largest]
  split <;> omega

theorem putBytes_length {bytes buf : List UInt8} (fits : bytes.length ≤ buf.length) :
    (putBytes bytes buf).length = buf.length := by
  rw [putBytes, List.length_append, List.length_drop]
  omega

/-- The inquiry, with its request by name. -/
theorem devIdInquiry_eq (devices : SgDevices) (name : CStr) (resultLen : UInt64) :
    devIdInquiry devices name resultLen =
      match devices name (devIdRequest resultLen) with
      | none => ⟨hbaStatusError, List.replicate resultLen.toNat 0, 0, 0, List.replicate 252 0, 252⟩
      | some reply =>
          let buf := putBytes (reply.data.take (devIdRequest resultLen).dxferLen.toNat)
            (putBytes (List.replicate (devIdRequest resultLen).dxferLen.toNat 0)
              (List.replicate resultLen.toNat 0))
          let sense := putBytes (reply.sense.take 252) (List.replicate 252 0)
          if reply.rc < 0 then ⟨hbaStatusError, buf, 0, 0, sense, 252⟩
          else ⟨hbaStatusOk, buf,
            UInt32.ofInt ((devIdRequest resultLen).dxferLen.toNat - reply.resid), reply.status,
            sense, reply.sbLenWr.toUInt32⟩ := rfl

theorem devIdInquiry_of_none (closed : devices name (devIdRequest resultLen) = none) :
    (devIdInquiry devices name resultLen).buf = List.replicate resultLen.toNat 0 ∧
      (devIdInquiry devices name resultLen).lenp = 0 := by
  rw [devIdInquiry_eq, closed]
  exact ⟨rfl, rfl⟩

theorem devIdInquiry_of_some {reply : SgReply}
    (answered : devices name (devIdRequest resultLen) = some reply) :
    (devIdInquiry devices name resultLen).buf =
      putBytes (reply.data.take (devIdRequest resultLen).dxferLen.toNat)
        (List.replicate resultLen.toNat 0) ∧
    (devIdInquiry devices name resultLen).lenp = if reply.rc < 0 then 0 else
      UInt32.ofInt ((devIdRequest resultLen).dxferLen.toNat - reply.resid) := by
  have cleared : putBytes (List.replicate (devIdRequest resultLen).dxferLen.toNat 0)
      (List.replicate resultLen.toNat 0) = List.replicate resultLen.toNat 0 := by
    rw [putBytes, List.length_replicate, List.drop_replicate, List.replicate_append_replicate,
      Nat.add_sub_cancel' (devIdRequest_len resultLen).2]
  rw [devIdInquiry_eq, answered]
  simp only [cleared]
  split <;> exact ⟨rfl, rfl⟩

/-- The buffer keeps its length, and no more than it holds is returned. -/
theorem devIdInquiry_bounds (honest : ResidInRange devices) (name : CStr) (resultLen : UInt64) :
    (devIdInquiry devices name resultLen).buf.length = resultLen.toNat ∧
      (devIdInquiry devices name resultLen).lenp.toNat ≤ 255 ∧
      (devIdInquiry devices name resultLen).lenp.toNat ≤ resultLen.toNat := by
  obtain ⟨small, room⟩ := devIdRequest_len resultLen
  cases answered : devices name (devIdRequest resultLen) with
  | none =>
      obtain ⟨buf, lenp⟩ := devIdInquiry_of_none answered
      rw [buf, lenp, List.length_replicate]
      exact ⟨rfl, Nat.zero_le _, Nat.zero_le _⟩
  | some reply =>
      obtain ⟨buf, lenp⟩ := devIdInquiry_of_some answered
      obtain ⟨least, most⟩ := honest name _ reply answered
      have bound : (devIdInquiry devices name resultLen).lenp.toNat ≤
          (devIdRequest resultLen).dxferLen.toNat := by
        rw [lenp]
        split
        · exact Nat.zero_le _
        · rw [UInt32.ofInt, UInt32.toNat_ofNat']
          omega
      rw [buf, putBytes_length, List.length_replicate]
      · exact ⟨rfl, bound.trans small, bound.trans room⟩
      · simp only [List.length_take, List.length_replicate]
        omega

/-- The record that `sg_get_dev_id` selects. -/
theorem devIdSelect_inquiry (honest : ResidInRange devices) (name : CStr) (resultLen : UInt64)
    {fuel : Nat} (enough : 256 ≤ fuel) :
    devIdSelect (devIdInquiry devices name resultLen).buf
        (devIdInquiry devices name resultLen).lenp resultLen fuel =
      some (.ok ((preferred (responseDesignations
        (devIdInquiry devices name resultLen).response)).map Designation.bytes)) := by
  obtain ⟨length, small, room⟩ := devIdInquiry_bounds honest name resultLen
  exact devIdSelect_eq (length ▸ room) small room enough

/-- What `sg_get_dev_id` leaves in the buffer. -/
theorem sgGetDevId_eq (honest : ResidInRange devices) (name : CStr) (resultLen : UInt64)
    {fuel : Nat} (enough : 256 ≤ fuel) :
    sgGetDevId devices name resultLen fuel = some (.ok
      (match preferred (responseDesignations (devIdInquiry devices name resultLen).response) with
      | none => (devIdInquiry devices name resultLen).buf
      | some d => d.bytes ++ List.replicate (resultLen.toNat - d.bytes.length) 0)) := by
  simp only [sgGetDevId, devIdSelect_inquiry honest name resultLen enough]
  cases preferred _ with
  | none => rfl
  | some d => rfl

end Inquiry

/-- Devices that answer with their page. -/
def answering (pages : CStr → List UInt8) : SgDevices := fun name request =>
  some ⟨0, pages name, [], request.dxferLen.toNat - ((pages name).take request.dxferLen.toNat).length,
    0, 0, 0, 0⟩

theorem answering_resid (pages : CStr → List UInt8) : ResidInRange (answering pages) := by
  intro name request reply answered
  cases answered
  simp only [List.length_take]
  omega

def vendorDesignation : Designation := ⟨2, 1, 0, [0x41, 0x42], by decide⟩

def naaDesignation : Designation := ⟨1, 3, 0, [0x50, 0x01], by decide⟩

/-- The same two descriptors in both orders. -/
def twoDevices : SgDevices := answering fun name =>
  if name = ['a'] then [0, 0x83, 0, 12, 2, 1, 0, 2, 0x41, 0x42, 1, 3, 0, 2, 0x50, 0x01]
  else [0, 0x83, 0, 12, 1, 3, 0, 2, 0x50, 0x01, 2, 1, 0, 2, 0x41, 0x42]

/-- The identifier of the logical unit is that of its best descriptor, the first one of
    several; a permutation of the descriptors keeps its type and its designator. -/
theorem sgGetDevId_best {devices : SgDevices} (honest : ResidInRange devices) :
    (∀ name resultLen fuel, 256 ≤ fuel →
      let found := (responseDesignations (devIdInquiry devices name resultLen).response).filter
        fun d => d.Acceptable
      found ≠ [] → ∃ buf before d after,
        sgGetDevId devices name resultLen fuel = some (.ok buf) ∧ d.bytes <+: buf ∧
        found = before ++ d :: after ∧ (∀ e ∈ found, ¬ e.Better d) ∧ ∀ e ∈ before, d.Better e) ∧
    (∀ name name' resultLen resultLen' fuel ds ds', 256 ≤ fuel →
      Lists (devIdInquiry devices name resultLen).response ds →
      Lists (devIdInquiry devices name' resultLen').response ds' →
      (∀ d ∈ ds, d.designator ≠ []) → ds.Perm ds' → (∃ d ∈ ds, d.Acceptable) →
      ∃ buf buf', ∃ d d' : Designation, sgGetDevId devices name resultLen fuel = some (.ok buf) ∧
        sgGetDevId devices name' resultLen' fuel = some (.ok buf') ∧
        d.bytes <+: buf ∧ d'.bytes <+: buf' ∧ d.type = d'.type ∧ d.designator = d'.designator) := by
  constructor
  · intro name resultLen fuel enough found nonempty
    obtain ⟨d, best⟩ : ∃ d, found.argmin Designation.key = some d :=
      Option.ne_none_iff_exists'.mp (mt List.argmin_eq_none.mp nonempty)
    obtain ⟨before, after, split, worse, -⟩ := argmin_split best
    refine ⟨_, before, d, after, sgGetDevId_eq honest name resultLen enough, ?_, split, ?_, ?_⟩
    · have best' : preferred (responseDesignations (devIdInquiry devices name resultLen).response) =
          some d := best
      rw [best']
      exact List.prefix_append ..
    · intro e member better
      exact List.not_lt_of_mem_argmin member best ((Designation.key_lt_key e d).mpr better)
    · intro e member
      exact (Designation.key_lt_key d e).mp (worse e member)
  · intro name name' resultLen resultLen' fuel ds ds' enough lists lists' nonempty perm acceptable
    have nonempty' : ∀ d ∈ ds', d.designator ≠ [] := fun d member =>
      nonempty d (perm.mem_iff.mpr member)
    have acceptable' : ∃ d ∈ ds', d.Acceptable :=
      acceptable.imp fun d both => both.imp_left perm.mem_iff.mp
    obtain ⟨d, best⟩ := preferred_isSome acceptable
    obtain ⟨d', best'⟩ := preferred_isSome acceptable'
    have same := argmin_perm (perm.filter _) best best'
    refine ⟨_, _, d, d', sgGetDevId_eq honest name resultLen enough,
      sgGetDevId_eq honest name' resultLen' enough, ?_, ?_, Designation.key_eq same⟩
    · rw [responseDesignations_of_lists lists nonempty, best]
      exact List.prefix_append ..
    · rw [responseDesignations_of_lists lists' nonempty', best']
      exact List.prefix_append ..

theorem twoDevices_resid : ResidInRange twoDevices := answering_resid _

theorem twoDevices_lists :
    Lists (devIdInquiry twoDevices ['a'] 16).response [vendorDesignation, naaDesignation] ∧
      Lists (devIdInquiry twoDevices ['b'] 64).response [naaDesignation, vendorDesignation] :=
  ⟨⟨0, 0, 12, [], rfl, by decide⟩, 0, 0, 12, [], rfl, by decide⟩

theorem sgGetDevId_best_twoDevices :
    ∃ buf buf', ∃ d d' : Designation, sgGetDevId twoDevices ['a'] 16 256 = some (.ok buf) ∧
      sgGetDevId twoDevices ['b'] 64 256 = some (.ok buf') ∧
      d.bytes <+: buf ∧ d'.bytes <+: buf' ∧ d.type = d'.type ∧ d.designator = d'.designator :=
  (sgGetDevId_best twoDevices_resid).2 ['a'] ['b'] 16 64 256 _ _ le_rfl twoDevices_lists.1
    twoDevices_lists.2 (by simp [vendorDesignation, naaDesignation]) (List.Perm.swap ..)
    ⟨naaDesignation, by simp, by decide⟩

/-- The walk stays inside of what has been returned. -/
structure StaysInside (inquired : Inquired) (resultLen : UInt64) : Prop where
  returned : inquired.lenp.toNat ≤ inquired.buf.length
  /-- Nothing behind the returned bytes is read, also where `best` is moved; the walk ends. -/
  reads : ∀ fuel, 256 ≤ fuel → ∃ selected,
    devIdSelect inquired.response inquired.lenp resultLen fuel = some (.ok selected) ∧
    devIdSelect inquired.buf inquired.lenp resultLen fuel = some (.ok selected)
  /-- `len -= sizeof(*idp)` -/
  header : ∀ start, devIdStart inquired.buf inquired.lenp = .ok (some start) →
    sizeofDevId ≤ inquired.lenp
  /-- `rlen` never counts more than is left. -/
  region : ∀ start s, devIdStart inquired.buf inquired.lenp = .ok (some start) →
    Reaches (descRound inquired.buf) start s → s.dp + s.rlen.toNat ≤ inquired.lenp.toNat
  /-- `rlen -= dlen` -/
  onward : ∀ start s t, devIdStart inquired.buf inquired.lenp = .ok (some start) →
    Reaches (descRound inquired.buf) start s → Goes (descRound inquired.buf) s t →
    ∃ idLen, idDesignatorLen inquired.buf s.dp = .ok idLen ∧ descLen idLen ≤ s.rlen ∧
      t.rlen.toNat = s.rlen.toNat - (descLen idLen).toNat
  /-- `result_len - dlen`; `dlen > result_len` cannot happen. -/
  moves : ∀ start s best, devIdStart inquired.buf inquired.lenp = .ok (some start) →
    Reaches (descRound inquired.buf) start s →
    descRound inquired.buf s = .done (.ok (some best)) →
    ∃ idLen, idDesignatorLen inquired.buf best = .ok idLen ∧ descLen idLen ≤ resultLen

theorem sgGetDevId_staysInside {devices : SgDevices} (honest : ResidInRange devices) (name : CStr)
    (resultLen : UInt64) : StaysInside (devIdInquiry devices name resultLen) resultLen := by
  obtain ⟨length, small, room⟩ := devIdInquiry_bounds honest name resultLen
  generalize devIdInquiry devices name resultLen = inquired at length small room
  have returned : inquired.lenp.toNat ≤ inquired.buf.length := length ▸ room
  have response_length : inquired.response.length = inquired.lenp.toNat := by
    rw [Inquired.response, List.length_take, Nat.min_eq_left returned]
  have walking : ∀ start s, devIdStart inquired.buf inquired.lenp = .ok (some start) →
      Reaches (descRound inquired.buf) start s →
      ∃ page, Walking inquired.buf page s ∧ 4 + page.length ≤ inquired.lenp.toNat := by
    intro start s started reaches
    obtain ⟨page, walking, inside⟩ := devIdStart_eq_some returned started
    exact ⟨page, Reaches.preserves (fun s t walking goes => (Walking.keeps walking goes).1) walking
      reaches, inside⟩
  refine ⟨returned, ?reads, ?header, ?region, ?onward, ?moves⟩
  case reads =>
    intro fuel enough
    have whole := devIdSelect_eq returned small room enough
    have part := devIdSelect_eq response_length.ge small room enough
    rw [Inquired.response, List.take_take, Nat.min_self] at part
    exact ⟨_, part, whole⟩
  case header =>
    intro start started
    obtain ⟨page, -, inside⟩ := walking start start started .refl
    exact UInt32.le_iff_toNat_le.mpr ((Nat.le_add_right 4 _).trans inside)
  case region =>
    intro start s started reaches
    obtain ⟨page, walking, inside⟩ := walking start s started reaches
    exact walking.inside.trans_le inside
  case onward =>
    intro start s t _ _ goes
    obtain ⟨idLen, read, fits, -, rest⟩ := descRound_goes goes
    exact ⟨idLen, read, fits, (Nat.sub_eq_of_eq_add rest.symm).symm⟩
  case moves =>
    intro start s best started reaches leaves
    obtain ⟨page, walking, inside⟩ := walking start s started reaches
    obtain ⟨best', same, held⟩ := walking.leaves leaves
    obtain rfl := Except.ok.inj same
    cases chosen : preferred (designations page) with
    | none =>
        rw [chosen] at held
        cases held
    | some d =>
        rw [chosen] at held
        cases held with
        | some there =>
            have fits := (designations_inside (mem_of_preferred chosen).1).length_le
            refine ⟨_, there.idLen, ?_⟩
            rw [UInt64.le_iff_toNat_le, d.descLen]
            omega

theorem sgGetDevId_staysInside_twoDevices :
    StaysInside (devIdInquiry twoDevices ['a'] 16) 16 :=
  sgGetDevId_staysInside twoDevices_resid ['a'] 16

def AllZero (bytes : List UInt8) : Prop := ∀ byte ∈ bytes, byte = 0

theorem devIdInquiry_allZero (devices : SgDevices) (name : CStr) (resultLen : UInt64) :
    AllZero (devIdInquiry devices name resultLen).buf ↔
      ∀ reply, devices name (devIdRequest resultLen) = some reply →
        AllZero (reply.data.take (devIdRequest resultLen).dxferLen.toNat) := by
  cases answered : devices name (devIdRequest resultLen) with
  | none =>
      rw [(devIdInquiry_of_none answered).1]
      exact ⟨fun _ _ other => (nomatch other), fun _ => fun byte member =>
        List.eq_of_mem_replicate member⟩
  | some reply =>
      rw [(devIdInquiry_of_some answered).1, putBytes, List.drop_replicate]
      simp only [AllZero, List.mem_append, Option.some.injEq, forall_eq']
      constructor
      · intro zero byte member
        exact zero byte (.inl member)
      · intro zero byte member
        exact member.elim (zero byte) List.eq_of_mem_replicate

/-- The buffer holds one descriptor of the response and else only zeros, and only zeros if none
    is selected. -/
def LeavesClean (devices : SgDevices) (name : CStr) (resultLen : UInt64) : Prop :=
  ∀ fuel, 256 ≤ fuel → ∃ selected buf,
    devIdSelect (devIdInquiry devices name resultLen).buf
      (devIdInquiry devices name resultLen).lenp resultLen fuel = some (.ok selected) ∧
    sgGetDevId devices name resultLen fuel = some (.ok buf) ∧
    (AllZero buf ∨
      ∃ d ∈ responseDesignations (devIdInquiry devices name resultLen).response, ∃ n,
        buf = d.bytes ++ List.replicate n 0) ∧
    (selected = none → AllZero buf)

/-- The buffer is clean exactly when a descriptor is selected or only zeros were received. -/
theorem sgGetDevId_clean_iff {devices : SgDevices} (honest : ResidInRange devices) (name : CStr)
    (resultLen : UInt64) :
    LeavesClean devices name resultLen ↔
      (∃ d ∈ responseDesignations (devIdInquiry devices name resultLen).response, d.Acceptable) ∨
      ∀ reply, devices name (devIdRequest resultLen) = some reply →
        AllZero (reply.data.take (devIdRequest resultLen).dxferLen.toNat) := by
  rw [← devIdInquiry_allZero]
  constructor
  · intro clean
    obtain ⟨selected, buf, select, ran, -, empty⟩ := clean 256 le_rfl
    rw [devIdSelect_inquiry honest name resultLen le_rfl] at select
    rw [sgGetDevId_eq honest name resultLen le_rfl] at ran
    cases select
    cases chosen : preferred (responseDesignations (devIdInquiry devices name resultLen).response) with
    | none =>
        rw [chosen] at ran empty
        cases ran
        exact .inr (empty rfl)
    | some d => exact .inl ⟨d, mem_of_preferred chosen⟩
  · intro covered fuel enough
    refine ⟨_, _, devIdSelect_inquiry honest name resultLen enough,
      sgGetDevId_eq honest name resultLen enough, ?_⟩
    cases chosen : preferred (responseDesignations (devIdInquiry devices name resultLen).response) with
    | none =>
        rcases covered with acceptable | zero
        · obtain ⟨d, chosen'⟩ := preferred_isSome acceptable
          rw [chosen] at chosen'
          cases chosen'
        · exact ⟨.inl zero, fun _ => zero⟩
    | some d => exact ⟨.inr ⟨d, (mem_of_preferred chosen).1, _, rfl⟩, fun none => by cases none⟩

theorem sgGetDevId_clean_twoDevices : LeavesClean twoDevices ['a'] 16 := by
  refine (sgGetDevId_clean_iff twoDevices_resid ['a'] 16).mpr (.inl ⟨naaDesignation, ?_, by decide⟩)
  rw [responseDesignations_of_lists twoDevices_lists.1 (by simp [vendorDesignation, naaDesignation])]
  simp

/-- A page with nothing but a relative target port. -/
def portPage : List UInt8 := [0, 0x83, 0, 8, 1, 0x14, 0, 4, 0, 0, 0, 1]

/-- The page is left in the buffer although no descriptor is selected. -/
theorem sgGetDevId_unclean : ¬ LeavesClean (answering fun _ => portPage) ['a'] 16 := by
  intro clean
  obtain ⟨selected, buf, select, ran, -, empty⟩ := clean 256 le_rfl
  have none : devIdSelect (devIdInquiry (answering fun _ => portPage) ['a'] 16).buf
      (devIdInquiry (answering fun _ => portPage) ['a'] 16).lenp 16 256 = some (.ok none) := by
    decide
  have left : sgGetDevId (answering fun _ => portPage) ['a'] 16 256 =
      some (.ok (portPage ++ [0, 0, 0, 0])) := by
    decide
  rw [select] at none
  rw [ran] at left
  cases none
  cases left
  exact absurd (empty rfl 0x83 (by decide)) (by decide)

end Hbalinux
