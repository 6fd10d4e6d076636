import Hbalinux.TargetMapping

/-! # What a query does to the state

A query calls `get_rport_info` for one local port at most, however often it calls it:
once that has been called, calling it again changes nothing.
-/

namespace Hbalinux

open Outcome

/-- The context asks for a remote port of the local port at `pp` when it gets to one of the
    entries. -/
def BindingContext.LooksUp (cp : BindingContext) (lib : Lib) (pp : Ptr) (es : List DirEnt) : Prop :=
  ∃ k device, (addressed cp.accepts es)[k]? = some device ∧
    cp.ocCount + UInt32.ofNat k < cp.ocLimit ∧
    adapterGetPort lib cp.ocHandle device.2.port = .ok (some pp)

/-- The query calls `get_rport_info` for the local port at `pp`. -/
def Query.CallsFor (env : Env) (lib : Lib) (pp : Ptr) : Query → Prop
  | .rport handle port _ | .rportAttr handle port _ | .rportTarget handle port _ =>
      adapterGetPort lib handle port = .ok (some pp)
  | .rportByWwn handle _ | .rportByFcid handle _ | .sgName handle _ _ _ =>
      adapterGetPort lib handle 0 = .ok (some pp)
  | .mappingV1 handle map => ∃ ap adapter, adapterOpenHandle lib handle = .ok (some ap) ∧
      lib.adapters.get ap = some adapter ∧
      (mappingContext handle adapter.adKernIndex anyPart 1 map.numberOfEntries
        (map.entry.map HbaFcpScsiEntry.widen)).LooksUp lib pp (env.sysfs.listing sysfsLunDir)
  | .mappingV2 handle wwn map => ∃ q count port ap adapter,
      adapterGetPortByWwn lib handle wwn = .ok (some q, count) ∧ lib.lports.get q = some port ∧
      port.apAdapt = some ap ∧ lib.adapters.get ap = some adapter ∧
      (mappingContext handle adapter.adKernIndex port.apIndex 2 map.numberOfEntries
        map.entry).LooksUp lib pp (env.sysfs.listing sysfsLunDir)

/-- The state after at most one call of `get_rport_info`: for one of the given ports, or
    unchanged if there are none. -/
def Attached1 (env : Env) (calls : Ptr → Prop) (lib lib' : Lib) : Prop :=
  (∃ pp, calls pp ∧ getRportInfo env pp lib = .ok lib') ∨ (∀ pp, ¬ calls pp) ∧ lib' = lib

theorem findRport_state {env : Env} {pp : Ptr} {find : Lib → SaTable Ptr → Outcome (Option Ptr)}
    {lib lib' : Lib} {rp : Option Ptr} (called : findRport env pp find lib = .ok (rp, lib')) :
    getRportInfo env pp lib = .ok lib' := by
  obtain ⟨mid, attached, rest⟩ := bind_eq_ok.mp called
  obtain ⟨port, -, rest⟩ := bind_eq_ok.mp rest
  obtain ⟨found, -, rest⟩ := bind_eq_ok.mp rest
  cases rest
  exact attached

theorem findRportOf_state {env : Env} {handle : HbaHandle} {port : UInt32}
    {find : Lib → SaTable Ptr → Outcome (Option Ptr)} {lib lib' : Lib} {rp : Option Ptr}
    (called : findRportOf env handle port find lib = .ok (rp, lib')) :
    Attached1 env (fun pp => adapterGetPort lib handle port = .ok (some pp)) lib lib' := by
  obtain ⟨found, looked, rest⟩ := bind_eq_ok.mp called
  cases found with
  | none =>
      cases rest
      refine .inr ⟨fun pp other => ?_, rfl⟩
      rw [looked] at other
      cases other
  | some pp => exact .inl ⟨pp, looked, findRport_state rest⟩

/-- One entry of the walk, in a context without a remote port. -/
theorem getBindingTargetMapping_state {env : Env} {dp : DirEnt} {cp cp' : BindingContext}
    {s s' : Lib} {rc : Int} (free : cp.ocRport = none)
    (called : getBindingTargetMapping env dp (cp, s) = .ok (rc, cp', s')) :
    rc = 0 ∧ match accepted cp.accepts dp with
      | none => cp' = cp ∧ s' = s
      | some device => cp'.ocCount = cp.ocCount + 1 ∧ cp'.ocLimit = cp.ocLimit ∧
          cp'.accepts = cp.accepts ∧ cp'.ocHandle = cp.ocHandle ∧ cp'.ocRport = none ∧
          Attached1 env (fun pp => cp.ocCount < cp.ocLimit ∧
            adapterGetPort s cp.ocHandle device.2.port = .ok (some pp)) s s' := by
  cases found : accepted cp.accepts dp with
  | none =>
      rw [mapping_skip found] at called
      cases called
      exact ⟨rfl, rfl, rfl⟩
  | some device =>
      obtain ⟨name, parsed, passes⟩ := accepted_eq_some.mp found
      unfold getBindingTargetMapping at called
      simp only [parsed, passes, Bool.true_eq_false, if_false] at called
      split at called
      · rename_i room
        obtain ⟨before, -, rest⟩ := bind_eq_ok.mp called
        obtain ⟨⟨rp, mid⟩, looked, rest⟩ := bind_eq_ok.mp rest
        obtain ⟨⟨entry, sg⟩, -, rest⟩ := bind_eq_ok.mp rest
        cases rest
        refine ⟨rfl, rfl, rfl, rfl, rfl, free, ?_⟩
        simp only [mappedRport, free] at looked
        simpa only [room, true_and] using findRportOf_state looked
      · rename_i full
        cases called
        exact ⟨rfl, rfl, rfl, rfl, rfl, free, .inr ⟨fun _ both => full both.1, rfl⟩⟩

theorem adapterGetPort_framed {lib lib' : Lib} (framed : Framed lib lib') (handle : HbaHandle)
    (index : UInt32) : adapterGetPort lib' handle index = adapterGetPort lib handle index := by
  unfold adapterGetPort adapterOpenHandle Lib.adapter
  rw [framed.adapterTable, framed.adapters]

/-- A handle leads to one local port at most, which has an adapter. -/
theorem Lib.Sound.handle_port {lib : Lib} (sound : lib.Sound) {handle : HbaHandle} {index : UInt32}
    {pp : Ptr} (found : adapterGetPort lib handle index = .ok (some pp)) :
    (∃ port, lib.lports.get pp = some port ∧ port.apAdapt ≠ none) ∧
      ∀ index' qq, adapterGetPort lib handle index' = .ok (some qq) → qq = pp := by
  obtain ⟨opened, handleOpens, rest⟩ := bind_eq_ok.mp found
  cases opened with
  | none => cases rest
  | some ap =>
      obtain ⟨i, q, adapter, port, slot⟩ := sound.adapters.opened handleOpens
      have only : ∀ index' qq, adapterGetPort lib handle index' = .ok (some qq) → qq = q := by
        intro index' qq other
        rw [slot.adapterGetPort_eq handleOpens] at other
        split at other
        · exact (Option.some.inj (Except.ok.inj other)).symm
        · cases other
      obtain rfl := only index pp found
      exact ⟨⟨port, slot.owns.livePort, by rw [slot.owns.owner]; exact Option.some_ne_none ap⟩, only⟩

/-- A second call for the same local port changes nothing. -/
theorem Lib.Sound.again {lib mid lib' : Lib} (sound : lib.Sound) {env : Env} {handle : HbaHandle}
    {index : UInt32} {pp : Ptr} (found : adapterGetPort lib handle index = .ok (some pp))
    (first : getRportInfo env pp lib = .ok mid) (second : getRportInfo env pp mid = .ok lib') :
    lib' = mid := by
  obtain ⟨⟨port, live, owner⟩, -⟩ := sound.handle_port found
  rw [getRportInfo_idempotent sound.rports live owner first] at second
  exact (Except.ok.inj second).symm

/-- The walk over the SCSI devices, in a context without a remote port. -/
theorem mappingWalk_state {env : Env} {es : List DirEnt} {cp cp' : BindingContext} {s s' : Lib}
    {rc : Int} (sound : s.Sound) (free : cp.ocRport = none)
    (walked : untilNonzero (getBindingTargetMapping env) es (cp, s) = .ok (rc, cp', s')) :
    Attached1 env (fun pp => cp.LooksUp s pp es) s s' := by
  induction es generalizing cp s with
  | nil =>
      cases walked
      refine .inr ⟨?_, rfl⟩
      rintro pp ⟨k, device, found, -⟩
      simp [addressed] at found
  | cons dp es ih =>
      rw [untilNonzero_cons, bind_eq_ok] at walked
      obtain ⟨⟨code, cp1, s1⟩, called, rest⟩ := walked
      obtain ⟨rfl, head⟩ := getBindingTargetMapping_state free called
      simp only [if_true] at rest
      cases found : accepted cp.accepts dp with
      | none =>
          rw [found] at head
          obtain ⟨rfl, rfl⟩ := head
          have skipped : addressed cp1.accepts (dp :: es) = addressed cp1.accepts es :=
            List.filterMap_cons_none found
          unfold BindingContext.LooksUp
          rw [skipped]
          exact ih sound free rest
      | some device =>
          rw [found] at head
          obtain ⟨count, limit, accepts, handle, free', head⟩ := head
          have taken : addressed cp.accepts (dp :: es) = device :: addressed cp.accepts es :=
            List.filterMap_cons_some found
          rcases head with ⟨pp, ⟨room, port⟩, attached⟩ | ⟨none, rfl⟩
          · refine .inl ⟨pp, ⟨0, device, by rw [taken]; rfl, by simpa using room, port⟩, ?_⟩
            have sound' := sound.attach attached
            rcases ih sound' free' rest with ⟨qq, ⟨k, other, -, -, port'⟩, again⟩ | ⟨-, rfl⟩
            · rw [handle, adapterGetPort_framed (getRportInfo_framed attached)] at port'
              obtain rfl := (sound.handle_port port).2 _ _ port'
              rw [sound.again port attached again]
              exact attached
            · exact attached
          · have shift : ∀ pp, cp.LooksUp s1 pp (dp :: es) ↔ cp1.LooksUp s1 pp es := by
              intro pp
              unfold BindingContext.LooksUp
              rw [taken, accepts, count, limit, handle]
              have next : ∀ k, cp.ocCount + 1 + UInt32.ofNat k = cp.ocCount + UInt32.ofNat (k + 1) := by
                intro k
                rw [UInt32.ofNat_add, UInt32.add_assoc, UInt32.add_comm 1]
                rfl
              constructor
              · rintro ⟨k, other, there, room, port⟩
                cases k with
                | zero =>
                    obtain rfl := Option.some.inj there
                    exact absurd ⟨by simpa using room, port⟩ (none pp)
                | succ k => exact ⟨k, other, there, by rwa [next], port⟩
              · rintro ⟨k, other, there, room, port⟩
                exact ⟨k + 1, other, there, by rwa [← next], port⟩
            rcases ih sound free' rest with ⟨qq, looks, attached⟩ | ⟨none', same⟩
            · exact .inl ⟨qq, (shift qq).mpr looks, attached⟩
            · exact .inr ⟨fun pp looks => none' pp ((shift pp).mp looks), same⟩

theorem readMapping_state {env : Env} {cp : BindingContext} {s s' : Lib}
    {answer : HbaStatus × HbaFcpTargetMapping HbaFcpScsiEntryV2} (sound : s.Sound)
    (free : cp.ocRport = none) (called : readMapping env cp s = .ok (answer, s')) :
    Attached1 env (fun pp => cp.LooksUp s pp (env.sysfs.listing sysfsLunDir)) s s' := by
  obtain ⟨entries, -, rest⟩ := bind_eq_ok.mp called
  obtain ⟨⟨cp', mid⟩, walked, rest⟩ := bind_eq_ok.mp rest
  cases rest
  rw [saDirRead_state, map_eq_ok] at walked
  obtain ⟨⟨rc, last⟩, walked, same⟩ := walked
  simp only at same
  subst same
  exact @mappingWalk_state _ _ { cp with ocEntries := entries } _ _ _ _ sound free walked

/-- A context with a remote port leaves the state as it is. -/
theorem sgWalk_state {env : Env} {cp cp' : BindingContext} {rp : Ptr} {s s' : Lib}
    (mine : cp.ocRport = some rp)
    (walked : Except.map Prod.snd (saDirRead env.sysfs sysfsLunDir (getBindingTargetMapping env)
      (cp, s)) = .ok (cp', s')) : s' = s := by
  refine (saDirRead_preserves (P := fun state => state.1.ocRport = some rp ∧ state.2 = s)
    ?_ ⟨mine, rfl⟩ walked).2
  rintro dp - ⟨ctxt, t⟩ rc ⟨ctxt', t'⟩ ⟨held, rfl⟩ called
  unfold getBindingTargetMapping at called
  simp only at called held ⊢
  split at called
  · cases called
    exact ⟨held, rfl⟩
  · split at called
    · cases called
      exact ⟨held, rfl⟩
    · split at called
      · obtain ⟨before, -, rest⟩ := bind_eq_ok.mp called
        obtain ⟨⟨found, mid⟩, looked, rest⟩ := bind_eq_ok.mp rest
        obtain ⟨⟨entry, sg⟩, -, rest⟩ := bind_eq_ok.mp rest
        cases rest
        simp only [mappedRport, held] at looked
        cases looked
        exact ⟨held, rfl⟩
      · cases called
        exact ⟨held, rfl⟩

private theorem replyPort_state {found : Outcome (Option Ptr × Lib)} {reply : Reply} {lib' : Lib}
    (called : replyPort found = .ok (reply, lib')) : ∃ rp, found = .ok (rp, lib') := by
  obtain ⟨⟨rp, mid⟩, looked, rest⟩ := bind_eq_ok.mp called
  cases rp with
  | none =>
      cases rest
      exact ⟨none, looked⟩
  | some rp =>
      obtain ⟨rport, -, rest⟩ := bind_eq_ok.mp rest
      cases rest
      exact ⟨some rp, looked⟩

private theorem onPort_state {env : Env} {handle : HbaHandle} {lib lib' : Lib}
    {f : Ptr → Lib → Outcome (Reply × Lib)} {reply : Reply}
    (inner : ∀ pp, f pp lib = .ok (reply, lib') → getRportInfo env pp lib = .ok lib')
    (called : onPort handle f lib = .ok (reply, lib')) :
    Attached1 env (fun pp => adapterGetPort lib handle 0 = .ok (some pp)) lib lib' := by
  obtain ⟨found, looked, rest⟩ := bind_eq_ok.mp called
  cases found with
  | none =>
      cases rest
      refine .inr ⟨fun pp other => ?_, rfl⟩
      rw [looked] at other
      cases other
  | some pp => exact .inl ⟨pp, looked, inner pp rest⟩

theorem getBindingSgName_state {env : Env} {lp : Ptr} {wwn : HbaWwn} {lun : UInt64} {len : Nat}
    {lib lib' : Lib} {answer : Except Int CStr}
    (called : getBindingSgName env lp wwn lun len lib = .ok (answer, lib')) :
    getRportInfo env lp lib = .ok lib' := by
  obtain ⟨⟨found, mid⟩, looked, rest⟩ := bind_eq_ok.mp called
  have attached : getRportInfo env lp lib = .ok mid := findRport_state looked
  cases found with
  | none =>
      cases rest
      exact attached
  | some rp =>
      obtain ⟨rport, -, rest⟩ := bind_eq_ok.mp rest
      simp only at rest
      split at rest
      · cases rest
        exact attached
      · obtain ⟨⟨ctxt, last⟩, walked, rest⟩ := bind_eq_ok.mp rest
        have same : last = mid := sgWalk_state rfl walked
        have kept : lib' = last := by
          simp only at rest
          split at rest <;> cases rest <;> rfl
        rw [kept, same]
        exact attached

theorem getBindingTargetMappingV1_state {env : Env} {handle : HbaHandle}
    {map : HbaFcpTargetMapping HbaFcpScsiEntry} {lib lib' : Lib}
    {answer : HbaStatus × HbaFcpTargetMapping HbaFcpScsiEntry} (sound : lib.Sound)
    (called : getBindingTargetMappingV1 env handle map lib = .ok (answer, lib')) :
    Attached1 env (fun pp => (Query.mappingV1 handle map).CallsFor env lib pp) lib lib' := by
  obtain ⟨opened, handleOpens, rest⟩ := bind_eq_ok.mp called
  cases opened with
  | none =>
      cases rest
      refine .inr ⟨?_, rfl⟩
      rintro pp ⟨ap, adapter, other, -⟩
      rw [handleOpens] at other
      cases other
  | some ap =>
      obtain ⟨adapter, live, rest⟩ := bind_eq_ok.mp rest
      rw [Lib.adapter, demand_eq_ok] at live
      obtain ⟨⟨⟨status, filled⟩, mid⟩, mapped, rest⟩ := bind_eq_ok.mp rest
      cases rest
      have only : ∀ pp, (Query.mappingV1 handle map).CallsFor env lib pp ↔
          (mappingContext handle adapter.adKernIndex anyPart 1 map.numberOfEntries
            (map.entry.map HbaFcpScsiEntry.widen)).LooksUp lib pp (env.sysfs.listing sysfsLunDir) := by
        intro pp
        refine ⟨?_, fun looks => ⟨ap, adapter, handleOpens, live, looks⟩⟩
        rintro ⟨ap', adapter', other, live', looks⟩
        rw [handleOpens] at other
        cases other
        rw [live, Option.some.injEq] at live'
        exact live' ▸ looks
      simp only [only]
      exact readMapping_state sound rfl mapped

theorem getBindingTargetMappingV2_state {env : Env} {handle : HbaHandle} {wwn : HbaWwn}
    {map : HbaFcpTargetMapping HbaFcpScsiEntryV2} {lib lib' : Lib}
    {answer : HbaStatus × HbaFcpTargetMapping HbaFcpScsiEntryV2} (sound : lib.Sound)
    (called : getBindingTargetMappingV2 env handle wwn map lib = .ok (answer, lib')) :
    Attached1 env (fun pp => (Query.mappingV2 handle wwn map).CallsFor env lib pp) lib lib' := by
  obtain ⟨⟨found, count⟩, looked, rest⟩ := bind_eq_ok.mp called
  cases found with
  | none =>
      cases rest
      refine .inr ⟨?_, rfl⟩
      rintro pp ⟨q, count', port, ap, adapter, other, -⟩
      rw [looked] at other
      cases other
  | some q =>
      obtain ⟨port, live, rest⟩ := bind_eq_ok.mp rest
      rw [Lib.port, demand_eq_ok] at live
      cases owner : port.apAdapt with
      | none =>
          rw [owner] at rest
          cases rest
          refine .inr ⟨?_, rfl⟩
          rintro pp ⟨q', count', port', ap, adapter, other, live', owner', -⟩
          rw [looked] at other
          cases other
          rw [live, Option.some.injEq] at live'
          rw [← live', owner] at owner'
          cases owner'
      | some ap =>
          rw [owner] at rest
          obtain ⟨adapter, liveAdapter, rest⟩ := bind_eq_ok.mp rest
          rw [Lib.adapter, demand_eq_ok] at liveAdapter
          have only : ∀ pp, (Query.mappingV2 handle wwn map).CallsFor env lib pp ↔
              (mappingContext handle adapter.adKernIndex port.apIndex 2 map.numberOfEntries
                map.entry).LooksUp lib pp (env.sysfs.listing sysfsLunDir) := by
            intro pp
            refine ⟨?_, fun looks => ⟨q, count, port, ap, adapter, looked, live, owner, liveAdapter, looks⟩⟩
            rintro ⟨q', count', port', ap', adapter', other, live', owner', liveAdapter', looks⟩
            rw [looked] at other
            cases other
            rw [live, Option.some.injEq] at live'
            subst live'
            rw [owner] at owner'
            cases owner'
            rw [liveAdapter, Option.some.injEq] at liveAdapter'
            exact liveAdapter' ▸ looks
          simp only [only]
          exact readMapping_state sound rfl rest

/-- A query attaches the remote ports of the local port it calls for, and does nothing else to
    the state. -/
theorem ask_state {env : Env} {query : Query} {lib lib' : Lib} {reply : Reply} (sound : lib.Sound)
    (asked : query.ask env lib = .ok (reply, lib')) :
    Attached1 env (fun pp => query.CallsFor env lib pp) lib lib' := by
  cases query with
  | rport | rportTarget =>
      rw [Query.ask] at asked
      obtain ⟨rp, looked⟩ := replyPort_state asked
      exact findRportOf_state looked
  | rportAttr =>
      rw [Query.ask] at asked
      obtain ⟨⟨answer, mid⟩, answered, same⟩ := map_eq_ok.mp asked
      cases same
      obtain ⟨⟨found, last⟩, looked, rest⟩ := bind_eq_ok.mp answered
      have attached := findRportOf_state looked
      cases found with
      | none =>
          cases rest
          exact attached
      | some rp =>
          obtain ⟨rport, -, rest⟩ := bind_eq_ok.mp rest
          cases rest
          exact attached
  | rportByWwn | rportByFcid =>
      rw [Query.ask] at asked
      refine onPort_state (fun pp called => ?_) asked
      obtain ⟨rp, looked⟩ := replyPort_state called
      exact findRport_state looked
  | mappingV1 handle map =>
      rw [Query.ask] at asked
      obtain ⟨⟨answer, mid⟩, answered, same⟩ := map_eq_ok.mp asked
      cases same
      exact getBindingTargetMappingV1_state sound answered
  | mappingV2 handle wwn map =>
      rw [Query.ask] at asked
      obtain ⟨⟨answer, mid⟩, answered, same⟩ := map_eq_ok.mp asked
      cases same
      exact getBindingTargetMappingV2_state sound answered
  | sgName =>
      rw [Query.ask] at asked
      refine onPort_state (fun pp called => ?_) asked
      obtain ⟨⟨answer, mid⟩, answered, same⟩ := map_eq_ok.mp called
      cases same
      exact getBindingSgName_state answered

end Hbalinux
