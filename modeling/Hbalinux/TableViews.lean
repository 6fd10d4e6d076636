import Hbalinux.TableSpec

/-! # One table, four views

A table that is built by inserts and appends holds, at every index, what was stored
there last.  The traversals count ranks, slots and entries with counters of their own;
on such a table all of them see the same list.
-/

namespace Hbalinux

variable {α : Type}

/-- The stores that built a table, the last one first. -/
abbrev History (α : Type) := List (UInt32 × Option α)

namespace History

/-- What was stored last at an index. -/
def last : History α → Nat → Option α
  | [], _ => none
  | (index, ep) :: earlier, i => if i = index.toNat then ep else last earlier i

/-- One past the highest index. -/
def span : History α → Nat
  | [] => 0
  | (index, _) :: earlier => max (span earlier) (index.toNat + 1)

/-- The non-NULL entries in increasing index order. -/
def entries (history : History α) : List α := (List.range history.span).filterMap history.last

theorem last_cons (index : UInt32) (ep : Option α) (history : History α) :
    last ((index, ep) :: history) = Function.update history.last index.toNat ep := by
  funext i
  rw [last, Function.update_apply]

theorem lt_span {history : History α} {index : UInt32} {ep : Option α}
    (stored : (index, ep) ∈ history) : index.toNat < history.span := by
  induction history with
  | nil => cases stored
  | cons store earlier ih =>
      rw [span]
      rcases List.mem_cons.mp stored with rfl | before
      · exact Nat.le_max_right ..
      · exact Nat.lt_of_lt_of_le (ih before) (Nat.le_max_left ..)

end History

namespace SaTable

/-- Built from the zeroed table by successful inserts and appends at indices from which the
    table can still grow as an `int`. -/
inductive Built : SaTable α → History α → Prop where
  | zeroed : Built saTableInit []
  | insert {history : History α} {tp tp' : SaTable α} {index : UInt32} {ep : Option α} {mem : Bool}
      {rc : Int} (before : Built tp history) (small : index.toNat < 2 ^ 31 - 16)
      (called : saTableInsert tp index ep mem = .ok (rc, tp')) (success : rc ≠ -1) :
      Built tp' ((index, ep) :: history)
  | append {history : History α} {tp tp' : SaTable α} {ep : Option α} {mem : Bool} {rc : Int}
      (before : Built tp history) (small : tp.stLimit.toNat < 2 ^ 31 - 16)
      (called : saTableAppend tp ep mem = .ok (rc, tp')) (success : rc ≠ -1) :
      Built tp' ((tp.stLimit, ep) :: history)

/-- The history accounts for every slot of the table. -/
structure Records (history : History α) (tp : SaTable α) : Prop where
  wf : tp.Wf
  view : tp.view = history.last
  limit : tp.stLimit.toNat = history.span
  small : tp.stLimit.toNat ≤ 2 ^ 31 - 16

theorem Records.zeroed : Records ([] : History α) saTableInit where
  wf := wf_init
  view := funext view_init
  limit := rfl
  small := Nat.zero_le _

theorem Records.insert {history : History α} {tp tp' : SaTable α} {index : UInt32} {ep : Option α}
    {mem : Bool} {rc : Int} (records : Records history tp) (small : index.toNat < 2 ^ 31 - 16)
    (called : saTableInsert tp index ep mem = .ok (rc, tp')) (success : rc ≠ -1) :
    Records ((index, ep) :: history) tp' := by
  have positive : index.toNat < 2 ^ 31 := by omega
  rw [insert_eq records.wf positive] at called
  split at called
  · cases called
    exact absurd rfl success
  · cases called
    have limit : (tp.put index ep).stLimit.toNat = max tp.stLimit.toNat (index.toNat + 1) :=
      limit_put positive ep
    have bound := records.small
    refine ⟨wf_put records.wf positive ep, ?_, ?_, ?_⟩
    · rw [view_put records.wf positive, records.view, History.last_cons]
    · rw [limit, records.limit, History.span]
    · rw [limit]
      omega

theorem Built.records {history : History α} {tp : SaTable α} (built : Built tp history) :
    Records history tp := by
  induction built with
  | zeroed => exact .zeroed
  | insert _ small called success ih => exact ih.insert small called success
  | append _ small called success ih => exact ih.insert small called success

/-- With memory, every sequence of stores builds a table. -/
theorem exists_built (history : History α)
    (small : ∀ store ∈ history, store.1.toNat < 2 ^ 31 - 16) : ∃ tp : SaTable α, tp.Built history := by
  induction history with
  | nil => exact ⟨saTableInit, .zeroed⟩
  | cons store earlier ih =>
      obtain ⟨index, ep⟩ := store
      obtain ⟨tp, built⟩ := ih fun store member => small store (List.mem_cons_of_mem _ member)
      have bound : index.toNat < 2 ^ 31 - 16 := small (index, ep) (List.mem_cons_self ..)
      have inserted : saTableInsert tp index ep true = .ok (index.toNat, tp.put index ep) := by
        rw [insert_eq built.records.wf (by omega)]
        simp
      exact ⟨tp.put index ep, built.insert bound inserted (by omega)⟩

theorem Records.entries {history : History α} {tp : SaTable α} (records : Records history tp) :
    tp.entries = history.entries := by
  rw [SaTable.entries, records.view, records.limit, History.entries, List.range_eq_range']

/-- What an append leaves alone: every slot there was, filled or not. -/
theorem Records.append {history : History α} {tp : SaTable α} (records : Records history tp)
    (ep : Option α) (mem : Bool) :
    ∃ rc tp', saTableAppend tp ep mem = .ok (rc, tp') ∧
      (∀ index ≠ tp.stLimit, saTableLookup tp' index = saTableLookup tp index) ∧
      (rc = -1 ∧ tp' = tp ∨ rc = tp.stLimit.toNat ∧ saTableLookup tp' tp.stLimit = .ok ep) := by
  have bound := records.small
  have positive : tp.stLimit.toNat < 2 ^ 31 := by omega
  rw [append_eq records.wf positive]
  split
  · exact ⟨-1, tp, rfl, fun _ _ => rfl, .inl ⟨rfl, rfl⟩⟩
  · have wf' := wf_put records.wf positive ep
    refine ⟨_, _, rfl, fun index different => ?_, .inr ⟨rfl, ?_⟩⟩
    · have apart : index.toNat ≠ tp.stLimit.toNat := fun same => different (UInt32.toNat_inj.mp same)
      rw [lookup_eq_view wf', lookup_eq_view records.wf, view_put records.wf positive,
        Function.update_of_ne apart]
    · rw [lookup_eq_view wf', view_put records.wf positive, Function.update_self]

end SaTable

/-- Counting ranks, iterating and searching see one list, and an append adds to it without
    taking the place of what is there. -/
theorem table_views_agree {history : History α} {tp : SaTable α} (built : tp.Built history) :
    (∀ n : UInt32, saTableLookupN tp n = .ok history.entries[n.toNat]?) ∧
      (∀ (σ : Type) (handler : α → σ → Outcome σ) (arg : σ), saTableIterate tp handler arg =
        history.entries.foldlM (fun arg ep => handler ep arg) arg) ∧
      (∀ (β : Type) (accept : α → Outcome (Option β)),
        saTableSearch tp accept = SaTable.firstMatch accept history.entries) ∧
      (∀ (β : Type) (accept : α → Option β), saTableSearch tp (fun ep => .ok (accept ep)) =
        .ok (history.entries.findSome? accept)) ∧
      (∀ ep mem, ∃ rc tp', saTableAppend tp ep mem = .ok (rc, tp') ∧
        (∀ store ∈ history, (store.1.toNat : Int) ≠ rc) ∧
        ∀ index there, saTableLookup tp index = .ok (some there) →
          saTableLookup tp' index = .ok (some there)) := by
  have records := built.records
  have bound := records.small
  have search (β : Type) (accept : α → Outcome (Option β)) :
      saTableSearch tp accept = SaTable.firstMatch accept history.entries := by
    rw [SaTable.search_eq records.wf (by omega), records.entries]
  refine ⟨fun n => ?_, fun σ handler arg => ?_, search, fun β accept => ?_, fun ep mem => ?_⟩
  · rw [SaTable.lookupN_eq records.wf, records.entries]
  · rw [SaTable.iterate_eq records.wf (by omega), records.entries]
  · rw [search, SaTable.firstMatch_pure]
  · obtain ⟨rc, tp', called, others, result⟩ := records.append ep mem
    refine ⟨rc, tp', called, ?_, fun index there found => ?_⟩
    · rintro ⟨index, stored⟩ member
      have below := History.lt_span member
      have limit := records.limit
      rcases result with ⟨rfl, -⟩ | ⟨rfl, -⟩ <;> simp only <;> omega
    · by_cases last : index = tp.stLimit
      · rw [last, SaTable.lookup_eq_view records.wf, SaTable.view_of_limit_le (Nat.le_refl _)] at found
        cases found
      · rw [others index last, found]

/-- Two entries, an explicit NULL between them and a slot never filled. -/
theorem table_views_agree_small : ∃ tp : SaTable Char,
    tp.Built [(22, some 'd'), (20, none), (3, some 'b'), (20, some 'a')] ∧
      saTableLookupN tp 1 = .ok (some 'd') ∧ saTableLookupN tp 2 = .ok none := by
  obtain ⟨tp, built⟩ := SaTable.exists_built
    [(22, some 'd'), (20, none), (3, some 'b'), (20, some 'a')] (by decide)
  have views := (table_views_agree built).1
  exact ⟨tp, built, views 1, views 2⟩

end Hbalinux
