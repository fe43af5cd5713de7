import SheetExport.Migration
import SheetExport.Proofs.StatementTables

/-!
# Migrations of a store

What opening a store does to it. A store that remembers no step gets all of them, one after
another, and each is noted with what it changes or not at all. Of a store that remembers some step
only the last one is looked at, and a last step that is not known here leaves nothing to apply.
-/

namespace SheetExport

open Store (Table Column Row Place)
open Text (sameName)

/-! ## Rows that come in -/

namespace Store.Table

theorem place_perm (key : Key) (row : Row) (rows : List Row) :
    (place key row rows).Perm (row :: rows) := by
  induction rows with
  | nil => exact .refl _
  | cons r rest ih =>
    unfold place
    split
    · exact .refl _
    · exact (ih.cons r).trans (.swap row r rest)

theorem place?_cell {t : Table} {name : String} {p : Place} (h : t.place? name = some p)
    (hn : numberNames.any (sameName name) = false) :
    ∃ i c, p = .cell i ∧ t.columns[i]? = some c ∧ sameName c.name name = true := by
  unfold place? placeOf? at h
  cases hi : t.columns.findIdx? fun c => sameName c.name name with
  | none =>
    rw [hi] at h
    simp [hn] at h
  | some i =>
    rw [hi] at h
    obtain ⟨hlt, hc, -⟩ := List.findIdx?_eq_some_iff_getElem.1 hi
    exact ⟨i, t.columns[i], (Option.some.inj h).symm, List.getElem?_eq_getElem hlt, hc⟩

theorem place?_ne {t : Table} {name other : String} {p q : Place} (h : t.place? name = some p)
    (ho : t.place? other = some q) (hn : numberNames.any (sameName name) = false)
    (hon : numberNames.any (sameName other) = false) (hne : sameName name other = false) :
    p ≠ q := by
  obtain ⟨i, c, rfl, hc, hname⟩ := place?_cell h hn
  obtain ⟨j, d, rfl, hd, hother⟩ := place?_cell ho hon
  intro he
  obtain rfl := Place.cell.inj he
  obtain rfl := Option.some.inj (hc.symm.trans hd)
  rw [sameName_congr hname] at hother
  rw [hother] at hne
  exact Bool.false_ne_true hne.symm

theorem length_set (d : Draft) (p : Place × Value) : (d.set p).cells.length = d.cells.length := by
  obtain ⟨_ | _, v⟩ := p
  · exact List.length_set
  · rfl

theorem length_setAll (d : Draft) (values : List (Place × Value)) :
    (d.setAll values).cells.length = d.cells.length := by
  induction values generalizing d with
  | nil => rfl
  | cons p rest ih => exact (ih (d.set p)).trans (length_set d p)

theorem cell_set_self {d : Draft} {i : Nat} (h : i < d.cells.length) (v : Value) :
    (d.set (.cell i, v)).cells[i]? = some v := by
  simp only [Draft.set, List.getElem?_set_self h]

theorem cell_set_other (d : Draft) {i : Nat} {p : Place × Value} (h : p.1 ≠ .cell i) :
    (d.set p).cells[i]? = d.cells[i]? := by
  obtain ⟨j | _, v⟩ := p
  · have hij : j ≠ i := fun he => h (congrArg Place.cell he)
    exact List.getElem?_set_ne hij
  · rfl

/-- The cells that a draft gives, each in the form of its column. -/
def storedCells (t : Table) (d : Draft) : List Value :=
  List.zipWith (fun c v => v.stored c.affinity) t.columns d.cells

theorem cells_of_row? {t : Table} {fresh : Option Int} {d : Draft} {row : Row}
    (h : t.row? fresh d = some row) :
    row.cells = t.storedCells d ∨
      ∃ number, numberFrom? fresh ((t.storedCells d).headD .null) = some number ∧
        row.cells = (t.storedCells d).set 0 (.integer number) := by
  unfold row? at h
  split at h
  · obtain ⟨number, hnumber, h⟩ := Option.bind_eq_some_iff.1 h
    obtain ⟨made, hmade, h⟩ := Option.bind_eq_some_iff.1 h
    obtain rfl := Option.some.inj hmade
    dsimp only at h
    refine .inr ⟨number, hnumber, ?_⟩
    split at h
    · exact (congrArg Row.cells (Option.some.inj h)).symm
    · cases h
  · obtain ⟨number, -, h⟩ := Option.bind_eq_some_iff.1 h
    obtain ⟨made, hmade, h⟩ := Option.bind_eq_some_iff.1 h
    obtain rfl := Option.some.inj hmade
    dsimp only at h
    split at h
    · exact .inl (congrArg Row.cells (Option.some.inj h)).symm
    · cases h

theorem value_of_row? {t : Table} {fresh : Option Int} {d : Draft} {row : Row}
    (h : t.row? fresh d = some row) {i : Nat} {c : Column} (hc : t.columns[i]? = some c)
    {n : String} (hd : d.cells[i]? = some (.text n)) (hn : Value.numberOf? n = none) :
    row.value (.cell i) = .text n := by
  have hcell : (t.storedCells d)[i]? = some (.text n) := by
    simp only [storedCells, List.getElem?_zipWith, hc, hd, Value.stored_text_eq hn]
  suffices row.cells[i]? = some (.text n) by
    rw [Row.value, List.getD_eq_getElem?_getD, this, Option.getD_some]
  obtain hrow | ⟨number, hnumber, hrow⟩ := cells_of_row? h
  · rw [hrow, hcell]
  · cases i with
    | zero =>
      -- the first column takes a number only
      have hhead : (t.storedCells d).headD .null = .text n := by
        rw [List.headD_eq_head?_getD, List.head?_eq_getElem?, hcell, Option.getD_some]
      rw [hhead, numberFrom?, Value.stored_text_eq hn] at hnumber
      cases hnumber
    | succ i => rw [hrow, List.getElem?_set_ne (Nat.succ_ne_zero i).symm, hcell]

theorem insert?_texts {t u : Table} {before : List (String × Value)} {name other n : String}
    {v : Value} {place : Place} (h : t.insert? (before ++ [(name, .text n), (other, v)]) = some u)
    (hn : Value.numberOf? n = none) (hp : t.place? name = some place)
    (hname : numberNames.any (sameName name) = false)
    (hother : numberNames.any (sameName other) = false) (hne : sameName name other = false) :
    ∃ row, u = { t with rows := Table.place t.key row t.rows } ∧ row.value place = .text n := by
  unfold insert? at h
  split at h
  · cases h
  · obtain ⟨places, hplaces, hu⟩ := Option.bind_eq_some_iff.1 h
    obtain ⟨row, hrow, hplaced⟩ := Option.bind_eq_some_iff.1 hu
    rw [places?, List.mapM_append] at hplaces
    obtain ⟨first, -, hplaces⟩ := Option.bind_eq_some_iff.1 hplaces
    obtain ⟨last, hlast, hplaces⟩ := Option.bind_eq_some_iff.1 hplaces
    obtain rfl := Option.some.inj hplaces
    obtain ⟨q, hq, rfl⟩ : ∃ q, t.place? other = some q ∧ last = [(place, .text n), (q, v)] := by
      simp only [List.mapM_cons, List.mapM_nil, hp] at hlast
      cases hq : t.place? other with
      | none => simp [hq] at hlast
      | some q =>
        simp [hq] at hlast
        exact ⟨q, rfl, hlast.symm⟩
    obtain ⟨i, c, rfl, hc, -⟩ := place?_cell hp hname
    split at hplaced
    · cases hplaced
    · refine ⟨row, (Option.some.inj hplaced).symm, value_of_row? hrow hc ?_ hn⟩
      have hlt : i < t.columns.length := (List.getElem?_eq_some_iff.1 hc).1
      simp only [Draft.setAll, List.foldl_append, List.foldl_cons, List.foldl_nil]
      rw [cell_set_other _ (place?_ne hp hq hname hother hne).symm]
      have hlen := length_setAll ⟨.null, t.columns.map Column.start⟩ first
      refine cell_set_self ?_ _
      rw [← Draft.setAll, hlen, List.length_map]
      exact hlt

end Store.Table

namespace Migration

variable {now : Instant} {s s' : Store} {n : String} {m : Migration}

/-! ## What a store remembers -/

/-- The names of the applied steps. -/
def recorded (s : Store) : List Value :=
  ((do
    let t ← s.table? tableName
    let place ← t.place? "name"
    return t.rows.map (·.value place)) : Option (List Value)).getD []

theorem recorded_of_table? {t : Table} {place : Place} (ht : s.table? tableName = some t)
    (hp : t.place? "name" = some place) : recorded s = t.rows.map (·.value place) := by
  simp only [recorded, ht, hp, bind, Option.bind, pure, Option.getD_some]

theorem entries?_eq_some {rows : List (Value × Value)} :
    entries? s = some rows ↔
      ∃ t id place, s.table? tableName = some t ∧ t.place? "id" = some id ∧
        t.place? "name" = some place ∧
        rows = t.rows.map fun row => (row.value id, row.value place) := by
  unfold entries?
  constructor
  · intro h
    obtain ⟨t, ht, h⟩ := Option.bind_eq_some_iff.1 h
    obtain ⟨id, hid, h⟩ := Option.bind_eq_some_iff.1 h
    obtain ⟨place, hp, h⟩ := Option.bind_eq_some_iff.1 h
    exact ⟨t, id, place, ht, hid, hp, (Option.some.inj h).symm⟩
  · rintro ⟨t, id, place, ht, hid, hp, rfl⟩
    simp only [ht, hid, hp, bind, Option.bind, pure]

theorem map_snd_entries {rows : List (Value × Value)} (h : entries? s = some rows) :
    rows.map Prod.snd = recorded s := by
  obtain ⟨t, id, place, ht, -, hp, rfl⟩ := entries?_eq_some.1 h
  rw [recorded_of_table? ht hp, List.map_map]
  rfl

theorem last?_eq_some {last : Option String} (h : last? s = some last) :
    ∃ rows, entries? s = some rows ∧ (last = none ↔ recorded s = []) := by
  obtain ⟨rows, hrows, h⟩ := Option.bind_eq_some_iff.1 h
  refine ⟨rows, hrows, ?_⟩
  rw [← map_snd_entries hrows, List.map_eq_nil_iff]
  have hperm := List.mergeSort_perm rows fun a b => !a.1.sortsBefore b.1
  dsimp only at h
  split at h
  · rename_i hsorted
    rw [hsorted] at hperm
    simp [← Option.some.inj h, hperm.symm.eq_nil]
  · rename_i row rest hsorted
    obtain ⟨text, -, h⟩ := Option.bind_eq_some_iff.1 h
    have hne : rows ≠ [] := by
      rintro rfl
      simp at hsorted
    simp [← Option.some.inj h, hne]

theorem last?_of_nil (h : entries? s = some []) : last? s = some none := by
  simp only [last?, h, bind, Option.bind, List.mergeSort_nil, pure]

theorem last?_of_recorded {rows : List (Value × Value)} (h : entries? s = some rows)
    (hn : recorded s = [.text n]) : last? s = some (some n) := by
  rw [← map_snd_entries h] at hn
  obtain ⟨row, rfl, hrow⟩ := List.map_eq_singleton_iff.1 hn
  simp only [last?, h, bind, Option.bind, List.mergeSort_singleton, hrow, Value.readText?, pure]

/-! ## One step -/

theorem table?_remember_other (t : Table) (id : Int) {other : String}
    (ho : sameName counter.name other = false) :
    (remember s t id).table? other = s.table? other := by
  unfold remember
  dsimp only
  split
  · rename_i hup
    exact Store.table?_update?_other hup ho
  · cases hin : s.insert? counter.name _ with
    | none => rfl
    | some s' => exact Store.table?_insert?_other hin ho

theorem note?_eq_some (hn : Value.numberOf? n = none) (h : note? now s n = some s') :
    (∀ t place, s.table? tableName = some t → t.place? "name" = some place →
      ∃ row, s'.table? tableName = some { t with rows := Table.place t.key row t.rows } ∧
        row.value place = .text n) ∧
    ∀ other, sameName tableName other = false → sameName counter.name other = false →
      s'.table? other = s.table? other := by
  have inserted : ∀ (before : List (String × Value)) {mid : Store},
      s.insert? tableName (before ++ [("name", .text n), ("applied_at", .text now.storedText)]) =
        some mid →
      ∀ t place, s.table? tableName = some t → t.place? "name" = some place →
        ∃ row, mid.table? tableName = some { t with rows := Table.place t.key row t.rows } ∧
          row.value place = .text n := by
    intro before mid hmid t place ht hp
    obtain ⟨t', u, ht', hu, rfl⟩ := Store.insert?_eq_some.1 hmid
    obtain rfl := Option.some.inj (ht.symm.trans ht')
    obtain ⟨row, rfl, hrow⟩ := Table.insert?_texts hu hn hp (by decide) (by decide) (by decide)
    have hname : sameName t.name tableName = true := Store.name_of_table? ht
    exact ⟨row, Store.table?_replace_self ht hname, hrow⟩
  obtain ⟨t, ht, h⟩ := Option.bind_eq_some_iff.1 h
  dsimp only at h
  split at h
  · exact ⟨inserted [] h, fun other ho _ => Store.table?_insert?_other h ho⟩
  · split at h
    · obtain ⟨mid, hmid, h⟩ := Option.bind_eq_some_iff.1 h
      obtain rfl := Option.some.inj h
      refine ⟨?_, fun other ho hc => ?_⟩
      · rw [table?_remember_other t _ (by decide)]
        exact inserted [("id", _)] hmid
      · exact (table?_remember_other t _ hc).trans (Store.table?_insert?_other hmid ho)
    · cases h

/-- Whether the store has the table of jobs. -/
def HasRegistry (s : Store) : Prop := (s.table? Sql.jobsTable).isSome = true

instance : Decidable (HasRegistry s) := inferInstanceAs (Decidable (_ = true))

theorem withRegistry?_eq_some (h : withRegistry? s = some s') :
    HasRegistry s' ∧
      (s.table? Sql.jobsTable = none → s'.table? Sql.jobsTable = some Registry.table) ∧
      ∀ other, sameName Sql.jobsTable other = false → s'.table? other = s.table? other := by
  obtain ⟨mid, hmid, h⟩ := Option.bind_eq_some_iff.1 h
  obtain ⟨t, ht, h⟩ := Option.bind_eq_some_iff.1 h
  split at h
  · obtain rfl := Option.some.inj h
    refine ⟨by rw [HasRegistry, ht]; rfl, ?_⟩
    unfold withJobs? at hmid
    split at hmid
    · rename_i hsome
      obtain rfl := Option.some.inj hmid
      exact ⟨fun hnone => by simp [hnone] at hsome, fun _ _ => rfl⟩
    · exact ⟨fun _ => Store.table?_create_self hmid (by decide),
        fun _ ho => Store.table?_create_other hmid ho⟩
  · cases h

theorem mem_known : m ∈ known ↔ m = createRegistry := List.mem_singleton

theorem numberOf?_name (hm : m ∈ known) : Value.numberOf? m.name = none := by
  obtain rfl := mem_known.1 hm
  rfl

/-- What a store gains when steps are applied to it. -/
structure Gains (s s' : Store) (names : List String) : Prop where
  /-- The steps are noted in the same columns as before. -/
  entries : ∀ rows, entries? s = some rows → ∃ rows', entries? s' = some rows'
  recorded : ∀ rows, entries? s = some rows →
    (recorded s').Perm (names.map .text ++ recorded s)
  registry : HasRegistry s ∨ names ≠ [] → HasRegistry s'
  others : ∀ other, sameName tableName other = false → sameName counter.name other = false →
    sameName Sql.jobsTable other = false → s'.table? other = s.table? other

theorem Gains.refl (s : Store) : Gains s s [] where
  entries rows h := ⟨rows, h⟩
  recorded _ _ := .refl _
  registry h := h.resolve_right fun hne => hne rfl
  others _ _ _ _ := rfl

theorem applyOne?_gains (hm : m ∈ known) (h : applyOne? now s m = some s') :
    Gains s s' [m.name] ∧
      (s.table? Sql.jobsTable = none → s'.table? Sql.jobsTable = some Registry.table) := by
  have hn := numberOf?_name hm
  obtain rfl := mem_known.1 hm
  obtain ⟨mid, hmid, hnote⟩ := Option.bind_eq_some_iff.1 h
  obtain ⟨hregistry, hnew, hmid⟩ := withRegistry?_eq_some hmid
  obtain ⟨hrows, hothers⟩ := note?_eq_some hn hnote
  have hjobs : s'.table? Sql.jobsTable = mid.table? Sql.jobsTable :=
    hothers Sql.jobsTable (by decide) (by decide)
  have hsteps : mid.table? tableName = s.table? tableName := hmid tableName (by decide)
  refine ⟨⟨?_, ?_, ?_, ?_⟩, fun hnone => hjobs.trans (hnew hnone)⟩
  · intro rows hentries
    obtain ⟨t, id, place, ht, hid, hp, -⟩ := entries?_eq_some.1 hentries
    obtain ⟨row, ht', -⟩ := hrows t place (hsteps.trans ht) hp
    exact ⟨_, entries?_eq_some.2 ⟨_, id, place, ht', hid, hp, rfl⟩⟩
  · intro rows hentries
    obtain ⟨t, id, place, ht, hid, hp, -⟩ := entries?_eq_some.1 hentries
    obtain ⟨row, ht', hrow⟩ := hrows t place (hsteps.trans ht) hp
    have hperm := (Table.place_perm t.key row t.rows).map (·.value place)
    rw [List.map_cons, hrow] at hperm
    rw [recorded_of_table? ht hp, recorded_of_table? ht' hp]
    exact hperm
  · intro _
    rw [HasRegistry, hjobs]
    exact hregistry
  · intro other ht hc hj
    exact (hothers other ht hc).trans (hmid other hj)

/-! ## Many steps -/

theorem Gains.trans {s₁ s₂ s₃ : Store} {names names' : List String} (h : Gains s₁ s₂ names)
    (h' : Gains s₂ s₃ names') : Gains s₁ s₃ (names' ++ names) where
  entries rows hrows := by
    obtain ⟨rows', hrows'⟩ := h.entries rows hrows
    exact h'.entries rows' hrows'
  recorded rows hrows := by
    obtain ⟨rows', hrows'⟩ := h.entries rows hrows
    rw [List.map_append, List.append_assoc]
    exact (h'.recorded rows' hrows').trans ((h.recorded rows hrows).append_left _)
  registry hreg := by
    rw [or_iff_not_imp_left] at hreg
    refine h'.registry (or_iff_not_imp_left.2 fun hs₂ hnil => ?_)
    rw [hnil, List.nil_append] at hreg
    exact hs₂ (h.registry (or_iff_not_imp_left.2 hreg))
  others other ht hc hj := (h'.others other ht hc hj).trans (h.others other ht hc hj)

theorem foldlM_gains (steps : List Migration) (hs : ∀ m ∈ steps, m ∈ known)
    (h : steps.foldlM (applyOne? now) s = some s') :
    Gains s s' (steps.map Migration.name).reverse := by
  induction steps generalizing s with
  | nil =>
    obtain rfl := Option.some.inj h
    exact .refl s
  | cons m rest ih =>
    obtain ⟨hm, hrest⟩ := List.forall_mem_cons.1 hs
    rw [List.foldlM_cons] at h
    obtain ⟨mid, hmid, h⟩ := Option.bind_eq_some_iff.1 h
    rw [List.map_cons, List.reverse_cons]
    exact (applyOne?_gains hm hmid).1.trans (ih hrest h)

/-! ## Pending steps -/

/-- There is one step only, so none comes after another. -/
theorem pending_some (last : String) : pending (some last) = [] := by
  unfold pending knownAfter known
  by_cases h : createRegistry.name = last
  · simp [h]
  · simp [h]

/-! ## The table of steps -/

theorem prepared_of_isSome (h : (s.table? tableName).isSome = true) : prepared s = s := by
  unfold prepared
  rw [if_pos h]

theorem table?_prepared_self (h : s.table? tableName = none) :
    (prepared s).table? tableName = some table := by
  unfold prepared
  rw [h]
  simp only [Option.isSome_none, Bool.false_eq_true, if_false, Store.table?, List.find?_append]
  rw [Store.table?] at h
  rw [h]
  rfl

theorem table?_prepared_other {other : String} (ht : sameName tableName other = false)
    (hc : sameName counter.name other = false) :
    (prepared s).table? other = s.table? other := by
  have htable : sameName table.name other = false := ht
  unfold prepared
  split
  · rfl
  · simp only [Store.table?, List.find?_append]
    by_cases hcounter : (s.table? counter.name).isSome = true
    · rw [Store.table?] at hcounter
      simp [htable, hcounter]
    · rw [Store.table?] at hcounter
      simp [htable, hc, hcounter]

theorem recorded_prepared (s : Store) : recorded (prepared s) = recorded s := by
  cases h : s.table? tableName with
  | none =>
    rw [recorded_of_table? (table?_prepared_self h) rfl, recorded, h]
    rfl
  | some t => rw [prepared_of_isSome (by rw [h]; rfl)]

/-! ## A whole run -/

theorem run_of_last {x : String} (ht : (s.table? tableName).isSome = true)
    (h : last? s = some (some x)) (now : Instant) : run now s = (s, .ok ()) := by
  simp only [run, applyPending, prepared_of_isSome ht, h, pending_some, List.foldlM_nil, pure]

theorem isSome_of_recorded (h : recorded s ≠ []) : (s.table? tableName).isSome = true := by
  cases ht : s.table? tableName with
  | none => exact absurd (by rw [recorded, ht]; rfl) h
  | some t => rfl

/-- A run that applies the pending steps finds that there are none, or applies all. -/
theorem applyPending_eq_ok (h : applyPending now (prepared s) = .ok s') :
    (∃ x, last? (prepared s) = some (some x) ∧ recorded s ≠ [] ∧ s' = s) ∨
      ∃ rows, recorded s = [] ∧ entries? (prepared s) = some rows ∧
        known.foldlM (applyOne? now) (prepared s) = some s' := by
  unfold applyPending at h
  cases hlast : last? (prepared s) with
  | none =>
    rw [hlast] at h
    cases h
  | some last =>
    obtain ⟨rows, hrows, hnone⟩ := last?_eq_some hlast
    rw [recorded_prepared] at hnone
    rw [hlast] at h
    dsimp only at h
    cases last with
    | some x =>
      have hne : recorded s ≠ [] := fun hnil => nomatch hnone.2 hnil
      rw [pending_some, prepared_of_isSome (isSome_of_recorded hne)] at h
      obtain rfl := Except.ok.inj h
      exact .inl ⟨x, rfl, hne, rfl⟩
    | none =>
      cases happly : known.foldlM (applyOne? now) (prepared s) with
      | none =>
        rw [pending, happly] at h
        cases h
      | some after =>
        rw [pending, happly] at h
        obtain rfl := Except.ok.inj h
        exact .inr ⟨rows, hnone.1 rfl, hrows, rfl⟩

/-- Whether the table of jobs is there exactly if the step that makes it is recorded. -/
def Consistent (s : Store) : Prop := HasRegistry s ↔ .text createRegistry.name ∈ recorded s

instance : Decidable (Consistent s) := inferInstanceAs (Decidable (_ ↔ _))

structure UpToDate (s : Store) : Prop where
  registry : HasRegistry s
  recorded : ∀ m ∈ known, .text m.name ∈ recorded s

/-- Some step is recorded, and yet a step that is known is not. -/
def Stranded (s : Store) : Prop := recorded s ≠ [] ∧ ∃ m ∈ known, .text m.name ∉ recorded s

theorem upToDate_iff (hs : Consistent s) (hne : recorded s ≠ []) :
    UpToDate s ↔ ¬ Stranded s := by
  constructor
  · rintro ⟨-, hall⟩ ⟨-, m, hm, hmissing⟩
    exact hmissing (hall m hm)
  · intro h
    have hall : ∀ m ∈ known, .text m.name ∈ recorded s := by
      intro m hm
      by_contra hmissing
      exact h ⟨hne, m, hm, hmissing⟩
    exact ⟨hs.2 (hall createRegistry (mem_known.2 rfl)), hall⟩

theorem applied_all (hs : Consistent s) (hnil : recorded s = []) {rows : List (Value × Value)}
    (hrows : entries? (prepared s) = some rows)
    (h : known.foldlM (applyOne? now) (prepared s) = some s') :
    recorded s' = known.map (.text ·.name) ∧ s'.table? Sql.jobsTable = some Registry.table ∧
      last? s' = some (some createRegistry.name) := by
  have hgains := foldlM_gains known (fun _ hm => hm) h
  have hrecorded : recorded s' = [.text createRegistry.name] := by
    have hperm := hgains.recorded rows hrows
    rw [recorded_prepared, hnil] at hperm
    exact List.perm_singleton.1 hperm
  have hnone : (prepared s).table? Sql.jobsTable = none := by
    rw [table?_prepared_other (by decide) (by decide), ← Option.not_isSome_iff_eq_none]
    intro hsome
    have := hs.1 hsome
    rw [hnil] at this
    exact List.not_mem_nil this
  obtain ⟨mid, hmid, hlast⟩ := Option.bind_eq_some_iff.1 h
  obtain rfl := Option.some.inj hlast
  obtain ⟨rows', hrows'⟩ := hgains.entries rows hrows
  exact ⟨hrecorded, (applyOne?_gains (mem_known.2 rfl) hmid).2 hnone,
    last?_of_recorded hrows' hrecorded⟩

/-- Whatever steps a store remembers, a run that succeeds brings it up to date unless only steps
are recorded that are not known. It applies and records all steps or nothing, and a second run
changes nothing. A run that fails has recorded and changed nothing. -/
theorem runs_settle (now : Instant) {s : Store} (hs : Consistent s) :
    (∀ other, sameName tableName other = false → sameName counter.name other = false →
      sameName Sql.jobsTable other = false → (run now s).1.table? other = s.table? other) ∧
    ((run now s).2 = .ok () →
      (UpToDate (run now s).1 ↔ ¬ Stranded s) ∧
      (recorded s ≠ [] → (run now s).1 = s) ∧
      (recorded s = [] → recorded (run now s).1 = known.map (.text ·.name) ∧
        (run now s).1.table? Sql.jobsTable = some Registry.table) ∧
      ∀ later, run later (run now s).1 = ((run now s).1, .ok ())) ∧
    ∀ fault, (run now s).2 = .error fault →
      recorded (run now s).1 = recorded s ∧
        (run now s).1.table? Sql.jobsTable = s.table? Sql.jobsTable := by
  cases happly : applyPending now (prepared s) with
  | error fault =>
    have hrun : run now s = (prepared s, .error fault) := by rw [run, happly]
    rw [hrun]
    refine ⟨fun other ht hc _ => table?_prepared_other ht hc, nofun, fun _ _ => ?_⟩
    exact ⟨recorded_prepared s, table?_prepared_other (by decide) (by decide)⟩
  | ok s' =>
    have hrun : run now s = (s', .ok ()) := by rw [run, happly]
    rw [hrun]
    obtain ⟨x, hlast, hne, rfl⟩ | ⟨rows, hnil, hrows, hfold⟩ := applyPending_eq_ok happly
    · have hsome := isSome_of_recorded hne
      rw [prepared_of_isSome hsome] at hlast
      refine ⟨fun _ _ _ _ => rfl, fun _ => ⟨upToDate_iff hs hne, fun _ => rfl, ?_, ?_⟩, nofun⟩
      · exact fun hnil => absurd hnil hne
      · exact run_of_last hsome hlast
    · obtain ⟨hrecorded, hjobs, hlast⟩ := applied_all hs hnil hrows hfold
      have hsome := isSome_of_recorded (by rw [hrecorded]; exact List.cons_ne_nil _ _)
      have hstranded : ¬ Stranded s := fun h => h.1 hnil
      have hdate : UpToDate s' := by
        refine ⟨by rw [HasRegistry, hjobs]; rfl, fun m hm => ?_⟩
        rw [hrecorded]
        exact List.mem_map_of_mem hm
      refine ⟨fun other ht hc hj => ?_, fun _ => ⟨?_, ?_, ?_, ?_⟩, nofun⟩
      · have hgains := foldlM_gains known (fun _ hm => hm) hfold
        exact (hgains.others other ht hc hj).trans (table?_prepared_other ht hc)
      · exact ⟨fun _ => hstranded, fun _ => hdate⟩
      · exact fun hne => absurd hnil hne
      · exact fun _ => ⟨hrecorded, hjobs⟩
      · exact run_of_last hsome hlast

/-- The day of the first opening. -/
def firstDay : Instant :=
  ⟨⟨2025, 8, 4, by decide, by decide⟩, 9, 30, 15, 500, by decide, by decide, by decide, by decide⟩

/-- A store where another program recorded a step before the known one was applied. -/
def sharedStore : Store :=
  ⟨[Registry.table, { table with rows := Store.Row.numbered [
    [.integer 1, .text "unknown.sql", .text "x"],
    [.integer 2, .text createRegistry.name, .text "y"]] }]⟩

theorem last?_sharedStore : last? sharedStore = some (some createRegistry.name) := by
  have hentries : entries? sharedStore = some
      [(.integer 1, .text "unknown.sql"), (.integer 2, .text createRegistry.name)] := rfl
  have hsort (a b : Value × Value) (le : Value × Value → Value × Value → Bool) :
      [a, b].mergeSort le = if le a b then [a, b] else [b, a] := by
    simp [List.mergeSort, List.MergeSort.Internal.splitInTwo, List.merge]
  simp only [last?, hentries, bind, Option.bind, hsort]
  rfl

/-- An empty store gets all steps. A shared one has them, and stays as it is. -/
theorem runs_settle_emptyAndShared :
    ((run firstDay .empty).2 = .ok () ∧ UpToDate (run firstDay .empty).1 ∧
      recorded (run firstDay .empty).1 = [.text "20250601000000_create_export_jobs.sql"] ∧
      run firstDay (run firstDay .empty).1 = ((run firstDay .empty).1, .ok ())) ∧
    (run firstDay sharedStore).2 = .ok () ∧ UpToDate (run firstDay sharedStore).1 ∧
      (run firstDay sharedStore).1 = sharedStore := by
  have hempty : (run firstDay .empty).2 = .ok () := by
    have hlast : last? (prepared .empty) = some none := last?_of_nil rfl
    have happly : (known.foldlM (applyOne? firstDay) (prepared .empty)).isSome = true := by
      decide +kernel
    obtain ⟨s', hs'⟩ := Option.isSome_iff_exists.1 happly
    simp only [run, applyPending, hlast, pending, hs']
  have hshared : (run firstDay sharedStore).2 = .ok () := by
    rw [run_of_last (by decide) last?_sharedStore]
  have hknown : ¬ Stranded sharedStore := by
    rintro ⟨-, m, hm, hmissing⟩
    obtain rfl := List.mem_singleton.1 hm
    exact hmissing (by decide)
  obtain ⟨-, hsuccess, -⟩ := runs_settle firstDay (s := .empty) (by decide)
  obtain ⟨hdate, -, hfirst, hagain⟩ := hsuccess hempty
  obtain ⟨-, hsuccess, -⟩ := runs_settle firstDay (s := sharedStore) (by decide)
  obtain ⟨hdate', hsame, -, -⟩ := hsuccess hshared
  exact ⟨⟨hempty, hdate.2 fun h => h.1 rfl, (hfirst rfl).1, hagain firstDay⟩,
    hshared, hdate'.2 hknown, hsame (by decide)⟩

/-- A store with a step of another program. -/
def foreignStore : Store :=
  ⟨[{ table with rows := [⟨1, [.integer 1, .text "unknown.sql", .text "x"]⟩] }]⟩

theorem foreign_step_hides_all :
    Consistent foreignStore ∧ run firstDay foreignStore = (foreignStore, .ok ()) ∧
      ¬ HasRegistry foreignStore := by
  have hentries : entries? foreignStore = some [(.integer 1, .text "unknown.sql")] := rfl
  have hlast : last? foreignStore = some (some "unknown.sql") := last?_of_recorded hentries rfl
  exact ⟨by decide, run_of_last rfl hlast firstDay, by decide⟩

end Migration

end SheetExport
