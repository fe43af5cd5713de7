import SheetExport.Proofs.ScannedKeys
import SheetExport.Service

/-!
# Remembered keys

The keys of a type are remembered with the largest id that its attribute rows had. While rows only
come in under larger ids and posts keep their types, the largest id stays the same only if the keys
do. So a caller cannot tell remembered keys from those of a scan.
-/

namespace SheetExport

/-! ## Largest ids -/

namespace Catalog

theorem sortsBefore_integer (i j : Int) :
    (Value.integer i).sortsBefore (.integer j) = decide (i < j) := by
  rw [Bool.eq_iff_iff, decide_eq_true_eq]
  simp only [Value.sortsBefore, Value.isNull, Value.order, reduceCtorEq, decide_false,
    Bool.false_eq_true, if_false, beq_iff_eq, Option.some.injEq]
  exact Std.compare_eq_lt

theorem maximum_append (as bs : List Value) : maximum (as ++ bs) =
    bs.foldl (fun m v => if m.sortsBefore v then v else m) (maximum as) := List.foldl_append

theorem maximum_mem (vs : List Value) : maximum vs = .null ∨ maximum vs ∈ vs := by
  have reached : ∀ (vs : List Value) (m : Value),
      vs.foldl (fun m v => if m.sortsBefore v then v else m) m = m ∨
        vs.foldl (fun m v => if m.sortsBefore v then v else m) m ∈ vs := by
    intro vs
    induction vs with
    | nil => exact fun m => .inl rfl
    | cons v vs ih =>
      intro m
      rw [List.foldl_cons]
      rcases ih (if m.sortsBefore v then v else m) with h | h
      · rw [h]
        split
        · exact .inr List.mem_cons_self
        · exact .inl rfl
      · exact .inr (List.mem_cons_of_mem _ h)
  exact reached vs .null

theorem foldl_above {least : Int} : ∀ {new : List Value}, new ≠ [] →
    (∀ v ∈ new, ∃ i, v = .integer i ∧ least < i) → ∀ {m : Value},
    m = .null ∨ (∃ j, m = .integer j ∧ least ≤ j) →
    ∃ i, new.foldl (fun m v => if m.sortsBefore v then v else m) m = .integer i ∧ least < i := by
  intro new
  induction new with
  | nil => exact fun h => absurd rfl h
  | cons v new ih =>
    intro _ hnew m hm
    obtain ⟨⟨i, rfl, hi⟩, hrest⟩ := List.forall_mem_cons.1 hnew
    have step : ∃ j, (if m.sortsBefore (.integer i) then Value.integer i else m) = .integer j ∧
        least < j := by
      rcases hm with rfl | ⟨j, rfl, hj⟩
      · exact ⟨i, rfl, hi⟩
      · rw [sortsBefore_integer]
        by_cases h : j < i
        · exact ⟨i, by simp [h], hi⟩
        · exact ⟨j, by simp [h], by omega⟩
    obtain ⟨j, hstep, hj⟩ := step
    rw [List.foldl_cons, hstep]
    cases new with
    | nil => exact ⟨j, rfl, hj⟩
    | cons w rest => exact ih (List.cons_ne_nil _ _) hrest (.inr ⟨j, rfl, by omega⟩)

/-- The ids of the attribute rows of a type. -/
def rowIds? (s : Store) (t : EntityType) : Option (List Value) :=
  values? s [(⟨t.attributeTable, none⟩, [])] (.bare t.attributeRowId)

def markOf : Value → Except JobFault Int
  | .null => .ok 0
  | .integer i => .ok i
  | _ => .error .rejected

theorem highWaterMark_eq (s : Store) (t : EntityType) : highWaterMark s t =
    match rowIds? s t with
    | none => .error .rejected
    | some ids => markOf (maximum ids) := by
  unfold highWaterMark rowIds?
  cases values? s [(⟨t.attributeTable, none⟩, [])] (.bare t.attributeRowId) with
  | none => rfl
  | some ids =>
    simp only [Registry.orRejected, bind, Except.bind]
    cases maximum ids <;> rfl

end Catalog

namespace Store

/-- Rows are added to a table under positive ids that are larger than all before. -/
def Table.Grows (before after : Table) (rowId : String) : Prop :=
  ∃ new, after = { before with rows := before.rows ++ new } ∧ ∀ row ∈ new, ∃ i,
    (before.cell row rowId).value = .integer i ∧ 0 < i ∧
      ∀ old ∈ before.rows, ∀ j, (before.cell old rowId).value = .integer j → j < i

theorem place_of_cell {rows : Table} {row : Row} {column : String} {i : Int}
    (h : (rows.cell row column).value = .integer i) : (rows.place? column).isSome = true := by
  unfold Table.cell at h
  cases hp : rows.place? column with
  | none => simp [hp, Operand.literal] at h
  | some place => rfl

theorem operand_bare_cell {rows : Table} {column : String}
    (h : (rows.place? column).isSome = true) (label : String) (row : Row) :
    operand [⟨rows.header label, row⟩] (.bare column) = rows.cell row column := by
  rw [operand_bare (b := ⟨rows.header label, row⟩) h, Table.entry_binding]

end Store

namespace Catalog

variable {before after : Store} {t : EntityType}

theorem rowIds?_eq {s : Store} {rows : Store.Table} (h : s.table? t.attributeTable = some rows)
    (hplace : (rows.place? t.attributeRowId).isSome = true) :
    rowIds? s t = some (rows.rows.map fun row => (rows.cell row t.attributeRowId).value) := by
  rw [rowIds?, values?_single, h, Option.map_some, Store.Table.bindings, List.map_map]
  refine congrArg some (List.map_congr_left fun row _ => congrArg Operand.value ?_)
  exact Store.operand_bare_cell hplace t.attributeTable row

theorem markOf_eq_ok {v : Value} {n : Int} :
    markOf v = .ok n ↔ (v = .null ∧ n = 0) ∨ v = .integer n := by
  cases v <;> simp [markOf, eq_comm]

theorem highWaterMark_lt {s : Store} {ids : List Value} (hids : rowIds? s t = some ids) {n : Int}
    (hn : highWaterMark s t = .ok n) {i : Int} (hpos : 0 < i)
    (hlarge : ∀ j, .integer j ∈ ids → j < i) : n < i := by
  rw [highWaterMark_eq, hids] at hn
  rcases markOf_eq_ok.1 hn with ⟨-, rfl⟩ | hmax
  · exact hpos
  · have hold := (maximum_mem ids).resolve_left (by rw [hmax]; simp)
    exact hlarge n (hmax ▸ hold)

theorem exists_table_of_highWaterMark {s : Store} {n : Int} (h : highWaterMark s t = .ok n) :
    ∃ rows, s.table? t.attributeTable = some rows := by
  cases ht : s.table? t.attributeTable with
  | some rows => exact ⟨rows, rfl⟩
  | none =>
    rw [highWaterMark_eq, rowIds?, values?_single, ht] at h
    simp at h

theorem highWaterMark_congr
    (h : after.table? t.attributeTable = before.table? t.attributeTable) :
    highWaterMark after t = highWaterMark before t := by
  rw [highWaterMark_eq, rowIds?, values?_single, h, ← values?_single, ← rowIds?,
    ← highWaterMark_eq]

theorem highWaterMark_grows {rows rows' : Store.Table}
    (hb : before.table? t.attributeTable = some rows)
    (ha : after.table? t.attributeTable = some rows') (hg : rows.Grows rows' t.attributeRowId)
    {n : Int} (hn : highWaterMark before t = .ok n) :
    rows' = rows ∨ ∃ n', highWaterMark after t = .ok n' ∧ n < n' := by
  obtain ⟨new, rfl, hnew⟩ := hg
  by_cases hne : new = []
  · exact .inl (by simp [hne])
  refine .inr ?_
  have hplace : (rows.place? t.attributeRowId).isSome = true := by
    obtain ⟨row, hrow⟩ := List.exists_mem_of_ne_nil new hne
    obtain ⟨i, hi, -⟩ := hnew row hrow
    exact Store.place_of_cell hi
  have hids := rowIds?_eq hb hplace
  have above : ∀ v ∈ new.map (fun row => (rows.cell row t.attributeRowId).value),
      ∃ i, v = .integer i ∧ n < i := by
    refine List.forall_mem_map.2 fun row hrow => ?_
    obtain ⟨i, hi, hpos, hlarge⟩ := hnew row hrow
    refine ⟨i, hi, highWaterMark_lt hids hn hpos fun j hj => ?_⟩
    obtain ⟨old, hold, hvalue⟩ := List.mem_map.1 hj
    exact hlarge old hold j hvalue
  rw [highWaterMark_eq, hids] at hn
  obtain ⟨n', hfold, hlt⟩ := foldl_above (by simpa using hne) above
    ((markOf_eq_ok.1 hn).imp And.left fun h => ⟨n, h, Int.le_refl n⟩)
  refine ⟨n', ?_, hlt⟩
  have hids' : rowIds? after t = some (rows.rows.map (fun row =>
      (rows.cell row t.attributeRowId).value) ++ new.map fun row =>
      (rows.cell row t.attributeRowId).value) := by
    rw [rowIds?_eq ha hplace, ← List.map_append]
    rfl
  rw [highWaterMark_eq, hids']
  simp only [maximum_append, hfold]
  rfl

end Catalog

/-! ## Changes of a site -/

namespace Schema

/-- A post has the id. -/
def HasPost (schema : Schema) (s : Store) (id : Operand) : Prop :=
  ∃ e ∈ s.entries (schema.table "posts"), id.equals (e "ID") = true

/-- Every attribute row of posts belongs to a post. -/
def Owned (schema : Schema) (s : Store) : Prop :=
  ∀ m ∈ s.entries (schema.table "postmeta"), schema.HasPost s (m "post_id")

/-- What may change on a site between two calls. Whatever is not said here may change freely. -/
structure Grows (schema : Schema) (before after : Store) : Prop where
  /-- Attribute rows are only added, under larger ids. -/
  attributes : ∀ name rows,
    before.table? (schema.entityType name).attributeTable = some rows →
      ∃ rows', after.table? (schema.entityType name).attributeTable = some rows' ∧
        rows.Grows rows' (schema.entityType name).attributeRowId
  /-- They belong to posts that are there. -/
  owned : schema.Owned after
  columns : ∀ rows, before.table? (schema.table "posts") = some rows →
    ∃ rows', after.table? (schema.table "posts") = some rows' ∧
      rows'.columns = rows.columns ∧ rows'.key = rows.key
  /-- No post goes away or becomes one of another type. -/
  posts : ∀ id, schema.HasPost before id → schema.HasPost after id ∧
    ∀ name, (schema.entityType name).kind = .postLike →
      after.owns (schema.entityType name) id = before.owns (schema.entityType name) id

theorem entityType_cases (schema : Schema) (name : String) :
    ((schema.entityType name).kind ≠ .postLike ∧ (schema.entityType name).subtype = none) ∨
      schema.entityType name = ⟨.postLike, postTypeLabel name, schema.table "posts",
        schema.table "postmeta", "ID", "post_id", "meta_id", some name⟩ := by
  unfold entityType
  repeat' split
  · exact .inl ⟨by simp, rfl⟩
  · exact .inl ⟨by simp, rfl⟩
  · exact .inl ⟨by simp, rfl⟩
  · exact .inr rfl

theorem entityType_eq_of_isFor {schema : Schema} {a b : String} {k : KnownKeys}
    (ha : KeyCache.isFor (schema.entityType a) k = true)
    (hb : KeyCache.isFor (schema.entityType b) k = true) :
    schema.entityType a = schema.entityType b := by
  simp only [KeyCache.isFor, Bool.and_eq_true, beq_iff_eq] at ha hb
  have htable := ha.1.symm.trans hb.1
  have hsub := ha.2.symm.trans hb.2
  unfold entityType at htable hsub ⊢
  repeat' split at htable
  all_goals
    simp_all [table, String.append_right_inj]

variable {schema : Schema} {before after : Store} {name : String}

theorem offers_posts (h : schema.Grows before after) {column : String}
    (ho : before.offers (schema.table "posts") column = true) :
    after.offers (schema.table "posts") column = true := by
  obtain ⟨rows, hb⟩ := Option.isSome_iff_exists.1 (Store.isSome_of_offers ho)
  obtain ⟨rows', ha, hcolumns, hkey⟩ := h.columns rows hb
  unfold Store.offers at ho ⊢
  rw [hb] at ho
  rw [ha]
  simpa only [Store.Table.place?, hcolumns, hkey] using ho

theorem attributeRowsOf_eq (h : schema.Grows before after) (howned : schema.Owned before)
    (hsame : after.table? (schema.entityType name).attributeTable =
      before.table? (schema.entityType name).attributeTable) :
    after.attributeRowsOf (schema.entityType name) =
      before.attributeRowsOf (schema.entityType name) := by
  have hentries : after.entries (schema.entityType name).attributeTable =
      before.entries (schema.entityType name).attributeTable := by
    unfold Store.entries
    rw [hsame]
  unfold Store.attributeRowsOf
  rw [hentries]
  rcases schema.entityType_cases name with ⟨-, hsub⟩ | hpost
  · simp [hsub]
  · refine List.filter_congr fun m hm => ?_
    have hid : schema.HasPost before (m "post_id") := howned m (by rwa [hpost] at hm)
    have howns := (h.posts _ hid).2 name (by rw [hpost])
    rw [hpost] at howns ⊢
    rw [howns]

/-- Without a new attribute row a scan finds what it found before. -/
theorem scanKeys_kept (h : schema.Grows before after) (howned : schema.Owned before)
    (hsame : after.table? (schema.entityType name).attributeTable =
      before.table? (schema.entityType name).attributeTable) {keys : List String}
    (hscan : Catalog.scanKeys before (schema.entityType name) = .ok keys) :
    Catalog.scanKeys after (schema.entityType name) = .ok keys := by
  have hrows := attributeRowsOf_eq h howned hsame
  cases hsub : (schema.entityType name).subtype with
  | none =>
    have hvalues : Catalog.keyValues? after (schema.entityType name) =
        Catalog.keyValues? before (schema.entityType name) := by
      unfold Catalog.keyValues? Catalog.attributeSources
      rw [hsub]
      dsimp only
      rw [Catalog.values?_single, Catalog.values?_single, hsame]
    rwa [Catalog.scanKeys_eq, hvalues, ← Catalog.scanKeys_eq]
  | some subtype =>
    obtain ⟨vs, hvs, htexts, hp, hm⟩ := Catalog.scanKeys_eq_ok.1 hscan
    obtain ⟨hoffered, hmem⟩ := (Catalog.keyValues?_subtype hsub).1 vs hvs
    have hattributes (column : String) :
        after.offers (schema.entityType name).attributeTable column =
          before.offers (schema.entityType name).attributeTable column := by
      unfold Store.offers
      rw [hsame]
    have hposts : (schema.entityType name).entityTable = schema.table "posts" := by
      rcases schema.entityType_cases name with ⟨-, h⟩ | h
      · simp [h] at hsub
      · rw [h]
    have hoffered' : after.offersAll (Catalog.subtypeColumns (schema.entityType name)) := by
      simp only [Catalog.subtypeColumns, Store.offersAll_cons, hattributes, hposts] at hoffered ⊢
      exact ⟨hoffered.1, hoffered.2.1, offers_posts h hoffered.2.2.1,
        offers_posts h hoffered.2.2.2.1, fun _ h => absurd h List.not_mem_nil⟩
    obtain ⟨vs', hvs'⟩ := (Catalog.keyValues?_subtype hsub).2 hoffered'
    have hmem' := ((Catalog.keyValues?_subtype hsub).1 vs' hvs').2
    have alike (v : Value) : v ∈ vs' ↔ v ∈ vs := by rw [hmem', hmem, hrows]
    exact Catalog.scanKeys_eq_ok.2 ⟨vs', hvs', fun v hv => htexts v ((alike v).1 hv), hp,
      fun k => (hm k).trans (alike _).symm⟩

theorem posts_of_added (more : List Store.Entry)
    (hadded : after.entries (schema.table "posts") = before.entries (schema.table "posts") ++ more)
    (hids : ∀ e ∈ before.entries (schema.table "posts") ++ more,
      ∃ i, e "ID" = ⟨some .integer, .integer i⟩)
    (hnew : ∀ e ∈ before.entries (schema.table "posts"), ∀ added ∈ more, e "ID" ≠ added "ID")
    (id : Operand) (hid : schema.HasPost before id) : schema.HasPost after id ∧
      ∀ name, (schema.entityType name).kind = .postLike →
        after.owns (schema.entityType name) id = before.owns (schema.entityType name) id := by
  obtain ⟨e, he, heq⟩ := hid
  refine ⟨⟨e, by rw [hadded]; exact List.mem_append_left _ he, heq⟩, fun name hkind => ?_⟩
  have hpost : (schema.entityType name).entityTable = schema.table "posts" ∧
      (schema.entityType name).entityId = "ID" := by
    rcases schema.entityType_cases name with ⟨h, -⟩ | h
    · exact absurd hkind h
    · rw [h]
      exact ⟨rfl, rfl⟩
  have other : ∀ added ∈ more, id.equals (added "ID") = false := by
    intro added hmore
    obtain ⟨i, hi⟩ := hids e (List.mem_append_left _ he)
    obtain ⟨j, hj⟩ := hids added (List.mem_append_right _ hmore)
    by_contra hne
    rw [Bool.not_eq_false, hj, Operand.equals_id, Value.isId_iff] at hne
    rw [hi, Operand.equals_id, Value.isId_iff, hne, Option.some.injEq, Value.unitsOf_inj] at heq
    exact hnew e he added hmore (by rw [hi, hj, heq])
  unfold Store.owns Store.entitiesOf
  rw [hpost.1, hpost.2, hadded, List.filter_append, List.any_append]
  refine (congrArg _ (List.any_eq_false.2 fun added hmore => ?_)).trans (Bool.or_false _)
  rw [other added (List.mem_filter.1 hmore).1]
  exact Bool.false_ne_true

end Schema

/-! ## What is remembered -/

/-- If no row came since the keys were remembered, a scan finds them. -/
def KnownKeys.Holds (k : KnownKeys) (s : Store) (t : EntityType) : Prop :=
  ∃ n, Catalog.highWaterMark s t = .ok n ∧ k.highWaterMark ≤ n ∧
    (n = k.highWaterMark → Catalog.scanKeys s t = .ok k.keys)

/-- All that is remembered holds for the types that it is remembered for. -/
def KeyCache.Holds (c : KeyCache) (schema : Schema) (s : Store) : Prop :=
  ∀ k ∈ c, ∀ name, KeyCache.isFor (schema.entityType name) k = true →
    k.Holds s (schema.entityType name)

namespace KeyCache

variable {schema : Schema} {before after s : Store} {c : KeyCache}

theorem Holds.change (hc : c.Holds schema before) (h : schema.Grows before after)
    (howned : schema.Owned before) : c.Holds schema after := by
  intro k hk name hfor
  obtain ⟨n, hmark, hle, hscan⟩ := hc k hk name hfor
  obtain ⟨rows, hb⟩ := Catalog.exists_table_of_highWaterMark hmark
  obtain ⟨rows', ha, hgrows⟩ := h.attributes name rows hb
  rcases Catalog.highWaterMark_grows hb ha hgrows hmark with rfl | ⟨n', hmark', hlt⟩
  · have hsame := ha.trans hb.symm
    exact ⟨n, (Catalog.highWaterMark_congr hsame).trans hmark, hle,
      fun hn => schema.scanKeys_kept h howned hsame (hscan hn)⟩
  · exact ⟨n', hmark', by omega, fun hn => by omega⟩

end KeyCache

namespace Catalog

variable {schema : Schema} {s : Store} {c : KeyCache} {name : String}

theorem keys?_eq_some {t : EntityType} {mark : Int} {keys : List String}
    (h : c.keys? t mark = some keys) :
    ∃ k ∈ c, KeyCache.isFor t k = true ∧ mark ≤ k.highWaterMark ∧ k.keys = keys := by
  unfold KeyCache.keys? at h
  cases hf : c.find? (KeyCache.isFor t) with
  | none => simp [hf] at h
  | some k =>
    simp only [hf, Option.ite_none_right_eq_some, Option.some.injEq] at h
    exact ⟨k, List.mem_of_find?_eq_some hf, List.find?_some hf, h⟩

/-- Keys that are found were remembered, or come from a scan and are remembered from now on. -/
theorem keys_eq_ok {t : EntityType} {c' : KeyCache} {found : List String}
    (h : keys s c t = .ok (c', found)) : ∃ mark, highWaterMark s t = .ok mark ∧
      ((c.keys? t mark = some found ∧ c' = c) ∨
        (c.keys? t mark = none ∧ scanKeys s t = .ok found ∧ c' = c.remember t mark found)) := by
  unfold keys at h
  cases hmark : highWaterMark s t with
  | error fault => simp [hmark, bind, Except.bind] at h
  | ok mark =>
    refine ⟨mark, rfl, ?_⟩
    simp only [hmark, bind, Except.bind] at h
    cases hk : c.keys? t mark with
    | some keys =>
      simp only [hk, pure, Except.pure, Except.ok.injEq, Prod.mk.injEq] at h
      exact .inl ⟨congrArg some h.2, h.1.symm⟩
    | none =>
      cases hscan : scanKeys s t with
      | error fault => simp [hk, hscan] at h
      | ok keys =>
        simp only [hk, hscan, pure, Except.pure, Except.ok.injEq, Prod.mk.injEq] at h
        exact .inr ⟨rfl, congrArg Except.ok h.2, h.2 ▸ h.1.symm⟩

/-- What is remembered is served only if a scan would find it. -/
theorem scanKeys_of_keys? (hc : c.Holds schema s) {mark : Int}
    (hmark : highWaterMark s (schema.entityType name) = .ok mark) {keys : List String}
    (h : c.keys? (schema.entityType name) mark = some keys) :
    scanKeys s (schema.entityType name) = .ok keys := by
  obtain ⟨k, hk, hfor, hle, rfl⟩ := keys?_eq_some h
  obtain ⟨n, hmark', hle', hscan⟩ := hc k hk name hfor
  obtain rfl : mark = n := by rw [hmark] at hmark'; exact Except.ok.inj hmark'
  exact hscan (by omega)

theorem keys_eq (hc : c.Holds schema s) :
    (keys s c (schema.entityType name)).map Prod.snd =
      (highWaterMark s (schema.entityType name)).bind fun _ =>
        scanKeys s (schema.entityType name) := by
  unfold keys
  cases hmark : highWaterMark s (schema.entityType name) with
  | error fault => rfl
  | ok mark =>
    simp only [bind, Except.bind]
    cases hk : c.keys? (schema.entityType name) mark with
    | some keys =>
      rw [scanKeys_of_keys? hc hmark hk]
      rfl
    | none => cases scanKeys s (schema.entityType name) <;> rfl

theorem holds_keys (hc : c.Holds schema s) {c' : KeyCache} {found : List String}
    (h : keys s c (schema.entityType name) = .ok (c', found)) : c'.Holds schema s := by
  obtain ⟨mark, hmark, ⟨-, rfl⟩ | ⟨-, hscan, rfl⟩⟩ := keys_eq_ok h
  · exact hc
  · intro k hk other hfor
    rcases List.mem_cons.1 hk with rfl | hk
    · have heq : schema.entityType other = schema.entityType name :=
        Schema.entityType_eq_of_isFor hfor (by simp [KeyCache.isFor])
      rw [heq]
      exact ⟨mark, hmark, Int.le_refl mark, fun _ => hscan⟩
    · exact hc k (List.mem_filter.1 hk).1 other hfor

/-- A catalog with keys that are found, and the tags of entities that have tags. -/
def withKeys (s : Store) (schema : Schema) (t : EntityType) (keys : List String) :
    Except JobFault FieldCatalog :=
  if t.supportsTags then
    (tagFields s schema t).map fun tags => ⟨t.offeredColumns, keys, some tags⟩
  else .ok ⟨t.offeredColumns, keys, none⟩

theorem fields_eq (s : Store) (c : KeyCache) (schema : Schema) (name : String) :
    (fields s c schema name).2 = ((keys s c (schema.entityType name)).map Prod.snd).bind
      (withKeys s schema (schema.entityType name)) := by
  simp only [fields]
  cases hk : keys s c (schema.entityType name) with
  | error fault => rfl
  | ok found =>
    simp only [Except.map, Except.bind, withKeys]
    split <;> rfl

theorem holds_fields (hc : c.Holds schema s) : (fields s c schema name).1.Holds schema s := by
  simp only [fields]
  cases hk : keys s c (schema.entityType name) with
  | error fault => exact hc
  | ok found =>
    have hfound := holds_keys hc hk
    dsimp only
    split <;> exact hfound

/-- The catalog of a type can be read: its keys can, and its attribute rows have integers for
ids. -/
structure Readable (s : Store) (t : EntityType) : Prop extends KeysReadable s t where
  numbered : s.offers t.attributeTable t.attributeRowId = true
  ids : ∀ m ∈ s.entries t.attributeTable, ∃ i, (m t.attributeRowId).value = .integer i

theorem Readable.exists_mark {t : EntityType} (h : Readable s t) :
    ∃ n, highWaterMark s t = .ok n := by
  rw [highWaterMark_eq, rowIds?, values?_offered h.numbered]
  dsimp only
  rcases maximum_mem ((s.entries t.attributeTable).map fun e => (e t.attributeRowId).value) with
    hnull | hmem
  · exact ⟨0, by rw [hnull]; rfl⟩
  · obtain ⟨m, hm, hv⟩ := List.mem_map.1 hmem
    obtain ⟨i, hi⟩ := h.ids m hm
    exact ⟨i, by rw [← hv, hi]; rfl⟩

end Catalog

/-! ## Runs -/

/-- A caller asks for the fields of a type, or the site changes. -/
inductive Visit where
  | call (typeName : String)
  | change (store : Store)

namespace Service

def visited (s : Service) : Visit → Service
  | .call typeName => (s.fieldCatalog typeName).1
  | .change store => { s with store := store }

/-- Every change of a run is one that may be. -/
def Permits (schema : Schema) : Store → List Visit → Prop
  | _, [] => True
  | store, .call _ :: rest => Permits schema store rest
  | store, .change store' :: rest => schema.Grows store store' ∧ Permits schema store' rest

/-- All that is remembered holds, and every attribute row of posts belongs to a post. -/
structure Trusted (s : Service) : Prop where
  remembered : s.cache.Holds s.schema s.store
  owned : s.schema.Owned s.store

theorem Trusted.call {s : Service} (h : s.Trusted) (name : String) :
    (s.visited (.call name)).Trusted :=
  ⟨Catalog.holds_fields h.remembered, h.owned⟩

theorem Trusted.change {s : Service} (h : s.Trusted) {store : Store}
    (hg : s.schema.Grows s.store store) : (s.visited (.change store)).Trusted :=
  ⟨h.remembered.change hg h.owned, hg.owned⟩

theorem Trusted.run {visits : List Visit} : ∀ {s : Service}, s.Trusted →
    Permits s.schema s.store visits → (visits.foldl visited s).Trusted := by
  induction visits with
  | nil => exact fun h _ => h
  | cons visit rest ih =>
    intro s h hp
    cases visit with
    | call name => exact ih (h.call name) hp
    | change store => exact ih (h.change hp.1) hp.2

theorem schema_run (visits : List Visit) : ∀ s : Service,
    (visits.foldl visited s).schema = s.schema := by
  induction visits with
  | nil => exact fun _ => rfl
  | cons visit rest ih =>
    intro s
    rw [List.foldl_cons, ih]
    cases visit <;> rfl

theorem Trusted.fieldCatalog_eq {s : Service} (h : s.Trusted) (name : String) :
    (s.fieldCatalog name).2 = ((Catalog.highWaterMark s.store (s.schema.entityType name)).bind
      fun _ => Catalog.scanKeys s.store (s.schema.entityType name)).bind
        (Catalog.withKeys s.store s.schema (s.schema.entityType name)) := by
  rw [← Catalog.keys_eq h.remembered, ← Catalog.fields_eq]
  rfl

/-- At any point of a run a caller is answered as by a service that remembers nothing: with the keys
of all attribute rows of the type as they are now, in the order of their bytes. -/
theorem remembered_keys_are_scanned {schema : Schema} {format : Csv.Format} {batchSize : Nat}
    {store : Store} (howned : schema.Owned store) {visits : List Visit}
    (hp : Permits schema store visits) (typeName : String) :
    let s := visits.foldl visited (.ofStore schema format batchSize store)
    (s.fieldCatalog typeName).2 =
        ((ofStore schema format batchSize s.store).fieldCatalog typeName).2 ∧
      (Catalog.Readable s.store (schema.entityType typeName) → ∃ keys,
        Catalog.AreKeys s.store (schema.entityType typeName) keys ∧ (s.fieldCatalog typeName).2 =
          Catalog.withKeys s.store schema (schema.entityType typeName) keys) := by
  intro s
  have hs : s.Trusted := Trusted.run ⟨fun _ h => absurd h List.not_mem_nil, howned⟩ hp
  have hschema : s.schema = schema := schema_run visits _
  have hanswer := hs.fieldCatalog_eq typeName
  have hfresh : (ofStore schema format batchSize s.store).Trusted :=
    ⟨fun _ h => absurd h List.not_mem_nil, hschema ▸ hs.owned⟩
  rw [hschema] at hanswer
  refine ⟨hanswer.trans (hfresh.fieldCatalog_eq typeName).symm, fun h => ?_⟩
  obtain ⟨n, hmark⟩ := h.exists_mark
  obtain ⟨keys, hscan, hkeys⟩ := Catalog.exists_scanKeys h.toKeysReadable
  refine ⟨keys, hkeys, ?_⟩
  rw [hanswer, hmark, hscan]
  rfl

/-! ## A site that grows -/

def typedPosts (types : List String) : Store.Table :=
  ⟨"posts", [.free "ID" .integer, .free "post_type" .text], .integer,
    Store.Row.numbered (types.zipIdx.map fun (name, i) => [.integer (i + 1), .text name])⟩

def keyedAttributes (attributes : List (Int × String)) : Store.Table :=
  ⟨"postmeta", [.free "meta_id" .integer, .free "post_id" .integer, .free "meta_key" .text],
    .integer, Store.Row.numbered (attributes.zipIdx.map fun ((post, key), i) =>
      [.integer (i + 1), .integer post, .text key])⟩

/-- Posts by their types, and attribute rows by their posts and keys. -/
def keyedPosts (types : List String) (attributes : List (Int × String)) : Store :=
  ⟨[typedPosts types, keyedAttributes attributes,
    ⟨"term_taxonomy", [.free "term_taxonomy_id" .integer, .free "taxonomy" .text], .integer, []⟩,
    ⟨"term_relationships", [.free "object_id" .integer, .free "term_taxonomy_id" .integer], .none,
      []⟩]⟩

theorem table?_keyedPosts (types : List String) (attributes : List (Int × String)) :
    (keyedPosts types attributes).table? (Schema.table ⟨""⟩ "posts") = some (typedPosts types) ∧
      (keyedPosts types attributes).table? (Schema.table ⟨""⟩ "postmeta") =
        some (keyedAttributes attributes) := by
  have names : Text.sameName "posts" "posts" = true ∧ Text.sameName "posts" "postmeta" = false ∧
      Text.sameName "postmeta" "postmeta" = true := by decide
  simp [Store.table?, keyedPosts, typedPosts, keyedAttributes, Schema.table, names]

def smallSite : Store := keyedPosts ["post", "page"] [(1, "color")]

/-- One more page, and an attribute row of the page that was there. -/
def grownSite : Store := keyedPosts ["post", "page", "page"] [(1, "color"), (2, "size")]

theorem grows_smallSite : Schema.Grows ⟨""⟩ smallSite grownSite where
  attributes name rows h := by
    rcases Schema.entityType_cases ⟨""⟩ name with ⟨hkind, -⟩ | hpost
    · have hname : (Schema.entityType ⟨""⟩ name).attributeTable ∈
          ["usermeta", "commentmeta", "termmeta"] := by
        unfold Schema.entityType at hkind ⊢
        split
        · decide
        · split
          · decide
          · split
            · decide
            · simp_all
      have absent : ∀ table ∈ ["usermeta", "commentmeta", "termmeta"],
          smallSite.table? table = none := by decide
      rw [absent _ hname] at h
      exact absurd h (by simp)
    · rw [hpost] at h ⊢
      obtain rfl := Option.some.inj ((table?_keyedPosts _ _).2.symm.trans h)
      refine ⟨_, (table?_keyedPosts _ _).2, [⟨2, [.integer 2, .integer 2, .text "size"]⟩], rfl, ?_⟩
      let cell := (keyedAttributes [(1, "color")]).cell
      have hnew : (cell ⟨2, [.integer 2, .integer 2, .text "size"]⟩ "meta_id").value =
          .integer 2 := by decide
      have hold : (cell ⟨1, [.integer 1, .integer 1, .text "color"]⟩ "meta_id").value =
          .integer 1 := by decide
      refine List.forall_mem_singleton.2 ⟨2, hnew, by decide, ?_⟩
      refine List.forall_mem_singleton.2 fun j hj => ?_
      obtain rfl := Value.integer.inj (hold.symm.trans hj)
      decide
  owned := by
    unfold Schema.Owned Schema.HasPost
    decide
  columns rows h := by
    obtain rfl := Option.some.inj ((table?_keyedPosts _ _).1.symm.trans h)
    exact ⟨_, (table?_keyedPosts _ _).1, rfl, rfl⟩
  posts := by
    refine Schema.posts_of_added [(grownSite.entries "posts").getLast (by decide)] rfl ?_ ?_
    · refine List.forall_mem_cons.2 ⟨⟨1, rfl⟩, List.forall_mem_cons.2 ⟨⟨2, rfl⟩, ?_⟩⟩
      exact List.forall_mem_singleton.2 ⟨3, rfl⟩
    · decide

theorem readable_grownSite : Catalog.Readable grownSite (Schema.entityType ⟨""⟩ "page") where
  columns := by
    unfold Store.offersAll
    decide
  texts := by
    have rows : ∀ m ∈ grownSite.attributeRowsOf (Schema.entityType ⟨""⟩ "page"),
        (m "meta_key").value = .text "size" := by decide
    exact fun m hm => .inr ⟨"size", rows m hm⟩
  numbered := by decide
  ids := by
    have rows : ∀ m ∈ grownSite.entries "postmeta",
        (m "meta_id").value = .integer 1 ∨ (m "meta_id").value = .integer 2 := by decide
    exact fun m hm => (rows m hm).elim (⟨1, ·⟩) (⟨2, ·⟩)

/-- The keys of pages are asked for before they have one, and again when the site has grown. -/
theorem remembered_keys_are_scanned_pages :
    let s := [.call "page", .call "post", .change grownSite].foldl visited
      (.ofStore ⟨""⟩ ⟨44, 34⟩ 1000 smallSite)
    (s.fieldCatalog "page").2 =
        ((ofStore ⟨""⟩ ⟨44, 34⟩ 1000 s.store).fieldCatalog "page").2 ∧
      ∃ keys, Catalog.AreKeys s.store (Schema.entityType ⟨""⟩ "page") keys ∧ keys = ["size"] ∧
        (s.fieldCatalog "page").2 =
          Catalog.withKeys s.store ⟨""⟩ (Schema.entityType ⟨""⟩ "page") keys := by
  have howned : Schema.Owned ⟨""⟩ smallSite := by
    unfold Schema.Owned Schema.HasPost
    decide
  have hp : Permits ⟨""⟩ smallSite [.call "page", .call "post", .change grownSite] :=
    ⟨grows_smallSite, trivial⟩
  obtain ⟨hfresh, hreads⟩ := remembered_keys_are_scanned howned hp "page"
  obtain ⟨keys, hkeys, hanswer⟩ := hreads readable_grownSite
  have hkeys : Catalog.AreKeys grownSite (Schema.entityType ⟨""⟩ "page") keys := hkeys
  have hmem (k : String) : k ∈ keys ↔ k = "size" := by
    have rows : (grownSite.attributeRowsOf (Schema.entityType ⟨""⟩ "page")).map
        (fun m => (m Catalog.keyColumn).value) = [.text "size"] := by decide
    rw [hkeys.2, ← List.mem_map, rows, List.mem_singleton, Value.text.injEq]
  have hnodup : keys.Nodup := hkeys.1.imp fun {a b} h (heq : a = b) =>
    List.lt_irrefl (bytesOf b) (heq ▸ h)
  refine ⟨hfresh, keys, hkeys, ?_, hanswer⟩
  exact List.perm_singleton.1 ((List.perm_ext_iff_of_nodup hnodup (by simp)).2 (by simp [hmem]))

end Service

end SheetExport
