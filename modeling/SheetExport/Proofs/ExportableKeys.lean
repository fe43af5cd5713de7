import SheetExport.Proofs.BackingTables
import SheetExport.Proofs.Comparisons
import SheetExport.Proofs.RememberedKeys
import SheetExport.Proofs.SelectedIds
import SheetExport.Proofs.StatementTables

/-!
# Keys that exports filter by

An export that filters by an attribute selects an entity only if the entity has a row with the key.
So the catalog has to offer the keys of all rows of the type. Remembered keys are enough as long as
rows only come in under larger ids and no row that was there comes to be one of the type.
-/

namespace SheetExport

open Catalog (keyColumn)
open Store (Shows Outer)

/-! ## Keys as texts -/

namespace Value

theorem rank_numberOf? {k : String} {v : Value} (h : numberOf? k = some v) : v.rank = 1 := by
  obtain ⟨x, -, rfl⟩ := Option.map_eq_some_iff.1 h
  rw [apply_ite rank]
  exact ite_self 1

theorem toNumeric_eq_of_numberOf? {k : String} {v : Value} (h : numberOf? k = some v) :
    (text k).toNumeric = v := by
  rw [toNumeric, h, Option.getD_some]

theorem rank_toWhole (v : Value) : v.toWhole.rank = v.rank := by
  cases v with
  | real x =>
    simp only [toWhole]
    cases x.toInt? with
    | none => rfl
    | some i =>
      rw [apply_ite rank]
      exact ite_self 1
  | _ => rfl

theorem rank_toReal (v : Value) : v.toReal.rank = v.rank := by cases v <;> rfl

theorem numberOf?_eq_none {a : Affinity} (ha : a.isNumeric = true) {k : String}
    (h : (text k).stored a = text k) : numberOf? k = none := by
  cases hk : numberOf? k with
  | none => rfl
  | some v =>
    have hrank : ((text k).stored a).rank = 1 := by
      cases a with
      | integer => rw [stored, toNumeric_eq_of_numberOf? hk, rank_toWhole, rank_numberOf? hk]
      | real => rw [stored, toNumeric_eq_of_numberOf? hk, rank_toReal, rank_numberOf? hk]
      | text => exact absurd ha Bool.false_ne_true
      | blob => exact absurd ha Bool.false_ne_true
    rw [h] at hrank
    exact absurd hrank (by simp [rank])

theorem order_text_number (k : String) {v : Value} (h : v.rank = 1) :
    (text k).order v = some .gt := by
  cases v with
  | integer i => rfl
  | real x => rfl
  | _ => exact absurd h (by simp [rank])

theorem order_texts {j k : String} : (text j).order (text k) = some .eq ↔ j = k := by
  rw [order, Option.some.injEq]
  exact compareOfLessAndEq_eq_eq String.le_refl String.not_le

/-- As numbers, a text that a column of numbers keeps and another text are equal only if they are
the same. -/
theorem eq_of_order_toNumeric {a : Affinity} (ha : a.isNumeric = true) {j k : String}
    (h : (text j).stored a = text j)
    (horder : (text j).toNumeric.order (text k).toNumeric = some .eq) : j = k := by
  rw [toNumeric_text_eq (numberOf?_eq_none ha h)] at horder
  cases hk : numberOf? k with
  | none =>
    rw [toNumeric_text_eq hk] at horder
    exact order_texts.1 horder
  | some v =>
    rw [toNumeric_eq_of_numberOf? hk, order_text_number j (rank_numberOf? hk)] at horder
    exact absurd horder (by decide)

end Value

namespace Operand

/-- The value has the form in which its column keeps it. -/
def Kept (o : Operand) : Prop := ∀ a, o.affinity = some a → o.value.stored a = o.value

theorem Kept.eq_of_is {o : Operand} (h : o.Kept) {j k : String} (hj : o.value = .text j)
    (hk : o.is k = true) : j = k := by
  have horder : o.order (.literal (.text k)) = some .eq := equals_iff.1 hk
  rw [order, hj] at horder
  cases ha : o.affinity with
  | none =>
    rw [ha] at horder
    exact Value.order_texts.1 horder
  | some a =>
    have hkept : (Value.text j).stored a = .text j := hj ▸ h a ha
    rw [ha] at horder
    change (meet a (.text j) (.text k)).1.order (meet a (.text j) (.text k)).2 = some .eq at horder
    cases a with
    | integer => exact Value.eq_of_order_toNumeric rfl hkept horder
    | real => exact Value.eq_of_order_toNumeric rfl hkept horder
    | text => exact Value.order_texts.1 horder
    | blob => exact Value.order_texts.1 horder

theorem ne_null_of_is {o : Operand} {k : String} (h : o.is k = true) : o.value ≠ .null := by
  intro hn
  have horder := equals_iff.1 h
  rw [order_of_null hn] at horder
  exact absurd horder (by simp)

end Operand

/-! ## Exports by an attribute -/

namespace Store

variable {s : Store} {now : Int} {t : EntityType} {key : String}

theorem mem_attributeRowsOf {e m : Entry} (he : e ∈ s.entitiesOf t)
    (hm : m ∈ s.attributesOf t e key) : m ∈ s.attributeRowsOf t ∧ (m keyColumn).is key = true := by
  obtain ⟨hm, hboth⟩ := List.mem_filter.1 hm
  obtain ⟨hid, hkey⟩ := Bool.and_eq_true_iff.1 hboth
  refine ⟨List.mem_filter.2 ⟨hm, ?_⟩, hkey⟩
  rw [owns, List.any_eq_true.2 ⟨e, he, hid⟩, Bool.or_true]

/-- The entities that are selected by a filter on an attribute have a row that meets it. -/
theorem exists_attribute_of_selected {tags : TagTables} (hl : Unnumbered t.entityTable)
    {f : Filter} (hf : f.field.kind = .custom) {parts : List (FieldKind × Fragment)}
    (hp : t.fragmentsFrom tags 0 [f] = .ok parts) (hne : s.selected now (t.selection parts) ≠ []) :
    ∃ e ∈ s.entitiesOf t, ∃ m ∈ s.attributesOf t e f.field.name,
      (m "meta_value").meets now (Sql.Condition.ofFilter f) = true := by
  obtain rfl := parts_of_attribute hf hp
  obtain ⟨v, hv⟩ := List.exists_mem_of_ne_nil _ hne
  rw [selected_eq] at hv
  obtain ⟨e, he, hany, -⟩ := (mem_selectedScopes_attribute hl hf v).1 (mem_of_mem_distinct hv)
  obtain ⟨m, hm, hmeets⟩ := List.any_eq_true.1 hany
  exact ⟨e, he, m, hm, hmeets⟩

/-- An export that filters by the attribute alone would select something at some time. -/
def SelectsBy (s : Store) (schema : Schema) (typeName key : String) : Prop :=
  ∃ now fields f tables plan q, f.field.kind = .custom ∧ f.field.name = key ∧
    Plan.compile schema typeName fields [f] tables = .ok plan ∧
    Sql.Statement.insertIds tables.scratch q ∈ plan.dataStatements ∧ s.selected now q ≠ []

theorem SelectsBy.exists_row {schema : Schema} {typeName : String}
    (h : s.SelectsBy schema typeName key) :
    ∃ m ∈ s.attributeRowsOf (schema.entityType typeName), (m keyColumn).is key = true := by
  obtain ⟨now, fields, f, tables, plan, q, hkind, rfl, hc, hq, hne⟩ := h
  obtain ⟨-, parts, hp, rfl⟩ := Plan.compile_eq_ok.1 hc
  obtain rfl : q = (schema.entityType typeName).selection parts := by
    rw [Plan.dataStatements_ofSelection] at hq
    simpa using hq
  obtain ⟨e, he, m, hm, -⟩ :=
    exists_attribute_of_selected (unnumbered_entityTable schema typeName) hkind hp hne
  exact ⟨m, mem_attributeRowsOf he hm⟩

/-! ## Lists of keys -/

/-- Every row of the type has its key on the list, or none. -/
def KeyedBy (s : Store) (t : EntityType) (keys : List String) : Prop :=
  ∀ m ∈ s.attributeRowsOf t, (m keyColumn).value = .null ∨
    ∃ key ∈ keys, (m keyColumn).value = .text key

theorem KeyedBy.mem_keys {keys : List String} (h : s.KeyedBy t keys) {m : Entry}
    (hm : m ∈ s.attributeRowsOf t) (hkept : (m keyColumn).Kept)
    (hkey : (m keyColumn).is key = true) : key ∈ keys := by
  obtain ⟨k, hk, hvalue⟩ := (h m hm).resolve_left (Operand.ne_null_of_is hkey)
  rwa [hkept.eq_of_is hvalue hkey] at hk

theorem value_of_not_offered {table column : String} (h : s.offers table column = false)
    {m : Entry} (hm : m ∈ s.entries table) : (m column).value = .null := by
  unfold offers at h
  unfold entries at hm
  cases ht : s.table? table with
  | none => simp [ht] at hm
  | some rows =>
    rw [ht] at h hm
    obtain ⟨row, -, rfl⟩ := List.mem_map.1 hm
    have hplace : rows.place? column = none := by simpa using h
    rw [Table.cell, hplace]
    rfl

theorem keyedBy_of_scanKeys {keys : List String} (h : Catalog.scanKeys s t = .ok keys) :
    s.KeyedBy t keys := by
  obtain ⟨vs, hvs, htexts, -, hkeys⟩ := Catalog.scanKeys_eq_ok.1 h
  have found : ∀ m ∈ s.attributeRowsOf t,
      (m keyColumn).value ∈ vs ∨ (m keyColumn).value = .null := by
    intro m hm
    cases hsub : t.subtype with
    | some subtype =>
      exact .inl ((((Catalog.keyValues?_subtype hsub).1 vs hvs).2 _).2 ⟨m, hm, rfl⟩)
    | none =>
      have hm := (List.mem_filter.1 hm).1
      by_cases ho : s.offers t.attributeTable keyColumn = true
      · rw [Catalog.keyValues?, Catalog.attributeSources, hsub] at hvs
        obtain rfl := Option.some.inj ((Catalog.values?_offered ho).symm.trans hvs)
        exact .inl (List.mem_map_of_mem hm)
      · exact .inr (value_of_not_offered (Bool.not_eq_true _ ▸ ho) hm)
  intro m hm
  rcases found m hm with hv | hnull
  · obtain hnull | ⟨key, hkey⟩ := htexts _ hv
    · exact .inl hnull
    · exact .inr ⟨key, (hkeys key).2 (hkey ▸ hv), hkey⟩
  · exact .inl hnull

end Store

/-! ## What may change -/

/-- Attribute rows are only added, under larger ids, and none that was there without an entity of
the type comes to be of one. -/
structure EntityType.Appended (t : EntityType) (before after : Store) : Prop where
  rows : ∀ rows, before.table? t.attributeTable = some rows →
    ∃ rows', after.table? t.attributeTable = some rows' ∧ rows.Grows rows' t.attributeRowId
  /-- Only entities that share their table can take over rows. -/
  owners : t.subtype.isSome = true → ∀ m ∈ before.entries t.attributeTable,
    after.owns t (m t.attributeEntityId) = true → before.owns t (m t.attributeEntityId) = true

namespace EntityType.Appended

variable {t : EntityType} {before after : Store}

theorem mem_attributeRowsOf (h : t.Appended before after)
    (hsame : after.table? t.attributeTable = before.table? t.attributeTable) {m : Store.Entry}
    (hm : m ∈ after.attributeRowsOf t) : m ∈ before.attributeRowsOf t := by
  obtain ⟨hm, hof⟩ := List.mem_filter.1 hm
  have hentries : after.entries t.attributeTable = before.entries t.attributeTable := by
    unfold Store.entries
    rw [hsame]
  rw [hentries] at hm
  refine List.mem_filter.2 ⟨hm, ?_⟩
  cases hsub : t.subtype with
  | none => rfl
  | some subtype =>
    rw [hsub, Option.isNone_some, Bool.false_or] at hof
    rw [Option.isNone_some, Bool.false_or]
    exact h.owners (by rw [hsub]; rfl) m hm hof

theorem keyedBy (h : t.Appended before after)
    (hsame : after.table? t.attributeTable = before.table? t.attributeTable) {keys : List String}
    (hkeys : before.KeyedBy t keys) : after.KeyedBy t keys :=
  fun m hm => hkeys m (h.mem_attributeRowsOf hsame hm)

end EntityType.Appended

/-! ## What is remembered -/

/-- If no row came since the keys were remembered, they are those of all rows. -/
def KnownKeys.Covers (k : KnownKeys) (s : Store) (t : EntityType) : Prop :=
  ∃ n, Catalog.highWaterMark s t = .ok n ∧ k.highWaterMark ≤ n ∧
    (n = k.highWaterMark → s.KeyedBy t k.keys)

def KeyCache.Covers (c : KeyCache) (s : Store) (t : EntityType) : Prop :=
  ∀ k ∈ c, KeyCache.isFor t k = true → k.Covers s t

namespace KeyCache.Covers

variable {c : KeyCache} {s before after : Store} {t : EntityType}

/-- A change keeps it: either there is no new row or the largest id has grown. -/
theorem change (hc : c.Covers before t) (h : t.Appended before after) : c.Covers after t := by
  intro k hk hfor
  obtain ⟨n, hmark, hle, hkeys⟩ := hc k hk hfor
  obtain ⟨rows, hb⟩ := Catalog.exists_table_of_highWaterMark hmark
  obtain ⟨rows', ha, hgrows⟩ := h.rows rows hb
  rcases Catalog.highWaterMark_grows hb ha hgrows hmark with rfl | ⟨n', hmark', hlt⟩
  · have hsame := ha.trans hb.symm
    exact ⟨n, (Catalog.highWaterMark_congr hsame).trans hmark, hle,
      fun hn => h.keyedBy hsame (hkeys hn)⟩
  · exact ⟨n', hmark', by omega, fun hn => by omega⟩

theorem keyedBy (hc : c.Covers s t) {c' : KeyCache} {found : List String}
    (h : Catalog.keys s c t = .ok (c', found)) : s.KeyedBy t found := by
  obtain ⟨mark, hmark, ⟨hk, -⟩ | ⟨-, hscan, -⟩⟩ := Catalog.keys_eq_ok h
  · obtain ⟨k, hmem, hfor, hle, rfl⟩ := Catalog.keys?_eq_some hk
    obtain ⟨n, hmark', hle', hkeys⟩ := hc k hmem hfor
    obtain rfl : mark = n := Except.ok.inj (hmark.symm.trans hmark')
    exact hkeys (by omega)
  · exact Store.keyedBy_of_scanKeys hscan

theorem keys {schema : Schema} {name other : String}
    (hc : c.Covers s (schema.entityType name)) {c' : KeyCache} {found : List String}
    (h : Catalog.keys s c (schema.entityType other) = .ok (c', found)) :
    c'.Covers s (schema.entityType name) := by
  obtain ⟨mark, hmark, ⟨-, rfl⟩ | ⟨-, hscan, rfl⟩⟩ := Catalog.keys_eq_ok h
  · exact hc
  · intro k hk hfor
    rcases List.mem_cons.1 hk with rfl | hk
    · have hsame : schema.entityType other = schema.entityType name :=
        Schema.entityType_eq_of_isFor (by simp [KeyCache.isFor]) hfor
      rw [← hsame]
      exact ⟨mark, hmark, Int.le_refl mark, fun _ => Store.keyedBy_of_scanKeys hscan⟩
    · exact hc k (List.mem_filter.1 hk).1 hfor

end KeyCache.Covers

namespace Catalog

variable {s : Store} {schema : Schema} {name : String}

theorem keys_withKeys {t : EntityType} {keys : List String} {catalog : FieldCatalog}
    (h : withKeys s schema t keys = .ok catalog) : catalog.keys = keys := by
  unfold withKeys at h
  split at h
  · obtain ⟨tags, -, rfl⟩ := exists_of_map_eq_ok h
    rfl
  · rw [← Except.ok.inj h]

theorem exists_keys_of_fields {c : KeyCache} {catalog : FieldCatalog}
    (h : (fields s c schema name).2 = .ok catalog) :
    ∃ c', keys s c (schema.entityType name) = .ok (c', catalog.keys) := by
  rw [fields_eq] at h
  cases hk : keys s c (schema.entityType name) with
  | error fault => simp [hk, Except.map, Except.bind] at h
  | ok found =>
    obtain ⟨c', found⟩ := found
    rw [hk] at h
    exact ⟨c', by rw [keys_withKeys h]⟩

theorem Readable.exists_keys {t : EntityType} (h : Readable s t) (c : KeyCache) :
    ∃ c' found, keys s c t = .ok (c', found) := by
  obtain ⟨n, hmark⟩ := h.exists_mark
  obtain ⟨scanned, hscan, -⟩ := exists_scanKeys h.toKeysReadable
  unfold keys
  rw [hmark]
  simp only [bind, Except.bind]
  cases c.keys? t n with
  | some known => exact ⟨_, _, rfl⟩
  | none => exact ⟨_, _, by rw [hscan]; rfl⟩

end Catalog

/-! ## Runs -/

namespace Service

/-- Every change of a run leaves the attribute rows of the type as they are, or adds to them. -/
def Appends (t : EntityType) : Store → List Visit → Prop
  | _, [] => True
  | store, .call _ :: rest => Appends t store rest
  | store, .change store' :: rest => t.Appended store store' ∧ Appends t store' rest

variable {schema : Schema} {typeName : String}

theorem covers_call {s : Service} (h : s.cache.Covers s.store (s.schema.entityType typeName))
    (other : String) : (s.visited (.call other)).cache.Covers s.store
      (s.schema.entityType typeName) := by
  have hcache : (s.visited (.call other)).cache =
      (Catalog.fields s.store s.cache s.schema other).1 := rfl
  rw [hcache, Catalog.fields]
  cases hk : Catalog.keys s.store s.cache (s.schema.entityType other) with
  | error fault => exact h
  | ok found =>
    have hfound := h.keys hk
    dsimp only
    split <;> exact hfound

theorem covers_run {visits : List Visit} : ∀ {s : Service}, s.schema = schema →
    s.cache.Covers s.store (schema.entityType typeName) →
    Appends (schema.entityType typeName) s.store visits →
    (visits.foldl visited s).cache.Covers (visits.foldl visited s).store
      (schema.entityType typeName) := by
  induction visits with
  | nil => exact fun _ h _ => h
  | cons visit rest ih =>
    rintro s rfl h hp
    cases visit with
    | call other => exact ih rfl (covers_call h other) hp
    | change store => exact ih rfl (h.change hp.1) hp.2

/-- At any point of a run the catalog of a type offers every key by which an export of the type
would select something. -/
theorem exportable_keys_are_offered {format : Csv.Format} {batchSize : Nat} {store : Store}
    {visits : List Visit} (hp : Appends (schema.entityType typeName) store visits) :
    let s := visits.foldl visited (.ofStore schema format batchSize store)
    (∀ m ∈ s.store.entries (schema.entityType typeName).attributeTable, (m keyColumn).Kept) →
      (∀ catalog, (s.fieldCatalog typeName).2 = .ok catalog →
        ∀ key, s.store.SelectsBy schema typeName key → key ∈ catalog.keys) ∧
      (Catalog.Readable s.store (schema.entityType typeName) → ∃ keys,
        (s.fieldCatalog typeName).2 =
            Catalog.withKeys s.store schema (schema.entityType typeName) keys ∧
          ∀ key, s.store.SelectsBy schema typeName key → key ∈ keys) := by
  intro s hkept
  have hcovers : s.cache.Covers s.store (schema.entityType typeName) :=
    covers_run rfl (fun _ h => absurd h List.not_mem_nil) hp
  have hschema : s.schema = schema := schema_run visits _
  have offered {c' : KeyCache} {keys : List String}
      (hk : Catalog.keys s.store s.cache (schema.entityType typeName) = .ok (c', keys))
      {key : String} (hselects : s.store.SelectsBy schema typeName key) : key ∈ keys := by
    obtain ⟨m, hm, hkey⟩ := hselects.exists_row
    exact (hcovers.keyedBy hk).mem_keys hm (hkept m (List.mem_filter.1 hm).1) hkey
  have hfields : (s.fieldCatalog typeName).2 =
      (Catalog.fields s.store s.cache schema typeName).2 := by rw [← hschema]; rfl
  constructor
  · intro catalog hcatalog key hselects
    obtain ⟨c', hk⟩ := Catalog.exists_keys_of_fields (hfields.symm.trans hcatalog)
    exact offered hk hselects
  · intro hreadable
    obtain ⟨c', keys, hk⟩ := hreadable.exists_keys s.cache
    refine ⟨keys, ?_, fun key hselects => offered hk hselects⟩
    rw [hfields, Catalog.fields_eq, hk]
    rfl

/-! ## A post with an attribute -/

/-- Posts by their types. The first of them has one attribute. -/
def attributedPosts (types : List String) : Store :=
  ⟨[Registry.table, typedPosts types,
    ⟨"postmeta", [.free "meta_id" .integer, .free "post_id" .integer, .free "meta_key" .text,
      .free "meta_value" .text], .integer,
      Store.Row.numbered [[.integer 1, .integer 1, .text "k", .text "v"]]⟩,
    ⟨"term_taxonomy", [.free "term_taxonomy_id" .integer, .free "taxonomy" .text], .integer, []⟩,
    ⟨"term_relationships", [.free "object_id" .integer, .free "term_taxonomy_id" .integer], .none,
      []⟩]⟩

theorem appended_attributedPosts {before after : List String} {t : EntityType}
    (hname : (attributedPosts after).table? t.attributeTable =
      (attributedPosts before).table? t.attributeTable)
    (howns : ∀ m ∈ (attributedPosts before).entries t.attributeTable,
      (attributedPosts before).owns t (m t.attributeEntityId) = true) :
    t.Appended (attributedPosts before) (attributedPosts after) where
  rows rows h := ⟨rows, hname.trans h, [], by simp, fun _ hm => absurd hm List.not_mem_nil⟩
  owners _ m hm _ := howns m hm

def keyPresent : Filter := ⟨⟨.custom, "k", ""⟩, .notEmpty, none, none⟩

/-- A page becomes a post, and what is remembered for posts has the key of the post that was
there. -/
theorem exportable_keys_are_offered_posts :
    let s := [.call "post", .change (attributedPosts ["post", "post"])].foldl visited
      (.ofStore ⟨""⟩ .standard 1000 (attributedPosts ["post", "page"]))
    ∃ catalog, (s.fieldCatalog "post").2 = .ok catalog ∧
      s.store.SelectsBy ⟨""⟩ "post" "k" ∧ "k" ∈ catalog.keys := by
  have hp : Appends (Schema.entityType ⟨""⟩ "post") (attributedPosts ["post", "page"])
      [.call "post", .change (attributedPosts ["post", "post"])] :=
    ⟨appended_attributedPosts (by decide) (by decide), trivial⟩
  have hselects : (attributedPosts ["post", "post"]).SelectsBy ⟨""⟩ "post" "k" :=
    ⟨0, [⟨.fixed, "ID", ""⟩], keyPresent, ⟨"s", "r"⟩, _, _, rfl, rfl, rfl, List.mem_cons_of_mem _
      List.mem_cons_self, by decide +kernel⟩
  intro s
  have hkept : ∀ m ∈ s.store.entries "postmeta", (m keyColumn).Kept := by
    have rows : ∀ m ∈ s.store.entries "postmeta", m keyColumn = ⟨some .text, .text "k"⟩ := by
      decide +kernel
    intro m hm a ha
    rw [rows m hm] at ha ⊢
    rw [← Option.some.inj ha]
    rfl
  have hkeys : (s.fieldCatalog "post").2.map FieldCatalog.keys = .ok ["k"] := by decide +kernel
  obtain ⟨catalog, hcatalog, -⟩ := exists_of_map_eq_ok hkeys
  exact ⟨catalog, hcatalog, hselects,
    (exportable_keys_are_offered hp hkept).1 catalog hcatalog "k" hselects⟩

def keyedRequest : Request :=
  ⟨"post", [⟨"default.ID", "Post"⟩], [⟨"custom.k", "not_empty", none, none⟩]⟩

/-- A page with an attribute becomes a post after the keys of posts were remembered. It is exported
by a key that the catalog of posts does not offer. -/
theorem retyped_post_hides_key :
    let s := [.call "post", .change (attributedPosts ["post"])].foldl visited
      (.ofStore ⟨""⟩ .standard 1000 (attributedPosts ["page"]))
    (attributedPosts ["post"]).table? "postmeta" = (attributedPosts ["page"]).table? "postmeta" ∧
      (s.fieldCatalog "post").2.map FieldCatalog.keys = .ok [] ∧
      ((s.submit firstTicket keyedRequest 7).1.download firstTicket.id .unlimited).2.1.bytes =
        bytesOf "Post\n1\n" := by
  have hv : keyedRequest.validate =
      .ok ⟨"post", [⟨.fixed, "ID", "Post"⟩], [keyPresent]⟩ := by decide
  have hnames : (Schema.entityType ⟨""⟩ "post").PlainNames (Schema.tagTables ⟨""⟩)
      (.ofSuffix ⟨""⟩ "a1") := ⟨by decide, by decide, by decide, by decide⟩
  have hplain := Plan.plain_statements hnames (by decide) (by decide)
    (by decide : ∀ f ∈ [Field.mk .fixed "ID" "Post"], Plain f.name ∧ Plain f.label)
    (by decide +kernel :
      ∀ part ∈ [(FieldKind.custom, Fragment.join ((Schema.entityType ⟨""⟩ "post").attributeJoin 0
        keyPresent))], Plain part.2.render) firstTicket.id
  intro s
  rw [submit_of_plain (s := s) hv rfl hplain]
  exact ⟨rfl, by decide +kernel, by decide +kernel⟩

end Service

end SheetExport
