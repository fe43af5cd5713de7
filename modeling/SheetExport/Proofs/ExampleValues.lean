import SheetExport.Proofs.ExportableKeys
import SheetExport.Proofs.SingleFilters
import SheetExport.Proofs.ValueTexts
import SheetExport.Proofs.Written

/-!
# Example values

The examples of a field are a few different texts that the store holds where the field is looked
up. A filter for one of them finds something exactly if an entity of the type has the text itself.
Columns are looked up in the entities of the type alone, but attribute rows and terms are not.
-/

namespace SheetExport

open Catalog (keyColumn)
open Sql (Statement)
open Store (Entry Occasion)

/-- The filter that an example of a field is for. -/
def Field.trying (f : Field) (v : String) : Filter :=
  ⟨f, if f.kind = .tag then .contains else .compare .eq, some v, none⟩

theorem Truth.isTrue_and (a b : Truth) : (a.and b).isTrue = (a.isTrue && b.isTrue) := by
  rcases a with - | - | - <;> rcases b with - | - | - <;> rfl

namespace Operand

/-- Neither nothing nor the empty text. -/
def Filled (o : Operand) : Prop := o.value ≠ .null ∧ o.value ≠ .text ""

theorem filled_of_ne {o : Operand} (h : (o.compares .ne (.literal (.text ""))).isTrue = true) :
    o.Filled := by
  constructor
  · intro hn
    rw [compares, order_of_null hn] at h
    exact absurd h (by decide)
  · intro ht
    have horder : o.order (.literal (.text "")) = some .eq := equals_iff.1 (is_of_text ht)
    rw [compares, horder] at h
    exact absurd h (by decide)

theorem filled_of_notEmpty (now : Int) {o : Operand} (h : o.meets now .notEmpty = true) :
    o.Filled := by
  have hboth :
      ((o.compares .ne (.literal (.text ""))).and (some !o.value.isNull)).isTrue = true := h
  rw [Truth.isTrue_and, Bool.and_eq_true] at hboth
  exact filled_of_ne hboth.1

/-- What a column of texts and integers holds: they are told by their texts. -/
def Legible (o : Operand) : Prop :=
  match o.value with
  | .null | .text _ => True
  | .integer i => Value.fitsInteger i = true ∧ ∃ a, o.affinity = some a ∧ a ≠ .blob
  | .real _ | .blob _ => False

theorem Legible.is_text {o : Operand} (h : o.Legible) (hn : o.value ≠ .null) {v : String}
    (hv : o.value.text? = some v) : o.is v = true := by
  unfold Legible at h
  cases ho : o.value with
  | null => exact absurd ho hn
  | text w =>
    rw [ho] at hv
    obtain rfl : w = v := Option.some.inj hv
    exact is_of_text ho
  | integer i =>
    rw [ho] at h hv
    obtain ⟨hfits, a, ha, hb⟩ := h
    obtain rfl : toString i = v := Option.some.inj ((textOf?_bytesOf _).symm.trans hv)
    exact is_of_integer ho hfits ha hb
  | real x => rw [ho] at h; exact h.elim
  | blob bytes => rw [ho] at h; exact h.elim

/-- The only values with an empty text besides that text: no bytes, and an undefined number, which
no store keeps. -/
theorem Filled.of_empty {o : Operand} (h : o.Filled) (he : o.value.text? = some "") :
    o.value = .blob [] ∨ o.value = .real .undefined := by
  cases ho : o.value with
  | null => exact absurd ho h.1
  | text w =>
    rw [ho] at he
    obtain rfl : w = "" := Option.some.inj he
    exact absurd ho h.2
  | integer i =>
    rw [ho] at he
    exact absurd (Option.some.inj ((textOf?_bytesOf _).symm.trans he)) (Value.toString_ne_empty i)
  | real x =>
    by_cases hx : x = .undefined
    · rw [hx]
      exact .inr rfl
    · rw [ho] at he
      exact absurd (Option.some.inj ((textOf?_bytesOf _).symm.trans he))
        (Value.storedText_ne_empty hx)
  | blob bytes =>
    rw [ho] at he
    have hbytes : bytes = bytesOf "" := eq_bytesOf he
    have hnone : bytesOf "" = [] := by
      rw [bytesOf_eq]
      rfl
    rw [hbytes, hnone]
    exact .inl rfl

end Operand

namespace Store

variable {s : Store} {now : Int} {tags : TagTables} {t : EntityType} {f : Field} {v : String}

/-! ## Texts of entities -/

/-- Whether an entity has a text in a field. -/
def hasText (s : Store) (tags : TagTables) (t : EntityType) (f : Field) (v : String) (e : Entry) :
    Bool :=
  match f.kind with
  | .fixed => (e f.name).is v
  | .custom => (s.attributesOf t e f.name).any fun m => (m "meta_value").is v
  | .tag => (s.termsOf tags t e f.name).any fun x => (x "name").is v

theorem passes_trying (e : Entry) :
    s.passes now tags t e (f.trying v) = s.hasText tags t f v e := by
  unfold passes hasText Field.trying
  cases f.kind <;> rfl

theorem offers_of_ne_null {table column : String} {e : Entry} (he : e ∈ s.entries table)
    (h : (e column).value ≠ .null) : s.offers table column = true := by
  by_contra ho
  exact h (value_of_not_offered (Bool.not_eq_true _ ▸ ho) he)

theorem offersAll_of_hasText {e : Entry} (he : e ∈ s.entitiesOf t)
    (hid : (e t.entityId).value ≠ .null) (h : s.hasText tags t f v e = true) :
    s.offersAll (t.neededColumns tags [f.trying v]) := by
  obtain ⟨hmem, hsub⟩ := List.mem_filter.1 he
  have subtype : s.offersAll (t.subtype.map fun _ => (t.entityTable, subtypeColumn)).toList := by
    cases ht : t.subtype with
    | none => simp [offersAll]
    | some name =>
      rw [ht] at hsub
      have hcolumn := offers_of_ne_null hmem (Operand.ne_null_of_equals hsub).1
      simpa [offersAll] using hcolumn
  have field : s.offersAll (t.neededBy tags (f.trying v)) := by
    unfold hasText at h
    unfold EntityType.neededBy Field.trying
    cases hk : f.kind with
    | fixed =>
      simp only [hk] at h ⊢
      simpa [offersAll] using offers_of_ne_null hmem (Operand.ne_null_of_equals h).1
    | custom =>
      simp only [hk, List.any_eq_true] at h ⊢
      obtain ⟨m, hm, hv⟩ := h
      obtain ⟨hm, hboth⟩ := List.mem_filter.1 hm
      obtain ⟨howner, hkey⟩ := Bool.and_eq_true_iff.1 hboth
      have there {column : String} (hc : (m column).value ≠ .null) :
          s.offers t.attributeTable column = true := offers_of_ne_null hm hc
      simp [offersAll, there (Operand.ne_null_of_equals howner).1,
        there (Operand.ne_null_of_equals hkey).1, there (Operand.ne_null_of_equals hv).1]
    | tag =>
      simp only [hk, List.any_eq_true] at h ⊢
      obtain ⟨x, hx, hv⟩ := h
      obtain ⟨hx, w, hw, ⟨hxw, hwt⟩, r, hr, hwr, hre⟩ := mem_termsOf.1 hx
      have one := Operand.ne_null_of_equals hxw
      have two := Operand.ne_null_of_equals hwr
      simp [offersAll, offers_of_ne_null hr (Operand.ne_null_of_equals hre).1,
        offers_of_ne_null hr two.2, offers_of_ne_null hw two.1, offers_of_ne_null hw one.2,
        offers_of_ne_null hw (Operand.ne_null_of_equals hwt).1, offers_of_ne_null hx one.1,
        offers_of_ne_null hx (Operand.ne_null_of_equals hv).1]
  rw [EntityType.neededColumns, List.cons_append, offersAll_cons, offersAll_append]
  refine ⟨offers_of_ne_null hmem hid, subtype, ?_⟩
  simpa using field

/-! ## Exports -/

section

variable {schema : Schema} {typeName : String} {fields : List Field} {tables : JobTables}

/-- An export with the filter for a text runs if its columns are there and it can be written: it
asks for no absence, and for no pattern that is too long. -/
theorem leaves_trying (hfields : fields ≠ [])
    (hfresh : s.table? tables.scratch = some (idTable tables.scratch))
    (hid : s.IntegerIds (schema.entityType typeName)) (f : Field) (v : String) (o : Occasion) :
    ∃ statement sel, Selects schema typeName fields tables (f.trying v) statement ∧
      s.ArePassing o.now schema.tagTables (schema.entityType typeName) (f.trying v) sel ∧
      ∀ ids, s.Leaves o schema typeName fields tables (f.trying v) ids ↔
        (s.offersAll
            ((schema.entityType typeName).neededColumns schema.tagTables [f.trying v]) ∧
          isWritten statement = true) ∧
        ids = sel := by
  have supported : ¬ (f.trying v).Unsupported := by
    rintro ⟨hk, hr⟩
    have hk : f.kind = .tag := hk
    simp [Field.trying, hk, Rule.isOrdering] at hr
  have present : (f.trying v).AsksAbsence → s.TermsNamed schema.tagTables := by
    rintro ⟨hk, hr⟩
    have hk : f.kind = .tag := hk
    simp [Field.trying, hk] at hr
  obtain ⟨p, hp⟩ :=
    EntityType.fragment_supported (schema.entityType typeName) schema.tagTables 0 supported
  have short : meetsLongPattern o
      ((schema.entityType typeName).selection [((f.trying v).field.kind, p)]) = false := by
    by_cases hk : f.kind = .tag
    · have hk : (f.trying v).field.kind = .tag := hk
      rw [hk]
      exact meetsLongPattern_tag hk hp
    · exact meetsLongPattern_compare (c := .eq) (by simp [Field.trying, hk]) hp
  have h := leaves_of_fragment hfields hfresh present hid hp o
  simp only [short, and_true] at h
  exact h

theorem leaves_trying_some_iff (hfields : fields ≠ [])
    (hfresh : s.table? tables.scratch = some (idTable tables.scratch))
    (hid : s.IntegerIds (schema.entityType typeName)) (f : Field) (v : String) (o : Occasion) :
    ∃ statement, Selects schema typeName fields tables (f.trying v) statement ∧
      ((∃ ids, s.Leaves o schema typeName fields tables (f.trying v) ids ∧ ids ≠ []) ↔
        isWritten statement = true ∧ ∃ e ∈ s.entitiesOf (schema.entityType typeName),
          s.hasText schema.tagTables (schema.entityType typeName) f v e = true) := by
  obtain ⟨statement, sel, hsel, hpass, hleaves⟩ := leaves_trying hfields hfresh hid f v o
  have some_has := hpass.ne_nil_iff hid
  simp only [passes_trying] at some_has
  refine ⟨statement, hsel, ?_⟩
  simp only [hleaves, ← some_has]
  constructor
  · rintro ⟨ids, ⟨⟨-, hw⟩, rfl⟩, hne⟩
    exact ⟨hw, hne⟩
  · rintro ⟨hw, hne⟩
    obtain ⟨e, he, h⟩ := some_has.1 hne
    obtain ⟨i, hi⟩ := hid e he
    exact ⟨sel, ⟨⟨offersAll_of_hasText he (by simp [hi]) h, hw⟩, rfl⟩, hne⟩

theorem isWritten_trying {statement : Statement}
    (h : Selects schema typeName fields tables (f.trying v) statement)
    (hnames : (schema.entityType typeName).PlainNames schema.tagTables tables)
    (hsub : ∀ name ∈ (schema.entityType typeName).subtype, Plain name) (hf : Plain f.name)
    (hv : Plain v) : isWritten statement = true := by
  obtain ⟨plan, hc, hst⟩ := h
  obtain ⟨-, parts, hparts, rfl⟩ := Plan.compile_eq_ok.1 hc
  obtain ⟨p, rest, hp, hrest, rfl⟩ := EntityType.fragmentsFrom_cons.1 hparts
  rw [Plan.dataStatements_ofSelection] at hst
  obtain rfl := Option.some.inj hst
  obtain rfl : [] = rest := Except.ok.inj hrest
  refine isWritten_iff.2 (EntityType.plain_insertIds hnames hsub (List.forall_mem_singleton.2 ?_))
  unfold EntityType.fragment Field.trying at hp
  cases hk : f.kind with
  | fixed =>
    simp only [hk, Except.ok.injEq] at hp
    subst hp
    exact Sql.Test.plain_isText (Sql.Reference.plain_of.2 ⟨hnames.entity.1, hf⟩) hv
  | custom =>
    simp only [hk, Except.ok.injEq] at hp
    subst hp
    have column {name : String} (hc : Plain name) :
        Plain (Sql.Reference.of (numbered "m" 0) name).render :=
      EntityType.plain_numbered_of (by decide) 0 hc
    refine Sql.Join.plain
      (EntityType.plain_numbered_source hnames.attributes.1 (by decide) 0) ?_
    simp only [EntityType.attributeJoin, List.forall_mem_cons]
    refine ⟨?_, ?_, ?_, fun _ h => absurd h List.not_mem_nil⟩
    · exact Sql.Test.plain_equal (column hnames.attributes.2) (EntityType.plain_idColumn hnames)
    · exact Sql.Test.plain_isText (column (by decide)) hf
    · exact Sql.Test.plain_isText (column (by decide)) hv
  | tag =>
    simp only [hk, if_true, Except.ok.injEq] at hp
    subst hp
    exact EntityType.plain_tagJoin hnames 0 hf fun w hw => Option.mem_some_iff.1 hw ▸ hv

theorem leaves_trying_none (hfields : fields ≠ [])
    (hfresh : s.table? tables.scratch = some (idTable tables.scratch))
    (hid : s.IntegerIds (schema.entityType typeName))
    (hcolumns : s.offersAll
      ((schema.entityType typeName).neededColumns schema.tagTables [f.trying v]))
    (hnames : (schema.entityType typeName).PlainNames schema.tagTables tables)
    (hsub : ∀ name ∈ (schema.entityType typeName).subtype, Plain name) (hf : Plain f.name)
    (hv : Plain v) (hnone : ∀ e ∈ s.entitiesOf (schema.entityType typeName),
      s.hasText schema.tagTables (schema.entityType typeName) f v e = false) (o : Occasion)
    (ids : List Int) : s.Leaves o schema typeName fields tables (f.trying v) ids ↔ ids = [] := by
  obtain ⟨statement, sel, hsel, hpass, hleaves⟩ := leaves_trying hfields hfresh hid f v o
  obtain rfl : sel = [] := by
    by_contra hne
    obtain ⟨e, he, h⟩ := (hpass.ne_nil_iff hid).1 hne
    rw [passes_trying, hnone e he] at h
    exact absurd h Bool.false_ne_true
  rw [hleaves, and_iff_right ⟨hcolumns, isWritten_trying hsel hnames hsub hf hv⟩]

end

/-- Where an example of a field is found: in a column of an entity of the type, but in any attribute
row with the key, and in any term of the taxonomy. -/
def ShowsText (s : Store) (tags : TagTables) (t : EntityType) (f : Field) (v : String) : Prop :=
  match f.kind with
  | .fixed => ∃ e ∈ s.entitiesOf t, (e f.name).Filled ∧ (e f.name).value.text? = some v
  | .custom => ∃ m ∈ s.entries t.attributeTable,
      (m keyColumn).is f.name = true ∧ (m "meta_value").value = .text v
  | .tag => ∃ x ∈ s.entries tags.terms, (x "name").value = .text v ∧
      ∃ w ∈ s.entries tags.termTaxonomy,
        (w "term_id").equals (x "term_id") = true ∧ (w "taxonomy").is f.name = true

end Store

/-! ## Candidates -/

namespace Store

theorem distinct_pairwise (vs : List Value) :
    (distinct vs).Pairwise fun a b => a.same b = false := by
  have kept : ∀ (vs kept : List Value), kept.Pairwise (fun a b => a.same b = false) →
      (vs.foldl (fun kept v => if kept.any (·.same v) then kept else kept ++ [v]) kept).Pairwise
        fun a b => a.same b = false := by
    intro vs
    induction vs with
    | nil => exact fun _ h => h
    | cons v vs ih =>
      intro kept h
      rw [List.foldl_cons]
      refine ih _ ?_
      split
      · exact h
      · rename_i hv
        refine List.pairwise_append.2 ⟨h, List.pairwise_singleton _ _, fun a ha b hb => ?_⟩
        rw [List.mem_singleton.1 hb, ← Bool.not_eq_true]
        exact fun hs => hv (List.any_eq_true.2 ⟨a, ha, hs⟩)
  exact kept vs [] List.Pairwise.nil

end Store

namespace Catalog

open Store (operand Scope)

variable {s : Store} {schema : Schema} {t : EntityType} {f : Field} {vs : List Value} {v : Value}

theorem exists_scope_of_values? {sources : JoinedSources} {column : Sql.Reference}
    (h : values? s sources column = some vs) (hv : v ∈ vs) :
    ∃ scope ∈ scopes s sources, (operand scope column).value = v := by
  unfold values? at h
  split at h
  · exact absurd h (by simp)
  · split at h
    · rw [← Option.some.inj h] at hv
      exact List.mem_map.1 hv
    · exact absurd h (by simp)

theorem mem_scopes_single {source : Sql.Source} {tests : List Sql.Test} {scope : Scope}
    (h : scope ∈ scopes s [(source, tests)]) :
    ∃ b ∈ s.bindings source, Store.testsHold Catalog.anyTime [b] tests = true ∧ scope = [b] := by
  simp only [scopes, List.foldl_cons, List.foldl_nil, List.mem_filter] at h
  obtain ⟨h, ht⟩ := h
  rw [Store.joined_singleton] at h
  obtain ⟨b, hb, rfl⟩ := List.mem_map.1 h
  exact ⟨b, hb, ht, rfl⟩

theorem candidate_fixed (hk : f.kind = .fixed) (h : candidates s schema t f = some vs)
    (hv : v ∈ vs) :
    ∃ e ∈ s.entitiesOf t, (e f.name).Filled ∧ v = textOrNull (e f.name).value := by
  simp only [candidates, hk, Option.map_eq_some_iff] at h
  obtain ⟨found, hfound, rfl⟩ := h
  obtain ⟨w, hw, rfl⟩ := List.mem_map.1 (Store.mem_of_mem_distinct hv)
  obtain ⟨scope, hscope, rfl⟩ := exists_scope_of_values? hfound hw
  obtain ⟨b, hb, ht, rfl⟩ := mem_scopes_single hscope
  have lb := Store.label_of_mem_bindings hb
  have hshow : Store.Shows [b] t.entityTable b.entry := Store.shows_head lb (Store.free_nil _)
  rw [Store.testsHold, List.all_cons, Bool.and_eq_true, Store.holds_isTrue hshow] at ht
  obtain ⟨hfilled, hsub⟩ := ht
  refine ⟨b.entry, List.mem_filter.2 ⟨Store.entry_mem hb, ?_⟩,
    Operand.filled_of_notEmpty anyTime hfilled, by rw [hshow]⟩
  cases hs : t.subtype with
  | none => rfl
  | some name =>
    simpa [hs, Store.isText_isTrue hshow] using hsub

theorem candidate_custom (hk : f.kind = .custom) (h : candidates s schema t f = some vs)
    (hv : v ∈ vs) : ∃ o : Operand, o.Filled ∧ v = o.value ∧
      (s.offersAll [(t.attributeTable, keyColumn), (t.attributeTable, "meta_value")] →
        ∃ m ∈ s.entries t.attributeTable, (m keyColumn).is f.name = true ∧ m "meta_value" = o) := by
  simp only [candidates, hk, Option.map_eq_some_iff] at h
  obtain ⟨found, hfound, rfl⟩ := h
  obtain ⟨scope, hscope, rfl⟩ := exists_scope_of_values? hfound (Store.mem_of_mem_distinct hv)
  obtain ⟨b, hb, ht, rfl⟩ := mem_scopes_single hscope
  simp only [Store.testsHold, List.all_cons, List.all_nil, Bool.and_true, Bool.and_eq_true] at ht
  obtain ⟨hkey, hfilled⟩ := ht
  have hkey : (operand [b] (.bare keyColumn)).is f.name = true := hkey
  refine ⟨_, Operand.filled_of_notEmpty anyTime hfilled, rfl, fun hcolumns => ?_⟩
  obtain ⟨hkeyed, hvalued⟩ := Store.offersAll_cons.1 hcolumns
  have bare {column : String} (hc : s.offers t.attributeTable column = true) :
      operand [b] (.bare column) = b.entry column :=
    Store.operand_bare (Store.place_bare_of_offers hb hc)
  rw [bare hkeyed] at hkey
  exact ⟨b.entry, Store.entry_mem hb, hkey, (bare (Store.offersAll_cons.1 hvalued).1).symm⟩

theorem candidate_tag (hk : f.kind = .tag) (h : candidates s schema t f = some vs)
    (hv : v ∈ vs) : ∃ x ∈ s.entries schema.tagTables.terms, (x "name").Filled ∧
      v = (x "name").value ∧ ∃ w ∈ s.entries schema.tagTables.termTaxonomy,
        (w "term_id").equals (x "term_id") = true ∧ (w "taxonomy").is f.name = true := by
  simp only [candidates, hk, Option.map_eq_some_iff] at h
  obtain ⟨found, hfound, rfl⟩ := h
  obtain ⟨scope, hscope, rfl⟩ := exists_scope_of_values? hfound (Store.mem_of_mem_distinct hv)
  simp only [scopes, List.foldl_cons, List.foldl_nil, List.mem_filter, Store.mem_joined,
    List.mem_singleton] at hscope
  obtain ⟨⟨_, ⟨⟨_, rfl, x, hx, rfl⟩, hname⟩, w, hw, rfl⟩, htests⟩ := hscope
  have lx : x.header.label = "t" := Store.label_of_mem_bindings hx
  have lw : w.header.label = "tt" := Store.label_of_mem_bindings hw
  have shown : Store.Shows [x] "t" x.entry := Store.shows_head lx (Store.free_nil _)
  have sx : Store.Shows [w, x] "t" x.entry := shown.cons (by rw [lw]; decide)
  have sw : Store.Shows [w, x] "tt" w.entry :=
    Store.shows_head lw (Store.free_cons.2 ⟨by rw [lx]; decide, Store.free_nil _⟩)
  simp only [Store.testsHold, List.all_cons, List.all_nil, Bool.and_true, Bool.and_eq_true,
    Store.equal_isTrue sw sx, Store.isText_isTrue sw, Store.holds_isTrue shown] at hname htests
  exact ⟨x.entry, Store.entry_mem hx, Operand.filled_of_ne hname, by rw [sx], w.entry,
    Store.entry_mem hw, htests⟩

/-! ## Examples -/

/-- What a call may give: any of the candidates, as many as are shown, in any order. -/
def MayShow (s : Store) (schema : Schema) (typeName rawField : String) (shown : List String) :
    Prop :=
  ∃ (f : Field) (vs order : List Value), Field.parse rawField "" = .ok f ∧
    candidates s schema (schema.entityType typeName) f = some vs ∧ order.Perm vs ∧
      (order.take exampleLimit).mapM textValue = .ok shown

theorem mayShow_examples {typeName rawField : String} {shown : List String}
    (h : examples s schema typeName rawField = .ok shown) :
    MayShow s schema typeName rawField shown := by
  unfold examples at h
  cases hf : Field.parse rawField "" with
  | error fault => simp [hf, Except.mapError, bind, Except.bind] at h
  | ok f =>
    cases hvs : candidates s schema (schema.entityType typeName) f with
    | none =>
      simp [hf, hvs, Except.mapError, bind, Except.bind, Registry.orRejected] at h
    | some vs =>
      simp only [hf, hvs, Except.mapError, bind, Except.bind, Registry.orRejected] at h
      exact ⟨f, vs, vs, hf, hvs, List.Perm.refl vs, h⟩

theorem candidates_pairwise (h : candidates s schema t f = some vs) :
    vs.Pairwise fun a b => a.same b = false := by
  unfold candidates at h
  cases hk : f.kind with
  | _ =>
    simp only [hk, Option.map_eq_some_iff] at h
    obtain ⟨found, -, rfl⟩ := h
    exact Store.distinct_pairwise _

theorem textOrNull_ne_null {w : Value} (hw : w ≠ .null) : textOrNull w ≠ .null := by
  have hnull : w.isNull = false := by simp [Value.isNull, hw]
  rw [textOrNull, hnull, if_neg Bool.false_ne_true]
  cases w.text? with
  | some text => simp
  | none => exact hw

theorem text?_of_textOrNull {w : Value} (hw : w ≠ .null) {text : String}
    (h : textOrNull w = .text text) : w.text? = some text := by
  have hnull : w.isNull = false := by simp [Value.isNull, hw]
  rw [textOrNull, hnull, if_neg Bool.false_ne_true] at h
  cases ht : w.text? with
  | some other =>
    rw [ht] at h
    rw [Value.text.inj h]
  | none =>
    rw [ht] at h
    rw [show w = .text text from h] at ht
    exact absurd ht (by simp [Value.text?])

theorem candidate_ne_null (h : candidates s schema t f = some vs) (hv : v ∈ vs) : v ≠ .null := by
  cases hk : f.kind with
  | fixed =>
    obtain ⟨e, -, hfilled, rfl⟩ := candidate_fixed hk h hv
    exact textOrNull_ne_null hfilled.1
  | custom =>
    obtain ⟨o, hfilled, rfl, -⟩ := candidate_custom hk h hv
    exact hfilled.1
  | tag =>
    obtain ⟨x, -, hfilled, rfl, -⟩ := candidate_tag hk h hv
    exact hfilled.1

theorem candidate_shows {text : String} (h : candidates s schema t f = some vs)
    (hv : .text text ∈ vs) (hcolumns : f.kind = .custom →
      s.offersAll [(t.attributeTable, keyColumn), (t.attributeTable, "meta_value")]) :
    s.ShowsText schema.tagTables t f text := by
  unfold Store.ShowsText
  cases hk : f.kind with
  | fixed =>
    obtain ⟨e, he, hfilled, htext⟩ := candidate_fixed hk h hv
    exact ⟨e, he, hfilled, text?_of_textOrNull hfilled.1 htext.symm⟩
  | custom =>
    obtain ⟨o, -, htext, hrow⟩ := candidate_custom hk h hv
    obtain ⟨m, hm, hkey, rfl⟩ := hrow (hcolumns hk)
    exact ⟨m, hm, hkey, htext.symm⟩
  | tag =>
    obtain ⟨x, hx, -, htext, w, hw, hlink⟩ := candidate_tag hk h hv
    exact ⟨x, hx, htext.symm, w, hw, hlink⟩

/-- An empty text comes from a column alone, and there from no text. -/
theorem candidate_empty (h : candidates s schema t f = some vs) (hv : .text "" ∈ vs) :
    f.kind = .fixed ∧ ∃ e ∈ s.entitiesOf t,
      (e f.name).value = .blob [] ∨ (e f.name).value = .real .undefined := by
  cases hk : f.kind with
  | fixed =>
    obtain ⟨e, he, hfilled, htext⟩ := candidate_fixed hk h hv
    exact ⟨rfl, e, he, hfilled.of_empty (text?_of_textOrNull hfilled.1 htext.symm)⟩
  | custom =>
    obtain ⟨o, hfilled, htext, -⟩ := candidate_custom hk h hv
    exact absurd htext.symm hfilled.2
  | tag =>
    obtain ⟨x, -, hfilled, htext, -⟩ := candidate_tag hk h hv
    exact absurd htext.symm hfilled.2

theorem MayShow.texts {typeName rawField : String} {shown : List String}
    (h : MayShow s schema typeName rawField shown) : shown.length ≤ exampleLimit ∧ shown.Nodup ∧
      ∃ f vs, Field.parse rawField "" = .ok f ∧
        candidates s schema (schema.entityType typeName) f = some vs ∧
        ∀ text ∈ shown, .text text ∈ vs := by
  obtain ⟨f, vs, order, hf, hvs, hperm, hread⟩ := h
  have hmem : ∀ w ∈ order.take exampleLimit, w ∈ vs :=
    fun w hw => hperm.mem_iff.1 (List.mem_of_mem_take hw)
  obtain ⟨texts, htexts⟩ := Store.exists_map_of_forall fun w hw =>
    isText_of_mapM_textValue hread w hw
      (by simpa [Value.isNull] using candidate_ne_null hvs (hmem w hw))
  rw [htexts, mapM_textValue_texts] at hread
  obtain rfl := Except.ok.inj hread
  have hdiffer : (order.take exampleLimit).Pairwise fun a b => a.same b = false := by
    refine ((hperm.pairwise_iff fun {a b} hab => ?_).2 (candidates_pairwise hvs)).sublist
      (List.take_sublist _ _)
    rw [Value.same_comm]
    exact hab
  refine ⟨?_, ?_, f, vs, hf, hvs, fun text ht => hmem _ ?_⟩
  · have hlength := congrArg List.length htexts
    rw [List.length_map, List.length_take] at hlength
    omega
  · rw [htexts, List.pairwise_map] at hdiffer
    refine hdiffer.imp fun {a b} hab => ?_
    rw [Value.same_text, decide_eq_false_iff_not] at hab
    exact hab
  · rw [htexts]
    exact List.mem_map_of_mem ht

end Catalog

open Catalog (MayShow exampleLimit)

namespace Store

/-- At most four texts are shown, each once, and none is empty unless a column holds no text. A
filter for one of them finds something exactly if it can be written and an entity of the type has
the text itself. That is so of a column of texts and integers. -/
theorem examples_find_own_texts {s : Store} {schema : Schema} {typeName rawField : String}
    {shown : List String} (h : MayShow s schema typeName rawField shown)
    (hid : s.IntegerIds (schema.entityType typeName)) :
    shown.length ≤ exampleLimit ∧ shown.Nodup ∧ ∃ f, Field.parse rawField "" = .ok f ∧
      ∀ v ∈ shown,
        (v = "" → f.kind = .fixed ∧ ∃ e ∈ s.entitiesOf (schema.entityType typeName),
          (e f.name).value = .blob [] ∨ (e f.name).value = .real .undefined) ∧
        ((f.kind = .custom → s.offersAll
            [((schema.entityType typeName).attributeTable, keyColumn),
              ((schema.entityType typeName).attributeTable, "meta_value")]) →
          s.ShowsText schema.tagTables (schema.entityType typeName) f v) ∧
        (f.kind = .fixed →
          (∀ e ∈ s.entitiesOf (schema.entityType typeName), (e f.name).Legible) →
          ∃ e ∈ s.entitiesOf (schema.entityType typeName),
            s.hasText schema.tagTables (schema.entityType typeName) f v e = true) ∧
        ∀ fields tables o, fields ≠ [] →
          s.table? tables.scratch = some (idTable tables.scratch) →
          ∃ statement, Selects schema typeName fields tables (f.trying v) statement ∧
            ((∃ ids, s.Leaves o schema typeName fields tables (f.trying v) ids ∧ ids ≠ []) ↔
              isWritten statement = true ∧
                ∃ e ∈ s.entitiesOf (schema.entityType typeName),
                  s.hasText schema.tagTables (schema.entityType typeName) f v e = true) := by
  obtain ⟨hfew, honce, f, vs, hf, hvs, htexts⟩ := h.texts
  refine ⟨hfew, honce, f, hf, fun v hv => ⟨?_, ?_, ?_, ?_⟩⟩
  · rintro rfl
    exact Catalog.candidate_empty hvs (htexts _ hv)
  · exact Catalog.candidate_shows hvs (htexts v hv)
  · intro hk hlegible
    obtain ⟨e, he, hfilled, htext⟩ := Catalog.candidate_fixed hk hvs (htexts v hv)
    refine ⟨e, he, ?_⟩
    rw [hasText, hk]
    exact (hlegible e he).is_text hfilled.1 (Catalog.text?_of_textOrNull hfilled.1 htext.symm)
  · exact fun fields tables o hfields hfresh => leaves_trying_some_iff hfields hfresh hid f v o

/-! ## A page and two posts -/

/-- The page has an attribute, and the posts have bytes for their content. -/
def pageAndPosts : Store :=
  ⟨[⟨"posts", [.free "ID" .integer, .free "post_content" .text, .free "post_type" .text], .integer,
      Row.numbered [[.integer 1, .null, .text "page"], [.integer 2, .blob [], .text "post"],
        [.integer 3, .blob [97], .text "post"]]⟩,
    ⟨"postmeta", [.free "meta_id" .integer, .free "post_id" .integer, .free "meta_key" .text,
      .free "meta_value" .text], .integer,
      Row.numbered [[.integer 1, .integer 1, .text "k", .text "v"]]⟩,
    idTable "s"]⟩

def keyField : Field := ⟨.custom, "k", ""⟩

def contentField : Field := ⟨.fixed, "post_content", ""⟩

def idField : List Field := [⟨.fixed, "ID", ""⟩]

theorem idField_ne_nil : idField ≠ [] := List.cons_ne_nil _ _

theorem scratch_pageAndPosts :
    pageAndPosts.table? (JobTables.mk "s" "r").scratch =
      some (idTable (JobTables.mk "s" "r").scratch) := by
  decide

theorem examples_page :
    Catalog.examples pageAndPosts ⟨""⟩ "page" "custom.k" = .ok ["v"] := by
  decide +kernel

theorem integerIds_pageAndPosts {t : EntityType} (ht : t.entityTable = "posts")
    (hid : t.entityId = "ID") : pageAndPosts.IntegerIds t := by
  have h : ∀ e ∈ pageAndPosts.entries "posts", ∃ i ∈ [1, 2, 3], (e "ID").value = .integer i := by
    decide
  intro e he
  have hmem := (List.mem_filter.1 he).1
  rw [ht] at hmem
  rw [hid]
  obtain ⟨i, -, hi⟩ := h e hmem
  exact ⟨i, hi⟩

theorem plainNames_pageAndPosts {typeName : String} (h : typeName = "page" ∨ typeName = "post") :
    (Schema.entityType ⟨""⟩ typeName).PlainNames (Schema.tagTables ⟨""⟩) ⟨"s", "r"⟩ ∧
      ∀ name ∈ (Schema.entityType ⟨""⟩ typeName).subtype, Plain name := by
  rcases h with rfl | rfl <;> exact ⟨⟨by decide, by decide, by decide, by decide⟩, by decide⟩

theorem examples_find_own_texts_page :
    Catalog.examples pageAndPosts ⟨""⟩ "page" "custom.k" = .ok ["v"] ∧
      ∀ o, ∃ ids, pageAndPosts.Leaves o ⟨""⟩ "page" idField ⟨"s", "r"⟩ (keyField.trying "v") ids ∧
        ids ≠ [] := by
  refine ⟨examples_page, fun o => ?_⟩
  obtain ⟨-, -, f, hf, hshown⟩ := examples_find_own_texts
    (Catalog.mayShow_examples examples_page) (integerIds_pageAndPosts rfl rfl)
  have parse_key : Field.parse "custom.k" "" = .ok keyField := by decide
  obtain rfl : keyField = f := Except.ok.inj (parse_key.symm.trans hf)
  obtain ⟨-, -, -, hfinds⟩ := hshown "v" List.mem_cons_self
  obtain ⟨statement, hsel, hiff⟩ := hfinds idField _ o idField_ne_nil scratch_pageAndPosts
  obtain ⟨hnames, hsub⟩ := plainNames_pageAndPosts (.inl rfl)
  exact hiff.2 ⟨isWritten_trying hsel hnames hsub (by decide) (by decide), by decide⟩

theorem leaves_none_posts {f : Field} {v : String} (hcolumns : pageAndPosts.offersAll
      ((Schema.entityType ⟨""⟩ "post").neededColumns (Schema.tagTables ⟨""⟩) [f.trying v]))
    (hf : Plain f.name) (hv : Plain v)
    (hnone : ∀ e ∈ pageAndPosts.entitiesOf (Schema.entityType ⟨""⟩ "post"),
      pageAndPosts.hasText (Schema.tagTables ⟨""⟩) (Schema.entityType ⟨""⟩ "post") f v e = false)
    (o : Occasion) (ids : List Int) :
    pageAndPosts.Leaves o ⟨""⟩ "post" idField ⟨"s", "r"⟩ (f.trying v) ids ↔ ids = [] := by
  obtain ⟨hnames, hsub⟩ := plainNames_pageAndPosts (.inr rfl)
  exact leaves_trying_none idField_ne_nil scratch_pageAndPosts (integerIds_pageAndPosts rfl rfl)
    hcolumns hnames hsub hf hv hnone o ids

def wordField : Field := ⟨.fixed, "ID", ""⟩

theorem selected_wordUser (now : Int) :
    wordUser.selected now ((Schema.entityType ⟨""⟩ "user").selection
      [((wordField.trying "abc").field.kind,
        .clause ((Schema.entityType ⟨""⟩ "user").columnClause (wordField.trying "abc")))]) =
      [.text "abc"] := rfl

theorem leaves_none_wordUser :
    Catalog.examples wordUser ⟨""⟩ "user" "default.ID" = .ok ["abc"] ∧
      ∀ o ids, ¬ wordUser.Leaves o ⟨""⟩ "user" idField ⟨"s", "r"⟩
        (wordField.trying "abc") ids := by
  refine ⟨by decide +kernel, ?_⟩
  rintro o ids ⟨statement, s', ⟨plan, hc, hst⟩, hrun, -⟩
  cases hc
  cases hst
  rw [run?_insertIds, selected_wordUser] at hrun
  split at hrun
  · exact absurd (Option.isSome_of_mem hrun) (by decide)
  · exact absurd hrun (by simp)

/-- The example of the page is shown for posts as well, and no bytes are shown as the empty text.
The exports of posts with a filter for an example run, and leave none of the posts there are. That
of the user with a word for an id does not run. -/
theorem examples_find_none :
    (pageAndPosts.entitiesOf (Schema.entityType ⟨""⟩ "post") ≠ [] ∧
      Catalog.examples pageAndPosts ⟨""⟩ "post" "custom.k" = .ok ["v"] ∧
      (∀ o ids, pageAndPosts.Leaves o ⟨""⟩ "post" idField ⟨"s", "r"⟩ (keyField.trying "v") ids ↔
        ids = []) ∧
      Catalog.examples pageAndPosts ⟨""⟩ "post" "default.post_content" = .ok ["", "a"] ∧
      ∀ o ids, pageAndPosts.Leaves o ⟨""⟩ "post" idField ⟨"s", "r"⟩ (contentField.trying "a") ids ↔
        ids = []) ∧
    Catalog.examples wordUser ⟨""⟩ "user" "default.ID" = .ok ["abc"] ∧
      ∀ o ids, ¬ wordUser.Leaves o ⟨""⟩ "user" idField ⟨"s", "r"⟩
        (wordField.trying "abc") ids := by
  refine ⟨⟨by decide, by decide +kernel, leaves_none_posts ?_ (by decide) (by decide) (by decide),
    by decide +kernel, leaves_none_posts ?_ (by decide) (by decide) (by decide)⟩,
    leaves_none_wordUser⟩
  · unfold offersAll
    decide
  · unfold offersAll
    decide

end Store

end SheetExport
