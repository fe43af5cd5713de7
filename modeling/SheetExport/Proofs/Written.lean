import SheetExport.Proofs.Names
import SheetExport.Store.Execution

/-!
# Statements that are written

A statement with a NUL in it is not run. The text of a projection has none if the names of its
tables and the names and labels of its fields have none, and the text of a selection has none if
its filters bring none in.
-/

namespace SheetExport

open Sql (Reference Clause Supplement Projection Statement)

/-- No NUL is in a text. -/
def Plain (s : String) : Prop := '\x00' ∉ s.toList

instance (s : String) : Decidable (Plain s) := inferInstanceAs (Decidable (_ ∉ _))

variable {a b s : String}

theorem plain_append : Plain (a ++ b) ↔ Plain a ∧ Plain b := by
  simp [Plain]

theorem plain_doubled {mark : Char} : Plain (Text.doubled mark s) ↔ Plain s := by
  unfold Plain Text.doubled
  rw [String.toList_ofList, List.mem_flatMap, not_congr]
  have hc (c : Char) : '\x00' ∈ (if c = mark then [c, c] else [c]) ↔ '\x00' = c := by
    split <;> simp
  simp only [hc, exists_eq_right']

theorem plain_numbered (stem : String) (i : Nat) : Plain (numbered stem i) ↔ Plain stem := by
  have h : Plain (toString i) := fun h => absurd (isDigit_of_mem_toString h) (by decide)
  rw [numbered, plain_append, and_iff_left h]

theorem plain_joined {separator : String} (h : Plain separator) {parts : List String}
    (hp : ∀ p ∈ parts, Plain p) : Plain (Text.joined separator parts) := by
  induction parts with
  | nil => exact List.not_mem_nil
  | cons p rest ih =>
    obtain ⟨hfirst, hrest⟩ := List.forall_mem_cons.1 hp
    cases rest with
    | nil => exact hfirst
    | cons q rest => exact plain_append.2 ⟨plain_append.2 ⟨hfirst, h⟩, ih hrest⟩

theorem plain_concat {parts : List String} (hp : ∀ p ∈ parts, Plain p) :
    Plain (String.join parts) := by
  induction parts with
  | nil => decide
  | cons p rest ih =>
    obtain ⟨hp, hrest⟩ := List.forall_mem_cons.1 hp
    rw [String.join_cons]
    exact plain_append.2 ⟨hp, ih hrest⟩

namespace Sql

theorem plain_name : Plain (name s) ↔ Plain s := by
  have h : Plain "\"" := by decide
  simp only [name, plain_append, plain_doubled, h, true_and, and_true]

theorem plain_text : Plain (text s) ↔ Plain s := by
  have h : Plain "'" := by decide
  simp only [text, plain_append, plain_doubled, h, true_and, and_true]

theorem plain_qualified : Plain (qualified a b) ↔ Plain a ∧ Plain b := by
  have h : Plain "." := by decide
  simp only [qualified, plain_append, plain_name, h, and_true]

theorem Reference.plain_of : Plain (of a b).render ↔ Plain a ∧ Plain b := plain_qualified

theorem Reference.plain_bare : Plain (bare a).render ↔ Plain a := plain_name

theorem Source.plain {source : Source} (ht : Plain source.table)
    (hs : ∀ a ∈ source.shortName, Plain a) : Plain source.render := by
  unfold Source.render
  split
  · exact plain_name.2 ht
  · rename_i a ha
    exact plain_append.2 ⟨plain_append.2 ⟨plain_name.2 ht, by decide⟩, plain_name.2 (hs a ha)⟩

theorem Test.plain_equal {x y : Reference} (hx : Plain x.render) (hy : Plain y.render) :
    Plain (equal x y).render :=
  plain_append.2 ⟨plain_append.2 ⟨hx, by decide⟩, hy⟩

theorem Test.plain_isText {x : Reference} (hx : Plain x.render) (hv : Plain s) :
    Plain (isText x s).render :=
  plain_append.2 ⟨plain_append.2 ⟨plain_append.2 ⟨plain_append.2 ⟨hx, by decide⟩, by decide⟩,
    by decide⟩, plain_text.2 hv⟩

theorem Link.plain {k : Link} (hs : Plain k.source.render) (ht : ∀ x ∈ k.tests, Plain x.render) :
    Plain k.render := by
  unfold Link.render
  refine plain_append.2 ⟨plain_append.2 ⟨plain_append.2 ⟨by decide, hs⟩, by decide⟩, ?_⟩
  split
  · rename_i x hx
    exact ht x (hx ▸ List.mem_singleton_self x)
  · have hj : Plain (Text.joined " AND " (k.tests.map Test.render)) :=
      plain_joined (by decide) (List.forall_mem_map.2 ht)
    exact plain_append.2 ⟨plain_append.2 ⟨by decide, hj⟩, by decide⟩

theorem Lookup.plain {l : Lookup} (hc : Plain l.column.render) (hs : Plain l.source.render)
    (hk : ∀ k ∈ l.links, Plain k.render) (ht : ∀ x ∈ l.tests, Plain x.render) :
    Plain l.render := by
  have hjoins : Plain (String.join (l.links.map fun k => " " ++ k.render)) :=
    plain_concat (List.forall_mem_map.2 fun k hm => plain_append.2 ⟨by decide, hk k hm⟩)
  have hwhere : Plain (if l.tests.isEmpty then ""
      else " WHERE " ++ Text.joined " AND " (l.tests.map Test.render)) := by
    split
    · decide
    · exact plain_append.2 ⟨by decide, plain_joined (by decide) (List.forall_mem_map.2 ht)⟩
  unfold Lookup.render
  simp only [plain_append, hc, hs, hjoins, hwhere, and_true]
  decide

theorem plain_whereLines {clauses : List Clause} (h : ∀ c ∈ clauses, Plain c.render) :
    Plain (whereLines clauses) := by
  unfold whereLines
  split
  · decide
  · exact plain_append.2 ⟨by decide, plain_joined (by decide) (List.forall_mem_map.2 h)⟩

theorem Join.plain {j : Join} (hs : Plain j.source.render) (hc : ∀ c ∈ j.clauses, Plain c.render) :
    Plain j.render := by
  have hon : Plain (Text.joined " AND\n    " (j.clauses.map Clause.render)) :=
    plain_joined (by decide) (List.forall_mem_map.2 hc)
  unfold Join.render
  simp only [plain_append, hs, hon, and_true]
  decide

theorem Selection.plain {q : Selection} (hcolumn : Plain q.column.render)
    (hs : Plain q.source.render) (hj : ∀ j ∈ q.joins, Plain j.render)
    (hc : ∀ c ∈ q.clauses, Plain c.render) : Plain q.render := by
  have hjoins : Plain (String.join (q.joins.map fun j => "\n" ++ j.render)) :=
    plain_concat (List.forall_mem_map.2 fun j hm => plain_append.2 ⟨by decide, hj j hm⟩)
  unfold Selection.render
  simp only [plain_append, hcolumn, hs, hjoins, plain_whereLines hc, and_true]
  decide

theorem Gathering.plain {g : Gathering} (hkey : Plain g.key.render)
    (hlabel : ∀ l ∈ g.keyLabel, Plain l) (hgathered : Plain g.gathered.render)
    (hseparator : Plain g.separator) (hname : Plain g.gatheredLabel)
    (hsource : Plain g.source.render) (hlinks : ∀ k ∈ g.links, Plain k.render)
    (hclauses : ∀ c ∈ g.clauses, Plain c.render) : Plain g.render := by
  have hjoins : Plain (String.join (g.links.map fun k => "\n    " ++ k.render)) :=
    plain_concat (List.forall_mem_map.2 fun k hk => plain_append.2 ⟨by decide, hlinks k hk⟩)
  have hwhere : Plain (Text.joined " AND " (g.clauses.map Clause.render)) :=
    plain_joined (by decide) (List.forall_mem_map.2 hclauses)
  unfold Gathering.render
  simp only [plain_append, plain_name, plain_text, hgathered, hseparator, hname, hsource, hjoins,
    hwhere, hkey, and_true]
  refine ⟨⟨⟨⟨⟨⟨⟨⟨by decide, ?_⟩, ?_⟩, ?_⟩, ?_⟩, ?_⟩, ?_⟩, ?_⟩, ?_⟩
  · split
    · exact hkey
    · rename_i l hl
      exact plain_append.2 ⟨plain_append.2 ⟨hkey, by decide⟩, plain_name.2 (hlabel l hl)⟩
  all_goals decide

theorem Supplement.plain {k : Supplement} (hg : Plain k.gathering.render) (hl : Plain k.label)
    (ht : Plain k.test.render) : Plain k.render := by
  unfold Supplement.render
  simp only [plain_append, plain_name, hg, hl, ht, and_true]
  decide

theorem Projection.plain {p : Projection}
    (ho : ∀ o ∈ p.outputs, Plain o.column.render ∧ Plain o.label) (hs : Plain p.source.render)
    (hk : ∀ k ∈ p.supplements, Plain k.render) (hc : ∀ c ∈ p.clauses, Plain c.render) :
    Plain p.render := by
  have houtputs : Plain (Text.joined ", " (p.outputs.map Output.render)) :=
    plain_joined (by decide) (List.forall_mem_map.2 fun o hm =>
      plain_append.2 ⟨plain_append.2 ⟨(ho o hm).1, by decide⟩, plain_name.2 (ho o hm).2⟩)
  have hjoins : Plain (String.join (p.supplements.map fun k => "\n" ++ k.render)) :=
    plain_concat (List.forall_mem_map.2 fun k hm => plain_append.2 ⟨by decide, hk k hm⟩)
  unfold Projection.render
  simp only [plain_append, houtputs, hs, hjoins, plain_whereLines hc, and_true]
  decide

end Sql

/-! ## The projection of a plan -/

namespace EntityType

/-- The names that the projection of a plan takes from the site and the job. -/
structure PlainNames (t : EntityType) (tags : TagTables) (tables : JobTables) : Prop where
  entity : Plain t.entityTable ∧ Plain t.entityId
  attributes : Plain t.attributeTable ∧ Plain t.attributeEntityId
  terms : Plain tags.terms ∧ Plain tags.termTaxonomy ∧ Plain tags.termRelationships
  scratch : Plain tables.scratch

variable {t : EntityType} {tags : TagTables} {tables : JobTables}

theorem plain_idColumn (h : t.PlainNames tags tables) : Plain t.idColumn.render :=
  Sql.Reference.plain_of.2 h.entity

theorem plain_among (h : t.PlainNames tags tables) {r : Reference} (hr : Plain r.render) :
    Plain (Sql.Clause.among r (scratchIds tables)).render := by
  have hl : Plain (scratchIds tables).render := by
    have hs : Plain (Sql.Source.mk tables.scratch none).render :=
      Sql.Source.plain h.scratch fun _ h => nomatch h
    unfold scratchIds Sql.Lookup.render
    simp only [plain_append, Sql.Reference.plain_bare, hs, List.map_nil, List.isEmpty_nil, if_true,
      and_true]
    decide
  exact plain_append.2 ⟨plain_append.2 ⟨plain_append.2 ⟨hr, by decide⟩, hl⟩, by decide⟩

theorem plain_numbered_of {stem column : String} (hs : Plain stem) (i : Nat) (hc : Plain column) :
    Plain (Reference.of (numbered stem i) column).render :=
  Sql.Reference.plain_of.2 ⟨(plain_numbered stem i).2 hs, hc⟩

theorem plain_numbered_source {table stem : String} (ht : Plain table) (hs : Plain stem)
    (i : Nat) : Plain (Sql.Source.mk table (some (numbered stem i))).render := by
  refine Sql.Source.plain ht fun a ha => ?_
  obtain rfl := Option.mem_some_iff.1 ha
  exact (plain_numbered stem i).2 hs

theorem plain_attributeSupplement (h : t.PlainNames tags tables) (i : Nat) {key : String}
    (hk : Plain key) : Plain (t.attributeSupplement tables i key).render := by
  have hkey : Plain (Reference.bare t.attributeEntityId).render :=
    Sql.Reference.plain_bare.2 h.attributes.2
  have hgathering : Plain (t.attributeSupplement tables i key).gathering.render := by
    refine Sql.Gathering.plain hkey (fun _ h => nomatch h) (show Plain _ from ?_)
      (show Plain "; " by decide) (show Plain "meta_values" by decide)
      (Sql.Source.plain h.attributes.1 fun _ h => nomatch h) (fun _ h => nomatch h) ?_
    · exact Sql.Reference.plain_bare.2 (by decide)
    · refine List.forall_mem_cons.2 ⟨?_, List.forall_mem_singleton.2 (plain_among h hkey)⟩
      exact Sql.Test.plain_isText (Sql.Reference.plain_bare.2 (by decide)) hk
  exact Sql.Supplement.plain hgathering ((plain_numbered "m" i).2 (by decide))
    (Sql.Test.plain_equal (plain_idColumn h) (plain_numbered_of (by decide) i h.attributes.2))

theorem plain_tagSupplement (h : t.PlainNames tags tables) (i : Nat) {taxonomy : String}
    (hk : Plain taxonomy) : Plain (t.tagSupplement tags tables i taxonomy).render := by
  have hkey : Plain (Reference.of (numbered "tr" i) "object_id").render :=
    plain_numbered_of (by decide) i (by decide)
  have hlinks : ∀ k ∈ (t.tagSupplement tags tables i taxonomy).gathering.links,
      Plain k.render := by
    refine List.forall_mem_cons.2 ⟨?_, List.forall_mem_singleton.2 ?_⟩
    · refine Sql.Link.plain (plain_numbered_source h.terms.2.1 (by decide) i) ?_
      refine List.forall_mem_cons.2 ⟨?_, List.forall_mem_singleton.2 ?_⟩
      · exact Sql.Test.plain_equal (plain_numbered_of (by decide) i (by decide))
          (plain_numbered_of (by decide) i (by decide))
      · exact Sql.Test.plain_isText (plain_numbered_of (by decide) i (by decide)) hk
    · refine Sql.Link.plain (plain_numbered_source h.terms.1 (by decide) i) ?_
      exact List.forall_mem_singleton.2 (Sql.Test.plain_equal
        (plain_numbered_of (by decide) i (by decide)) (plain_numbered_of (by decide) i (by decide)))
  have hgathering : Plain (t.tagSupplement tags tables i taxonomy).gathering.render := by
    refine Sql.Gathering.plain hkey ?_ (plain_numbered_of (by decide) i (by decide))
      (show Plain ", " by decide) (show Plain "name" by decide)
      (plain_numbered_source h.terms.2.2 (by decide) i) hlinks
      (List.forall_mem_singleton.2 (plain_among h hkey))
    intro l hl
    obtain rfl := Option.mem_some_iff.1 hl
    decide
  exact Sql.Supplement.plain hgathering ((plain_numbered "t" i).2 (by decide))
    (Sql.Test.plain_equal (plain_numbered_of (by decide) i (by decide)) (plain_idColumn h))

theorem plain_outputColumn (h : t.PlainNames tags tables) (i : Nat) {f : Field}
    (hf : Plain f.name) : Plain (t.outputColumn i f).render := by
  unfold outputColumn
  split
  · exact Sql.Reference.plain_of.2 ⟨h.entity.1, hf⟩
  · exact plain_numbered_of (by decide) i (by decide)
  · exact plain_numbered_of (by decide) i (by decide)

theorem plain_createResult (h : t.PlainNames tags tables) (hr : Plain tables.result)
    {fields : List Field} (hf : ∀ f ∈ fields, Plain f.name ∧ Plain f.label) :
    Plain (Statement.createResult tables.result (t.projection tags tables fields)).render := by
  have hfield {x : Field × Nat} (hx : x ∈ fields.zipIdx) : Plain x.1.name ∧ Plain x.1.label :=
    hf x.1 (List.fst_mem_of_mem_zipIdx hx)
  have hp : Plain (t.projection tags tables fields).render := by
    refine Sql.Projection.plain ?_ (Sql.Source.plain h.entity.1 fun _ h => nomatch h) ?_
      (List.forall_mem_singleton.2 (plain_among h (plain_idColumn h)))
    · exact List.forall_mem_map.2 fun x hx =>
        ⟨plain_outputColumn h x.2 (hfield hx).1, (hfield hx).2⟩
    · intro k hk
      obtain ⟨x, hx, hs⟩ := List.mem_filterMap.1 hk
      dsimp only [supplement?] at hs
      split at hs
      · exact absurd hs (by simp)
      · obtain rfl := Option.some.inj hs
        exact plain_attributeSupplement h _ (hfield hx).1
      · obtain rfl := Option.some.inj hs
        exact plain_tagSupplement h _ (hfield hx).1
  exact plain_append.2 ⟨plain_append.2 ⟨plain_append.2 ⟨by decide, Sql.plain_name.2 hr⟩,
    by decide⟩, hp⟩

/-! ## The selection of a plan -/

theorem plain_taxonomyLookup (h : t.PlainNames tags tables) (i : Nat) {taxonomy : String}
    (hk : Plain taxonomy) {term : Option String} (ht : ∀ v ∈ term, Plain v) :
    Plain (taxonomyLookup tags i taxonomy term).render := by
  refine Sql.Lookup.plain (plain_numbered_of (by decide) i (by decide))
    (plain_numbered_source h.terms.2.1 (by decide) i) (List.forall_mem_singleton.2 ?_)
    (List.forall_mem_cons.2 ⟨?_, fun x hx => ?_⟩)
  · refine Sql.Link.plain (plain_numbered_source h.terms.1 (by decide) i)
      (List.forall_mem_singleton.2 ?_)
    exact Sql.Test.plain_equal (plain_numbered_of (by decide) i (by decide))
      (plain_numbered_of (by decide) i (by decide))
  · exact Sql.Test.plain_isText (plain_numbered_of (by decide) i (by decide)) hk
  · obtain ⟨v, hv, rfl⟩ := Option.map_eq_some_iff.1 (Option.mem_toList.1 hx)
    exact Sql.Test.plain_isText (plain_numbered_of (by decide) i (by decide)) (ht v hv)

theorem plain_tagJoin (h : t.PlainNames tags tables) (i : Nat) {taxonomy : String}
    (hk : Plain taxonomy) {term : Option String} (ht : ∀ v ∈ term, Plain v) :
    Plain (t.tagJoin tags i taxonomy term).render := by
  refine Sql.Join.plain (plain_numbered_source h.terms.2.2 (by decide) i)
    (List.forall_mem_cons.2 ⟨?_, List.forall_mem_singleton.2 ?_⟩)
  · exact Sql.Test.plain_equal (plain_numbered_of (by decide) i (by decide)) (plain_idColumn h)
  · exact plain_append.2 ⟨plain_append.2 ⟨plain_append.2
      ⟨plain_numbered_of (by decide) i (by decide), by decide⟩, plain_taxonomyLookup h i hk ht⟩,
      by decide⟩

theorem plain_tagNames (h : t.PlainNames tags tables) (i : Nat) {taxonomy : String}
    (hk : Plain taxonomy) : Plain (t.tagNames tags i taxonomy).render := by
  have column {stem name : String} (hs : Plain stem) (hn : Plain name) :
      Plain (Reference.of (numbered stem i) name).render := plain_numbered_of hs i hn
  refine Sql.Lookup.plain (column (by decide) (by decide))
    (plain_numbered_source h.terms.2.2 (by decide) i)
    (List.forall_mem_cons.2 ⟨?_, List.forall_mem_singleton.2 ?_⟩) (List.forall_mem_singleton.2 ?_)
  · refine Sql.Link.plain (plain_numbered_source h.terms.2.1 (by decide) i)
      (List.forall_mem_cons.2 ⟨?_, List.forall_mem_singleton.2 ?_⟩)
    · exact Sql.Test.plain_equal (column (by decide) (by decide)) (column (by decide) (by decide))
    · exact Sql.Test.plain_isText (column (by decide) (by decide)) hk
  · refine Sql.Link.plain (plain_numbered_source h.terms.1 (by decide) i)
      (List.forall_mem_singleton.2 ?_)
    exact Sql.Test.plain_equal (column (by decide) (by decide)) (column (by decide) (by decide))
  · exact Sql.Test.plain_equal (column (by decide) (by decide)) (plain_idColumn h)

theorem plain_insertIds (h : t.PlainNames tags tables) (hsub : ∀ v ∈ t.subtype, Plain v)
    {parts : List (FieldKind × Fragment)} (hp : ∀ part ∈ parts, Plain part.2.render) :
    Plain (Statement.insertIds tables.scratch (t.selection parts)).render := by
  have joins (tagged : Bool) : ∀ j ∈ joinsOf tagged parts, Plain j.render := by
    intro j hj
    obtain ⟨⟨kind, p⟩, hm, hj⟩ := List.mem_filterMap.1 hj
    dsimp only at hj
    split at hj
    · cases p with
      | clause c => simp [Fragment.join?] at hj
      | join k =>
        obtain rfl := Option.some.inj hj
        exact hp _ hm
    · exact absurd hj (by simp)
  have clauses (tagged : Bool) : ∀ c ∈ clausesOf tagged parts, Plain c.render := by
    intro c hc
    obtain ⟨⟨kind, p⟩, hm, hc⟩ := List.mem_filterMap.1 hc
    dsimp only at hc
    split at hc
    · cases p with
      | join j => simp [Fragment.clause?] at hc
      | clause d =>
        obtain rfl := Option.some.inj hc
        exact hp _ hm
    · exact absurd hc (by simp)
  have subtype : ∀ c ∈ t.subtypeClause, Plain c.render := by
    intro c hc
    obtain ⟨v, hv, rfl⟩ := Option.map_eq_some_iff.1 (Option.mem_toList.1 hc)
    exact Sql.Test.plain_isText (Sql.Reference.plain_of.2 ⟨h.entity.1, by decide⟩) (hsub v hv)
  have hq : Plain (t.selection parts).render :=
    Sql.Selection.plain (plain_idColumn h) (Sql.Source.plain h.entity.1 fun _ h => nomatch h)
      (List.forall_mem_append.2 ⟨joins false, joins true⟩)
      (List.forall_mem_append.2
        ⟨List.forall_mem_append.2 ⟨clauses false, clauses true⟩, subtype⟩)
  exact plain_append.2 ⟨plain_append.2 ⟨plain_append.2 ⟨by decide, Sql.plain_name.2 h.scratch⟩,
    by decide⟩, hq⟩

end EntityType

theorem Store.isWritten_iff {statement : Statement} :
    isWritten statement = true ↔ Plain statement.render := by
  simp [isWritten, Plain]

end SheetExport
