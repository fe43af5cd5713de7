import SheetExport.Proofs.TagPaths

/-!
# What a filter asks

A filter is stated here on the rows of a site alone: the columns of the entity, its attribute rows
and the terms that it reaches. The fragment of a filter says the same inside a query, in any scope
that shows the entity.
-/

namespace SheetExport

open Text (sameName)
open Sql (Condition Test Lookup Clause Join)

open Value (isKnown)

/-- Whether a filter asks for a tag to be absent. Only then a term without a name has a say. -/
def Filter.AsksAbsence (f : Filter) : Prop :=
  f.field.kind = .tag ∧ (f.rule = .notContains ∨ f.rule = .empty)

namespace Store

/-! ## The rows of an entity -/

/-- The entities of a type. -/
def entitiesOf (s : Store) (t : EntityType) : List Entry :=
  (s.entries t.entityTable).filter fun e => t.subtype.all fun v => (e subtypeColumn).is v

/-- The attribute rows of an entity with a key. -/
def attributesOf (s : Store) (t : EntityType) (e : Entry) (key : String) : List Entry :=
  (s.entries t.attributeTable).filter fun m =>
    (m t.attributeEntityId).equals (e t.entityId) && (m "meta_key").is key

/-- The terms that an entity reaches in a taxonomy, once for each way to reach them. -/
def termsOf (s : Store) (tags : TagTables) (t : EntityType) (e : Entry) (taxonomy : String) :
    List Entry :=
  ((s.entries tags.termRelationships).filter fun r =>
      (r "object_id").equals (e t.entityId)).flatMap fun r =>
    ((s.entries tags.termTaxonomy).filter fun w =>
        (w "term_taxonomy_id").equals (r "term_taxonomy_id") &&
          (w "taxonomy").is taxonomy).flatMap fun w =>
      (s.entries tags.terms).filter fun x => (x "term_id").equals (w "term_id")

/-- Whether an entity passes a filter. -/
def passes (s : Store) (now : Int) (tags : TagTables) (t : EntityType) (e : Entry) (f : Filter) :
    Bool :=
  match f.field.kind with
  | .fixed => (e f.field.name).meets now (Condition.ofFilter f)
  | .custom =>
    (s.attributesOf t e f.field.name).any fun m =>
      (m "meta_value").meets now (Condition.ofFilter f)
  | .tag =>
    let terms := s.termsOf tags t e f.field.name
    match f.rule with
    | .contains => terms.any fun x => (x "name").is f.operand
    | .notContains => !terms.any fun x => (x "name").is f.operand
    | .notEmpty => !terms.isEmpty
    | .empty => terms.isEmpty
    | .compare _ => false

theorem mem_termsOf {s : Store} {tags : TagTables} {t : EntityType} {e x : Entry}
    {taxonomy : String} :
    x ∈ s.termsOf tags t e taxonomy ↔
      x ∈ s.entries tags.terms ∧ ∃ w ∈ s.entries tags.termTaxonomy,
        ((x "term_id").equals (w "term_id") = true ∧ (w "taxonomy").is taxonomy = true) ∧
        ∃ r ∈ s.entries tags.termRelationships,
          (w "term_taxonomy_id").equals (r "term_taxonomy_id") = true ∧
            (r "object_id").equals (e t.entityId) = true := by
  simp only [termsOf, List.mem_flatMap, List.mem_filter, Bool.and_eq_true]
  constructor
  · rintro ⟨r, ⟨hr, hre⟩, w, ⟨hw, hwr, hwt⟩, hx, hxw⟩
    exact ⟨hx, w, hw, ⟨hxw, hwt⟩, r, hr, hwr, hre⟩
  · rintro ⟨hx, w, hw, ⟨hxw, hwt⟩, r, hr, hwr, hre⟩
    exact ⟨r, ⟨hr, hre⟩, w, ⟨hw, hwr, hwt⟩, hx, hxw⟩

/-! ## Lookups -/

theorem amongTruth_isTrue (o : Operand) (others : List Operand) :
    (amongTruth o others).isTrue = others.any o.equals := by
  simp only [amongTruth, List.any_map]
  change (if others.any o.equals = true then _ else _ : Truth).isTrue = _
  cases h : others.any o.equals with
  | true => rfl
  | false =>
    simp only [Bool.false_eq_true, if_false]
    split <;> rfl

theorem not_amongTruth_isTrue {o : Operand} {others : List Operand}
    (ho : isKnown o.value = true) (hk : ∀ x ∈ others, isKnown x.value = true) :
    (amongTruth o others).not.isTrue = !others.any o.equals := by
  have hn : (others.map fun x => o.compares .eq x).any Option.isNone = false := by
    rw [List.any_eq_false]
    intro c hc
    obtain ⟨x, hx, rfl⟩ := List.mem_map.1 hc
    have := Operand.compares_isSome ho (hk x hx) .eq
    cases h : o.compares .eq x <;> simp_all
  simp only [amongTruth, hn, List.any_map]
  change (if others.any o.equals = true then _ else _ : Truth).not.isTrue = _
  cases others.any o.equals <;> rfl

/-! ## Scopes of a selection -/

/-- Nothing but the entity and the joins of a selection is in scope. -/
def Outer (label : String) (scope : Scope) : Prop :=
  ∀ b ∈ scope, b.header.label = label ∨
    ∃ i, b.header.label = numbered "m" i ∨ b.header.label = numbered "tj" i

theorem Outer.free {label : String} {scope : Scope} (h : Outer label scope)
    (hl : Unnumbered label) {stem : String} (hs : IsStem stem) (hm : stem ≠ "m")
    (ht : stem ≠ "tj") (i : Nat) : Free (numbered stem i) scope := by
  intro b hb
  obtain hb | ⟨j, hb | hb⟩ := h b hb
  · rw [hb]
    exact hl.sameName hs i
  · rw [hb, sameName_numbered (by decide) hs]
    simp [Ne.symm hm]
  · rw [hb, sameName_numbered (by decide) hs]
    simp [Ne.symm ht]

theorem Outer.apart {label : String} {scope : Scope} (h : Outer label scope)
    (hl : Unnumbered label) {a b c : String} (ha : IsStem a) (hb : IsStem b) (hc : IsStem c)
    (hne : ∀ stem ∈ [a, b, c], stem ≠ "m" ∧ stem ≠ "tj") (hab : a ≠ b) (hac : a ≠ c)
    (hbc : b ≠ c) (i : Nat) : Apart (numbered a i) (numbered b i) (numbered c i) scope where
  first_second := by simp [sameName_numbered ha hb, hab]
  first_third := by simp [sameName_numbered ha hc, hac]
  second_third := by simp [sameName_numbered hb hc, hbc]
  first := h.free hl ha (hne a (by simp)).1 (hne a (by simp)).2 i
  second := h.free hl hb (hne b (by simp)).1 (hne b (by simp)).2 i
  third := h.free hl hc (hne c (by simp)).1 (hne c (by simp)).2 i

theorem label_numbered_ne {label : String} (hl : Unnumbered label) {stem : String}
    (hs : IsStem stem) {i : Nat} {b : Binding} (hb : b.header.label = numbered stem i) :
    sameName b.header.label label = false := by
  rw [hb, sameName_comm]
  exact hl.sameName hs i

section

variable {s : Store} {now : Int} {tags : TagTables} {t : EntityType} {scope : Scope} {e : Entry}

theorem mem_found_tagNames (hl : Unnumbered t.entityTable) (hs : Shows scope t.entityTable e)
    (ho : Outer t.entityTable scope) (i : Nat) (taxonomy : String) (o : Operand) :
    o ∈ s.found now scope (t.tagNames tags i taxonomy) ↔
      ∃ x ∈ s.termsOf tags t e taxonomy, x "name" = o := by
  have ap : Apart (numbered "tr" i) (numbered "tw" i) (numbered "trm" i) scope :=
    ho.apart hl (by decide) (by decide) (by decide) (by decide) (by decide) (by decide)
      (by decide) i
  -- The entity is asked for last, but only the relation row has a say in it.
  have test {r w x : Binding} (hr : r.header.label = numbered "tr" i)
      (hw : w.header.label = numbered "tw" i) (hx : x.header.label = numbered "trm" i) :
      testsHold now (x :: w :: r :: scope) (t.tagNames tags i taxonomy).tests =
        (r.entry "object_id").equals (e t.entityId) := by
    have se := hs.under (label_numbered_ne hl (by decide) hr) (label_numbered_ne hl (by decide) hw)
      (label_numbered_ne hl (by decide) hx)
    have sr := (ap.shows_three hr hw hx).1
    simp only [EntityType.tagNames, testsHold, EntityType.idColumn, List.all_cons, List.all_nil,
      Bool.and_true, equal_isTrue sr se]
  have name {r w x : Binding} (hr : r.header.label = numbered "tr" i)
      (hw : w.header.label = numbered "tw" i) (hx : x.header.label = numbered "trm" i) :
      operand (x :: w :: r :: scope) (t.tagNames tags i taxonomy).column = x.entry "name" :=
    (ap.shows_three hr hw hx).2.2 "name"
  change o ∈ ((s.linked now (tagLinks tags _ _ _ taxonomy)
    (s.joined ⟨tags.termRelationships, some (numbered "tr" i)⟩ [scope])).filter _).map _ ↔ _
  rw [linked_tagLinks s tags ap taxonomy]
  simp only [List.mem_map, List.mem_filter, List.mem_flatMap, mem_termsOf, Bool.and_eq_true]
  constructor
  · rintro ⟨_, ⟨⟨r, hr, w, ⟨hw, hwr, hwt⟩, x, ⟨hx, hxw⟩, rfl⟩, ht⟩, rfl⟩
    have lr := label_of_mem_bindings hr
    have lw := label_of_mem_bindings hw
    have lx := label_of_mem_bindings hx
    rw [test lr lw lx] at ht
    exact ⟨x.entry, ⟨entry_mem hx, w.entry, entry_mem hw, ⟨hxw, hwt⟩, r.entry, entry_mem hr, hwr,
      ht⟩, (name lr lw lx).symm⟩
  · rintro ⟨_, ⟨mx, _, mw, ⟨hxw, hwt⟩, _, mr, hwr, hre⟩, rfl⟩
    obtain ⟨r, hr, rfl⟩ := exists_binding mr (some (numbered "tr" i))
    obtain ⟨w, hw, rfl⟩ := exists_binding mw (some (numbered "tw" i))
    obtain ⟨x, hx, rfl⟩ := exists_binding mx (some (numbered "trm" i))
    have lr := label_of_mem_bindings hr
    have lw := label_of_mem_bindings hw
    have lx := label_of_mem_bindings hx
    refine ⟨_, ⟨⟨r, hr, w, ⟨hw, hwr, hwt⟩, x, ⟨hx, hxw⟩, rfl⟩, ?_⟩, name lr lw lx⟩
    rw [test lr lw lx]
    exact hre

theorem shows_taxonomy_term {i : Nat} {w x : Binding} (hw : Free (numbered "tt" i) scope)
    (hx : Free (numbered "trm" i) scope)
    (mw : w ∈ s.bindings ⟨tags.termTaxonomy, some (numbered "tt" i)⟩)
    (mx : x ∈ s.bindings ⟨tags.terms, some (numbered "trm" i)⟩) :
    Shows (x :: w :: scope) (numbered "tt" i) w.entry ∧
      Shows (x :: w :: scope) (numbered "trm" i) x.entry := by
  have lw : w.header.label = numbered "tt" i := label_of_mem_bindings mw
  have lx : x.header.label = numbered "trm" i := label_of_mem_bindings mx
  have apart : sameName (numbered "tt" i) (numbered "trm" i) = false := by
    rw [sameName_numbered (by decide) (by decide)]
    rfl
  refine ⟨(shows_head lw hw).cons ?_, shows_head lx (free_cons.2 ⟨?_, hx⟩)⟩
  · rw [lx, sameName_comm]
    exact apart
  · rw [lw]
    exact apart

theorem testsHold_taxonomyLookup {i : Nat} {sc : Scope} {w x : Entry}
    (hw : Shows sc (numbered "tt" i) w) (hx : Shows sc (numbered "trm" i) x) (taxonomy : String)
    (term : Option String) :
    testsHold now sc (EntityType.taxonomyLookup tags i taxonomy term).tests = true ↔
      (w "taxonomy").is taxonomy = true ∧ ∀ v ∈ term, (x "name").is v = true := by
  cases term with
  | none => simp [testsHold, EntityType.taxonomyLookup, isText_isTrue hw]
  | some v => simp [testsHold, EntityType.taxonomyLookup, isText_isTrue hw, isText_isTrue hx]

/-- The lookup goes through the pairs of a taxonomy row and its term. -/
theorem mem_linked_taxonomyLookup {i : Nat} (hw : Free (numbered "tt" i) scope)
    (hx : Free (numbered "trm" i) scope) (taxonomy : String) (term : Option String) (sc : Scope) :
    sc ∈ s.linked now (EntityType.taxonomyLookup tags i taxonomy term).links
        (s.joined (EntityType.taxonomyLookup tags i taxonomy term).source [scope]) ↔
      ∃ w ∈ s.bindings ⟨tags.termTaxonomy, some (numbered "tt" i)⟩,
        ∃ x ∈ s.bindings ⟨tags.terms, some (numbered "trm" i)⟩,
          (x.entry "term_id").equals (w.entry "term_id") = true ∧ sc = x :: w :: scope := by
  have link {w x : Binding} (mw : w ∈ s.bindings ⟨tags.termTaxonomy, some (numbered "tt" i)⟩)
      (mx : x ∈ s.bindings ⟨tags.terms, some (numbered "trm" i)⟩) :
      testsHold now (x :: w :: scope) [.equal (.of (numbered "trm" i) "term_id")
        (.of (numbered "tt" i) "term_id")] = (x.entry "term_id").equals (w.entry "term_id") := by
    obtain ⟨sw, sx⟩ := shows_taxonomy_term hw hx mw mx
    simp only [testsHold, List.all_cons, List.all_nil, Bool.and_true, equal_isTrue sx sw]
  simp only [linked, EntityType.taxonomyLookup, List.foldl_cons, List.foldl_nil, List.mem_filter,
    mem_joined, List.mem_singleton]
  constructor
  · rintro ⟨⟨_, ⟨_, rfl, w, mw, rfl⟩, x, mx, rfl⟩, hl⟩
    rw [link mw mx] at hl
    exact ⟨w, mw, x, mx, hl, rfl⟩
  · rintro ⟨w, mw, x, mx, hl, rfl⟩
    refine ⟨⟨_, ⟨_, rfl, w, mw, rfl⟩, x, mx, rfl⟩, ?_⟩
    rw [link mw mx]
    exact hl

theorem mem_found_taxonomyLookup {i : Nat} (hw : Free (numbered "tt" i) scope)
    (hx : Free (numbered "trm" i) scope) (taxonomy : String) (term : Option String)
    (o : Operand) :
    o ∈ s.found now scope (EntityType.taxonomyLookup tags i taxonomy term) ↔
      ∃ w ∈ s.entries tags.termTaxonomy, ∃ x ∈ s.entries tags.terms,
        (x "term_id").equals (w "term_id") = true ∧ (w "taxonomy").is taxonomy = true ∧
          (∀ v ∈ term, (x "name").is v = true) ∧ w "term_taxonomy_id" = o := by
  simp only [found, List.mem_map, List.mem_filter, mem_linked_taxonomyLookup hw hx]
  constructor
  · rintro ⟨_, ⟨⟨w, mw, x, mx, hl, rfl⟩, ht⟩, rfl⟩
    obtain ⟨sw, sx⟩ := shows_taxonomy_term hw hx mw mx
    obtain ⟨ht, hn⟩ := (testsHold_taxonomyLookup sw sx taxonomy term).1 ht
    exact ⟨w.entry, entry_mem mw, x.entry, entry_mem mx, hl, ht, hn,
      (sw "term_taxonomy_id").symm⟩
  · rintro ⟨_, ew, _, ex, hl, ht, hn, rfl⟩
    obtain ⟨w, mw, rfl⟩ := exists_binding ew (some (numbered "tt" i))
    obtain ⟨x, mx, rfl⟩ := exists_binding ex (some (numbered "trm" i))
    obtain ⟨sw, sx⟩ := shows_taxonomy_term hw hx mw mx
    exact ⟨_, ⟨⟨w, mw, x, mx, hl, rfl⟩, (testsHold_taxonomyLookup sw sx taxonomy term).2 ⟨ht, hn⟩⟩,
      sw "term_taxonomy_id"⟩

/-! ## Fragments -/

/-- What a fragment asks of a scope. A join asks for a partner. -/
def Answers (s : Store) (now : Int) (scope : Scope) : Fragment → Prop
  | .join j => ∃ b ∈ s.bindings j.source, s.clausesHold now (b :: scope) j.clauses = true
  | .clause c => (s.clauseTruth now scope c).isTrue = true

/-- The name under which a fragment brings in rows is free. -/
def Fits (scope : Scope) : Fragment → Prop
  | .join j => Free j.source.label scope
  | .clause _ => True

/-- A fragment that asks the same of an entity in every scope that shows it. -/
def Means (s : Store) (now : Int) (label : String) (p : Fragment) (meaning : Entry → Prop) :
    Prop :=
  ∀ scope e, Shows scope label e → Outer label scope → Fits scope p →
    (s.Answers now scope p ↔ meaning e)

theorem columnClause_means (f : Filter) :
    s.Means now t.entityTable (.clause (t.columnClause f)) fun e =>
      (e f.field.name).meets now (Condition.ofFilter f) = true := by
  intro scope e hs _ _
  change (testTruth now scope (.holds (.of t.entityTable f.field.name) _)).isTrue = true ↔ _
  rw [holds_isTrue hs]

theorem attributeJoin_means (hl : Unnumbered t.entityTable) (i : Nat) (f : Filter) :
    s.Means now t.entityTable (.join (t.attributeJoin i f)) fun e =>
      (s.attributesOf t e f.field.name).any
        (fun m => (m "meta_value").meets now (Condition.ofFilter f)) = true := by
  intro scope e hs _ hf
  have holds {b : Binding} (hb : b.header.label = numbered "m" i) :
      s.clausesHold now (b :: scope) (t.attributeJoin i f).clauses =
        ((b.entry t.attributeEntityId).equals (e t.entityId) &&
          ((b.entry "meta_key").is f.field.name &&
            (b.entry "meta_value").meets now (Condition.ofFilter f))) := by
    have he : Shows (b :: scope) t.entityTable e := hs.cons (label_numbered_ne hl (by decide) hb)
    have hm : Shows (b :: scope) (numbered "m" i) b.entry := shows_head hb hf
    simp only [clausesHold, EntityType.attributeJoin, EntityType.idColumn, clauseTruth,
      List.all_cons, List.all_nil, Bool.and_true, equal_isTrue hm he, isText_isTrue hm,
      holds_isTrue hm]
  simp only [attributesOf, List.any_eq_true, List.mem_filter, Bool.and_eq_true]
  constructor
  · rintro ⟨b, hb, h⟩
    rw [holds (label_of_mem_bindings hb)] at h
    simp only [Bool.and_eq_true] at h
    exact ⟨b.entry, ⟨entry_mem hb, h.1, h.2.1⟩, h.2.2⟩
  · rintro ⟨_, ⟨mb, h, hk⟩, hv⟩
    obtain ⟨b, hb, rfl⟩ := exists_binding mb (some (numbered "m" i))
    refine ⟨b, hb, ?_⟩
    rw [holds (label_of_mem_bindings hb)]
    simp only [h, hk, hv, Bool.and_self]

theorem tagJoin_means (hl : Unnumbered t.entityTable) (i : Nat) (taxonomy : String)
    (term : Option String) :
    s.Means now t.entityTable (.join (t.tagJoin tags i taxonomy term)) fun e =>
      ∃ x ∈ s.termsOf tags t e taxonomy, ∀ v ∈ term, (x "name").is v = true := by
  intro scope e hs ho hf
  have holds {b : Binding} (hb : b.header.label = numbered "tj" i) :
      s.clausesHold now (b :: scope) (t.tagJoin tags i taxonomy term).clauses = true ↔
        (b.entry "object_id").equals (e t.entityId) = true ∧
          ∃ w ∈ s.entries tags.termTaxonomy, ∃ x ∈ s.entries tags.terms,
            (x "term_id").equals (w "term_id") = true ∧ (w "taxonomy").is taxonomy = true ∧
              (∀ v ∈ term, (x "name").is v = true) ∧
                (b.entry "term_taxonomy_id").equals (w "term_taxonomy_id") = true := by
    have he : Shows (b :: scope) t.entityTable e := hs.cons (label_numbered_ne hl (by decide) hb)
    have hj : Shows (b :: scope) (numbered "tj" i) b.entry := shows_head hb hf
    have free {stem : String} (hst : IsStem stem) (hm : stem ≠ "m") (ht : stem ≠ "tj") :
        Free (numbered stem i) (b :: scope) := by
      refine free_cons.2 ⟨?_, ho.free hl hst hm ht i⟩
      rw [hb, sameName_numbered (by decide) hst]
      simp [Ne.symm ht]
    have ftt : Free (numbered "tt" i) (b :: scope) := free (by decide) (by decide) (by decide)
    have ftrm : Free (numbered "trm" i) (b :: scope) := free (by decide) (by decide) (by decide)
    have hfound (o : Operand) :
        o ∈ s.found now (b :: scope) (EntityType.taxonomyLookup tags i taxonomy term) ↔ _ :=
      mem_found_taxonomyLookup ftt ftrm taxonomy term o
    simp only [clausesHold, EntityType.tagJoin, EntityType.idColumn, clauseTruth, List.all_cons,
      List.all_nil, Bool.and_true, Bool.and_eq_true, equal_isTrue hj he, hj "term_taxonomy_id",
      amongTruth_isTrue, List.any_eq_true, hfound]
    constructor
    · rintro ⟨h, _, ⟨w, hw, x, hx, hxw, hwt, hn, rfl⟩, hr⟩
      exact ⟨h, w, hw, x, hx, hxw, hwt, hn, hr⟩
    · rintro ⟨h, w, hw, x, hx, hxw, hwt, hn, hr⟩
      exact ⟨h, _, ⟨w, hw, x, hx, hxw, hwt, hn, rfl⟩, hr⟩
  simp only [mem_termsOf]
  constructor
  · rintro ⟨b, hb, h⟩
    obtain ⟨hre, w, hw, x, hx, hxw, hwt, hn, hrw⟩ := (holds (label_of_mem_bindings hb)).1 h
    rw [Operand.equals_comm] at hrw
    exact ⟨x, ⟨hx, w, hw, ⟨hxw, hwt⟩, b.entry, entry_mem hb, hrw, hre⟩, hn⟩
  · rintro ⟨x, ⟨hx, w, hw, ⟨hxw, hwt⟩, _, mb, hwr, hre⟩, hn⟩
    obtain ⟨b, hb, rfl⟩ := exists_binding mb (some (numbered "tj" i))
    rw [Operand.equals_comm] at hwr
    exact ⟨b, hb, (holds (label_of_mem_bindings hb)).2 ⟨hre, w, hw, x, hx, hxw, hwt, hn, hwr⟩⟩

/-- Every term has a name that is not null. -/
def TermsNamed (s : Store) (tags : TagTables) : Prop :=
  ∀ x ∈ s.entries tags.terms, isKnown (x "name").value = true

theorem isKnown_of_mem_found (hn : s.TermsNamed tags) (hl : Unnumbered t.entityTable)
    (hs : Shows scope t.entityTable e) (ho : Outer t.entityTable scope) {i : Nat}
    {taxonomy : String} {o : Operand} (h : o ∈ s.found now scope (t.tagNames tags i taxonomy)) :
    isKnown o.value = true := by
  obtain ⟨x, hx, rfl⟩ := (mem_found_tagNames hl hs ho i taxonomy o).1 h
  exact hn x (mem_termsOf.1 hx).1

theorem notAmong_means (hn : s.TermsNamed tags) (hl : Unnumbered t.entityTable) (i : Nat)
    (taxonomy v : String) :
    s.Means now t.entityTable (.clause (.notAmong v (t.tagNames tags i taxonomy))) fun e =>
      (s.termsOf tags t e taxonomy).any (fun x => (x "name").is v) = false := by
  intro scope e hs ho _
  change (amongTruth (.literal (.text v)) _).not.isTrue = true ↔ _
  rw [not_amongTruth_isTrue rfl fun o h => isKnown_of_mem_found hn hl hs ho h,
    Bool.not_eq_true', List.any_eq_false]
  beta_reduce
  rw [List.any_eq_false]
  constructor
  · intro h x hx
    rw [Operand.is, Operand.equals_comm]
    exact h _ ((mem_found_tagNames hl hs ho i taxonomy _).2 ⟨x, hx, rfl⟩)
  · intro h o ho'
    obtain ⟨x, hx, rfl⟩ := (mem_found_tagNames hl hs ho i taxonomy o).1 ho'
    rw [Operand.equals_comm]
    exact h x hx

theorem nothing_means (hn : s.TermsNamed tags) (hl : Unnumbered t.entityTable) (i : Nat)
    (taxonomy : String) :
    s.Means now t.entityTable (.clause (.nothing (t.tagNames tags i taxonomy))) fun e =>
      (s.termsOf tags t e taxonomy).isEmpty = true := by
  intro scope e hs ho _
  have hfound (o : Operand) : o ∈ s.found now scope (t.tagNames tags i taxonomy) ↔ _ :=
    mem_found_tagNames hl hs ho i taxonomy o
  beta_reduce
  rw [List.isEmpty_iff, List.eq_nil_iff_forall_not_mem]
  simp only [Answers, clauseTruth]
  cases hf : s.found now scope (t.tagNames tags i taxonomy) with
  | nil =>
    refine iff_of_true rfl fun x hx => ?_
    have := (hfound _).2 ⟨x, hx, rfl⟩
    rw [hf] at this
    exact List.not_mem_nil this
  | cons o os =>
    have mo : o ∈ s.found now scope (t.tagNames tags i taxonomy) := hf ▸ List.mem_cons_self
    obtain ⟨x, hx, -⟩ := (hfound o).1 mo
    refine iff_of_false ?_ fun h => h x hx
    have hk := isKnown_of_mem_found hn hl hs ho mo
    cases hv : o.value with
    | null => rw [hv] at hk; exact absurd hk (by decide)
    | _ => simp [Truth.isTrue, Value.isNull, hv]

theorem fragment_means {f : Filter} (hn : f.AsksAbsence → s.TermsNamed tags)
    (hl : Unnumbered t.entityTable) {i : Nat} {p : Fragment} (h : t.fragment tags i f = .ok p) :
    s.Means now t.entityTable p fun e => s.passes now tags t e f = true := by
  unfold EntityType.fragment at h
  unfold passes
  cases hk : f.field.kind with
  | fixed =>
    simp only [hk, Except.ok.injEq] at h
    subst h
    exact columnClause_means f
  | custom =>
    simp only [hk, Except.ok.injEq] at h
    subst h
    exact attributeJoin_means hl i f
  | tag =>
    simp only [hk] at h
    cases hr : f.rule with
    | compare c => simp [hr] at h
    | contains =>
      simp only [hr, Except.ok.injEq] at h
      subst h
      intro scope e hs ho hf
      rw [tagJoin_means hl i _ _ scope e hs ho hf]
      simp
    | notEmpty =>
      simp only [hr, Except.ok.injEq] at h
      subst h
      intro scope e hs ho hf
      rw [tagJoin_means hl i _ _ scope e hs ho hf]
      simp [List.eq_nil_iff_forall_not_mem]
    | notContains =>
      simp only [hr, Except.ok.injEq] at h
      subst h
      simp only [Bool.not_eq_true']
      exact notAmong_means (hn ⟨hk, .inl hr⟩) hl i _ _
    | empty =>
      simp only [hr, Except.ok.injEq] at h
      subst h
      exact nothing_means (hn ⟨hk, .inr hr⟩) hl i _

end

end Store

end SheetExport
