import SheetExport.Proofs.Fragments
import SheetExport.Store.Query

/-!
# What a selection finds

Joins multiply the rows of an entity, but whether any row is left depends on each join alone. So a
selection finds the ids of the entities that pass every filter, and `DISTINCT` finds each once.
-/

namespace SheetExport.Store

open Text (sameName)
open Sql (Join)

/-! ## Joins -/

theorem withJoins_cons (s : Store) (now : Int) (j : Join) (js : List Join) (scopes : List Scope) :
    s.withJoins now (j :: js) scopes =
      s.withJoins now js ((s.joined j.source scopes).filter (s.clausesHold now · j.clauses)) := rfl

theorem mem_withJoins {s : Store} {now : Int} {sc : Scope} (js : List Join) :
    ∀ {scopes : List Scope},
      sc ∈ s.withJoins now js scopes ↔ ∃ outer ∈ scopes, sc ∈ s.withJoins now js [outer] := by
  induction js with
  | nil => intro scopes; simp [withJoins]
  | cons j js ih =>
    intro scopes
    simp only [withJoins_cons]
    rw [ih]
    constructor
    · rintro ⟨mid, hmid, hsc⟩
      obtain ⟨hmid, hc⟩ := List.mem_filter.1 hmid
      obtain ⟨outer, ho, b, hb, rfl⟩ := mem_joined.1 hmid
      refine ⟨outer, ho, ih.2 ⟨_, List.mem_filter.2 ⟨?_, hc⟩, hsc⟩⟩
      exact mem_joined.2 ⟨outer, List.mem_singleton_self _, b, hb, rfl⟩
    · rintro ⟨outer, ho, hsc⟩
      obtain ⟨mid, hmid, hsc⟩ := ih.1 hsc
      obtain ⟨hmid, hc⟩ := List.mem_filter.1 hmid
      obtain ⟨o, ho', b, hb, rfl⟩ := mem_joined.1 hmid
      rw [List.mem_singleton.1 ho'] at hc hsc
      exact ⟨_, List.mem_filter.2 ⟨mem_joined.2 ⟨outer, ho, b, hb, rfl⟩, hc⟩, hsc⟩

theorem mem_withJoins_cons {s : Store} {now : Int} {j : Join} {js : List Join} {scope sc : Scope} :
    sc ∈ s.withJoins now (j :: js) [scope] ↔ ∃ b ∈ s.bindings j.source,
      s.clausesHold now (b :: scope) j.clauses = true ∧ sc ∈ s.withJoins now js [b :: scope] := by
  rw [withJoins_cons, mem_withJoins]
  simp only [List.mem_filter, joined_singleton, List.mem_map]
  constructor
  · rintro ⟨_, ⟨⟨b, hb, rfl⟩, hc⟩, hsc⟩
    exact ⟨b, hb, hc, hsc⟩
  · rintro ⟨b, hb, hc, hsc⟩
    exact ⟨_, ⟨⟨b, hb, rfl⟩, hc⟩, hsc⟩

theorem mem_withJoins_source {s : Store} {now : Int} {source : Sql.Source} {js : List Join}
    {sc : Scope} :
    sc ∈ s.withJoins now js (s.joined source [[]]) ↔
      ∃ b ∈ s.bindings source, sc ∈ s.withJoins now js [[b]] := by
  rw [mem_withJoins, joined_singleton]
  simp

theorem sameName_join {label name : String} (hl : Unnumbered label)
    (h : ∃ i, name = numbered "m" i ∨ name = numbered "tj" i) : sameName name label = false := by
  rw [sameName_comm]
  obtain ⟨i, rfl | rfl⟩ := h
  · exact hl.sameName (by decide) i
  · exact hl.sameName (by decide) i

theorem Outer.cons {label : String} {scope : Scope} (h : Outer label scope) {b : Binding}
    (hb : ∃ i, b.header.label = numbered "m" i ∨ b.header.label = numbered "tj" i) :
    Outer label (b :: scope) :=
  List.forall_mem_cons.2 ⟨.inr hb, h⟩

theorem shows_withJoins {s : Store} {now : Int} {label : String} (hl : Unnumbered label) {e : Entry}
    (js : List Join)
    (hjs : ∀ j ∈ js, ∃ i, j.source.label = numbered "m" i ∨ j.source.label = numbered "tj" i) :
    ∀ {scope : Scope}, Shows scope label e → Outer label scope →
      ∀ sc ∈ s.withJoins now js [scope], Shows sc label e ∧ Outer label sc := by
  induction js with
  | nil =>
    intro scope hs ho sc hsc
    obtain rfl := List.mem_singleton.1 hsc
    exact ⟨hs, ho⟩
  | cons j js ih =>
    intro scope hs ho sc hsc
    obtain ⟨hj, hjs⟩ := List.forall_mem_cons.1 hjs
    obtain ⟨b, hb, -, hsc⟩ := mem_withJoins_cons.1 hsc
    rw [← label_of_mem_bindings hb] at hj
    exact ih hjs (hs.cons (sameName_join hl hj)) (ho.cons hj) sc hsc

/-- Joins that can be asked one by one: their names differ, and each asks the same of an entity
whatever the others bring into scope. -/
structure Independent (s : Store) (now : Int) (label : String) (js : List Join) : Prop where
  means : ∀ j ∈ js, ∃ meaning, s.Means now label (.join j) meaning
  labels : ∀ j ∈ js, ∃ i, j.source.label = numbered "m" i ∨ j.source.label = numbered "tj" i
  apart : js.Pairwise fun j k => sameName j.source.label k.source.label = false

theorem Independent.tail {s : Store} {now : Int} {label : String} {j : Join} {js : List Join}
    (h : s.Independent now label (j :: js)) : s.Independent now label js :=
  ⟨fun k hk => h.means k (List.mem_cons_of_mem _ hk),
    fun k hk => h.labels k (List.mem_cons_of_mem _ hk), (List.pairwise_cons.1 h.apart).2⟩

/-- An entity has joined rows exactly when every join finds a partner for it. -/
theorem Independent.exists_mem_withJoins {s : Store} {now : Int} {label : String}
    (hl : Unnumbered label) {e : Entry} (js : List Join) :
    s.Independent now label js → ∀ {scope : Scope},
    Shows scope label e → Outer label scope → (∀ j ∈ js, Free j.source.label scope) →
    ((∃ sc, sc ∈ s.withJoins now js [scope]) ↔ ∀ j ∈ js, s.Answers now scope (.join j)) := by
  induction js with
  | nil => simp [Store.withJoins]
  | cons j js ih =>
    intro h scope hs ho hf
    obtain ⟨hfj, hfjs⟩ := List.forall_mem_cons.1 hf
    obtain ⟨hlj, -⟩ := List.forall_mem_cons.1 h.labels
    -- A row more in scope changes no answer of the other joins.
    have rest {b : Binding} (hb : b ∈ s.bindings j.source) :
        (∃ sc, sc ∈ s.withJoins now js [b :: scope]) ↔ ∀ k ∈ js, s.Answers now scope (.join k) := by
      have lb := label_of_mem_bindings hb
      rw [← lb] at hlj
      have hs' : Shows (b :: scope) label e := hs.cons (sameName_join hl hlj)
      have hf' : ∀ k ∈ js, Free k.source.label (b :: scope) := fun k hk =>
        free_cons.2 ⟨lb ▸ (List.pairwise_cons.1 h.apart).1 k hk, hfjs k hk⟩
      rw [ih h.tail hs' (ho.cons hlj) hf']
      refine forall₂_congr fun k hk => ?_
      obtain ⟨meaning, hm⟩ := h.tail.means k hk
      rw [hm _ e hs' (ho.cons hlj) (hf' k hk), hm _ e hs ho (hfjs k hk)]
    rw [List.forall_mem_cons]
    constructor
    · rintro ⟨sc, hsc⟩
      obtain ⟨b, hb, hc, hsc⟩ := mem_withJoins_cons.1 hsc
      exact ⟨⟨b, hb, hc⟩, (rest hb).1 ⟨sc, hsc⟩⟩
    · rintro ⟨⟨b, hb, hc⟩, hrest⟩
      obtain ⟨sc, hsc⟩ := (rest hb).2 hrest
      exact ⟨sc, mem_withJoins_cons.2 ⟨b, hb, hc, hsc⟩⟩

/-! ## Entities -/

section

variable {s : Store} {now : Int} {t : EntityType} {tags : TagTables} {filters : List Filter}
  {parts : List (FieldKind × Fragment)}

theorem independent_joins (hn : ∀ f ∈ filters, f.AsksAbsence → s.TermsNamed tags)
    (hl : Unnumbered t.entityTable) (hp : t.fragmentsFrom tags 0 filters = .ok parts) :
    s.Independent now t.entityTable (t.selection parts).joins where
  means j hj := by
    obtain ⟨kind, hk⟩ := EntityType.mem_joins.1 hj
    obtain ⟨i, f, hm, hf⟩ := EntityType.exists_filter hp hk
    exact ⟨_, fragment_means (hn f hm) hl hf⟩
  labels j hj := EntityType.join_label hp hj
  apart := EntityType.joins_apart hp

theorem clausesHold_iff {scope : Scope} {cs : List Sql.Clause} :
    s.clausesHold now scope cs = true ↔ ∀ c ∈ cs, s.Answers now scope (.clause c) := by
  simp [clausesHold, Answers]

theorem clausesHold_append (scope : Scope) (a b : List Sql.Clause) :
    s.clausesHold now scope (a ++ b) =
      (s.clausesHold now scope a && s.clausesHold now scope b) := by
  simp [clausesHold]

theorem clausesHold_subtype {scope : Scope} {e : Entry} (hs : Shows scope t.entityTable e) :
    s.clausesHold now scope t.subtypeClause = t.subtype.all fun v => (e subtypeColumn).is v := by
  unfold EntityType.subtypeClause
  cases t.subtype with
  | none => rfl
  | some v => simp [clausesHold, clauseTruth, isText_isTrue hs]

/-! ## One row of the entity table -/

variable {b : Binding}

theorem shows_binding (hb : b.header.label = t.entityTable) :
    Shows [b] t.entityTable b.entry ∧ Outer t.entityTable [b] :=
  ⟨shows_head hb (free_nil _), by simp [Outer, hb]⟩

theorem fits_binding (hl : Unnumbered t.entityTable)
    (hp : t.fragmentsFrom tags 0 filters = .ok parts) (hb : b.header.label = t.entityTable) :
    ∀ part ∈ parts, Fits [b] part.2 := by
  rintro ⟨kind, p⟩ hpart
  cases p with
  | clause c => trivial
  | join j =>
    refine free_cons.2 ⟨?_, free_nil _⟩
    rw [hb, sameName_comm]
    exact sameName_join hl (EntityType.join_label hp (EntityType.mem_joins.2 ⟨kind, hpart⟩))

theorem clausesHold_selection (hn : ∀ f ∈ filters, f.AsksAbsence → s.TermsNamed tags)
    (hl : Unnumbered t.entityTable) (hp : t.fragmentsFrom tags 0 filters = .ok parts)
    (hb : b.header.label = t.entityTable) {sc : Scope} (hs : Shows sc t.entityTable b.entry)
    (ho : Outer t.entityTable sc) :
    s.clausesHold now sc (t.selection parts).clauses = true ↔
      (∀ c ∈ EntityType.clausesOf false parts ++ EntityType.clausesOf true parts,
        s.Answers now [b] (.clause c)) ∧
      t.subtype.all (fun v => (b.entry subtypeColumn).is v) = true := by
  rw [EntityType.selection, clausesHold_append, Bool.and_eq_true, clausesHold_subtype hs,
    clausesHold_iff]
  refine and_congr_left fun _ => forall₂_congr fun c hc => ?_
  obtain ⟨kind, hk⟩ := EntityType.mem_clauses.1 hc
  obtain ⟨i, f, hf', hf⟩ := EntityType.exists_filter hp hk
  have hm : s.Means now t.entityTable (.clause c) _ := fragment_means (hn f hf') hl hf
  obtain ⟨hsb, hob⟩ := shows_binding hb
  rw [hm sc _ hs ho trivial, hm [b] _ hsb hob trivial]

theorem answers_selection (hn : ∀ f ∈ filters, f.AsksAbsence → s.TermsNamed tags)
    (hl : Unnumbered t.entityTable) (hp : t.fragmentsFrom tags 0 filters = .ok parts)
    (hb : b.header.label = t.entityTable) :
    ((∀ j ∈ (t.selection parts).joins, s.Answers now [b] (.join j)) ∧
      ∀ c ∈ EntityType.clausesOf false parts ++ EntityType.clausesOf true parts,
        s.Answers now [b] (.clause c)) ↔
      ∀ f ∈ filters, s.passes now tags t b.entry f = true := by
  obtain ⟨hs, ho⟩ := shows_binding hb
  rw [← EntityType.answers_iff_passes hl hs ho hn hp (fits_binding hl hp hb)]
  constructor
  · rintro ⟨hj, hc⟩ ⟨kind, p⟩ hpart
    cases p with
    | join j => exact hj j (EntityType.mem_joins.2 ⟨kind, hpart⟩)
    | clause c => exact hc c (EntityType.mem_clauses.2 ⟨kind, hpart⟩)
  · intro h
    constructor
    · intro j hj
      obtain ⟨kind, hk⟩ := EntityType.mem_joins.1 hj
      exact h _ hk
    · intro c hc
      obtain ⟨kind, hk⟩ := EntityType.mem_clauses.1 hc
      exact h _ hk

/-- Some joined row of an entity is left exactly when the entity is of the type and passes every
filter. -/
theorem exists_selected_iff (hn : ∀ f ∈ filters, f.AsksAbsence → s.TermsNamed tags)
    (hl : Unnumbered t.entityTable) (hp : t.fragmentsFrom tags 0 filters = .ok parts)
    (hb : b.header.label = t.entityTable) :
    (∃ sc ∈ s.withJoins now (t.selection parts).joins [[b]],
        s.clausesHold now sc (t.selection parts).clauses = true) ↔
      t.subtype.all (fun v => (b.entry subtypeColumn).is v) = true ∧
        ∀ f ∈ filters, s.passes now tags t b.entry f = true := by
  have hi : s.Independent now t.entityTable (t.selection parts).joins :=
    independent_joins hn hl hp
  obtain ⟨hs, ho⟩ := shows_binding hb
  have hfree : ∀ j ∈ (t.selection parts).joins, Free j.source.label [b] := fun j hj =>
    have ⟨_, hk⟩ := EntityType.mem_joins.1 hj
    fits_binding hl hp hb _ hk
  have hclauses {sc : Scope} (hsc : sc ∈ s.withJoins now (t.selection parts).joins [[b]]) :
      s.clausesHold now sc (t.selection parts).clauses = true ↔ _ :=
    have ⟨hshow, houter⟩ := shows_withJoins hl _ hi.labels hs ho sc hsc
    clausesHold_selection hn hl hp hb hshow houter
  rw [← answers_selection hn hl hp hb, ← hi.exists_mem_withJoins hl _ hs ho hfree]
  constructor
  · rintro ⟨sc, hsc, hc⟩
    obtain ⟨hc, ht⟩ := (hclauses hsc).1 hc
    exact ⟨ht, ⟨sc, hsc⟩, hc⟩
  · rintro ⟨ht, ⟨sc, hsc⟩, hc⟩
    exact ⟨sc, hsc, (hclauses hsc).2 ⟨hc, ht⟩⟩

/-- The rows of a selection before repeated values are dropped. -/
def selectedScopes (s : Store) (now : Int) (q : Sql.Selection) : List Scope :=
  (s.withJoins now q.joins (s.joined q.source [[]])).filter (s.clausesHold now · q.clauses)

theorem entity_of_selected (hl : Unnumbered t.entityTable)
    (hp : t.fragmentsFrom tags 0 filters = .ok parts) {sc : Scope}
    (h : sc ∈ s.selectedScopes now (t.selection parts)) :
    ∃ b ∈ s.bindings ⟨t.entityTable, none⟩,
      sc ∈ s.withJoins now (t.selection parts).joins [[b]] ∧ Shows sc t.entityTable b.entry ∧
        t.subtype.all (fun v => (b.entry subtypeColumn).is v) = true := by
  obtain ⟨hsc, hc⟩ := List.mem_filter.1 h
  obtain ⟨b, hb, hsc⟩ := mem_withJoins_source.1 hsc
  obtain ⟨hs, ho⟩ := shows_binding (label_of_mem_bindings hb)
  obtain ⟨hshow, -⟩ :=
    shows_withJoins hl _ (fun j hj => EntityType.join_label hp hj) hs ho sc hsc
  rw [EntityType.selection, clausesHold_append, Bool.and_eq_true, clausesHold_subtype hshow] at hc
  exact ⟨b, hb, hsc, hshow, hc.2⟩

theorem mem_selectedScopes (hn : ∀ f ∈ filters, f.AsksAbsence → s.TermsNamed tags)
    (hl : Unnumbered t.entityTable) (hp : t.fragmentsFrom tags 0 filters = .ok parts) (now : Int)
    (v : Value) :
    v ∈ (s.selectedScopes now (t.selection parts)).map
        (fun scope => (operand scope t.idColumn).value) ↔
      ∃ e ∈ s.entitiesOf t, (∀ f ∈ filters, s.passes now tags t e f = true) ∧
        (e t.entityId).value = v := by
  constructor
  · intro h
    obtain ⟨sc, hsc, rfl⟩ := List.mem_map.1 h
    obtain ⟨b, hb, hjoined, hshow, ht⟩ := entity_of_selected hl hp hsc
    obtain ⟨-, hpass⟩ := (exists_selected_iff hn hl hp (label_of_mem_bindings hb)).1
      ⟨sc, hjoined, (List.mem_filter.1 hsc).2⟩
    refine ⟨b.entry, List.mem_filter.2 ⟨entry_mem hb, ht⟩, hpass, ?_⟩
    rw [EntityType.idColumn, hshow]
  · rintro ⟨e, he, hpass, rfl⟩
    obtain ⟨he, ht⟩ := List.mem_filter.1 he
    obtain ⟨b, hb, rfl⟩ := exists_binding he none
    obtain ⟨sc, hsc, hc⟩ :=
      (exists_selected_iff hn hl hp (label_of_mem_bindings hb)).2 ⟨ht, hpass⟩
    have hmem : sc ∈ s.selectedScopes now (t.selection parts) :=
      List.mem_filter.2 ⟨mem_withJoins_source.2 ⟨b, hb, hsc⟩, hc⟩
    obtain ⟨hs, ho⟩ := shows_binding (label_of_mem_bindings hb)
    obtain ⟨hshow, -⟩ :=
      shows_withJoins hl _ (fun j hj => EntityType.join_label hp hj) hs ho sc hsc
    refine List.mem_map.2 ⟨sc, hmem, ?_⟩
    rw [EntityType.idColumn, hshow]

theorem parts_of_attribute {f : Filter} (hf : f.field.kind = .custom)
    (hp : t.fragmentsFrom tags 0 [f] = .ok parts) :
    parts = [(.custom, .join (t.attributeJoin 0 f))] := by
  obtain ⟨p, others, hfragment, hrest, rfl⟩ := EntityType.fragmentsFrom_cons.1 hp
  rw [EntityType.fragment, hf, Except.ok.injEq] at hfragment
  rw [EntityType.fragmentsFrom, Except.ok.injEq] at hrest
  rw [← hfragment, ← hrest, hf]

theorem mem_selectedScopes_attribute (hl : Unnumbered t.entityTable) {f : Filter}
    (hf : f.field.kind = .custom) (v : Value) :
    v ∈ (s.selectedScopes now (t.selection [(.custom, .join (t.attributeJoin 0 f))])).map
        (fun scope => (operand scope t.idColumn).value) ↔
      ∃ e ∈ s.entitiesOf t, (s.attributesOf t e f.field.name).any
          (fun m => (m "meta_value").meets now (Sql.Condition.ofFilter f)) = true ∧
        (e t.entityId).value = v := by
  have hp : t.fragmentsFrom ⟨"", "", ""⟩ 0 [f] = .ok [(.custom, .join (t.attributeJoin 0 f))] :=
    EntityType.fragmentsFrom_cons.2
      ⟨_, [], by rw [EntityType.fragment, hf], rfl, by rw [hf]⟩
  have absent : ∀ g ∈ [f], g.AsksAbsence → s.TermsNamed ⟨"", "", ""⟩ := by
    rintro g hg ⟨hk, -⟩
    rw [List.mem_singleton.1 hg, hf] at hk
    exact absurd hk (by decide)
  rw [mem_selectedScopes absent hl hp]
  simp only [List.forall_mem_singleton, passes, hf]

end

/-! ## Distinct values -/

theorem same_integer (i j : Int) : (Value.integer i).same (.integer j) = decide (i = j) := by
  by_cases h : i = j
  · subst h
    simp [Value.same, Value.order]
  · have hc : compare i j ≠ .eq := fun he => h (Int.compare_eq_eq.1 he)
    simp [Value.same, Value.order, Value.isNull, h, hc]

theorem exists_map_of_forall {α β : Type} {f : α → β} {bs : List β}
    (h : ∀ b ∈ bs, ∃ a, b = f a) : ∃ as : List α, bs = as.map f := by
  induction bs with
  | nil => exact ⟨[], rfl⟩
  | cons b bs ih =>
    obtain ⟨⟨a, rfl⟩, hrest⟩ := List.forall_mem_cons.1 h
    obtain ⟨as, rfl⟩ := ih hrest
    exact ⟨a :: as, rfl⟩

theorem distinct_faithful_from {α : Type} [DecidableEq α] {f : α → Value}
    (hf : ∀ a b, (f a).same (f b) = decide (a = b)) (vs : List α) :
    ∀ kept : List α, kept.Nodup → ∃ ids : List α,
      (vs.map f).foldl (fun kept v => if kept.any (·.same v) then kept else kept ++ [v])
        (kept.map f) = ids.map f ∧ ids.Nodup ∧ ∀ i, i ∈ ids ↔ i ∈ kept ∨ i ∈ vs := by
  induction vs with
  | nil => intro kept hk; exact ⟨kept, rfl, hk, by simp⟩
  | cons i vs ih =>
    intro kept hk
    have hany : (kept.map f).any (·.same (f i)) = decide (i ∈ kept) := by
      rw [Bool.eq_iff_iff, List.any_map, List.any_eq_true]
      simp [hf]
    rw [List.map_cons, List.foldl_cons, hany]
    by_cases hi : i ∈ kept
    · obtain ⟨ids, he, hn, hm⟩ := ih kept hk
      refine ⟨ids, by simpa [hi] using he, hn, fun j => ?_⟩
      rw [hm, List.mem_cons]
      constructor
      · rintro (h | h) <;> simp [h]
      · rintro (h | rfl | h)
        · exact .inl h
        · exact .inl hi
        · exact .inr h
    · obtain ⟨ids, he, hn, hm⟩ := ih (kept ++ [i]) (by
        rw [List.nodup_append]
        refine ⟨hk, by simp, ?_⟩
        rintro a ha b hb rfl
        rw [List.mem_singleton.1 hb] at ha
        exact hi ha)
      refine ⟨ids, by simpa [hi] using he, hn, fun j => ?_⟩
      rw [hm, List.mem_append, List.mem_singleton, List.mem_cons, or_assoc]

/-- Values that are the same only if they come from one thing stay as they are, each once. -/
theorem distinct_faithful {α : Type} [DecidableEq α] {f : α → Value}
    (hf : ∀ a b, (f a).same (f b) = decide (a = b)) (vs : List α) :
    ∃ ids : List α, distinct (vs.map f) = ids.map f ∧ ids.Nodup ∧ ∀ i, i ∈ ids ↔ i ∈ vs := by
  obtain ⟨ids, he, hn, hm⟩ := distinct_faithful_from hf vs [] List.nodup_nil
  exact ⟨ids, he, hn, fun i => by simp [hm]⟩

theorem distinct_integers {vs : List Value} (hv : ∀ v ∈ vs, ∃ i, v = .integer i) :
    ∃ ids : List Int, distinct vs = ids.map .integer ∧ ids.Nodup ∧
      ∀ i, i ∈ ids ↔ .integer i ∈ vs := by
  obtain ⟨is, rfl⟩ := exists_map_of_forall hv
  obtain ⟨ids, he, hn, hm⟩ := distinct_faithful same_integer is
  exact ⟨ids, he, hn, fun i => by simp [hm]⟩

end SheetExport.Store
