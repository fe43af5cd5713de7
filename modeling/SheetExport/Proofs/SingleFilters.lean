import SheetExport.Proofs.SelectedIds

/-!
# Exports with one filter

An export with one filter leaves the ids of the entities that pass it in its scratch table. Its
statement runs if its columns are there, it can be written and no pattern in it is too long.
-/

namespace SheetExport

open Sql (Condition Statement)
open Store (Entry)

/-- A pattern that is too long to be matched. -/
def Filter.HasLongPattern (f : Filter) : Prop :=
  f.field.kind = .fixed ∧ (f.rule = .contains ∨ f.rule = .notContains) ∧
    Store.patternLimit < (Condition.containing f.operand).utf8ByteSize

namespace Store

/-! ## Statements -/

/-- The statement by which an export with one filter selects its entities. -/
def Selects (schema : Schema) (typeName : String) (fields : List Field) (tables : JobTables)
    (f : Filter) (statement : Statement) : Prop :=
  ∃ plan, Plan.compile schema typeName fields [f] tables = .ok plan ∧
    plan.dataStatements[1]? = some statement

theorem Selects.unique {schema : Schema} {typeName : String} {fields : List Field}
    {tables : JobTables} {f : Filter} {a b : Statement}
    (ha : Selects schema typeName fields tables f a)
    (hb : Selects schema typeName fields tables f b) : a = b := by
  obtain ⟨plan, hplan, ha⟩ := ha
  obtain ⟨plan', hplan', hb⟩ := hb
  obtain rfl := Except.ok.inj (hplan.symm.trans hplan')
  exact Option.some.inj (ha.symm.trans hb)

/-- The ids that the statement leaves in the scratch table. -/
def Leaves (s : Store) (o : Occasion) (schema : Schema) (typeName : String) (fields : List Field)
    (tables : JobTables) (f : Filter) (ids : List Int) : Prop :=
  ∃ statement s', Selects schema typeName fields tables f statement ∧
    s.run? o statement = some s' ∧ s'.table? tables.scratch = some (idTableOf tables.scratch ids)

section

variable {o : Occasion} {t : EntityType} {tags : TagTables} {f : Filter}

/-! ## Limits -/

theorem selectionFits_single {p : Fragment} (hp : t.fragment tags 0 f = .ok p) :
    selectionFits (t.selection [(f.field.kind, p)]) = true := by
  unfold EntityType.fragment at hp
  cases hf : f.field.kind with
  | custom =>
    simp only [hf, Except.ok.injEq] at hp
    subst hp
    unfold EntityType.attributeJoin Condition.ofFilter Condition.ofRule EntityType.selection
      EntityType.subtypeClause
    cases f.rule with
    | compare c => cases t.subtype <;> rcases f.cast with - | - | - | - <;> rfl
    | _ => cases t.subtype <;> rfl
  | fixed =>
    simp only [hf, Except.ok.injEq] at hp
    subst hp
    unfold EntityType.columnClause Condition.ofFilter Condition.ofRule EntityType.selection
      EntityType.subtypeClause
    cases f.rule with
    | compare c => cases t.subtype <;> rcases f.cast with - | - | - | - <;> rfl
    | _ => cases t.subtype <;> rfl
  | tag =>
    simp only [hf] at hp
    cases hr : f.rule with
    | compare c => simp [hr] at hp
    | _ =>
      simp only [hr, Except.ok.injEq] at hp
      subst hp
      unfold EntityType.selection EntityType.subtypeClause
      cases t.subtype <;> rfl

theorem meetsLongPattern_fixed (hk : f.field.kind = .fixed) :
    meetsLongPattern o (t.selection [(.fixed, .clause (t.columnClause f))]) = true ↔
      f.HasLongPattern ∧ o.meetsLongPatterns = true := by
  have long : isLongPattern (t.columnClause f) = true ↔ f.HasLongPattern := by
    unfold EntityType.columnClause Condition.ofFilter Condition.ofRule Filter.HasLongPattern
    cases f.rule with
    | compare c => rcases f.cast with - | - | - | - <;> simp [isLongPattern]
    | _ => simp [isLongPattern, hk]
  have subtype : t.subtypeClause.any isLongPattern = false := by
    unfold EntityType.subtypeClause
    cases t.subtype <;> rfl
  have clauses : (t.selection [(.fixed, .clause (t.columnClause f))]).clauses =
      t.columnClause f :: t.subtypeClause := rfl
  have joins : (t.selection [(.fixed, .clause (t.columnClause f))]).joins = [] := rfl
  rw [← long]
  simp only [meetsLongPattern, clauses, joins, List.flatMap_nil, List.append_nil, List.any_cons,
    subtype, Bool.or_false, Bool.and_eq_true]

theorem meetsLongPattern_tag (hk : f.field.kind = .tag) {p : Fragment}
    (hp : t.fragment tags 0 f = .ok p) :
    meetsLongPattern o (t.selection [(.tag, p)]) = false := by
  unfold EntityType.fragment at hp
  simp only [hk] at hp
  unfold meetsLongPattern
  refine Bool.and_eq_false_iff.2 (.inl ?_)
  cases hr : f.rule with
  | compare c => simp [hr] at hp
  | _ =>
    simp only [hr, Except.ok.injEq] at hp
    subst hp
    unfold EntityType.selection EntityType.subtypeClause
    cases t.subtype <;> rfl

theorem meetsLongPattern_compare {c : Comparison} (hr : f.rule = .compare c) {p : Fragment}
    (hp : t.fragment tags 0 f = .ok p) :
    meetsLongPattern o (t.selection [(f.field.kind, p)]) = false := by
  unfold EntityType.fragment at hp
  unfold meetsLongPattern
  refine Bool.and_eq_false_iff.2 (.inl ?_)
  cases hf : f.field.kind with
  | tag => simp [hf, hr] at hp
  | _ =>
    simp only [hf, Except.ok.injEq] at hp
    subst hp
    simp only [EntityType.columnClause, EntityType.attributeJoin, Condition.ofFilter,
      Condition.ofRule, hr, EntityType.selection, EntityType.subtypeClause]
    cases t.subtype <;> rcases f.cast with - | - | - | - <;> rfl

theorem meetsLongPattern_single (hk : f.field.kind ≠ .custom) {p : Fragment}
    (hp : t.fragment tags 0 f = .ok p) :
    meetsLongPattern o (t.selection [(f.field.kind, p)]) = true ↔
      f.HasLongPattern ∧ o.meetsLongPatterns = true := by
  cases hf : f.field.kind with
  | custom => exact absurd hf hk
  | fixed =>
    unfold EntityType.fragment at hp
    simp only [hf, Except.ok.injEq] at hp
    subst hp
    exact meetsLongPattern_fixed hf
  | tag => simp [meetsLongPattern_tag hf hp, Filter.HasLongPattern, hf]

/-! ## Ids -/

theorem idTableOf_injective {name : String} {a b : List Int}
    (h : idTableOf name a = idTableOf name b) : a = b := by
  have rows : a.map idRow = b.map idRow := congrArg Table.rows h
  exact List.map_injective_iff.2 (fun i j hij => congrArg Row.number hij) rows

end

section

variable {s : Store} {now : Int} {schema : Schema} {typeName : String}
  {fields : List Field} {tables : JobTables} {f : Filter}

/-- The list holds the ids of the entities of a type that pass the filter. -/
def ArePassing (s : Store) (now : Int) (tags : TagTables) (t : EntityType) (f : Filter)
    (ids : List Int) : Prop :=
  ∀ i, i ∈ ids ↔ ∃ e ∈ s.entitiesOf t,
    (e t.entityId).value = .integer i ∧ s.passes now tags t e f = true

theorem ArePassing.at_time {tags : TagTables} {t : EntityType} {ids : List Int} {now' : Int}
    (h : s.ArePassing now tags t f ids)
    (he : ∀ e ∈ s.entitiesOf t, s.passes now tags t e f = s.passes now' tags t e f) :
    s.ArePassing now' tags t f ids := fun i =>
  (h i).trans (exists_congr fun e => and_congr_right fun hm => by rw [he e hm])

theorem ArePassing.ne_nil_iff {tags : TagTables} {t : EntityType} {ids : List Int}
    (h : s.ArePassing now tags t f ids) (hid : s.IntegerIds t) :
    ids ≠ [] ↔ ∃ e ∈ s.entitiesOf t, s.passes now tags t e f = true := by
  constructor
  · intro hne
    obtain ⟨i, hi⟩ := List.exists_mem_of_ne_nil _ hne
    obtain ⟨e, he, -, hpass⟩ := (h i).1 hi
    exact ⟨e, he, hpass⟩
  · rintro ⟨e, he, hpass⟩
    obtain ⟨i, hi⟩ := hid e he
    exact List.ne_nil_of_mem ((h i).2 ⟨e, he, hi, hpass⟩)

/-- The export with one filter leaves the ids of the entities that pass it if its statement runs,
and its statement runs if its columns are there and it can be written and matched. -/
theorem leaves_of_fragment (hfields : fields ≠ [])
    (hfresh : s.table? tables.scratch = some (idTable tables.scratch))
    (hn : f.AsksAbsence → s.TermsNamed schema.tagTables)
    (hid : s.IntegerIds (schema.entityType typeName)) {p : Fragment}
    (hp : (schema.entityType typeName).fragment schema.tagTables 0 f = .ok p)
    (o : Occasion) :
    ∃ statement sel, Selects schema typeName fields tables f statement ∧
      s.ArePassing o.now schema.tagTables (schema.entityType typeName) f sel ∧
      ∀ ids, s.Leaves o schema typeName fields tables f ids ↔
        (s.offersAll ((schema.entityType typeName).neededColumns schema.tagTables [f]) ∧
          isWritten statement = true ∧
          meetsLongPattern o ((schema.entityType typeName).selection [(f.field.kind, p)]) =
            false) ∧
        ids = sel := by
  have hparts : (schema.entityType typeName).fragmentsFrom schema.tagTables 0 [f] =
      .ok [(f.field.kind, p)] := EntityType.fragmentsFrom_cons.2 ⟨p, [], hp, rfl, rfl⟩
  have hl := unnumbered_entityTable schema typeName
  obtain ⟨new, hnew, hnodup, hmem⟩ :=
    selected_ids (List.forall_mem_singleton.2 hn) hl hid hparts o.now
  obtain ⟨s₁, sel, hins, htab, -, hsel, -⟩ :=
    insertIds?_integers new hfresh List.Pairwise.nil hnodup fun _ _ => List.not_mem_nil
  have hrun := s.run?_insertIds o tables.scratch
    ((schema.entityType typeName).selection [(f.field.kind, p)])
  rw [hnew, hins] at hrun
  have selects (statement : Statement) : Selects schema typeName fields tables f statement ↔
      statement = .insertIds tables.scratch
        ((schema.entityType typeName).selection [(f.field.kind, p)]) := by
    unfold Selects
    simp only [Plan.compile_eq_ok, hparts, Except.ok.injEq, hfields, ne_eq, not_false_eq_true,
      true_and, exists_eq_left']
    simp [Plan.dataStatements_ofSelection, eq_comm]
  have runs := selectionRuns_iff (s := s) (o := o) hl hparts tables.scratch
  simp only [Admits, selectionFits_single hp, true_and] at runs
  refine ⟨_, sel, (selects _).2 rfl, fun i => ?_, fun ids => ?_⟩
  · rw [hsel, or_iff_left List.not_mem_nil, hmem]
    simp
  · unfold Leaves
    simp only [selects, exists_and_left, exists_eq_left, hrun]
    split
    · rename_i h
      simp only [← runs, h, true_and, Option.some.injEq, exists_eq_left', htab]
      exact ⟨fun h => (idTableOf_injective h).symm, fun h => by rw [h]⟩
    · rename_i h
      simp [← runs, h]

theorem leaves_single (hfields : fields ≠ [])
    (hfresh : s.table? tables.scratch = some (idTable tables.scratch))
    (hn : s.TermsNamed schema.tagTables) (hid : s.IntegerIds (schema.entityType typeName))
    (hk : f.field.kind ≠ .custom) (hr : ¬ f.Unsupported) (o : Occasion) :
    ∃ statement sel, Selects schema typeName fields tables f statement ∧
      s.ArePassing o.now schema.tagTables (schema.entityType typeName) f sel ∧
      ∀ ids, s.Leaves o schema typeName fields tables f ids ↔
        (s.offersAll ((schema.entityType typeName).neededColumns schema.tagTables [f]) ∧
          isWritten statement = true ∧
          ¬ (f.HasLongPattern ∧ o.meetsLongPatterns = true)) ∧
        ids = sel := by
  obtain ⟨p, hp⟩ :=
    EntityType.fragment_supported (schema.entityType typeName) schema.tagTables 0 hr
  have h := leaves_of_fragment hfields hfresh (fun _ => hn) hid hp o
  simp only [← Bool.not_eq_true, meetsLongPattern_single hk hp] at h
  exact h

end

end Store

end SheetExport
