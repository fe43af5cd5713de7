import SheetExport.Proofs.Comparisons
import SheetExport.Proofs.SingleFilters
import SheetExport.Proofs.Written

/-!
# Opposite rules

Some rules of a filter are opposites: whatever the entity, it passes exactly one of them, or none
where the filter has nothing to compare. Though a positive tag rule joins tables and a negative one
looks them up for each entity, the ids that the statements of opposite rules leave do not overlap
and are all the ids there are.
-/

namespace SheetExport

open Sql (Condition Statement Selection)
open Store (Entry)

namespace Filter

/-- The filter with another rule. -/
def under (f : Filter) (rule : Rule) : Filter := { f with rule := rule }

/-- The opposite rules of a filter on its field at a time, each with the entities that they divide.
-/
def opposites (f : Filter) (now : Int) : List ((Entry → Prop) × List Rule) :=
  let all : Entry → Prop := fun _ => True
  let present : Entry → Prop := fun e => (e f.field.name).value ≠ .null
  let comparable : Entry → Prop := fun e => (e f.field.name).Comparable now f.cast f.operand
  match f.field.kind with
  | .tag => [(all, [.contains, .notContains]), (all, [.notEmpty, .empty])]
  | .custom => []
  | .fixed =>
    [(all, [.empty, .notEmpty]), (present, [.contains, .notContains]),
      (comparable, [.compare .eq, .compare .ne]), (comparable, [.compare .gt, .compare .le]),
      (comparable, [.compare .lt, .compare .ge]),
      (comparable, [.compare .lt, .compare .eq, .compare .gt])]

end Filter

namespace Store

/-! ## Entities -/

/-- No column of an entity holds an undefined number. A store keeps null instead. -/
def Definite (s : Store) (t : EntityType) : Prop :=
  ∀ e ∈ s.entitiesOf t, ∀ column, (e column).value ≠ .real .undefined

/-- Each entity of a part passes the filter under exactly one of the rules, and every other entity
under none. -/
structure Divides (s : Store) (now : Int) (tags : TagTables) (t : EntityType) (f : Filter)
    (part : Entry → Prop) (rules : List Rule) : Prop where
  inside : ∀ e ∈ s.entitiesOf t, part e →
    rules.countP (fun rule => s.passes now tags t e (f.under rule)) = 1
  outside : ∀ e ∈ s.entitiesOf t, ¬ part e →
    rules.countP (fun rule => s.passes now tags t e (f.under rule)) = 0

section

variable {s : Store} {now : Int} {tags : TagTables} {t : EntityType} {f : Filter}

theorem countP_opposite {α : Type} {p : α → Bool} {a b : α} (h : p b = !p a) :
    [a, b].countP p = 1 := by
  cases ha : p a <;> simp [h, ha]

theorem passes_fixed (hk : f.field.kind = .fixed) (e : Entry) (rule : Rule) :
    s.passes now tags t e (f.under rule) =
      (e f.field.name).meets now (.ofRule rule f.operand f.cast) := by
  unfold passes Filter.under
  dsimp only
  rw [hk]
  rfl

theorem divides_all {a b : Rule}
    (h : ∀ e, s.passes now tags t e (f.under b) = !s.passes now tags t e (f.under a)) :
    s.Divides now tags t f (fun _ => True) [a, b] :=
  ⟨fun e _ _ => countP_opposite (h e), fun _ _ hn => absurd trivial hn⟩

theorem divides_empty (hk : f.field.kind = .fixed) (hd : s.Definite t) :
    s.Divides now tags t f (fun _ => True) [.empty, .notEmpty] := by
  refine ⟨fun e he _ => countP_opposite ?_, fun _ _ hn => absurd trivial hn⟩
  rw [passes_fixed hk, passes_fixed hk]
  exact Operand.meets_notEmpty (hd e he _) _ _ _ _

theorem divides_contains (hk : f.field.kind = .fixed) :
    s.Divides now tags t f (fun e => (e f.field.name).value ≠ .null) [.contains, .notContains] := by
  refine ⟨fun e _ hn => countP_opposite ?_, fun e _ hn => ?_⟩
  · rw [passes_fixed hk, passes_fixed hk]
    exact Operand.meets_notContains hn _ _ _
  · obtain ⟨hc, hnc⟩ := Operand.meets_contains_of_null (not_not.1 hn) now f.operand f.cast
    simp [passes_fixed hk, hc, hnc]

theorem divides_comparisons (hk : f.field.kind = .fixed) (hd : s.Definite t)
    {cs : List Comparison} (hcs : ∀ o : Ordering, cs.countP (·.accepts o) = 1) :
    s.Divides now tags t f (fun e => (e f.field.name).Comparable now f.cast f.operand)
      (cs.map .compare) := by
  have count (e : Entry) :
      (cs.map .compare).countP (fun rule => s.passes now tags t e (f.under rule)) =
        cs.countP fun c => ((e f.field.name).comparedTo now f.cast f.operand).any c.accepts := by
    rw [List.countP_map]
    refine List.countP_congr fun c _ => ?_
    rw [Function.comp_apply, passes_fixed hk, Operand.meets_compare]
  constructor
  · intro e he hc
    rw [← Operand.comparedTo_isSome_iff (hd e he _)] at hc
    obtain ⟨o, ho⟩ := Option.isSome_iff_exists.1 hc
    rw [count, ho]
    exact hcs o
  · intro e he hc
    rw [← Operand.comparedTo_isSome_iff (hd e he _), Bool.not_eq_true,
      Option.isSome_eq_false_iff, Option.isNone_iff_eq_none] at hc
    simp [count, hc]

theorem divides_opposites (hd : s.Definite t) {g : (Entry → Prop) × List Rule}
    (hg : g ∈ f.opposites now) : s.Divides now tags t f g.1 g.2 := by
  unfold Filter.opposites at hg
  cases hk : f.field.kind with
  | custom => simp [hk] at hg
  | tag =>
    simp only [hk, List.mem_cons, List.not_mem_nil, or_false] at hg
    rcases hg with rfl | rfl
    · exact divides_all fun e => by simp [passes, Filter.under, hk, Filter.operand]
    · exact divides_all fun e => by simp [passes, Filter.under, hk]
  | fixed =>
    have compared (cs : List Comparison) (hcs : ∀ o : Ordering, cs.countP (·.accepts o) = 1) :
        s.Divides now tags t f (fun e => (e f.field.name).Comparable now f.cast f.operand)
          (cs.map .compare) := divides_comparisons hk hd hcs
    simp only [hk, List.mem_cons, List.not_mem_nil, or_false] at hg
    rcases hg with rfl | rfl | rfl | rfl | rfl | rfl
    · exact divides_empty hk hd
    · exact divides_contains hk
    · exact compared [.eq, .ne] fun o => by cases o <;> rfl
    · exact compared [.gt, .le] fun o => by cases o <;> rfl
    · exact compared [.lt, .ge] fun o => by cases o <;> rfl
    · exact compared [.lt, .eq, .gt] fun o => by cases o <;> rfl

/-! ## The clock -/

/-- Whether the filter compares some entity of a type with a time of the clock. -/
def ReadsClock (s : Store) (t : EntityType) (f : Filter) : Prop :=
  f.field.kind = .fixed ∧ ∃ e ∈ s.entitiesOf t, (e f.field.name).ReadsClock f.cast f.operand

theorem passes_at_any_time (hk : f.field.kind ≠ .custom) (h : ¬ s.ReadsClock t f) {e : Entry}
    (he : e ∈ s.entitiesOf t) (rule : Rule) (now now' : Int) :
    s.passes now tags t e (f.under rule) = s.passes now' tags t e (f.under rule) := by
  cases hf : f.field.kind with
  | custom => exact absurd hf hk
  | tag => simp only [passes, Filter.under, hf]
  | fixed =>
    rw [passes_fixed hf, passes_fixed hf]
    cases rule with
    | compare c =>
      have hread : ¬ (e f.field.name).ReadsClock f.cast f.operand := fun hr => h ⟨hf, e, he, hr⟩
      rw [Operand.meets_compare, Operand.meets_compare, Operand.comparedTo_congr hread now now']
    | _ => rfl

/-! ## Ids of opposite rules -/

/-- No two entities of a type have one id. -/
def IdsDiffer (s : Store) (t : EntityType) : Prop :=
  ∀ e ∈ s.entitiesOf t, ∀ e' ∈ s.entitiesOf t,
    (e t.entityId).value = (e' t.entityId).value → e = e'

theorem cell_eq_of_value {table column : String} {e e' : Entry} (he : e ∈ s.entries table)
    (he' : e' ∈ s.entries table) (h : (e column).value = (e' column).value) :
    e column = e' column := by
  unfold entries at he he'
  cases ht : s.table? table with
  | none => simp [ht] at he
  | some rows =>
    simp only [ht, Table.entries, List.mem_map] at he he'
    obtain ⟨a, -, rfl⟩ := he
    obtain ⟨b, -, rfl⟩ := he'
    unfold Table.cell at h ⊢
    cases hp : rows.place? column with
    | none => rfl
    | some place =>
      simp only [hp] at h ⊢
      rw [h]

theorem passes_tag_congr (hk : f.field.kind = .tag) {e e' : Entry}
    (h : e t.entityId = e' t.entityId) : s.passes now tags t e f = s.passes now tags t e' f := by
  unfold passes termsOf
  rw [hk, h]

theorem Divides.apart {part : Entry → Prop} {rules : List Rule}
    (h : s.Divides now tags t f part rules) : rules.Pairwise fun a b => ∀ e ∈ s.entitiesOf t,
      s.passes now tags t e (f.under a) = true → s.passes now tags t e (f.under b) = false := by
  have count : ∀ e ∈ s.entitiesOf t,
      rules.countP (fun rule => s.passes now tags t e (f.under rule)) ≤ 1 := by
    intro e he
    by_cases hp : part e
    · exact Nat.le_of_eq (h.inside e he hp)
    · rw [h.outside e he hp]
      exact Nat.zero_le 1
  clear h
  induction rules with
  | nil => exact List.Pairwise.nil
  | cons a rest ih =>
    simp only [List.countP_cons] at count
    refine List.pairwise_cons.2
      ⟨fun b hb e he ha => ?_, ih fun e he => Nat.le_of_add_right_le (count e he)⟩
    have one := count e he
    rw [if_pos ha] at one
    have none : rest.countP (fun rule => s.passes now tags t e (f.under rule)) = 0 := by omega
    exact Bool.eq_false_iff.2 (List.countP_eq_zero.1 none b hb)

theorem Divides.some_passes_iff {part : Entry → Prop} {rules : List Rule}
    (h : s.Divides now tags t f part rules) {e : Entry} (he : e ∈ s.entitiesOf t) :
    (∃ rule ∈ rules, s.passes now tags t e (f.under rule) = true) ↔ part e := by
  by_cases hp : part e
  · simp only [hp, iff_true]
    exact List.countP_pos_iff.1 (by rw [h.inside e he hp]; exact Nat.one_pos)
  · simp only [hp, iff_false, not_exists, not_and]
    exact List.countP_eq_zero.1 (h.outside e he hp)

theorem under_opposite {g : (Entry → Prop) × List Rule} (hg : g ∈ f.opposites now) {rule : Rule}
    (hr : rule ∈ g.2) : f.field.kind ≠ .custom ∧ ¬ (f.under rule).Unsupported := by
  unfold Filter.opposites at hg
  cases hk : f.field.kind with
  | custom => simp [hk] at hg
  | fixed =>
    refine ⟨by simp, fun h => ?_⟩
    exact absurd (hk.symm.trans h.1) (by simp)
  | tag =>
    simp only [hk, List.mem_cons, List.not_mem_nil, or_false] at hg
    refine ⟨by simp, fun h => ?_⟩
    have ordering : rule.isOrdering = true := h.2
    rcases hg with rfl | rfl <;>
      · simp only [List.mem_cons, List.not_mem_nil, or_false] at hr
        rcases hr with rfl | rfl <;> simp [Rule.isOrdering] at ordering

end

section

variable {s : Store} {now : Int} {schema : Schema} {typeName : String} {fields : List Field}
  {tables : JobTables} {f : Filter}

theorem Divides.exists_mem_iff {tags : TagTables} {t : EntityType} {part : Entry → Prop}
    {rules : List Rule} (h : s.Divides now tags t f part rules) {ids : Rule → List Int}
    (hids : ∀ rule ∈ rules, s.ArePassing now tags t (f.under rule) (ids rule)) (i : Int) :
    (∃ rule ∈ rules, i ∈ ids rule) ↔
      ∃ e ∈ s.entitiesOf t, part e ∧ (e t.entityId).value = .integer i := by
  constructor
  · rintro ⟨rule, hr, hi⟩
    obtain ⟨e, he, hv, hpass⟩ := (hids rule hr i).1 hi
    exact ⟨e, he, (h.some_passes_iff he).1 ⟨rule, hr, hpass⟩, hv⟩
  · rintro ⟨e, he, hp, hv⟩
    obtain ⟨rule, hr, hpass⟩ := (h.some_passes_iff he).2 hp
    exact ⟨rule, hr, (hids rule hr i).2 ⟨e, he, hv, hpass⟩⟩

/-- Tags are looked up by the id alone, so there it does not matter whether entities share one. -/
theorem Divides.disjoint {tags : TagTables} {t : EntityType} {part : Entry → Prop}
    {rules : List Rule} (h : s.Divides now tags t f part rules) {ids : Rule → List Int}
    (hids : ∀ rule ∈ rules, s.ArePassing now tags t (f.under rule) (ids rule))
    (hone : f.field.kind = .tag ∨ s.IdsDiffer t) :
    rules.Pairwise fun a b => ∀ i ∈ ids a, i ∉ ids b := by
  have alike {e e' : Entry} (he : e ∈ s.entitiesOf t) (he' : e' ∈ s.entitiesOf t)
      (hv : (e t.entityId).value = (e' t.entityId).value) (rule : Rule) :
      s.passes now tags t e (f.under rule) = s.passes now tags t e' (f.under rule) := by
    rcases hone with hk | hdiff
    · exact passes_tag_congr (f := f.under rule) hk
        (cell_eq_of_value (List.mem_filter.1 he).1 (List.mem_filter.1 he').1 hv)
    · rw [hdiff e he e' he' hv]
  refine h.apart.imp_of_mem fun {a b} ha hb hab i hia hib => ?_
  obtain ⟨e, he, hv, hpass⟩ := (hids a ha i).1 hia
  obtain ⟨e', he', hv', hpass'⟩ := (hids b hb i).1 hib
  rw [← alike he he' (hv.trans hv'.symm) b, hab e he hpass] at hpass'
  exact absurd hpass' Bool.false_ne_true

/-- Opposite rules divide the entities they are for. Each rule leaves ids exactly when its columns
are there and its statement can be written and matched. If all of them leave ids, and the clock has
not gone on in between unless nothing is compared with it, these are the ids of the entities that
the rules are for, and where an id tells the entity none is left twice. -/
theorem opposite_rules_divide (hfields : fields ≠ [])
    (hfresh : s.table? tables.scratch = some (idTable tables.scratch))
    (hn : s.TermsNamed schema.tagTables) (hid : s.IntegerIds (schema.entityType typeName))
    (hd : s.Definite (schema.entityType typeName)) {part : Entry → Prop} {rules : List Rule}
    (hg : (part, rules) ∈ f.opposites now) :
    s.Divides now schema.tagTables (schema.entityType typeName) f part rules ∧
    (∀ rule ∈ rules, ∃ statement,
      Selects schema typeName fields tables (f.under rule) statement ∧
      ∀ o, (∃ ids, s.Leaves o schema typeName fields tables (f.under rule) ids) ↔
        s.offersAll ((schema.entityType typeName).neededColumns schema.tagTables
          [f.under rule]) ∧
        isWritten statement = true ∧
        ¬ ((f.under rule).HasLongPattern ∧ o.meetsLongPatterns = true)) ∧
    ∀ (met : Rule → Occasion) (ids : Rule → List Int),
      (∀ rule ∈ rules, (met rule).now = now ∨ ¬ s.ReadsClock (schema.entityType typeName) f) →
      (∀ rule ∈ rules,
        s.Leaves (met rule) schema typeName fields tables (f.under rule) (ids rule)) →
      (∀ i, (∃ rule ∈ rules, i ∈ ids rule) ↔ ∃ e ∈ s.entitiesOf (schema.entityType typeName),
        part e ∧ (e (schema.entityType typeName).entityId).value = .integer i) ∧
      (f.field.kind = .tag ∨ s.IdsDiffer (schema.entityType typeName) →
        rules.Pairwise fun a b => ∀ i ∈ ids a, i ∉ ids b) := by
  have hdiv : s.Divides now schema.tagTables (schema.entityType typeName) f part rules :=
    divides_opposites hd hg
  have single (rule : Rule) (hr : rule ∈ rules) (o : Occasion) :=
    leaves_single hfields hfresh hn hid (f := f.under rule) (under_opposite hg hr).1
      (under_opposite hg hr).2 o
  refine ⟨hdiv, fun rule hr => ?_, fun met ids hnow hids => ?_⟩
  · obtain ⟨statement, -, hsel, -⟩ := single rule hr .quiet
    refine ⟨statement, hsel, fun o => ?_⟩
    obtain ⟨statement', sel, hsel', -, hleaves⟩ := single rule hr o
    obtain rfl := hsel.unique hsel'
    simp [hleaves]
  · have hpassing : ∀ rule ∈ rules, s.ArePassing now schema.tagTables
        (schema.entityType typeName) (f.under rule) (ids rule) := by
      intro rule hr
      obtain ⟨statement, sel, -, hsel, hleaves⟩ := single rule hr (met rule)
      rw [((hleaves _).1 (hids rule hr)).2]
      refine hsel.at_time fun e he => ?_
      rcases hnow rule hr with heq | hread
      · rw [heq]
      · exact passes_at_any_time (under_opposite hg hr).1 hread he rule _ _
    exact ⟨hdiv.exists_mem_iff hpassing, hdiv.disjoint hpassing⟩

end

/-! ## A store of two posts -/

def coloredPosts : Store :=
  ⟨[⟨"posts", [.free "ID" .integer, .free "post_type" .text], .integer,
      Row.numbered [[.integer 1, .text "post"], [.integer 2, .text "post"]]⟩,
    ⟨"term_relationships", [.free "object_id" .integer, .free "term_taxonomy_id" .integer], .none,
      Row.numbered [[.integer 1, .integer 7]]⟩,
    ⟨"term_taxonomy", [.free "term_taxonomy_id" .integer, .free "term_id" .integer,
      .free "taxonomy" .text], .integer, Row.numbered [[.integer 7, .integer 9, .text "color"]]⟩,
    ⟨"terms", [.free "term_id" .integer, .free "name" .text], .integer,
      Row.numbered [[.integer 9, .text "red"]]⟩,
    idTable "s"]⟩

def postColumn : List Field := [⟨.fixed, "ID", ""⟩]

/-- The two posts by whether they have the color. -/
def colorIds : Rule → List Int
  | .contains => [1]
  | _ => [2]

def colorFilter : Filter := ⟨⟨.tag, "color", ""⟩, .contains, some "red", none⟩

theorem definite_of_rows {s : Store} {t : EntityType} {rows : Table}
    (ht : s.table? t.entityTable = some rows)
    (h : ∀ row ∈ rows.rows, ∀ v ∈ row.cells, v ≠ .real .undefined) : s.Definite t := by
  intro e he column
  have he := (List.mem_filter.1 he).1
  simp only [entries, ht, Table.entries, List.mem_map] at he
  obtain ⟨row, hrow, rfl⟩ := he
  unfold Table.cell
  cases rows.place? column with
  | none => simp [Operand.literal]
  | some place =>
    cases place with
    | number => simp [Row.value]
    | cell i =>
      simp only [Row.value, List.getD_eq_getElem?_getD]
      cases hi : row.cells[i]? with
      | none => simp
      | some v => exact h row hrow v (List.mem_of_getElem? hi)

theorem termsNamed_coloredPosts : coloredPosts.TermsNamed (Schema.tagTables ⟨""⟩) := by
  unfold TermsNamed
  decide

theorem integerIds_coloredPosts : coloredPosts.IntegerIds (Schema.entityType ⟨""⟩ "post") := by
  have h : ∀ e ∈ coloredPosts.entitiesOf (Schema.entityType ⟨""⟩ "post"),
      (e "ID").value = .integer 1 ∨ (e "ID").value = .integer 2 := by decide
  intro e he
  obtain h | h := h e he
  · exact ⟨1, h⟩
  · exact ⟨2, h⟩

theorem definite_coloredPosts : coloredPosts.Definite (Schema.entityType ⟨""⟩ "post") := by
  have hposts : coloredPosts.table? "posts" = some (coloredPosts.tables.head (by decide)) := by
    decide
  exact definite_of_rows hposts (by decide)

theorem plainNames_coloredPosts :
    (Schema.entityType ⟨""⟩ "post").PlainNames (Schema.tagTables ⟨""⟩) ⟨"s", "r"⟩ :=
  ⟨by decide, by decide, by decide, by decide⟩

theorem leaves_coloredPosts {rule : Rule} {p : Fragment} {ids : List Int}
    (hpart : (Schema.entityType ⟨""⟩ "post").fragment (Schema.tagTables ⟨""⟩) 0
      (colorFilter.under rule) = .ok p) (hp : Plain p.render)
    (hruns : coloredPosts.selectionRuns .quiet
      ((Schema.entityType ⟨""⟩ "post").selection [(.tag, p)]) = true)
    (hins : coloredPosts.insertIds? "s" (coloredPosts.selected 0
      ((Schema.entityType ⟨""⟩ "post").selection [(.tag, p)])) =
        some (coloredPosts.replace "s" (idTableOf "s" ids))) :
    coloredPosts.Leaves .quiet ⟨""⟩ "post" postColumn ⟨"s", "r"⟩ (colorFilter.under rule) ids := by
  have hw : isWritten
      (.insertIds "s" ((Schema.entityType ⟨""⟩ "post").selection [(.tag, p)])) = true :=
    isWritten_iff.2 (EntityType.plain_insertIds plainNames_coloredPosts (by decide)
      (List.forall_mem_singleton.2 hp))
  have hparts : (Schema.entityType ⟨""⟩ "post").fragmentsFrom (Schema.tagTables ⟨""⟩) 0
      [colorFilter.under rule] = .ok [(.tag, p)] :=
    EntityType.fragmentsFrom_cons.2 ⟨p, [], hpart, rfl, rfl⟩
  have hscratch : coloredPosts.table? "s" = some (idTable "s") := by decide
  refine ⟨_, _, ⟨_, Plan.compile_eq_ok.2 ⟨List.cons_ne_nil _ _, _, hparts, rfl⟩, rfl⟩,
    (run?_insertIds _ _ _ _).trans ?_, table?_replace_self hscratch (sameName_self _)⟩
  rw [hw, hruns]
  exact hins

theorem opposite_rules_divide_colors :
    (∀ rule ∈ [Rule.contains, .notContains], coloredPosts.Leaves .quiet ⟨""⟩ "post" postColumn
      ⟨"s", "r"⟩ (colorFilter.under rule) (colorIds rule)) ∧
    (∀ i, (∃ rule ∈ [Rule.contains, .notContains], i ∈ colorIds rule) ↔
      ∃ e ∈ coloredPosts.entitiesOf (Schema.entityType ⟨""⟩ "post"), True ∧
        (e (Schema.entityType ⟨""⟩ "post").entityId).value = .integer i) ∧
    [Rule.contains, .notContains].Pairwise fun a b => ∀ i ∈ colorIds a, i ∉ colorIds b := by
  have hfields : postColumn ≠ [] := List.cons_ne_nil _ _
  have hfresh : coloredPosts.table? (JobTables.mk "s" "r").scratch =
      some (idTable (JobTables.mk "s" "r").scratch) := by decide
  have hgroup : ((fun _ => True : Entry → Prop), [Rule.contains, .notContains]) ∈
      colorFilter.opposites 0 := List.mem_cons_self
  have hdivide := opposite_rules_divide hfields hfresh termsNamed_coloredPosts
    integerIds_coloredPosts definite_coloredPosts hgroup
  have hids : ∀ rule ∈ [Rule.contains, .notContains], coloredPosts.Leaves .quiet ⟨""⟩ "post"
      postColumn ⟨"s", "r"⟩ (colorFilter.under rule) (colorIds rule) := by
    simp only [List.forall_mem_cons, List.not_mem_nil, false_implies, implies_true, and_true]
    constructor
    · exact leaves_coloredPosts rfl (EntityType.plain_tagJoin plainNames_coloredPosts 0 (by decide)
        (by decide)) (by decide +kernel) (by decide +kernel)
    · exact leaves_coloredPosts rfl (plain_append.2 ⟨plain_append.2 ⟨plain_append.2
        ⟨Sql.plain_text.2 (by decide), by decide⟩, EntityType.plain_tagNames
          plainNames_coloredPosts 0 (by decide)⟩, by decide⟩) (by decide +kernel)
        (by decide +kernel)
  obtain ⟨hunion, hdisjoint⟩ := hdivide.2.2 (fun _ => .quiet) colorIds
    (fun _ _ => .inl rfl) hids
  exact ⟨hids, hunion, hdisjoint (.inl rfl)⟩

/-- An entity has a value in the column, and none of the rules about it leaves an id when each meets
an occasion of its own. -/
def LeftByNone (s : Store) (typeName : String) (f : Filter) (met : Rule → Occasion)
    (rules : List Rule) : Prop :=
  s.table? "s" = some (idTable "s") ∧ s.TermsNamed (Schema.tagTables ⟨""⟩) ∧
    (∃ e ∈ s.entitiesOf (Schema.entityType ⟨""⟩ typeName), (e f.field.name).value ≠ .null) ∧
    ∀ rule ∈ rules, ∀ ids,
      s.Leaves (met rule) ⟨""⟩ typeName postColumn ⟨"s", "r"⟩ (f.under rule) ids → ids = []

def nullFilter : Filter := ⟨⟨.fixed, "post_type", ""⟩, .contains, some "\x00", none⟩

theorem leftByNone_coloredPosts :
    coloredPosts.LeftByNone "post" nullFilter (fun _ => .quiet) [.contains, .notContains] := by
  refine ⟨by decide, termsNamed_coloredPosts,
    ⟨_, List.mem_filter.2 ⟨List.mem_cons_self, rfl⟩, by decide⟩, ?_⟩
  rintro rule hr ids ⟨statement, s', ⟨plan, hc, hst⟩, hrun, -⟩
  simp only [List.mem_cons, List.not_mem_nil, or_false] at hr
  rcases hr with rfl | rfl
  all_goals
    cases hc
    cases hst
    exact absurd (Option.isSome_of_mem hrun) (by decide +kernel)

theorem eq_nil_of_selected_nil {s s' : Store} {o : Occasion} {name : String} {q : Sql.Selection}
    {ids : List Int}
    (hsel : s.selected o.now q = []) (hfresh : s.table? name = some (idTable name))
    (hrun : s.run? o (.insertIds name q) = some s')
    (hids : s'.table? name = some (idTableOf name ids)) : ids = [] := by
  rw [run?_insertIds, hsel] at hrun
  split at hrun
  · obtain rfl := Option.some.inj hrun
    rw [hfresh] at hids
    exact List.map_eq_nil_iff.1 (congrArg Table.rows (Option.some.inj hids)).symm
  · cases hrun

def idFilter : Filter := ⟨⟨.fixed, "ID", ""⟩, .empty, none, none⟩

theorem leftByNone_wordUser :
    wordUser.LeftByNone "user" idFilter (fun _ => .quiet) [.empty, .notEmpty] := by
  have hnamed : wordUser.TermsNamed (Schema.tagTables ⟨""⟩) := by
    unfold TermsNamed
    decide
  refine ⟨by decide, hnamed, ⟨_, List.mem_filter.2 ⟨List.mem_cons_self, rfl⟩, by decide⟩, ?_⟩
  rintro rule hr ids ⟨statement, s', ⟨plan, hc, hst⟩, hrun, hids⟩
  simp only [List.mem_cons, List.not_mem_nil, or_false] at hr
  rcases hr with rfl | rfl
  · cases hc
    cases hst
    refine eq_nil_of_selected_nil ?_ (by decide) hrun hids
    decide +kernel
  · cases hc
    cases hst
    exact absurd (Option.isSome_of_mem hrun) (by decide +kernel)

def datedPosts : Store :=
  ⟨[⟨"posts", [.free "ID" .integer, .free "post_type" .text, .free "post_date" .text], .integer,
      Row.numbered [[.integer 1, .text "post", .text "2024-01-01 00:00:00"]]⟩,
    idTable "s"]⟩

def clockFilter : Filter := ⟨⟨.fixed, "post_date", ""⟩, .compare .lt, some "now", some .date⟩

/-- The clock stands at the date of the post, and one second later for the rule that asks for what
is not before it. -/
def pastDate : Rule → Occasion
  | .compare .ge => ⟨212570827201000, [], false⟩
  | _ => ⟨212570827200000, [], false⟩

/-- A date that the clock reaches between two exports is not before the first, and before the
second. -/
theorem leftByNone_datedPosts :
    datedPosts.LeftByNone "post" clockFilter pastDate [.compare .lt, .compare .ge] := by
  have hnamed : datedPosts.TermsNamed (Schema.tagTables ⟨""⟩) := by
    unfold TermsNamed
    decide
  refine ⟨by decide, hnamed, ⟨_, List.mem_filter.2 ⟨List.mem_cons_self, rfl⟩, by decide⟩, ?_⟩
  rintro rule hr ids ⟨statement, s', ⟨plan, hc, hst⟩, hrun, hids⟩
  simp only [List.mem_cons, List.not_mem_nil, or_false] at hr
  rcases hr with rfl | rfl
  all_goals
    cases hc
    cases hst
    refine eq_nil_of_selected_nil ?_ (by decide) hrun hids
    decide +kernel

/-- Neither of two opposite rules leaves an entity with a value. -/
theorem values_left_by_neither :
    coloredPosts.LeftByNone "post" nullFilter (fun _ => .quiet) [.contains, .notContains] ∧
      wordUser.LeftByNone "user" idFilter (fun _ => .quiet) [.empty, .notEmpty] ∧
      datedPosts.LeftByNone "post" clockFilter pastDate [.compare .lt, .compare .ge] :=
  ⟨leftByNone_coloredPosts, leftByNone_wordUser, leftByNone_datedPosts⟩

end Store

end SheetExport
