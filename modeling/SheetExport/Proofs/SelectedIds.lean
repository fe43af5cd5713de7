import SheetExport.Proofs.IdTables
import SheetExport.Proofs.NeededColumns
import SheetExport.Proofs.SelectedRows

/-!
# The ids that an export selects

The second statement of a plan fills the scratch table with the ids of the entities that pass every
filter, whatever the order of the filters and however often one is repeated. It runs exactly when
the columns it names are there and it stays within the limits of a query.
-/

namespace SheetExport

open Sql (Statement Selection)

/-! ## Compiled plans -/

namespace Plan

theorem compile_eq_ok {schema : Schema} {typeName : String} {fields : List Field}
    {filters : List Filter} {tables : JobTables} {plan : Plan} :
    compile schema typeName fields filters tables = .ok plan ↔ fields ≠ [] ∧
      ∃ parts, (schema.entityType typeName).fragmentsFrom schema.tagTables 0 filters = .ok parts ∧
        plan = ofSelection (schema.entityType typeName) tables
          ((schema.entityType typeName).selection parts)
          ((schema.entityType typeName).projection schema.tagTables tables fields) := by
  unfold compile
  cases fields with
  | nil => simp
  | cons field rest =>
    simp only [List.isEmpty_cons, Bool.false_eq_true, if_false, ne_eq, reduceCtorEq,
      not_false_eq_true, true_and]
    cases (schema.entityType typeName).fragmentsFrom schema.tagTables 0 filters with
    | error fault => simp [bind, Except.bind]
    | ok parts => simp [bind, Except.bind, pure, Except.pure, eq_comm]

theorem dataStatements_ofSelection (t : EntityType) (tables : JobTables) (q : Selection)
    (p : Sql.Projection) :
    (ofSelection t tables q p).dataStatements =
      [.createIds tables.scratch, .insertIds tables.scratch q, .createResult tables.result p,
        .dropTable tables.scratch] := rfl

end Plan

/-! ## Joins -/

/-- Whether a filter brings one more table into the selection. -/
def Filter.joins (f : Filter) : Bool :=
  match f.field.kind, f.rule with
  | .fixed, _ => false
  | .custom, _ => true
  | .tag, .contains | .tag, .notEmpty => true
  | .tag, _ => false

namespace EntityType

variable {t : EntityType} {tags : TagTables}

theorem isSome_join?_fragment {i : Nat} {f : Filter} {p : Fragment}
    (h : t.fragment tags i f = .ok p) : p.join?.isSome = f.joins := by
  unfold fragment at h
  unfold Filter.joins
  cases hk : f.field.kind with
  | fixed =>
    simp only [hk, Except.ok.injEq] at h
    subst h
    rfl
  | custom =>
    simp only [hk, Except.ok.injEq] at h
    subst h
    rfl
  | tag =>
    simp only [hk] at h
    cases hr : f.rule with
    | compare c => simp [hr] at h
    | _ =>
      simp only [hr, Except.ok.injEq] at h
      subst h
      rfl

theorem length_joinsOf (parts : List (FieldKind × Fragment)) :
    (joinsOf false parts ++ joinsOf true parts).length =
      parts.countP fun part => part.2.join?.isSome := by
  induction parts with
  | nil => rfl
  | cons part rest ih =>
    obtain ⟨kind, p⟩ := part
    rw [List.length_append] at ih ⊢
    rw [List.countP_cons, ← ih]
    unfold joinsOf
    by_cases hk : kind = .tag
    · cases p with
      | join j => simp [hk, Fragment.join?]; omega
      | clause c => simp [hk, Fragment.join?]
    · cases p with
      | join j => simp [hk, Fragment.join?]; omega
      | clause c => simp [hk, Fragment.join?]

theorem countP_joins {filters : List Filter} : ∀ {n : Nat} {parts : List (FieldKind × Fragment)},
    t.fragmentsFrom tags n filters = .ok parts →
    (parts.countP fun part => part.2.join?.isSome) = filters.countP Filter.joins := by
  induction filters with
  | nil =>
    intro n parts h
    simp only [fragmentsFrom, Except.ok.injEq] at h
    subst h
    rfl
  | cons f rest ih =>
    intro n parts h
    obtain ⟨p, others, hp, hrest, rfl⟩ := fragmentsFrom_cons.1 h
    rw [List.countP_cons, List.countP_cons, ih hrest, isSome_join?_fragment hp]

theorem length_joins_selection {filters : List Filter} {parts : List (FieldKind × Fragment)}
    (h : t.fragmentsFrom tags 0 filters = .ok parts) :
    (t.selection parts).joins.length = filters.countP Filter.joins :=
  (length_joinsOf parts).trans (countP_joins h)

end EntityType

/-! ## Ids -/

namespace Store

/-- The ids of the entities of a type are integers, as the key columns of a site hold them. -/
def IntegerIds (s : Store) (t : EntityType) : Prop :=
  ∀ e ∈ s.entitiesOf t, ∃ i, (e t.entityId).value = .integer i

/-- What a selection asks of the engine besides its columns. -/
def Admits (o : Occasion) (table : String) (q : Selection) : Prop :=
  isWritten (.insertIds table q) = true ∧ selectionFits q = true ∧ meetsLongPattern o q = false

theorem selected_eq (s : Store) (now : Int) (q : Selection) :
    s.selected now q =
      distinct ((s.selectedScopes now q).map fun scope => (operand scope q.column).value) := rfl

theorem run?_insertIds (s : Store) (o : Occasion) (table : String) (q : Selection) :
    s.run? o (.insertIds table q) =
      if isWritten (.insertIds table q) && s.selectionRuns o q then
        s.insertIds? table (s.selected o.now q)
      else none := by
  unfold run?
  cases isWritten (.insertIds table q) <;> simp

section

variable {s : Store} {o : Occasion} {now : Int} {t : EntityType} {tags : TagTables}
  {filters : List Filter} {parts : List (FieldKind × Fragment)}

theorem selectionRuns_iff (hl : Unnumbered t.entityTable)
    (hp : t.fragmentsFrom tags 0 filters = .ok parts) (table : String) :
    (isWritten (.insertIds table (t.selection parts)) && s.selectionRuns o (t.selection parts)) =
        true ↔
      s.offersAll (t.neededColumns tags filters) ∧ Admits o table (t.selection parts) := by
  simp only [selectionRuns, Bool.and_eq_true, Bool.not_eq_true', Admits,
    selectionResolves_iff_offersAll hl hp]
  constructor
  · rintro ⟨hw, ⟨hc, hf⟩, hlong⟩
    exact ⟨hc, hw, hf, hlong⟩
  · rintro ⟨hc, hw, hf, hlong⟩
    exact ⟨hw, ⟨hc, hf⟩, hlong⟩

/-- The values that a selection yields are the ids of the passing entities, each once. -/
theorem selected_ids (hn : ∀ f ∈ filters, f.AsksAbsence → s.TermsNamed tags)
    (hl : Unnumbered t.entityTable) (hid : s.IntegerIds t)
    (hp : t.fragmentsFrom tags 0 filters = .ok parts) (now : Int) :
    ∃ ids : List Int, s.selected now (t.selection parts) = ids.map .integer ∧ ids.Nodup ∧
      ∀ i, i ∈ ids ↔ ∃ e ∈ s.entitiesOf t, (e t.entityId).value = .integer i ∧
        ∀ f ∈ filters, s.passes now tags t e f = true := by
  have mem := mem_selectedScopes hn hl hp now
  obtain ⟨ids, he, hnodup, hm⟩ := distinct_integers fun v hv => by
    obtain ⟨e, hes, -, rfl⟩ := (mem v).1 hv
    exact hid e hes
  refine ⟨ids, (selected_eq s now _).trans he, hnodup, fun i => ?_⟩
  rw [hm, mem]
  constructor
  · rintro ⟨e, hes, hpass, hv⟩
    exact ⟨e, hes, hv, hpass⟩
  · rintro ⟨e, hes, hv, hpass⟩
    exact ⟨e, hes, hpass, hv⟩

end

/-- The second statement of a plan runs exactly when its columns are there and the engine admits
it. Then the scratch table holds the ids of the entities that pass every filter and no others, each
once. -/
theorem insertIds_selects {schema : Schema} {typeName : String} {fields : List Field}
    {filters : List Filter} {tables : JobTables} {plan : Plan}
    (hc : Plan.compile schema typeName fields filters tables = .ok plan) {s : Store}
    (hfresh : s.table? tables.scratch = some (idTable tables.scratch))
    (hn : s.TermsNamed schema.tagTables) (hid : s.IntegerIds (schema.entityType typeName))
    (o : Occasion) :
    ∃ q p, plan.dataStatements = [.createIds tables.scratch, .insertIds tables.scratch q,
        .createResult tables.result p, .dropTable tables.scratch] ∧
      q.joins.length = filters.countP Filter.joins ∧
      ((s.run? o (.insertIds tables.scratch q)).isSome = true ↔
        s.offersAll ((schema.entityType typeName).neededColumns schema.tagTables filters) ∧
          Admits o tables.scratch q) ∧
      ∀ s', s.run? o (.insertIds tables.scratch q) = some s' → ∃ ids : List Int,
        s'.table? tables.scratch = some (idTableOf tables.scratch ids) ∧ ids.Pairwise (· < ·) ∧
        ∀ i, i ∈ ids ↔ ∃ e ∈ s.entitiesOf (schema.entityType typeName),
          (e (schema.entityType typeName).entityId).value = .integer i ∧
            ∀ f ∈ filters,
              s.passes o.now schema.tagTables (schema.entityType typeName) e f = true := by
  obtain ⟨-, parts, hp, rfl⟩ := Plan.compile_eq_ok.1 hc
  have hl := unnumbered_entityTable schema typeName
  obtain ⟨sel, hsel, hnodup, hmem⟩ := selected_ids (fun _ _ _ => hn) hl hid hp o.now
  obtain ⟨s₁, ids, hins, htab, hsort, hids, -⟩ :=
    insertIds?_integers sel hfresh List.Pairwise.nil hnodup fun _ _ => List.not_mem_nil
  have hrun := s.run?_insertIds o tables.scratch ((schema.entityType typeName).selection parts)
  rw [hsel, hins] at hrun
  refine ⟨_, _, Plan.dataStatements_ofSelection .., EntityType.length_joins_selection hp, ?_, ?_⟩
  · rw [hrun, ← selectionRuns_iff hl hp]
    split <;> simp_all
  · intro s' hs'
    rw [hrun] at hs'
    split at hs'
    · obtain rfl := Option.some.inj hs'
      refine ⟨ids, htab, hsort, fun i => ?_⟩
      rw [hids, ← hmem]
      simp
    · exact absurd hs' (by simp)

/-! ## A store of two users -/

def twoUsers : Store :=
  ⟨[⟨"users", [.free "ID" .integer], .integer, Row.numbered [[.integer 1], [.integer 2]]⟩,
    ⟨"usermeta", [.free "umeta_id" .integer, .free "user_id" .integer, .free "meta_key" .text,
      .free "meta_value" .text], .integer,
      Row.numbered [[.integer 1, .integer 1, .text "k", .text "v"],
        [.integer 2, .integer 1, .text "k", .text "v"],
        [.integer 3, .integer 2, .text "k", .text "w"]]⟩,
    idTable "s"]⟩

def userColumn : List Field := [⟨.fixed, "ID", ""⟩]

def keyFilter : Filter := ⟨⟨.custom, "k", ""⟩, .compare .eq, some "v", none⟩

theorem termsNamed_twoUsers : twoUsers.TermsNamed (Schema.tagTables ⟨""⟩) := by
  unfold TermsNamed
  decide

theorem integerIds_twoUsers : twoUsers.IntegerIds (Schema.entityType ⟨""⟩ "user") := by
  have h : ∀ e ∈ twoUsers.entitiesOf (Schema.entityType ⟨""⟩ "user"),
      (e "ID").value = .integer 1 ∨ (e "ID").value = .integer 2 := by decide
  intro e he
  obtain h | h := h e he
  · exact ⟨1, h⟩
  · exact ⟨2, h⟩

theorem insertIds_selects_twoUsers : ∃ plan q s',
    Plan.compile ⟨""⟩ "user" userColumn [keyFilter] ⟨"s", "r"⟩ = .ok plan ∧
      plan.dataStatements[1]? = some (.insertIds "s" q) ∧
      twoUsers.run? .quiet (.insertIds "s" q) = some s' ∧ ∃ ids : List Int,
        s'.table? "s" = some (idTableOf "s" ids) ∧ ids.Pairwise (· < ·) ∧
        ∀ i, i ∈ ids ↔ ∃ e ∈ twoUsers.entitiesOf (Schema.entityType ⟨""⟩ "user"),
          (e (Schema.entityType ⟨""⟩ "user").entityId).value = .integer i ∧
            ∀ f ∈ [keyFilter], twoUsers.passes 0 (Schema.tagTables ⟨""⟩)
              (Schema.entityType ⟨""⟩ "user") e f = true := by
  have hc : Plan.compile ⟨""⟩ "user" userColumn [keyFilter] ⟨"s", "r"⟩ = .ok _ := rfl
  obtain ⟨q, p, hst, -, -, hsel⟩ :=
    insertIds_selects hc (s := twoUsers) (by decide) termsNamed_twoUsers integerIds_twoUsers
      .quiet
  have hq : q = (Schema.entityType ⟨""⟩ "user").selection
      [(.custom, .join ((Schema.entityType ⟨""⟩ "user").attributeJoin 0 keyFilter))] := by
    cases hst
    rfl
  have hrun : (twoUsers.run? .quiet (.insertIds "s" q)).isSome = true := by
    rw [hq]
    decide +kernel
  obtain ⟨s', hs'⟩ := Option.isSome_iff_exists.1 hrun
  refine ⟨_, q, s', hc, ?_, hs', hsel s' hs'⟩
  rw [hst]
  rfl

/-- A user passes the filters, and the statement that would select the user does not run. -/
def LeavesOutUser (s : Store) (filters : List Filter) : Prop :=
  s.table? "s" = some (idTable "s") ∧ s.TermsNamed (Schema.tagTables ⟨""⟩) ∧
    (∃ e ∈ s.entitiesOf (Schema.entityType ⟨""⟩ "user"), ∀ f ∈ filters,
      s.passes 0 (Schema.tagTables ⟨""⟩) (Schema.entityType ⟨""⟩ "user") e f = true) ∧
    ∃ plan q, Plan.compile ⟨""⟩ "user" userColumn filters ⟨"s", "r"⟩ = .ok plan ∧
      plan.dataStatements[1]? = some (.insertIds "s" q) ∧ s.run? .quiet (.insertIds "s" q) = none

/-- One filter written sixty-four times is one table too many. -/
theorem leavesOutUser_twoUsers : twoUsers.LeavesOutUser (List.replicate 64 keyFilter) := by
  obtain ⟨parts, hp⟩ : ∃ parts, (Schema.entityType ⟨""⟩ "user").fragmentsFrom
    (Schema.tagTables ⟨""⟩) 0 (List.replicate 64 keyFilter) = .ok parts := ⟨_, rfl⟩
  refine ⟨by decide, termsNamed_twoUsers, ⟨_, List.mem_filter.2 ⟨List.mem_cons_self, rfl⟩,
    fun f hf => ?_⟩, _, _, Plan.compile_eq_ok.2 ⟨List.cons_ne_nil _ _, parts, hp, rfl⟩, rfl, ?_⟩
  · rw [List.eq_of_mem_replicate hf]
    decide
  · have hjoins := EntityType.length_joins_selection hp
    rw [List.countP_replicate, if_pos (show keyFilter.joins = true from rfl)] at hjoins
    have hfits : selectionFits ((Schema.entityType ⟨""⟩ "user").selection parts) = false := by
      simp [selectionFits, hjoins, joinLimit]
    simp [run?_insertIds, selectionRuns, hfits]

/-- One user, whose id is no number. -/
def wordUser : Store :=
  ⟨[⟨"users", [.free "ID" .blob], .none, Row.numbered [[.text "abc"]]⟩, idTable "s"]⟩

theorem leavesOutUser_wordUser : wordUser.LeavesOutUser [] := by
  have hnamed : wordUser.TermsNamed (Schema.tagTables ⟨""⟩) := by
    unfold TermsNamed
    decide
  have huser : wordUser.entitiesOf (Schema.entityType ⟨""⟩ "user") ≠ [] := by decide
  obtain ⟨e, he⟩ := List.exists_mem_of_ne_nil _ huser
  exact ⟨by decide, hnamed, ⟨e, he, List.forall_mem_nil _⟩, _, _, rfl, rfl, by decide +kernel⟩

/-- Sixty-four joins are too many for the engine, and a word is no id for the scratch table. -/
theorem passing_users_left_out :
    twoUsers.LeavesOutUser (List.replicate 64 keyFilter) ∧ wordUser.LeavesOutUser [] :=
  ⟨leavesOutUser_twoUsers, leavesOutUser_wordUser⟩

end Store

end SheetExport
