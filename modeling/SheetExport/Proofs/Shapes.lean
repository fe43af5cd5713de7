import Mathlib.Data.List.Forall2
import SheetExport.Proofs.Payloads

/-!
# Requests of one shape give statements of one shape

What a request names and compares with only fills tokens. The statements of two requests that agree
in their kinds, rules and casts are the same tokens in the same order, up to what names, texts and
numbers hold. So no text of a request begins or ends a token, a clause or a statement.
-/

namespace SheetExport

open Sql (Token Statement)

/-! ## Plans hold numbers as numbers -/

namespace Sql

theorem isLexical_ofFilter (f : Filter) : (Condition.ofFilter f).IsLexical := by
  unfold Condition.ofFilter Condition.ofRule
  split
  · trivial
  · trivial
  · trivial
  · trivial
  · split
    · trivial
    · exact isNumeral_literal _
    · trivial
    · trivial

theorem isLexical_isText (r : Reference) (v : String) : (Test.isText r v).IsLexical := trivial

theorem isLexical_equal (a b : Reference) : (Test.equal a b).IsLexical := trivial

end Sql

def Fragment.IsLexical : Fragment → Prop
  | join j => ∀ c ∈ j.clauses, c.IsLexical
  | clause c => c.IsLexical

namespace EntityType

variable {t : EntityType} {tags : TagTables} {tables : JobTables}

theorem isLexical_tagNames (i : Nat) (taxonomy : String) :
    (t.tagNames tags i taxonomy).IsLexical := by
  constructor <;> simp [tagNames, Sql.isLexical_equal, Sql.isLexical_isText]

theorem isLexical_taxonomyLookup (i : Nat) (taxonomy : String) (term : Option String) :
    (taxonomyLookup tags i taxonomy term).IsLexical := by
  constructor
  · simp [taxonomyLookup, Sql.isLexical_equal]
  · cases term <;> simp [taxonomyLookup, Sql.isLexical_isText]

theorem isLexical_scratchIds : (scratchIds tables).IsLexical := by
  constructor <;> simp [scratchIds]

theorem isLexical_tagJoin (i : Nat) (taxonomy : String) (term : Option String) :
    ∀ c ∈ (t.tagJoin tags i taxonomy term).clauses, c.IsLexical := by
  simp only [tagJoin, List.forall_mem_cons, List.not_mem_nil, false_implies, implies_true, and_true]
  exact ⟨trivial, isLexical_taxonomyLookup i taxonomy term⟩

theorem isLexical_fragment {i : Nat} {f : Filter} {p : Fragment}
    (h : t.fragment tags i f = .ok p) : Fragment.IsLexical p := by
  unfold fragment at h
  cases hk : f.field.kind with
  | fixed =>
    simp only [hk, Except.ok.injEq] at h
    subst h
    exact Sql.isLexical_ofFilter f
  | custom =>
    simp only [hk, Except.ok.injEq] at h
    subst h
    simp only [Fragment.IsLexical, attributeJoin, List.forall_mem_cons, List.not_mem_nil,
      false_implies, implies_true, and_true]
    exact ⟨trivial, trivial, Sql.isLexical_ofFilter f⟩
  | tag =>
    simp only [hk] at h
    cases hr : f.rule with
    | compare c => simp [hr] at h
    | contains =>
      simp only [hr, Except.ok.injEq] at h
      subst h
      exact isLexical_tagJoin i _ _
    | notEmpty =>
      simp only [hr, Except.ok.injEq] at h
      subst h
      exact isLexical_tagJoin i _ _
    | notContains =>
      simp only [hr, Except.ok.injEq] at h
      subst h
      exact isLexical_tagNames i _
    | empty =>
      simp only [hr, Except.ok.injEq] at h
      subst h
      exact isLexical_tagNames i _

theorem isLexical_selection {filters : List Filter} {parts : List (FieldKind × Fragment)}
    (hp : t.fragmentsFrom tags 0 filters = .ok parts) : (t.selection parts).IsLexical := by
  have part {kind : FieldKind} {p : Fragment} (hm : (kind, p) ∈ parts) : Fragment.IsLexical p := by
    obtain ⟨i, f, -, hf⟩ := exists_filter hp hm
    exact isLexical_fragment hf
  constructor
  · intro j hj
    obtain ⟨kind, hk⟩ := mem_joins.1 hj
    exact part hk
  · intro c hc
    rcases List.mem_append.1 hc with hc | hc
    · obtain ⟨kind, hk⟩ := mem_clauses.1 hc
      exact part hk
    · unfold subtypeClause at hc
      cases hs : t.subtype with
      | none => simp [hs] at hc
      | some v =>
        simp only [hs, Option.map_some, Option.toList_some, List.mem_singleton] at hc
        subst hc
        trivial

theorem isLexical_supplement {i : Nat} {f : Field} {k : Sql.Supplement}
    (h : t.supplement? tags tables i f = some k) :
    k.gathering.IsLexical ∧ k.test.IsLexical := by
  unfold supplement? at h
  cases hk : f.kind with
  | fixed => simp [hk] at h
  | custom =>
    simp only [hk, Option.some.injEq] at h
    subst h
    refine ⟨⟨by simp [attributeSupplement], ?_⟩, trivial⟩
    simp only [attributeSupplement, List.forall_mem_cons, List.not_mem_nil, false_implies,
      implies_true, and_true]
    exact ⟨trivial, isLexical_scratchIds⟩
  | tag =>
    simp only [hk, Option.some.injEq] at h
    subst h
    refine ⟨⟨?_, ?_⟩, trivial⟩
    · simp [tagSupplement, Sql.isLexical_equal, Sql.isLexical_isText]
    · simp only [tagSupplement, List.forall_mem_cons, List.not_mem_nil, false_implies,
        implies_true, and_true]
      exact isLexical_scratchIds

theorem isLexical_projection (fields : List Field) :
    (t.projection tags tables fields).IsLexical := by
  constructor
  · intro k hk
    obtain ⟨⟨f, i⟩, -, h⟩ := List.mem_filterMap.1 hk
    exact isLexical_supplement h
  · simp only [projection, List.forall_mem_cons, List.not_mem_nil, false_implies, implies_true,
      and_true]
    exact isLexical_scratchIds

end EntityType

theorem Plan.isLexical_statements {schema : Schema} {typeName : String} {fields : List Field}
    {filters : List Filter} {tables : JobTables} {plan : Plan}
    (hc : Plan.compile schema typeName fields filters tables = .ok plan) (job : Uuid) :
    ∀ st ∈ plan.statements job, st.IsLexical := by
  obtain ⟨-, parts, hp, rfl⟩ := Plan.compile_eq_ok.1 hc
  simp only [Plan.statements, Plan.ofSelection, List.map_cons, List.map_nil, List.forall_mem_cons,
    List.not_mem_nil, false_implies, implies_true, and_true]
  exact ⟨trivial, trivial, trivial, EntityType.isLexical_selection hp, trivial,
    EntityType.isLexical_projection fields, trivial, trivial, trivial⟩

/-! ## Token lists of one shape -/

namespace Sql

/-- The same tokens up to what names, texts and numbers hold. -/
def Alike (a b : List Token) : Prop := a.map Token.shape = b.map Token.shape

theorem Alike.refl (a : List Token) : Alike a a := rfl

theorem Alike.append {a b c d : List Token} (h : Alike a b) (h' : Alike c d) :
    Alike (a ++ c) (b ++ d) := by
  unfold Alike at *
  rw [List.map_append, List.map_append, h, h']

theorem alike_joined {s : String} {a b : List (List Token)} (h : List.Forall₂ Alike a b) :
    Alike (joinedTokens s a) (joinedTokens s b) := by
  induction h with
  | nil => exact Alike.refl _
  | @cons x y xs ys hx hr ih =>
    unfold joinedTokens at *
    cases hr with
    | nil => simpa [List.intercalate] using hx
    | cons hy hr =>
      simp only [List.intercalate, List.intersperse, List.flatten_cons] at ih ⊢
      exact hx.append ((Alike.refl _).append ih)

theorem alike_each {α β : Type} {s : String} {f : α → List Token} {g : β → List Token}
    {a : List α} {b : List β} (h : List.Forall₂ (fun x y => Alike (f x) (g y)) a b) :
    Alike (a.flatMap fun x => lex s ++ f x) (b.flatMap fun y => lex s ++ g y) := by
  induction h with
  | nil => exact Alike.refl _
  | cons hx _ ih =>
    rw [List.flatMap_cons, List.flatMap_cons]
    exact ((Alike.refl _).append hx).append ih

theorem alike_reference (a b c d : String) :
    Alike (Reference.of a b).tokens (Reference.of c d).tokens := rfl

theorem alike_whereTokens {a b : List Clause}
    (h : List.Forall₂ (fun x y => Alike x.tokens y.tokens) a b) :
    Alike (whereTokens a) (whereTokens b) := by
  unfold whereTokens
  cases h with
  | nil => exact Alike.refl _
  | cons hx hr =>
    simp only [List.isEmpty_cons, Bool.false_eq_true, if_false, List.map_cons]
    exact (Alike.refl _).append (alike_joined (.cons hx (List.forall₂_map_left_iff.2
      (List.forall₂_map_right_iff.2 hr))))

theorem alike_gathering {g h : Gathering} (hk : Alike g.key.tokens h.key.tokens)
    (hl : g.keyLabel.isSome = h.keyLabel.isSome)
    (hg : Alike g.gathered.tokens h.gathered.tokens) (hs : Alike g.source.tokens h.source.tokens)
    (links : List.Forall₂ (fun k l => Alike k.tokens l.tokens) g.links h.links)
    (clauses : List.Forall₂ (fun c d => Alike c.tokens d.tokens) g.clauses h.clauses) :
    Alike g.tokens h.tokens := by
  have separator : Alike [.text g.separator] [.text h.separator] := rfl
  have label : Alike [.name g.gatheredLabel] [.name h.gatheredLabel] := rfl
  have conditions := alike_joined (s := " AND ") (List.forall₂_map_left_iff.2
    (List.forall₂_map_right_iff.2 clauses))
  have lines := alike_each (s := "\n    ") links
  have fixed (s : String) : Alike (lex s) (lex s) := Alike.refl _
  have rest {a b : List Token} (hab : Alike a b) :=
    (((((((((((((((fixed "\n    SELECT ").append hab).append (fixed ", group_concat(")).append
      hg).append (fixed ", ")).append separator).append (fixed ") AS ")).append label).append
      (fixed " FROM ")).append hs).append lines).append
      (fixed "\n    WHERE ")).append conditions).append
      (fixed "\n    GROUP BY ")).append hk).append (fixed "\n")
  unfold Gathering.tokens
  cases hgl : g.keyLabel with
  | none =>
    cases hhl : h.keyLabel with
    | none => exact rest hk
    | some l => simp [hgl, hhl] at hl
  | some k =>
    cases hhl : h.keyLabel with
    | none => simp [hgl, hhl] at hl
    | some l =>
      have name : Alike [.name k] [.name l] := rfl
      exact rest ((hk.append (fixed " AS ")).append name)

theorem alike_supplement {k l : Supplement} (hg : Alike k.gathering.tokens l.gathering.tokens)
    (ht : Alike k.test.tokens l.test.tokens) : Alike k.tokens l.tokens := by
  have name : Alike [.name k.label] [.name l.label] := rfl
  exact (((((Alike.refl _).append hg).append (Alike.refl _)).append name).append
    (Alike.refl _)).append ht

theorem alike_ofFilter {f g : Filter} (hr : f.rule = g.rule) (hc : f.cast = g.cast)
    {a b : List Token} (h : Alike a b) :
    Alike ((Condition.ofFilter f).tokens a) ((Condition.ofFilter g).tokens b) := by
  unfold Condition.ofFilter Condition.ofRule
  rw [hr, hc]
  cases g.rule with
  | contains => exact (h.append (Alike.refl _)).append rfl
  | notContains => exact (h.append (Alike.refl _)).append rfl
  | empty =>
    exact ((((Alike.refl _).append h).append (Alike.refl _)).append h).append (Alike.refl _)
  | notEmpty =>
    exact ((((Alike.refl _).append h).append (Alike.refl _)).append h).append (Alike.refl _)
  | compare c =>
    cases g.cast with
    | none => exact (h.append (Alike.refl _)).append rfl
    | some cast =>
      cases cast with
      | alpha => exact (h.append (Alike.refl _)).append rfl
      | date =>
        have hv : Alike [.text f.operand] [.text g.operand] := rfl
        exact ((((Alike.refl _).append h).append (Alike.refl _)).append hv).append (Alike.refl _)
      | number => exact (((Alike.refl _).append h).append (Alike.refl _)).append rfl

end Sql

/-! ## Requests of one shape -/

/-- What the statements of a plan depend on in a filter besides its texts. -/
def Filter.form (f : Filter) : FieldKind × Rule × Option Cast := (f.field.kind, f.rule, f.cast)

def Fragment.Alike : Fragment → Fragment → Prop
  | join j, join k => Sql.Alike j.tokens k.tokens
  | clause c, clause d => Sql.Alike c.tokens d.tokens
  | join _, clause _ | clause _, join _ => False

theorem isSome_subtype (schema : Schema) (typeName : String) :
    (schema.entityType typeName).subtype.isSome =
      decide ((schema.entityType typeName).kind = .postLike) := by
  unfold Schema.entityType
  split
  · rfl
  · split
    · rfl
    · split <;> rfl

namespace EntityType

variable {t t' : EntityType} {tags tags' : TagTables} {tables tables' : JobTables}

theorem alike_tagNames (i i' : Nat) (a b : String) :
    Sql.Alike (t.tagNames tags i a).tokens (t'.tagNames tags' i' b).tokens := by
  rfl

theorem alike_tagJoin (i i' : Nat) (a b : String) {v w : Option String}
    (h : v.isSome = w.isSome) :
    Sql.Alike (t.tagJoin tags i a v).tokens (t'.tagJoin tags' i' b w).tokens := by
  cases v with
  | none =>
    cases w with
    | none => rfl
    | some w => exact absurd h Bool.false_ne_true
  | some v =>
    cases w with
    | none => exact absurd h.symm Bool.false_ne_true
    | some w => rfl

theorem alike_attributeJoin (i i' : Nat) {f g : Filter} (hr : f.rule = g.rule)
    (hc : f.cast = g.cast) :
    Sql.Alike (t.attributeJoin i f).tokens (t'.attributeJoin i' g).tokens := by
  have held := Sql.alike_ofFilter hr hc
    (Sql.alike_reference (numbered "m" i) "meta_value" (numbered "m" i') "meta_value")
  have clauses : Sql.Alike
      (Sql.joinedTokens " AND\n    " ((t.attributeJoin i f).clauses.map Sql.Clause.tokens))
      (Sql.joinedTokens " AND\n    " ((t'.attributeJoin i' g).clauses.map Sql.Clause.tokens)) :=
    Sql.alike_joined (.cons rfl (.cons rfl (.cons held .nil)))
  have source : Sql.Alike (t.attributeJoin i f).source.tokens
    (t'.attributeJoin i' g).source.tokens := rfl
  exact ((((Sql.Alike.refl _).append source).append (Sql.Alike.refl _)).append clauses).append
    (Sql.Alike.refl _)

theorem alike_fragment {i i' : Nat} {f g : Filter} (hf : f.form = g.form) {p q : Fragment}
    (hp : t.fragment tags i f = .ok p) (hq : t'.fragment tags' i' g = .ok q) : p.Alike q := by
  simp only [Filter.form, Prod.mk.injEq] at hf
  obtain ⟨hk, hr, hc⟩ := hf
  unfold fragment at hp hq
  rw [← hk, ← hr] at hq
  cases hkind : f.field.kind with
  | fixed =>
    simp only [hkind, Except.ok.injEq] at hp hq
    subst hp hq
    exact Sql.alike_ofFilter hr hc (Sql.alike_reference ..)
  | custom =>
    simp only [hkind, Except.ok.injEq] at hp hq
    subst hp hq
    exact alike_attributeJoin i i' hr hc
  | tag =>
    simp only [hkind] at hp hq
    cases hrule : f.rule with
    | compare c => simp [hrule] at hp
    | contains =>
      simp only [hrule, Except.ok.injEq] at hp hq
      subst hp hq
      exact alike_tagJoin i i' _ _ rfl
    | notEmpty =>
      simp only [hrule, Except.ok.injEq] at hp hq
      subst hp hq
      exact alike_tagJoin i i' _ _ rfl
    | notContains =>
      simp only [hrule, Except.ok.injEq] at hp hq
      subst hp hq
      have value : Sql.Alike [.text f.operand] [.text g.operand] := rfl
      exact ((value.append (Sql.Alike.refl _)).append (alike_tagNames i i' _ _)).append
        (Sql.Alike.refl _)
    | empty =>
      simp only [hrule, Except.ok.injEq] at hp hq
      subst hp hq
      exact ((Sql.Alike.refl _).append (alike_tagNames i i' _ _)).append (Sql.Alike.refl _)

/-! ## Selections -/

theorem alike_fragmentsFrom {fs gs : List Filter} (h : fs.map Filter.form = gs.map Filter.form) :
    ∀ {n n' : Nat} {parts parts' : List (FieldKind × Fragment)},
    t.fragmentsFrom tags n fs = .ok parts → t'.fragmentsFrom tags' n' gs = .ok parts' →
    List.Forall₂ (fun p q => p.1 = q.1 ∧ p.2.Alike q.2) parts parts' := by
  induction fs generalizing gs with
  | nil =>
    intro n n' parts parts' hp hq
    obtain rfl := List.map_eq_nil_iff.1 h.symm
    simp only [fragmentsFrom, Except.ok.injEq] at hp hq
    subst hp hq
    exact .nil
  | cons f fs ih =>
    intro n n' parts parts' hp hq
    obtain ⟨g, gs, rfl, hfg, hrest⟩ := List.map_eq_cons_iff.1 h.symm
    obtain ⟨p, ps, hfp, hps, rfl⟩ := fragmentsFrom_cons.1 hp
    obtain ⟨q, qs, hgq, hqs, rfl⟩ := fragmentsFrom_cons.1 hq
    exact .cons ⟨(congrArg Prod.fst hfg).symm, alike_fragment hfg.symm hfp hgq⟩
      (ih hrest.symm hps hqs)

theorem alike_joinsOf (tagged : Bool) {parts parts' : List (FieldKind × Fragment)}
    (h : List.Forall₂ (fun p q => p.1 = q.1 ∧ p.2.Alike q.2) parts parts') :
    List.Forall₂ (fun j k => Sql.Alike j.tokens k.tokens) (joinsOf tagged parts)
      (joinsOf tagged parts') := by
  unfold joinsOf
  induction h with
  | nil => exact .nil
  | @cons x y _ _ hxy _ ih =>
    obtain ⟨kind, p⟩ := x
    obtain ⟨kind', q⟩ := y
    obtain ⟨rfl, hpq⟩ := hxy
    rw [List.filterMap_cons, List.filterMap_cons]
    by_cases hk : (kind = .tag) = (tagged = true)
    · simp only [if_pos hk]
      cases p with
      | join j =>
        cases q with
        | join k => exact .cons hpq ih
        | clause d => exact hpq.elim
      | clause c =>
        cases q with
        | join k => exact hpq.elim
        | clause d => exact ih
    · simp only [if_neg hk]
      exact ih

theorem alike_clausesOf (tagged : Bool) {parts parts' : List (FieldKind × Fragment)}
    (h : List.Forall₂ (fun p q => p.1 = q.1 ∧ p.2.Alike q.2) parts parts') :
    List.Forall₂ (fun c d => Sql.Alike c.tokens d.tokens) (clausesOf tagged parts)
      (clausesOf tagged parts') := by
  unfold clausesOf
  induction h with
  | nil => exact .nil
  | @cons x y _ _ hxy _ ih =>
    obtain ⟨kind, p⟩ := x
    obtain ⟨kind', q⟩ := y
    obtain ⟨rfl, hpq⟩ := hxy
    rw [List.filterMap_cons, List.filterMap_cons]
    by_cases hk : (kind = .tag) = (tagged = true)
    · simp only [if_pos hk]
      cases p with
      | clause c =>
        cases q with
        | clause d => exact .cons hpq ih
        | join k => exact hpq.elim
      | join j =>
        cases q with
        | clause d => exact hpq.elim
        | join k => exact ih
    · simp only [if_neg hk]
      exact ih

theorem alike_subtypeClause (h : t.subtype.isSome = t'.subtype.isSome) :
    List.Forall₂ (fun c d => Sql.Alike c.tokens d.tokens) t.subtypeClause t'.subtypeClause := by
  unfold subtypeClause
  cases hs : t.subtype with
  | none =>
    cases hs' : t'.subtype with
    | none => exact .nil
    | some w => simp [hs, hs'] at h
  | some v =>
    cases hs' : t'.subtype with
    | none => simp [hs, hs'] at h
    | some w => exact .cons rfl .nil

theorem alike_selection (hs : t.subtype.isSome = t'.subtype.isSome)
    {parts parts' : List (FieldKind × Fragment)}
    (h : List.Forall₂ (fun p q => p.1 = q.1 ∧ p.2.Alike q.2) parts parts') :
    Sql.Alike (t.selection parts).tokens (t'.selection parts').tokens := by
  have joins := List.rel_append (alike_joinsOf false h) (alike_joinsOf true h)
  have clauses := List.rel_append
    (List.rel_append (alike_clausesOf false h) (alike_clausesOf true h)) (alike_subtypeClause hs)
  have column : Sql.Alike t.idColumn.tokens t'.idColumn.tokens := rfl
  have source : Sql.Alike [.name t.entityTable] [.name t'.entityTable] := rfl
  exact (((((Sql.Alike.refl _).append column).append (Sql.Alike.refl _)).append source).append
    (Sql.alike_each joins)).append (Sql.alike_whereTokens clauses)

/-! ## Projections -/

theorem alike_output (i i' : Nat) (f g : Field) :
    Sql.Alike (Sql.Output.tokens ⟨t.outputColumn i f, f.label⟩)
      (Sql.Output.tokens ⟨t'.outputColumn i' g, g.label⟩) := by
  have column (t : EntityType) (i : Nat) (f : Field) :
      ∃ a b, t.outputColumn i f = .of a b := by
    unfold outputColumn
    split
    · exact ⟨_, _, rfl⟩
    · exact ⟨_, _, rfl⟩
    · exact ⟨_, _, rfl⟩
  obtain ⟨a, b, h⟩ := column t i f
  obtain ⟨c, d, h'⟩ := column t' i' g
  rw [h, h']
  rfl

theorem alike_attributeSupplement (i i' : Nat) (a b : String) :
    Sql.Alike (t.attributeSupplement tables i a).tokens
      (t'.attributeSupplement tables' i' b).tokens :=
  Sql.alike_supplement
    (Sql.alike_gathering rfl rfl rfl rfl .nil (.cons rfl (.cons rfl .nil))) rfl

theorem alike_tagSupplement (i i' : Nat) (a b : String) :
    Sql.Alike (t.tagSupplement tags tables i a).tokens
      (t'.tagSupplement tags' tables' i' b).tokens :=
  Sql.alike_supplement
    (Sql.alike_gathering rfl rfl rfl rfl (.cons rfl (.cons rfl .nil)) (.cons rfl .nil)) rfl

theorem alike_supplements {fs gs : List Field} (h : fs.map Field.kind = gs.map Field.kind) :
    ∀ n n' : Nat, List.Forall₂ (fun k l => Sql.Alike k.tokens l.tokens)
      ((fs.zipIdx n).filterMap fun (f, i) => t.supplement? tags tables i f)
      ((gs.zipIdx n').filterMap fun (g, i) => t'.supplement? tags' tables' i g) := by
  induction fs generalizing gs with
  | nil =>
    intro n n'
    obtain rfl := List.map_eq_nil_iff.1 h.symm
    exact .nil
  | cons f fs ih =>
    intro n n'
    obtain ⟨g, gs, rfl, hfg, hrest⟩ := List.map_eq_cons_iff.1 h.symm
    have ih := ih hrest.symm (n + 1) (n' + 1)
    rw [List.zipIdx_cons, List.zipIdx_cons, List.filterMap_cons, List.filterMap_cons]
    unfold supplement? at ih ⊢
    simp only [hfg]
    cases hk : f.kind with
    | fixed => exact ih
    | custom => exact .cons (alike_attributeSupplement ..) ih
    | tag => exact .cons (alike_tagSupplement ..) ih

theorem alike_outputs {fs gs : List Field} (h : fs.map Field.kind = gs.map Field.kind) :
    ∀ n n' : Nat, List.Forall₂ (fun o o' : Sql.Output => Sql.Alike o.tokens o'.tokens)
      ((fs.zipIdx n).map fun (f, i) => ⟨t.outputColumn i f, f.label⟩)
      ((gs.zipIdx n').map fun (g, i) => ⟨t'.outputColumn i g, g.label⟩) := by
  induction fs generalizing gs with
  | nil =>
    intro n n'
    obtain rfl := List.map_eq_nil_iff.1 h.symm
    exact .nil
  | cons f fs ih =>
    intro n n'
    obtain ⟨g, gs, rfl, -, hrest⟩ := List.map_eq_cons_iff.1 h.symm
    exact .cons (alike_output n n' f g) (ih hrest.symm (n + 1) (n' + 1))

theorem alike_projection {fs gs : List Field} (h : fs.map Field.kind = gs.map Field.kind) :
    Sql.Alike (t.projection tags tables fs).tokens (t'.projection tags' tables' gs).tokens := by
  have outputs : Sql.Alike
      (Sql.joinedTokens ", " ((t.projection tags tables fs).outputs.map Sql.Output.tokens))
      (Sql.joinedTokens ", " ((t'.projection tags' tables' gs).outputs.map Sql.Output.tokens)) :=
    Sql.alike_joined (List.forall₂_map_left_iff.2
      (List.forall₂_map_right_iff.2 (alike_outputs h 0 0)))
  have source : Sql.Alike [.name t.entityTable] [.name t'.entityTable] := rfl
  have clauses : List.Forall₂ (fun c d => Sql.Alike c.tokens d.tokens)
      (t.projection tags tables fs).clauses (t'.projection tags' tables' gs).clauses :=
    .cons rfl .nil
  exact (((((Sql.Alike.refl _).append outputs).append (Sql.Alike.refl _)).append source).append
    (Sql.alike_each (alike_supplements h 0 0))).append (Sql.alike_whereTokens clauses)

end EntityType

/-! ## Plans -/

namespace Plan

theorem alike_statements {schema schema' : Schema} {typeName typeName' : String}
    {fields fields' : List Field} {filters filters' : List Filter} {tables tables' : JobTables}
    {plan plan' : Plan} (hc : compile schema typeName fields filters tables = .ok plan)
    (hc' : compile schema' typeName' fields' filters' tables' = .ok plan')
    (hkind : (schema.entityType typeName).kind = (schema'.entityType typeName').kind)
    (hfields : fields.map Field.kind = fields'.map Field.kind)
    (hfilters : filters.map Filter.form = filters'.map Filter.form) (job job' : Uuid) :
    ((plan.statements job).map fun st => st.tokens.map Token.shape) =
      (plan'.statements job').map fun st => st.tokens.map Token.shape := by
  obtain ⟨-, parts, hp, rfl⟩ := compile_eq_ok.1 hc
  obtain ⟨-, parts', hp', rfl⟩ := compile_eq_ok.1 hc'
  have hsub : (schema.entityType typeName).subtype.isSome =
      (schema'.entityType typeName').subtype.isSome := by
    rw [isSome_subtype, isSome_subtype, hkind]
  have selection := EntityType.alike_selection hsub (EntityType.alike_fragmentsFrom hfilters hp hp')
  have projection : Sql.Alike
      ((schema.entityType typeName).projection schema.tagTables tables fields).tokens
      ((schema'.entityType typeName').projection schema'.tagTables tables' fields').tokens :=
    EntityType.alike_projection hfields
  have insert : Sql.Alike
      (Statement.insertIds tables.scratch ((schema.entityType typeName).selection parts)).tokens
      (Statement.insertIds tables'.scratch
        ((schema'.entityType typeName').selection parts')).tokens := by
    have name : Sql.Alike [.name tables.scratch] [.name tables'.scratch] := rfl
    exact (((Sql.Alike.refl _).append name).append (Sql.Alike.refl _)).append selection
  have create : Sql.Alike
      (Statement.createResult tables.result
        ((schema.entityType typeName).projection schema.tagTables tables fields)).tokens
      (Statement.createResult tables'.result
        ((schema'.entityType typeName').projection schema'.tagTables tables' fields')).tokens := by
    have name : Sql.Alike [.name tables.result] [.name tables'.result] := rfl
    exact (((Sql.Alike.refl _).append name).append (Sql.Alike.refl _)).append projection
  have status (status : Status) : Sql.Alike (Statement.setStatus job status).tokens
      (Statement.setStatus job' status).tokens := rfl
  have ids : Sql.Alike (Statement.createIds tables.scratch).tokens
      (Statement.createIds tables'.scratch).tokens := rfl
  have drop : Sql.Alike (Statement.dropTable tables.scratch).tokens
      (Statement.dropTable tables'.scratch).tokens := rfl
  simp only [statements, ofSelection, List.map_cons, List.map_nil]
  rw [show _ = _ from status .preparingScratch, show _ = _ from ids,
    show _ = _ from status .filteringEntities, show _ = _ from insert,
    show _ = _ from status .compilingResults, show _ = _ from create,
    show _ = _ from status .cleaningUp, show _ = _ from drop, show _ = _ from status .done]

/-- Statements of plans for requests of one shape differ only in what names, texts and numbers
hold, and what these hold is told by the request, its tables and its job: each value, key, taxonomy,
column, label and table name as it was given. -/
theorem statements_lex_alike {schema schema' : Schema} {typeName typeName' : String}
    {fields fields' : List Field} {filters filters' : List Filter} {tables tables' : JobTables}
    {plan plan' : Plan} (hc : compile schema typeName fields filters tables = .ok plan)
    (hc' : compile schema' typeName' fields' filters' tables' = .ok plan')
    (hkind : (schema.entityType typeName).kind = (schema'.entityType typeName').kind)
    (hfields : fields.map Field.kind = fields'.map Field.kind)
    (hfilters : filters.map Filter.form = filters'.map Filter.form) (job job' : Uuid) :
    ((plan.statements job).map fun st => (Sql.lex st.render).map Token.shape) =
        ((plan'.statements job').map fun st => (Sql.lex st.render).map Token.shape) ∧
      ((plan.statements job).map fun st => Sql.payloads (Sql.lex st.render)) =
        (schema.entityType typeName).statementPayloads schema.tagTables typeName tables fields
          filters job ∧
      ((plan'.statements job').map fun st => Sql.payloads (Sql.lex st.render)) =
        (schema'.entityType typeName').statementPayloads schema'.tagTables typeName' tables' fields'
          filters' job' ∧
      (∀ st ∈ plan.statements job, Sql.lex st.render = st.tokens) ∧
      (∀ st ∈ plan'.statements job', Sql.lex st.render = st.tokens) ∧
      Sql.lex (Sql.renderBatch (plan.statements job)) =
        List.intercalate [.mark ";"] ((plan.statements job).map Statement.tokens) := by
  have own := isLexical_statements hc job
  have other := isLexical_statements hc' job'
  have lexed {α : Type} (read : List Token → α) {statements : List Statement}
      (h : ∀ st ∈ statements, st.IsLexical) :
      (statements.map fun st => read (Sql.lex st.render)) =
        statements.map fun st => read st.tokens :=
    List.map_congr_left fun st hst => by rw [(Sql.lexes_statement (h st hst)).lex]
  refine ⟨?_, ?_, ?_, fun st hst => (Sql.lexes_statement (own st hst)).lex,
    fun st hst => (Sql.lexes_statement (other st hst)).lex, Sql.lex_renderBatch own⟩
  · rw [lexed _ own, lexed _ other]
    exact alike_statements hc hc' hkind hfields hfilters job job'
  · rw [lexed _ own]
    exact payloads_statements hc job
  · rw [lexed _ other]
    exact payloads_statements hc' job'

def plainFields : List Field := [⟨.fixed, "ID", ""⟩, ⟨.custom, "color", "Color"⟩]

def plainFilters : List Filter :=
  [⟨⟨.custom, "rating", ""⟩, .compare .ge, some "4", some .number⟩,
    ⟨⟨.tag, "category", ""⟩, .contains, some "News", none⟩]

def hostileFields : List Field :=
  [⟨.fixed, "ID\" FROM c --", "\"\""⟩, ⟨.custom, "'';'", "*/ UNION"⟩]

def hostileFilters : List Filter :=
  [⟨⟨.custom, "\"'", ""⟩, .compare .ge, some "-1e999'; --", some .number⟩,
    ⟨⟨.tag, "');", ""⟩, .contains, none, none⟩]

/-- A request full of quotes, comments and separators has the statements of a plain one, and holds
its own texts in them. -/
theorem hostile_texts_stay_inside : ∃ plan plan' : Plan,
    compile ⟨"wp_"⟩ "post" plainFields plainFilters ⟨"scratch", "result"⟩ = .ok plan ∧
      compile ⟨"a\"; DROP TABLE b; --"⟩ "x' OR 1=1 /*" hostileFields hostileFilters ⟨"\"", "'"⟩ =
        .ok plan' ∧
      ((plan.statements .nil).map fun st => (Sql.lex st.render).map Token.shape) =
        ((plan'.statements .nil).map fun st => (Sql.lex st.render).map Token.shape) ∧
      ((plan.statements .nil).map fun st => Sql.payloads (Sql.lex st.render)) =
        (Schema.entityType ⟨"wp_"⟩ "post").statementPayloads (Schema.tagTables ⟨"wp_"⟩) "post"
          ⟨"scratch", "result"⟩ plainFields plainFilters .nil ∧
      ((plan'.statements .nil).map fun st => Sql.payloads (Sql.lex st.render)) =
        (Schema.entityType ⟨"a\"; DROP TABLE b; --"⟩ "x' OR 1=1 /*").statementPayloads
          (Schema.tagTables ⟨"a\"; DROP TABLE b; --"⟩) "x' OR 1=1 /*" ⟨"\"", "'"⟩ hostileFields
          hostileFilters .nil ∧
      (∀ st ∈ plan.statements .nil, Sql.lex st.render = st.tokens) ∧
      (∀ st ∈ plan'.statements .nil, Sql.lex st.render = st.tokens) ∧
      Sql.lex (Sql.renderBatch (plan.statements .nil)) =
        List.intercalate [.mark ";"] ((plan.statements .nil).map Statement.tokens) := by
  have plain : compile ⟨"wp_"⟩ "post" plainFields plainFilters ⟨"scratch", "result"⟩ = .ok _ := rfl
  have hostile : compile ⟨"a\"; DROP TABLE b; --"⟩ "x' OR 1=1 /*" hostileFields hostileFilters
    ⟨"\"", "'"⟩ = .ok _ := rfl
  exact ⟨_, _, plain, hostile, statements_lex_alike plain hostile rfl rfl rfl .nil .nil⟩

end Plan

end SheetExport
