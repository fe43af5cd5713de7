import SheetExport.Proofs.ProvidedFields
import SheetExport.Sql.Depth

/-!
# The blocks of a query

A query and each query inside it is a block. A block brings in names, sees the names of the queries
around it, and refers to columns through the names it sees. When no two of these are alike and each
reference has its name among them, it finds one row in scope and no other.
-/

namespace SheetExport

open Text (sameName)

namespace Sql

/-! ## Names that differ -/

/-- No two of the names are equal, whatever their case. -/
def Apart (names : List String) : Prop := names.Pairwise fun a b => sameName a b = false

theorem apart_singleton (name : String) : Apart [name] := List.pairwise_singleton _ _

theorem apart_append {own around : List String} : Apart (own ++ around) ↔
    Apart own ∧ Apart around ∧ ∀ a ∈ own, ∀ b ∈ around, sameName a b = false :=
  List.pairwise_append

theorem apart_numbered {stems : List String} (hs : ∀ stem ∈ stems, IsStem stem)
    (hn : stems.Nodup) (i : Nat) : Apart (stems.map (numbered · i)) := by
  refine List.pairwise_map.2 (hn.imp_of_mem fun {a b} ha hb hne => ?_)
  rw [sameName_numbered (hs a ha) (hs b hb), decide_eq_false hne, Bool.false_and]

/-! ## What a query brings in -/

/-- A name that a query brings in: that of a table, or of a subquery with its columns. -/
structure Introduced where
  label : String
  columns : Option (List String)

/-- Of the columns of a subquery, one is meant. -/
def Introduced.Offers (x : Introduced) (column : String) : Prop :=
  ∀ names ∈ x.columns, ∃ name, names.filter (sameName · column) = [name]

def Source.introduced (s : Source) : Introduced := ⟨s.label, none⟩

def Supplement.introduced (k : Supplement) : Introduced :=
  ⟨k.label, some [k.gathering.keyName, k.gathering.gatheredLabel]⟩

/-! ## Blocks -/

/-- The names that a query brings in, those it sees of the queries around it, and the references
that stand in it outside of the queries inside it. -/
structure Block where
  own : List Introduced
  around : List Introduced
  references : List Reference

def Block.seen (b : Block) : List Introduced := b.own ++ b.around

/-- Every reference has one target. One without a table is left to the only source of its block. -/
structure Block.Unambiguous (b : Block) : Prop where
  apart : Apart (b.seen.map Introduced.label)
  qualified : ∀ table column, Reference.of table column ∈ b.references →
    ∃ x, b.seen.filter (fun x => sameName x.label table) = [x] ∧ x.Offers column
  bare : ∀ column, Reference.bare column ∈ b.references → ∃ x, b.own = [x]

/-- The references of a clause outside of its lookup. -/
def Clause.references : Clause → List Reference
  | test t => t.references
  | among operand _ => [operand]
  | notAmong _ _ | nothing _ => []

def Lookup.block (around : List Introduced) (l : Lookup) : Block :=
  ⟨l.sources.map Source.introduced, around, l.references⟩

/-- A query with nothing around it, and the lookups of its clauses. -/
def blocksOf (own : List Introduced) (references : List Reference) (clauses : List Clause) :
    List Block :=
  ⟨own, [], references ++ clauses.flatMap Clause.references⟩ ::
    (clauses.filterMap Clause.lookup?).map (Lookup.block own)

def Selection.blocks (q : Selection) : List Block :=
  blocksOf (q.source.introduced :: q.joins.map fun j => j.source.introduced) [q.column]
    (q.joins.flatMap Join.clauses ++ q.clauses)

/-- A joined subquery sees nothing of the query that it is joined to. -/
def Gathering.blocks (g : Gathering) : List Block :=
  blocksOf (g.sources.map Source.introduced) g.references g.clauses

def Projection.blocks (p : Projection) : List Block :=
  blocksOf (p.source.introduced :: p.supplements.map Supplement.introduced)
      (p.outputs.map Output.column ++ p.supplements.flatMap fun k => k.test.references) p.clauses ++
    p.supplements.flatMap fun k => k.gathering.blocks

/-! ## Finding names -/

section

variable {own seen : List Introduced} {x : Introduced}

/-- The name of a reference is among those seen. -/
def Found (own seen : List Introduced) : Reference → Prop
  | .of table column => ∃ x ∈ seen, x.label = table ∧ x.Offers column
  | .bare _ => ∃ x, own = [x]

theorem found_table (own : List Introduced) {label : String}
    (h : (⟨label, none⟩ : Introduced) ∈ seen) (column : String) :
    Found own seen (.of label column) :=
  ⟨_, h, rfl, fun _ hn => absurd hn (by simp)⟩

theorem found_gathered (own : List Introduced) {k : Supplement} (h : k.introduced ∈ seen)
    (hne : sameName k.gathering.keyName k.gathering.gatheredLabel = false) :
    Found own seen (.of k.label k.gathering.keyName) ∧
      Found own seen (.of k.label k.gathering.gatheredLabel) := by
  refine ⟨⟨_, h, rfl, fun names hn => ?_⟩, ⟨_, h, rfl, fun names hn => ?_⟩⟩
  · obtain rfl := Option.some.inj hn
    exact ⟨k.gathering.keyName, by simp [sameName_comm k.gathering.gatheredLabel, hne]⟩
  · obtain rfl := Option.some.inj hn
    exact ⟨k.gathering.gatheredLabel, by simp [hne]⟩

theorem filter_label (ha : Apart (seen.map Introduced.label)) (hx : x ∈ seen) :
    seen.filter (fun y => sameName y.label x.label) = [x] := by
  induction seen with
  | nil => exact absurd hx List.not_mem_nil
  | cons y rest ih =>
    obtain ⟨hy, hrest⟩ := List.pairwise_cons.1 ha
    rcases List.mem_cons.1 hx with rfl | hx
    · have hnone : rest.filter (fun z => sameName z.label x.label) = [] := by
        refine List.filter_eq_nil_iff.2 fun z hz => ?_
        rw [sameName_comm, hy _ (List.mem_map_of_mem hz)]
        exact Bool.false_ne_true
      simp [hnone]
    · have hne : sameName y.label x.label = false := hy _ (List.mem_map_of_mem hx)
      simp [hne, ih hrest hx]

theorem Block.unambiguous {b : Block} (ha : Apart (b.seen.map Introduced.label))
    (hr : ∀ r ∈ b.references, Found b.own b.seen r) : b.Unambiguous where
  apart := ha
  qualified table column hmem := by
    obtain ⟨x, hx, rfl, ho⟩ := hr _ hmem
    exact ⟨x, filter_label ha hx, ho⟩
  bare column hmem := hr _ hmem

/-- A clause in a query of the given names. -/
structure Clause.Settled (own : List Introduced) (c : Clause) : Prop where
  found : ∀ r ∈ c.references, Found own own r
  lookup : ∀ l ∈ c.lookup?, (l.block own).Unambiguous

theorem settled_test {t : Test} (h : ∀ r ∈ t.references, Found own own r) :
    (Clause.test t).Settled own :=
  ⟨h, fun _ hl => absurd hl (by simp [Clause.lookup?])⟩

section

variable {l : Lookup} (h : (l.block own).Unambiguous)
include h

theorem settled_among {r : Reference} (hr : Found own own r) : (Clause.among r l).Settled own :=
  ⟨List.forall_mem_singleton.2 hr, fun _ hl => Option.some.inj hl ▸ h⟩

theorem settled_notAmong (v : String) : (Clause.notAmong v l).Settled own :=
  ⟨fun _ hr => absurd hr List.not_mem_nil, fun _ hl => Option.some.inj hl ▸ h⟩

theorem settled_nothing : (Clause.nothing l).Settled own :=
  ⟨fun _ hr => absurd hr List.not_mem_nil, fun _ hl => Option.some.inj hl ▸ h⟩

end

theorem blocksOf_unambiguous {references : List Reference} {clauses : List Clause}
    (ha : Apart (own.map Introduced.label)) (hr : ∀ r ∈ references, Found own own r)
    (hc : ∀ c ∈ clauses, c.Settled own) :
    ∀ b ∈ blocksOf own references clauses, b.Unambiguous := by
  refine List.forall_mem_cons.2 ⟨Block.unambiguous ?_ ?_, ?_⟩
  · simpa [Block.seen] using ha
  · intro r hmem
    rw [Block.seen, List.append_nil]
    rcases List.mem_append.1 hmem with hmem | hmem
    · exact hr r hmem
    · obtain ⟨c, hclause, hmem⟩ := List.mem_flatMap.1 hmem
      exact (hc c hclause).found r hmem
  · intro b hb
    obtain ⟨l, hl, rfl⟩ := List.mem_map.1 hb
    obtain ⟨c, hclause, hl⟩ := List.mem_filterMap.1 hl
    exact (hc c hclause).lookup l hl

end

/-! ## Rows in scope -/

theorem operand_of_filter {scope : Store.Scope} {x : Store.Binding} {table : String}
    (h : scope.filter (fun y => sameName y.header.label table) = [x]) (column : String) :
    Store.operand scope (.of table column) = x.entry column := by
  have hfind {y : Store.Binding} (hy : sameName y.header.label table = true) :
      y.find? (.of y.header.label column) = y.find? (.of table column) := by
    simp only [Store.Binding.find?, Store.Header.place?, sameName_self, hy]
  induction scope with
  | nil => exact absurd h (by simp)
  | cons y rest ih =>
    by_cases hy : sameName y.header.label table = true
    · simp only [List.filter_cons, hy, if_true] at h
      obtain ⟨rfl, hnone⟩ := List.cons.inj h
      have hfree : Store.Free table rest := fun z hz => by
        simpa using List.filter_eq_nil_iff.1 hnone z hz
      rw [Store.Binding.entry, hfind hy]
      cases hc : y.find? (.of table column) with
      | some o => simp [Store.operand, hc]
      | none =>
        have hrest := Store.operand_of_free hfree column
        simp only [Store.operand] at hrest
        simp only [Store.operand, List.findSome?_cons, hc, hrest, Option.getD_none]
    · simp only [List.filter_cons, hy] at h
      rw [Store.operand_of_other (Bool.not_eq_true _ ▸ hy) column]
      exact ih h

/-- With a row for each name that a block sees, a reference means a column of one of these rows. -/
theorem Block.Unambiguous.operand {b : Block} (h : b.Unambiguous) {scope : Store.Scope}
    (hs : (scope.map fun y => y.header.label).Perm (b.seen.map Introduced.label))
    {table column : String} (hr : Reference.of table column ∈ b.references) :
    ∃ x, scope.filter (fun y => sameName y.header.label table) = [x] ∧
      Store.operand scope (.of table column) = x.entry column := by
  obtain ⟨x, hx, -⟩ := h.qualified table column hr
  have hcount := (hs.filter fun label => sameName label table).length_eq
  rw [List.filter_map, List.filter_map, List.length_map, List.length_map] at hcount
  obtain ⟨y, hy⟩ := List.length_eq_one_iff.1 (hcount.trans (congrArg List.length hx))
  exact ⟨y, hy, operand_of_filter hy column⟩

end Sql

end SheetExport
