import SheetExport.Proofs.Filters
import SheetExport.Proofs.Grouping
import SheetExport.Proofs.IdTables
import SheetExport.Proofs.Resolution

/-!
# What a gathering gives an entity

A gathering joins the values of one key to one text. Left joined to an entity it brings exactly one
row, which holds the values of the entity and of no other.
-/

namespace SheetExport.Store

open Text (sameName)
open Sql (Reference Gathering Supplement)
open Value (isId IsNumeric)

/-- The columns that hold ids of entities are columns of integers, and the attribute table has its
columns. -/
structure Keyed (s : Store) (tags : TagTables) (t : EntityType) : Prop where
  ids : ∀ e ∈ s.entries t.entityTable, ∃ i, e t.entityId = ⟨some .integer, .integer i⟩
  columns : ∀ column ∈ [t.attributeEntityId, "meta_key", "meta_value"],
    (s.table? t.attributeTable).isSome = true → s.offers t.attributeTable column = true
  attributes : ∀ m ∈ s.entries t.attributeTable, (m t.attributeEntityId).value.IsNumeric
  relations : ∀ r ∈ s.entries tags.termRelationships, (r "object_id").value.IsNumeric

variable {s : Store} {now : Int} {t : EntityType} {tags : TagTables} {tables : JobTables}
  {ids : List Int}

/-! ## Bare names -/

theorem operand_cons {b : Binding} {scope : Scope} {r : Reference} {place : Place}
    (h : b.header.place? r = some place) : operand (b :: scope) r = b.operand place := by
  have hf : b.find? r = some (b.operand place) := by rw [Binding.find?, h, Option.map_some]
  unfold operand
  rw [List.findSome?_cons, hf]

theorem operand_bare {b : Binding} {scope : Scope} {column : String}
    (h : (b.header.place? (.bare column)).isSome = true) :
    operand (b :: scope) (.bare column) = b.entry column := by
  obtain ⟨place, hp⟩ := Option.isSome_iff_exists.1 h
  have hq : b.header.place? (.of b.header.label column) = some place := by
    simpa [Header.place?] using hp
  rw [operand_cons hp, Binding.entry, Binding.find?, hq, Option.map_some, Option.getD_some]

theorem place_bare_of_offers {table column : String} {label : Option String} {b : Binding}
    (hb : b ∈ s.bindings ⟨table, label⟩) (h : s.offers table column = true) :
    (b.header.place? (.bare column)).isSome = true := by
  unfold bindings at hb
  unfold offers at h
  cases ht : s.table? table with
  | none => simp [ht] at h
  | some u =>
    simp only [ht] at hb h
    obtain ⟨row, -, rfl⟩ := List.mem_map.1 hb
    exact h

theorem isSome_table_of_mem_bindings {table : String} {label : Option String} {b : Binding}
    (hb : b ∈ s.bindings ⟨table, label⟩) : (s.table? table).isSome = true := by
  unfold bindings at hb
  split at hb
  · rename_i u hu
    rw [hu]
    rfl
  · exact absurd hb List.not_mem_nil

/-! ## The scratch table -/

theorem found_scratchIds (h : s.table? tables.scratch = some (idTableOf tables.scratch ids))
    (scope : Scope) : s.found now scope (EntityType.scratchIds tables) =
      ids.map fun i => ⟨some .integer, .integer i⟩ := by
  have hb : s.bindings ⟨tables.scratch, none⟩ =
      ids.map fun i => ⟨(idTable tables.scratch).header tables.scratch, idRow i⟩ := by
    simp only [bindings, h, Table.bindings, idTableOf, List.map_map]
    rfl
  have ho (i : Int) :
      operand (⟨(idTable tables.scratch).header tables.scratch, idRow i⟩ :: scope) (.bare "id") =
        ⟨some .integer, .integer i⟩ := rfl
  simp only [found, EntityType.scratchIds, linked, List.foldl_nil, joined_singleton, hb,
    List.map_map, testsHold, List.all_nil, List.filter_true]
  exact List.map_congr_left fun i _ => ho i

theorem among_scratchIds (h : s.table? tables.scratch = some (idTableOf tables.scratch ids))
    (scope : Scope) (r : Reference) :
    (s.clauseTruth now scope (.among r (EntityType.scratchIds tables))).isTrue =
      ids.any (operand scope r).value.isId := by
  rw [clauseTruth, amongTruth_isTrue, found_scratchIds h, List.any_map]
  congr 1
  funext i
  exact Operand.equals_id _ i

/-! ## Gathered values -/

/-- The keys and the values that a gathering puts into groups. -/
def gatheredPairs (s : Store) (now : Int) (g : Gathering) : List (Value × Value) :=
  (s.gatheredScopes now g).map fun scope =>
    ((operand scope g.key).value, (operand scope g.gathered).value)

theorem gatheredPairs_attributes (hk : s.Keyed tags t)
    (h : s.table? tables.scratch = some (idTableOf tables.scratch ids)) (i : Nat) (key : String) :
    s.gatheredPairs now (t.attributeSupplement tables i key).gathering =
      ((s.entries t.attributeTable).filter fun m =>
        (m "meta_key").is key && ids.any (m t.attributeEntityId).value.isId).map fun m =>
          ((m t.attributeEntityId).value, (m "meta_value").value) := by
  have bare {b : Binding} (hb : b ∈ s.bindings ⟨t.attributeTable, none⟩) (column : String)
      (hc : column ∈ [t.attributeEntityId, "meta_key", "meta_value"]) :
      operand [b] (.bare column) = b.entry column :=
    operand_bare (place_bare_of_offers hb (hk.columns column hc (isSome_table_of_mem_bindings hb)))
  have clauses {b : Binding} (hb : b ∈ s.bindings ⟨t.attributeTable, none⟩) :
      s.clausesHold now [b] (t.attributeSupplement tables i key).gathering.clauses =
        ((b.entry "meta_key").is key && ids.any (b.entry t.attributeEntityId).value.isId) := by
    simp only [EntityType.attributeSupplement, clausesHold, List.all_cons, List.all_nil,
      Bool.and_true, among_scratchIds h, bare hb t.attributeEntityId (by simp)]
    congr 1
    rw [clauseTruth, Sql.Test.isText, testTruth, bare hb "meta_key" (by simp)]
    rfl
  have source : s.gatheredScopes now (t.attributeSupplement tables i key).gathering =
      ((s.bindings ⟨t.attributeTable, none⟩).filter fun b =>
        (b.entry "meta_key").is key && ids.any (b.entry t.attributeEntityId).value.isId).map
          fun b => [b] := by
    have : s.gatheredScopes now (t.attributeSupplement tables i key).gathering =
        (s.joined ⟨t.attributeTable, none⟩ [[]]).filter
          (s.clausesHold now · (t.attributeSupplement tables i key).gathering.clauses) := rfl
    rw [this, filter_joined, List.flatMap_singleton]
    rw [List.filter_congr fun b hb => clauses hb]
  rw [gatheredPairs, source, ← map_entry_bindings s ⟨t.attributeTable, none⟩, List.filter_map,
    List.map_map, List.map_map]
  refine List.map_congr_left fun b hb => ?_
  have mb := (List.mem_filter.1 hb).1
  simp only [Function.comp, EntityType.attributeSupplement,
    bare mb t.attributeEntityId (by simp), bare mb "meta_value" (by simp)]

theorem flatMap_filter {α β : Type} (l : List α) (p : α → Bool) (f : α → List β) :
    (l.filter p).flatMap f = l.flatMap fun a => if p a = true then f a else [] := by
  induction l with
  | nil => rfl
  | cons a l ih =>
    rw [List.filter_cons, List.flatMap_cons, ← ih]
    split <;> simp

theorem filter_flatMap_of_mem {α β : Type} {l : List α} {f : α → List β} {p : α → Bool}
    {q : β → Bool} (h : ∀ a ∈ l, ∀ b ∈ f a, q b = p a) :
    (l.flatMap f).filter q = (l.filter p).flatMap f := by
  rw [List.filter_flatMap, flatMap_filter]
  refine List.flatMap_congr fun a ha => ?_
  cases hp : p a with
  | true =>
    rw [if_pos rfl]
    exact List.filter_eq_self.2 fun b hb => (h a ha b hb).trans hp
  | false =>
    rw [if_neg Bool.false_ne_true]
    refine List.filter_eq_nil_iff.2 fun b hb => ?_
    rw [h a ha b hb, hp]
    exact Bool.false_ne_true

theorem apart_tagSupplement (i : Nat) :
    Apart (numbered "tr" i) (numbered "tx" i) (numbered "trm" i) [] := by
  refine ⟨?_, ?_, ?_, free_nil _, free_nil _, free_nil _⟩
  · simp [sameName_numbered (show IsStem "tr" by decide) (show IsStem "tx" by decide)]
  · simp [sameName_numbered (show IsStem "tr" by decide) (show IsStem "trm" by decide)]
  · simp [sameName_numbered (show IsStem "tx" by decide) (show IsStem "trm" by decide)]

/-- Only the relation row has a say in whether its ways to a term are gathered. -/
theorem gatheredScopes_tags
    (h : s.table? tables.scratch = some (idTableOf tables.scratch ids)) (i : Nat)
    (taxonomy : String) :
    s.gatheredScopes now (t.tagSupplement tags tables i taxonomy).gathering =
      ((s.bindings ⟨tags.termRelationships, some (numbered "tr" i)⟩).filter fun r =>
          ids.any (r.entry "object_id").value.isId).flatMap fun r =>
        ((s.bindings ⟨tags.termTaxonomy, some (numbered "tx" i)⟩).filter fun w =>
            (w.entry "term_taxonomy_id").equals (r.entry "term_taxonomy_id") &&
              (w.entry "taxonomy").is taxonomy).flatMap fun w =>
          ((s.bindings ⟨tags.terms, some (numbered "trm" i)⟩).filter fun x =>
              (x.entry "term_id").equals (w.entry "term_id")).map fun x => [x, w, r] := by
  have source : s.gatheredScopes now (t.tagSupplement tags tables i taxonomy).gathering =
      (s.linked now (tagLinks tags (numbered "tr" i) (numbered "tx" i) (numbered "trm" i) taxonomy)
        (s.joined ⟨tags.termRelationships, some (numbered "tr" i)⟩ [[]])).filter
          fun scope => (s.clauseTruth now scope (.among (.of (numbered "tr" i) "object_id")
            (EntityType.scratchIds tables))).isTrue := by
    unfold gatheredScopes
    simp only [clausesHold, EntityType.tagSupplement, List.all_cons, List.all_nil, Bool.and_true]
    rfl
  rw [source, linked_tagLinks s tags (apart_tagSupplement i) taxonomy]
  refine filter_flatMap_of_mem fun r hr scope hscope => ?_
  obtain ⟨w, hw, hscope⟩ := List.mem_flatMap.1 hscope
  obtain ⟨x, hx, rfl⟩ := List.mem_map.1 hscope
  obtain ⟨sr, -, -⟩ := (apart_tagSupplement i).shows_three (label_of_mem_bindings hr)
    (label_of_mem_bindings (List.mem_filter.1 hw).1)
    (label_of_mem_bindings (List.mem_filter.1 hx).1)
  rw [among_scratchIds h, sr]

theorem gatheredPairs_tags
    (h : s.table? tables.scratch = some (idTableOf tables.scratch ids)) (i : Nat)
    (taxonomy : String) :
    s.gatheredPairs now (t.tagSupplement tags tables i taxonomy).gathering =
      ((s.entries tags.termRelationships).filter fun r =>
          ids.any (r "object_id").value.isId).flatMap fun r =>
        ((s.entries tags.termTaxonomy).filter fun w =>
            (w "term_taxonomy_id").equals (r "term_taxonomy_id") &&
              (w "taxonomy").is taxonomy).flatMap fun w =>
          ((s.entries tags.terms).filter fun x => (x "term_id").equals (w "term_id")).map fun x =>
            ((r "object_id").value, (x "name").value) := by
  rw [gatheredPairs, gatheredScopes_tags h,
    ← map_entry_bindings s ⟨tags.termRelationships, some (numbered "tr" i)⟩,
    ← map_entry_bindings s ⟨tags.termTaxonomy, some (numbered "tx" i)⟩,
    ← map_entry_bindings s ⟨tags.terms, some (numbered "trm" i)⟩]
  simp only [List.filter_map, List.flatMap_map, List.map_map, List.map_flatMap]
  refine List.flatMap_congr fun r hr => List.flatMap_congr fun w hw =>
    List.map_congr_left fun x hx => ?_
  obtain ⟨sr, -, sx⟩ := (apart_tagSupplement i).shows_three
    (label_of_mem_bindings (List.mem_filter.1 hr).1)
    (label_of_mem_bindings (List.mem_filter.1 hw).1)
    (label_of_mem_bindings (List.mem_filter.1 hx).1)
  have hkey := sr "object_id"
  have hname := sx "name"
  simp only [Function.comp, EntityType.tagSupplement, hkey, hname]

/-! ## One row for an entity -/

theorem supplemented_eq_flatMap (s : Store) (now : Int) (k : Supplement) (scopes : List Scope) :
    s.supplemented now k scopes = scopes.flatMap fun scope => s.supplemented now k [scope] := by
  simp [supplemented]

theorem partners_eq {k : Supplement} {scope : Scope} {i : Int}
    (htest : ∀ key v, testsHold now
      (⟨s.gatheredHeader k.label k.gathering, .loose [key, v]⟩ :: scope) [k.test] = key.isId i) :
    ((s.gatheredRows now k.gathering).map fun row =>
        (⟨s.gatheredHeader k.label k.gathering, row⟩ :: scope : Scope)).filter
          (testsHold now · [k.test]) =
      ((grouped (s.gatheredPairs now k.gathering)).filter fun g => isId g.1 i).map fun g =>
        ⟨s.gatheredHeader k.label k.gathering,
          .loose [g.1, concatenated k.gathering.separator g.2]⟩ :: scope := by
  have hrows : s.gatheredRows now k.gathering = (grouped (s.gatheredPairs now k.gathering)).map
      fun g => .loose [g.1, concatenated k.gathering.separator g.2] := rfl
  rw [hrows, List.map_map, List.filter_map]
  congr 1
  exact List.filter_congr fun g _ => htest g.1 _

/-- The row that a supplement brings to an entity: the joined values of the groups of its key,
nulls if there are none. -/
theorem supplemented_one {k : Supplement} {scope : Scope} {i : Int}
    (hkeys : ∀ x ∈ s.gatheredPairs now k.gathering, x.1.IsNumeric)
    (htest : ∀ key v, testsHold now
      (⟨s.gatheredHeader k.label k.gathering, .loose [key, v]⟩ :: scope) [k.test] = key.isId i) :
    ∃ b : Binding, b.header = s.gatheredHeader k.label k.gathering ∧
      s.supplemented now k [scope] = [b :: scope] ∧
      b.row.value (.cell 1) = concatenated k.gathering.separator
        (((s.gatheredPairs now k.gathering).filter fun x => x.1.isId i).map Prod.snd) := by
  obtain ⟨-, hgroups⟩ := filter_grouped (s.gatheredPairs now k.gathering) (p := (isId · i))
    fun x hx y hy h => Value.same_iff_isId (hkeys x hx) (hkeys y hy) h
  generalize ((s.gatheredPairs now k.gathering).filter fun x => x.1.isId i).map Prod.snd = values
    at hgroups ⊢
  have partners := partners_eq htest
  cases hg : (grouped (s.gatheredPairs now k.gathering)).filter fun g => isId g.1 i with
  | nil =>
    rw [hg] at partners hgroups
    obtain rfl : values = [] := by
      cases values with
      | nil => rfl
      | cons v vs => simp [groupOf] at hgroups
    refine ⟨⟨s.gatheredHeader k.label k.gathering, .loose []⟩, rfl, ?_, rfl⟩
    unfold supplemented
    rw [List.flatMap_singleton, partners]
    rfl
  | cons g rest =>
    rw [hg] at partners hgroups
    cases values with
    | nil => simp [groupOf] at hgroups
    | cons v vs =>
      simp only [groupOf, List.isEmpty_cons, Bool.false_eq_true, if_false, List.map_cons,
        List.cons.injEq, List.map_eq_nil_iff] at hgroups
      obtain ⟨hvalues, rfl⟩ := hgroups
      refine ⟨⟨s.gatheredHeader k.label k.gathering,
        .loose [g.1, concatenated k.gathering.separator g.2]⟩, rfl, ?_, ?_⟩
      · unfold supplemented
        rw [List.flatMap_singleton, partners]
        rfl
      · rw [← hvalues]
        rfl

theorem operand_gathered {g : Gathering} {label : String} {b : Binding}
    (hb : b.header = s.gatheredHeader label g) (scope : Scope)
    (hne : sameName g.keyName g.gatheredLabel = false) :
    operand (b :: scope) (.of label g.keyName) =
        ⟨some (s.gatheredAffinity g), b.row.value (.cell 0)⟩ ∧
      operand (b :: scope) (.of label g.gatheredLabel) =
        ⟨some .blob, b.row.value (.cell 1)⟩ := by
  have hkey : b.header.place? (.of label g.keyName) = some (.cell 0) := by
    simp [hb, gatheredHeader, Header.place?, placeOf?, Column.free, List.findIdx?_cons]
  have hval : b.header.place? (.of label g.gatheredLabel) = some (.cell 1) := by
    simp [hb, gatheredHeader, Header.place?, placeOf?, Column.free, List.findIdx?_cons, hne]
  rw [operand_cons hkey, operand_cons hval, Binding.operand, Binding.operand, hb]
  exact ⟨rfl, rfl⟩

end SheetExport.Store
