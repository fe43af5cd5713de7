import SheetExport.Proofs.Lifecycle

/-!
# The tables of a site

Statements name tables of the site besides those of their own job. No table of a site is the
registry or could be a table of some job.
-/

namespace SheetExport

open Text (sameName)

def siteNames : List String :=
  ["users", "usermeta", "comments", "commentmeta", "terms", "termmeta", "posts", "postmeta",
    "term_taxonomy", "term_relationships"]

/-- The tables that exports of a type may read. -/
def EntityType.siteTables (t : EntityType) (tags : TagTables) : List String :=
  [t.entityTable, t.attributeTable, tags.terms, tags.termTaxonomy, tags.termRelationships]

namespace Schema

variable {schema : Schema} {typeName name : String}

theorem exists_siteName
    (h : name ∈ (schema.entityType typeName).siteTables schema.tagTables) :
    ∃ x ∈ siteNames, name = schema.table x := by
  have hall : ∀ name ∈ (schema.entityType typeName).siteTables schema.tagTables,
      ∃ x ∈ siteNames, name = schema.table x := by
    unfold EntityType.siteTables Schema.entityType Schema.tagTables
    simp only [List.forall_mem_cons, List.not_mem_nil, false_implies, implies_true, and_true]
    refine ⟨?_, ?_, ⟨"terms", by decide, rfl⟩, ⟨"term_taxonomy", by decide, rfl⟩,
      ⟨"term_relationships", by decide, rfl⟩⟩
    · split
      · exact ⟨"users", by decide, rfl⟩
      · split
        · exact ⟨"comments", by decide, rfl⟩
        · split
          · exact ⟨"terms", by decide, rfl⟩
          · exact ⟨"posts", by decide, rfl⟩
    · split
      · exact ⟨"usermeta", by decide, rfl⟩
      · split
        · exact ⟨"commentmeta", by decide, rfl⟩
        · split
          · exact ⟨"termmeta", by decide, rfl⟩
          · exact ⟨"postmeta", by decide, rfl⟩
  exact hall name h

theorem take_reverse_of_sameName {a p x : String} {n : Nat} (h : sameName a (p ++ x) = true)
    (hx : n ≤ x.toList.length) :
    (a.toList.map Char.toLower).reverse.take n = (x.toList.map Char.toLower).reverse.take n := by
  have hl := congrArg (fun s => (String.toList s).reverse.take n) (sameName_iff.1 h)
  simp only [toList_lowerAscii, String.toList_append, List.map_append, List.reverse_append] at hl
  rw [hl, List.take_append_of_le_length (by simpa using hx)]

theorem registry_ne_site
    (h : name ∈ (schema.entityType typeName).siteTables schema.tagTables) :
    sameName Sql.jobsTable name = false := by
  obtain ⟨x, hx, rfl⟩ := exists_siteName h
  rw [← Bool.not_eq_true]
  intro hsame
  -- The prefix may be anything, so the names are told apart by their last letters.
  have hlength : ∀ x ∈ siteNames, 2 ≤ x.toList.length := by decide
  have hends : ∀ x ∈ siteNames, (Sql.jobsTable.toList.map Char.toLower).reverse.take 2 ≠
      (x.toList.map Char.toLower).reverse.take 2 := by decide
  exact hends x hx (take_reverse_of_sameName hsame (hlength x hx))

theorem not_isBacking_site
    (h : name ∈ (schema.entityType typeName).siteTables schema.tagTables) :
    ¬ schema.IsBacking name := by
  obtain ⟨x, hx, rfl⟩ := exists_siteName h
  have hstarts : ∀ x ∈ siteNames,
      ¬ "csvexport_".toList <+: (Text.lowerAscii x).toList := by decide
  exact not_isBacking_table (hstarts x hx)

theorem site_apart (h : name ∈ (schema.entityType typeName).siteTables schema.tagTables)
    (suffix : String) :
    sameName Sql.jobsTable name = false ∧
      sameName (JobTables.ofSuffix schema suffix).scratch name = false ∧
      sameName (JobTables.ofSuffix schema suffix).result name = false :=
  ⟨registry_ne_site h, JobTables.not_names.1 fun hn => not_isBacking_site h ⟨suffix, hn⟩⟩

end Schema

end SheetExport
