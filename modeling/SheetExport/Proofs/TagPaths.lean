import Mathlib.Data.List.Basic
import SheetExport.Proofs.Scopes

/-!
# Ways from an entity to its terms

A relation row leads to a row of a taxonomy, and that row to a term. Queries walk this way in two
links, under names of their own. What they find are exactly the ways, in the order of the rows.
-/

namespace SheetExport.Store

open Text (sameName)
open Sql (Source Link Test)

/-! ## Sources of one site -/

theorem filter_joined (s : Store) (source : Source) (p : Scope → Bool) (scopes : List Scope) :
    (s.joined source scopes).filter p = scopes.flatMap fun scope =>
      ((s.bindings source).filter fun b => p (b :: scope)).map (· :: scope) := by
  simp only [joined, List.filter_flatMap, List.filter_map]
  rfl

/-! ## Three names -/

/-- Three names that differ from each other and from all in scope. -/
structure Apart (a b c : String) (scope : Scope) : Prop where
  first_second : sameName a b = false
  first_third : sameName a c = false
  second_third : sameName b c = false
  first : Free a scope
  second : Free b scope
  third : Free c scope

section

variable {a b c : String} {scope : Scope} {r w x : Binding}

theorem Apart.shows_two (h : Apart a b c scope) (hr : r.header.label = a)
    (hw : w.header.label = b) :
    Shows (w :: r :: scope) a r.entry ∧ Shows (w :: r :: scope) b w.entry := by
  subst hr hw
  refine ⟨(shows_head rfl h.first).cons ?_, shows_head rfl (free_cons.2 ⟨?_, h.second⟩)⟩
  · rw [sameName_comm]
    exact h.first_second
  · exact h.first_second

theorem Apart.shows_three (h : Apart a b c scope) (hr : r.header.label = a)
    (hw : w.header.label = b) (hx : x.header.label = c) :
    Shows (x :: w :: r :: scope) a r.entry ∧ Shows (x :: w :: r :: scope) b w.entry ∧
      Shows (x :: w :: r :: scope) c x.entry := by
  have h2 := h.shows_two hr hw
  subst hr hw hx
  refine ⟨h2.1.cons ?_, h2.2.cons ?_, shows_head rfl ?_⟩
  · rw [sameName_comm]
    exact h.first_third
  · rw [sameName_comm]
    exact h.second_third
  · exact free_cons.2 ⟨h.second_third, free_cons.2 ⟨h.first_third, h.third⟩⟩

theorem Shows.under {label : String} {e : Entry} (hs : Shows scope label e)
    (hr : sameName r.header.label label = false) (hw : sameName w.header.label label = false)
    (hx : sameName x.header.label label = false) : Shows (x :: w :: r :: scope) label e :=
  ((hs.cons hr).cons hw).cons hx

end

/-! ## Links -/

variable {now : Int}

/-- The links from a relation row `a` through a taxonomy row `b` to a term `c`. -/
def tagLinks (tags : TagTables) (a b c taxonomy : String) : List Link :=
  [⟨⟨tags.termTaxonomy, some b⟩,
      [.equal (.of b "term_taxonomy_id") (.of a "term_taxonomy_id"),
        .isText (.of b "taxonomy") taxonomy]⟩,
    ⟨⟨tags.terms, some c⟩, [.equal (.of c "term_id") (.of b "term_id")]⟩]

theorem testsHold_taxonomy {a b c : String} {scope : Scope} (h : Apart a b c scope)
    {r w : Binding} (hr : r.header.label = a) (hw : w.header.label = b) (taxonomy : String) :
    testsHold now (w :: r :: scope)
        [.equal (.of b "term_taxonomy_id") (.of a "term_taxonomy_id"),
          .isText (.of b "taxonomy") taxonomy] =
      ((w.entry "term_taxonomy_id").equals (r.entry "term_taxonomy_id") &&
        (w.entry "taxonomy").is taxonomy) := by
  obtain ⟨sa, sb⟩ := h.shows_two hr hw
  simp only [testsHold, List.all_cons, List.all_nil, Bool.and_true, equal_isTrue sb sa,
    isText_isTrue sb]

theorem testsHold_term {a b c : String} {scope : Scope} (h : Apart a b c scope)
    {r w x : Binding} (hr : r.header.label = a) (hw : w.header.label = b)
    (hx : x.header.label = c) :
    testsHold now (x :: w :: r :: scope) [.equal (.of c "term_id") (.of b "term_id")] =
      (x.entry "term_id").equals (w.entry "term_id") := by
  obtain ⟨-, sb, sc⟩ := h.shows_three hr hw hx
  simp only [testsHold, List.all_cons, List.all_nil, Bool.and_true, equal_isTrue sc sb]

theorem linked_tagLinks (s : Store) (tags : TagTables) {a b c : String} {scope : Scope}
    (h : Apart a b c scope) (taxonomy : String) :
    s.linked now (tagLinks tags a b c taxonomy)
        (s.joined ⟨tags.termRelationships, some a⟩ [scope]) =
      (s.bindings ⟨tags.termRelationships, some a⟩).flatMap fun r =>
        ((s.bindings ⟨tags.termTaxonomy, some b⟩).filter fun w =>
            (w.entry "term_taxonomy_id").equals (r.entry "term_taxonomy_id") &&
              (w.entry "taxonomy").is taxonomy).flatMap fun w =>
          ((s.bindings ⟨tags.terms, some c⟩).filter fun x =>
              (x.entry "term_id").equals (w.entry "term_id")).map fun x =>
            x :: w :: r :: scope := by
  simp only [linked, tagLinks, List.foldl_cons, List.foldl_nil, filter_joined, joined_singleton,
    List.flatMap_map, List.flatMap_assoc]
  refine List.flatMap_congr fun r hr => ?_
  have lr := label_of_mem_bindings hr
  have ht : (s.bindings ⟨tags.termTaxonomy, some b⟩).filter (fun w =>
        testsHold now (w :: r :: scope)
          [.equal (.of b "term_taxonomy_id") (.of a "term_taxonomy_id"),
            .isText (.of b "taxonomy") taxonomy]) =
      (s.bindings ⟨tags.termTaxonomy, some b⟩).filter (fun w =>
        (w.entry "term_taxonomy_id").equals (r.entry "term_taxonomy_id") &&
          (w.entry "taxonomy").is taxonomy) :=
    List.filter_congr fun w hw => testsHold_taxonomy h lr (label_of_mem_bindings hw) taxonomy
  rw [ht]
  refine List.flatMap_congr fun w hw => ?_
  have lw := label_of_mem_bindings (List.mem_filter.1 hw).1
  have hx : (s.bindings ⟨tags.terms, some c⟩).filter (fun x =>
        testsHold now (x :: w :: r :: scope) [.equal (.of c "term_id") (.of b "term_id")]) =
      (s.bindings ⟨tags.terms, some c⟩).filter (fun x =>
        (x.entry "term_id").equals (w.entry "term_id")) :=
    List.filter_congr fun x hx => testsHold_term h lr lw (label_of_mem_bindings hx)
  rw [hx]

end SheetExport.Store
