import SheetExport.Proofs.Fragments
import SheetExport.Store.Resolution

/-!
# Which columns a selection needs

A query resolves when every table is there and every reference finds a column. For the selection of
an export this comes down to a list of columns, each with its table: those of the entity that it
always needs, and those that its filters name.
-/

namespace SheetExport

open Text (sameName)
open Sql (Reference Source Test Link Lookup Clause Join Selection)

/-! ## References of a query -/

namespace Sql

def Test.references : Test → List Reference
  | .equal a b => [a, b]
  | .holds r _ => [r]

def Lookup.sources (l : Lookup) : List Source := l.source :: l.links.map Link.source

def Lookup.references (l : Lookup) : List Reference :=
  l.column :: (l.links.flatMap Link.tests ++ l.tests).flatMap Test.references

end Sql

namespace Store

/-- Whether a table is there and has a column. -/
def offers (s : Store) (table column : String) : Bool :=
  match s.table? table with
  | some t => (t.place? column).isSome
  | none => false

def offersAll (s : Store) (columns : List (String × String)) : Prop :=
  ∀ c ∈ columns, s.offers c.1 c.2 = true

theorem offersAll_append {s : Store} {a b : List (String × String)} :
    s.offersAll (a ++ b) ↔ s.offersAll a ∧ s.offersAll b := by
  simp only [offersAll, List.forall_mem_append]

theorem offersAll_cons {s : Store} {c : String × String} {rest : List (String × String)} :
    s.offersAll (c :: rest) ↔ s.offers c.1 c.2 = true ∧ s.offersAll rest := by
  simp only [offersAll, List.forall_mem_cons]

theorem isSome_of_offers {s : Store} {table column : String}
    (h : s.offers table column = true) : (s.table? table).isSome = true := by
  unfold offers at h
  split at h
  · rename_i t ht
    rw [ht]
    rfl
  · exact absurd h Bool.false_ne_true

/-- A reference means a column of a source with its label. -/
def Finds (s : Store) (sources : List Source) : Reference → Prop
  | .of label column => ∃ source ∈ sources, sameName source.label label = true ∧
      s.offers source.table column = true
  | .bare _ => True

/-- The headers are those of the sources. -/
structure Covers (s : Store) (headers : List Header) (sources : List Source) : Prop where
  source_of : ∀ h ∈ headers, ∃ source ∈ sources, s.header? source = some h
  header_of : ∀ source ∈ sources, ∃ h ∈ headers, s.header? source = some h

theorem header?_eq_some {s : Store} {source : Source} {h : Header} :
    s.header? source = some h ↔
      ∃ t, s.table? source.table = some t ∧ h = t.header source.label := by
  unfold header?
  rw [Option.map_eq_some_iff]
  exact exists_congr fun t => and_congr_right fun _ => eq_comm

theorem resolves_iff {s : Store} {headers : List Header} {sources : List Source}
    (hc : s.Covers headers sources) (r : Reference) :
    resolves headers r = true ↔ s.Finds sources r := by
  cases r with
  | bare column => simp [resolves, Finds]
  | of label column =>
    -- A header that has the column under the label is one of a source that offers it.
    have one {source : Source} {h : Header} (hs : s.header? source = some h) :
        (h.place? (.of label column)).isSome = true ↔
          sameName source.label label = true ∧ s.offers source.table column = true := by
      obtain ⟨t, ht, rfl⟩ := header?_eq_some.1 hs
      have ho : s.offers source.table column = (t.place? column).isSome := by rw [offers, ht]
      rw [ho]
      simp only [Header.place?, Table.header, Table.place?]
      by_cases hl : sameName source.label label = true <;> simp [hl]
    simp only [resolves, List.any_eq_true, Finds]
    constructor
    · rintro ⟨h, hh, hp⟩
      obtain ⟨source, hsrc, hs⟩ := hc.source_of h hh
      exact ⟨source, hsrc, (one hs).1 hp⟩
    · rintro ⟨source, hsrc, hp⟩
      obtain ⟨h, hh, hs⟩ := hc.header_of source hsrc
      exact ⟨h, hh, (one hs).2 hp⟩

theorem headers?_covers {s : Store} : ∀ {sources : List Source} {headers : List Header},
    s.headers? sources = some headers → s.Covers headers sources
  | [], headers, h => by
    simp only [headers?, List.mapM_nil, pure, Option.some.injEq] at h
    subst h
    exact ⟨by simp, by simp⟩
  | source :: rest, headers, h => by
    simp only [headers?, List.mapM_cons, bind, Option.bind_eq_some_iff, pure,
      Option.some.injEq] at h
    obtain ⟨first, hf, others, ho, rfl⟩ := h
    have ih : s.Covers others rest := headers?_covers ho
    constructor
    · intro h hh
      rcases List.mem_cons.1 hh with rfl | hh
      · exact ⟨source, List.mem_cons_self, hf⟩
      · obtain ⟨src, hs, he⟩ := ih.source_of h hh
        exact ⟨src, List.mem_cons_of_mem _ hs, he⟩
    · intro src hs
      rcases List.mem_cons.1 hs with rfl | hs
      · exact ⟨first, List.mem_cons_self, hf⟩
      · obtain ⟨h, hh, he⟩ := ih.header_of src hs
        exact ⟨h, List.mem_cons_of_mem _ hh, he⟩

theorem headers?_isSome {s : Store} {sources : List Source} :
    (∃ headers, s.headers? sources = some headers) ↔
      ∀ source ∈ sources, (s.table? source.table).isSome = true := by
  constructor
  · rintro ⟨headers, h⟩ source hs
    obtain ⟨header, -, he⟩ := (headers?_covers h).header_of source hs
    obtain ⟨t, ht, -⟩ := header?_eq_some.1 he
    rw [ht]
    rfl
  · induction sources with
    | nil => intro _; exact ⟨[], rfl⟩
    | cons source rest ih =>
      intro h
      obtain ⟨t, ht⟩ := Option.isSome_iff_exists.1 (h source List.mem_cons_self)
      obtain ⟨others, ho⟩ := ih fun src hs => h src (List.mem_cons_of_mem _ hs)
      refine ⟨t.header source.label :: others, ?_⟩
      unfold headers? at ho ⊢
      rw [List.mapM_cons, header?_eq_some.2 ⟨t, ht, rfl⟩, ho]
      rfl

theorem Covers.append {s : Store} {own outer : List Header} {sources around : List Source}
    (h : s.Covers own sources) (ho : s.Covers outer around) :
    s.Covers (own ++ outer) (sources ++ around) := by
  constructor
  · intro x hx
    rcases List.mem_append.1 hx with hx | hx
    · obtain ⟨src, hs, he⟩ := h.source_of x hx
      exact ⟨src, List.mem_append_left _ hs, he⟩
    · obtain ⟨src, hs, he⟩ := ho.source_of x hx
      exact ⟨src, List.mem_append_right _ hs, he⟩
  · intro src hs
    rcases List.mem_append.1 hs with hs | hs
    · obtain ⟨x, hx, he⟩ := h.header_of src hs
      exact ⟨x, List.mem_append_left _ hx, he⟩
    · obtain ⟨x, hx, he⟩ := ho.header_of src hs
      exact ⟨x, List.mem_append_right _ hx, he⟩

/-! ## Tests, lookups and clauses -/

theorem testResolves_iff {s : Store} {headers : List Header} {sources : List Source}
    (hc : s.Covers headers sources) (t : Test) :
    testResolves headers t = true ↔ ∀ r ∈ t.references, s.Finds sources r := by
  cases t <;> simp [testResolves, Test.references, resolves_iff hc]

/-- All tables of a lookup are there, and all its references find a column. -/
def LookupFinds (s : Store) (around : List Source) (l : Lookup) : Prop :=
  (∀ source ∈ l.sources, (s.table? source.table).isSome = true) ∧
    ∀ r ∈ l.references, s.Finds (l.sources ++ around) r

theorem lookupResolves_iff {s : Store} {headers : List Header} {around : List Source}
    (hc : s.Covers headers around) (l : Lookup) :
    s.lookupResolves headers l = true ↔ s.LookupFinds around l := by
  have hall {hs : List Header} (ho : s.headers? l.sources = some hs) :
      s.lookupResolves headers l = true ↔ ∀ r ∈ l.references, s.Finds (l.sources ++ around) r := by
    have hcov := (headers?_covers ho).append hc
    unfold lookupResolves
    simp only [Lookup.sources] at ho
    rw [ho]
    simp only [Bool.and_eq_true, List.all_eq_true, resolves_iff hcov, testResolves_iff hcov]
    simp only [Lookup.references, List.forall_mem_cons, List.mem_flatMap, List.mem_append]
    constructor
    · rintro ⟨⟨hcol, hl⟩, ht⟩
      refine ⟨hcol, ?_⟩
      rintro r ⟨t, ⟨k, hk, htk⟩ | htt, hr⟩
      · exact hl k hk t htk r hr
      · exact ht t htt r hr
    · rintro ⟨hcol, hr⟩
      exact ⟨⟨hcol, fun k hk t ht r hrt => hr r ⟨t, .inl ⟨k, hk, ht⟩, hrt⟩⟩,
        fun t ht r hrt => hr r ⟨t, .inr ht, hrt⟩⟩
  unfold LookupFinds
  rw [← headers?_isSome]
  constructor
  · intro h
    have hex : ∃ hs, s.headers? l.sources = some hs := by
      unfold lookupResolves at h
      split at h
      · exact absurd h Bool.false_ne_true
      · rename_i own ho
        exact ⟨own, ho⟩
    obtain ⟨hs, ho⟩ := hex
    exact ⟨⟨hs, ho⟩, (hall ho).1 h⟩
  · rintro ⟨⟨hs, ho⟩, h⟩
    exact (hall ho).2 h

def ClauseFinds (s : Store) (sources : List Source) : Clause → Prop
  | .test t => ∀ r ∈ t.references, s.Finds sources r
  | .among r l => s.Finds sources r ∧ s.LookupFinds sources l
  | .notAmong _ l | .nothing l => s.LookupFinds sources l

theorem clauseResolves_iff {s : Store} {headers : List Header} {sources : List Source}
    (hc : s.Covers headers sources) (c : Clause) :
    s.clauseResolves headers c = true ↔ s.ClauseFinds sources c := by
  cases c with
  | test t => exact testResolves_iff hc t
  | among r l =>
    simp only [clauseResolves, Bool.and_eq_true, resolves_iff hc, lookupResolves_iff hc]
    rfl
  | notAmong v l => exact lookupResolves_iff hc l
  | nothing l => exact lookupResolves_iff hc l

/-- The sources of the outer query of a selection. -/
def selectionSources (q : Selection) : List Source := q.source :: q.joins.map Join.source

theorem selectionResolves_iff {s : Store} {q : Selection} :
    s.selectionResolves q = true ↔
      (∀ source ∈ selectionSources q, (s.table? source.table).isSome = true) ∧
        s.Finds (selectionSources q) q.column ∧
        (∀ j ∈ q.joins, ∀ c ∈ j.clauses, s.ClauseFinds (selectionSources q) c) ∧
        ∀ c ∈ q.clauses, s.ClauseFinds (selectionSources q) c := by
  have hall {hs : List Header} (ho : s.headers? (selectionSources q) = some hs) :
      s.selectionResolves q = true ↔ s.Finds (selectionSources q) q.column ∧
        (∀ j ∈ q.joins, ∀ c ∈ j.clauses, s.ClauseFinds (selectionSources q) c) ∧
        ∀ c ∈ q.clauses, s.ClauseFinds (selectionSources q) c := by
    have hc := headers?_covers ho
    unfold selectionResolves
    unfold selectionSources at ho
    rw [ho]
    simp only [Bool.and_eq_true, List.all_eq_true, resolves_iff hc, clauseResolves_iff hc,
      and_assoc]
  rw [← headers?_isSome]
  constructor
  · intro h
    have hex : ∃ hs, s.headers? (selectionSources q) = some hs := by
      unfold selectionResolves at h
      split at h
      · exact absurd h Bool.false_ne_true
      · rename_i headers ho
        exact ⟨headers, ho⟩
    obtain ⟨hs, ho⟩ := hex
    exact ⟨⟨hs, ho⟩, (hall ho).1 h⟩
  · rintro ⟨⟨hs, ho⟩, h⟩
    exact (hall ho).2 h

end Store

end SheetExport
