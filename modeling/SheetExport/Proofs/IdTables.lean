import Mathlib.Order.Defs.LinearOrder
import SheetExport.Proofs.Tables

/-!
# Tables of ids

Putting distinct integers into a table of ids, one at a time and in any order, leaves every one of
them in it, once and in ascending order.
-/

namespace SheetExport.Store

open Text (sameName)

/-- The row of an id. -/
def idRow (i : Int) : Row := ⟨i, [.integer i]⟩

/-- A table that holds ids. -/
def idTableOf (name : String) (ids : List Int) : Table :=
  { idTable name with rows := ids.map idRow }

theorem place_idRow (i : Int) (ids : List Int) (hs : ids.Pairwise (· < ·)) (hi : i ∉ ids) :
    ∃ ids' : List Int, Table.place .integer (idRow i) (ids.map idRow) = ids'.map idRow ∧
      ids'.Pairwise (· < ·) ∧ ∀ j, j ∈ ids' ↔ j = i ∨ j ∈ ids := by
  induction ids with
  | nil => exact ⟨[i], rfl, by simp, by simp⟩
  | cons k rest ih =>
    obtain ⟨hk, hs⟩ := List.pairwise_cons.1 hs
    simp only [List.mem_cons, not_or] at hi
    obtain ⟨ids', hp, hs', hm⟩ := ih hs hi.2
    by_cases h : i < k
    · refine ⟨i :: k :: rest, ?_, ?_, by simp⟩
      · simp [Table.place, Row.before, idRow, h]
      · refine List.pairwise_cons.2 ⟨?_, List.pairwise_cons.2 ⟨hk, hs⟩⟩
        intro j hj
        rcases List.mem_cons.1 hj with rfl | hj
        · exact h
        · exact Int.lt_trans h (hk j hj)
    · refine ⟨k :: ids', ?_, ?_, ?_⟩
      · simp only [List.map_cons, Table.place, ← hp]
        simp [Row.before, idRow, h]
      · refine List.pairwise_cons.2 ⟨?_, hs'⟩
        intro j hj
        rcases (hm j).1 hj with rfl | hj
        · omega
        · exact hk j hj
      · intro j
        simp only [List.mem_cons, hm]
        constructor
        · rintro (h | h | h) <;> simp [h]
        · rintro (h | h | h) <;> simp [h]

theorem row?_id (name : String) (ids : List Int) (fresh : Option Int) (i : Int) :
    (idTableOf name ids).row? fresh ⟨.null, [.integer i]⟩ = some (idRow i) := by
  simp [Table.row?, idTableOf, idTable, Column.needed, Table.numberFrom?, Value.stored,
    Value.toNumeric, Value.toWhole, idRow, Column.accepts, Value.isNull]

theorem any_clashes_idRow (i : Int) (ids : List Int) :
    (ids.map idRow).any ((idRow i).clashes .integer) = decide (i ∈ ids) := by
  induction ids with
  | nil => rfl
  | cons k rest ih =>
    rw [List.map_cons, List.any_cons, ih]
    have : (idRow i).clashes .integer (idRow k) = decide (i = k) := by
      by_cases h : i = k
      · simp [Row.clashes, idRow, h]
      · have hc : compare i k ≠ .eq := fun he => h (Int.compare_eq_eq.1 he)
        simp [Row.clashes, idRow, h, sameKey, Key.part, Value.order, hc]
    rw [this]
    simp [List.mem_cons]

theorem insert?_id (name : String) {ids : List Int} {i : Int} (hs : ids.Pairwise (· < ·))
    (hi : i ∉ ids) : ∃ ids' : List Int, (idTableOf name ids).insert? [("id", .integer i)] =
      some (idTableOf name ids') ∧ ids'.Pairwise (· < ·) ∧ ∀ j, j ∈ ids' ↔ j = i ∨ j ∈ ids := by
  obtain ⟨ids', hp, hs', hm⟩ := place_idRow i ids hs hi
  refine ⟨ids', ?_, hs', hm⟩
  have hplaces : (idTableOf name ids).places? [("id", .integer i)] =
      some [(.cell 0, .integer i)] := rfl
  have hrows : (idTableOf name ids).rows = ids.map idRow := rfl
  have hkey : (idTableOf name ids).key = .integer := rfl
  simp only [Table.insert?, hplaces, List.isEmpty_cons, Bool.false_eq_true, if_false, bind,
    Option.bind, Table.Draft.setAll, List.foldl_cons, List.foldl_nil, Table.Draft.set]
  change (idTableOf name ids).insertDraft? ⟨.null, [.integer i]⟩ = _
  simp only [Table.insertDraft?, row?_id, hrows, hkey, any_clashes_idRow, hi, decide_false,
    Bool.false_eq_true, if_false, hp, bind, Option.bind, pure]
  rfl

theorem insertIds?_integers {name : String} (new : List Int) : ∀ {s : Store} {ids : List Int},
    s.table? name = some (idTableOf name ids) → ids.Pairwise (· < ·) → new.Nodup →
    (∀ i ∈ new, i ∉ ids) →
    ∃ (s' : Store) (ids' : List Int), s.insertIds? name (new.map .integer) = some s' ∧
      s'.table? name = some (idTableOf name ids') ∧ ids'.Pairwise (· < ·) ∧
      (∀ i, i ∈ ids' ↔ i ∈ new ∨ i ∈ ids) ∧
      ∀ other, sameName name other = false → s'.table? other = s.table? other := by
  induction new with
  | nil =>
    intro s ids ht hs _ _
    exact ⟨s, ids, rfl, ht, hs, by simp, fun _ _ => rfl⟩
  | cons i new ih =>
    intro s ids ht hs hn hd
    obtain ⟨hi, hn⟩ := List.nodup_cons.1 hn
    obtain ⟨mid, hmid, hsm, hmm⟩ := insert?_id name hs (hd i List.mem_cons_self)
    have hself : sameName (idTableOf name mid).name name = true := sameName_self name
    obtain ⟨s', ids', hrun, htab, hsort, hmem, hother⟩ := ih
      (table?_replace_self ht hself) hsm hn (by
        intro j hj hjm
        rcases (hmm j).1 hjm with rfl | hjm
        · exact hi hj
        · exact hd j (List.mem_cons_of_mem _ hj) hjm)
    refine ⟨s', ids', ?_, htab, hsort, ?_, ?_⟩
    · have hins : s.insert? name [("id", .integer i)] =
          some (s.replace name (idTableOf name mid)) := insert?_eq_some.2 ⟨_, _, ht, hmid, rfl⟩
      simp only [insertIds?, List.map_cons, List.foldlM_cons, hins, bind, Option.bind]
      exact hrun
    · intro j
      rw [hmem, hmm, List.mem_cons]
      constructor
      · rintro (h | h | h) <;> simp [h]
      · rintro ((h | h) | h) <;> simp [h]
    · intro other ho
      rw [hother other ho, table?_replace_other hself ho]

end SheetExport.Store
