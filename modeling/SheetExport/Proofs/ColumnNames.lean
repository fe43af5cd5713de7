import Mathlib.Data.List.Perm.Subperm
import SheetExport.Proofs.ProjectedRows

/-!
# Names of result columns

Labels may repeat, but the names of the columns of a result never do, whatever numbers are drawn for
them. A taken name is numbered again until it is free, and there are more numbers than names to
avoid.
-/

namespace SheetExport.Store

open Text (sameName lowerAscii)

variable {taken : List String} {name base : String}

/-- A name is taken if one of the names is the same to the engine. -/
def Taken (taken : List String) (name : String) : Prop :=
  lowerAscii name ∈ taken.map lowerAscii

theorem any_sameName : taken.any (sameName name) = true ↔ Taken taken name := by
  rw [List.any_eq_true, Taken, List.mem_map]
  exact exists_congr fun other => and_congr_right fun _ => sameName_iff.trans eq_comm

/-! ## Numbers at the end of a name -/

def withNumber (base : String) (k : Nat) : String := base ++ ":" ++ toString k

theorem withoutNumber_withNumber (base : String) (k : Nat) :
    withoutNumber (withNumber base k) = base := by
  have hdigits : ∀ c ∈ (toString k).toList.reverse, c.isDigit = true :=
    fun c hc => isDigit_of_mem_toString (List.mem_reverse.1 hc)
  have hlist : (withNumber base k).toList.reverse.dropWhile Char.isDigit =
      ':' :: base.toList.reverse := by
    simp only [withNumber, String.toList_append, List.reverse_append]
    rw [List.dropWhile_append_of_pos hdigits]
    rfl
  unfold withoutNumber
  rw [hlist]
  simp

theorem lowerAscii_withNumber_inj {j k : Nat}
    (h : lowerAscii (withNumber base j) = lowerAscii (withNumber base k)) : j = k := by
  have hlower (k : Nat) : (toString k).toList.map Char.toLower = (toString k).toList :=
    (List.map_congr_left fun c hc => toLower_of_isDigit (isDigit_of_mem_toString hc)).trans
      (List.map_id _)
  have hl := congrArg String.toList h
  simp only [withNumber, toList_lowerAscii, String.toList_append, List.map_append,
    List.append_cancel_left_eq, hlower] at hl
  exact toString_nat_inj.1 (String.toList_inj.1 hl)

/-! ## Free names -/

theorem tryNumber_of_le {drawn : List UInt32} {count : Nat}
    (h : countedTries + drawn.length ≤ count) : tryNumber drawn count = count + 1 := by
  have hdrawn : drawn[count - countedTries]? = none := List.getElem?_eq_none (by omega)
  rw [tryNumber, if_neg (by omega), hdrawn]
  rfl

variable {drawn : List UInt32}

theorem taken_of_freshName {count fuel : Nat}
    (h : Taken taken (freshName drawn taken count fuel name)) : Taken taken name := by
  cases fuel with
  | zero => exact h
  | succ fuel =>
    rw [freshName] at h
    split at h
    · rename_i ht
      exact any_sameName.1 ht
    · exact h

/-- If no name was found to be free, all the numbers were tried. -/
theorem taken_withNumber (fuel : Nat) : ∀ {count : Nat} {name : String},
    Taken taken (freshName drawn taken count fuel name) → ∀ k, count ≤ k → k < count + fuel →
      Taken taken (withNumber (withoutNumber name) (tryNumber drawn k)) := by
  induction fuel with
  | zero => intro count name _ k hle hlt; omega
  | succ fuel ih =>
    intro count name h k hle hlt
    have ht := any_sameName.2 (taken_of_freshName h)
    rw [freshName, if_pos ht] at h
    change Taken taken (freshName drawn taken (count + 1) fuel
      (withNumber (withoutNumber name) (tryNumber drawn count))) at h
    by_cases hk : k = count
    · subst hk
      exact taken_of_freshName h
    · have := ih h k (by omega) (by omega)
      rwa [withoutNumber_withNumber] at this

theorem exists_free_number (taken : List String) (base : String) (first : Nat) :
    ∃ k, first ≤ k ∧ k ≤ first + taken.length ∧ ¬ Taken taken (withNumber base (k + 1)) := by
  by_contra hnone
  have hall : ∀ k, first ≤ k → k ≤ first + taken.length →
      Taken taken (withNumber base (k + 1)) := by
    intro k hle hlast
    by_contra hfree
    exact hnone ⟨k, hle, hlast, hfree⟩
  -- Otherwise the numbered names, no two of them alike, would all be among the shorter list.
  let numbered := (List.range (taken.length + 1)).map fun k =>
    lowerAscii (withNumber base (first + k + 1))
  have hnodup : numbered.Nodup := by
    refine List.pairwise_map.2 (List.pairwise_lt_range.imp fun hlt he => ?_)
    have := lowerAscii_withNumber_inj he
    omega
  have hsub : numbered ⊆ taken.map lowerAscii := by
    intro x hx
    obtain ⟨k, hk, rfl⟩ := List.mem_map.1 hx
    rw [List.mem_range] at hk
    exact hall (first + k) (by omega) (by omega)
  have hle := (hnodup.subperm hsub).length_le
  simp only [numbered, List.length_map, List.length_range] at hle
  omega

theorem freshName_free (drawn : List UInt32) (taken : List String) (name : String) :
    ¬ Taken taken (freshName drawn taken 0 (triesFor drawn taken) name) := by
  intro h
  obtain ⟨k, hfirst, hlast, hfree⟩ :=
    exists_free_number taken (withoutNumber name) (countedTries + drawn.length)
  have htaken := taken_withNumber _ h k (Nat.zero_le k) (by rw [triesFor]; omega)
  rw [tryNumber_of_le hfirst] at htaken
  exact hfree htaken

/-! ## Columns -/

theorem nodup_columnNames (drawn : List (List UInt32)) (labels : List String) :
    ((columnNames drawn labels).map lowerAscii).Nodup := by
  unfold columnNames
  refine List.foldlRecOn labels.zipIdx _ (motive := fun names : List String =>
    (names.map lowerAscii).Nodup) List.nodup_nil fun taken h x _ => ?_
  rw [List.map_append, List.nodup_append]
  refine ⟨h, by simp, fun a ha b hb => ?_⟩
  rw [List.map_singleton, List.mem_singleton] at hb
  rintro rfl
  exact freshName_free _ taken _ (hb ▸ ha)

theorem columnsFit_resultTable (s : Store) (o : Occasion) (name : String) (p : Sql.Projection)
    (hsome : p.outputs ≠ []) (hfits : projectionFits p = true) :
    columnsFit (s.resultTable o name p).columns = true := by
  have hnames := s.names_resultTable o name p
  have hlength : (s.resultTable o name p).columns.length = p.outputs.length := by
    have := congrArg List.length hnames
    rwa [List.length_map, length_columnNames, List.length_map] at this
  have hnodup : ((s.resultTable o name p).columns.map fun c => lowerAscii c.name).Nodup := by
    have := nodup_columnNames o.drawn (p.outputs.map (·.label))
    rwa [← hnames, List.map_map] at this
  have hne : (s.resultTable o name p).columns ≠ [] := by
    rw [← List.length_pos_iff, hlength, List.length_pos_iff]
    exact hsome
  simp only [projectionFits, Bool.and_eq_true, decide_eq_true_eq] at hfits
  simp only [columnsFit, Bool.and_eq_true, Bool.not_eq_true', decide_eq_true_eq,
    allDifferent_iff, hlength]
  exact ⟨⟨List.isEmpty_eq_false_iff.2 hne, hfits.2⟩, hnodup⟩

end SheetExport.Store
