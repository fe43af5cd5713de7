import SheetExport.Proofs.Names
import SheetExport.Store.Execution

/-!
# Tables of a store

What is found under a name after a table was put in place of another, created or dropped. An
operation on one name changes nothing under any other, and operations on different names can change
places.
-/

namespace SheetExport.Store

open Text (sameName)

variable {s s' : Store} {name other : String} {t u : Table}

theorem name_of_table? (h : s.table? name = some t) : sameName t.name name = true := by
  simpa using List.find?_some h

theorem table?_congr (h : sameName name other = true) (s : Store) :
    s.table? name = s.table? other := by
  unfold table?
  congr 1
  funext t
  rw [sameName_comm t.name, sameName_comm t.name, sameName_congr h]

/-! ## Replacing -/

theorem table?_replace_self (ht : s.table? name = some u) (hn : sameName t.name name = true) :
    (s.replace name t).table? name = some t := by
  unfold table? replace at *
  rw [List.find?_map]
  have hc : (fun t => sameName t.name name) ∘
      (fun u : Table => if sameName u.name name then t else u) =
        fun u => sameName u.name name := by
    funext v
    by_cases hv : sameName v.name name = true
    · simp [hv, hn]
    · simp [hv]
  rw [hc, ht]
  simp [name_of_table? ht]

theorem table?_replace_other (hn : sameName t.name name = true)
    (ho : sameName name other = false) : (s.replace name t).table? other = s.table? other := by
  unfold table? replace
  have ht : sameName t.name other = false := by rw [sameName_congr hn]; exact ho
  induction s.tables with
  | nil => rfl
  | cons u rest ih =>
    rw [List.map_cons, List.find?_cons, List.find?_cons, ih]
    by_cases hu : sameName u.name name = true
    · have : sameName u.name other = false := by rw [sameName_congr hu]; exact ho
      simp [hu, ht, this]
    · simp [hu]

theorem change?_eq_some {α : Type} {f : Table → Option (Table × α)} {a : α} :
    s.change? name f = some (s', a) ↔
      ∃ t u, s.table? name = some t ∧ f t = some (u, a) ∧ s' = s.replace name u := by
  unfold change?
  cases ht : s.table? name with
  | none => simp
  | some t =>
    cases hf : f t with
    | none => simp [hf]
    | some p =>
      obtain ⟨u, b⟩ := p
      simp only [bind, Option.bind, hf, pure, Option.some.injEq, Prod.mk.injEq]
      constructor
      · rintro ⟨rfl, rfl⟩
        exact ⟨t, u, rfl, hf, rfl⟩
      · rintro ⟨_, _, rfl, h, rfl⟩
        rw [hf] at h
        obtain ⟨rfl, rfl⟩ := Prod.mk.inj (Option.some.inj h)
        exact ⟨rfl, rfl⟩

theorem insert?_eq_some {cells : List (String × Value)} :
    s.insert? name cells = some s' ↔
      ∃ t u, s.table? name = some t ∧ t.insert? cells = some u ∧ s' = s.replace name u := by
  unfold insert?
  rw [Option.map_eq_some_iff]
  constructor
  · rintro ⟨⟨s'', ⟨⟩⟩, h, rfl⟩
    obtain ⟨t, u, ht, hu, rfl⟩ := change?_eq_some.1 h
    obtain ⟨u', hu', he⟩ := Option.map_eq_some_iff.1 hu
    obtain ⟨rfl, -⟩ := Prod.mk.inj he
    exact ⟨t, u', ht, hu', rfl⟩
  · rintro ⟨t, u, ht, hu, rfl⟩
    exact ⟨(_, ()), change?_eq_some.2 ⟨t, u, ht, by rw [hu]; rfl, rfl⟩, rfl⟩

/-! ## Creating -/

theorem allDifferent_iff {names : List String} : allDifferent names = true ↔ names.Nodup := by
  induction names with
  | nil => simp [allDifferent]
  | cons name rest ih => simp [allDifferent, ih]

theorem create?_eq_some :
    s.create? t = some s' ↔
      (isReserved t.name = false ∧ s.table? t.name = none ∧ columnsFit t.columns = true) ∧
        s' = ⟨s.tables ++ [t]⟩ := by
  unfold create?
  split
  · rename_i h
    simp only [Bool.or_eq_true, Option.isSome_iff_ne_none, Bool.not_eq_true'] at h
    simp only [reduceCtorEq, false_iff]
    rintro ⟨⟨h1, h2, h3⟩, -⟩
    simp [h1, h2, h3] at h
  · rename_i h
    simp only [Bool.or_eq_true, not_or, Bool.not_eq_true, Bool.not_eq_false',
      Option.isSome_eq_false_iff, Option.isNone_iff_eq_none] at h
    simp only [Option.some.injEq, h, and_self, true_and]
    exact eq_comm

theorem table?_append (s : Store) (t : Table) (name : String) :
    (⟨s.tables ++ [t]⟩ : Store).table? name =
      (s.table? name).or (if sameName t.name name then some t else none) := by
  simp only [table?, List.find?_append, List.find?_singleton]

theorem table?_create_self (h : s.create? t = some s') (hn : sameName t.name name = true) :
    s'.table? name = some t := by
  obtain ⟨⟨-, hfree, -⟩, rfl⟩ := create?_eq_some.1 h
  rw [table?_append, ← table?_congr hn, hfree]
  simp [hn]

theorem table?_create_other (h : s.create? t = some s') (hn : sameName t.name name = false) :
    s'.table? name = s.table? name := by
  obtain ⟨-, rfl⟩ := create?_eq_some.1 h
  rw [table?_append]
  simp [hn]

/-! ## Dropping -/

theorem table?_without_self (hn : sameName name other = true) :
    (s.without name).table? other = none := by
  unfold table? without
  rw [List.find?_eq_none]
  intro u hu
  have hu := (List.mem_filter.1 hu).2
  simp only [Bool.not_eq_true'] at hu
  rw [sameName_comm, ← sameName_congr hn, sameName_comm, hu]
  exact Bool.false_ne_true

theorem table?_without_other (hn : sameName name other = false) :
    (s.without name).table? other = s.table? other := by
  unfold table? without
  rw [List.find?_filter]
  congr 1
  funext u
  by_cases hu : sameName u.name name = true
  · have : sameName u.name other = false := by rw [sameName_congr hu]; exact hn
    simp [this]
  · simp [hu]

/-! ## Tables with some names -/

/-- The tables whose names are kept. -/
def keeping (s : Store) (kept : String → Bool) : Store := ⟨s.tables.filter fun t => kept t.name⟩

/-- A choice of names that does not look at the case of letters. -/
def Uncased (kept : String → Bool) : Prop := ∀ a b, sameName a b = true → kept a = kept b

section

variable {kept : String → Bool}

theorem keeping_append_self (h : kept t.name = false) :
    (⟨s.tables ++ [t]⟩ : Store).keeping kept = s.keeping kept := by
  unfold keeping
  simp [h]

theorem keeping_append_other (h : kept t.name = true) :
    (⟨s.tables ++ [t]⟩ : Store).keeping kept = ⟨(s.keeping kept).tables ++ [t]⟩ := by
  unfold keeping
  simp [h]

theorem keeping_replace_self (hk : Uncased kept) (hn : sameName t.name name = true)
    (h : kept name = false) : (s.replace name t).keeping kept = s.keeping kept := by
  unfold keeping replace
  congr 1
  have ht : kept t.name = false := (hk _ _ hn).trans h
  induction s.tables with
  | nil => rfl
  | cons u rest ih =>
    rw [List.map_cons, List.filter_cons, List.filter_cons, ih]
    by_cases hu : sameName u.name name = true
    · simp [hu, ht, (hk _ _ hu).trans h]
    · simp [hu]

theorem keeping_replace_other (hk : Uncased kept) (hn : sameName t.name name = true)
    (h : kept name = true) :
    (s.replace name t).keeping kept = (s.keeping kept).replace name t := by
  unfold keeping replace
  congr 1
  have ht : kept t.name = true := (hk _ _ hn).trans h
  induction s.tables with
  | nil => rfl
  | cons u rest ih =>
    rw [List.map_cons, List.filter_cons, List.filter_cons, ih]
    by_cases hu : sameName u.name name = true
    · simp [hu, ht, (hk _ _ hu).trans h]
    · cases hkept : kept u.name with
      | false => simp [hu, hkept]
      | true => simp [hu, hkept]

theorem keeping_without_self (hk : Uncased kept) (h : kept name = false) :
    (s.without name).keeping kept = s.keeping kept := by
  unfold keeping without
  rw [List.filter_filter]
  refine congrArg Store.mk (List.filter_congr fun u _ => ?_)
  cases hu : sameName u.name name with
  | false => simp
  | true => simp [(hk _ _ hu).trans h]

theorem keeping_without_comm :
    (s.without name).keeping kept = (s.keeping kept).without name := by
  unfold keeping without
  rw [List.filter_filter, List.filter_filter]
  simp [Bool.and_comm]

theorem table?_keeping (hk : Uncased kept) (h : kept name = true) :
    (s.keeping kept).table? name = s.table? name := by
  unfold table? keeping
  rw [List.find?_filter]
  congr 1
  funext u
  cases hu : sameName u.name name with
  | false => simp
  | true => simp [(hk _ _ hu).trans h]

theorem has_keeping (h : kept name = true) : (s.keeping kept).has name = s.has name := by
  unfold has keeping
  rw [List.any_filter]
  refine List.any_congr rfl fun u => ?_
  by_cases hu : u.name = name
  · simp [hu, h]
  · simp [hu]

end

/-! ## Changes one after another -/

theorem replace_without_comm (hn : sameName t.name name = true)
    (ho : sameName name other = false) :
    (s.replace name t).without other = (s.without other).replace name t := by
  have hk : Uncased fun a => !sameName a other := fun a b hab => by
    dsimp only
    rw [sameName_congr hab]
  exact keeping_replace_other hk hn (by rw [ho, Bool.not_false])

theorem replace_append_other (hn : sameName u.name name = false) :
    (⟨s.tables ++ [u]⟩ : Store).replace name t = ⟨(s.replace name t).tables ++ [u]⟩ := by
  unfold replace
  simp [hn]

theorem replace_replace_self (hn : sameName t.name name = true) :
    (s.replace name t).replace name u = s.replace name u := by
  unfold replace
  rw [List.map_map]
  refine congrArg Store.mk (List.map_congr_left fun v _ => ?_)
  by_cases hv : sameName v.name name = true
  · simp [hv, hn]
  · simp [hv]

theorem replace_comm (ht : sameName t.name name = true) (hu : sameName u.name other = true)
    (ho : sameName name other = false) :
    (s.replace name t).replace other u = (s.replace other u).replace name t := by
  have hto : sameName t.name other = false := (sameName_congr ht other).trans ho
  have hun : sameName u.name name = false := by
    rw [sameName_congr hu, sameName_comm]
    exact ho
  unfold replace
  rw [List.map_map, List.map_map]
  refine congrArg Store.mk (List.map_congr_left fun v _ => ?_)
  by_cases hv : sameName v.name name = true
  · have hvo : sameName v.name other = false := (sameName_congr hv other).trans ho
    simp [hv, hto, hvo]
  · by_cases hvo : sameName v.name other = true
    · simp [hv, hvo, hun]
    · simp [hv, hvo]

theorem has_replace_other (ht : sameName t.name name = true) (hn : sameName name other = false) :
    (s.replace name t).has other = s.has other := by
  unfold has replace
  rw [List.any_map]
  refine List.any_congr rfl fun u => ?_
  have differs {v : Table} (hv : sameName v.name name = true) : (v.name == other) = false := by
    rw [beq_eq_false_iff_ne]
    rintro rfl
    rw [sameName_comm, hv] at hn
    exact Bool.noConfusion hn
  rw [Function.comp_apply]
  split
  · rename_i hu
    rw [differs hu, differs ht]
  · rfl

end SheetExport.Store
