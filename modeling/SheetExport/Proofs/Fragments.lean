import SheetExport.Proofs.Filters

/-!
# The fragments of a list of filters

Each filter gives one fragment, numbered by its place. A selection takes the fragments apart into
joins and clauses; none is lost, and no two joins have one name.
-/

namespace SheetExport

open Text (sameName)
open Sql (Clause Join)
open Store (Entry Answers Shows Outer Fits)

/-! ## Unsupported rules -/

/-- A tag has no order, so it cannot be compared with a value. -/
def Filter.Unsupported (f : Filter) : Prop := f.field.kind = .tag ∧ f.rule.isOrdering = true

instance (f : Filter) : Decidable f.Unsupported := inferInstanceAs (Decidable (_ ∧ _))

namespace EntityType

variable {t : EntityType} {tags : TagTables}

theorem fragmentsFrom_cons {n : Nat} {f : Filter} {fs : List Filter}
    {parts : List (FieldKind × Fragment)} :
    t.fragmentsFrom tags n (f :: fs) = .ok parts ↔
      ∃ p rest, t.fragment tags n f = .ok p ∧ t.fragmentsFrom tags (n + 1) fs = .ok rest ∧
        parts = (f.field.kind, p) :: rest := by
  rw [fragmentsFrom]
  cases hp : t.fragment tags n f with
  | error fault => simp [bind, Except.bind]
  | ok p =>
    cases hr : t.fragmentsFrom tags (n + 1) fs with
    | error fault => simp [bind, Except.bind]
    | ok rest =>
      simp only [bind, Except.bind, pure, Except.pure, Except.ok.injEq]
      constructor
      · rintro rfl
        exact ⟨p, rest, rfl, rfl, rfl⟩
      · rintro ⟨_, _, rfl, rfl, rfl⟩
        rfl

theorem exists_filter {fs : List Filter} {part : FieldKind × Fragment} : ∀ {n : Nat}
    {parts : List (FieldKind × Fragment)}, t.fragmentsFrom tags n fs = .ok parts →
    part ∈ parts → ∃ i f, f ∈ fs ∧ t.fragment tags i f = .ok part.2 := by
  induction fs with
  | nil =>
    intro n parts h hm
    simp only [fragmentsFrom, Except.ok.injEq] at h
    subst h
    exact absurd hm List.not_mem_nil
  | cons f fs ih =>
    intro n parts h hm
    obtain ⟨p, rest, hp, hrest, rfl⟩ := fragmentsFrom_cons.1 h
    rcases List.mem_cons.1 hm with rfl | hm
    · exact ⟨n, f, List.mem_cons_self, hp⟩
    · obtain ⟨i, g, hg, hi⟩ := ih hrest hm
      exact ⟨i, g, List.mem_cons_of_mem _ hg, hi⟩

section

variable {f : Filter} {n : Nat}

theorem fragment_unsupported (h : f.Unsupported) :
    t.fragment tags n f = .error (.unsupportedRule f.field.key f.rule.text) := by
  obtain ⟨hk, hr⟩ := h
  unfold fragment
  rw [hk]
  cases hc : f.rule with
  | compare c => rfl
  | _ => simp [hc, Rule.isOrdering] at hr

theorem fragment_supported (t : EntityType) (tags : TagTables) (n : Nat) (h : ¬ f.Unsupported) :
    ∃ p, t.fragment tags n f = .ok p := by
  unfold fragment
  cases hk : f.field.kind with
  | fixed => exact ⟨_, rfl⟩
  | custom => exact ⟨_, rfl⟩
  | tag =>
    cases hr : f.rule with
    | compare c => exact absurd ⟨hk, by rw [hr]; rfl⟩ h
    | _ => exact ⟨_, rfl⟩

theorem fragmentsFrom_supported {filters : List Filter} (h : ∀ f ∈ filters, ¬ f.Unsupported) :
    ∀ n, ∃ parts, t.fragmentsFrom tags n filters = .ok parts := by
  induction filters with
  | nil => exact fun n => ⟨[], rfl⟩
  | cons f rest ih =>
    obtain ⟨hf, hrest⟩ := List.forall_mem_cons.1 h
    intro n
    obtain ⟨p, hp⟩ := fragment_supported t tags n hf
    obtain ⟨parts, hparts⟩ := ih hrest (n + 1)
    exact ⟨_, fragmentsFrom_cons.2 ⟨p, parts, hp, hparts, rfl⟩⟩

/-- Of several unsupported filters the first one counts. -/
theorem fragmentsFrom_unsupported {before after : List Filter} (hf : f.Unsupported)
    (hb : ∀ g ∈ before, ¬ g.Unsupported) : ∀ n,
    t.fragmentsFrom tags n (before ++ f :: after) =
      .error (.unsupportedRule f.field.key f.rule.text) := by
  induction before with
  | nil =>
    intro n
    rw [List.nil_append, fragmentsFrom, fragment_unsupported hf]
    rfl
  | cons g rest ih =>
    obtain ⟨hg, hrest⟩ := List.forall_mem_cons.1 hb
    intro n
    obtain ⟨p, hp⟩ := fragment_supported t tags n hg
    rw [List.cons_append, fragmentsFrom, hp]
    simp only [bind, Except.bind]
    rw [ih hrest (n + 1)]

end

/-! ## Joins and clauses -/

theorem mem_joinsOf {tagged : Bool} {parts : List (FieldKind × Fragment)} {j : Join} :
    j ∈ joinsOf tagged parts ↔ ∃ kind, (kind = FieldKind.tag ↔ tagged = true) ∧
      (kind, Fragment.join j) ∈ parts := by
  simp only [joinsOf, List.mem_filterMap, Prod.exists, eq_iff_iff]
  constructor
  · rintro ⟨kind, p, hp, hj⟩
    split at hj
    · rename_i hk
      cases p with
      | join j' =>
        simp only [Fragment.join?, Option.some.injEq] at hj
        exact ⟨kind, hk, hj ▸ hp⟩
      | clause c => simp [Fragment.join?] at hj
    · simp at hj
  · rintro ⟨kind, hk, hp⟩
    exact ⟨kind, _, hp, by rw [if_pos hk]; rfl⟩

theorem mem_clausesOf {tagged : Bool} {parts : List (FieldKind × Fragment)} {c : Clause} :
    c ∈ clausesOf tagged parts ↔ ∃ kind, (kind = FieldKind.tag ↔ tagged = true) ∧
      (kind, Fragment.clause c) ∈ parts := by
  simp only [clausesOf, List.mem_filterMap, Prod.exists, eq_iff_iff]
  constructor
  · rintro ⟨kind, p, hp, hc⟩
    split at hc
    · rename_i hk
      cases p with
      | clause c' =>
        simp only [Fragment.clause?, Option.some.injEq] at hc
        exact ⟨kind, hk, hc ▸ hp⟩
      | join j => simp [Fragment.clause?] at hc
    · simp at hc
  · rintro ⟨kind, hk, hp⟩
    exact ⟨kind, _, hp, by rw [if_pos hk]; rfl⟩

theorem mem_joins {parts : List (FieldKind × Fragment)} {j : Join} :
    j ∈ joinsOf false parts ++ joinsOf true parts ↔ ∃ kind, (kind, Fragment.join j) ∈ parts := by
  simp only [List.mem_append, mem_joinsOf]
  constructor
  · rintro (⟨kind, -, h⟩ | ⟨kind, -, h⟩) <;> exact ⟨kind, h⟩
  · rintro ⟨kind, h⟩
    by_cases hk : kind = .tag
    · exact .inr ⟨kind, by simp [hk], h⟩
    · exact .inl ⟨kind, by simp [hk], h⟩

theorem mem_clauses {parts : List (FieldKind × Fragment)} {c : Clause} :
    c ∈ clausesOf false parts ++ clausesOf true parts ↔
      ∃ kind, (kind, Fragment.clause c) ∈ parts := by
  simp only [List.mem_append, mem_clausesOf]
  constructor
  · rintro (⟨kind, -, h⟩ | ⟨kind, -, h⟩) <;> exact ⟨kind, h⟩
  · rintro ⟨kind, h⟩
    by_cases hk : kind = .tag
    · exact .inr ⟨kind, by simp [hk], h⟩
    · exact .inl ⟨kind, by simp [hk], h⟩

/-! ## Names of joins -/

/-- The stem of the name that a join has for its filter. -/
def joinStem (kind : FieldKind) : String := if kind = .tag then "tj" else "m"

theorem isStem_joinStem (kind : FieldKind) : IsStem (joinStem kind) := by
  cases kind <;> decide

theorem fragment_label {i : Nat} {f : Filter} {j : Join}
    (h : t.fragment tags i f = .ok (.join j)) :
    j.source.label = numbered (joinStem f.field.kind) i := by
  unfold fragment at h
  cases hk : f.field.kind with
  | fixed => simp [hk] at h
  | custom =>
    simp only [hk, Except.ok.injEq, Fragment.join.injEq] at h
    subst h
    rfl
  | tag =>
    simp only [hk] at h
    split at h
    · simp only [Except.ok.injEq, Fragment.join.injEq] at h
      subst h
      rfl
    · simp only [Except.ok.injEq, Fragment.join.injEq] at h
      subst h
      rfl
    · simp at h
    · simp at h
    · simp at h

theorem fragmentsFrom_numbered {fs : List Filter} : ∀ {n : Nat}
    {parts : List (FieldKind × Fragment)}, t.fragmentsFrom tags n fs = .ok parts →
    (∀ kind j, (kind, Fragment.join j) ∈ parts →
      ∃ i, n ≤ i ∧ j.source.label = numbered (joinStem kind) i) ∧
    parts.Pairwise fun p q => ∀ j k, p.2 = .join j → q.2 = .join k →
      sameName j.source.label k.source.label = false := by
  induction fs with
  | nil =>
    intro n parts h
    simp only [fragmentsFrom, Except.ok.injEq] at h
    subst h
    simp
  | cons f fs ih =>
    intro n parts h
    obtain ⟨p, rest, hp, hrest, rfl⟩ := fragmentsFrom_cons.1 h
    obtain ⟨hlabel, hpair⟩ := ih hrest
    constructor
    · intro kind j hj
      rcases List.mem_cons.1 hj with hj | hj
      · obtain ⟨rfl, rfl⟩ := Prod.mk.inj hj
        exact ⟨n, Nat.le_refl n, fragment_label hp⟩
      · obtain ⟨i, hi, hl⟩ := hlabel kind j hj
        exact ⟨i, by omega, hl⟩
    · refine List.pairwise_cons.2 ⟨?_, hpair⟩
      rintro ⟨kind, q⟩ hq j k hpj hqk
      simp only at hpj hqk
      subst hpj hqk
      obtain ⟨i, hi, hl⟩ := hlabel kind k hq
      rw [fragment_label hp, hl, sameName_numbered (isStem_joinStem _) (isStem_joinStem _)]
      have : n ≠ i := by omega
      simp [this]

theorem joins_apart {fs : List Filter} {n : Nat} {parts : List (FieldKind × Fragment)}
    (h : t.fragmentsFrom tags n fs = .ok parts) :
    (joinsOf false parts ++ joinsOf true parts).Pairwise fun j k =>
      sameName j.source.label k.source.label = false := by
  obtain ⟨hlabel, hpair⟩ := fragmentsFrom_numbered h
  have each (tagged : Bool) : (joinsOf tagged parts).Pairwise fun j k =>
      sameName j.source.label k.source.label = false := by
    refine List.Pairwise.filterMap _ ?_ hpair
    rintro ⟨kind, p⟩ ⟨kind', q⟩ hpq j hj k hk
    simp only at hj hk
    split at hj
    · split at hk
      · cases p <;> cases q <;> simp_all [Fragment.join?]
      · simp at hk
    · simp at hj
  refine List.pairwise_append.2 ⟨each false, each true, ?_⟩
  intro j hj k hk
  obtain ⟨kj, hkj, hj⟩ := mem_joinsOf.1 hj
  obtain ⟨kk, hkk, hk⟩ := mem_joinsOf.1 hk
  obtain ⟨i, -, hi⟩ := hlabel kj j hj
  obtain ⟨i', -, hi'⟩ := hlabel kk k hk
  have hsj : joinStem kj = "m" := by simp [joinStem, show kj ≠ .tag by simpa using hkj]
  have hsk : joinStem kk = "tj" := by simp [joinStem, show kk = .tag by simpa using hkk]
  rw [hi, hi', hsj, hsk, sameName_numbered (by decide) (by decide)]
  rfl

/-- A join brings in its rows under a name that a selection keeps for joins. -/
theorem join_label {fs : List Filter} {n : Nat} {parts : List (FieldKind × Fragment)}
    (h : t.fragmentsFrom tags n fs = .ok parts) {j : Join}
    (hj : j ∈ joinsOf false parts ++ joinsOf true parts) :
    ∃ i, j.source.label = numbered "m" i ∨ j.source.label = numbered "tj" i := by
  obtain ⟨kind, hk⟩ := mem_joins.1 hj
  obtain ⟨i, -, hi⟩ := (fragmentsFrom_numbered h).1 kind j hk
  refine ⟨i, ?_⟩
  unfold joinStem at hi
  split at hi
  · exact .inr hi
  · exact .inl hi

/-! ## Meaning -/

theorem answers_iff_passes {s : Store} {now : Int} (hl : Unnumbered t.entityTable)
    {scope : Store.Scope} {e : Entry} (hs : Shows scope t.entityTable e)
    (ho : Outer t.entityTable scope) {fs : List Filter} :
    (∀ f ∈ fs, f.AsksAbsence → s.TermsNamed tags) → ∀ {n : Nat}
    {parts : List (FieldKind × Fragment)}, t.fragmentsFrom tags n fs = .ok parts →
    (∀ part ∈ parts, Fits scope part.2) →
    ((∀ part ∈ parts, s.Answers now scope part.2) ↔ ∀ f ∈ fs, s.passes now tags t e f = true) := by
  induction fs with
  | nil =>
    intro _ n parts h _
    simp only [fragmentsFrom, Except.ok.injEq] at h
    subst h
    simp
  | cons f fs ih =>
    intro hn n parts h hf
    obtain ⟨p, rest, hp, hrest, rfl⟩ := fragmentsFrom_cons.1 h
    simp only [List.forall_mem_cons] at hn hf ⊢
    rw [ih hn.2 hrest hf.2, Store.fragment_means hn.1 hl hp scope e hs ho hf.1]

end EntityType

end SheetExport
