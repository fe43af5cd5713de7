import SheetExport.Catalog
import SheetExport.Proofs.ByteOrder
import SheetExport.Proofs.Gatherings
import SheetExport.Proofs.NeededColumns
import SheetExport.Proofs.SelectedRows

/-!
# The keys of a scan

A scan of the attribute rows succeeds when each row has a text or nothing for its key, and then it
gives each text once, in the order of the texts.
-/

namespace SheetExport

theorem Value.same_text (a b : String) : (Value.text a).same (.text b) = decide (a = b) := by
  rw [Bool.eq_iff_iff, decide_eq_true_eq]
  simp only [Value.same, Value.isNull, Value.order, reduceCtorEq, decide_false, Bool.false_and,
    Bool.false_or, beq_iff_eq, Option.some.injEq]
  exact compareOfLessAndEq_eq_eq String.le_refl String.not_le

theorem Value.eq_text_of_same {a : String} {v : Value} (h : (Value.text a).same v = true) :
    v = .text a := by
  cases v with
  | text b =>
    rw [same_text, decide_eq_true_eq] at h
    rw [h]
  | _ => simp [Value.same, Value.isNull, Value.order, Value.rank] at h

theorem eq_of_ascending {as bs : List String} (ha : as.Pairwise (· < ·))
    (hb : bs.Pairwise (· < ·)) (h : ∀ k, k ∈ as ↔ k ∈ bs) : as = bs := by
  have nodup {ks : List String} (hk : ks.Pairwise (· < ·)) : ks.Nodup :=
    hk.imp fun {x y} (hxy : x < y) (he : x = y) => String.lt_irrefl y (he ▸ hxy)
  exact ((List.perm_ext_iff_of_nodup (nodup ha) (nodup hb)).2 h).eq_of_pairwise
    (fun x y _ _ hxy hyx => absurd (String.lt_trans hxy hyx) (String.lt_irrefl x)) ha hb

namespace Store

theorem mem_of_mem_distinct {vs : List Value} {v : Value} (h : v ∈ distinct vs) : v ∈ vs := by
  have kept : ∀ (vs kept : List Value), v ∈ vs.foldl
      (fun kept v => if kept.any (·.same v) then kept else kept ++ [v]) kept →
      v ∈ kept ∨ v ∈ vs := by
    intro vs
    induction vs with
    | nil => exact fun kept h => .inl h
    | cons w vs ih =>
      intro kept h
      rw [List.foldl_cons] at h
      rcases ih _ h with h | h
      · split at h
        · exact .inl h
        · rcases List.mem_append.1 h with h | h
          · exact .inl h
          · exact .inr (List.mem_singleton.1 h ▸ List.mem_cons_self)
      · exact .inr (List.mem_cons_of_mem _ h)
  simpa using kept vs [] h

/-- A value is kept, or there is one before it that counts as the same. -/
theorem exists_distinct_of_mem {vs : List Value} {v : Value} (h : v ∈ vs) :
    ∃ w ∈ distinct vs, w = v ∨ w.same v = true := by
  have kept : ∀ (vs kept : List Value), v ∈ kept ∨ v ∈ vs ∨ (∃ w ∈ kept, w.same v = true) →
      ∃ w ∈ vs.foldl (fun kept v => if kept.any (·.same v) then kept else kept ++ [v]) kept,
        w = v ∨ w.same v = true := by
    intro vs
    induction vs with
    | nil =>
      rintro kept (h | h | ⟨w, hw, hs⟩)
      · exact ⟨v, h, .inl rfl⟩
      · exact absurd h List.not_mem_nil
      · exact ⟨w, hw, .inr hs⟩
    | cons u vs ih =>
      intro kept h
      rw [List.foldl_cons]
      apply ih
      split
      · rename_i hu
        rcases h with h | h | h
        · exact .inl h
        · rcases List.mem_cons.1 h with rfl | h
          · exact .inr (.inr (List.any_eq_true.1 hu))
          · exact .inr (.inl h)
        · exact .inr (.inr h)
      · rcases h with h | h | ⟨w, hw, hs⟩
        · exact .inl (List.mem_append_left _ h)
        · rcases List.mem_cons.1 h with rfl | h
          · exact .inl (by simp)
          · exact .inr (.inl h)
        · exact .inr (.inr ⟨w, List.mem_append_left _ hw, hs⟩)
  exact kept vs [] (.inr (.inl h))

end Store

namespace Catalog

open Store (operand)

theorem sortsBefore_text (a b : String) :
    (Value.text a).sortsBefore (.text b) = decide (a < b) := by
  rw [Bool.eq_iff_iff, decide_eq_true_eq]
  simp only [Value.sortsBefore, Value.isNull, Value.order, reduceCtorEq, decide_false,
    Bool.false_eq_true, if_false, beq_iff_eq, Option.some.injEq]
  exact compareOfLessAndEq_eq_lt

theorem sorted_texts (ks : List String) : ∃ keys : List String,
    sorted (ks.map .text) = keys.map .text ∧ keys.Pairwise (· < ·) ∧ ∀ k, k ∈ keys ↔ k ∈ ks := by
  obtain ⟨kept, hk, hn, hm⟩ := Store.distinct_faithful Value.same_text ks
  let le (a b : String) : Bool := !decide (b < a)
  have hperm := List.mergeSort_perm kept le
  have hsorted : (kept.mergeSort le).Pairwise fun a b => le a b = true := by
    refine List.pairwise_mergeSort (fun a b c hab hbc => ?_) (fun a b => ?_) kept
    · simp only [le, Bool.not_eq_true', decide_eq_false_iff_not, String.not_lt] at hab hbc ⊢
      exact String.le_trans hab hbc
    · simp only [le, Bool.or_eq_true, Bool.not_eq_true', decide_eq_false_iff_not, String.not_lt]
      exact String.le_total a b
  refine ⟨kept.mergeSort le, ?_, ?_, fun k => by rw [hperm.mem_iff, hm]⟩
  · have order (a b : String) : le a b = !(Value.text b).sortsBefore (.text a) := by
      rw [sortsBefore_text]
    rw [sorted, hk]
    exact (List.map_mergeSort (f := Value.text) (s := fun a b => !b.sortsBefore a)
      fun a _ b _ => order a b).symm
  · refine (hsorted.and (hperm.nodup_iff.2 hn)).imp fun {a b} h => ?_
    simp only [le, Bool.not_eq_true', decide_eq_false_iff_not] at h
    by_contra hab
    exact h.2 (String.le_antisymm (String.not_lt.1 h.1) (String.not_lt.1 hab))

/-! ## Reading keys -/

theorem mapM_textValue_texts (ks : List String) :
    (ks.map Value.text).mapM textValue = .ok ks := by
  induction ks with
  | nil => rfl
  | cons k ks ih =>
    rw [List.map_cons, List.mapM_cons, ih]
    rfl

theorem isText_of_mapM_textValue {vs : List Value} : ∀ {keys : List String},
    vs.mapM textValue = .ok keys → ∀ v ∈ vs, v.isNull = false → ∃ k, v = .text k := by
  induction vs with
  | nil => exact fun _ v hv => absurd hv List.not_mem_nil
  | cons w vs ih =>
    intro keys h v hv hnull
    rw [List.mapM_cons] at h
    cases hw : textValue w with
    | error fault => simp [hw, bind, Except.bind] at h
    | ok k =>
      cases hrest : vs.mapM textValue with
      | error fault => simp [hw, hrest, bind, Except.bind] at h
      | ok ks =>
        rcases List.mem_cons.1 hv with rfl | hv
        · cases v with
          | null => simp [Value.isNull] at hnull
          | text k => exact ⟨k, rfl⟩
          | _ => simp [textValue, Value.readText?, Registry.orRejected] at hw
        · exact ih hrest v hv hnull

theorem readKeys {vs : List Value} (h : ∀ v ∈ vs, v = .null ∨ ∃ k, v = .text k) :
    ∃ found : List String, (sorted (vs.filter (!·.isNull))).mapM textValue = .ok found ∧
      found.Pairwise (· < ·) ∧ ∀ k, k ∈ found ↔ .text k ∈ vs := by
  have texts : ∀ v ∈ vs.filter (!·.isNull), ∃ k, v = .text k := by
    intro v hv
    obtain ⟨hv, hnull⟩ := List.mem_filter.1 hv
    refine (h v hv).resolve_left fun he => ?_
    simp [he, Value.isNull] at hnull
  obtain ⟨ks, hks⟩ := Store.exists_map_of_forall texts
  obtain ⟨found, hs, hp, hm⟩ := sorted_texts ks
  refine ⟨found, by rw [hks, hs, mapM_textValue_texts], hp, fun k => ?_⟩
  have hk : k ∈ ks ↔ Value.text k ∈ ks.map Value.text := by simp
  rw [hm, hk, ← hks, List.mem_filter]
  simp [Value.isNull]

/-- The keys of the attribute rows of a type, if every name is there. -/
def keyValues? (s : Store) (t : EntityType) : Option (List Value) :=
  values? s (attributeSources t).1 (attributeSources t).2

theorem scanKeys_eq (s : Store) (t : EntityType) :
    scanKeys s t = match keyValues? s t with
      | none => .error .rejected
      | some vs => (sorted (vs.filter (!·.isNull))).mapM textValue := by
  unfold scanKeys keyValues?
  dsimp only
  cases values? s (attributeSources t).1 (attributeSources t).2 <;> rfl

theorem scanKeys_eq_ok {s : Store} {t : EntityType} {keys : List String} :
    scanKeys s t = .ok keys ↔ ∃ vs, keyValues? s t = some vs ∧
      (∀ v ∈ vs, v = .null ∨ ∃ k, v = .text k) ∧ keys.Pairwise (· < ·) ∧
      ∀ k, k ∈ keys ↔ .text k ∈ vs := by
  rw [scanKeys_eq]
  cases keyValues? s t with
  | none => simp
  | some vs =>
    simp only [Option.some.injEq, exists_eq_left']
    constructor
    · intro h
      have texts : ∀ v ∈ vs, v = .null ∨ ∃ k, v = .text k := by
        intro v hv
        by_cases hnull : v = .null
        · exact .inl hnull
        · have hkept : v ∈ vs.filter (!·.isNull) :=
            List.mem_filter.2 ⟨hv, by simp [Value.isNull, hnull]⟩
          obtain ⟨w, hw, hsame⟩ := Store.exists_distinct_of_mem hkept
          obtain ⟨k, rfl⟩ := isText_of_mapM_textValue h w (List.mem_mergeSort.2 hw)
            (by simpa using (List.mem_filter.1 (Store.mem_of_mem_distinct hw)).2)
          exact .inr ⟨k, hsame.elim Eq.symm Value.eq_text_of_same⟩
      obtain ⟨found, hf, hp, hm⟩ := readKeys texts
      rw [hf, Except.ok.injEq] at h
      exact ⟨texts, h ▸ hp, h ▸ hm⟩
    · rintro ⟨texts, hp, hm⟩
      obtain ⟨found, hf, hp', hm'⟩ := readKeys texts
      rw [hf, Except.ok.injEq]
      exact eq_of_ascending hp' hp fun k => (hm' k).trans (hm k).symm

end Catalog

/-! ## Rows of a scan -/

namespace Store

/-- Whether an entity of the type has the id. -/
def owns (s : Store) (t : EntityType) (id : Operand) : Bool :=
  (s.entitiesOf t).any fun e => id.equals (e t.entityId)

/-- The attribute rows of the entities of a type. A table that entities do not share is theirs as a
whole. -/
def attributeRowsOf (s : Store) (t : EntityType) : List Entry :=
  (s.entries t.attributeTable).filter fun m =>
    t.subtype.isNone || s.owns t (m t.attributeEntityId)

theorem owns_iff {s : Store} {t : EntityType} {subtype : String} (hs : t.subtype = some subtype)
    (id : Operand) : s.owns t id = true ↔ ∃ e ∈ s.entries t.entityTable,
      id.equals (e t.entityId) = true ∧ (e subtypeColumn).is subtype = true := by
  simp only [owns, entitiesOf, hs, Option.all_some, List.any_eq_true, List.mem_filter]
  exact exists_congr fun e => by rw [and_assoc, and_comm (a := (e subtypeColumn).is subtype = true)]

end Store

namespace Catalog

open Store (operand)

section

variable {s : Store} {t : EntityType}

theorem values?_single (table column : String) :
    values? s [(⟨table, none⟩, [])] (.bare column) = (s.table? table).map fun rows =>
      (rows.bindings table).map fun b => (operand [b] (.bare column)).value := by
  have hheaders : headers? s [(⟨table, none⟩, [])] = (s.table? table).map fun rows =>
      [rows.header table] := by
    unfold headers? Store.headers?
    rw [List.map_cons, List.map_nil, List.mapM_cons, List.mapM_nil, Store.header?]
    cases s.table? table <;> rfl
  unfold values?
  rw [hheaders]
  cases ht : s.table? table with
  | none => rfl
  | some rows =>
    simp [Store.resolves, scopes, Store.joined_singleton, Store.bindings, ht, Store.testsHold,
      Sql.Source.label]

theorem values?_offered {table column : String} (h : s.offers table column = true) :
    values? s [(⟨table, none⟩, [])] (.bare column) =
      some ((s.entries table).map fun e => (e column).value) := by
  obtain ⟨rows, ht⟩ := Option.isSome_iff_exists.1 (Store.isSome_of_offers h)
  have hb : s.bindings ⟨table, none⟩ = rows.bindings table := by
    simp [Store.bindings, ht, Sql.Source.label]
  rw [values?_single, ht, Option.map_some, ← hb, ← Store.map_entry_bindings s ⟨table, none⟩,
    List.map_map]
  refine congrArg some (List.map_congr_left fun b hm => ?_)
  rw [Function.comp_apply, Store.operand_bare (Store.place_bare_of_offers hm h)]

/-- The columns that tell the rows of one subtype. -/
def subtypeColumns (t : EntityType) : List (String × String) :=
  [(t.attributeTable, keyColumn), (t.attributeTable, t.attributeEntityId),
    (t.entityTable, t.entityId), (t.entityTable, subtypeColumn)]

/-- The columns that a scan reads. -/
def scannedColumns (t : EntityType) : List (String × String) :=
  if t.subtype.isSome then subtypeColumns t else [(t.attributeTable, keyColumn)]

/-- The sources of a scan for a subtype. -/
def subtypeSources (t : EntityType) : List Sql.Source :=
  [⟨t.attributeTable, some "m"⟩, ⟨t.entityTable, some "e"⟩]

theorem told_subtypeSources (t : EntityType) : Store.Told (subtypeSources t) :=
  Store.told_of_pairwise (by simp [subtypeSources, Sql.Source.label]; decide)

theorem scopes_subtype {subtype : String} (hs : t.subtype = some subtype) (v : Value) :
    v ∈ (scopes s (attributeSources t).1).map
        (fun scope => (operand scope (attributeSources t).2).value) ↔
      ∃ m ∈ s.attributeRowsOf t, (m keyColumn).value = v := by
  have shows {m e : Store.Binding} (hm : m.header.label = "m") (he : e.header.label = "e") :
      Store.Shows [e, m] "m" m.entry ∧ Store.Shows [e, m] "e" e.entry := by
    refine ⟨(Store.shows_head hm (Store.free_nil _)).cons ?_, Store.shows_head he ?_⟩
    · rw [he]
      decide
    · refine Store.free_cons.2 ⟨?_, Store.free_nil _⟩
      rw [hm]
      decide
  have holds {m e : Store.Binding} (hm : m.header.label = "m") (he : e.header.label = "e") :
      Store.testsHold anyTime [e, m] [.equal (.of "m" t.attributeEntityId) (.of "e" t.entityId),
        .isText (.of "e" subtypeColumn) subtype] =
      ((m.entry t.attributeEntityId).equals (e.entry t.entityId) &&
        (e.entry subtypeColumn).is subtype) := by
    obtain ⟨sm, se⟩ := shows hm he
    simp only [Store.testsHold, List.all_cons, List.all_nil, Bool.and_true,
      Store.equal_isTrue sm se, Store.isText_isTrue se]
  simp only [attributeSources, hs, scopes, List.foldl_cons, List.foldl_nil, Store.testsHold,
    List.all_nil, List.filter_true, List.mem_map, List.mem_filter, Store.mem_joined,
    List.mem_singleton, Store.attributeRowsOf, Option.isNone_some, Bool.false_or,
    Store.owns_iff hs]
  constructor
  · rintro ⟨_, ⟨⟨_, ⟨_, rfl, m, hm, rfl⟩, e, he, rfl⟩, ht⟩, rfl⟩
    have lm := Store.label_of_mem_bindings hm
    have le := Store.label_of_mem_bindings he
    have ht : Store.testsHold anyTime [e, m] _ = true := ht
    rw [holds lm le, Bool.and_eq_true] at ht
    exact ⟨m.entry, ⟨Store.entry_mem hm, e.entry, Store.entry_mem he, ht⟩,
      congrArg Operand.value ((shows lm le).1 keyColumn).symm⟩
  · rintro ⟨_, ⟨mm, _, me, ht⟩, rfl⟩
    obtain ⟨m, hm, rfl⟩ := Store.exists_binding mm (some "m")
    obtain ⟨e, he, rfl⟩ := Store.exists_binding me (some "e")
    have lm := Store.label_of_mem_bindings hm
    have le := Store.label_of_mem_bindings he
    refine ⟨[e, m], ⟨⟨[m], ⟨[], rfl, m, hm, rfl⟩, e, he, rfl⟩, ?_⟩,
      congrArg Operand.value ((shows lm le).1 keyColumn)⟩
    have ht' := holds lm le
    rw [ht.1, ht.2] at ht'
    exact ht'

theorem sources_subtype {subtype : String} (hs : t.subtype = some subtype) :
    (attributeSources t).1.map Prod.fst = subtypeSources t := by
  simp [attributeSources, hs, subtypeSources]

theorem resolves_subtype {subtype : String} (hs : t.subtype = some subtype)
    {headers : List Store.Header} (hh : s.headers? (subtypeSources t) = some headers) :
    (Store.resolves headers (attributeSources t).2 && (attributeSources t).1.all
      fun source => source.2.all (Store.testResolves headers)) = true ↔
      s.offersAll (subtypeColumns t) := by
  have hc := Store.headers?_covers hh
  have m := (told_subtypeSources t).finds s ⟨t.attributeTable, some "m"⟩ (by simp [subtypeSources])
  have e := (told_subtypeSources t).finds s ⟨t.entityTable, some "e"⟩ (by simp [subtypeSources])
  simp only [Sql.Source.label, Option.getD_some] at m e
  simp [attributeSources, hs, Store.resolves_iff hc, Store.testResolves_iff hc,
    Sql.Test.references, Sql.Test.isText, m, e, Store.offersAll, subtypeColumns, and_assoc]

/-- The columns that a scan for a subtype reads are there if it finds anything, and enough for it to
find the keys of the type's own attribute rows. -/
theorem keyValues?_subtype {subtype : String} (hs : t.subtype = some subtype) :
    (∀ vs, keyValues? s t = some vs → s.offersAll (subtypeColumns t) ∧ ∀ v, v ∈ vs ↔
      ∃ m ∈ s.attributeRowsOf t, (m keyColumn).value = v) ∧
    (s.offersAll (subtypeColumns t) → ∃ vs, keyValues? s t = some vs) := by
  have closed (hh : s.headers? (subtypeSources t) = none) : keyValues? s t = none := by
    simp only [keyValues?, values?, headers?, sources_subtype hs, hh]
  have opened {headers : List Store.Header} (hh : s.headers? (subtypeSources t) = some headers) :
      keyValues? s t =
        if Store.resolves headers (attributeSources t).2 && (attributeSources t).1.all
          fun source => source.2.all (Store.testResolves headers) then
          some ((scopes s (attributeSources t).1).map
            fun scope => (operand scope (attributeSources t).2).value)
        else none := by
    simp only [keyValues?, values?, headers?, sources_subtype hs, hh]
  constructor
  · intro vs h
    cases hh : s.headers? (subtypeSources t) with
    | none => exact absurd ((closed hh).symm.trans h) (by simp)
    | some headers =>
      rw [opened hh] at h
      split at h
      · rename_i hr
        obtain rfl := Option.some.inj h
        exact ⟨(resolves_subtype hs hh).1 hr, scopes_subtype hs⟩
      · exact absurd h (by simp)
  · intro h
    have there : ∀ source ∈ subtypeSources t, (s.table? source.table).isSome = true := by
      simp only [Store.offersAll, subtypeColumns, List.forall_mem_cons] at h
      simp only [subtypeSources, List.forall_mem_cons, List.not_mem_nil, false_implies,
        implies_true, and_true]
      exact ⟨Store.isSome_of_offers h.1, Store.isSome_of_offers h.2.2.1⟩
    obtain ⟨headers, hh⟩ := Store.headers?_isSome.2 there
    rw [opened hh, if_pos ((resolves_subtype hs hh).2 h)]
    exact ⟨_, rfl⟩

theorem keyValues?_scanned (h : s.offersAll (scannedColumns t)) :
    ∃ vs, keyValues? s t = some vs ∧
      ∀ v, v ∈ vs ↔ ∃ m ∈ s.attributeRowsOf t, (m keyColumn).value = v := by
  unfold scannedColumns at h
  cases hs : t.subtype with
  | some subtype =>
    rw [hs, Option.isSome_some, if_pos rfl] at h
    obtain ⟨hfound, hopens⟩ := keyValues?_subtype (s := s) hs
    obtain ⟨vs, hvs⟩ := hopens h
    exact ⟨vs, hvs, (hfound vs hvs).2⟩
  | none =>
    rw [hs, Option.isSome_none, if_neg Bool.false_ne_true] at h
    have hvs : keyValues? s t =
        some ((s.entries t.attributeTable).map fun e => (e keyColumn).value) := by
      unfold keyValues? attributeSources
      rw [hs]
      exact values?_offered (Store.offersAll_cons.1 h).1
    exact ⟨_, hvs, fun v => by simp [Store.attributeRowsOf, hs]⟩

/-- The keys of a type can be read: their columns are there, and every row has a text or nothing
for its key. -/
structure KeysReadable (s : Store) (t : EntityType) : Prop where
  columns : s.offersAll (scannedColumns t)
  texts : ∀ m ∈ s.attributeRowsOf t, (m keyColumn).value = .null ∨
    ∃ k, (m keyColumn).value = .text k

/-- The keys are those of the attribute rows of the type, in the order of their bytes. -/
def AreKeys (s : Store) (t : EntityType) (keys : List String) : Prop :=
  keys.Pairwise (fun a b => bytesOf a < bytesOf b) ∧
    ∀ k, k ∈ keys ↔ ∃ m ∈ s.attributeRowsOf t, (m keyColumn).value = .text k

theorem exists_scanKeys (h : KeysReadable s t) :
    ∃ keys, scanKeys s t = .ok keys ∧ AreKeys s t keys := by
  obtain ⟨vs, hvs, hm⟩ := keyValues?_scanned h.columns
  have texts : ∀ v ∈ vs, v = .null ∨ ∃ k, v = .text k := by
    intro v hv
    obtain ⟨m, hmem, rfl⟩ := (hm v).1 hv
    exact h.texts m hmem
  obtain ⟨keys, hread, hp, hk⟩ := readKeys texts
  refine ⟨keys, ?_, hp.imp bytesOf_lt, fun k => (hk k).trans (hm _)⟩
  rw [scanKeys_eq, hvs]
  exact hread

end

end Catalog

end SheetExport
