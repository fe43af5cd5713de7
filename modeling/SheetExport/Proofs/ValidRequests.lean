import Mathlib.Data.List.Forall2
import Mathlib.Data.List.TakeDrop
import Mathlib.Data.List.TakeWhile
import SheetExport.Proofs.Submissions

/-!
# Valid requests

A request is valid when it meets a list of demands, taken in a fixed order: on the name of its
type, on its fields, and on the field, the rule and the cast of each filter. The first demand that
it does not meet is the one that is reported.
-/

namespace SheetExport

/-! ## Spellings -/

def FieldKind.spellings : List (String × FieldKind) :=
  [("default", fixed), ("custom", custom), ("tag", tag), ("taxonomy", tag)]

def Cast.spellings : List (Option String × Option Cast) :=
  [(none, none), (some "", none), (some "none", none), (some "alpha", some alpha),
    (some "date", some date), (some "number", some number)]

/-- A text names a field by a word for its kind, a point and the whole name. -/
def Field.Named (raw : String) (kind : FieldKind) (name : String) : Prop :=
  name ≠ "" ∧ ∃ word, (word, kind) ∈ FieldKind.spellings ∧ raw = word ++ "." ++ name

theorem FieldKind.parse?_eq_some {raw : String} {kind : FieldKind} :
    parse? raw = some kind ↔ (raw, kind) ∈ spellings := by
  constructor
  · intro h
    unfold parse? at h
    split at h
    · simp_all [spellings]
    · split at h
      · simp_all [spellings]
      · split at h <;> simp_all [spellings]
  · have hall : ∀ p ∈ spellings, parse? p.1 = some p.2 := by decide
    exact hall (raw, kind)

theorem FieldKind.no_point {word : String} {kind : FieldKind} (h : (word, kind) ∈ spellings) :
    ∀ c ∈ word.toList, c ≠ '.' := by
  have hall : ∀ p ∈ spellings, '.' ∉ p.1.toList := by decide
  rintro c hc rfl
  exact hall (word, kind) h hc

theorem Rule.parse_eq_ok {raw : String} {rule : Rule} :
    parse raw = .ok rule ↔ (raw, rule) ∈ spellings := by
  constructor
  · intro h
    unfold parse at h
    split at h
    · next found =>
      obtain rfl := Except.ok.inj h
      obtain ⟨before, after, hs, -⟩ := List.lookup_eq_some_iff.1 found
      rw [hs]
      exact List.mem_append_right _ List.mem_cons_self
    · simp at h
  · have hall : ∀ p ∈ spellings, parse p.1 = .ok p.2 := by decide
    exact hall (raw, rule)

theorem Rule.fault_of_parse {raw : String} {fault : RequestFault}
    (h : parse raw = .error fault) : fault = .unknownRule raw := by
  unfold parse at h
  split at h <;> simp_all

theorem Cast.parse_eq_ok {raw : Option String} {cast : Option Cast} :
    parse raw = .ok cast ↔ (raw, cast) ∈ spellings := by
  constructor
  · intro h
    unfold parse at h
    split at h
    · simp_all [spellings]
    · repeat' split at h
      all_goals simp_all [spellings]
      tauto
  · have hall : ∀ p ∈ spellings, parse p.1 = .ok p.2 := by decide
    exact hall (raw, cast)

theorem Cast.fault_of_parse {raw : Option String} {fault : RequestFault}
    (h : parse raw = .error fault) : ∃ s, raw = some s ∧ fault = .unknownCast s := by
  unfold parse at h
  split at h
  · simp at h
  · repeat' split at h
    all_goals simp_all

namespace Field

theorem splitAtPoint_eq_some {raw word name : String} :
    splitAtPoint raw = some (word, name) ↔
      (∀ c ∈ word.toList, c ≠ '.') ∧ raw = word ++ "." ++ name := by
  unfold splitAtPoint
  rw [List.span_eq_takeWhile_dropWhile]
  constructor
  · intro h
    split at h
    · next kind mark rest hspan =>
      obtain ⟨rfl, hrest⟩ := Prod.mk.inj hspan
      obtain ⟨rfl, rfl⟩ := Prod.mk.inj (Option.some.inj h)
      have hmark : mark = '.' := by
        have := List.head?_dropWhile_not (· ≠ '.') raw.toList
        rw [hrest] at this
        simpa using this
      refine ⟨fun c hc => ?_, ?_⟩
      · rw [String.toList_ofList] at hc
        simpa using List.mem_takeWhile_imp hc
      · have := List.takeWhile_append_dropWhile (p := (· ≠ '.')) (l := raw.toList)
        rw [hrest, hmark] at this
        apply String.toList_injective
        simpa using this.symm
    · simp at h
  · rintro ⟨hword, rfl⟩
    have hraw : (word ++ "." ++ name).toList = word.toList ++ '.' :: name.toList := by simp
    have hw : ∀ c ∈ word.toList, (decide (c ≠ '.')) = true := by simpa using hword
    rw [hraw, List.takeWhile_append_of_pos hw, List.dropWhile_append_of_pos hw]
    simp

theorem parse_eq_ok {raw label : String} {f : Field} :
    parse raw label = .ok f ↔ Named raw f.kind f.name ∧ f.csvLabel = label := by
  constructor
  · intro h
    unfold parse at h
    split at h
    · simp at h
    · next word name hsplit =>
      split at h
      · simp at h
      · next kind hkind =>
        split at h
        · simp at h
        · next hname =>
          obtain rfl := Except.ok.inj h
          exact ⟨⟨hname, word, FieldKind.parse?_eq_some.1 hkind,
            (splitAtPoint_eq_some.1 hsplit).2⟩, rfl⟩
  · obtain ⟨kind, name, csvLabel⟩ := f
    rintro ⟨⟨hname, word, hword, rfl⟩, rfl⟩
    have hsplit : splitAtPoint (word ++ "." ++ name) = some (word, name) :=
      splitAtPoint_eq_some.2 ⟨FieldKind.no_point hword, rfl⟩
    simp only [parse, hsplit, FieldKind.parse?_eq_some.2 hword]
    exact if_neg hname

theorem fault_of_parse {raw label : String} {fault : RequestFault}
    (h : parse raw label = .error fault) : fault = .malformedField raw := by
  unfold parse at h
  repeat' split at h
  all_goals simp_all

/-- A text names one field only. -/
theorem Named.unique {raw : String} {kind kind' : FieldKind} {name name' : String}
    (h : Named raw kind name) (h' : Named raw kind' name') : kind = kind' ∧ name = name' := by
  have hp : parse raw "" = .ok ⟨kind, name, ""⟩ := parse_eq_ok.2 ⟨h, rfl⟩
  have hp' : parse raw "" = .ok ⟨kind', name', ""⟩ := parse_eq_ok.2 ⟨h', rfl⟩
  have := Except.ok.inj (hp.symm.trans hp')
  simp_all

end Field

/-! ## Demands -/

/-- Something that a request has to meet, and the fault that is reported if it does not. -/
structure Demand where
  holds : Prop
  fault : RequestFault

/-- The fault of the first demand that is not met. -/
def FirstFault : List Demand → RequestFault → Prop
  | [], _ => False
  | d :: ds, fault => (¬ d.holds ∧ fault = d.fault) ∨ (d.holds ∧ FirstFault ds fault)

/-- An outcome is right for a list of demands: it succeeds if they are all met, and otherwise it
reports the first that is not. -/
def Judges {α : Type} (outcome : Except RequestFault α) (ds : List Demand) : Prop :=
  match outcome with
  | .ok _ => ∀ d ∈ ds, d.holds
  | .error fault => FirstFault ds fault

theorem FirstFault.not_all {ds : List Demand} {fault : RequestFault} (h : FirstFault ds fault) :
    ¬ ∀ d ∈ ds, d.holds := by
  induction ds with
  | nil => exact fun _ => h
  | cons d ds ih =>
    rw [List.forall_mem_cons]
    rintro ⟨hd, hds⟩
    rcases h with ⟨hn, -⟩ | ⟨-, hf⟩
    · exact hn hd
    · exact ih hf hds

theorem FirstFault.unique {ds : List Demand} {fault fault' : RequestFault}
    (h : FirstFault ds fault) (h' : FirstFault ds fault') : fault = fault' := by
  induction ds with
  | nil => exact h.elim
  | cons d ds ih =>
    rcases h with ⟨hn, rfl⟩ | ⟨hd, hf⟩
    · rcases h' with ⟨-, rfl⟩ | ⟨hd, -⟩
      · rfl
      · exact absurd hd hn
    · rcases h' with ⟨hn, -⟩ | ⟨-, hf'⟩
      · exact absurd hd hn
      · exact ih hf hf'

theorem firstFault_append {ds es : List Demand} {fault : RequestFault} :
    FirstFault (ds ++ es) fault ↔
      FirstFault ds fault ∨ ((∀ d ∈ ds, d.holds) ∧ FirstFault es fault) := by
  induction ds with
  | nil => simp [FirstFault]
  | cons d ds ih =>
    simp only [List.cons_append, FirstFault, ih, List.forall_mem_cons]
    tauto

namespace Judges

variable {α β : Type} {outcome : Except RequestFault α} {ds es : List Demand}

theorem isOk_iff (h : Judges outcome ds) : (∃ a, outcome = .ok a) ↔ ∀ d ∈ ds, d.holds := by
  cases outcome with
  | ok a => exact iff_of_true ⟨a, rfl⟩ h
  | error fault => exact iff_of_false (by simp) (FirstFault.not_all h)

theorem error_iff (h : Judges outcome ds) {fault : RequestFault} :
    outcome = .error fault ↔ FirstFault ds fault := by
  cases outcome with
  | ok a => exact iff_of_false (by simp) fun hf => hf.not_all h
  | error cause => exact ⟨by rintro ⟨⟩; exact h, fun hf => by rw [FirstFault.unique hf h]⟩

theorem done (a : α) : Judges (.ok a) [] := List.forall_mem_nil _

theorem single {d : Demand} (hok : ∀ a, outcome = .ok a → d.holds)
    (herror : ∀ fault, outcome = .error fault → ¬ d.holds ∧ fault = d.fault) :
    Judges outcome [d] := by
  cases outcome with
  | ok a => exact List.forall_mem_singleton.2 (hok a rfl)
  | error fault => exact .inl (herror fault rfl)

/-- What comes later is demanded after what comes first. -/
theorem bind {f : α → Except RequestFault β} (h : Judges outcome ds)
    (hf : ∀ a, outcome = .ok a → Judges (f a) es) : Judges (outcome >>= f) (ds ++ es) := by
  cases outcome with
  | error fault => exact firstFault_append.2 (.inl h)
  | ok a =>
    have hfa := hf a rfl
    change Judges (f a) (ds ++ es)
    cases hb : f a with
    | ok b =>
      rw [hb] at hfa
      exact List.forall_mem_append.2 ⟨h, hfa⟩
    | error fault =>
      rw [hb] at hfa
      exact firstFault_append.2 (.inr ⟨h, hfa⟩)

theorem mapM {f : α → Except RequestFault β} {demands : α → List Demand}
    (h : ∀ a, Judges (f a) (demands a)) (as : List α) :
    Judges (as.mapM f) (as.flatMap demands) := by
  induction as with
  | nil => exact done []
  | cons a as ih =>
    rw [List.mapM_cons, List.flatMap_cons]
    refine (h a).bind fun b _ => ?_
    rw [← List.append_nil (as.flatMap demands)]
    exact ih.bind fun bs _ => done (b :: bs)

end Judges

/-! ## The demands on a request -/

def RequestedField.demands (f : RequestedField) : List Demand :=
  [⟨∃ kind name, Field.Named f.field kind name, .malformedField f.field⟩]

def RequestedFilter.demands (f : RequestedFilter) : List Demand :=
  [⟨∃ kind name, Field.Named f.field kind name, .malformedField f.field⟩,
    ⟨∃ rule, (f.rule, rule) ∈ Rule.spellings, .unknownRule f.rule⟩,
    ⟨∃ cast, (f.cast, cast) ∈ Cast.spellings, .unknownCast (f.cast.getD "")⟩]

/-- In the order in which they are reported. -/
def Request.demands (r : Request) : List Demand :=
  [⟨∃ c ∈ r.objectType.toList, Text.isBlank c = false, .required "objectType"⟩,
    ⟨r.objectType.length ≤ 100, .tooLong "objectType" 100⟩] ++
  ([⟨r.fields ≠ [], .required "fields"⟩] ++
  (r.fields.flatMap RequestedField.demands ++ r.filters.flatMap RequestedFilter.demands))

/-- A request every part of which is known. -/
structure Request.WellFormed (r : Request) : Prop where
  typeGiven : ∃ c ∈ r.objectType.toList, Text.isBlank c = false
  typeShort : r.objectType.length ≤ 100
  someField : r.fields ≠ []
  fields : ∀ f ∈ r.fields, ∃ kind name, Field.Named f.field kind name
  filterFields : ∀ f ∈ r.filters, ∃ kind name, Field.Named f.field kind name
  rules : ∀ f ∈ r.filters, ∃ rule, (f.rule, rule) ∈ Rule.spellings
  casts : ∀ f ∈ r.filters, ∃ cast, (f.cast, cast) ∈ Cast.spellings

theorem Request.wellFormed_iff {r : Request} : r.WellFormed ↔ ∀ d ∈ r.demands, d.holds := by
  simp only [demands, RequestedField.demands, RequestedFilter.demands, List.forall_mem_append,
    List.forall_mem_cons, List.forall_mem_flatMap]
  constructor
  · rintro ⟨h1, h2, h3, h4, h5, h6, h7⟩
    simp_all
  · intro h
    simp at h
    constructor <;> simp_all

theorem judges_field (raw label : String) : Judges (Field.parse raw label)
    [⟨∃ kind name, Field.Named raw kind name, .malformedField raw⟩] := by
  refine .single (fun f h => ⟨_, _, (Field.parse_eq_ok.1 h).1⟩) fun fault h => ⟨?_, ?_⟩
  · rintro ⟨kind, name, hn⟩
    rw [(Field.parse_eq_ok (f := ⟨kind, name, label⟩)).2 ⟨hn, rfl⟩] at h
    simp at h
  · exact Field.fault_of_parse h

theorem judges_rule (raw : String) : Judges (Rule.parse raw)
    [⟨∃ rule, (raw, rule) ∈ Rule.spellings, .unknownRule raw⟩] := by
  refine .single (fun rule h => ⟨rule, Rule.parse_eq_ok.1 h⟩) fun fault h => ⟨?_, ?_⟩
  · rintro ⟨rule, hr⟩
    rw [Rule.parse_eq_ok.2 hr] at h
    simp at h
  · exact Rule.fault_of_parse h

theorem judges_cast (raw : Option String) : Judges (Cast.parse raw)
    [⟨∃ cast, (raw, cast) ∈ Cast.spellings, .unknownCast (raw.getD "")⟩] := by
  refine .single (fun cast h => ⟨cast, Cast.parse_eq_ok.1 h⟩) fun fault h => ⟨?_, ?_⟩
  · rintro ⟨cast, hc⟩
    rw [Cast.parse_eq_ok.2 hc] at h
    simp at h
  · obtain ⟨s, rfl, rfl⟩ := Cast.fault_of_parse h
    rfl

theorem RequestedField.judges_classify (f : RequestedField) : Judges f.classify f.demands :=
  judges_field f.field f.csvLabel

theorem RequestedFilter.judges_classify (f : RequestedFilter) :
    Judges f.classify f.demands := by
  refine (judges_field f.field "").bind fun field _ => (judges_rule f.rule).bind fun rule _ => ?_
  rw [← List.append_nil [_]]
  exact (judges_cast f.cast).bind fun cast _ => .done _

theorem judges_type (s : String) :
    Judges (Check.run "objectType" (some s) [.required, .atMost Export.typeNameLimit])
      [⟨∃ c ∈ s.toList, Text.isBlank c = false, .required "objectType"⟩,
        ⟨s.length ≤ 100, .tooLong "objectType" 100⟩] := by
  have hblank : Text.isAllBlank s = true ↔ ¬ ∃ c ∈ s.toList, Text.isBlank c = false := by
    simp [Text.isAllBlank]
  have hlimit : Export.typeNameLimit = 100 := rfl
  simp only [Check.run, List.findSome?_cons, List.findSome?_nil, Check.fault?, Option.getD_some,
    hlimit]
  by_cases hb : Text.isAllBlank s = true
  · rw [if_pos hb]
    exact .inl ⟨hblank.1 hb, rfl⟩
  · rw [if_neg hb]
    have hgiven := not_not.1 (mt hblank.2 hb)
    by_cases hlong : 100 < s.length
    · rw [if_pos hlong]
      exact .inr ⟨hgiven, .inl ⟨Nat.not_le.2 hlong, rfl⟩⟩
    · rw [if_neg hlong]
      exact List.forall_mem_cons.2 ⟨hgiven, List.forall_mem_singleton.2 (Nat.not_lt.1 hlong)⟩

namespace Request

theorem validate_eq (r : Request) : r.validate =
    Check.run "objectType" (some r.objectType) [.required, .atMost Export.typeNameLimit] >>=
      fun _ => (if r.fields = [] then .error (.required "fields") else .ok ()) >>=
      fun _ => r.fields.mapM RequestedField.classify >>=
      fun fields => r.filters.mapM RequestedFilter.classify >>=
      fun filters => .ok ⟨r.objectType, fields, filters⟩ := by
  unfold validate
  cases r.fields <;> rfl

theorem judges_fields (r : Request) :
    Judges (if r.fields = [] then .error (.required "fields") else .ok ())
      [⟨r.fields ≠ [], .required "fields"⟩] := by
  by_cases h : r.fields = []
  · rw [if_pos h]
    exact .inl ⟨not_not.2 h, rfl⟩
  · rw [if_neg h]
    exact List.forall_mem_singleton.2 h

theorem judges_validate (r : Request) : Judges r.validate r.demands := by
  have hfields := Judges.mapM RequestedField.judges_classify r.fields
  have hfilters := Judges.mapM RequestedFilter.judges_classify r.filters
  rw [validate_eq]
  refine (judges_type r.objectType).bind fun _ _ => r.judges_fields.bind fun _ _ =>
    hfields.bind fun fields _ => ?_
  rw [← List.append_nil (r.filters.flatMap _)]
  exact hfilters.bind fun _ _ => .done _

end Request

/-! ## What a valid request lists -/

def RequestedField.Names (f : RequestedField) (g : Field) : Prop :=
  Field.Named f.field g.kind g.name ∧ g.csvLabel = f.csvLabel

def RequestedFilter.Names (f : RequestedFilter) (g : Filter) : Prop :=
  Field.Named f.field g.field.kind g.field.name ∧ g.field.csvLabel = "" ∧
    (f.rule, g.rule) ∈ Rule.spellings ∧ (f.cast, g.cast) ∈ Cast.spellings ∧ g.value = f.value

/-- An export lists the parts of a request position by position. -/
structure Request.ListedBy (r : Request) (e : Export) : Prop where
  typeName : e.typeName = r.objectType
  fields : List.Forall₂ RequestedField.Names r.fields e.fields
  filters : List.Forall₂ RequestedFilter.Names r.filters e.filters

theorem RequestedField.classify_eq_ok {f : RequestedField} {g : Field} :
    f.classify = .ok g ↔ f.Names g := Field.parse_eq_ok

theorem RequestedFilter.classify_eq_ok {f : RequestedFilter} {g : Filter} :
    f.classify = .ok g ↔ f.Names g := by
  obtain ⟨field, rule, value, cast⟩ := g
  simp only [Names, ← Rule.parse_eq_ok, ← Cast.parse_eq_ok]
  rw [← and_assoc, ← Field.parse_eq_ok]
  unfold classify
  cases Field.parse f.field "" with
  | error fault => simp [bind, Except.bind]
  | ok field =>
    cases Rule.parse f.rule with
    | error fault => simp [bind, Except.bind]
    | ok rule =>
      cases Cast.parse f.cast with
      | error fault => simp [bind, Except.bind]
      | ok cast => simp [bind, Except.bind, pure, Except.pure, eq_comm]; tauto

theorem mapM_eq_ok_iff {α β ε : Type} {f : α → Except ε β} {as : List α} : ∀ {bs : List β},
    as.mapM f = .ok bs ↔ List.Forall₂ (fun a b => f a = .ok b) as bs := by
  induction as with
  | nil => intro bs; simp [pure, Except.pure, eq_comm]
  | cons a as ih =>
    intro bs
    rw [List.mapM_cons]
    cases ha : f a with
    | error fault => simp [bind, Except.bind, List.forall₂_cons_left_iff, ha]
    | ok b =>
      cases has : as.mapM f with
      | error fault => simp [bind, Except.bind, List.forall₂_cons_left_iff, ← ih, has]
      | ok rest =>
        simp [bind, Except.bind, pure, Except.pure, List.forall₂_cons_left_iff, ← ih, ha, has,
          eq_comm]

theorem Request.validate_eq_ok_iff {r : Request} {e : Export} :
    r.validate = .ok e ↔
      Check.run "objectType" (some r.objectType) [.required, .atMost Export.typeNameLimit] =
        .ok () ∧ r.fields ≠ [] ∧ r.ListedBy e := by
  rw [validate_eq_ok]
  simp only [mapM_eq_ok_iff, RequestedField.classify_eq_ok, RequestedFilter.classify_eq_ok]
  constructor
  · rintro ⟨hcheck, hne, htype, hfields, hfilters⟩
    exact ⟨hcheck, hne, htype.symm, hfields, hfilters⟩
  · rintro ⟨hcheck, hne, htype, hfields, hfilters⟩
    exact ⟨hcheck, hne, htype.symm, hfields, hfilters⟩

/-! ## Other spellings -/

/-- Two spellings of one field. -/
def RequestedField.Respells (f f' : RequestedField) : Prop :=
  (∃ kind name, Field.Named f.field kind name ∧ Field.Named f'.field kind name) ∧
    f'.csvLabel = f.csvLabel

/-- Two spellings of one filter. -/
def RequestedFilter.Respells (f f' : RequestedFilter) : Prop :=
  (∃ kind name, Field.Named f.field kind name ∧ Field.Named f'.field kind name) ∧
    (∃ rule, (f.rule, rule) ∈ Rule.spellings ∧ (f'.rule, rule) ∈ Rule.spellings) ∧
    (∃ cast, (f.cast, cast) ∈ Cast.spellings ∧ (f'.cast, cast) ∈ Cast.spellings) ∧
    f'.value = f.value

/-- Two requests that differ in the words for kinds, rules and casts only. -/
structure Request.Respells (r r' : Request) : Prop where
  objectType : r'.objectType = r.objectType
  fields : List.Forall₂ RequestedField.Respells r.fields r'.fields
  filters : List.Forall₂ RequestedFilter.Respells r.filters r'.filters

theorem Field.Named.respelled {raw raw' : String} {kind : FieldKind} {name : String}
    (h : Named raw kind name)
    (hr : ∃ kind name, Named raw kind name ∧ Named raw' kind name) : Named raw' kind name := by
  obtain ⟨kind', name', hn, hn'⟩ := hr
  obtain ⟨rfl, rfl⟩ := h.unique hn
  exact hn'

theorem RequestedField.Names.respelled {f f' : RequestedField} {g : Field} (hr : f.Respells f')
    (h : f.Names g) : f'.Names g :=
  ⟨h.1.respelled hr.1, h.2.trans hr.2.symm⟩

theorem RequestedFilter.Names.respelled {f f' : RequestedFilter} {g : Filter}
    (hr : f.Respells f') (h : f.Names g) : f'.Names g := by
  obtain ⟨hfield, ⟨rule, hrule, hrule'⟩, ⟨cast, hcast, hcast'⟩, hvalue⟩ := hr
  obtain ⟨hn, hlabel, hnrule, hncast, hnvalue⟩ := h
  have erule : rule = g.rule :=
    Except.ok.inj ((Rule.parse_eq_ok.2 hrule).symm.trans (Rule.parse_eq_ok.2 hnrule))
  have ecast : cast = g.cast :=
    Except.ok.inj ((Cast.parse_eq_ok.2 hcast).symm.trans (Cast.parse_eq_ok.2 hncast))
  exact ⟨hn.respelled hfield, hlabel, erule ▸ hrule', ecast ▸ hcast', hnvalue.trans hvalue.symm⟩

theorem forall₂_transfer {α β : Type} {respells : α → α → Prop} {names : α → β → Prop}
    {as as' : List α} (hr : List.Forall₂ respells as as') : ∀ {bs : List β},
    List.Forall₂ names as bs → (∀ a a' b, respells a a' → names a b → names a' b) →
    List.Forall₂ names as' bs := by
  induction hr with
  | nil => exact fun h _ => h
  | cons ha _ ih =>
    rintro _ (_ | ⟨hb, hbs⟩) h
    exact .cons (h _ _ _ ha hb) (ih hbs h)

namespace Request

theorem ListedBy.respelled {r r' : Request} {e : Export} (hr : r.Respells r')
    (h : r.ListedBy e) : r'.ListedBy e where
  typeName := h.typeName.trans hr.objectType.symm
  fields := forall₂_transfer hr.fields h.fields fun _ _ _ => RequestedField.Names.respelled
  filters := forall₂_transfer hr.filters h.filters fun _ _ _ => RequestedFilter.Names.respelled

theorem validate_respelled {r r' : Request} {e : Export} (hr : r.Respells r')
    (h : r.validate = .ok e) : r'.validate = .ok e := by
  obtain ⟨hcheck, hne, hlisted⟩ := validate_eq_ok_iff.1 h
  refine validate_eq_ok_iff.2 ⟨hr.objectType ▸ hcheck, fun hnil => hne ?_, hlisted.respelled hr⟩
  have hfields := hr.fields
  rw [hnil] at hfields
  exact List.forall₂_nil_right_iff.1 hfields

/-- A request is valid exactly when it is well formed. Then its parts are listed position by
position, however they are spelled. Otherwise the first demand that is not met is reported. -/
theorem validate_reports_first_fault (r : Request) :
    ((∃ e, r.validate = .ok e) ↔ r.WellFormed) ∧
    (∀ e, r.validate = .ok e ↔ r.WellFormed ∧ r.ListedBy e) ∧
    (∀ fault, r.validate = .error fault ↔ FirstFault r.demands fault) ∧
    ∀ r' e, r.Respells r' → r.validate = .ok e → r'.validate = .ok e := by
  have hok : (∃ e, r.validate = .ok e) ↔ r.WellFormed :=
    r.judges_validate.isOk_iff.trans wellFormed_iff.symm
  refine ⟨hok, fun e => ⟨fun h => ⟨hok.1 ⟨e, h⟩, (validate_eq_ok_iff.1 h).2.2⟩, ?_⟩,
    fun _ => r.judges_validate.error_iff, fun _ _ => validate_respelled⟩
  rintro ⟨hw, hlisted⟩
  obtain ⟨e', he'⟩ := hok.2 hw
  obtain ⟨hcheck, hne, -⟩ := validate_eq_ok_iff.1 he'
  exact validate_eq_ok_iff.2 ⟨hcheck, hne, hlisted⟩

/-- Tags with a point in their taxonomy, by an older spelling or by the one of today. -/
def taggedPosts (field rule : String) (cast : Option String) : Request :=
  ⟨"post", [⟨"custom.a.b", "A"⟩], [⟨field, rule, some "red", cast⟩]⟩

def taggedExport : Export :=
  ⟨"post", [⟨.custom, "a.b", "A"⟩], [⟨⟨.tag, "c.d", ""⟩, .contains, some "red", none⟩]⟩

theorem respells_taggedPosts :
    (taggedPosts "taxonomy.c.d" "LIKE" (some "none")).Respells
      (taggedPosts "tag.c.d" "contains" none) where
  objectType := rfl
  fields := .cons ⟨⟨.custom, "a.b", ⟨by decide, "custom", by decide, by decide⟩,
    ⟨by decide, "custom", by decide, by decide⟩⟩, rfl⟩ .nil
  filters := .cons ⟨⟨.tag, "c.d", ⟨by decide, "taxonomy", by decide, by decide⟩,
      ⟨by decide, "tag", by decide, by decide⟩⟩, ⟨.contains, by decide, by decide⟩,
    ⟨none, by decide, by decide⟩, rfl⟩ .nil

/-- Two spellings of one request are valid alike. With a rule and a cast that nobody knows the rule
is reported. -/
theorem validate_reports_first_fault_tagged :
    (taggedPosts "tag.c.d" "contains" none).validate = .ok taggedExport ∧
    (taggedPosts "taxonomy.c.d" "LIKE" (some "none")).WellFormed ∧
    (taggedPosts "tag.c.d" "like" (some "text")).validate = .error (.unknownRule "like") := by
  obtain ⟨hok, -, -, hrespelled⟩ :=
    validate_reports_first_fault (taggedPosts "taxonomy.c.d" "LIKE" (some "none"))
  obtain ⟨-, -, hfault, -⟩ :=
    validate_reports_first_fault (taggedPosts "tag.c.d" "like" (some "text"))
  have hvalid : (taggedPosts "taxonomy.c.d" "LIKE" (some "none")).validate = .ok taggedExport := by
    decide
  refine ⟨hrespelled _ _ respells_taggedPosts hvalid, hok.1 ⟨_, hvalid⟩, (hfault _).2 ?_⟩
  -- Everything before the rule is in order.
  refine .inr ⟨⟨'p', by decide⟩, .inr ⟨by decide, .inr ⟨List.cons_ne_nil _ _, .inr ⟨?_, .inr ⟨?_,
    .inl ⟨?_, rfl⟩⟩⟩⟩⟩⟩
  · exact ⟨.custom, "a.b", by decide, "custom", by decide, by decide⟩
  · exact ⟨.tag, "c.d", by decide, "tag", by decide, by decide⟩
  · rintro ⟨rule, hr⟩
    have hnone : ∀ p ∈ Rule.spellings, p.1 ≠ "like" := by decide
    exact hnone _ hr rfl

end Request

end SheetExport
