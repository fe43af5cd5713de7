import Mathlib.Data.List.Induction
import SheetExport.Proofs.Values
import SheetExport.Store.Query

/-!
# Groups of one key

Grouping keeps every value and puts those of one key together. Where keys are numbers, one group at
most has the key that equals a given id, and it holds the values of all keys that equal it.
-/

namespace SheetExport

/-! ## Numeric keys -/

namespace Value

/-- An integer in units. -/
def unitsOf (i : Int) : Int := i * Binary64.one

/-- The quantity that a number stands for, in units. -/
def quantity? : Value → Option Int
  | integer i => some (unitsOf i)
  | real (.finite negative units) => some (Binary64.signed negative units)
  | _ => none

/-- A value that does not become another one where numbers meet, as a column of integers has it. -/
def IsNumeric (v : Value) : Prop := v.toNumeric = v

instance (v : Value) : Decidable v.IsNumeric := inferInstanceAs (Decidable (_ = _))

/-- Whether a value equals an id, where numbers meet. -/
def isId (v : Value) (i : Int) : Bool := v.toNumeric.order (.integer i) == some .eq

theorem unitsOf_inj {i j : Int} : unitsOf i = unitsOf j ↔ i = j := by
  have h : (Binary64.one : Int) ≠ 0 := by
    have : 0 < Binary64.one := twoTo_pos 1074
    omega
  exact Int.mul_eq_mul_right_iff h

theorem orderInt_finite (negative : Bool) (units : Nat) (i : Int) :
    (Binary64.finite negative units).orderInt i =
      some (compare (unitsOf i) (Binary64.signed negative units)) := by
  rw [Binary64.orderInt, unitsOf]

theorem orderInt_infinite (negative : Bool) (i : Int) :
    (Binary64.infinite negative).orderInt i = some (if negative then .gt else .lt) := by
  cases negative <;> rfl

theorem order_eq_iff {v w : Value} {q : Int} (hv : v.quantity? = some q) :
    v.order w = some .eq ↔ w.quantity? = some q := by
  cases v with
  | null => simp [quantity?] at hv
  | text s => simp [quantity?] at hv
  | blob b => simp [quantity?] at hv
  | integer i =>
    simp only [quantity?, Option.some.injEq] at hv
    subst hv
    cases w with
    | null => simp [order, quantity?]
    | text s => simp [order, rank, quantity?]
    | blob b => simp [order, rank, quantity?]
    | integer j =>
      simp only [order, quantity?, Option.some.injEq, Int.compare_eq_eq, unitsOf_inj]
      exact eq_comm
    | real y =>
      cases y with
      | undefined => simp [order, quantity?, Binary64.orderInt]
      | infinite b => cases b <;> simp [order, quantity?, orderInt_infinite]
      | finite b n =>
        simp only [order, quantity?, orderInt_finite, Option.some.injEq, Int.compare_eq_eq]
        exact eq_comm
  | real x =>
    cases x with
    | undefined => simp [quantity?] at hv
    | infinite a => simp [quantity?] at hv
    | finite a m =>
      simp only [quantity?, Option.some.injEq] at hv
      subst hv
      cases w with
      | null => simp [order, quantity?]
      | text s => simp [order, rank, quantity?]
      | blob b => simp [order, rank, quantity?]
      | integer j => simp [order, quantity?, orderInt_finite]
      | real y =>
        cases y with
        | undefined => simp [order, quantity?, Binary64.order]
        | infinite b => cases b <;> simp [order, quantity?, Binary64.order]
        | finite b n =>
          simp only [order, quantity?, Binary64.order, Option.some.injEq, Int.compare_eq_eq]
          exact eq_comm

theorem isId_iff {v : Value} {i : Int} :
    v.isId i = true ↔ v.toNumeric.quantity? = some (unitsOf i) := by
  rw [isId, beq_iff_eq]
  constructor
  · intro h
    refine (order_eq_iff (v := .integer i) (w := v.toNumeric) rfl).1 ?_
    rw [order_swap, h]
    rfl
  · intro h
    exact (order_eq_iff h).2 rfl

theorem isId_integer (i j : Int) : (Value.integer i).isId j = decide (i = j) := by
  rw [Bool.eq_iff_iff, isId_iff, decide_eq_true_eq]
  simp [toNumeric, quantity?, unitsOf_inj]

theorem same_comm (v w : Value) : v.same w = w.same v := by
  unfold same
  rw [order_swap w v, Bool.and_comm]
  cases w.order v with
  | none => rfl
  | some o => cases o <;> rfl

/-- Keys that equal one id are one key, and a key that is one with them equals it too. -/
theorem same_iff_isId {v w : Value} (hv : v.IsNumeric) (hw : w.IsNumeric) {i : Int}
    (h : v.isId i = true) : v.same w = true ↔ w.isId i = true := by
  have hq := isId_iff.1 h
  rw [hv] at hq
  have hnull : v.isNull = false := by
    cases v with
    | null => simp [quantity?] at hq
    | _ => rfl
  rw [isId_iff, hw, ← order_eq_iff hq]
  simp [same, hnull]

end Value

theorem Operand.equals_id (o : Operand) (i : Int) :
    o.equals ⟨some .integer, .integer i⟩ = o.value.isId i := by
  rw [Bool.eq_iff_iff, Operand.equals_iff, Value.isId, beq_iff_eq]
  have hm : meetingAffinity o.affinity (some .integer) = .integer := by
    cases o.affinity with
    | none => rfl
    | some a => cases a <;> rfl
  rw [Operand.order, hm]
  rfl

/-! ## Groups -/

namespace Store

/-- Values that come in one group, none if there is no value. -/
def groupOf (values : List Value) : List (List Value) := if values.isEmpty then [] else [values]

theorem groupOf_append (values : List Value) (v : Value) :
    groupOf (values ++ [v]) = [values ++ [v]] := by
  simp [groupOf]

theorem filter_addToGroup_of_not {p : Value → Bool} {key : Value} (hk : p key = false)
    (value : Value) (groups : List (Value × List Value))
    (hg : ∀ g ∈ groups, p g.1 = true → g.1.same key = false) :
    (addToGroup key value groups).filter (fun g => p g.1) = groups.filter fun g => p g.1 := by
  induction groups with
  | nil => simp [addToGroup, hk]
  | cons g rest ih =>
    obtain ⟨k, vs⟩ := g
    have ih := ih fun g hm => hg g (List.mem_cons_of_mem _ hm)
    unfold addToGroup
    by_cases hs : k.same key = true
    · have hp : p k = false := by
        rw [← Bool.not_eq_true]
        intro hp
        rw [hg (k, vs) List.mem_cons_self hp] at hs
        exact Bool.false_ne_true hs
      simp [hs, hp]
    · simp only [hs, Bool.false_eq_true, if_false, List.filter_cons, ih]

theorem filter_addToGroup {p : Value → Bool} {key : Value} (hk : p key = true) (value : Value)
    (groups : List (Value × List Value)) (values : List Value)
    (hg : ∀ g ∈ groups, p g.1 = true ↔ g.1.same key = true)
    (hv : (groups.filter fun g => p g.1).map Prod.snd = groupOf values) :
    ((addToGroup key value groups).filter fun g => p g.1).map Prod.snd =
      groupOf (values ++ [value]) := by
  induction groups with
  | nil =>
    have : values = [] := by
      cases values with
      | nil => rfl
      | cons v vs => simp [groupOf] at hv
    subst this
    simp [addToGroup, hk, groupOf]
  | cons g rest ih =>
    obtain ⟨k, vs⟩ := g
    have hgk := hg (k, vs) List.mem_cons_self
    unfold addToGroup
    by_cases hs : k.same key = true
    · have hp : p k = true := hgk.2 hs
      simp only [List.filter_cons, hp, if_true, List.map_cons] at hv
      have hne : values ≠ [] := by
        rintro rfl
        simp [groupOf] at hv
      rw [groupOf_append]
      simp only [groupOf, List.isEmpty_iff, hne, if_false, List.cons.injEq] at hv
      obtain ⟨rfl, hrest⟩ := hv
      simp only [hs, if_true, List.filter_cons, hp, List.map_cons, hrest]
    · have hp : p k = false := by
        rw [← Bool.not_eq_true]
        exact fun hp => hs (hgk.1 hp)
      simp only [List.filter_cons, hp, Bool.false_eq_true, if_false] at hv
      simp only [hs, Bool.false_eq_true, if_false, List.filter_cons, hp]
      exact ih (fun g hm => hg g (List.mem_cons_of_mem _ hm)) hv

theorem key_of_mem_addToGroup {key value : Value} {groups : List (Value × List Value)}
    {g : Value × List Value} (h : g ∈ addToGroup key value groups) :
    g.1 = key ∨ ∃ g' ∈ groups, g'.1 = g.1 := by
  induction groups with
  | nil =>
    simp only [addToGroup, List.mem_singleton] at h
    exact .inl (congrArg Prod.fst h)
  | cons x rest ih =>
    obtain ⟨k, vs⟩ := x
    unfold addToGroup at h
    split at h
    · rcases List.mem_cons.1 h with rfl | h
      · exact .inr ⟨(k, vs), List.mem_cons_self, rfl⟩
      · exact .inr ⟨g, List.mem_cons_of_mem _ h, rfl⟩
    · rcases List.mem_cons.1 h with rfl | h
      · exact .inr ⟨(k, vs), List.mem_cons_self, rfl⟩
      · obtain hk | ⟨g', hg', he⟩ := ih h
        · exact .inl hk
        · exact .inr ⟨g', List.mem_cons_of_mem _ hg', he⟩

/-- Keys that belong together make one group, which has their values in order. -/
theorem filter_grouped {p : Value → Bool} (pairs : List (Value × Value)) :
    (∀ x ∈ pairs, ∀ y ∈ pairs, p x.1 = true → (x.1.same y.1 = true ↔ p y.1 = true)) →
    (∀ g ∈ grouped pairs, ∃ x ∈ pairs, x.1 = g.1) ∧
      ((grouped pairs).filter fun g => p g.1).map Prod.snd =
        groupOf ((pairs.filter fun x => p x.1).map Prod.snd) := by
  induction pairs using List.reverseRecOn with
  | nil => exact fun _ => ⟨by simp [grouped], rfl⟩
  | append_singleton pairs x ih =>
    intro hp
    have earlier {y : Value × Value} (hy : y ∈ pairs) : y ∈ pairs ++ [x] :=
      List.mem_append_left _ hy
    have last : x ∈ pairs ++ [x] := List.mem_append_right _ (List.mem_singleton_self x)
    obtain ⟨hkeys, hvals⟩ := ih fun y hy z hz => hp y (earlier hy) z (earlier hz)
    have hg : grouped (pairs ++ [x]) = addToGroup x.1 x.2 (grouped pairs) := by
      simp [grouped, List.foldl_append]
    rw [hg, List.filter_append, List.map_append]
    constructor
    · intro g hm
      obtain hk | ⟨g', hg', he⟩ := key_of_mem_addToGroup hm
      · exact ⟨x, last, hk.symm⟩
      · obtain ⟨y, hy, hye⟩ := hkeys g' hg'
        exact ⟨y, earlier hy, hye.trans he⟩
    · by_cases hx : p x.1 = true
      · have hlast : ([x].filter fun x => p x.1).map Prod.snd = [x.2] := by simp [hx]
        rw [hlast]
        refine filter_addToGroup hx x.2 _ _ (fun g hm => ?_) hvals
        obtain ⟨y, hy, hye⟩ := hkeys g hm
        rw [← hye]
        constructor
        · intro hpy
          exact (hp y (earlier hy) x last hpy).2 hx
        · intro hs
          rw [Value.same_comm] at hs
          exact (hp x last y (earlier hy) hx).1 hs
      · have hlast : ([x].filter fun x => p x.1).map Prod.snd = [] := by simp [hx]
        rw [hlast, List.append_nil, filter_addToGroup_of_not (by simpa using hx), hvals]
        intro g hm hpg
        obtain ⟨y, hy, hye⟩ := hkeys g hm
        rw [← Bool.not_eq_true, ← hye]
        intro hs
        exact hx ((hp y (earlier hy) x last (by rw [hye]; exact hpg)).1 hs)

end Store

end SheetExport
