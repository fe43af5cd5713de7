import SheetExport.Proofs.Values

/-!
# When conditions hold

Every comparison of a filter asks for the order of two values and accepts some orders. So opposite
comparisons say the opposite wherever there is an order at all, whatever affinity or cast leads to
it.
-/

namespace SheetExport

open Sql (Condition)
open Store (momentOf)
open Value (isKnown isKnown_real)

/-! ## Known values -/

theorem Value.isKnown_iff {v : Value} : isKnown v = true ↔ v ≠ .null ∧ v ≠ .real .undefined := by
  cases v with
  | real x => cases x <;> simp [isKnown]
  | _ => simp [isKnown]

theorem Binary64.ofStoredText_ne_undefined (s : String) :
    Binary64.ofStoredText s ≠ .undefined := by
  unfold Binary64.ofStoredText
  split
  · exact Numeral.stored_ne_undefined _
  · simp [Binary64.zero]

theorem Binary64.ofInt_ne_undefined (i : Int) : Binary64.ofInt i ≠ .undefined := by
  unfold Binary64.ofInt Binary64.ofRatio
  exact Binary64.ofUnits_ne_undefined _ _ _

theorem Value.isKnown_castReal {v : Value} (h : isKnown v = true) : isKnown v.castReal = true := by
  cases v with
  | null => exact h
  | integer i => exact isKnown_real.2 (Binary64.ofInt_ne_undefined i)
  | real x => exact h
  | text s => exact isKnown_real.2 (Binary64.ofStoredText_ne_undefined s)
  | blob bytes => exact isKnown_real.2 (Binary64.ofStoredText_ne_undefined _)

theorem Store.isKnown_momentOf {now : Int} {v : Value} :
    isKnown (momentOf now v) = true ↔ momentOf now v ≠ .null := by
  unfold momentOf
  cases Moment.ofValue? now v <;> simp [isKnown]

/-! ## The clock -/

namespace Store.Moment

theorem ofClock?_of_not {now : Int} {name : String} (h : namesClock name = false) :
    ofClock? now name = none := by
  obtain ⟨hname, hprecise⟩ := Bool.or_eq_false_iff.1 h
  unfold ofClock?
  dsimp only
  rw [hname, hprecise, if_neg Bool.false_ne_true, if_neg Bool.false_ne_true]

/-- What is no name of the clock has one moment at all times. -/
theorem ofValue?_congr {v : Value} (h : readsClock v = false) (now now' : Int) :
    ofValue? now v = ofValue? now' v := by
  cases v with
  | text s =>
    have h : namesClock (written (.text s)) = false := h
    simp only [ofValue?, ofText?, ofClock?_of_not h]
  | blob bytes =>
    have h : namesClock (written (.blob bytes)) = false := h
    simp only [ofValue?, ofText?, ofClock?_of_not h]
  | _ => rfl

end Store.Moment

theorem Store.momentOf_congr {v : Value} (h : Moment.readsClock v = false) (now now' : Int) :
    momentOf now v = momentOf now' v := by
  unfold momentOf
  rw [Moment.ofValue?_congr h now now']

/-! ## Null -/

theorem Value.order_null (v w : Value) (h : v = .null ∨ w = .null) : v.order w = none := by
  rcases h with rfl | rfl
  · rfl
  · cases v <;> rfl

namespace Operand

variable {o b : Operand}

theorem order_of_null (h : o.value = .null) (b : Operand) : o.order b = none := by
  simp only [Operand.order, h]
  cases meetingAffinity o.affinity b.affinity <;> exact Value.order_null _ _ (.inl rfl)

theorem order_isSome_iff (ho : o.value ≠ .real .undefined) (hb : isKnown b.value = true) :
    (o.order b).isSome = true ↔ o.value ≠ .null := by
  constructor
  · intro h hn
    rw [order_of_null hn] at h
    exact absurd h (by simp)
  · intro hn
    have := compares_isSome (Value.isKnown_iff.2 ⟨hn, ho⟩) hb .eq
    rwa [Operand.compares, Option.isSome_map] at this

/-! ## Comparisons with a value -/

/-- The order that a comparison with a value looks at. -/
def comparedTo (o : Operand) (now : Int) (cast : Option Cast) (v : String) : Option Ordering :=
  match cast with
  | some .date => (momentOf now o.value).order (momentOf now (.text v))
  | some .number => o.value.castReal.order
      (.real (.ofStoredText (Binary64.ofFilterValue v).literal))
  | some .alpha | none => o.order (.literal (.text v))

/-- Whether both sides of a comparison are there after the cast. -/
def Comparable (o : Operand) (now : Int) (cast : Option Cast) (v : String) : Prop :=
  match cast with
  | some .date => momentOf now o.value ≠ .null ∧ momentOf now (.text v) ≠ .null
  | some .number | some .alpha | none => o.value ≠ .null

/-- Whether the order follows the clock. -/
def ReadsClock (o : Operand) (cast : Option Cast) (v : String) : Prop :=
  cast = some .date ∧
    (Store.Moment.readsClock o.value = true ∨ Store.Moment.readsClock (.text v) = true)

theorem comparedTo_congr {cast : Option Cast} {v : String} (h : ¬ o.ReadsClock cast v)
    (now now' : Int) : o.comparedTo now cast v = o.comparedTo now' cast v := by
  match cast with
  | some .date =>
    simp only [ReadsClock, true_and, not_or, Bool.not_eq_true] at h
    simp only [comparedTo]
    rw [Store.momentOf_congr h.1 now now', Store.momentOf_congr h.2 now now']
  | none | some .alpha | some .number => rfl

theorem comparedTo_isSome_iff (ho : o.value ≠ .real .undefined) (now : Int) (cast : Option Cast)
    (v : String) : (o.comparedTo now cast v).isSome = true ↔ o.Comparable now cast v := by
  have plain : (o.order (.literal (.text v))).isSome = true ↔ o.value ≠ .null :=
    order_isSome_iff ho rfl
  match cast with
  | none => exact plain
  | some .alpha => exact plain
  | some .number =>
    simp only [comparedTo, Comparable]
    constructor
    · intro h hn
      simp [hn, Value.castReal, Value.order] at h
    · intro hn
      exact Value.order_isSome (Value.isKnown_castReal (Value.isKnown_iff.2 ⟨hn, ho⟩))
        (isKnown_real.2 (Binary64.ofStoredText_ne_undefined _))
  | some .date =>
    simp only [comparedTo, Comparable]
    constructor
    · intro h
      refine ⟨fun hn => ?_, fun hn => ?_⟩
      · simp [hn, Value.order] at h
      · simp [Value.order_null _ _ (.inr hn)] at h
    · rintro ⟨hl, hr⟩
      exact Value.order_isSome (Store.isKnown_momentOf.2 hl) (Store.isKnown_momentOf.2 hr)

theorem meets_compare (o : Operand) (now : Int) (c : Comparison) (v : String)
    (cast : Option Cast) :
    o.meets now (.ofRule (.compare c) v cast) = (o.comparedTo now cast v).any c.accepts := by
  have truth : Store.conditionTruth now o (.ofRule (.compare c) v cast) =
      (o.comparedTo now cast v).map c.accepts := by
    match cast with
    | none => rfl
    | some .alpha => rfl
    | some .number => rfl
    | some .date => rfl
  rw [Operand.meets, truth]
  cases o.comparedTo now cast v with
  | none => rfl
  | some a => cases h : c.accepts a <;> simp [Truth.isTrue, h]

/-! ## Emptiness and patterns -/

theorem meets_notEmpty (ho : o.value ≠ .real .undefined) (now : Int) (v w : String)
    (cast : Option Cast) :
    o.meets now (.ofRule .notEmpty v cast) = !o.meets now (.ofRule .empty w cast) := by
  simp only [Operand.meets, Condition.ofRule, Store.conditionTruth, Operand.compares]
  cases ha : o.order (.literal (.text "")) with
  | some a =>
    have hn : o.value ≠ .null := fun hn => by simp [order_of_null hn] at ha
    cases a <;> simp [Value.isNull, hn, Comparison.accepts] <;> rfl
  | none =>
    have hn : o.value = .null := by
      by_contra hn
      have := (order_isSome_iff (b := .literal (.text "")) ho rfl).2 hn
      simp [ha] at this
    simp [hn, Value.isNull, Truth.or, Truth.and, Truth.isTrue]

theorem meets_contains_of_null (h : o.value = .null) (now : Int) (v : String) (cast : Option Cast) :
    o.meets now (.ofRule .contains v cast) = false ∧
      o.meets now (.ofRule .notContains v cast) = false := by
  simp [Operand.meets, Condition.ofRule, Store.conditionTruth, Store.like, h, Value.isNull,
    Truth.not, Truth.isTrue]

theorem meets_notContains (h : o.value ≠ .null) (now : Int) (v : String) (cast : Option Cast) :
    o.meets now (.ofRule .notContains v cast) = !o.meets now (.ofRule .contains v cast) := by
  simp only [Operand.meets, Condition.ofRule, Store.conditionTruth, Store.like, Value.isNull, h,
    decide_false, Bool.false_eq_true, if_false, Truth.not, Option.map_some, Truth.isTrue]
  cases Store.likeCodes (Store.codesOf (bytesOf (Condition.containing v)))
    (Store.codesOf o.value.textBytes) <;> rfl

end Operand

end SheetExport
