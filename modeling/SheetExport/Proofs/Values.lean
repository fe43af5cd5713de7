import Mathlib.Order.Defs.LinearOrder
import SheetExport.Proofs.Names
import SheetExport.Store.Truth

/-!
# Comparing values

The order of two values turns around when they change places, so equality does not depend on which
side of the sign a column stands. Between known values no comparison is unknown.
-/

namespace SheetExport

/-! ## Numbers -/

theorem Binary64.order_swap (x y : Binary64) : y.order x = (x.order y).map Ordering.swap := by
  cases x with
  | undefined => cases y <;> rfl
  | infinite a =>
    cases y with
    | undefined => rfl
    | infinite b => cases a <;> cases b <;> rfl
    | finite b n => cases a <;> rfl
  | finite a m =>
    cases y with
    | undefined => rfl
    | infinite b => cases b <;> rfl
    | finite b n =>
      simp only [Binary64.order, Option.map_some, Option.some.injEq]
      exact Std.OrientedCmp.eq_swap

theorem swap_map_map (o : Option Ordering) : (o.map Ordering.swap).map Ordering.swap = o := by
  cases o with
  | none => rfl
  | some a => cases a <;> rfl

/-! ## Values -/

theorem string_compare_swap (a b : String) :
    compareOfLessAndEq b a = (compareOfLessAndEq a b).swap :=
  compareOfLessAndEq_eq_swap String.le_antisymm String.le_total String.not_le

theorem Value.order_swap (v w : Value) : w.order v = (v.order w).map Ordering.swap := by
  cases v with
  | null => cases w <;> rfl
  | integer a =>
    cases w with
    | integer b => exact congrArg some Std.OrientedCmp.eq_swap
    | _ => rfl
  | real x =>
    cases w with
    | integer b => exact (swap_map_map _).symm
    | real y => exact x.order_swap y
    | _ => rfl
  | text a =>
    cases w with
    | text b => exact congrArg some (string_compare_swap a b)
    | _ => rfl
  | blob a =>
    cases w with
    | blob b => exact congrArg some Std.OrientedCmp.eq_swap
    | _ => rfl

/-! ## Texts in columns -/

theorem Value.toNumeric_text_eq {k : String} (h : numberOf? k = none) :
    (text k).toNumeric = text k := by
  rw [toNumeric, h, Option.getD_none]

theorem Value.stored_text_eq {k : String} (h : numberOf? k = none) (a : Affinity) :
    (text k).stored a = text k := by
  cases a with
  | integer => rw [stored, toNumeric_text_eq h]; rfl
  | real => rw [stored, toNumeric_text_eq h]; rfl
  | text => rfl
  | blob => rfl

/-! ## Operands -/

theorem Operand.meetingAffinity_comm (a b : Option Affinity) :
    meetingAffinity a b = meetingAffinity b a := by
  cases a with
  | none => cases b <;> rfl
  | some a =>
    cases b with
    | none => rfl
    | some b => simp only [meetingAffinity, Bool.or_comm]

theorem Operand.meet_swap (a : Affinity) (v w : Value) : meet a w v = (meet a v w).swap := by
  cases a <;> rfl

theorem Operand.order_swap (a b : Operand) : b.order a = (a.order b).map Ordering.swap := by
  simp only [Operand.order]
  rw [meetingAffinity_comm b.affinity a.affinity, meet_swap, Prod.fst_swap, Prod.snd_swap]
  exact Value.order_swap _ _

/-- Whether two operands are equal. Null is equal to nothing. -/
def Operand.equals (a b : Operand) : Bool := (a.compares .eq b).isTrue

/-- Whether an operand is a given text. -/
def Operand.is (a : Operand) (s : String) : Bool := a.equals (.literal (.text s))

/-- Whether a condition is true of an operand, which takes more than not being false. -/
def Operand.meets (a : Operand) (now : Int) (c : Sql.Condition) : Bool :=
  (Store.conditionTruth now a c).isTrue

theorem Operand.compares_eq_comm (a b : Operand) : a.compares .eq b = b.compares .eq a := by
  simp only [Operand.compares]
  rw [Operand.order_swap b a, Option.map_map]
  congr 1
  funext o
  cases o <;> rfl

theorem Operand.equals_comm (a b : Operand) : a.equals b = b.equals a := by
  rw [Operand.equals, compares_eq_comm, Operand.equals]

theorem Operand.equals_iff {a b : Operand} : a.equals b = true ↔ a.order b = some .eq := by
  simp only [Operand.equals, Truth.isTrue, Operand.compares, decide_eq_true_eq,
    Option.map_eq_some_iff]
  constructor
  · rintro ⟨o, ho, ha⟩
    rw [ho]
    cases o <;> first | rfl | exact absurd ha (by decide)
  · intro h
    exact ⟨.eq, h, rfl⟩

/-! ## Known values -/

namespace Value

/-- An undefined number is one with null: no comparison with it holds. -/
def isKnown (v : Value) : Bool :=
  match v with
  | .null | .real .undefined => false
  | _ => true

theorem isKnown_real {x : Binary64} : isKnown (.real x) = true ↔ x ≠ .undefined := by
  cases x <;> simp [isKnown]

end Value

open Value (isKnown isKnown_real)

theorem Binary64.order_isSome {x y : Binary64} (hx : x ≠ .undefined) (hy : y ≠ .undefined) :
    (x.order y).isSome = true := by
  cases x <;> cases y <;> first | rfl | contradiction

theorem Binary64.orderInt_isSome {x : Binary64} (hx : x ≠ .undefined) (i : Int) :
    (x.orderInt i).isSome = true := by
  cases x <;> first | rfl | contradiction

theorem Value.order_isSome {v w : Value} (hv : isKnown v = true) (hw : isKnown w = true) :
    (v.order w).isSome = true := by
  cases v with
  | null => simp [isKnown] at hv
  | real x =>
    have hx := isKnown_real.1 hv
    cases w with
    | null => simp [isKnown] at hw
    | integer b => simpa [Value.order] using x.orderInt_isSome hx b
    | real y => exact x.order_isSome hx (isKnown_real.1 hw)
    | _ => rfl
  | integer a =>
    cases w with
    | null => simp [isKnown] at hw
    | real y => exact y.orderInt_isSome (isKnown_real.1 hw) a
    | _ => rfl
  | _ =>
    cases w with
    | null => simp [isKnown] at hw
    | _ => rfl

theorem Binary64.order_self {b : Binary64} (h : b ≠ .undefined) : b.order b = some .eq := by
  cases b with
  | finite negative units => simp [Binary64.order]
  | infinite negative => simp [Binary64.order]
  | undefined => exact absurd rfl h

theorem Value.order_self {v : Value} (h : isKnown v = true) : v.order v = some .eq := by
  have hswap := v.order_swap v
  obtain ⟨o, ho⟩ := Option.isSome_iff_exists.1 (Value.order_isSome h h)
  rw [ho] at hswap ⊢
  cases o with
  | eq => rfl
  | lt => exact absurd hswap (by decide)
  | gt => exact absurd hswap (by decide)

theorem Binary64.ofUnits_ne_undefined (negative : Bool) (num den : Nat) :
    Binary64.ofUnits negative num den ≠ .undefined := by
  unfold Binary64.ofUnits
  dsimp only
  split <;> simp

theorem Numeral.stored_ne_undefined (x : Numeral) : x.stored ≠ .undefined := by
  unfold Numeral.stored
  dsimp only
  split
  · simp
  · split
    · simp
    · unfold Extended.toBinary64
      split
      · simp
      · exact Binary64.ofUnits_ne_undefined _ _ _

theorem Value.isKnown_toNumeric {v : Value} (h : isKnown v = true) :
    isKnown v.toNumeric = true := by
  cases v with
  | text s =>
    simp only [Value.toNumeric, Value.numberOf?]
    cases Numeral.ofWhole? s with
    | none => rfl
    | some x =>
      simp only [Option.map_some, Option.getD_some]
      generalize (if x.negative = true then -(x.digits : Int) else (x.digits : Int)) = i
      split
      · rfl
      · exact isKnown_real.2 x.stored_ne_undefined
  | _ => exact h

theorem Value.isKnown_toTextual {v : Value} (h : isKnown v = true) :
    isKnown v.toTextual = true := by
  cases v <;> first | rfl | exact h

theorem Operand.compares_isSome {a b : Operand} (ha : isKnown a.value = true)
    (hb : isKnown b.value = true) (c : Comparison) : (a.compares c b).isSome = true := by
  rw [Operand.compares, Option.isSome_map]
  simp only [Operand.order]
  cases Operand.meetingAffinity a.affinity b.affinity with
  | integer | real =>
    exact Value.order_isSome (Value.isKnown_toNumeric ha) (Value.isKnown_toNumeric hb)
  | text => exact Value.order_isSome (Value.isKnown_toTextual ha) (Value.isKnown_toTextual hb)
  | blob => exact Value.order_isSome ha hb

end SheetExport
