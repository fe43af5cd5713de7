import Mathlib.Data.List.TakeWhile
import SheetExport.Proofs.LiteralNumerals

/-!
# The longest numeral in front

What `scan` takes is a numeral, and no numeral at the front of the text is longer. Where it takes
none there is none.
-/

namespace SheetExport.Numeral

/-! ## Texts of numerals -/

def Digits (cs : List Char) : Prop := ∀ c ∈ cs, c.isDigit = true

def IsSign (cs : List Char) : Prop := cs = [] ∨ cs = ['+'] ∨ cs = ['-']

/-- Digits with at most one point among or beside them. -/
inductive IsMantissa : List Char → Prop where
  | whole {w : List Char} (hne : w ≠ []) (hw : Digits w) : IsMantissa w
  | pointed {w f : List Char} (hne : w ≠ []) (hw : Digits w) (hf : Digits f) :
    IsMantissa (w ++ '.' :: f)
  | fraction {f : List Char} (hne : f ≠ []) (hf : Digits f) : IsMantissa ('.' :: f)

inductive IsExponent : List Char → Prop where
  | none : IsExponent []
  | power {mark : Char} {s ds : List Char} (hmark : mark = 'e' ∨ mark = 'E') (hs : IsSign s)
    (hne : ds ≠ []) (hd : Digits ds) : IsExponent (mark :: (s ++ ds))

/-- The texts of the form `[+-]?(d+(.d*)?|.d+)([eE][+-]?d+)?`. -/
def IsText (cs : List Char) : Prop :=
  ∃ s m e, IsSign s ∧ IsMantissa m ∧ IsExponent e ∧ cs = s ++ (m ++ e)

/-- The longest of the numerals at the front of a text. -/
structure Longest (text cs : List Char) : Prop where
  isText : IsText text
  front : text <+: cs
  longest : ∀ other, other <+: cs → IsText other → other.length ≤ text.length

variable {cs t w f : List Char}

theorem digits_takeWhile (cs : List Char) : Digits (cs.takeWhile Char.isDigit) :=
  fun _ hc => List.mem_takeWhile_imp hc

theorem IsMantissa.no_sign {m : List Char} (hm : IsMantissa m) (t : List Char) :
    ∀ c ∈ (m ++ t).head?, c ≠ '-' ∧ c ≠ '+' := by
  cases hm with
  | whole hne hw => exact not_sign_of_isDigit hne hw t
  | pointed hne hw hf =>
    rw [List.append_assoc]
    exact not_sign_of_isDigit hne hw _
  | fraction hne hf =>
    intro c hc
    obtain rfl : '.' = c := by simpa using hc
    decide

theorem IsExponent.head {e : List Char} (he : IsExponent e) :
    Ends e ∧ e.head? ≠ some '.' := by
  cases he with
  | none => exact ⟨ends_nil, by simp⟩
  | power hmark =>
    rcases hmark with rfl | rfl
    · exact ⟨ends_cons rfl, by simp⟩
    · exact ⟨ends_cons rfl, by simp⟩

/-! ## Points and powers -/

theorem takeFraction_point (h : w ++ cs.takeWhile Char.isDigit ≠ []) :
    takeFraction w ('.' :: cs) = (cs.takeWhile Char.isDigit, cs.dropWhile Char.isDigit) := by
  rw [takeFraction, if_neg (by simpa using h)]

theorem takeFraction_of_head (h : cs.head? ≠ some '.') : takeFraction w cs = ([], cs) := by
  unfold takeFraction
  split
  · exact absurd rfl h
  · rfl

theorem takeExponent_power {mark : Char} {negative : Bool} {after : List Char}
    (hmark : mark = 'e' ∨ mark = 'E') (hs : takeSign cs = (negative, after))
    (hne : after.takeWhile Char.isDigit ≠ []) : takeExponent (mark :: cs) =
      (if negative then -(digitsValue (after.takeWhile Char.isDigit) : Int)
        else digitsValue (after.takeWhile Char.isDigit), after.dropWhile Char.isDigit) := by
  simp [takeExponent, hmark, hs, hne]

/-! ## What is taken

Each part is also taken from itself alone, with the same value.
-/

theorem exists_sign (cs : List Char) : ∃ s, IsSign s ∧ cs = s ++ (takeSign cs).2 ∧
    ∀ t : List Char, (∀ c ∈ t.head?, c ≠ '-' ∧ c ≠ '+') →
      takeSign (s ++ t) = ((takeSign cs).1, t) := by
  unfold takeSign
  split
  · exact ⟨['-'], .inr (.inr rfl), rfl, fun _ _ => rfl⟩
  · exact ⟨['+'], .inr (.inl rfl), rfl, fun _ _ => rfl⟩
  · exact ⟨[], .inl rfl, rfl, fun _ ht => takeSign_signText false ht⟩

theorem exists_exponent (cs : List Char) : ∃ e, IsExponent e ∧ cs = e ++ (takeExponent cs).2 ∧
    takeExponent e = ((takeExponent cs).1, []) := by
  cases cs with
  | nil => exact ⟨[], .none, rfl, rfl⟩
  | cons c rest =>
    by_cases hc : c = 'e' ∨ c = 'E'
    · obtain ⟨s, hs, hrest, hsign⟩ := exists_sign rest
      generalize htaken : takeSign rest = taken at hrest hsign
      obtain ⟨negative, after⟩ := taken
      dsimp only at hrest
      have hafter := List.takeWhile_append_dropWhile (p := Char.isDigit) (l := after)
      have hd := digits_takeWhile after
      by_cases hne : after.takeWhile Char.isDigit = []
      · exact ⟨[], .none, by simp [takeExponent, hc, htaken, hne],
          by simp [takeExponent, hc, htaken, hne]⟩
      · have hdigits := takeWhile_digits hd ends_nil
        have hnone := dropWhile_digits hd ends_nil
        have halone := hsign _ (not_sign_of_isDigit hne hd [])
        rw [List.append_nil] at hdigits hnone halone
        rw [takeExponent_power hc htaken hne]
        refine ⟨c :: (s ++ after.takeWhile Char.isDigit), .power hc hs hne hd, ?_, ?_⟩
        · rw [List.cons_append, List.append_assoc, hafter, ← hrest]
        · rw [takeExponent_power hc halone (by rwa [hdigits]), hdigits, hnone]
    · exact ⟨[], .none, by simp [takeExponent, hc], by simp [takeExponent, hc]⟩

theorem exists_mantissa (cs : List Char) {rest : List Char}
    (h : takeFraction (cs.takeWhile Char.isDigit) (cs.dropWhile Char.isDigit) = (f, rest))
    (hne : cs.takeWhile Char.isDigit ++ f ≠ []) : ∃ m, IsMantissa m ∧ cs = m ++ rest ∧
      ∀ e, IsExponent e → (m ++ e).takeWhile Char.isDigit = cs.takeWhile Char.isDigit ∧
        takeFraction (cs.takeWhile Char.isDigit) ((m ++ e).dropWhile Char.isDigit) = (f, e) := by
  have hcs := List.takeWhile_append_dropWhile (p := Char.isDigit) (l := cs)
  have hw := digits_takeWhile cs
  generalize cs.takeWhile Char.isDigit = w at h hne hcs hw
  generalize cs.dropWhile Char.isDigit = after at h hcs
  by_cases hpoint : after.head? = some '.'
  · obtain ⟨after, rfl⟩ : ∃ fs, after = '.' :: fs := List.head?_eq_some_iff.1 hpoint
    have hafter := List.takeWhile_append_dropWhile (p := Char.isDigit) (l := after)
    have hf := digits_takeWhile after
    by_cases hnone : w ++ after.takeWhile Char.isDigit = []
    · rw [takeFraction, if_pos (by simpa using hnone), Prod.mk.injEq] at h
      rw [← h.1, (List.append_eq_nil_iff.1 hnone).1] at hne
      exact absurd rfl hne
    · rw [takeFraction_point hnone, Prod.mk.injEq] at h
      obtain ⟨rfl, rfl⟩ := h
      refine ⟨w ++ '.' :: after.takeWhile Char.isDigit, ?_, by simp [← hcs, hafter], ?_⟩
      · by_cases hwne : w = []
        · subst hwne
          exact .fraction (by simpa using hne) hf
        · exact .pointed hwne hw hf
      · intro e he
        have hdot : Ends ('.' :: (after.takeWhile Char.isDigit ++ e)) := ends_cons rfl
        rw [List.append_assoc, List.cons_append, takeWhile_digits hw hdot, dropWhile_digits hw hdot,
          takeFraction_point (by rwa [takeWhile_digits hf he.head.1]),
          takeWhile_digits hf he.head.1, dropWhile_digits hf he.head.1]
        exact ⟨rfl, rfl⟩
  · rw [takeFraction_of_head hpoint, Prod.mk.injEq] at h
    obtain ⟨rfl, rfl⟩ := h
    refine ⟨w, .whole (by simpa using hne) hw, hcs.symm, fun e he => ?_⟩
    rw [takeWhile_digits hw he.head.1, dropWhile_digits hw he.head.1,
      takeFraction_of_head he.head.2]
    exact ⟨rfl, rfl⟩

/-- What is taken from a text is a numeral, and is taken whole from itself. -/
theorem isText_of_scan {x : Numeral} {rest : List Char} (h : scan cs = some (x, rest)) :
    ∃ text, IsText text ∧ cs = text ++ rest ∧ scan text = some (x, []) := by
  obtain ⟨s, hs, hcs, hsign⟩ := exists_sign cs
  unfold scan at h
  generalize takeSign cs = sign at h hcs hsign
  obtain ⟨negative, after⟩ := sign
  dsimp only at h hcs
  generalize hfraction : takeFraction (after.takeWhile Char.isDigit)
    (after.dropWhile Char.isDigit) = fraction at h
  obtain ⟨f, afterFraction⟩ := fraction
  dsimp only at h
  split at h
  · exact absurd h (by simp)
  · next hne =>
    obtain ⟨m, hm, hafter, hmantissa⟩ := exists_mantissa after hfraction (by simpa using hne)
    obtain ⟨e, he, hexponent, hpower⟩ := exists_exponent afterFraction
    obtain ⟨hw, hf⟩ := hmantissa e he
    obtain ⟨rfl, rfl⟩ := Prod.mk.inj (Option.some.inj h)
    refine ⟨s ++ (m ++ e), ⟨s, m, e, hs, hm, he, rfl⟩, ?_, ?_⟩
    · rw [hcs, hafter, List.append_assoc, List.append_assoc, ← hexponent]
    · rw [scan, hsign _ (hm.no_sign e)]
      simp only [hw, hf, hpower]
      rw [if_neg hne]

/-! ## How far it reaches -/

theorem length_dropWhile_le (cs : List Char) :
    (cs.dropWhile Char.isDigit).length ≤ cs.length :=
  (List.dropWhile_suffix Char.isDigit).length_le

theorem length_takeExponent_le (cs : List Char) : (takeExponent cs).2.length ≤ cs.length := by
  obtain ⟨e, -, h, -⟩ := exists_exponent cs
  conv_rhs => rw [h, List.length_append]
  exact Nat.le_add_left ..

theorem length_takeFraction_le (w cs : List Char) : (takeFraction w cs).2.length ≤ cs.length := by
  unfold takeFraction
  split
  · next rest =>
    split
    · exact Nat.le_refl _
    · exact Nat.le_succ_of_le (length_dropWhile_le rest)
  · exact Nat.le_refl _

theorem takeSign_append {s : List Char} (hs : IsSign s) (h : ∀ c ∈ cs.head?, c ≠ '-' ∧ c ≠ '+') :
    (takeSign (s ++ cs)).2 = cs := by
  rcases hs with rfl | rfl | rfl
  · exact congrArg Prod.snd (takeSign_signText false h)
  · rfl
  · rfl

theorem takeExponent_reaches {mark : Char} {s ds : List Char} (hmark : mark = 'e' ∨ mark = 'E')
    (hs : IsSign s) (hne : ds ≠ []) (hd : Digits ds) (t : List Char) :
    (takeExponent (mark :: (s ++ (ds ++ t)))).2.length ≤ t.length := by
  have hsign := takeSign_append hs (not_sign_of_isDigit hne hd t)
  generalize htaken : takeSign (s ++ (ds ++ t)) = taken at hsign
  obtain ⟨negative, after⟩ := taken
  dsimp only at hsign
  subst hsign
  have htake : (ds ++ t).takeWhile Char.isDigit ≠ [] := by
    rw [List.takeWhile_append_of_pos hd]
    exact List.append_ne_nil_of_left_ne_nil hne _
  rw [takeExponent_power hmark htaken htake, List.dropWhile_append_of_pos hd]
  exact length_dropWhile_le t

theorem exponent_reaches {e : List Char} (he : IsExponent e) (w t : List Char) :
    (takeExponent ((e ++ t).dropWhile Char.isDigit)).2.length ≤ t.length ∧
      (takeExponent (takeFraction w ((e ++ t).dropWhile Char.isDigit)).2).2.length ≤ t.length := by
  cases he with
  | none =>
    rw [List.nil_append]
    have hdrop := length_dropWhile_le t
    exact ⟨(length_takeExponent_le _).trans hdrop, (length_takeExponent_le _).trans
      ((length_takeFraction_le w _).trans hdrop)⟩
  | @power mark s ds hmark hs hne hd =>
    have hreach := takeExponent_reaches hmark hs hne hd t
    have hmark' : mark.isDigit = false ∧ mark ≠ '.' := by
      rcases hmark with rfl | rfl <;> decide
    rw [List.cons_append, List.append_assoc, List.dropWhile_cons_of_neg (by simp [hmark'.1]),
      takeFraction_of_head (by simp [hmark'.2])]
    exact ⟨hreach, hreach⟩

/-- One case for each form of the mantissa. -/
theorem mantissa_reaches {m e : List Char} (hm : IsMantissa m) (he : IsExponent e)
    (t : List Char) {w f rest : List Char} (hw : (m ++ (e ++ t)).takeWhile Char.isDigit = w)
    (hf : takeFraction w ((m ++ (e ++ t)).dropWhile Char.isDigit) = (f, rest)) :
    w ++ f ≠ [] ∧ (takeExponent rest).2.length ≤ t.length := by
  have point (cs : List Char) : Ends ('.' :: cs) := ends_cons rfl
  cases hm with
  | whole hne hm =>
    rw [List.takeWhile_append_of_pos hm] at hw
    rw [List.dropWhile_append_of_pos hm] at hf
    refine ⟨by simp [← hw, hne], ?_⟩
    have := (exponent_reaches he w t).2
    rwa [hf] at this
  | @pointed v g hne hv hg =>
    rw [List.append_assoc, List.cons_append, takeWhile_digits hv (point _)] at hw
    subst hw
    rw [List.append_assoc, List.cons_append, dropWhile_digits hv (point _),
      takeFraction_point (List.append_ne_nil_of_left_ne_nil hne _), Prod.mk.injEq] at hf
    obtain ⟨rfl, rfl⟩ := hf
    rw [List.dropWhile_append_of_pos hg]
    exact ⟨List.append_ne_nil_of_left_ne_nil hne _, (exponent_reaches he [] t).1⟩
  | @fraction g hne hg =>
    obtain rfl : [] = w := hw
    have htake : (g ++ (e ++ t)).takeWhile Char.isDigit ≠ [] := by
      rw [List.takeWhile_append_of_pos hg]
      exact List.append_ne_nil_of_left_ne_nil hne _
    have hf : takeFraction [] ('.' :: (g ++ (e ++ t))) = (f, rest) := hf
    rw [takeFraction_point htake, Prod.mk.injEq] at hf
    obtain ⟨rfl, rfl⟩ := hf
    rw [List.dropWhile_append_of_pos hg]
    exact ⟨htake, (exponent_reaches he [] t).1⟩

theorem scan_reaches {text : List Char} (h : IsText text) (t : List Char) :
    ∃ x rest, scan (text ++ t) = some (x, rest) ∧ rest.length ≤ t.length := by
  obtain ⟨s, m, e, hs, hm, he, rfl⟩ := h
  have hsign := takeSign_append hs (hm.no_sign (e ++ t))
  rw [List.append_assoc, List.append_assoc, scan]
  generalize takeSign (s ++ (m ++ (e ++ t))) = sign at hsign
  obtain ⟨negative, after⟩ := sign
  dsimp only at hsign ⊢
  subst hsign
  generalize hf : takeFraction ((m ++ (e ++ t)).takeWhile Char.isDigit)
    ((m ++ (e ++ t)).dropWhile Char.isDigit) = fraction
  obtain ⟨f, afterFraction⟩ := fraction
  obtain ⟨hne, hreach⟩ := mantissa_reaches hm he t rfl hf
  dsimp only
  rw [if_neg (by simpa using hne)]
  exact ⟨_, _, rfl, hreach⟩

/-! ## The longest numeral -/

theorem longest_of_scan {x : Numeral} {rest : List Char} (h : scan cs = some (x, rest)) :
    ∃ text, Longest text cs ∧ cs = text ++ rest ∧ scan text = some (x, []) := by
  obtain ⟨text, htext, hcs, halone⟩ := isText_of_scan h
  refine ⟨text, ⟨htext, ⟨rest, hcs.symm⟩, ?_⟩, hcs, halone⟩
  rintro other ⟨t, ht⟩ hother
  obtain ⟨y, rest', hscan, hle⟩ := scan_reaches hother t
  rw [ht, h] at hscan
  obtain rfl : rest = rest' := congrArg Prod.snd (Option.some.inj hscan)
  have hlength := congrArg List.length (ht.trans hcs)
  rw [List.length_append, List.length_append] at hlength
  omega

theorem not_isText_of_scan (h : scan cs = none) {text : List Char} (hfront : text <+: cs) :
    ¬ IsText text := by
  intro htext
  obtain ⟨t, rfl⟩ := hfront
  obtain ⟨x, rest, hscan, -⟩ := scan_reaches htext t
  rw [h] at hscan
  exact absurd hscan (by simp)

end SheetExport.Numeral
