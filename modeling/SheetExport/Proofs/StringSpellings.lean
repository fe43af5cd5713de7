import Mathlib.Data.List.Forall2
import SheetExport.Json
import SheetExport.Json.Text

/-!
# Spellings of a string

One string has many texts in a document: each character stands as itself, as an escape or as its
UTF-16 code units, in digits of either case. All of them are read as the string.
-/

namespace SheetExport.Json

/-! ## Blanks -/

def blankChars : List Char := [' ', '\t', '\n', '\r']

/-- A text of blanks alone. -/
def Blanks (text : List Char) : Prop := ∀ c ∈ text, c ∈ blankChars

theorem blanks_nil : Blanks [] := fun _ h => absurd h List.not_mem_nil

theorem isBlank_iff {c : Char} : isBlank c = true ↔ c ∈ blankChars := by
  simp [isBlank, blankChars, or_assoc]

theorem skipBlanks_append {blanks : List Char} (h : Blanks blanks) (rest : List Char) :
    skipBlanks (blanks ++ rest) = skipBlanks rest :=
  List.dropWhile_append_of_pos fun c hc => isBlank_iff.2 (h c hc)

theorem skipBlanks_cons {c : Char} (h : isBlank c = false) (rest : List Char) :
    skipBlanks (c :: rest) = c :: rest := by
  simp [skipBlanks, h]

@[simp] theorem skipBlanks_skipBlanks (cs : List Char) :
    skipBlanks (skipBlanks cs) = skipBlanks cs := by
  induction cs with
  | nil => rfl
  | cons c cs ih =>
    unfold skipBlanks at ih ⊢
    by_cases h : isBlank c <;> simp [h, ih]

theorem isBlank_eq_false {c : Char} (h : c ∉ blankChars) : isBlank c = false := by
  rwa [← Bool.not_eq_true, isBlank_iff]

theorem skipBlanks_mark {blanks : List Char} (h : Blanks blanks) {c : Char}
    (hc : isBlank c = false) (rest : List Char) : skipBlanks (blanks ++ c :: rest) = c :: rest := by
  rw [skipBlanks_append h, skipBlanks_cons hc]

/-! ## Code units -/

/-- A digit of base sixteen, in either case. -/
def HexDigit (n : Nat) (c : Char) : Prop := c = n.digitChar ∨ c = n.digitChar.toUpper

instance (n : Nat) (c : Char) : Decidable (HexDigit n c) := inferInstanceAs (Decidable (_ ∨ _))

/-- The four digits of a code unit. -/
def UnitDigits (n : Nat) (text : List Char) : Prop :=
  n < 65536 ∧ List.Forall₂ HexDigit [n / 4096, n / 256 % 16, n / 16 % 16, n % 16] text

instance (n : Nat) (text : List Char) : Decidable (UnitDigits n text) :=
  inferInstanceAs (Decidable (_ ∧ _))

theorem hexValue?_digit {n : Nat} (hn : n < 16) {c : Char} (h : HexDigit n c) :
    hexValue? c = some n := by
  have all : ∀ n < 16, hexValue? n.digitChar = some n ∧
      hexValue? n.digitChar.toUpper = some n := by decide
  rcases h with rfl | rfl
  · exact (all n hn).1
  · exact (all n hn).2

theorem four_le_byteCount (a b c d : Char) (rest : List Char) :
    4 ≤ Text.byteCount (a :: b :: c :: d :: rest) := by
  have grows : ∀ (cs : List Char) (n : Nat), n ≤ cs.foldl (fun n c => n + c.utf8Size) n := by
    intro cs
    induction cs with
    | nil => exact fun n => Nat.le_refl n
    | cons c cs ih => exact fun n => Nat.le_trans (Nat.le_add_right n _) (ih _)
  have hrest := grows rest (0 + a.utf8Size + b.utf8Size + c.utf8Size + d.utf8Size)
  have := a.utf8Size_pos
  have := b.utf8Size_pos
  have := c.utf8Size_pos
  have := d.utf8Size_pos
  simp only [Text.byteCount, List.foldl_cons]
  omega

theorem readUnit_digits {n : Nat} {text : List Char} (h : UnitDigits n text) (rest : List Char) :
    readUnit (text ++ rest) = .ok (n, rest) := by
  obtain ⟨hn, hdigits⟩ := h
  obtain ⟨a, _, ha, hbcd, rfl⟩ := List.forall₂_cons_left_iff.1 hdigits
  obtain ⟨b, _, hb, hcd, rfl⟩ := List.forall₂_cons_left_iff.1 hbcd
  obtain ⟨c, _, hc, hlast, rfl⟩ := List.forall₂_cons_left_iff.1 hcd
  obtain ⟨d, _, hd, hnil, rfl⟩ := List.forall₂_cons_left_iff.1 hlast
  obtain rfl := List.forall₂_nil_left_iff.1 hnil
  have hvalue : unitValue? [a, b, c, d] = some n := by
    simp only [unitValue?, List.mapM_cons, List.mapM_nil, hexValue?_digit (by omega) ha,
      hexValue?_digit (by omega) hb, hexValue?_digit (by omega) hc, hexValue?_digit (by omega) hd,
      Option.pure_def, Option.bind_eq_bind, Option.bind_some, Option.map_some, List.foldl_cons,
      List.foldl_nil, Option.some.injEq]
    omega
  have hcount := four_le_byteCount a b c d rest
  simp only [readUnit, List.cons_append, List.nil_append, hvalue]
  rw [if_neg (by omega)]

/-! ## Characters -/

/-- What may follow a backslash, with the character that it stands for. -/
def escapes : List (Char × Char) :=
  [('"', '"'), ('\\', '\\'), ('/', '/'), ('b', '\x08'), ('f', '\x0c'), ('n', '\n'), ('r', '\r'),
    ('t', '\t')]

/-- A character as itself, as an escape or as its code units. -/
inductive CharSpelled (c : Char) : List Char → Prop where
  | plain (hquote : c ≠ '"') (hslash : c ≠ '\\') (hcontrol : 32 ≤ c.toNat) : CharSpelled c [c]
  | escaped {e : Char} (h : (e, c) ∈ escapes) : CharSpelled c ['\\', e]
  | unit {digits : List Char} (h : UnitDigits c.toNat digits) :
    CharSpelled c ('\\' :: 'u' :: digits)
  | pair {high low : List Char} (h : 0x10000 ≤ c.toNat)
    (hhigh : UnitDigits (0xD800 + (c.toNat - 0x10000) / 0x400) high)
    (hlow : UnitDigits (0xDC00 + (c.toNat - 0x10000) % 0x400) low) :
    CharSpelled c ('\\' :: 'u' :: (high ++ '\\' :: 'u' :: low))

/-- A piece of a string of which only the form counts: a surrogate needs no partner. -/
inductive IsPiece : List Char → Prop where
  | plain {c : Char} (hquote : c ≠ '"') (hslash : c ≠ '\\') (hcontrol : 32 ≤ c.toNat) : IsPiece [c]
  | escaped {e c : Char} (h : (e, c) ∈ escapes) : IsPiece ['\\', e]
  | unit {n : Nat} {digits : List Char} (h : UnitDigits n digits) :
    IsPiece ('\\' :: 'u' :: digits)

theorem not_surrogate (c : Char) :
    isLowSurrogate c.toNat = false ∧ isHighSurrogate c.toNat = false := by
  have h : c.toNat < 0xD800 ∨ 0xDFFF < c.toNat ∧ c.toNat < 0x110000 := c.valid
  simp only [isLowSurrogate, isHighSurrogate, Bool.and_eq_false_iff, decide_eq_false_iff_not]
  omega

theorem readUnicodeEscape_unit {c : Char} {digits : List Char} (h : UnitDigits c.toNat digits)
    (rest : List Char) : readUnicodeEscape (digits ++ rest) = .ok (c, rest) := by
  simp only [readUnicodeEscape, readUnit_digits h, bind, Except.bind, not_surrogate,
    Bool.false_eq_true, if_false, Char.ofNat_toNat]

theorem readUnicodeEscape_pair {c : Char} {high low : List Char} (h : 0x10000 ≤ c.toNat)
    (hhigh : UnitDigits (0xD800 + (c.toNat - 0x10000) / 0x400) high)
    (hlow : UnitDigits (0xDC00 + (c.toNat - 0x10000) % 0x400) low) (rest : List Char) :
    readUnicodeEscape (high ++ '\\' :: 'u' :: (low ++ rest)) = .ok (c, rest) := by
  have hvalid : c.toNat < 0xD800 ∨ 0xDFFF < c.toNat ∧ c.toNat < 0x110000 := c.valid
  have hnotLow : isLowSurrogate (0xD800 + (c.toNat - 0x10000) / 0x400) = false := by
    simp only [isLowSurrogate, Bool.and_eq_false_iff, decide_eq_false_iff_not]
    omega
  have hisHigh : isHighSurrogate (0xD800 + (c.toNat - 0x10000) / 0x400) = true := by
    simp only [isHighSurrogate, Bool.and_eq_true, decide_eq_true_eq]
    omega
  have hisLow : isLowSurrogate (0xDC00 + (c.toNat - 0x10000) % 0x400) = true := by
    simp only [isLowSurrogate, Bool.and_eq_true, decide_eq_true_eq]
    omega
  have hpaired : paired (0xD800 + (c.toNat - 0x10000) / 0x400)
      (0xDC00 + (c.toNat - 0x10000) % 0x400) = c :=
    (congrArg Char.ofNat (by omega)).trans (Char.ofNat_toNat c)
  simp only [readUnicodeEscape, readUnit_digits hhigh, bind, Except.bind, hnotLow, hisHigh,
    Bool.false_eq_true, if_false, if_true, readLowSurrogate, readUnit_digits hlow, hisLow, hpaired]

/-! ## Pieces -/

section Pieces

variable {α : Type} {plain : Char → α} {coded : Reader α}

/-- A text that is read as one piece of a string. -/
def PieceOf (plain : Char → α) (coded : Reader α) (a : α) (text : List Char) : Prop :=
  text ≠ [] ∧ ∀ fuel rest, readPieces plain coded (fuel + 1) (text ++ rest) =
    (readPieces plain coded fuel rest).map fun (pieces, rest) => (a :: pieces, rest)

theorem pieceOf_plain {c : Char} (hquote : c ≠ '"') (hslash : c ≠ '\\') (hcontrol : 32 ≤ c.toNat) :
    PieceOf plain coded (plain c) [c] := by
  refine ⟨List.cons_ne_nil _ _, fun fuel rest => ?_⟩
  simp only [List.cons_append, List.nil_append, readPieces, if_neg hquote, if_neg hslash,
    if_neg (Nat.not_lt.2 hcontrol)]
  cases readPieces plain coded fuel rest <;> rfl

theorem pieceOf_escape {e : Char} {a : α} {text : List Char}
    (h : ∀ rest, readEscapeWith plain coded (e :: (text ++ rest)) = .ok (a, rest)) :
    PieceOf plain coded a ('\\' :: e :: text) := by
  refine ⟨List.cons_ne_nil _ _, fun fuel rest => ?_⟩
  simp only [List.cons_append, readPieces, Char.reduceEq, if_false, if_true, h, bind, Except.bind]
  cases readPieces plain coded fuel rest <;> rfl

theorem pieceOf_escaped {e c : Char} (h : (e, c) ∈ escapes) :
    PieceOf plain coded (plain c) ['\\', e] := by
  have all : ∀ p ∈ escapes, p.1 ≠ 'u' ∧ plainEscapes.lookup p.1 = some p.2 := by decide
  refine pieceOf_escape fun rest => ?_
  simp only [readEscapeWith, List.nil_append, if_neg (all _ h).1, (all _ h).2]

theorem pieceOf_coded {a : α} {text : List Char}
    (h : ∀ rest, coded (text ++ rest) = .ok (a, rest)) :
    PieceOf plain coded a ('\\' :: 'u' :: text) :=
  pieceOf_escape fun rest => by simp only [readEscapeWith, if_true, h]

theorem readPieces_closed {as : List α} {pieces : List (List Char)}
    (h : List.Forall₂ (PieceOf plain coded) as pieces) (rest : List Char) :
    ∀ fuel, pieces.flatten.length < fuel →
      readPieces plain coded fuel (pieces.flatten ++ '"' :: rest) = .ok (as, rest) := by
  induction h with
  | nil =>
    intro fuel hfuel
    obtain ⟨fuel, rfl⟩ := Nat.exists_eq_succ_of_ne_zero (Nat.ne_of_gt hfuel)
    rfl
  | cons hpiece _ ih =>
    intro fuel hfuel
    have hlength := List.length_pos_iff.2 hpiece.1
    simp only [List.flatten_cons, List.length_append] at hfuel
    obtain ⟨fuel, rfl⟩ := Nat.exists_eq_succ_of_ne_zero (Nat.ne_zero_of_lt hfuel)
    rw [List.flatten_cons, List.append_assoc, hpiece.2, ih fuel (by omega)]
    rfl

end Pieces

/-! ## Strings -/

/-- A text of a string, with its quotes. -/
def StringSpelled (s : String) (text : List Char) : Prop :=
  ∃ pieces, List.Forall₂ CharSpelled s.toList pieces ∧ text = '"' :: (pieces.flatten ++ ['"'])

/-- A text that has the form of a string. -/
def IsString (text : List Char) : Prop :=
  ∃ pieces : List (List Char), (∀ piece ∈ pieces, IsPiece piece) ∧
    text = '"' :: (pieces.flatten ++ ['"'])

theorem CharSpelled.pieceOf {c : Char} {text : List Char} (h : CharSpelled c text) :
    PieceOf id readUnicodeEscape c text := by
  cases h with
  | plain hquote hslash hcontrol => exact pieceOf_plain hquote hslash hcontrol
  | escaped h => exact pieceOf_escaped h
  | unit h => exact pieceOf_coded fun rest => readUnicodeEscape_unit h rest
  | pair h hhigh hlow =>
    refine pieceOf_coded fun rest => ?_
    simpa using readUnicodeEscape_pair h hhigh hlow rest

theorem readString_spelled {s : String} {text : List Char} (h : StringSpelled s text) :
    ∃ body, text = '"' :: body ∧ ∀ rest, readString (body ++ rest) = .ok (s, rest) := by
  obtain ⟨pieces, hpieces, rfl⟩ := h
  refine ⟨_, rfl, fun rest => ?_⟩
  have hread := readPieces_closed (hpieces.imp fun _ _ => CharSpelled.pieceOf) rest
    ((pieces.flatten ++ '"' :: rest).length + 1)
    (by simp only [List.length_append, List.length_cons]; omega)
  simp only [readString, List.append_assoc, List.singleton_append, hread, bind, Except.bind, pure,
    Except.pure, String.ofList_toList]

theorem skipString_isString {text : List Char} (h : IsString text) :
    ∃ body, text = '"' :: body ∧ ∀ rest, skipString (body ++ rest) = .ok ((), rest) := by
  obtain ⟨pieces, hpieces, rfl⟩ := h
  refine ⟨_, rfl, fun rest => ?_⟩
  let skipUnit : Reader Unit := fun cs => readUnit cs >>= fun p => pure ((), p.2)
  have hpieces : List.Forall₂ (PieceOf (fun _ => ()) skipUnit)
      (pieces.map fun _ => ()) pieces := by
    rw [List.forall₂_map_left_iff, List.forall₂_same]
    intro piece hmem
    cases hpieces piece hmem with
    | plain hquote hslash hcontrol => exact pieceOf_plain hquote hslash hcontrol
    | escaped h => exact pieceOf_escaped h
    | unit h =>
      refine pieceOf_coded fun rest => ?_
      simp only [skipUnit, readUnit_digits h, bind, Except.bind, pure, Except.pure]
  have hread := readPieces_closed hpieces rest
    ((pieces.flatten ++ '"' :: rest).length + 1)
    (by simp only [List.length_append, List.length_cons]; omega)
  have hskip (cs : List Char) : skipString cs =
      readPieces (fun _ => ()) skipUnit (cs.length + 1) cs >>= fun p => pure ((), p.2) := rfl
  rw [hskip, List.append_assoc, List.singleton_append, hread]
  rfl

/-! ## Written strings -/

theorem charSpelled_escaped (c : Char) : CharSpelled c (escaped c) := by
  unfold escaped
  split
  case h_8 =>
    split
    next hcontrol =>
      have digits : ∀ n < 32, hexDigit (n / 16) = (n / 16 % 16).digitChar ∧
          hexDigit n = (n % 16).digitChar := by decide
      refine .unit ⟨by omega, ?_⟩
      have hhigh : c.toNat / 4096 = 0 ∧ c.toNat / 256 % 16 = 0 := by omega
      rw [hhigh.1, hhigh.2, (digits _ hcontrol).1, (digits _ hcontrol).2]
      exact .cons (.inl rfl) (.cons (.inl rfl) (.cons (.inl rfl) (.cons (.inl rfl) .nil)))
    next hcontrol => exact .plain (by assumption) (by assumption) (Nat.not_lt.1 hcontrol)
  all_goals exact .escaped (by decide)

theorem stringSpelled_quoted (s : String) : StringSpelled s (quoted s) := by
  refine ⟨s.toList.map escaped, ?_, by simp [quoted, List.flatMap_def]⟩
  rw [List.forall₂_map_right_iff, List.forall₂_same]
  exact fun c _ => charSpelled_escaped c

end SheetExport.Json
