import Mathlib.Data.List.Infix
import SheetExport.Proofs.ByteOrder
import SheetExport.Store.Pattern

/-!
# What a pattern matches

The bytes of a text give the codes of its characters up to the first zero. Matching keeps every
rest that the codes of a pattern may leave of them, and for `%` it asks only the longest one.
`MayLeave` says what a pattern may leave of a text without any list of rests. The two agree because
the rests are parts of one another.
-/

namespace SheetExport.Store

/-! ## Codes of characters -/

/-- The character that is read for a character. Two of them count as strays. -/
def readChar (c : Char) : Char := if c = '\uFFFE' ∨ c = '\uFFFF' then '\uFFFD' else c

theorem readChar_of_short {c : Char} (h : c.toNat < 0x80) : readChar c = c := by
  refine if_neg ?_
  rintro (rfl | rfl)
  · exact absurd h (by decide)
  · exact absurd h (by decide)

theorem settledCode_of_long {c : Char} (h : 0x80 ≤ c.toNat) :
    settledCode c.toNat = (readChar c).toNat := by
  have hu : ¬ (0xD800 ≤ c.toNat ∧ c.toNat < 0xE000) := by
    have := c.valid
    simp only [UInt32.isValidChar, Nat.isValidChar] at this
    change ¬ (0xD800 ≤ c.val.toNat ∧ c.val.toNat < 0xE000)
    omega
  have hn : c = '\uFFFE' ∨ c = '\uFFFF' ↔ c.toNat = 0xFFFE ∨ c.toNat = 0xFFFF := by
    rw [← Char.toNat_inj, ← Char.toNat_inj]
    rfl
  unfold settledCode readChar
  by_cases hs : c = '\uFFFE' ∨ c = '\uFFFF'
  · rw [if_pos hs, if_pos (.inr (.inr (hn.1 hs)))]
    rfl
  · rw [if_neg hs, if_neg]
    have := mt hn.2 hs
    omega

/-! ## Bytes of characters -/

theorem toNat_byte {n : Nat} (h : n < 256) : (UInt8.ofNat n).toNat = n := by
  rw [UInt8.toNat_ofNat', Nat.mod_eq_of_lt h]

theorem codesAfter_lead {n : Nat} (hl : 0xC0 ≤ n) (hr : n < 0xF8) (begun : Option Nat)
    (rest : Bytes) :
    codesAfter begun (UInt8.ofNat n :: rest) =
      (begun.map settledCode).toList ++ codesAfter
        (some (if n < 0xE0 then n % 32 else if n < 0xF0 then n % 16 else n % 8)) rest := by
  have hb : (UInt8.ofNat n).toNat = n := toNat_byte (by omega)
  have h0 : UInt8.ofNat n ≠ 0 := by
    rw [← UInt8.toNat_inj.ne, hb, UInt8.toNat_zero]
    omega
  have hn : ¬ UInt8.ofNat n < 0xC0 := by rw [UInt8.lt_iff_toNat_lt, hb]; exact Nat.not_lt.2 hl
  have hc : isContinuation (UInt8.ofNat n) = false := by simp [isContinuation, hn]
  have hv : leadValue (UInt8.ofNat n) =
      if n < 0xE0 then n % 32 else if n < 0xF0 then n % 16 else n % 8 := by
    simp only [leadValue, UInt8.lt_iff_toNat_lt, hb, UInt8.reduceToNat]
    rw [if_pos hr]
  rw [codesAfter, if_neg h0, hc, Bool.and_false, if_neg Bool.false_ne_true, if_neg hn, hv]

theorem codesAfter_continuation {d code : Nat} (hd : d < 64) (hc : code < 0x8000) (rest : Bytes) :
    codesAfter (some code) (UInt8.ofNat (d + 128) :: rest) =
      codesAfter (some (64 * code + d)) rest := by
  have hb : (UInt8.ofNat (d + 128)).toNat = d + 128 := toNat_byte (by omega)
  have h0 : UInt8.ofNat (d + 128) ≠ 0 := by
    rw [← UInt8.toNat_inj.ne, hb]
    exact Nat.succ_ne_zero _
  have hi : isContinuation (UInt8.ofNat (d + 128)) = true := by
    simp only [isContinuation, Bool.and_eq_true, decide_eq_true_eq, UInt8.le_iff_toNat_le,
      UInt8.lt_iff_toNat_lt, hb, UInt8.reduceToNat]
    omega
  have hv : extendedCode code (UInt8.ofNat (d + 128)) = 64 * code + d := by
    rw [extendedCode, hb, show twoTo 32 = 4294967296 from rfl]
    omega
  rw [codesAfter, if_neg h0, hi, Option.isSome_some, Bool.and_true, if_pos rfl, Option.map_some, hv]

theorem codesAfter_nul (begun : Option Nat) (rest : Bytes) :
    codesAfter begun (String.utf8EncodeChar '\x00' ++ rest) = (begun.map settledCode).toList := by
  rw [show String.utf8EncodeChar '\x00' = [0] from by decide, List.cons_append, codesAfter,
    if_pos rfl]

theorem codesAfter_short {c : Char} (hc : c ≠ '\x00') (hs : c.toNat < 0x80) (begun : Option Nat)
    (rest : Bytes) :
    codesAfter begun (String.utf8EncodeChar c ++ rest) =
      (begun.map settledCode).toList ++ c.toNat :: codesAfter none rest := by
  have hb : (UInt8.ofNat c.toNat).toNat = c.toNat := toNat_byte (by omega)
  have h0 : UInt8.ofNat c.toNat ≠ 0 := by
    rw [← UInt8.toNat_inj.ne, hb]
    exact fun h => hc (Char.toNat_inj.1 h)
  have hn : isContinuation (UInt8.ofNat c.toNat) = false := by
    simp only [isContinuation, Bool.and_eq_false_iff, decide_eq_false_iff_not,
      UInt8.le_iff_toNat_le, hb]
    exact .inl (Nat.not_le.2 hs)
  have hlt : UInt8.ofNat c.toNat < 0xC0 := by
    rw [UInt8.lt_iff_toNat_lt, hb]
    exact Nat.lt_trans hs (by decide)
  have henc : String.utf8EncodeChar c = [UInt8.ofNat c.toNat] := if_pos (Nat.le_of_lt_succ hs)
  rw [henc, List.singleton_append, codesAfter, if_neg h0, hn, Bool.and_false,
    if_neg Bool.false_ne_true, if_pos hlt, hb]

theorem codesAfter_long {c : Char} (hl : 0x80 ≤ c.toNat) (begun : Option Nat) (rest : Bytes) :
    codesAfter begun (String.utf8EncodeChar c ++ rest) =
      (begun.map settledCode).toList ++ codesAfter (some c.toNat) rest := by
  have hu : c.toNat < 0x110000 := by
    have := c.valid
    simp only [UInt32.isValidChar, Nat.isValidChar] at this
    change c.val.toNat < _
    omega
  unfold String.utf8EncodeChar
  rw [show c.val.toNat = c.toNat from rfl]
  generalize c.toNat = n at hl hu
  dsimp only
  rw [if_neg (by omega)]
  split
  · rw [List.cons_append, List.cons_append, List.nil_append, codesAfter_lead (by omega) (by omega),
      if_pos (by omega), codesAfter_continuation (by omega) (by omega)]
    congr 3
    omega
  · split
    · rw [List.cons_append, List.cons_append, List.cons_append, List.nil_append,
        codesAfter_lead (by omega) (by omega), if_neg (by omega), if_pos (by omega),
        codesAfter_continuation (by omega) (by omega),
        codesAfter_continuation (by omega) (by omega)]
      congr 3
      omega
    · rw [List.cons_append, List.cons_append, List.cons_append, List.cons_append, List.nil_append,
        codesAfter_lead (by omega) (by omega), if_neg (by omega), if_neg (by omega),
        codesAfter_continuation (by omega) (by omega),
        codesAfter_continuation (by omega) (by omega),
        codesAfter_continuation (by omega) (by omega)]
      congr 3
      omega

theorem codesAfter_flatMap : ∀ (cs : List Char) (begun : Option Nat),
    codesAfter begun (cs.flatMap String.utf8EncodeChar) =
      (begun.map settledCode).toList ++
        ((cs.takeWhile (· ≠ '\x00')).map readChar).map Char.toNat
  | [], begun => by simp [codesAfter]
  | c :: cs, begun => by
    by_cases h0 : c = '\x00'
    · subst h0
      rw [List.flatMap_cons, codesAfter_nul, List.takeWhile_cons_of_neg (by simp)]
      simp
    · rw [List.flatMap_cons, List.takeWhile_cons_of_pos (by simpa using h0)]
      by_cases hs : c.toNat < 0x80
      · rw [codesAfter_short h0 hs, codesAfter_flatMap cs none, List.map_cons, List.map_cons,
          readChar_of_short hs]
        simp
      · rw [codesAfter_long (Nat.not_lt.1 hs), codesAfter_flatMap cs (some c.toNat),
          Option.map_some, settledCode_of_long (Nat.not_lt.1 hs)]
        rfl

theorem codesOf_bytesOf (s : String) :
    codesOf (bytesOf s) = ((s.toList.takeWhile (· ≠ '\x00')).map readChar).map Char.toNat := by
  rw [codesOf, bytesOf_eq, codesAfter_flatMap]
  rfl

/-! ## Rests -/

/-- Reading a pattern from its front may leave this of a text. -/
inductive MayLeave : List Nat → List Nat → List Nat → Prop where
  | done (text : List Nat) : MayLeave [] text text
  | any {pattern text mid rest : List Nat} (hm : mid <:+ text) (h : MayLeave pattern mid rest) :
      MayLeave (anyText :: pattern) text rest
  | one {p c : Nat} {pattern text rest : List Nat} (hp : p ≠ anyText)
      (hc : p = anyCode ∨ foldedCode p = foldedCode c) (h : MayLeave pattern text rest) :
      MayLeave (p :: pattern) (c :: text) rest

/-- Each rest is part of the ones before it, so that the first holds all there is. -/
def Nested (rests : List (List Nat)) : Prop := rests.Pairwise fun a b => b <:+ a

theorem mem_suffixes {s : List Nat} : ∀ {t : List Nat}, s ∈ suffixes t ↔ s <:+ t
  | [] => by rw [suffixes, List.mem_singleton, List.suffix_nil]
  | c :: t => by rw [suffixes, List.mem_cons, mem_suffixes, List.suffix_cons_iff]

theorem nested_suffixes : ∀ t : List Nat, Nested (suffixes t)
  | [] => List.pairwise_singleton _ _
  | c :: t => by
    refine List.pairwise_cons.2 ⟨fun s hs => ?_, nested_suffixes t⟩
    exact (mem_suffixes.1 hs).trans (List.suffix_cons c t)

theorem restAfter?_eq_some {p : Nat} {t s : List Nat} : restAfter? p t = some s ↔
    ∃ c, t = c :: s ∧ (p = anyCode ∨ foldedCode p = foldedCode c) := by
  cases t with
  | nil => simp [restAfter?]
  | cons c t =>
    simp only [restAfter?, Option.ite_none_right_eq_some, Option.some.injEq, List.cons.injEq]
    constructor
    · rintro ⟨hc, rfl⟩
      exact ⟨c, ⟨rfl, rfl⟩, hc⟩
    · rintro ⟨d, ⟨rfl, rfl⟩, hc⟩
      exact ⟨hc, rfl⟩

section

variable {rests : List (List Nat)}

theorem nested_restsAfter (h : Nested rests) (p : Nat) : Nested (restsAfter rests p) := by
  unfold restsAfter
  split
  · cases rests with
    | nil => exact List.Pairwise.nil
    | cons t rests => exact nested_suffixes t
  · refine List.Pairwise.filterMap _ (fun a b hab s hs s' hs' => ?_) h
    obtain ⟨c, rfl, -⟩ := restAfter?_eq_some.1 hs
    obtain ⟨d, rfl, -⟩ := restAfter?_eq_some.1 hs'
    rcases List.suffix_cons_iff.1 hab with heq | hsuf
    · rw [(List.cons.inj heq).2]
    · exact (List.suffix_cons d s').trans hsuf

theorem mem_restsAfter (h : Nested rests) {p : Nat} {s : List Nat} :
    s ∈ restsAfter rests p ↔
      ∃ t ∈ rests, if p = anyText then s <:+ t else restAfter? p t = some s := by
  unfold restsAfter
  split
  · cases rests with
    | nil => simp
    | cons t rests =>
      rw [List.head?_cons, Option.map_some, Option.getD_some, mem_suffixes]
      refine ⟨fun hs => ⟨t, List.mem_cons_self, hs⟩, ?_⟩
      rintro ⟨u, hu, hs⟩
      rcases List.mem_cons.1 hu with rfl | hu
      · exact hs
      · exact hs.trans ((List.pairwise_cons.1 h).1 u hu)
  · exact List.mem_filterMap

/-- Which rests are left does not depend on which of them the matching looked at. -/
theorem mem_foldl_restsAfter : ∀ {pattern : List Nat} {rests : List (List Nat)}, Nested rests →
    ∀ {s : List Nat}, s ∈ pattern.foldl restsAfter rests ↔ ∃ t ∈ rests, MayLeave pattern t s
  | [], rests, _, s => by
    constructor
    · exact fun hs => ⟨s, hs, .done s⟩
    · rintro ⟨t, ht, ⟨⟩⟩
      exact ht
  | p :: pattern, rests, h, s => by
    rw [List.foldl_cons, mem_foldl_restsAfter (nested_restsAfter h p)]
    constructor
    · rintro ⟨mid, hmid, hl⟩
      obtain ⟨t, ht, hs⟩ := (mem_restsAfter h).1 hmid
      refine ⟨t, ht, ?_⟩
      split at hs
      · subst p
        exact .any hs hl
      · next hp =>
        obtain ⟨c, rfl, hc⟩ := restAfter?_eq_some.1 hs
        exact .one hp hc hl
    · rintro ⟨t, ht, hl⟩
      cases hl with
      | any hm hl => exact ⟨_, (mem_restsAfter h).2 ⟨t, ht, by rwa [if_pos rfl]⟩, hl⟩
      | one hp hc hl =>
        refine ⟨_, (mem_restsAfter h).2 ⟨_, ht, ?_⟩, hl⟩
        rw [if_neg hp]
        exact restAfter?_eq_some.2 ⟨_, rfl, hc⟩

end

theorem likeCodes_iff {pattern text : List Nat} :
    likeCodes pattern text = true ↔ MayLeave pattern text [] := by
  have h : Nested [text] := List.pairwise_singleton _ _
  simp only [likeCodes, List.any_eq_true, List.isEmpty_iff, mem_foldl_restsAfter h,
    List.mem_singleton, exists_eq_left]
  simp

/-! ## Literal parts -/

theorem mayLeave_append {p q t rest : List Nat} :
    MayLeave (p ++ q) t rest ↔ ∃ mid, MayLeave p t mid ∧ MayLeave q mid rest := by
  constructor
  · intro h
    induction p generalizing t with
    | nil => exact ⟨t, .done t, h⟩
    | cons a p ih =>
      cases h with
      | any hm h =>
        obtain ⟨mid, hp, hq⟩ := ih h
        exact ⟨mid, .any hm hp, hq⟩
      | one ha hc h =>
        obtain ⟨mid, hp, hq⟩ := ih h
        exact ⟨mid, .one ha hc hp, hq⟩
  · rintro ⟨mid, hp, hq⟩
    induction hp with
    | done => exact hq
    | any hm _ ih => exact .any hm (ih hq)
    | one ha hc _ ih => exact .one ha hc (ih hq)

/-- A pattern takes what it spells, also where a code in it stands for more. -/
theorem mayLeave_of_spelled : ∀ {p u : List Nat} (rest : List Nat),
    p.map foldedCode = u.map foldedCode → MayLeave p (u ++ rest) rest
  | [], [], rest, _ => .done rest
  | a :: p, c :: u, rest, h => by
    obtain ⟨hc, hp⟩ := List.cons.inj h
    by_cases ha : a = anyText
    · subst ha
      exact .any (List.suffix_cons c _) (mayLeave_of_spelled rest hp)
    · exact .one ha (.inr hc) (mayLeave_of_spelled rest hp)

theorem spelled_of_mayLeave {p t rest : List Nat} (ha : anyText ∉ p) (ho : anyCode ∉ p)
    (h : MayLeave p t rest) : ∃ u, t = u ++ rest ∧ p.map foldedCode = u.map foldedCode := by
  induction h with
  | done => exact ⟨[], rfl, rfl⟩
  | any => exact absurd List.mem_cons_self ha
  | @one a c p t rest _ hc _ ih =>
    obtain ⟨u, rfl, hu⟩ := ih (fun h => ha (List.mem_cons_of_mem _ h))
      fun h => ho (List.mem_cons_of_mem _ h)
    have hac : foldedCode a = foldedCode c :=
      hc.resolve_left fun h => ho (h ▸ List.mem_cons_self)
    exact ⟨c :: u, rfl, by rw [List.map_cons, List.map_cons, hac, hu]⟩

theorem mayLeave_anywhere {p t : List Nat} :
    MayLeave (anyText :: (p ++ [anyText])) t [] ↔ ∃ mid rest, mid <:+ t ∧ MayLeave p mid rest := by
  constructor
  · intro h
    cases h with
    | any hm h =>
      obtain ⟨rest, hp, -⟩ := mayLeave_append.1 h
      exact ⟨_, rest, hm, hp⟩
    | one ha => exact absurd rfl ha
  · rintro ⟨mid, rest, hm, hp⟩
    exact .any hm (mayLeave_append.2 ⟨rest, hp, .any (List.nil_suffix) (.done [])⟩)

theorem likeCodes_of_spelled {p t : List Nat} (h : p.map foldedCode <:+: t.map foldedCode) :
    likeCodes (anyText :: (p ++ [anyText])) t = true := by
  obtain ⟨before, after, h⟩ := h
  obtain ⟨t₁, rest, rfl, h₁, -⟩ := List.map_eq_append_iff.1 h.symm
  obtain ⟨pre, u, rfl, -, hu⟩ := List.map_eq_append_iff.1 h₁
  have hrest : u ++ rest <:+ pre ++ u ++ rest := by
    rw [List.append_assoc]
    exact List.suffix_append _ _
  exact likeCodes_iff.2
    (mayLeave_anywhere.2 ⟨u ++ rest, rest, hrest, mayLeave_of_spelled rest hu.symm⟩)

theorem spelled_of_likeCodes {p t : List Nat} (ha : anyText ∉ p) (ho : anyCode ∉ p)
    (h : likeCodes (anyText :: (p ++ [anyText])) t = true) :
    p.map foldedCode <:+: t.map foldedCode := by
  obtain ⟨mid, rest, ⟨pre, rfl⟩, hp⟩ := mayLeave_anywhere.1 (likeCodes_iff.1 h)
  obtain ⟨u, rfl, hu⟩ := spelled_of_mayLeave ha ho hp
  rw [hu, List.map_append, List.map_append]
  exact List.infix_append' _ _ _

end SheetExport.Store
