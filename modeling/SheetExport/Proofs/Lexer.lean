import SheetExport.Proofs.Names
import SheetExport.Sql.Quote

/-!
# How the store's language is cut into tokens

A text is read character by character, and the token read last is what the mode holds. Inside
quotes a doubled quote stands for one, and a quote that is not doubled ends the token. A number
takes a sign right before it. A text holds no NUL: one that does is refused before it is read.
-/

namespace SheetExport.Sql

/-! ## Tokens -/

inductive Token where
  | word (s : String)
  | mark (s : String)
  | name (payload : String)
  | text (payload : String)
  | number (payload : String)
  | blob (s : String)
  | parameter (s : String)
  /-- Characters that are no token. -/
  | bad (s : String)
  deriving DecidableEq

/-- The token without what a quoted name, a quoted text or a number holds. -/
def Token.shape : Token → Token
  | name _ => name ""
  | text _ => text ""
  | number _ => number ""
  | t => t

/-! ## Modes -/

/-- What the characters since the last token are the start of. -/
inductive Mode where
  | start
  | ended (t : Token)
  | word (cs : List Char)
  | quoted (mark : Char) (cs : List Char)
  /-- A quote was read that ends the token unless it is doubled. -/
  | quoteEnd (mark : Char) (cs : List Char)
  | bracket (cs : List Char)
  | blob (cs : List Char)
  | parameter (cs : List Char)
  | point
  | sign (c : Char)
  | signPoint (c : Char)
  | whole (cs : List Char)
  | fraction (cs : List Char)
  | exponent (cs : List Char)
  | exponentSign (cs : List Char) (c : Char)
  | power (cs : List Char)
  | hexMark (cs : List Char)
  | hex (cs : List Char)
  | malformed (cs : List Char)
  | operator (cs : List Char)
  | lineComment
  | blockComment
  | blockStar
  deriving DecidableEq

def isWordStart (c : Char) : Bool := c.isAlpha || c == '_' || 128 ≤ c.toNat

def isWordChar (c : Char) : Bool := isWordStart c || c.isDigit || c == '$'

def isHexDigit (c : Char) : Bool :=
  c.isDigit || ('a' ≤ c && c ≤ 'f') || ('A' ≤ c && c ≤ 'F')

def isExponentMark (c : Char) : Bool := c == 'e' || c == 'E'

def singleMarks : List Char := ['(', ')', ',', ';', '*', '%', '&', '~']

def operatorStarts : List Char := ['<', '>', '=', '!', '|', '/']

def doubleMarks : List (List Char) :=
  ["<=", "<>", "<<", ">=", ">>", "==", "!=", "||", "->>"].map String.toList

def parameterStarts : List Char := ['?', ':', '@', '#', '$']

namespace Mode

/-- The tokens in which a mode ends when its last token does not go on. -/
def pending : Mode → List Token
  | start | lineComment | blockComment | blockStar => []
  | ended t => [t]
  | word cs => [.word (String.ofList cs)]
  | quoteEnd mark cs =>
    [if mark = '\'' then .text (String.ofList cs) else .name (String.ofList cs)]
  | parameter cs => [.parameter (String.ofList cs)]
  | point => [.mark "."]
  | sign c => [.mark (String.ofList [c])]
  | signPoint c => [.mark (String.ofList [c]), .mark "."]
  | whole cs | fraction cs | power cs | hex cs => [.number (String.ofList cs)]
  | exponentSign cs c => [.bad (String.ofList cs), .mark (String.ofList [c])]
  | operator cs => [if cs = ['!'] then .bad "!" else .mark (String.ofList cs)]
  | quoted _ cs | bracket cs | blob cs | exponent cs | hexMark cs | malformed cs =>
    [.bad (String.ofList cs)]

/-- The mode after one more character of a number that may end here. -/
def numberGoesOn (cs : List Char) (c : Char) : Option Mode :=
  if isExponentMark c then some (exponent (cs ++ [c]))
  else if isWordChar c then some (malformed (cs ++ [c]))
  else none

/-- The mode after one more character of the same token, if it goes on with it. -/
def extend? : Mode → Char → Option Mode
  | start, _ | ended _, _ => none
  | word cs, c =>
    if isWordChar c then some (word (cs ++ [c]))
    else if c = '\'' ∧ (cs = ['x'] ∨ cs = ['X']) then some (blob [])
    else none
  | quoted mark cs, c => some (if c = mark then quoteEnd mark cs else quoted mark (cs ++ [c]))
  | quoteEnd mark cs, c => if c = mark then some (quoted mark (cs ++ [c])) else none
  | bracket cs, c =>
    some (if c = ']' then ended (.name (String.ofList cs)) else bracket (cs ++ [c]))
  | blob cs, c => some (if c = '\'' then ended (.blob (String.ofList cs)) else blob (cs ++ [c]))
  | parameter cs, c => if isWordChar c then some (parameter (cs ++ [c])) else none
  | point, c => if c.isDigit then some (fraction ['.', c]) else none
  | sign s, c =>
    if c.isDigit then some (whole [s, c])
    else if c = '.' then some (signPoint s)
    else if s = '-' ∧ c = '-' then some lineComment
    else if s = '-' ∧ c = '>' then some (operator ['-', '>'])
    else none
  | signPoint s, c => if c.isDigit then some (fraction [s, '.', c]) else none
  | whole cs, c =>
    if c.isDigit then some (whole (cs ++ [c]))
    else if c = '.' then some (fraction (cs ++ [c]))
    else if (c = 'x' ∨ c = 'X') ∧ cs.getLast? = some '0' ∧ cs.countP Char.isDigit = 1 then
      some (hexMark (cs ++ [c]))
    else numberGoesOn cs c
  | fraction cs, c => if c.isDigit then some (fraction (cs ++ [c])) else numberGoesOn cs c
  | exponent cs, c =>
    if c.isDigit then some (power (cs ++ [c]))
    else if c = '+' ∨ c = '-' then some (exponentSign cs c)
    else if isWordChar c then some (malformed (cs ++ [c]))
    else none
  | exponentSign cs s, c => if c.isDigit then some (power (cs ++ [s, c])) else none
  | power cs, c =>
    if c.isDigit then some (power (cs ++ [c]))
    else if isWordChar c then some (malformed (cs ++ [c]))
    else none
  | hexMark cs, c | hex cs, c =>
    if isHexDigit c then some (hex (cs ++ [c]))
    else if isWordChar c then some (malformed (cs ++ [c]))
    else none
  | malformed cs, c => if isWordChar c then some (malformed (cs ++ [c])) else none
  | operator cs, c =>
    if doubleMarks.contains (cs ++ [c]) then some (ended (.mark (String.ofList (cs ++ [c]))))
    else if cs = ['/'] ∧ c = '*' then some blockComment
    else none
  | lineComment, c => some (if c = '\n' then start else lineComment)
  | blockComment, c => some (if c = '*' then blockStar else blockComment)
  | blockStar, c =>
    some (if c = '/' then start else if c = '*' then blockStar else blockComment)

/-- The first character after a token, and the token that it already makes. -/
def begin (c : Char) : List Token × Mode :=
  if Text.isAsciiBlank c then ([], start)
  else if c.isDigit then ([], whole [c])
  else if isWordStart c then ([], word [c])
  else if c = '\'' ∨ c = '"' ∨ c = '\x60' then ([], quoted c [])
  else if c = '[' then ([], bracket [])
  else if c = '.' then ([], point)
  else if c = '+' ∨ c = '-' then ([], sign c)
  else if operatorStarts.contains c then ([], operator [c])
  else if parameterStarts.contains c then ([], parameter [c])
  else if singleMarks.contains c then ([.mark (String.ofList [c])], start)
  else ([.bad (String.ofList [c])], start)

def step (m : Mode) (c : Char) : List Token × Mode :=
  match m.extend? c with
  | some next => ([], next)
  | none => (m.pending ++ (begin c).1, (begin c).2)

/-- The mode after some characters. -/
def after (m : Mode) (cs : List Char) : Mode := cs.foldl (fun m c => (m.step c).2) m

/-- The tokens that some characters end. -/
def emitted : Mode → List Char → List Token
  | _, [] => []
  | m, c :: cs => (m.step c).1 ++ emitted (m.step c).2 cs

/-- The tokens of the text that comes in a mode. -/
def tokens (m : Mode) (cs : List Char) : List Token := m.emitted cs ++ (m.after cs).pending

end Mode

def lexChars (cs : List Char) : List Token := Mode.start.tokens cs

/-- The tokens of a text. -/
def lex (s : String) : List Token := lexChars s.toList

/-! ## Reading on -/

namespace Mode

@[simp] theorem after_nil (m : Mode) : m.after [] = m := rfl

@[simp] theorem after_cons (m : Mode) (c : Char) (cs : List Char) :
    m.after (c :: cs) = (m.step c).2.after cs := rfl

@[simp] theorem emitted_nil (m : Mode) : m.emitted [] = [] := rfl

@[simp] theorem emitted_cons (m : Mode) (c : Char) (cs : List Char) :
    m.emitted (c :: cs) = (m.step c).1 ++ (m.step c).2.emitted cs := rfl

theorem after_append (m : Mode) (a b : List Char) : m.after (a ++ b) = (m.after a).after b := by
  simp [after, List.foldl_append]

theorem emitted_append (m : Mode) (a : List Char) : ∀ b : List Char,
    m.emitted (a ++ b) = m.emitted a ++ (m.after a).emitted b := by
  induction a generalizing m with
  | nil => intro b; rfl
  | cons c cs ih => intro b; simp [ih]

theorem tokens_append (m : Mode) (a b : List Char) :
    m.tokens (a ++ b) = m.emitted a ++ (m.after a).tokens b := by
  simp [tokens, emitted_append, after_append]

theorem tokens_cons_of_extend {m next : Mode} {c : Char} (h : m.extend? c = some next)
    (cs : List Char) : m.tokens (c :: cs) = next.tokens cs := by
  simp [tokens, step, h]

theorem tokens_of_closed {m : Mode} {cs : List Char} (h : ∀ c ∈ cs.head?, m.extend? c = none) :
    m.tokens cs = m.pending ++ lexChars cs := by
  cases cs with
  | nil => simp [tokens, lexChars, pending]
  | cons c cs =>
    have hc : m.extend? c = none := h c rfl
    have hs : start.extend? c = none := rfl
    simp [tokens, lexChars, step, hc, hs, pending]

end Mode

/-! ## Quoted tokens -/

theorem emitted_quoted (mark : Char) (s : List Char) : ∀ cs : List Char,
    (Mode.quoted mark cs).emitted (s.flatMap fun c => if c = mark then [c, c] else [c]) = [] ∧
    (Mode.quoted mark cs).after (s.flatMap fun c => if c = mark then [c, c] else [c]) =
      .quoted mark (cs ++ s) := by
  induction s with
  | nil => intro cs; simp
  | cons c s ih =>
    intro cs
    by_cases h : c = mark
    · subst h
      simp [Mode.step, Mode.extend?, ih]
    · simp [Mode.step, Mode.extend?, h, ih]

/-- The quotes around a text are the only ones that do not come in pairs, whatever is in it. -/
theorem tokens_quoted {mark : Char} (s : String) {rest : List Char}
    (h : rest.head? ≠ some mark) :
    (Mode.quoted mark []).tokens ((Text.doubled mark s).toList ++ mark :: rest) =
      (Mode.quoteEnd mark s.toList).pending ++ lexChars rest := by
  obtain ⟨he, ha⟩ := emitted_quoted mark s.toList []
  rw [Mode.tokens_append, Text.doubled, String.toList_ofList, he, ha, List.nil_append,
    List.nil_append, Mode.tokens_cons_of_extend (by simp [Mode.extend?]; rfl),
    Mode.tokens_of_closed]
  intro c hc
  have : c ≠ mark := by
    rintro rfl
    exact h hc
  simp [Mode.extend?, this]

theorem lex_name (s : String) {rest : List Char} (h : rest.head? ≠ some '"') :
    lexChars ((name s).toList ++ rest) = .name s :: lexChars rest := by
  have hq : lexChars ((name s).toList ++ rest) =
      (Mode.quoted '"' []).tokens ((Text.doubled '"' s).toList ++ '"' :: rest) := by
    simp [name, lexChars, Mode.tokens, Mode.step, Mode.extend?, Mode.pending, Mode.begin,
      Text.isAsciiBlank, isWordStart]
  rw [hq, tokens_quoted s h]
  simp [Mode.pending]

theorem lex_text (s : String) {rest : List Char} (h : rest.head? ≠ some '\'') :
    lexChars ((text s).toList ++ rest) = .text s :: lexChars rest := by
  have hq : lexChars ((text s).toList ++ rest) =
      (Mode.quoted '\'' []).tokens ((Text.doubled '\'' s).toList ++ '\'' :: rest) := by
    simp [text, lexChars, Mode.tokens, Mode.step, Mode.extend?, Mode.pending, Mode.begin,
      Text.isAsciiBlank, isWordStart]
  rw [hq, tokens_quoted s h]
  simp [Mode.pending]

end SheetExport.Sql
