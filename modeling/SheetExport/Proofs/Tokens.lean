import SheetExport.Proofs.NumberTokens
import SheetExport.Sql.Statement

/-!
# Tokens of queries

Each form of a query has its tokens: those of its fixed words, and one token for each name, text or
number in it. The written form is cut into exactly these, wherever it stands.
-/

namespace SheetExport.Sql

/-! ## Written forms in context -/

/-- The characters that come right after a written form. -/
def closers : List Char := [' ', '\n', ')', ',', ';']

def Closed (rest : List Char) : Prop := ∀ c ∈ rest.head?, c ∈ closers

/-- A text is cut into the given tokens, whatever closed text comes after it. -/
def Lexes (s : String) (ts : List Token) : Prop :=
  ∀ rest, Closed rest → lexChars (s.toList ++ rest) = ts ++ lexChars rest

/-- A fixed text that leaves no token open. -/
def Leads (s : String) : Prop := Mode.start.after s.toList = .start

instance (s : String) : Decidable (Leads s) := inferInstanceAs (Decidable (_ = _))

/-- A fixed text that closes the token before it and leaves none open. -/
def Breaks (s : String) : Prop := (s.toList.head?.any (closers.contains ·)) = true ∧ Leads s

instance (s : String) : Decidable (Breaks s) := inferInstanceAs (Decidable (_ ∧ _))

/-- A fixed text that closes the token before it, and whose last token is closed in turn. -/
def Trails (s : String) : Prop :=
  (s.toList.head?.any (closers.contains ·)) = true ∧
    closers.all (fun c => (Mode.start.after s.toList).extend? c = none) = true

instance (s : String) : Decidable (Trails s) := inferInstanceAs (Decidable (_ ∧ _))

variable {a b s : String} {ts us : List Token}

theorem Lexes.lex (h : Lexes s ts) : lex s = ts := by
  have := h [] (by simp [Closed])
  simpa [Sql.lex, lexChars, Mode.tokens, Mode.pending] using this

theorem lexChars_leads (h : Leads s) (rest : List Char) :
    lexChars (s.toList ++ rest) = Sql.lex s ++ lexChars rest := by
  have hl : Sql.lex s = Mode.start.emitted s.toList := by
    rw [Sql.lex, lexChars, Mode.tokens, show Mode.start.after s.toList = .start from h]
    exact List.append_nil _
  rw [hl, lexChars, Mode.tokens_append, show Mode.start.after s.toList = .start from h]
  rfl

theorem closed_of_head (h : (s.toList.head?.any (closers.contains ·)) = true) (rest : List Char) :
    Closed (s.toList ++ rest) := by
  intro c hc
  cases hs : s.toList with
  | nil => simp [hs] at h
  | cons d ds =>
    rw [hs] at h hc
    simp only [List.cons_append, List.head?_cons, Option.mem_def, Option.some.injEq] at hc
    subst hc
    simpa using h

theorem lexes_empty : Lexes "" [] := fun _ _ => rfl

theorem Lexes.after (h : Lexes b us) (hs : Leads s) : Lexes (s ++ b) (Sql.lex s ++ us) := by
  intro rest hr
  rw [String.toList_append, List.append_assoc, lexChars_leads hs, h rest hr, List.append_assoc]

theorem Lexes.then (ha : Lexes a ts) (hs : Breaks s) (hb : Lexes b us) :
    Lexes (a ++ s ++ b) (ts ++ Sql.lex s ++ us) := by
  intro rest hr
  rw [String.toList_append, String.toList_append, List.append_assoc, List.append_assoc,
    ha _ (closed_of_head hs.1 _), lexChars_leads hs.2, hb rest hr]
  simp only [List.append_assoc]

theorem Lexes.before (ha : Lexes a ts) (hs : Trails s) : Lexes (a ++ s) (ts ++ Sql.lex s) := by
  intro rest hr
  rw [String.toList_append, List.append_assoc, ha _ (closed_of_head hs.1 _), List.append_assoc]
  congr 1
  have hc : ∀ c ∈ rest.head?, (Mode.start.after s.toList).extend? c = none :=
    fun c hc => by simpa using List.all_eq_true.1 hs.2 c (hr c hc)
  rw [lexChars, Mode.tokens_append, Mode.tokens_of_closed hc, ← List.append_assoc]
  rfl

/-! ## Lists of written forms -/

def joinedTokens (separator : String) (parts : List (List Token)) : List Token :=
  List.intercalate (Sql.lex separator) parts

section

variable {α : Type} {render : α → String} {tokens : α → List Token} {parts : List α}

theorem lexes_joined (hs : Breaks s) (h : ∀ p ∈ parts, Lexes (render p) (tokens p)) :
    Lexes (Text.joined s (parts.map render)) (joinedTokens s (parts.map tokens)) := by
  induction parts with
  | nil => exact lexes_empty
  | cons p rest ih =>
    have hp := h p List.mem_cons_self
    have ih := ih fun q hq => h q (List.mem_cons_of_mem _ hq)
    cases rest with
    | nil => simpa [Text.joined, joinedTokens] using hp
    | cons q rest =>
      have := hp.then hs ih
      simpa [Text.joined, joinedTokens, List.intercalate] using this

theorem Lexes.each (hs : Breaks s) (h : ∀ p ∈ parts, Lexes (render p) (tokens p)) :
    ∀ {a : String} {ts : List Token}, Lexes a ts →
      Lexes (a ++ String.join (parts.map fun p => s ++ render p))
        (ts ++ parts.flatMap fun p => Sql.lex s ++ tokens p) := by
  induction parts with
  | nil => intro a ts ha; simpa using ha
  | cons p rest ih =>
    intro a ts ha
    have hp := ha.then hs (h p List.mem_cons_self)
    have := ih (fun q hq => h q (List.mem_cons_of_mem _ hq)) hp
    simpa [String.join_cons, String.append_assoc] using this

end

/-! ## Names, texts and numbers -/

theorem lexes_name (n : String) : Lexes (name n) [.name n] := by
  intro rest hr
  refine lex_name n ?_
  intro h
  exact absurd (hr _ h) (by decide)

theorem lexes_text (v : String) : Lexes (text v) [.text v] := by
  intro rest hr
  refine lex_text v ?_
  intro h
  exact absurd (hr _ h) (by decide)

theorem lexes_number {v : String} (h : IsNumeral v.toList) : Lexes v [.number v] := by
  intro rest hr
  have hend : (Mode.start.after v.toList).pending = [.number v] ∧
      ∀ c ∈ rest.head?, (Mode.start.after v.toList).extend? c = none := by
    have closes {c : Char} (hc : c ∈ closers) : c.isDigit = false ∧ isWordChar c = false ∧
        isExponentMark c = false ∧ c ≠ '.' ∧ c ≠ 'x' ∧ c ≠ 'X' := by
      simp only [closers, List.mem_cons, List.not_mem_nil, or_false] at hc
      obtain rfl | rfl | rfl | rfl | rfl := hc <;> decide
    obtain ha | ha | ha := h.after <;> rw [ha] <;> refine ⟨by simp [Mode.pending], ?_⟩ <;>
    · intro c hc
      obtain ⟨h1, h2, h3, h4, h5, h6⟩ := closes (hr c hc)
      simp [Mode.extend?, Mode.numberGoesOn, h1, h2, h3, h4, h5, h6]
  rw [lexChars, Mode.tokens_append, h.emitted, Mode.tokens_of_closed hend.2, hend.1]
  rfl

/-! ## References and sources -/

def Reference.tokens : Reference → List Token
  | of table column => [.name table, .mark ".", .name column]
  | bare column => [.name column]

theorem lexes_reference (r : Reference) : Lexes r.render r.tokens := by
  cases r with
  | bare column => exact lexes_name column
  | of table column =>
    intro rest hr
    have hpoint (cs : List Char) :
        lexChars ('.' :: '"' :: cs) = .mark "." :: lexChars ('"' :: cs) := by
      rw [lexChars,
        show Mode.start.tokens ('.' :: '"' :: cs) = Mode.point.tokens ('"' :: cs) by rfl,
        Mode.tokens_of_closed]
      · rfl
      · intro c hc
        obtain rfl : '"' = c := by simpa using hc
        rfl
    have htable : lexChars ((name table).toList ++ '.' :: ((name column).toList ++ rest)) =
        .name table :: lexChars ('.' :: ((name column).toList ++ rest)) :=
      lex_name table (by simp)
    have hcolumn := lexes_name column rest hr
    have hhead : (name column).toList ++ rest =
        '"' :: ((Text.doubled '"' column).toList ++ '"' :: rest) := by simp [name]
    have hmark : ".".toList = ['.'] := rfl
    rw [Reference.render, qualified, String.toList_append, String.toList_append, hmark,
      List.append_assoc, List.append_assoc, List.singleton_append, htable, hhead, hpoint, ← hhead,
      hcolumn]
    rfl

def Source.tokens (s : Source) : List Token := .name s.table :: (s.shortName.map Token.name).toList

theorem lexes_source (s : Source) : Lexes s.render s.tokens := by
  unfold Source.render Source.tokens
  cases s.shortName with
  | none => exact lexes_name s.table
  | some n => exact (lexes_name s.table).then (by decide) (lexes_name n)

/-! ## Tests -/

def Condition.tokens (operand : List Token) : Condition → List Token
  | compares c value => operand ++ Sql.lex (" " ++ c.symbol ++ " ") ++ [.text value]
  | comparesNumber c literal =>
    Sql.lex "CAST(" ++ operand ++ Sql.lex (" AS DOUBLE) " ++ c.symbol ++ " ") ++ [.number literal]
  | comparesMoment c value =>
    Sql.lex "datetime(" ++ operand ++ Sql.lex (") " ++ c.symbol ++ " datetime(") ++
      [.text value] ++ Sql.lex ")"
  | like pattern => operand ++ Sql.lex " LIKE " ++ [.text pattern]
  | notLike pattern => operand ++ Sql.lex " NOT LIKE " ++ [.text pattern]
  | empty =>
    Sql.lex "(" ++ operand ++ Sql.lex " = '' OR " ++ operand ++ Sql.lex " IS NULL)"
  | notEmpty =>
    Sql.lex "(" ++ operand ++ Sql.lex " <> '' AND " ++ operand ++ Sql.lex " IS NOT NULL)"

/-- The condition holds no number that is not written as one. -/
def Condition.IsLexical : Condition → Prop
  | comparesNumber _ literal => IsNumeral literal.toList
  | _ => True

theorem lexes_condition {operand : String} (ho : Lexes operand ts) {c : Condition}
    (hc : c.IsLexical) : Lexes (c.render operand) (c.tokens ts) := by
  cases c with
  | compares c value =>
    have hs : Breaks (" " ++ c.symbol ++ " ") := by cases c <;> decide
    have := ho.then hs (lexes_text value)
    simpa only [Condition.render, Condition.tokens, String.append_assoc] using this
  | comparesNumber c literal =>
    have hs : Breaks (" AS DOUBLE) " ++ c.symbol ++ " ") := by cases c <;> decide
    have hl : Leads "CAST(" := by decide
    have := (ho.after hl).then hs (lexes_number hc)
    simpa only [Condition.render, Condition.tokens, String.append_assoc] using this
  | comparesMoment c value =>
    have hs : Breaks (") " ++ c.symbol ++ " datetime(") := by cases c <;> decide
    have hl : Leads "datetime(" := by decide
    have ht : Trails ")" := by decide
    have := ((ho.after hl).then hs (lexes_text value)).before ht
    simpa only [Condition.render, Condition.tokens, String.append_assoc] using this
  | like pattern =>
    have hs : Breaks " LIKE " := by decide
    exact ho.then hs (lexes_text pattern)
  | notLike pattern =>
    have hs : Breaks " NOT LIKE " := by decide
    exact ho.then hs (lexes_text pattern)
  | empty =>
    have hl : Leads "(" := by decide
    have hs : Breaks " = '' OR " := by decide
    have ht : Trails " IS NULL)" := by decide
    exact ((ho.after hl).then hs ho).before ht
  | notEmpty =>
    have hl : Leads "(" := by decide
    have hs : Breaks " <> '' AND " := by decide
    have ht : Trails " IS NOT NULL)" := by decide
    exact ((ho.after hl).then hs ho).before ht

def Test.tokens : Test → List Token
  | equal a b => a.tokens ++ Sql.lex " = " ++ b.tokens
  | holds operand condition => condition.tokens operand.tokens

def Test.IsLexical : Test → Prop
  | equal _ _ => True
  | holds _ condition => condition.IsLexical

theorem lexes_test {t : Test} (h : t.IsLexical) : Lexes t.render t.tokens := by
  cases t with
  | equal a b =>
    have hs : Breaks " = " := by decide
    exact (lexes_reference a).then hs (lexes_reference b)
  | holds operand condition => exact lexes_condition (lexes_reference operand) h

/-! ## Lookups -/

def Link.tokens (l : Link) : List Token :=
  let on := match l.tests with
    | [t] => t.tokens
    | ts => Sql.lex "(" ++ joinedTokens " AND " (ts.map Test.tokens) ++ Sql.lex ")"
  Sql.lex "INNER JOIN " ++ l.source.tokens ++ Sql.lex " ON " ++ on

theorem lexes_link {l : Link} (h : ∀ t ∈ l.tests, t.IsLexical) : Lexes l.render l.tokens := by
  have hl : Leads "INNER JOIN " := by decide
  have hs : Breaks " ON " := by decide
  have source := (lexes_source l.source).after hl
  have hand : Breaks " AND " := by decide
  have hopen : Leads "(" := by decide
  have hclose : Trails ")" := by decide
  have tests := ((lexes_joined hand fun t ht => lexes_test (h t ht)).after hopen).before hclose
  obtain ⟨src, ts⟩ := l
  match ts with
  | [] => exact source.then hs tests
  | [t] => exact source.then hs (lexes_test (h t (List.mem_singleton_self t)))
  | _ :: _ :: _ => exact source.then hs tests

def Lookup.tokens (l : Lookup) : List Token :=
  let tests := if l.tests.isEmpty then []
    else Sql.lex " WHERE " ++ joinedTokens " AND " (l.tests.map Test.tokens)
  Sql.lex "SELECT " ++ l.column.tokens ++ Sql.lex " FROM " ++ l.source.tokens ++
    l.links.flatMap (fun k => Sql.lex " " ++ k.tokens) ++ tests

def Lookup.IsLexical (l : Lookup) : Prop :=
  (∀ k ∈ l.links, ∀ t ∈ k.tests, t.IsLexical) ∧ ∀ t ∈ l.tests, t.IsLexical

theorem lexes_lookup {l : Lookup} (h : l.IsLexical) : Lexes l.render l.tokens := by
  have hselect : Leads "SELECT " := by decide
  have hfrom : Breaks " FROM " := by decide
  have hblank : Breaks " " := by decide
  have hwhere : Breaks " WHERE " := by decide
  have hand : Breaks " AND " := by decide
  have source := ((lexes_reference l.column).after hselect).then hfrom (lexes_source l.source)
  have links := source.each hblank fun k hk => lexes_link (h.1 k hk)
  have tests := lexes_joined hand fun t ht => lexes_test (h.2 t ht)
  unfold Lookup.render Lookup.tokens
  by_cases he : l.tests.isEmpty = true
  · simpa [he] using links
  · have := links.then hwhere tests
    simpa [he, String.append_assoc] using this

/-! ## Clauses -/

def Clause.tokens : Clause → List Token
  | test t => t.tokens
  | among operand lookup => operand.tokens ++ Sql.lex " IN (" ++ lookup.tokens ++ Sql.lex ")"
  | notAmong value lookup =>
    [.text value] ++ Sql.lex " NOT IN (" ++ lookup.tokens ++ Sql.lex ")"
  | nothing lookup => Sql.lex "(" ++ lookup.tokens ++ Sql.lex " LIMIT 1) IS NULL"

def Clause.IsLexical : Clause → Prop
  | test t => t.IsLexical
  | among _ lookup | notAmong _ lookup | nothing lookup => lookup.IsLexical

theorem lexes_clause {c : Clause} (h : c.IsLexical) : Lexes c.render c.tokens := by
  have hclose : Trails ")" := by decide
  cases c with
  | test t => exact lexes_test h
  | among operand lookup =>
    have hs : Breaks " IN (" := by decide
    exact ((lexes_reference operand).then hs (lexes_lookup h)).before hclose
  | notAmong value lookup =>
    have hs : Breaks " NOT IN (" := by decide
    exact ((lexes_text value).then hs (lexes_lookup h)).before hclose
  | nothing lookup =>
    have hopen : Leads "(" := by decide
    have hs : Trails " LIMIT 1) IS NULL" := by decide
    exact ((lexes_lookup h).after hopen).before hs

def whereTokens (clauses : List Clause) : List Token :=
  if clauses.isEmpty then []
  else Sql.lex "\nWHERE " ++ joinedTokens "\n  AND " (clauses.map Clause.tokens)

theorem Lexes.where_lines (ha : Lexes a ts) {clauses : List Clause}
    (h : ∀ c ∈ clauses, c.IsLexical) :
    Lexes (a ++ whereLines clauses) (ts ++ whereTokens clauses) := by
  have hwhere : Breaks "\nWHERE " := by decide
  have hand : Breaks "\n  AND " := by decide
  have tests := lexes_joined hand fun c hc => lexes_clause (h c hc)
  unfold whereLines whereTokens
  by_cases he : clauses.isEmpty = true
  · simpa [he] using ha
  · have := ha.then hwhere tests
    simpa [he, String.append_assoc] using this

/-! ## Selections -/

def Join.tokens (j : Join) : List Token :=
  Sql.lex "INNER JOIN " ++ j.source.tokens ++ Sql.lex " ON (\n    " ++
    joinedTokens " AND\n    " (j.clauses.map Clause.tokens) ++ Sql.lex "\n)"

theorem lexes_join {j : Join} (h : ∀ c ∈ j.clauses, c.IsLexical) : Lexes j.render j.tokens := by
  have hl : Leads "INNER JOIN " := by decide
  have hon : Breaks " ON (\n    " := by decide
  have hand : Breaks " AND\n    " := by decide
  have hclose : Trails "\n)" := by decide
  have clauses := lexes_joined hand fun c hc => lexes_clause (h c hc)
  exact (((lexes_source j.source).after hl).then hon clauses).before hclose

def Selection.tokens (q : Selection) : List Token :=
  Sql.lex "SELECT DISTINCT " ++ q.column.tokens ++ Sql.lex " FROM " ++ q.source.tokens ++
    q.joins.flatMap (fun j => Sql.lex "\n" ++ j.tokens) ++ whereTokens q.clauses

def Selection.IsLexical (q : Selection) : Prop :=
  (∀ j ∈ q.joins, ∀ c ∈ j.clauses, c.IsLexical) ∧ ∀ c ∈ q.clauses, c.IsLexical

theorem lexes_selection {q : Selection} (h : q.IsLexical) : Lexes q.render q.tokens := by
  have hl : Leads "SELECT DISTINCT " := by decide
  have hfrom : Breaks " FROM " := by decide
  have hline : Breaks "\n" := by decide
  have source := ((lexes_reference q.column).after hl).then hfrom (lexes_source q.source)
  exact (source.each hline fun j hj => lexes_join (h.1 j hj)).where_lines h.2

/-! ## Projections -/

def Output.tokens (o : Output) : List Token :=
  o.column.tokens ++ Sql.lex " AS " ++ [.name o.label]

theorem lexes_output (o : Output) : Lexes o.render o.tokens := by
  have hs : Breaks " AS " := by decide
  exact (lexes_reference o.column).then hs (lexes_name o.label)

def Gathering.tokens (g : Gathering) : List Token :=
  let key := match g.keyLabel with
    | none => g.key.tokens
    | some label => g.key.tokens ++ Sql.lex " AS " ++ [.name label]
  Sql.lex "\n    SELECT " ++ key ++ Sql.lex ", group_concat(" ++ g.gathered.tokens ++
    Sql.lex ", " ++ [.text g.separator] ++ Sql.lex ") AS " ++ [.name g.gatheredLabel] ++
    Sql.lex " FROM " ++ g.source.tokens ++
    g.links.flatMap (fun k => Sql.lex "\n    " ++ k.tokens) ++
    Sql.lex "\n    WHERE " ++ joinedTokens " AND " (g.clauses.map Clause.tokens) ++
    Sql.lex "\n    GROUP BY " ++ g.key.tokens ++ Sql.lex "\n"

def Gathering.IsLexical (g : Gathering) : Prop :=
  (∀ k ∈ g.links, ∀ t ∈ k.tests, t.IsLexical) ∧ ∀ c ∈ g.clauses, c.IsLexical

theorem lexes_gathering {g : Gathering} (h : g.IsLexical) : Lexes g.render g.tokens := by
  have hselect : Leads "\n    SELECT " := by decide
  have has : Breaks " AS " := by decide
  have hconcat : Breaks ", group_concat(" := by decide
  have hcomma : Breaks ", " := by decide
  have hlabel : Breaks ") AS " := by decide
  have hfrom : Breaks " FROM " := by decide
  have hline : Breaks "\n    " := by decide
  have hwhere : Breaks "\n    WHERE " := by decide
  have hand : Breaks " AND " := by decide
  have hgroup : Breaks "\n    GROUP BY " := by decide
  have hend : Trails "\n" := by decide
  have rest {k : String} {ks : List Token} (hk : Lexes k ks) :=
    ((((((((hk.after hselect).then hconcat (lexes_reference g.gathered)).then hcomma
      (lexes_text g.separator)).then hlabel (lexes_name g.gatheredLabel)).then hfrom
      (lexes_source g.source)).each hline fun k hk => lexes_link (h.1 k hk)).then hwhere
      (lexes_joined hand fun c hc => lexes_clause (h.2 c hc))).then hgroup
      (lexes_reference g.key)).before hend
  unfold Gathering.render Gathering.tokens
  cases g.keyLabel with
  | none => exact rest (lexes_reference g.key)
  | some label => exact rest ((lexes_reference g.key).then has (lexes_name label))

def Supplement.tokens (k : Supplement) : List Token :=
  Sql.lex "LEFT JOIN (" ++ k.gathering.tokens ++ Sql.lex ") " ++ [.name k.label] ++
    Sql.lex " ON " ++ k.test.tokens

theorem lexes_supplement {k : Supplement} (hg : k.gathering.IsLexical) (ht : k.test.IsLexical) :
    Lexes k.render k.tokens := by
  have hl : Leads "LEFT JOIN (" := by decide
  have hclose : Breaks ") " := by decide
  have hon : Breaks " ON " := by decide
  exact (((lexes_gathering hg).after hl).then hclose (lexes_name k.label)).then hon (lexes_test ht)

def Projection.tokens (p : Projection) : List Token :=
  Sql.lex "SELECT " ++ joinedTokens ", " (p.outputs.map Output.tokens) ++ Sql.lex " FROM " ++
    p.source.tokens ++ p.supplements.flatMap (fun k => Sql.lex "\n" ++ k.tokens) ++
    whereTokens p.clauses

def Projection.IsLexical (p : Projection) : Prop :=
  (∀ k ∈ p.supplements, k.gathering.IsLexical ∧ k.test.IsLexical) ∧
    ∀ c ∈ p.clauses, c.IsLexical

theorem lexes_projection {p : Projection} (h : p.IsLexical) : Lexes p.render p.tokens := by
  have hl : Leads "SELECT " := by decide
  have hcomma : Breaks ", " := by decide
  have hfrom : Breaks " FROM " := by decide
  have hline : Breaks "\n" := by decide
  have outputs := lexes_joined hcomma fun o (_ : o ∈ p.outputs) => lexes_output o
  have source := (outputs.after hl).then hfrom (lexes_source p.source)
  exact (source.each hline fun k hk => lexes_supplement (h.1 k hk).1 (h.1 k hk).2).where_lines h.2

/-! ## Statements -/

namespace Statement

def tokens : Statement → List Token
  | createIds table =>
    Sql.lex "CREATE TABLE " ++ [.name table] ++ Sql.lex " (\"id\" INTEGER NOT NULL PRIMARY KEY)"
  | insertIds table selection =>
    Sql.lex "INSERT INTO " ++ [.name table] ++ Sql.lex " (\"id\")\n" ++ selection.tokens
  | createResult table projection =>
    Sql.lex "CREATE TABLE " ++ [.name table] ++ Sql.lex " AS " ++ projection.tokens
  | dropTable table => Sql.lex "DROP TABLE IF EXISTS " ++ [.name table]
  | setStatus job status =>
    Sql.lex "UPDATE " ++ [.name jobsTable] ++ Sql.lex " SET \"status_step\" = " ++
      [.text status.text] ++ Sql.lex " WHERE \"id\" = " ++ [.text job.text]
  | deleteJob job =>
    Sql.lex "DELETE FROM " ++ [.name jobsTable] ++ Sql.lex " WHERE \"id\" = " ++ [.text job.text]

/-- All numbers in a statement are written as numbers. -/
def IsLexical : Statement → Prop
  | insertIds _ selection => selection.IsLexical
  | createResult _ projection => projection.IsLexical
  | createIds _ | dropTable _ | setStatus _ _ | deleteJob _ => True

end Statement

theorem lexes_statement {st : Statement} (h : st.IsLexical) : Lexes st.render st.tokens := by
  have hcreate : Leads "CREATE TABLE " := by decide
  have hid : Breaks " WHERE \"id\" = " := by decide
  cases st with
  | createIds table =>
    have hs : Trails " (\"id\" INTEGER NOT NULL PRIMARY KEY)" := by decide
    exact ((lexes_name table).after hcreate).before hs
  | insertIds table selection =>
    have hl : Leads "INSERT INTO " := by decide
    have hs : Breaks " (\"id\")\n" := by decide
    exact ((lexes_name table).after hl).then hs (lexes_selection h)
  | createResult table projection =>
    have hs : Breaks " AS " := by decide
    exact ((lexes_name table).after hcreate).then hs (lexes_projection h)
  | dropTable table =>
    have hl : Leads "DROP TABLE IF EXISTS " := by decide
    exact (lexes_name table).after hl
  | setStatus job status =>
    have hl : Leads "UPDATE " := by decide
    have hs : Breaks " SET \"status_step\" = " := by decide
    exact (((lexes_name jobsTable).after hl).then hs (lexes_text status.text)).then hid
      (lexes_text job.text)
  | deleteJob job =>
    have hl : Leads "DELETE FROM " := by decide
    exact ((lexes_name jobsTable).after hl).then hid (lexes_text job.text)

/-- Statements kept as one text are cut apart where they were put together. -/
theorem lex_renderBatch {statements : List Statement} (h : ∀ st ∈ statements, st.IsLexical) :
    Sql.lex (renderBatch statements) =
      List.intercalate [.mark ";"] (statements.map Statement.tokens) := by
  have hs : Breaks batchSeparator := by decide
  exact (lexes_joined hs fun st hst => lexes_statement (h st hst)).lex

end SheetExport.Sql
