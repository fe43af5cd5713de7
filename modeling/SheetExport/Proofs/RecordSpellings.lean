import SheetExport.Json.Record
import SheetExport.Proofs.ValueSpellings

/-!
# Spellings of a record

A record is an object, with its members in any order and others among them, or a list of its members
in their own order. Members that hold what they would hold anyway may be left out. Whichever way
each record in a document is written, reading gives it back.
-/

namespace SheetExport.Json

/-! ## Readers of a text -/

/-- The reader takes the text for the value, with or without the blanks before it and whatever
stands behind it. -/
structure Reads {α : Type} (reader : Reader α) (a : α) (text : List Char) : Prop where
  starts : Starts text
  reads : ∀ rest, Stops rest → ∀ cs, skipBlanks cs = skipBlanks (text ++ rest) →
    reader cs = .ok (a, rest)

theorem Reads.document {α : Type} {reader : Reader α} {a : α} {text after : List Char}
    (h : Reads reader a text) (hafter : Blanks after) {s : String} (hs : s.toList = text ++ after) :
    Json.document reader s = .ok a := by
  have hread := h.reads after (stops_blanks hafter) _ rfl
  have hend : skipBlanks after = [] := by simpa [skipBlanks] using skipBlanks_append hafter []
  simp only [Json.document, hs, hread, hend, bind, Except.bind, List.isEmpty_nil, if_true, pure,
    Except.pure]

/-- The texts of each value of a kind. -/
abbrev Spelling (α : Type) : Type := α → List Char → Prop

namespace Spelling

def string : Spelling String := fun s text =>
  ∃ before quoted, Blanks before ∧ StringSpelled s quoted ∧ text = before ++ quoted

def nullable {α : Type} (value : Spelling α) : Spelling (Option α)
  | none, text => ∃ before, Blanks before ∧ text = before ++ "null".toList
  | some a, text => value a text

def list {α : Type} (item : Spelling α) : Spelling (List α) := fun as text =>
  ∃ items, List.Forall₂ item as items ∧ Enclosed '[' ']' items text

end Spelling

theorem reads_string {s : String} {text : List Char} (h : Spelling.string s text) :
    Reads .string s text := by
  obtain ⟨before, quoted, hb, hs, rfl⟩ := h
  obtain ⟨body, rfl, hread⟩ := readString_spelled hs
  refine ⟨starts_mark hb (by decide) body, fun rest _ cs hcs => ?_⟩
  rw [List.append_assoc, List.cons_append, skipBlanks_mark hb (c := '"') rfl] at hcs
  simp only [Reader.string, hcs, hread]

theorem reads_nullable {v : Option String} {text : List Char}
    (h : Spelling.nullable .string v text) : Reads (.nullable .string) v text := by
  cases v with
  | none =>
    obtain ⟨before, hb, rfl⟩ := h
    have letters : "null".toList = 'n' :: "ull".toList := by decide
    rw [letters]
    refine ⟨starts_mark hb (by decide) _, fun rest _ cs hcs => ?_⟩
    rw [List.append_assoc, List.cons_append, skipBlanks_mark hb (c := 'n') rfl] at hcs
    simp only [Reader.nullable, hcs, readWord_append, bind, Except.bind, pure, Except.pure]
  | some s =>
    have hreads := reads_string h
    refine ⟨hreads.starts, fun rest hrest cs hcs => ?_⟩
    have hread := hreads.reads rest hrest (skipBlanks cs) (by rw [skipBlanks_skipBlanks, hcs])
    obtain ⟨before, quoted, hb, ⟨pieces, -, rfl⟩, rfl⟩ := h
    rw [List.append_assoc, List.cons_append, skipBlanks_mark hb (c := '"') rfl] at hcs
    rw [hcs] at hread
    rw [Reader.nullable, hcs]
    split
    · next heq => exact absurd (List.cons.inj heq).1 (by decide)
    · rw [hread]
      rfl

/-! ## Lists -/

theorem nextItem_closed {blanks : List Char} (hb : Blanks blanks) (first : Bool)
    (rest : List Char) : nextItem first (blanks ++ [']'] ++ rest) = .ok none := by
  simp only [nextItem, List.append_assoc, List.singleton_append,
    skipBlanks_mark hb (c := ']') rfl]

theorem closeList_closed {blanks : List Char} (hb : Blanks blanks) (rest : List Char) :
    closeList (blanks ++ [']'] ++ rest) = .ok rest := by
  simp only [closeList, List.append_assoc, List.singleton_append,
    skipBlanks_mark hb (c := ']') rfl]

theorem nextItem_entry {first : Bool} {item text : List Char} {items : List (List Char)}
    (h : Entries ']' first (item :: items) text) (hstarts : Starts item) :
    ∃ more, Entries ']' false items more ∧ more.length < text.length ∧ ∀ rest,
      nextItem first (text ++ rest) = .ok (some (skipBlanks (item ++ (more ++ rest)))) := by
  have hpos : 0 < item.length := by
    obtain ⟨blanks, c, body, rfl, -⟩ := hstarts
    simp only [List.length_append, List.length_cons]
    omega
  cases h with
  | @first _ more _ h =>
    refine ⟨more, h, by rw [List.length_append]; omega, fun rest => ?_⟩
    obtain ⟨c, body, heq, hc⟩ := hstarts.skipBlanks_eq (more ++ rest)
    rw [List.append_assoc, nextItem, heq]
    split
    · next heq => exact absurd heq (List.cons_ne_nil _ _)
    · next heq => exact absurd (by simp [(List.cons.inj heq).1, stopChars]) hc
    · next heq => rw [if_pos rfl, ← heq]
  | @next blanks _ more _ hb h =>
    refine ⟨more, h, ?_, fun rest => ?_⟩
    · simp only [List.length_append, List.length_cons]
      omega
    obtain ⟨c, body, hbody, hc⟩ := hstarts.skipBlanks_eq (more ++ rest)
    rw [List.append_assoc, List.cons_append, List.append_assoc, nextItem,
      skipBlanks_mark hb (c := ',') rfl]
    split
    · next heq => exact absurd heq (List.cons_ne_nil _ _)
    · next heq => exact absurd (List.cons.inj heq).1 (by decide)
    · next heq =>
      obtain ⟨rfl, rfl⟩ := List.cons.inj heq
      rw [if_neg Bool.false_ne_true, if_pos rfl]
      split
      · next hnil => exact absurd (hbody.symm.trans hnil) (List.cons_ne_nil _ _)
      · next hclose =>
        rw [(List.cons.inj (hbody.symm.trans hclose)).1] at hc
        exact absurd (by decide) hc
      · rfl

section

variable {α : Type} {item : Reader α}

theorem readItems_entries {as : List α} {items : List (List Char)}
    (hitems : List.Forall₂ (Reads item) as items) : ∀ {first : Bool} {text : List Char},
    Entries ']' first items text → ∀ rest fuel, text.length < fuel →
      readItems item fuel first (text ++ rest) = .ok (as, rest) := by
  induction hitems with
  | nil =>
    intro first text h rest fuel hfuel
    obtain ⟨fuel, rfl⟩ := Nat.exists_eq_succ_of_ne_zero (Nat.ne_zero_of_lt hfuel)
    cases h with
    | closed hb =>
      simp only [readItems, nextItem_closed hb, closeList_closed hb, bind, Except.bind, pure,
        Except.pure]
  | cons hitem _ ih =>
    intro first text h rest fuel hfuel
    obtain ⟨fuel, rfl⟩ := Nat.exists_eq_succ_of_ne_zero (Nat.ne_zero_of_lt hfuel)
    obtain ⟨more, hmore, hlt, hnext⟩ := nextItem_entry h hitem.starts
    have hread := hitem.reads (more ++ rest) (hmore.stops (by simp) rest) _
      (skipBlanks_skipBlanks _)
    simp only [readItems, hnext, hread, ih hmore rest fuel (by omega), bind, Except.bind, pure,
      Except.pure]

theorem reads_list {as : List α} {items : List (List Char)} {text : List Char}
    (hitems : List.Forall₂ (Reads item) as items) (h : Enclosed '[' ']' items text) :
    Reads (.list item) as text := by
  refine ⟨h.starts (by decide), fun rest _ cs hcs => ?_⟩
  obtain ⟨before, inner, hb, h, rfl⟩ := h
  rw [List.append_assoc, List.cons_append, skipBlanks_mark hb (c := '[') rfl] at hcs
  simp only [Reader.list, hcs]
  exact readItems_entries hitems h rest _ (by rw [List.length_append]; omega)

end

/-! ## Records -/

section

variable {α : Type}

/-- A member of a record as it is spelled. -/
structure Slot (α : Type) where
  key : String
  spelled : Spelling α
  /-- The records that may leave the member out. -/
  omittable : α → Prop
  /-- Two records have the same in it. -/
  same : α → α → Prop

/-- A member of which the default may be left out. -/
def Slot.of {β : Type} (key : String) (get : α → β) (value : Spelling β) (default? : Option β) :
    Slot α :=
  ⟨key, fun a => value (get a), fun a => some (get a) = default?, fun a b => get a = get b⟩

/-- A key with its colon. -/
def KeySpelled (key : String) (text : List Char) : Prop :=
  ∃ before quoted after, Blanks before ∧ StringSpelled key quoted ∧ Blanks after ∧
    text = before ++ (quoted ++ (after ++ [':']))

/-- A member of an object, with the text of its key up to the colon and that of its value. -/
structure Entry where
  key : String
  keyText : List Char
  value : List Char

def Entry.text (e : Entry) : List Char := e.keyText ++ e.value

/-- The members of an object that stands for a record: each slot once, if it is not left out, in any
order among others with any values. -/
structure EntriesOf (slots : List (Slot α)) (a : α) (entries : List Entry) : Prop where
  keys : ∀ e ∈ entries, KeySpelled e.key e.keyText
  known : ∀ e ∈ entries, ∀ p ∈ slots, p.key = e.key → p.spelled a e.value
  unknown : ∀ e ∈ entries, (∀ p ∈ slots, p.key ≠ e.key) → IsValue e.value
  once : entries.Pairwise fun e e' => e.key = e'.key → ∀ p ∈ slots, p.key ≠ e.key
  omitted : ∀ p ∈ slots, (∀ e ∈ entries, e.key ≠ p.key) → p.omittable a

/-- The elements of a list that stands for a record: its slots in their order, of which the last may
be left out. -/
structure ItemsOf (slots : List (Slot α)) (a : α) (items : List (List Char)) : Prop where
  given : List.Forall₂ (fun p text => p.spelled a text) (slots.take items.length) items
  omitted : ∀ p ∈ slots.drop items.length, p.omittable a

def Spelling.record (slots : List (Slot α)) : Spelling α := fun a text =>
  (∃ entries, EntriesOf slots a entries ∧
    Enclosed '\x7b' '\x7d' (entries.map Entry.text) text) ∨
  ∃ items, ItemsOf slots a items ∧ Enclosed '[' ']' items text

/-! ## Readers of a record -/

variable {slots : List (Slot α)} {r : Record α} {a b : α}

/-- A change gives a record the slot of another one and keeps all that it has beside that. -/
def Sets (slots : List (Slot α)) (key : String) (a : α) (change : α → α) : Prop :=
  ∀ q ∈ slots, ∀ b, (q.key = key → q.same (change b) a) ∧
    (q.key ≠ key → ∀ c, q.same b c → q.same (change b) c)

/-- A member of a record reads the texts of a slot. -/
structure Member.ReadsSlot (slots : List (Slot α)) (m : Member α) (p : Slot α) : Prop where
  key : m.key = p.key
  presence : ∀ a, p.omittable a → m.presence = .optional
  reads : ∀ a text, p.spelled a text → ∃ change, Sets slots p.key a change ∧
    Reads m.read change text

/-- The members of a record read its slots, and there is nothing in a record beside them. -/
structure Record.ReadsSlots (r : Record α) (slots : List (Slot α)) : Prop where
  members : List.Forall₂ (Member.ReadsSlot slots) r.members slots
  refl : ∀ p ∈ slots, p.same r.blank r.blank
  omitted : ∀ p ∈ slots, ∀ a, p.omittable a → ∀ b, p.same b r.blank → p.same b a
  ext : ∀ a b, (∀ p ∈ slots, p.same a b) → a = b

/-- What has been read agrees with the record, the rest is as in a blank one. -/
def Agrees (r : Record α) (slots : List (Slot α)) (a : α) (seen : List String) (b : α) : Prop :=
  ∀ p ∈ slots, p.same b (if p.key ∈ seen then a else r.blank)

theorem Agrees.step {seen : List String} (h : Agrees r slots a seen b) {key : String}
    {change : α → α} (hsets : Sets slots key a change) :
    Agrees r slots a (key :: seen) (change b) := by
  intro q hq
  obtain ⟨hset, hkept⟩ := hsets q hq b
  by_cases hkey : q.key = key
  · rw [if_pos (by simp [hkey])]
    exact hset hkey
  · simpa only [List.mem_cons, hkey, false_or] using hkept hkey _ (h q hq)

theorem Agrees.done (hr : r.ReadsSlots slots) {seen : List String} (h : Agrees r slots a seen b)
    (homitted : ∀ p ∈ slots, p.key ∉ seen → p.omittable a) : b = a := by
  refine hr.ext b a fun p hp => ?_
  have hp' := h p hp
  by_cases hseen : p.key ∈ seen
  · rwa [if_pos hseen] at hp'
  · rw [if_neg hseen] at hp'
    exact hr.omitted p hp a (homitted p hp hseen) b hp'

theorem agrees_blank (hr : r.ReadsSlots slots) (a : α) : Agrees r slots a [] r.blank :=
  fun p hp => by simpa using hr.refl p hp

/-! ## Lists for records -/

theorem all_optional {members : List (Member α)} {left : List (Slot α)}
    (hm : List.Forall₂ (Member.ReadsSlot slots) members left)
    (homitted : ∀ p ∈ left, p.omittable a) : members.all (·.presence = .optional) = true := by
  induction hm with
  | nil => rfl
  | cons hmember _ ih =>
    obtain ⟨hp, hleft⟩ := List.forall_mem_cons.1 homitted
    simp only [List.all_cons, hmember.presence a hp, decide_true, Bool.true_and, ih hleft]

/-- The induction is on the members that are left. -/
theorem readInOrder_entries (hr : r.ReadsSlots slots) {members : List (Member α)}
    {left : List (Slot α)} (hm : List.Forall₂ (Member.ReadsSlot slots) members left) :
    ∀ {index : Nat} {first : Bool}, (index == 0) = first →
    ∀ {items : List (List Char)} {text : List Char}, Entries ']' first items text →
    List.Forall₂ (fun p text => p.spelled a text) (left.take items.length) items →
    (∀ p ∈ left.drop items.length, p.omittable a) →
    ∀ {seen : List String} {b : α}, (∀ p ∈ slots, p.key ∈ seen ∨ p ∈ left) →
    Agrees r slots a seen b →
    ∀ rest, r.readInOrder members index b (text ++ rest) = .ok (a, rest) := by
  induction hm with
  | nil =>
    intro index first _ items text h hgiven _ seen b hleft hagrees rest
    obtain rfl : items = [] := by simpa using hgiven
    obtain rfl := hagrees.done hr fun p hp hseen => absurd (hleft p hp) (by simp [hseen])
    cases h with
    | closed hb =>
      simp only [Record.readInOrder, closeList_closed hb, bind, Except.bind, pure, Except.pure]
  | @cons m p members left hmember hmembers ih =>
    intro index first hfirst items text h hgiven homitted seen b hleft hagrees rest
    cases items with
    | nil =>
      have hoptional := all_optional (.cons hmember hmembers) homitted
      obtain rfl := hagrees.done hr fun p hp hseen =>
        homitted p ((hleft p hp).resolve_left hseen)
      cases h with
      | closed hb =>
        simp only [Record.readInOrder, nextItem_closed hb, hoptional, if_true, closeList_closed hb,
          bind, Except.bind, pure, Except.pure]
    | cons item items =>
      obtain ⟨hitem, hgiven⟩ := List.forall₂_cons.1 hgiven
      obtain ⟨change, hsets, hreads⟩ := hmember.reads a item hitem
      obtain ⟨more, hmore, -, hnext⟩ := nextItem_entry h hreads.starts
      have hread := hreads.reads (more ++ rest) (hmore.stops (by simp) rest) _
        (skipBlanks_skipBlanks _)
      simp only [Record.readInOrder, hfirst, hnext, hread, bind, Except.bind]
      refine ih (rfl : (index + 1 == 0) = false) hmore hgiven homitted (fun q hq => ?_)
        (hagrees.step hsets) rest
      rcases hleft q hq with hseen | hmem
      · exact .inl (List.mem_cons_of_mem _ hseen)
      · rcases List.mem_cons.1 hmem with rfl | hmem
        · exact .inl List.mem_cons_self
        · exact .inr hmem

/-! ## Objects for records -/

theorem nextKey_closed {blanks : List Char} (hb : Blanks blanks) (first : Bool)
    (rest : List Char) : nextKey first (blanks ++ ['\x7d'] ++ rest) = .ok none := by
  simp only [nextKey, List.append_assoc, List.singleton_append,
    skipBlanks_mark hb (c := '\x7d') rfl]

theorem nextKey_entry {first : Bool} {e : Entry} {text : List Char} {entries : List Entry}
    (h : Entries '\x7d' first ((e :: entries).map Entry.text) text)
    (hkey : KeySpelled e.key e.keyText) :
    ∃ more, Entries '\x7d' false (entries.map Entry.text) more ∧
      e.value.length + more.length < text.length ∧ ∀ rest, ∃ start afterKey,
        nextKey first (text ++ rest) = .ok (some start) ∧
        readString start = .ok (e.key, afterKey) ∧
        readColon afterKey = .ok (e.value ++ (more ++ rest)) := by
  obtain ⟨before, quoted, after, hb, hs, ha, hkeyText⟩ := hkey
  obtain ⟨body, rfl, hread⟩ := readString_spelled hs
  have hcolon (more : List Char) : readColon (after ++ ':' :: more) = .ok more := by
    simp only [readColon, skipBlanks_mark ha (c := ':') rfl]
  cases h with
  | @first _ more _ h =>
    refine ⟨more, h, ?_, fun rest => ⟨_, _, ?_, hread _, hcolon _⟩⟩
    · simp only [Entry.text, hkeyText, List.length_append, List.length_cons]
      omega
    · simp [nextKey, Entry.text, hkeyText, skipBlanks_mark hb (c := '"') rfl]
  | @next blanks _ more _ hblanks h =>
    refine ⟨more, h, ?_, fun rest => ⟨_, _, ?_, hread _, hcolon _⟩⟩
    · simp only [Entry.text, hkeyText, List.length_append, List.length_cons]
      omega
    · simp [nextKey, Entry.text, hkeyText, skipBlanks_mark hb (c := '"') rfl,
        skipBlanks_mark hblanks (c := ',') rfl]

theorem find?_member (hr : r.ReadsSlots slots) (key : String) :
    (r.members.find? (·.key == key) = none ∧ ∀ p ∈ slots, p.key ≠ key) ∨
      ∃ m p, r.members.find? (·.key == key) = some m ∧ p ∈ slots ∧ p.key = key ∧
        m.ReadsSlot slots p := by
  have general : ∀ {members : List (Member α)} {left : List (Slot α)},
      List.Forall₂ (Member.ReadsSlot slots) members left →
      (members.find? (·.key == key) = none ∧ ∀ p ∈ left, p.key ≠ key) ∨
        ∃ m p, members.find? (·.key == key) = some m ∧ p ∈ left ∧ p.key = key ∧
          m.ReadsSlot slots p := by
    intro members left hm
    induction hm with
    | nil => exact .inl ⟨rfl, fun _ h => absurd h List.not_mem_nil⟩
    | @cons m p members left hmember _ ih =>
      by_cases hkey : p.key = key
      · exact .inr ⟨m, p, by simp [hmember.key, hkey], List.mem_cons_self, hkey, hmember⟩
      · have hfind : (m :: members).find? (·.key == key) = members.find? (·.key == key) := by
          simp [hmember.key, hkey]
        rw [hfind]
        rcases ih with ⟨hnone, hother⟩ | ⟨m', p', hsome, hmem, hkey', hreads⟩
        · exact .inl ⟨hnone, List.forall_mem_cons.2 ⟨hkey, hother⟩⟩
        · exact .inr ⟨m', p', hsome, List.mem_cons_of_mem _ hmem, hkey', hreads⟩
  exact general hr.members

theorem missing?_eq_none (hr : r.ReadsSlots slots) {seen : List String}
    (homitted : ∀ p ∈ slots, p.key ∉ seen → p.omittable a) : r.missing? seen = none := by
  have general : ∀ {members : List (Member α)} {left : List (Slot α)},
      List.Forall₂ (Member.ReadsSlot slots) members left → (∀ p ∈ left, p ∈ slots) →
      members.find? (fun m => m.presence = .required && !seen.contains m.key) = none := by
    intro members left hm
    induction hm with
    | nil => exact fun _ => rfl
    | @cons m p members left hmember _ ih =>
      intro hleft
      obtain ⟨hp, hleft⟩ := List.forall_mem_cons.1 hleft
      have hthere : (m.presence = .required && !seen.contains m.key) = false := by
        by_cases hseen : p.key ∈ seen
        · simp [hmember.key, hseen]
        · simp [hmember.presence a (homitted p hp hseen)]
      rw [List.find?_cons_of_neg (by rw [hthere]; exact Bool.false_ne_true), ih hleft]
  rw [Record.missing?, general hr.members fun p hp => hp]
  rfl

/-- The members of an object that are left when the keys in `seen` have been read. -/
structure EntriesLeft (slots : List (Slot α)) (a : α) (seen : List String)
    (entries : List Entry) : Prop where
  keys : ∀ e ∈ entries, KeySpelled e.key e.keyText
  known : ∀ e ∈ entries, ∀ p ∈ slots, p.key = e.key → p.spelled a e.value
  unknown : ∀ e ∈ entries, (∀ p ∈ slots, p.key ≠ e.key) → IsValue e.value
  once : entries.Pairwise fun e e' => e.key = e'.key → ∀ p ∈ slots, p.key ≠ e.key
  unread : ∀ e ∈ entries, e.key ∈ seen → ∀ p ∈ slots, p.key ≠ e.key
  omitted : ∀ p ∈ slots, p.key ∉ seen → (∀ e ∈ entries, e.key ≠ p.key) → p.omittable a

theorem EntriesOf.left {entries : List Entry} (h : EntriesOf slots a entries) :
    EntriesLeft slots a [] entries :=
  { h with
    unread := fun _ _ h => absurd h List.not_mem_nil
    omitted := fun p hp _ => h.omitted p hp }

namespace EntriesLeft

variable {e : Entry} {entries : List Entry} {seen : List String}

theorem passed (h : EntriesLeft slots a seen (e :: entries))
    (hother : ∀ p ∈ slots, p.key ≠ e.key) : EntriesLeft slots a seen entries where
  keys := (List.forall_mem_cons.1 h.keys).2
  known := (List.forall_mem_cons.1 h.known).2
  unknown := (List.forall_mem_cons.1 h.unknown).2
  once := (List.pairwise_cons.1 h.once).2
  unread := (List.forall_mem_cons.1 h.unread).2
  omitted p hp hseen hleft :=
    h.omitted p hp hseen (List.forall_mem_cons.2 ⟨(hother p hp).symm, hleft⟩)

theorem read (h : EntriesLeft slots a seen (e :: entries)) :
    EntriesLeft slots a (e.key :: seen) entries where
  keys := (List.forall_mem_cons.1 h.keys).2
  known := (List.forall_mem_cons.1 h.known).2
  unknown := (List.forall_mem_cons.1 h.unknown).2
  once := (List.pairwise_cons.1 h.once).2
  unread e' he' hmem p hp := by
    rcases List.mem_cons.1 hmem with heq | hmem
    · exact heq ▸ (List.pairwise_cons.1 h.once).1 e' he' heq.symm p hp
    · exact h.unread e' (List.mem_cons_of_mem _ he') hmem p hp
  omitted p hp hseen hleft := by
    refine h.omitted p hp (fun hmem => hseen (List.mem_cons_of_mem _ hmem)) ?_
    exact List.forall_mem_cons.2 ⟨fun heq => hseen (heq ▸ List.mem_cons_self), hleft⟩

end EntriesLeft

/-- The induction is on the members of the object. -/
theorem readMembers_entries (hr : r.ReadsSlots slots) : ∀ {entries : List Entry}
    {seen : List String}, EntriesLeft slots a seen entries →
    ∀ {first : Bool} {text : List Char}, Entries '\x7d' first (entries.map Entry.text) text →
    ∀ {b : α}, Agrees r slots a seen b → ∀ rest fuel, text.length < fuel →
      r.readMembers fuel first seen b (text ++ rest) = .ok (a, rest) := by
  intro entries
  induction entries with
  | nil =>
    intro seen hleft first text h b hagrees rest fuel hfuel
    obtain ⟨fuel, rfl⟩ := Nat.exists_eq_succ_of_ne_zero (Nat.ne_zero_of_lt hfuel)
    have homitted : ∀ p ∈ slots, p.key ∉ seen → p.omittable a :=
      fun p hp hseen => hleft.omitted p hp hseen fun _ h => absurd h List.not_mem_nil
    obtain rfl := hagrees.done hr homitted
    cases h with
    | closed hb =>
      simp only [Record.readMembers, nextKey_closed hb, missing?_eq_none hr homitted, bind,
        Except.bind, pure, Except.pure]
      rw [List.append_assoc, List.singleton_append, skipBlanks_mark hb (c := '\x7d') rfl]
      rfl
  | cons e entries ih =>
    intro seen hleft first text h b hagrees rest fuel hfuel
    obtain ⟨fuel, rfl⟩ := Nat.exists_eq_succ_of_ne_zero (Nat.ne_zero_of_lt hfuel)
    obtain ⟨more, hmore, hlt, hnext⟩ := nextKey_entry h (hleft.keys e List.mem_cons_self)
    obtain ⟨start, afterKey, hstart, hread, hcolon⟩ := hnext rest
    have hstops := hmore.stops (by simp) rest
    rcases find?_member hr e.key with ⟨hnone, hother⟩ | ⟨m, p, hsome, hp, hkey, hm⟩
    · have hskip := skipValue_append (hleft.unknown e List.mem_cons_self hother) hstops
      simp only [Record.readMembers, hstart, hread, hnone, hcolon, hskip, bind, Except.bind]
      exact ih (hleft.passed hother) hmore hagrees rest fuel (by omega)
    · obtain ⟨change, hsets, hreads⟩ :=
        hm.reads a e.value (hleft.known e List.mem_cons_self p hp hkey)
      have hvalue := hreads.reads (more ++ rest) hstops _ rfl
      have hunread : e.key ∉ seen :=
        fun hmem => hleft.unread e List.mem_cons_self hmem p hp hkey
      simp only [Record.readMembers, hstart, hread, hsome, hcolon, hvalue, bind, Except.bind]
      rw [if_neg (by simpa using hunread)]
      exact ih hleft.read hmore (hagrees.step (hkey ▸ hsets)) rest fuel (by omega)

theorem reads_record (hr : r.ReadsSlots slots) {text : List Char}
    (h : Spelling.record slots a text) : Reads r.reader a text := by
  rcases h with ⟨entries, hentries, h⟩ | ⟨items, hitems, h⟩
  · refine ⟨h.starts (by decide), fun rest _ cs hcs => ?_⟩
    obtain ⟨before, inner, hb, h, rfl⟩ := h
    rw [List.append_assoc, List.cons_append, skipBlanks_mark hb (c := '\x7b') rfl] at hcs
    simp only [Record.reader, hcs]
    exact readMembers_entries hr hentries.left h (agrees_blank hr a) rest _
      (by rw [List.length_append]; omega)
  · refine ⟨h.starts (by decide), fun rest _ cs hcs => ?_⟩
    obtain ⟨before, inner, hb, h, rfl⟩ := h
    rw [List.append_assoc, List.cons_append, skipBlanks_mark hb (c := '[') rfl] at hcs
    simp only [Record.reader, hcs]
    exact readInOrder_entries hr hr.members (rfl : (0 == 0) = true) h hitems.given hitems.omitted
      (fun p hp => .inr hp) (agrees_blank hr a) rest

/-- A member that is put into the record by a setter reads the slot of which the getter tells. -/
theorem readsSlot_of {β : Type} {key : String} {presence : Presence} {reader : Reader β}
    {set : β → α → α} {get : α → β} {value : Spelling β} {default? : Option β}
    (hpresence : default?.isSome = true → presence = .optional)
    (hreads : ∀ v text, value v text → Reads reader v text)
    (hsets : ∀ a, Sets slots key a (set (get a))) :
    Member.ReadsSlot slots (.of key presence reader set) (.of key get value default?) where
  key := rfl
  presence a h := hpresence (by rw [← show some (get a) = default? from h]; rfl)
  reads a text h := by
    have hreads := hreads (get a) text h
    refine ⟨set (get a), hsets a, hreads.starts, fun rest hrest cs hcs => ?_⟩
    simp only [Member.of, hreads.reads rest hrest cs hcs, bind, Except.bind, pure, Except.pure]

/-- What is left out stands in a blank record. -/
theorem omitted_of {β : Type} {key : String} {get : α → β} {value : Spelling β}
    {default? : Option β} {blank : α} (h : ∀ v, default? = some v → get blank = v) (a : α)
    (homitted : (Slot.of key get value default?).omittable a) (b : α)
    (hblank : (Slot.of key get value default?).same b blank) :
    (Slot.of key get value default?).same b a :=
  hblank.trans (h (get a) (Eq.symm homitted))

end

/-! ## Written values -/

theorem entries_intercalate (closing : Char) (texts : List (List Char)) :
    Entries closing true texts (List.intercalate [','] texts ++ [closing]) := by
  induction texts with
  | nil => exact .closed blanks_nil
  | cons text texts ih =>
    cases texts with
    | nil =>
      rw [List.intercalate_singleton]
      exact .first (.closed blanks_nil)
    | cons next texts =>
      rw [List.intercalate_cons_cons, List.append_assoc, List.append_assoc]
      refine .first ?_
      generalize hinner : List.intercalate [','] (next :: texts) ++ [closing] = inner at ih
      cases ih with
      | first h => exact .next blanks_nil h

theorem enclosed_intercalate (opening closing : Char) (texts : List (List Char)) :
    Enclosed opening closing texts (opening :: (List.intercalate [','] texts ++ [closing])) :=
  ⟨[], _, blanks_nil, entries_intercalate closing texts, rfl⟩

theorem itemChars_eq (items : List Json) :
    itemChars items = List.intercalate [','] (items.map chars) := by
  induction items with
  | nil => rfl
  | cons v items ih =>
    cases items with
    | nil => simp [itemChars]
    | cons w items =>
      rw [itemChars, ih]
      · simp [List.intercalate_cons_cons]
      · simp

def memberText (m : String × Json) : List Char := quoted m.1 ++ ':' :: m.2.chars

theorem memberChars_eq (members : List (String × Json)) :
    memberChars members = List.intercalate [','] (members.map memberText) := by
  induction members with
  | nil => rfl
  | cons m members ih =>
    cases members with
    | nil => simp [memberChars, memberText]
    | cons next members =>
      rw [memberChars, ih]
      · simp [List.intercalate_cons_cons, memberText]
      · simp

theorem string_written (s : String) : Spelling.string s (Json.string s).chars :=
  ⟨[], quoted s, blanks_nil, stringSpelled_quoted s, by simp [chars]⟩

theorem nullable_written (v : Option String) :
    Spelling.nullable .string v (Json.ofOption .string v).chars := by
  cases v with
  | none => exact ⟨[], blanks_nil, by simp [ofOption, chars]⟩
  | some s => exact string_written s

theorem list_written {α : Type} {item : Spelling α} {toJson : α → Json}
    (h : ∀ a, item a (toJson a).chars) (as : List α) :
    Spelling.list item as (Json.list (as.map toJson)).chars := by
  refine ⟨(as.map toJson).map chars, ?_, ?_⟩
  · simp only [List.forall₂_map_right_iff, List.forall₂_same]
    exact fun a _ => h a
  · rw [chars, itemChars_eq]
    exact enclosed_intercalate '[' ']' _

theorem record_written {α : Type} {slots : List (Slot α)} {a : α} {members : List (String × Json)}
    (hkeys : members.map Prod.fst = slots.map Slot.key) (hnodup : (slots.map Slot.key).Nodup)
    (hvalues : ∀ m ∈ members, ∀ p ∈ slots, p.key = m.1 → p.spelled a m.2.chars) :
    Spelling.record slots a (Json.object members).chars := by
  let entry (m : String × Json) : Entry := ⟨m.1, quoted m.1 ++ [':'], m.2.chars⟩
  refine .inl ⟨members.map entry, ⟨?_, ?_, ?_, ?_, ?_⟩, ?_⟩
  · refine List.forall_mem_map.2 fun m _ => ?_
    exact ⟨[], quoted m.1, [], blanks_nil, stringSpelled_quoted m.1, blanks_nil, rfl⟩
  · exact List.forall_mem_map.2 hvalues
  · refine List.forall_mem_map.2 fun m hm hother => ?_
    have hmem : m.1 ∈ slots.map Slot.key := hkeys ▸ List.mem_map_of_mem hm
    obtain ⟨p, hp, hkey⟩ := List.mem_map.1 hmem
    exact absurd hkey (hother p hp)
  · rw [List.pairwise_map]
    have hdistinct : members.Pairwise fun m m' => m.1 ≠ m'.1 := by
      rw [← List.pairwise_map, hkeys]
      exact hnodup
    exact hdistinct.imp fun hne heq => absurd heq hne
  · intro p hp hleft
    have hmem : p.key ∈ members.map Prod.fst := hkeys ▸ List.mem_map_of_mem hp
    obtain ⟨m, hm, hkey⟩ := List.mem_map.1 hmem
    exact absurd hkey (hleft (entry m) (List.mem_map_of_mem hm))
  · rw [chars, memberChars_eq, List.map_map]
    have htext : Entry.text ∘ entry = memberText := funext fun m => by
      simp [Entry.text, entry, memberText]
    rw [htext]
    exact enclosed_intercalate '\x7b' '\x7d' _

end SheetExport.Json
