import SheetExport.Proofs.RecordSpellings
import SheetExport.Request

/-!
# Spellings of a request

Saved settings come back as the request that was saved. So does every other document for the
request: objects or lists at each place, members in any order or left out, members that nobody
knows, blanks and escapes.
-/

namespace SheetExport

open Json

/-! ## Slots -/

def RequestedField.slots : List (Slot RequestedField) :=
  [.of "field" field .string none, .of "csvLabel" csvLabel .string (some "")]

def RequestedFilter.slots : List (Slot RequestedFilter) :=
  [.of "field" field .string none, .of "rule" rule .string none,
    .of "value" value (.nullable .string) (some none),
    .of "cast" cast (.nullable .string) (some none)]

def Request.slots : List (Slot Request) :=
  [.of "objectType" objectType .string none,
    .of "fields" fields (.list (.record RequestedField.slots)) (some []),
    .of "filters" filters (.list (.record RequestedFilter.slots)) (some [])]

/-- The documents for a request. -/
def Request.Spelled (r : Request) (text : String) : Prop :=
  ∃ record after, Spelling.record Request.slots r record ∧ Blanks after ∧
    text.toList = record ++ after

/-! ## Reading -/

theorem RequestedField.readsSlots : RequestedField.record.ReadsSlots RequestedField.slots where
  members := by
    refine .cons (readsSlot_of ?_ (fun _ _ => reads_string) ?_)
      (.cons (readsSlot_of ?_ (fun _ _ => reads_string) ?_) .nil)
    all_goals simp [Sets, slots, Slot.of]
  refl := by simp [slots, Slot.of]
  omitted := List.forall_mem_cons.2 ⟨omitted_of (by simp),
    List.forall_mem_singleton.2 (omitted_of (by simp [record]))⟩
  ext a b h := by
    cases a
    simp_all [slots, Slot.of]

theorem RequestedFilter.readsSlots : RequestedFilter.record.ReadsSlots RequestedFilter.slots where
  members := by
    refine .cons (readsSlot_of ?_ (fun _ _ => reads_string) ?_)
      (.cons (readsSlot_of ?_ (fun _ _ => reads_string) ?_)
      (.cons (readsSlot_of ?_ (fun _ _ => reads_nullable) ?_)
      (.cons (readsSlot_of ?_ (fun _ _ => reads_nullable) ?_) .nil)))
    all_goals simp [Sets, slots, Slot.of]
  refl := by simp [slots, Slot.of]
  omitted := List.forall_mem_cons.2 ⟨omitted_of (by simp),
    List.forall_mem_cons.2 ⟨omitted_of (by simp),
    List.forall_mem_cons.2 ⟨omitted_of (by simp [record]),
    List.forall_mem_singleton.2 (omitted_of (by simp [record]))⟩⟩⟩
  ext a b h := by
    cases a
    simp_all [slots, Slot.of]

theorem reads_records {α : Type} {r : Json.Record α} {slots : List (Slot α)}
    (hr : r.ReadsSlots slots) {as : List α} {text : List Char}
    (h : Spelling.list (.record slots) as text) : Reads (.list r.reader) as text := by
  obtain ⟨items, hitems, h⟩ := h
  exact reads_list (hitems.imp fun _ _ => reads_record hr) h

namespace Request

theorem readsSlots : record.ReadsSlots slots where
  members := by
    refine .cons (readsSlot_of ?_ (fun _ _ => reads_string) ?_)
      (.cons (readsSlot_of ?_ (fun _ _ => reads_records RequestedField.readsSlots) ?_)
      (.cons (readsSlot_of ?_ (fun _ _ => reads_records RequestedFilter.readsSlots) ?_) .nil))
    all_goals simp [Sets, slots, Slot.of]
  refl := by simp [slots, Slot.of]
  omitted := List.forall_mem_cons.2 ⟨omitted_of (by simp),
    List.forall_mem_cons.2 ⟨omitted_of (by simp [record]),
    List.forall_mem_singleton.2 (omitted_of (by simp [record]))⟩⟩
  ext a b h := by
    cases a
    simp_all [slots, Slot.of]

theorem read_eq {r : Request} {text : String} (h : r.Spelled text) : read text = .ok r := by
  obtain ⟨value, after, hvalue, hafter, htext⟩ := h
  rw [read, (reads_record readsSlots hvalue).document hafter htext]
  rfl

/-! ## Writing -/

theorem spelled_field (f : RequestedField) :
    Spelling.record RequestedField.slots f f.toJson.chars := by
  refine record_written rfl (by decide) ?_
  simp [RequestedField.slots, Slot.of, string_written]

theorem spelled_filter (f : RequestedFilter) :
    Spelling.record RequestedFilter.slots f f.toJson.chars := by
  refine record_written rfl (by decide) ?_
  simp [RequestedFilter.slots, Slot.of, string_written, nullable_written]

theorem spelled_render (r : Request) : r.Spelled r.toJson.render := by
  refine ⟨r.toJson.chars, [], ?_, blanks_nil, by simp [Json.render]⟩
  refine record_written rfl (by decide) ?_
  simp [slots, Slot.of, string_written, list_written spelled_field, list_written spelled_filter]

/-- A request is read from the document that is written for it and from every other one. -/
theorem read_spellings (r : Request) : read r.toJson.render = .ok r ∧
    ∀ text, r.Spelled text → read text = .ok r :=
  ⟨read_eq r.spelled_render, fun _ => read_eq⟩

/-- A request with a field whose name is a character of two code units. -/
def twoFields : Request := ⟨"post", [⟨"ID", ""⟩, ⟨"😀", ""⟩], []⟩

/-- A list with a list and an object in it, an unknown member and a pair of surrogates. -/
def mixedText : String :=
  "[ \"post\", [[\"ID\"], \x7b\"x\": [], \"field\": \"\\uD83D\\uDE00\"\x7d] ]"

theorem blanks_space : Blanks [' '] := by
  simp [Blanks, blankChars]

theorem spelled_mixedText : twoFields.Spelled mixedText := by
  have hpost : Spelling.string "post" " \"post\"".toList :=
    ⟨[' '], quoted "post", blanks_space, stringSpelled_quoted _, by decide⟩
  have hlist : Spelling.record RequestedField.slots ⟨"ID", ""⟩ "[\"ID\"]".toList := by
    refine .inr ⟨[quoted "ID"], ⟨.cons ?_ .nil, ?_⟩, ?_⟩
    · exact ⟨[], _, blanks_nil, stringSpelled_quoted "ID", rfl⟩
    · simp [RequestedField.slots, Slot.of]
    · exact ⟨[], _, blanks_nil, .first (.closed blanks_nil), by decide⟩
  have hhigh : UnitDigits (0xD800 + ('😀'.toNat - 0x10000) / 0x400) "D83D".toList := by decide
  have hlow : UnitDigits (0xDC00 + ('😀'.toNat - 0x10000) % 0x400) "DE00".toList := by decide
  have hpair : StringSpelled "😀" "\"\\uD83D\\uDE00\"".toList :=
    ⟨_, .cons (.pair (by decide) hhigh hlow) .nil, by decide⟩
  have hobject : Spelling.record RequestedField.slots ⟨"😀", ""⟩
      " \x7b\"x\": [], \"field\": \"\\uD83D\\uDE00\"\x7d".toList := by
    let x : Entry := ⟨"x", "\"x\":".toList, " []".toList⟩
    let field : Entry := ⟨"field", " \"field\":".toList, " \"\\uD83D\\uDE00\"".toList⟩
    have hname : Spelling.string "😀" field.value := ⟨[' '], _, blanks_space, hpair, by decide⟩
    have hempty : IsValue x.value :=
      .list ⟨[' '], _, blanks_space, .closed blanks_nil, by decide⟩
        fun _ h => absurd h List.not_mem_nil
    refine .inl ⟨[x, field], ⟨?_, ?_, ?_, ?_, ?_⟩, ?_⟩
    · refine List.forall_mem_cons.2 ⟨?_, List.forall_mem_singleton.2 ?_⟩
      · exact ⟨[], _, [], blanks_nil, stringSpelled_quoted "x", blanks_nil, by decide⟩
      · exact ⟨[' '], _, [], blanks_space, stringSpelled_quoted "field", blanks_nil, by decide⟩
    · simpa [RequestedField.slots, Slot.of, x, field] using hname
    · simpa [RequestedField.slots, Slot.of, x, field] using hempty
    · simp [RequestedField.slots, Slot.of, x, field]
    · simp [RequestedField.slots, Slot.of, x, field]
    · exact ⟨[' '], _, blanks_space, .first (.next blanks_nil (.closed blanks_nil)), by decide⟩
  let fields : List Char :=
    " [[\"ID\"], \x7b\"x\": [], \"field\": \"\\uD83D\\uDE00\"\x7d]".toList
  have hfields : Spelling.list (.record RequestedField.slots) twoFields.fields fields :=
    ⟨_, .cons hlist (.cons hobject .nil), [' '], _, blanks_space,
      .first (.next blanks_nil (.closed blanks_nil)), by decide⟩
  refine ⟨mixedText.toList, [], .inr ⟨[" \"post\"".toList, fields], ⟨?_, ?_⟩, ?_⟩, blanks_nil,
    by simp⟩
  · exact .cons hpost (.cons hfields .nil)
  · simp [slots, Slot.of, twoFields]
  · exact ⟨[], _, blanks_nil, .first (.next blanks_nil (.closed blanks_space)), by decide⟩

/-- Read, although nothing in it stands as it would be written. -/
theorem read_spellings_mixed : twoFields.Spelled mixedText ∧ read mixedText = .ok twoFields :=
  ⟨spelled_mixedText, (read_spellings twoFields).2 mixedText spelled_mixedText⟩

end Request

end SheetExport
