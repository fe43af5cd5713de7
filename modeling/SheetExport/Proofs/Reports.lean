import SheetExport.Proofs.RecordSpellings
import SheetExport.Proofs.Uuids
import SheetExport.Report

/-!
# Reports carry their causes

A report is read back from its text, whatever its message and its details hold. The details are the
text of another document inside it: an object of strings that is read back as what the fault was
made from. So a text of the fault is escaped twice on its way out and comes back whole.
-/

namespace SheetExport

namespace Json

/-! ## Objects of strings -/

/-- The members of an object with a string under each key. -/
def readTexts : Nat → Bool → Reader (List (String × String))
  | 0, _, _ => .error .endInObject
  | fuel + 1, first, cs => do
    match ← nextKey first cs with
    | none => return ([], (skipBlanks cs).drop 1)
    | some rest =>
      let (key, rest) ← readString rest
      let (value, rest) ← Reader.string (← readColon rest)
      let (members, rest) ← readTexts fuel false rest
      return ((key, value) :: members, rest)

/-- An object of strings, with its members in the order in which they stand. -/
def Reader.texts : Reader (List (String × String)) := fun cs =>
  match skipBlanks cs with
  | '\x7b' :: rest => readTexts (rest.length + 1) true rest
  | cs => .error (misplaced "a map" cs)

/-- A member of an object as it is spelled. -/
structure TextMember (member : String × String) (e : Entry) : Prop where
  key : e.key = member.1
  keyText : KeySpelled e.key e.keyText
  value : Spelling.string member.2 e.value

/-- The induction is on the members of the object. -/
theorem readTexts_entries {members : List (String × String)} {entries : List Entry}
    (hmembers : List.Forall₂ TextMember members entries) : ∀ {first : Bool} {text : List Char},
    Entries '\x7d' first (entries.map Entry.text) text → ∀ rest fuel, text.length < fuel →
      readTexts fuel first (text ++ rest) = .ok (members, rest) := by
  induction hmembers with
  | nil =>
    intro first text h rest fuel hfuel
    obtain ⟨fuel, rfl⟩ := Nat.exists_eq_succ_of_ne_zero (Nat.ne_zero_of_lt hfuel)
    cases h with
    | closed hb =>
      simp only [readTexts, nextKey_closed hb, bind, Except.bind, pure, Except.pure]
      rw [List.append_assoc, List.singleton_append, skipBlanks_mark hb (c := '\x7d') rfl]
      rfl
  | @cons member e members entries hmember _ ih =>
    intro first text h rest fuel hfuel
    obtain ⟨fuel, rfl⟩ := Nat.exists_eq_succ_of_ne_zero (Nat.ne_zero_of_lt hfuel)
    obtain ⟨more, hmore, hlt, hnext⟩ := nextKey_entry h hmember.keyText
    obtain ⟨start, afterKey, hstart, hkey, hcolon⟩ := hnext rest
    have hvalue := (reads_string hmember.value).reads (more ++ rest) (hmore.stops (by simp) rest)
      _ rfl
    have hrest := ih hmore rest fuel (by omega)
    simp only [readTexts, hstart, hkey, hcolon, hvalue, hrest, hmember.key, bind, Except.bind, pure,
      Except.pure]

theorem reads_texts {members : List (String × String)} {entries : List Entry} {text : List Char}
    (hmembers : List.Forall₂ TextMember members entries)
    (h : Enclosed '\x7b' '\x7d' (entries.map Entry.text) text) : Reads .texts members text := by
  refine ⟨h.starts (by decide), fun rest _ cs hcs => ?_⟩
  obtain ⟨before, inner, hb, h, rfl⟩ := h
  rw [List.append_assoc, List.cons_append, skipBlanks_mark hb (c := '\x7b') rfl] at hcs
  simp only [Reader.texts, hcs]
  exact readTexts_entries hmembers h rest _ (by rw [List.length_append]; omega)

theorem reads_writtenTexts (members : List (String × String)) :
    Reads .texts members (Json.object (members.map fun (key, s) => (key, .string s))).chars := by
  let entry (m : String × String) : Entry := ⟨m.1, quoted m.1 ++ [':'], quoted m.2⟩
  have hmembers : List.Forall₂ TextMember members (members.map entry) := by
    rw [List.forall₂_map_right_iff, List.forall₂_same]
    intro m _
    exact ⟨rfl, ⟨[], quoted m.1, [], blanks_nil, stringSpelled_quoted m.1, blanks_nil, rfl⟩,
      ⟨[], quoted m.2, blanks_nil, stringSpelled_quoted m.2, rfl⟩⟩
  refine reads_texts hmembers ?_
  have htexts : (members.map entry).map Entry.text =
      (members.map fun (key, s) => (key, Json.string s)).map memberText := by
    rw [List.map_map, List.map_map]
    exact List.map_congr_left fun m _ => by simp [Entry.text, entry, memberText, chars]
  rw [chars, memberChars_eq, htexts]
  exact enclosed_intercalate '\x7b' '\x7d' _

/-! ## Named choices -/

theorem reads_choice {α : Type} {names : List (String × α)} {name : String} {a : α}
    (hname : names.lookup name = some a) {text : List Char} (h : Spelling.string name text) :
    Reads (.choice names) a text := by
  obtain ⟨before, quoted, hb, hs, rfl⟩ := h
  obtain ⟨body, rfl, hread⟩ := readString_spelled hs
  refine ⟨starts_mark hb (by decide) body, fun rest _ cs hcs => ?_⟩
  rw [List.append_assoc, List.cons_append, skipBlanks_mark hb (c := '"') rfl] at hcs
  simp only [Reader.choice, hcs, hread, hname, bind, Except.bind, pure, Except.pure]

end Json

namespace Report

open Json

/-! ## Reports -/

theorem lookup_name (c : Code) : (Code.all.map fun c => (c.name, c)).lookup c.name = some c := by
  cases c <;> decide

def slots : List (Slot Report) :=
  [.of "code" code (fun c => Spelling.string c.name) none, .of "message" message .string none,
    .of "details" details (.nullable .string) none]

theorem readsSlots : record.ReadsSlots slots where
  members := by
    refine .cons (readsSlot_of ?_ (fun c _ => reads_choice (lookup_name c)) ?_)
      (.cons (readsSlot_of ?_ (fun _ _ => reads_string) ?_)
      (.cons (readsSlot_of ?_ (fun _ _ => reads_nullable) ?_) .nil))
    all_goals simp [Sets, slots, Slot.of]
  refl := by simp [slots, Slot.of]
  omitted := List.forall_mem_cons.2 ⟨omitted_of (by simp),
    List.forall_mem_cons.2 ⟨omitted_of (by simp),
    List.forall_mem_singleton.2 (omitted_of (by simp))⟩⟩
  ext a b h := by
    cases a
    simp_all [slots, Slot.of]

theorem spelled_toJson (r : Report) : Spelling.record slots r r.toJson.chars := by
  refine record_written rfl (by decide) ?_
  simp [slots, Slot.of, string_written, nullable_written]

theorem read_toJson (r : Report) : read r.toJson.render = .ok r :=
  (reads_record readsSlots r.spelled_toJson).document blanks_nil (by simp [Json.render])

/-! ## Details -/

theorem details_detailed (code : Code) (message : String) (members : List (String × String)) :
    (detailed code message members).details.map (document .texts) = some (.ok members) := by
  have hread := (reads_writtenTexts members).document blanks_nil
    (s := (Json.object (members.map fun (key, s) => (key, .string s))).render)
    (by simp [Json.render])
  exact congrArg some hread

/-- What the details of a fault hold, for the faults that have details. -/
def particulars : ServiceFault → Option (List (String × String))
  | .job (.request fault) => some [("type", requestKind fault)]
  | .job (.unsupportedRule field rule) => some [("field", field), ("rule", rule)]
  | .job (.notFound id) => some [("id", id.text)]
  | .job (.notReady id status) => some [("id", id.text), ("status", status)]
  | _ => none

theorem details_ofServiceFault (fault : ServiceFault) :
    (ofServiceFault fault).details.map (document .texts) = (particulars fault).map .ok := by
  cases fault with
  | configuration text => rfl
  | notInitialized text => rfl
  | job fault =>
    cases fault with
    | store fault => cases fault <;> rfl
    | output text => rfl
    | internal text => rfl
    | request fault => exact details_detailed ..
    | unsupportedRule field rule => exact details_detailed ..
    | notFound id => exact details_detailed ..
    | notReady id status => exact details_detailed ..

/-! ## Copies -/

/-- Only the message of a refusal of the store changes in a copy. -/
theorem ofServiceFault_copy (fault : ServiceFault) :
    (ofServiceFault fault.copy).code = (ofServiceFault fault).code ∧
      (ofServiceFault fault.copy).details = (ofServiceFault fault).details := by
  cases fault with
  | configuration text => exact ⟨rfl, rfl⟩
  | notInitialized text => exact ⟨rfl, rfl⟩
  | job fault =>
    cases fault with
    | store fault => cases fault <;> exact ⟨rfl, rfl⟩
    | _ => exact ⟨rfl, rfl⟩

/-- The report of a fault is read back from its text, its details are read as what the fault was
made from, and a copy of the fault has the same code and the same details. -/
theorem reports_carry_causes (fault : ServiceFault) :
    read (ofServiceFault fault).toJson.render = .ok (ofServiceFault fault) ∧
      (ofServiceFault fault).details.map (document .texts) = (particulars fault).map .ok ∧
      (∀ id : Uuid, Uuid.parse? id.text = some id) ∧
      (ofServiceFault fault.copy).code = (ofServiceFault fault).code ∧
      (ofServiceFault fault.copy).details = (ofServiceFault fault).details :=
  ⟨read_toJson _, details_ofServiceFault fault, Uuid.parse?_text, ofServiceFault_copy fault⟩

end Report

end SheetExport
