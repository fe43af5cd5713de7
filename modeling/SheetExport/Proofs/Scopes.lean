import SheetExport.Proofs.Values
import SheetExport.Store.Execution

/-!
# What a query sees

Outside of a query a row is what it has in each column. Inside, a qualified reference finds the row
of the one source with its label, whatever else is in scope.
-/

namespace SheetExport

open Text (sameName)

namespace Store

/-! ## Rows on their own -/

/-- What a row has in a named column, null if there is no such column. -/
def Table.cell (t : Table) (row : Row) (column : String) : Operand :=
  match t.place? column with
  | some place => ⟨affinityAt? t.columns place, row.value place⟩
  | none => .literal .null

/-- A row, taken as what it has in each column. -/
abbrev Entry : Type := String → Operand

def Table.entries (t : Table) : List Entry := t.rows.map t.cell

/-- The rows of a named table, none if it is not there. -/
def entries (s : Store) (table : String) : List Entry :=
  match s.table? table with
  | some t => t.entries
  | none => []

/-! ## Rows in scope -/

def Binding.entry (b : Binding) : Entry := fun column =>
  (b.find? (.of b.header.label column)).getD (.literal .null)

theorem Table.entry_binding (t : Table) (label : String) (row : Row) :
    Binding.entry ⟨t.header label, row⟩ = t.cell row := by
  funext column
  simp only [Binding.entry, Binding.find?, Header.place?, Table.header, sameName_self, if_true,
    Table.cell, Table.place?]
  cases placeOf? t.columns (some (numberPlace t.key)) column <;> rfl

theorem label_of_mem_bindings {s : Store} {source : Sql.Source} {b : Binding}
    (h : b ∈ s.bindings source) : b.header.label = source.label := by
  unfold bindings at h
  split at h
  · obtain ⟨row, -, rfl⟩ := List.mem_map.1 h
    rfl
  · simp at h

theorem map_entry_bindings (s : Store) (source : Sql.Source) :
    (s.bindings source).map Binding.entry = s.entries source.table := by
  unfold bindings entries
  cases s.table? source.table with
  | none => rfl
  | some t =>
    simp only [Table.bindings, Table.entries, List.map_map]
    exact List.map_congr_left fun row _ => t.entry_binding source.label row

theorem entry_mem {s : Store} {table : String} {label : Option String} {b : Binding}
    (h : b ∈ s.bindings ⟨table, label⟩) : b.entry ∈ s.entries table := by
  rw [← map_entry_bindings s ⟨table, label⟩]
  exact List.mem_map_of_mem h

theorem exists_binding {s : Store} {table : String} {e : Entry} (h : e ∈ s.entries table)
    (label : Option String) : ∃ b ∈ s.bindings ⟨table, label⟩, b.entry = e := by
  rw [← map_entry_bindings s ⟨table, label⟩] at h
  exact List.mem_map.1 h

/-! ## References -/

/-- No row in scope has the label. -/
def Free (label : String) (scope : Scope) : Prop :=
  ∀ b ∈ scope, sameName b.header.label label = false

theorem free_nil (label : String) : Free label [] := by simp [Free]

theorem free_cons {label : String} {b : Binding} {scope : Scope} :
    Free label (b :: scope) ↔ sameName b.header.label label = false ∧ Free label scope := by
  simp [Free]

theorem find?_of_other {b : Binding} {label : String} (h : sameName b.header.label label = false)
    (column : String) : b.find? (.of label column) = none := by
  simp [Binding.find?, Header.place?, h]

theorem operand_of_free {scope : Scope} {label : String} (h : Free label scope) (column : String) :
    operand scope (.of label column) = .literal .null := by
  have hn : scope.findSome? (·.find? (.of label column)) = none :=
    List.findSome?_eq_none_iff.2 fun b hb => find?_of_other (h b hb) column
  simp [operand, hn]

theorem operand_of_other {b : Binding} {scope : Scope} {label : String}
    (h : sameName b.header.label label = false) (column : String) :
    operand (b :: scope) (.of label column) = operand scope (.of label column) := by
  simp [operand, find?_of_other h]

theorem operand_of_label {b : Binding} {scope : Scope} {label : String}
    (hb : b.header.label = label) (hf : Free label scope) (column : String) :
    operand (b :: scope) (.of label column) = b.entry column := by
  subst hb
  cases hc : b.find? (.of b.header.label column) with
  | some o => simp [operand, Binding.entry, hc]
  | none =>
    have hr := operand_of_free hf column
    simp only [operand] at hr
    simp only [operand, List.findSome?_cons, hc, hr, Binding.entry, Option.getD_none]

/-- A label stands for a row whose columns are known. -/
def Shows (scope : Scope) (label : String) (e : Entry) : Prop :=
  ∀ column, operand scope (.of label column) = e column

theorem shows_head {b : Binding} {scope : Scope} {label : String} (hb : b.header.label = label)
    (hf : Free label scope) : Shows (b :: scope) label b.entry :=
  fun column => operand_of_label hb hf column

theorem Shows.cons {scope : Scope} {label : String} {e : Entry} (h : Shows scope label e)
    {b : Binding} (hb : sameName b.header.label label = false) : Shows (b :: scope) label e :=
  fun column => (operand_of_other hb column).trans (h column)

/-! ## Tests -/

variable {now : Int}

theorem equal_isTrue {scope : Scope} {a b : String} {x y : Entry} (ha : Shows scope a x)
    (hb : Shows scope b y) (c d : String) :
    (testTruth now scope (.equal (.of a c) (.of b d))).isTrue = (x c).equals (y d) := by
  rw [testTruth, ha, hb, Operand.equals]

theorem isText_isTrue {scope : Scope} {a : String} {x : Entry} (ha : Shows scope a x)
    (c v : String) : (testTruth now scope (.isText (.of a c) v)).isTrue = (x c).is v := by
  rw [Sql.Test.isText, testTruth, ha]
  rfl

theorem holds_isTrue {scope : Scope} {a : String} {x : Entry} (ha : Shows scope a x)
    (c : String) (condition : Sql.Condition) :
    (testTruth now scope (.holds (.of a c) condition)).isTrue = (x c).meets now condition := by
  rw [testTruth, ha, Operand.meets]

/-! ## Sources -/

theorem joined_singleton (s : Store) (source : Sql.Source) (scope : Scope) :
    s.joined source [scope] = (s.bindings source).map (· :: scope) := by
  simp [joined]

theorem mem_joined {s : Store} {source : Sql.Source} {scopes : List Scope} {scope : Scope} :
    scope ∈ s.joined source scopes ↔
      ∃ outer ∈ scopes, ∃ b ∈ s.bindings source, b :: outer = scope := by
  simp [joined, List.mem_flatMap]

end Store

end SheetExport
