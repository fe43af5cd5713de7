import SheetExport.Text.Blank

/-! # Quoted names and texts

A name or a text enters a statement only between quotes, with the quote inside it written twice.
-/

namespace SheetExport.Sql

def name (s : String) : String := "\"" ++ Text.doubled '"' s ++ "\""

def text (s : String) : String := "'" ++ Text.doubled '\'' s ++ "'"

/-- A column of a table. -/
def qualified (table column : String) : String := name table ++ "." ++ name column

end SheetExport.Sql
