/-! # Blank characters

A character is blank when Unicode gives it the property White_Space.
-/

namespace SheetExport.Text

def isBlank (c : Char) : Bool :=
  let n := c.toNat
  (9 ≤ n && n ≤ 13) || n == 0x20 || n == 0x85 || n == 0xA0 || n == 0x1680 ||
    (0x2000 ≤ n && n ≤ 0x200A) || n == 0x2028 || n == 0x2029 || n == 0x202F || n == 0x205F ||
    n == 0x3000

/-- The blanks of the store's own number and date readers. -/
def isAsciiBlank (c : Char) : Bool :=
  (9 ≤ c.toNat && c.toNat ≤ 13) || c == ' '

def trimStart (s : String) : String :=
  String.ofList (s.toList.dropWhile isBlank)

def trimEnd (s : String) : String :=
  String.ofList (s.toList.reverse.dropWhile isBlank).reverse

def trim (s : String) : String := trimStart (trimEnd s)

def isAllBlank (s : String) : Bool := s.toList.all isBlank

/-! ## Small text operations -/

/-- The text with every occurrence of a character doubled. -/
def doubled (mark : Char) (s : String) : String :=
  String.ofList (s.toList.flatMap fun c => if c = mark then [c, c] else [c])

def lowerAscii (s : String) : String := String.ofList (s.toList.map Char.toLower)

/-- Equality without regard to the case of ASCII letters. -/
def sameName (a b : String) : Bool := lowerAscii a == lowerAscii b

/-- Puts a separator between the parts. -/
def joined (separator : String) : List String → String
  | [] => ""
  | [s] => s
  | s :: rest => s ++ separator ++ joined separator rest

def padLeft (width : Nat) (fill : Char) (s : String) : String :=
  String.ofList (List.replicate (width - s.length) fill) ++ s

/-- The length in UTF-8. -/
def byteCount (cs : List Char) : Nat := cs.foldl (fun n c => n + c.utf8Size) 0

end SheetExport.Text
