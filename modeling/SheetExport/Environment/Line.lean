import SheetExport.Text.Alphanumeric
import SheetExport.Text.Blank

/-! # Lines of a settings file

A line sets one variable, as in `export KEY = value # remark`. Single quotes take everything as it
stands. Elsewhere a backslash escapes one character, and `$name` or a name in braces after `$`
stands for the value of another variable.
-/

namespace SheetExport.Environment

inductive Line where
  | blank
  | setting (key value : String)
  | malformed
  deriving DecidableEq

/-! ## Keys -/

def isKeyStart (c : Char) : Bool := c.isAlpha || c == '_'

def isKeyChar (c : Char) : Bool := c.isAlphanum || c == '_' || c == '.'

def skipBlanks (cs : List Char) : List Char := cs.dropWhile Text.isBlank

def takeKey? (cs : List Char) : Option (String × List Char) :=
  match cs with
  | c :: _ =>
    if isKeyStart c then some (String.ofList (cs.takeWhile isKeyChar), cs.dropWhile isKeyChar)
    else none
  | [] => none

def takeEquals? : List Char → Option (List Char)
  | '=' :: rest => some rest
  | _ => none

/-- The key of a line, and what follows the equals sign. -/
def takeAssigned? (cs : List Char) : Option (String × List Char) := do
  let (key, rest) ← takeKey? (skipBlanks cs)
  return (key, ← takeEquals? (skipBlanks rest))

/-- The word `export` may stand before a key, and is a key itself before an equals sign. -/
def takeName? (cs : List Char) : Option (String × List Char) :=
  match takeKey? cs with
  | some ("export", rest) => takeAssigned? cs <|> takeAssigned? rest
  | _ => takeAssigned? cs

/-! ## Values -/

/-- What the next character of a value means. -/
inductive Mode where
  /-- It stands for itself, unless it is a mark. `quoted` tells of open double quotes. -/
  | plain (quoted : Bool)
  | escaped (quoted : Bool)
  /-- It is within single quotes. -/
  | literal
  /-- It may belong to the name after a `$`. -/
  | name (quoted : Bool) (start : List Char)
  /-- It belongs to a name in braces, unless it closes them. -/
  | braced (quoted : Bool) (start : List Char)
  /-- The value is over, and only a remark may follow. -/
  | ended
  | remark
  deriving DecidableEq

def escape? : Char → Option Char
  | '\\' => some '\\'
  | '\'' => some '\''
  | '"' => some '"'
  | '$' => some '$'
  | ' ' => some ' '
  | 'n' => some '\n'
  | _ => none

/-- The value of a variable, empty if it has none. -/
def substituted (lookup : String → Option String) (name : List Char) : List Char :=
  ((lookup (String.ofList name)).getD "").toList

def plainStep (quoted : Bool) (c : Char) : Mode × List Char :=
  match c with
  | '$' => (.name quoted [], [])
  | '\\' => (.escaped quoted, [])
  | '"' => (.plain (!quoted), [])
  | c =>
    if quoted then (.plain true, [c])
    else if c = '\'' then (.literal, [])
    else if c = ' ' ∨ c = '\t' then (.ended, [])
    else (.plain false, [c])

/-- The mode after a character, and what the character adds to the value. The character that ends
a name stands for itself, whatever it is. -/
def step? (lookup : String → Option String) (mode : Mode) (c : Char) : Option (Mode × List Char) :=
  match mode with
  | .plain quoted => some (plainStep quoted c)
  | .escaped quoted => (escape? c).map fun e => (.plain quoted, [e])
  | .literal => some (if c = '\'' then (.plain false, []) else (.literal, [c]))
  | .name quoted start =>
    some <|
      if Text.isAlphanumeric c then (.name quoted (start ++ [c]), [])
      else if c = '\x7b' ∧ start = [] then (.braced quoted [], [])
      else if c = '$' then (.name quoted [], substituted lookup start)
      else (.plain quoted, substituted lookup start ++ [c])
  | .braced quoted start =>
    some <|
      if c = '\x7d' then (.plain quoted, substituted lookup start)
      else (.braced quoted (start ++ [c]), [])
  | .ended =>
    if c = ' ' ∨ c = '\t' then some (.ended, [])
    else if c = '#' then some (.remark, [])
    else none
  | .remark => some (.remark, [])

/-- What the end of the line adds. Quotes and braces must be closed. -/
def finish? (lookup : String → Option String) : Mode → Option (List Char)
  | .plain false | .escaped false | .ended | .remark => some []
  | .name false start => some (substituted lookup start)
  | .plain true | .escaped true | .name true _ | .literal | .braced _ _ => none

def valueChars? (lookup : String → Option String) : Mode → List Char → Option (List Char)
  | mode, [] => finish? lookup mode
  | mode, c :: rest => do
    let (mode, added) ← step? lookup mode c
    return added ++ (← valueChars? lookup mode rest)

/-! ## Lines -/

def isSkipped (cs : List Char) : Bool := cs.isEmpty || cs.head? == some '#'

def value? (lookup : String → Option String) (cs : List Char) : Option String :=
  if isSkipped cs then some "" else (valueChars? lookup (.plain false) cs).map String.ofList

/-- Blanks around the line, its key and its value do not count. -/
def Line.read (lookup : String → Option String) (s : String) : Line :=
  let cs := skipBlanks (Text.trimEnd s).toList
  if isSkipped cs then .blank
  else
    match takeName? cs with
    | none => .malformed
    | some (key, rest) =>
      match value? lookup (skipBlanks rest) with
      | none => .malformed
      | some value => .setting key value

end SheetExport.Environment
