import SheetExport.Environment.Line

/-! # The environment

Named texts from outside. A settings file adds variables to them, but never changes one.
-/

namespace SheetExport

structure Environment where
  bindings : List (String × String)
  deriving DecidableEq

namespace Environment

def empty : Environment := ⟨[]⟩

def get? (e : Environment) (name : String) : Option String := e.bindings.lookup name

/-- A variable that is set keeps its value. -/
def add (e : Environment) (name value : String) : Environment :=
  if (e.get? name).isSome then e else ⟨e.bindings ++ [(name, value)]⟩

/-- A malformed line ends the reading. The lines before it count. -/
def addLines (e : Environment) : List String → Environment
  | [] => e
  | line :: rest =>
    match Line.read e.get? line with
    | .blank => e.addLines rest
    | .setting key value => (e.add key value).addLines rest
    | .malformed => e

/-- Adds the variables of a settings file. -/
def addFile (e : Environment) (text : String) : Environment := e.addLines (text.splitOn "\n")

end Environment

end SheetExport
