import Mathlib.Logic.Basic

/-!
# Debug trees

What a derived `Debug` prints is a tree of names, which the formatter lays out, on one line for
`{:?}`.  How a string is escaped is a parameter: it depends on the tables of printable characters.

* `Debug`             the tree, and `Debug.compact` its line;
* `Debug.newtype`, `Debug.option`   the trees of a wrapped string and of an optional value.
-/

namespace Format

inductive Debug where
  /-- a number, or a variant without data -/
  | text (s : String)
  | str (s : String)
  | list (items : List Debug)
  /-- a tuple (without a name), or a tuple struct -/
  | tuple (name : String) (items : List Debug)
  | struct (name : String) (fields : List (String × Debug))

/-- a tuple struct around one string -/
def Debug.newtype (name s : String) : Debug := .tuple name [.str s]

def Debug.option : Option Debug → Debug
  | none => .text "None"
  | some d => .tuple "Some" [d]

section
variable (quote : String → String)

mutual

/-- `{:?}` -/
def Debug.compact : Debug → String
  | .text s => s
  | .str s => quote s
  | .list items => "[" ++ ", ".intercalate (compactItems items) ++ "]"
  | .tuple name items => name ++ "(" ++ ", ".intercalate (compactItems items) ++ ")"
  | .struct name fields =>
    name ++ " \x7b " ++ ", ".intercalate (compactFields fields) ++ " \x7d"

def compactItems : List Debug → List String
  | [] => []
  | item :: items => item.compact :: compactItems items

def compactFields : List (String × Debug) → List String
  | [] => []
  | field :: fields => compactField field :: compactFields fields

def compactField : String × Debug → String
  | (name, item) => name ++ ": " ++ item.compact

end

end

end Format
