import PluginAudit.Yaml.Style

/-!
# Written documents

Lists and records of texts as a YAML document. Everything is written as a
block, two blanks deeper for each record; the items of a list stand at the
column of the field that holds it.
-/

set_option autoImplicit false

namespace PluginAudit.Yaml

/-- What is written: texts, lists, and records whose names need no quotes. -/
inductive Tree where
  | text (value : String)
  | list (items : List Tree)
  | record (fields : List (String × Tree))

namespace Tree

/-- A text to the end of its line. -/
def textLine (indent : Nat) (value : String) : List Char :=
  let written := (Style.ofText value).write indent value.toList
  ' ' :: (written ++ if written.getLast?.any isBreak then [] else ['\n'])

mutual

/-- What stands behind the dash of an item at an indentation. -/
def afterDash (indent : Nat) : Tree → List Char
  | text value => textLine (indent + 2) value
  | list [] => [' ', '[', ']', '\n']
  | list (item :: items) =>
    ' ' :: '-' :: (afterDash (indent + 2) item ++ itemLines (indent + 2) items)
  | record [] => [' ', '{', '}', '\n']
  | record ((name, value) :: fields) =>
    ' ' :: (name.toList ++ ':' :: afterName (indent + 2) value) ++ fieldLines (indent + 2) fields

/-- What stands behind the name of a field at an indentation. -/
def afterName (indent : Nat) : Tree → List Char
  | text value => textLine (indent + 2) value
  | list [] => [' ', '[', ']', '\n']
  | list items => '\n' :: itemLines indent items
  | record [] => [' ', '{', '}', '\n']
  | record fields => '\n' :: fieldLines (indent + 2) fields

/-- The lines of items at an indentation. -/
def itemLines (indent : Nat) : List Tree → List Char
  | [] => []
  | item :: items => Style.blanks indent ++ '-' :: afterDash indent item ++ itemLines indent items

/-- The lines of fields at an indentation. -/
def fieldLines (indent : Nat) : List (String × Tree) → List Char
  | [] => []
  | (name, value) :: fields =>
    Style.blanks indent ++ name.toList ++ ':' :: afterName indent value ++ fieldLines indent fields

end

/-- A record as a document. -/
def document (fields : List (String × Tree)) : String := String.ofList (fieldLines 0 fields)

end Tree

end PluginAudit.Yaml
