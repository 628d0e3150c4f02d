import PluginAudit.Pattern.CharClass
import PluginAudit.Unicode.BinaryProperty
import PluginAudit.Unicode.CaseProperty
import PluginAudit.Unicode.GeneralCategory
import PluginAudit.Unicode.Script
import PluginAudit.Unicode.ScriptExtensions

/-!
# Classes by property

A class can be named by a property of its characters: a binary property, a
general category or a script. Names are compared loosely, without regard to
case, blanks, dashes, underscores and a leading `is`.
-/

set_option autoImplicit false

namespace PluginAudit

namespace Pattern

namespace CharClass

/-- The letters of a property name that count in comparisons. -/
def looseLetters (name : List Char) : List Char :=
  (name.filter fun c => c.toNat < 128 && c != ' ' && c != '_' && c != '-').map Char.toLower

/-- A property name as it is compared. The name of the comment property keeps its first two
letters, which are no prefix of its own. -/
def looseName (name : List Char) : String :=
  match name with
  | first :: second :: rest =>
    if first.toLower = 'i' && second.toLower = 's' then
      let letters := looseLetters rest
      if letters = ['c'] then "isc" else String.ofList letters
    else String.ofList (looseLetters name)
  | _ => String.ofList (looseLetters name)

/-- The union of tables. -/
def ofTables (tables : List Unicode.RangeTable) : CharClass := unions (tables.map tabled)

/-- The class of a general category, by its loose name. -/
def ofCategory? (name : String) : Option CharClass :=
  if name == "any" then some everything
  else if name == "ascii" then some ascii
  else if name == "assigned" then some (ofTables Unicode.GeneralCategory.assigned)
  else
    match Unicode.GeneralCategory.tables? name with
    | some tables => some (ofTables tables)
    | none => (Unicode.GeneralCategory.excluded? name).map fun tables =>
        complement (ofTables tables)

/-- The class of a binary property, by its loose name. Three short names stand for a general
category instead. -/
def ofBinary? (name : String) : Option CharClass :=
  if name == "cf" || name == "sc" || name == "lc" then none
  else
    match Unicode.BinaryProperty.table? name with
    | some table => some (tabled table)
    | none => (Unicode.CaseProperty.table? name).map tabled

/-- The class that a single name stands for: a binary property, else a category, else a script. -/
def ofProperty? (name : List Char) : Option CharClass :=
  let name := looseName name
  match ofBinary? name with
  | some cls => some cls
  | none =>
    match ofCategory? name with
    | some cls => some cls
    | none => (Unicode.Script.table? name).map tabled

/-- The class of the characters with a given value of a property. -/
def ofPropertyValue? (property value : List Char) : Option CharClass :=
  let property := looseName property
  let value := looseName value
  if property == "gc" || property == "generalcategory" then ofCategory? value
  else if property == "sc" || property == "script" then (Unicode.Script.table? value).map tabled
  else if property == "scx" || property == "scriptextensions" then
    (Unicode.ScriptExtensions.table? value).map tabled
  else none

end CharClass

end Pattern

end PluginAudit
