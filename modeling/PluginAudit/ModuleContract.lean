import PluginAudit.Finding
import PluginAudit.Layout
import PluginAudit.Pattern.Matching

/-!
# The contract of the primary module

The primary module exports a default class with an `init` method that returns
an object with `HOOKS`, and each hook that the manifest declares is a key of
some object in it. The text is only searched, not parsed, so unusual styles can
be reported.
-/

set_option autoImplicit false

namespace PluginAudit

namespace ModuleContract

open Pattern

/-- Any number of blanks. -/
def blanks : Pattern := rounds true 0 none (one .blank)

/-- At least one blank. -/
def someBlanks : Pattern := rounds true 1 none (one .blank)

/-- A default export of a class. -/
def defaultClass : Pattern :=
  sequence [literal "export".toList, someBlanks, literal "default".toList, someBlanks,
    literal "class".toList]

/-- A method `init` without parameters. -/
def initMethod : Pattern :=
  sequence [rounds true 0 (some 1) (seq (literal "async".toList) someBlanks),
    literal "init".toList, blanks, char '(', blanks, char ')']

/-- An object with `HOOKS` that is returned. -/
def hooksReturned : Pattern :=
  sequence [literal "return".toList, blanks, char '\x7b', blanks, literal "HOOKS".toList, blanks,
    char ':']

/-- A hook as a key: not the tail of a longer name, perhaps with a quote behind it, and followed
by a colon. -/
def handler (hook : String) : Pattern :=
  sequence [
    choice (assertion .textStart) (one (.complement (.union .word (.single '$')))),
    literal hook.toList,
    rounds true 0 (some 1) (one (.union (.single '\'') (.single '"'))),
    blanks, char ':']

/-- Whether a source text has a handler for a hook. -/
def hasHandler (text : Array Char) (hook : String) : Bool := (handler hook).isMatch text

/-- The findings in the text of the primary module. -/
def check (layout : Layout) (hooks : List String) (source : String) : List Finding :=
  let text := source.toList.toArray
  let issue (code message : String) : Finding :=
    { severity := .issue, category := .consistency, code, message,
      file := some layout.primaryModule }
  let need (holds : Bool) (finding : Finding) : List Finding := if holds then [] else [finding]
  need (defaultClass.isMatch text)
      (issue "C001" (layout.primaryModule ++ " must export a default class")) ++
    need (initMethod.isMatch text) (issue "C002" "Plugin class must have an init method") ++
    need (hooksReturned.isMatch text)
      (issue "C003" "init method must return an object with HOOKS") ++
    (hooks.filter fun hook => !hasHandler text hook).map fun hook =>
      issue "C004" ("Hook '" ++ hook ++ "' declared in " ++ layout.manifest ++
        " but not implemented in " ++ layout.primaryModule)

end ModuleContract

end PluginAudit
