/-!
# Paths

A path is kept as it is written, since messages repeat it. What it means is in
its parts, which slashes separate; empty parts mean nothing.
-/

set_option autoImplicit false

namespace PluginAudit

/-- A path as it is written. -/
structure Path where
  text : String
  deriving DecidableEq, Repr

namespace Path

/-- One step of a path. -/
inductive Component where
  | root
  | here
  | up
  | name (text : String)
  deriving DecidableEq, Repr

/-! ## Parts -/

/-- The texts between the slashes of a text. -/
def pieces : List Char → List (List Char)
  | [] => [[]]
  | c :: rest =>
    if c = '/' then [] :: pieces rest
    else
      match pieces rest with
      | [] => [[c]]
      | piece :: others => (c :: piece) :: others

/-- Whether a path starts at the root. -/
def isAbsolute (path : Path) : Bool := path.text.toList.head? == some '/'

/-- Whether a path ends in a slash, and so must lead to a directory. -/
def endsInSlash (path : Path) : Bool := path.text.toList.getLast? == some '/'

/-- The parts of a path. -/
def parts (path : Path) : List String :=
  ((pieces path.text.toList).filter fun piece => !piece.isEmpty).map String.ofList

/-- The step that a part stands for. -/
def step (part : String) : Component :=
  if part = "." then .here else if part = ".." then .up else .name part

/-- The steps of a path, each part being one. -/
def steps (path : Path) : List Component := path.parts.map step

/-- The components of a path: its steps without those that stay where they are, but for one at the
start of a relative path. -/
def components (path : Path) : List Component :=
  let moving (steps : List Component) := steps.filter (· != .here)
  if path.isAbsolute then .root :: moving path.steps
  else
    match path.steps with
    | .here :: rest => .here :: moving rest
    | steps => moving steps

/-! ## Names -/

/-- The name to which a path leads, where its last component is one. -/
def fileName? (path : Path) : Option String :=
  match path.components.getLast? with
  | some (.name text) => some text
  | _ => none

/-- The text of a component. -/
def Component.text : Component → String
  | root => ""
  | here => "."
  | up => ".."
  | name text => text

/-- The path of components. -/
def ofComponents : List Component → Path
  | [.root] => ⟨"/"⟩
  | components => ⟨"/".intercalate (components.map Component.text)⟩

/-- The path without its last component. -/
def parent? (path : Path) : Option Path :=
  match path.components.getLast? with
  | none => none
  | some .root => none
  | some _ => some (ofComponents path.components.dropLast)

/-- What stands behind the last point of a name, unless the name begins with that point. -/
def nameExtension? (name : String) : Option String :=
  let chars := name.toList.reverse
  match chars.dropWhile (· ≠ '.') with
  | [] => none
  | [_] => none
  | _ :: _ => some (String.ofList (chars.takeWhile (· ≠ '.')).reverse)

/-- The extension of the name to which a path leads. -/
def extension? (path : Path) : Option String := path.fileName?.bind nameExtension?

/-! ## Longer paths -/

/-- A path that goes on with another, which counts alone when it starts at the root. -/
def join (path : Path) (more : String) : Path :=
  if more.toList.head? == some '/' then ⟨more⟩
  else if path.text.isEmpty || path.endsInSlash then ⟨path.text ++ more⟩
  else ⟨path.text ++ "/" ++ more⟩

/-- The path that goes on with names. -/
def under (path : Path) (names : List String) : Path := names.foldl join path

/-- The path with something written behind it. -/
def extended (path : Path) (more : String) : Path := ⟨path.text ++ more⟩

end Path

end PluginAudit
