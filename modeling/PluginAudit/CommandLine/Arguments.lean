import PluginAudit.Path

/-!
# Arguments

What the arguments of the program ask for. Options that concern every command
can stand before its name and behind it, where they win; each can be given once
on either side. Arguments that fit nothing are refused at the first of them,
unless the version or help was asked for before.
-/

set_option autoImplicit false

namespace PluginAudit.CommandLine

/-- How results are printed. -/
inductive Format where
  | text
  | json
  deriving DecidableEq, Repr

/-- Which plugins are validated. -/
inductive Target where
  /-- The plugin of an id in the directory of all plugins. -/
  | id (id : String)
  /-- The plugin in a directory. -/
  | path (plugin : Path)
  /-- Every plugin in the directory of all plugins. -/
  | all
  deriving DecidableEq, Repr

/-- What is to be done. -/
inductive Command where
  | validate (target : Target) (register : Bool)
  | rules
  deriving DecidableEq, Repr

/-- A call of the program. -/
structure Call where
  command : Command
  /-- The directory of all plugins. -/
  plugins : Path
  registry : Option Path
  /-- The rule file, in place of the standard rules. -/
  rules : Option Path
  /-- How many plugins may be validated at a time. -/
  jobs : Option Nat
  format : Format
  verbosity : Nat
  deriving DecidableEq, Repr

/-- Why arguments are not a call. -/
inductive Stop where
  /-- The arguments fit nothing. -/
  | misuse
  | version
  | help
  deriving DecidableEq, Repr

/-! ## Options -/

/-- An option, by what it is about. -/
inductive Flag where
  | plugins
  | registry
  | rules
  | jobs
  | format
  | verbose
  | id
  | path
  | all
  | register
  | version
  | help
  deriving DecidableEq, Repr

/-- Where options stand: before the name of the command, or behind the name of one. -/
inductive Side where
  | before
  | validate
  | rules
  deriving DecidableEq, Repr

namespace Flag

/-- The long names of options. -/
def longNames : List (String × Flag) :=
  [("plugins-dir", plugins), ("registry", registry), ("rules", rules), ("jobs", jobs),
    ("format", format), ("verbose", verbose), ("id", id), ("path", path), ("all", all),
    ("register", register), ("version", version), ("help", help)]

/-- The letters of options. -/
def letters : List (Char × Flag) := [('j', jobs), ('v', verbose), ('V', version), ('h', help)]

/-- Whether an option is followed by a value. -/
def takesValue : Flag → Bool
  | plugins | registry | rules | jobs | format | id | path => true
  | verbose | all | register | version | help => false

/-- Whether an option can stand on a side. -/
def standsOn (side : Side) : Flag → Bool
  | plugins | registry | rules | jobs | format | verbose | help => true
  | id | path | all | register => side == .validate
  | version => side == .before

end Flag

/-- What the options of one side say. -/
structure Settings where
  plugins : Option Path := none
  registry : Option Path := none
  rules : Option Path := none
  jobs : Option Nat := none
  format : Option Format := none
  verbosity : Nat := 0
  id : Option String := none
  path : Option Path := none
  all : Bool := false
  register : Bool := false
  deriving DecidableEq, Repr

/-- The path that a value is; nothing written is none. -/
def pathValue? (value : String) : Option Path := if value.isEmpty then none else some ⟨value⟩

/-- The number of jobs that a value is: positive, and no more than 64 bits hold. -/
def jobsValue? (value : String) : Option Nat :=
  let digits := match value.toList with
    | '+' :: digits => digits
    | digits => digits
  if digits.isEmpty || !digits.all (·.isDigit) then none
  else
    let number := digits.foldl (fun number c => 10 * number + (c.toNat - '0'.toNat)) 0
    if 0 < number && number ≤ 0xFFFFFFFFFFFFFFFF then some number else none

/-- The format that a value is. -/
def formatValue? (value : String) : Option Format :=
  if value = "text" then some .text else if value = "json" then some .json else none

namespace Settings

/-- The value of an option that has not been given before. -/
def once {α : Type} (before value : Option α) : Except Stop (Option α) :=
  match before, value with
  | none, some value => .ok (some value)
  | _, _ => .error .misuse

/-- A switch that has not been given before. -/
def switched (before : Bool) : Except Stop Bool := if before then .error .misuse else .ok true

/-- The settings with one more option. -/
def take (settings : Settings) (flag : Flag) (value : String) : Except Stop Settings := do
  match flag with
  | .plugins => .ok { settings with plugins := ← once settings.plugins (pathValue? value) }
  | .registry => .ok { settings with registry := ← once settings.registry (pathValue? value) }
  | .rules => .ok { settings with rules := ← once settings.rules (pathValue? value) }
  | .jobs => .ok { settings with jobs := ← once settings.jobs (jobsValue? value) }
  | .format => .ok { settings with format := ← once settings.format (formatValue? value) }
  | .verbose => .ok { settings with verbosity := settings.verbosity + 1 }
  | .id => .ok { settings with id := ← once settings.id (some value) }
  | .path => .ok { settings with path := ← once settings.path (pathValue? value) }
  | .all => .ok { settings with all := ← switched settings.all }
  | .register => .ok { settings with register := ← switched settings.register }
  | .version => .error .version
  | .help => .error .help

end Settings

/-! ## Reading -/

/-- The names of the commands with the sides behind them. -/
def commandNames : List (String × Side) := [("validate", .validate), ("rules", .rules)]

/-- Whether an argument is no value of the option before it: it begins with a dash and is more
than one. -/
def isOption (argument : String) : Bool :=
  match argument.toList with
  | '-' :: _ :: _ => true
  | _ => false

/-- Reads the letters of an argument. The answer tells which option still needs a value. -/
def readLetters (side : Side) : Settings → List Char → Except Stop (Settings × Option Flag)
  | settings, [] => .ok (settings, none)
  | settings, letter :: rest =>
    match Flag.letters.lookup letter with
    | none => .error .misuse
    | some flag =>
      if !flag.standsOn side then .error .misuse
      else if flag.takesValue then
        match rest with
        | [] => .ok (settings, some flag)
        | '=' :: value => do .ok (← settings.take flag (String.ofList value), none)
        | value => do .ok (← settings.take flag (String.ofList value), none)
      else do readLetters side (← settings.take flag "") rest

/-- Reads a long option, without its dashes. The answer tells whether it still needs a value. -/
def readLong (side : Side) (settings : Settings) (written : List Char) :
    Except Stop (Settings × Option Flag) :=
  let name := String.ofList (written.takeWhile (· ≠ '='))
  match Flag.longNames.lookup name, written.dropWhile (· ≠ '=') with
  | none, _ => .error .misuse
  | some flag, attached =>
    if !flag.standsOn side then .error .misuse
    else
      match attached, flag.takesValue with
      | [], true => .ok (settings, some flag)
      | [], false => do .ok (← settings.take flag "", none)
      | _ :: value, true => do .ok (← settings.take flag (String.ofList value), none)
      | _ :: _, false => .error .misuse

/-- Reads the options of a side. Before the name of the command they end at that name, which is
answered with what stands behind it. -/
def readSide (side : Side) :
    Settings → List String → Except Stop (Settings × Option (String × List String))
  | settings, [] => .ok (settings, none)
  | settings, argument :: rest =>
    let go (read : Except Stop (Settings × Option Flag)) :
        Except Stop (Settings × Option (String × List String)) :=
      match read, rest with
      | .error stop, _ => .error stop
      | .ok (settings, none), rest => readSide side settings rest
      | .ok (_, some _), [] => .error .misuse
      | .ok (settings, some flag), value :: rest =>
        if isOption value then .error .misuse
        else do readSide side (← settings.take flag value) rest
    match argument.toList with
    | ['-', '-'] => if rest.isEmpty then .ok (settings, none) else .error .misuse
    | '-' :: '-' :: written => go (readLong side settings written)
    | '-' :: letter :: letters => go (readLetters side settings (letter :: letters))
    | _ =>
      if side == .before then
        if argument = "help" then .error .help
        else if (commandNames.lookup argument).isSome then .ok (settings, some (argument, rest))
        else .error .misuse
      else .error .misuse

/-- The one target that settings name. -/
def targetOf (settings : Settings) : Except Stop Target :=
  match settings.id, settings.path, settings.all with
  | some id, none, false => .ok (.id id)
  | none, some plugin, false => .ok (.path plugin)
  | none, none, true => .ok .all
  | _, _, _ => .error .misuse

/-- The directory of all plugins where neither an option nor the environment names one. -/
def standardPlugins : Path := ⟨"server/plugins"⟩

/-- The call that arguments are. `environment` is what the environment says about the directory of
all plugins; it must not be empty unless both sides name the directory. -/
def parse (environment : Option String) (arguments : List String) : Except Stop Call := do
  let (before, rest) ← readSide .before {} arguments
  match rest with
  | none => .error .misuse
  | some (name, rest) =>
    let side := (commandNames.lookup name).getD .rules
    let (behind, _) ← readSide side {} rest
    let command ←
      if side = .validate then do .ok (.validate (← targetOf behind) behind.register)
      else .ok .rules
    let named := environment.map pathValue?
    if named = some none && (before.plugins.isNone || behind.plugins.isNone) then .error .misuse
    else .ok {
      command
      plugins := ((behind.plugins <|> before.plugins) <|> named.join).getD standardPlugins
      registry := behind.registry <|> before.registry
      rules := behind.rules <|> before.rules
      jobs := behind.jobs <|> before.jobs
      format := (behind.format <|> before.format).getD .text
      verbosity := before.verbosity + behind.verbosity }

end PluginAudit.CommandLine
