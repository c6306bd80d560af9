import NetworkRollout.CommandLine.Setting

/-!
# Reading the command line

The words of the command line give settings, ask for a text, or name the one subcommand,
`version`. An option takes its value from behind an equals sign or from the next word, unless that
looks like an option itself. A value is checked when the next option comes, or at the end. What the
command line leaves open is taken from the environment.

* `Argument.ofText`: what a word looks like.
* `OperatorSettings.ofCommandLine`: the settings and the subcommand, or why the reading stops.
-/

namespace NetworkRollout

inductive Argument where
  /-- Two dashes alone: only plain words follow. -/
  | separator
  /-- A long option, with the value behind its first equals sign. -/
  | long (name : String) (value : Option String)
  /-- Short options; the first decides. -/
  | short (letter : Char)
  /-- A plain word. -/
  | word (text : String)
  deriving DecidableEq, Repr

namespace Argument

def ofLong (s : List Char) : Argument :=
  match s.span (· ≠ '=') with
  | (name, _ :: value) => long (String.ofList name) (some (String.ofList value))
  | (name, []) => long (String.ofList name) none

/-- What a word looks like. A dash alone is a plain word. -/
def ofText (text : String) : Argument :=
  match text.toList with
  | ['-', '-'] => separator
  | '-' :: '-' :: rest => ofLong rest
  | '-' :: letter :: _ => short letter
  | _ => word text

end Argument

inductive ArgumentStop where
  /-- The usage is asked for. -/
  | displayHelp
  /-- The version is asked for. -/
  | displayVersion
  /-- There is no such option, or a word that is not expected. -/
  | unknownArgument
  /-- A word is not the name of a subcommand. -/
  | invalidSubcommand
  /-- A value is missing. -/
  | invalidValue
  /-- A value is not a number in range. -/
  | valueValidation
  /-- An option is given twice. -/
  | argumentConflict
  /-- A value is given where none is expected. -/
  | tooManyValues
  deriving DecidableEq, Repr

namespace ArgumentStop

def ofFault : SettingFault → ArgumentStop
  | .missing => invalidValue
  | .notInRange => valueValidation

/-- What is wrong with the arguments, in words. -/
def message : ArgumentStop → String
  | displayHelp => "the usage is asked for"
  | displayVersion => "the version is asked for"
  | unknownArgument => "unexpected argument"
  | invalidSubcommand => "unrecognized subcommand"
  | invalidValue => "a value is required"
  | valueValidation => "invalid value"
  | argumentConflict => "an option cannot be used multiple times"
  | tooManyValues => "unexpected value"

end ArgumentStop

inductive Subcommand where
  | version
  deriving DecidableEq, Repr

namespace CommandLine

/-- The name of the subcommand that shows the version. -/
def versionName : String := "version"

def helpName : String := "help"

/-- What the words up to some point gave: the settings, which of them, and the last option with its
value, still to be checked. -/
structure Reading where
  settings : OperatorSettings := {}
  given : List Setting := []
  pending : Option (Setting × Option String) := none
  deriving Repr

namespace Reading

/-- A setting is given. Only the first time is allowed, whatever the value. -/
def give (r : Reading) (s : Setting) (text : String) : Except ArgumentStop Reading :=
  if s ∈ r.given then .error .argumentConflict
  else
    match r.settings.assign s text with
    | .ok settings => .ok { r with settings := settings, given := s :: r.given }
    | .error fault => .error (.ofFault fault)

def settle (r : Reading) : Except ArgumentStop Reading :=
  match r.pending with
  | none => .ok r
  | some (_, none) => .error .invalidValue
  | some (s, some text) => { r with pending := none }.give s text

/-- A setting that the words left open takes the value of its variable. -/
def giveFrom (environment : String → Option String) (r : Reading) (s : Setting) :
    Except ArgumentStop Reading :=
  if s ∈ r.given then .ok r
  else
    match environment s.environmentName with
    | none => .ok r
    | some text => r.give s text

end Reading

/-- Behind `help` only names of subcommands are allowed, and none below another. -/
def helpTopic : List String → ArgumentStop
  | [] => .displayHelp
  | [topic] => if topic = versionName ∨ topic = helpName then .displayHelp else .invalidSubcommand
  | _ => .invalidSubcommand

/-- Why the words behind `version` stop the reading; `version` itself takes none. -/
def versionStop? : List String → Option ArgumentStop
  | [] => none
  | text :: rest =>
    match Argument.ofText text with
    | .separator => if rest = [] then none else some .unknownArgument
    | .long "help" none | .short 'h' => some .displayHelp
    | .long "help" (some _) => some .tooManyValues
    | _ => some .unknownArgument

/-- Behind the separator no word is expected. -/
def separatedStop? : List String → Option ArgumentStop
  | [] => none
  | text :: _ =>
    if text = versionName ∨ text = helpName then some .unknownArgument else some .invalidSubcommand

def answer (r : Reading) (stop : ArgumentStop) (value : Option String) : ArgumentStop :=
  if value.isSome then .tooManyValues
  else
    match r.settle with
    | .ok _ => stop
    | .error other => other

def read (r : Reading) : List String → Except ArgumentStop (Reading × Option Subcommand)
  | [] => .ok (r, none)
  | text :: rest =>
    match Argument.ofText text with
    | .separator =>
      match separatedStop? rest with
      | none => .ok (r, none)
      | some stop => .error stop
    | .short 'h' => .error (answer r .displayHelp none)
    | .short 'V' => .error (answer r .displayVersion none)
    | .short _ => .error .unknownArgument
    | .long "help" value => .error (answer r .displayHelp value)
    | .long "version" value => .error (answer r .displayVersion value)
    | .long name value =>
      match Setting.ofOptionName? name with
      | none => .error .unknownArgument
      | some s => do
        let settled ← r.settle
        match value with
        | some v => read (← settled.give s v) rest
        | none => read { settled with pending := some (s, none) } rest
    | .word w =>
      match r.pending with
      | some (s, none) => read { r with pending := some (s, some w) } rest
      | _ =>
        if w = versionName then
          match versionStop? rest with
          | none => .ok (r, some .version)
          | some stop => .error stop
        else if w = helpName then .error (helpTopic rest)
        else .error .invalidSubcommand

end CommandLine

open CommandLine in
/-- The settings that words and environment give, and the subcommand; or why the reading stops. -/
def OperatorSettings.ofCommandLine (environment : String → Option String) (words : List String) :
    Except ArgumentStop (OperatorSettings × Option Subcommand) := do
  let (r, subcommand) ← read {} words
  let r ← r.settle
  let r ← Setting.all.foldlM (Reading.giveFrom environment) r
  return (r.settings, subcommand)

end NetworkRollout
