/-!
# Command lines

A program is started with options only. An option has a long name and perhaps a letter; most take a
value, which is attached to it or follows as an argument of its own. Arguments are dealt with one
after the other, so that the first thing that is wrong or ends the program decides.
-/

namespace MeterBus.CommandLine

/-- An option of a program. -/
structure OptionSpec where
  name : String
  letter : Option Char := none
  takesValue : Bool := true
  /-- The variable of the environment that stands in for the option. -/
  environmentName : Option String := none
  /-- The values that make sense. -/
  accepts : String → Bool := fun _ => true

/-- Why a program does not do its work. -/
inductive Stop where
  /-- Its arguments make no sense. -/
  | misused
  /-- It was asked for its version. -/
  | version
  /-- It was asked how it is used. -/
  | help
  deriving DecidableEq, Repr

/-- The options given, each with its value. -/
abbrev Given := List (String × String)

/-- How far the arguments have been dealt with. -/
structure Progress where
  given : Given := []
  /-- The option that waits for its value. -/
  waiting : Option OptionSpec := none
  /-- Whether the end of the options has been marked. -/
  ended : Bool := false

/-- Notes an option, which may be given once. -/
def note (option : OptionSpec) (value : String) (progress : Progress) : Except Stop Progress :=
  if (progress.given.lookup option.name).isSome || !option.accepts value then .error .misused
  else .ok { progress with given := progress.given ++ [(option.name, value)], waiting := none }

/-- Deals with an option under its long name. -/
def long (options : List OptionSpec) (name : String) (value : Option String) (progress : Progress) :
    Except Stop Progress :=
  if name = "version" ∨ name = "help" then
    .error (if value.isSome then .misused else if name = "version" then .version else .help)
  else
    match options.find? (·.name = name), value with
    | none, _ => .error .misused
    | some option, some value => if option.takesValue then note option value progress
      else .error .misused
    | some option, none => if option.takesValue then .ok { progress with waiting := some option }
      else note option "" progress

/-- Deals with letters behind one dash. Behind the letter of an option that takes a value, the value
begins. -/
def letters (options : List OptionSpec) : List Char → Progress → Except Stop Progress
  | [], progress => .ok progress
  | letter :: rest, progress =>
    if letter = 'V' then .error .version
    else if letter = 'h' then .error .help
    else
      match options.find? (·.letter = some letter) with
      | none => .error .misused
      | some option =>
        if option.takesValue then
          match rest with
          | [] => .ok { progress with waiting := some option }
          | '=' :: value => note option (String.ofList value) progress
          | value => note option (String.ofList value) progress
        else do letters options rest (← note option "" progress)

/-- The two parts of an argument around its first sign of equality. -/
def splitValue (argument : List Char) : String × Option String :=
  match argument.span (· != '=') with
  | (name, []) => (String.ofList name, none)
  | (name, _ :: value) => (String.ofList name, some (String.ofList value))

/-- Deals with an argument. -/
def advance (options : List OptionSpec) (progress : Progress) (argument : String) :
    Except Stop Progress :=
  if progress.ended then .error .misused
  else
    match argument.toList, progress.waiting with
    | ['-', '-'], none => .ok { progress with ended := true }
    | '-' :: '-' :: rest, none =>
      let (name, value) := splitValue rest
      long options name value progress
    | '-' :: letter :: rest, none => letters options (letter :: rest) progress
    | '-' :: _ :: _, some _ => .error .misused
    | _, some option => note option argument progress
    | _, none => .error .misused

/-- The options that arguments give. -/
def ofArguments (options : List OptionSpec) (arguments : List String) : Except Stop Given := do
  let progress ← arguments.foldlM (advance options) {}
  if progress.waiting.isSome then throw .misused
  return progress.given

/-- The options given, with what the environment says about the others. -/
def withEnvironment (options : List OptionSpec) (environment : List (String × String))
    (given : Given) : Except Stop Given :=
  options.foldlM
    (fun given option =>
      match given.lookup option.name, option.environmentName.bind (environment.lookup ·) with
      | none, some value =>
        if option.accepts value then .ok (given ++ [(option.name, value)]) else .error .misused
      | _, _ => .ok given)
    given

/-- The options of a program that is started with some arguments in some environment. -/
def read (options : List OptionSpec) (environment : List (String × String))
    (arguments : List String) : Except Stop Given := do
  withEnvironment options environment (← ofArguments options arguments)

end MeterBus.CommandLine
