/-!
Reading the arguments of a command: options, whose value follows them or is attached by an equals
sign, and places for values without a name. A value that follows does not begin with a hyphen
unless it is one. Behind two hyphens there are only places.
-/

namespace StagedRuns.Cli

structure Flag where
  /-- The name without its two hyphens. -/
  name : String
  /-- The variable of the environment that the option may be set by. -/
  variableName : Option String
  /-- The value of an option that is not set; one that has none is needed. -/
  default : Option String
deriving DecidableEq, Repr

structure Form where
  flags : List Flag
  places : Nat

inductive Refusal where
  | help
  | misuse
deriving DecidableEq, Repr

structure Given where
  options : List (String × String)
  places : List String
deriving DecidableEq, Repr

inductive Argument where
  | ending
  | help
  | attached (name value : String)
  | named (name : String)
  | place
  | unknown
deriving DecidableEq, Repr

def Argument.of (text : String) : Argument :=
  match text.toList with
  | ['-'] => .place
  | ['-', '-'] => .ending
  | '-' :: '-' :: option =>
      let name := String.ofList (option.takeWhile (· ≠ '='))
      match option.dropWhile (· ≠ '=') with
      | [] => if name = "help" then .help else .named name
      | _ :: value => .attached name (String.ofList value)
  | '-' :: 'h' :: _ => .help
  | '-' :: _ => .unknown
  | _ => .place

namespace Form

def takePlace (form : Form) (given : Given) (value : String) : Except Refusal Given :=
  if given.places.length < form.places then
    .ok { given with places := given.places ++ [value] }
  else .error .misuse

/-- Takes the value of an option, which has none yet. -/
def takeOption (form : Form) (given : Given) (name value : String) : Except Refusal Given :=
  if form.flags.all (·.name ≠ name) || given.options.any (·.1 = name) then .error .misuse
  else .ok { given with options := given.options ++ [(name, value)] }

def readAfter (form : Form) (given : Given) : List String → Except Refusal Given
  | [] => .ok given
  | argument :: rest =>
      match Argument.of argument with
      | .ending => rest.foldlM form.takePlace given
      | .help => .error .help
      | .unknown => .error .misuse
      | .attached name value => do form.readAfter (← form.takeOption given name value) rest
      | .place => do form.readAfter (← form.takePlace given argument) rest
      | .named name =>
          match rest with
          | [] => .error .misuse
          | value :: rest =>
              if Argument.of value = .place then do
                form.readAfter (← form.takeOption given name value) rest
              else .error .misuse

def read (form : Form) (arguments : List String) : Except Refusal Given :=
  form.readAfter ⟨[], []⟩ arguments

end Form

/-- The value of an option: the one that is given, that of its variable, or its default. -/
def Flag.value (flag : Flag) (environment : List (String × String)) (given : Given) :
    Except Refusal String :=
  match given.options.lookup flag.name <|>
      flag.variableName.bind (environment.lookup ·) <|> flag.default with
  | some value => .ok value
  | none => .error .misuse

end StagedRuns.Cli
