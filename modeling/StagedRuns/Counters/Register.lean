import StagedRuns.Counters

/-!
The counters as they are kept: all of them in one list, in the order of the names of the metrics and
then of the labels, with numbers of 64 bits. The text is written counter by counter, with the type of
a metric wherever a new name begins.
-/

namespace StagedRuns

structure Register.Entry where
  name : String
  label : String
  count : UInt64
deriving DecidableEq, Repr

structure Register where
  entries : List Register.Entry
deriving DecidableEq, Repr

namespace Register

def empty : Register := ⟨[]⟩

def get (register : Register) (name label : String) : UInt64 :=
  match register.entries.find? fun entry => entry.name = name && entry.label = label with
  | some entry => entry.count
  | none => 0

/-- Counts one more under a name and a label, which get their place in the order if they are new. -/
def bump (name label : String) : List Entry → List Entry
  | [] => [⟨name, label, 1⟩]
  | entry :: rest =>
      if name < entry.name ∨ name = entry.name ∧ label < entry.label then
        ⟨name, label, 1⟩ :: entry :: rest
      else if name = entry.name ∧ label = entry.label then
        { entry with count := entry.count + 1 } :: rest
      else entry :: bump name label rest

def increment (register : Register) (name label : String) : Register :=
  ⟨bump name label register.entries⟩

def countHook (register : Register) (kind : String) : Register :=
  register.increment "hooks_total" kind

def countInvalidHook (register : Register) : Register :=
  register.increment "hooks_invalid" ""

def countCall (register : Register) (operation : String) : Register :=
  register.increment "api_calls_total" operation

def countFailedCall (register : Register) (operation : String) : Register :=
  register.increment "api_calls_failed_total" operation

def labelKey? (name : String) : Option String :=
  if name = "hooks_total" then some "kind"
  else if name = "api_calls_total" ∨ name = "api_calls_failed_total" then some "name"
  else none

def line (entry : Entry) : String :=
  match labelKey? entry.name with
  | some key =>
      entry.name ++ "\x7b" ++ key ++ "=\"" ++ entry.label ++ "\"\x7d " ++ toString entry.count ++
        "\n"
  | none => entry.name ++ " " ++ toString entry.count ++ "\n"

/-- Writes what is left behind the output so far; `current` is the name whose type was written
last. -/
def renderFrom (output : String) (current : Option String) : List Entry → String
  | [] => output
  | entry :: rest =>
      let headed :=
        if current = some entry.name then output
        else output ++ "# TYPE " ++ entry.name ++ " counter\n"
      renderFrom (headed ++ line entry) (some entry.name) rest

def render (register : Register) : String :=
  renderFrom "" none register.entries

end Register

end StagedRuns
