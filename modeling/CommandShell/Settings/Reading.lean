import CommandShell.Files.Operation
import CommandShell.Settings.Basic
import CommandShell.Settings.EnvironmentFile

/-!
# Reading the settings

A setting takes the first value found for it: one given in the call, the environment, the environment file,
the default. Variables carry the name of their setting behind a common beginning, and the case of their
letters does not matter. Every setting is tried before the faults are reported; a level that does not exist is
found out last.
-/

namespace CommandShell.Settings

/-- Why there are no settings. -/
inductive Refusal where
  /-- The settings whose values do not suit them, in order. -/
  | unsuitable (faults : List (Field × ValueFault))
  | unknownLevel (name : String)
deriving DecidableEq, Repr

/-- Where values come from. -/
structure Sources where
  given : List (String × Value)
  environment : Environment
  /-- The variables of the environment file. -/
  file : List (String × Option String)
deriving DecidableEq, Repr

/-- The beginning of every variable's name. -/
def variablePrefix : String := "myshell_"

/-- A name without the case of its letters. -/
def withoutCase (s : String) : String := String.ofList (s.toList.map Char.toLower)

/-- The last value of a variable, whatever the case of its name. -/
def lastValue? (name : String) (bindings : List (String × Option String)) : Option String :=
  match (bindings.filter fun v => withoutCase v.1 = name).getLast? with
  | some (_, value) => value
  | none => none

/-- The value found for a setting. -/
def Sources.value? (sources : Sources) (field : Field) : Option Value :=
  let name := variablePrefix ++ field.name
  match sources.given.lookup field.name with
  | some value => some value
  | none =>
    match lastValue? name (sources.environment.bindings.map fun (n, v) => (n, some v)) with
    | some s => some (.text s)
    | none => (lastValue? name sources.file).map .text

/-- Gives settings their values, one after another; a setting that refuses its value keeps what it had. -/
def assignAll (sources : Sources) : Settings → List Field → Settings × List (Field × ValueFault)
  | settings, [] => (settings, [])
  | settings, field :: rest =>
    match sources.value? field with
    | none => assignAll sources settings rest
    | some value =>
      match settings.assign field value with
      | .ok assigned => assignAll sources assigned rest
      | .error fault =>
        let (last, faults) := assignAll sources settings rest
        (last, (field, fault) :: faults)

/-- The levels of the log. -/
def levels : List String := ["TRACE", "DEBUG", "INFO", "SUCCESS", "WARNING", "ERROR", "CRITICAL"]

/-- The level that settings ask for; where they say nothing, the environment decides. -/
def effectiveLevel (settings : Settings) (env : Environment) : String :=
  let given := settings.logLevel
  Text.upper (if given.isEmpty then (env.find? "MYSHELL_LOG_LEVEL").getD "WARNING" else given)

/-- Reads the settings, given where the history is kept by default. -/
def read (sources : Sources) (historyFile : Path) : Except Refusal Settings :=
  match assignAll sources (default historyFile) Field.all with
  | (settings, []) =>
    let level := effectiveLevel settings sources.environment
    if levels.contains level then .ok settings else .error (.unknownLevel level)
  | (_, faults) => .error (.unsuitable faults)

/-- Why settings could not be read with the environment file. -/
inductive ReadFault where
  | refused (refusal : Refusal)
  | system (fault : SystemFault)
  /-- The environment file holds octets that are no text. -/
  | undecodable
deriving DecidableEq, Repr

/-- The name of the environment file. -/
def environmentFile : String := ".env"

/-- The variables of the environment file in the working directory; without a file there are none. -/
def fileVariables (env : Environment) (files : Files) : Except ReadFault (List (String × Option String)) :=
  match files.isFile environmentFile with
  | .error fault => .error (.system fault)
  | .ok false => .ok []
  | .ok true =>
    match files.read environmentFile with
    | .error (.system fault) => .error (.system fault)
    | .error .embeddedNull => .ok []
    | .ok bytes =>
      match Text.decode? bytes with
      | some text => .ok (EnvironmentFile.definitions env text)
      | none => .error .undecodable

/-- Reads the settings with the environment file in the working directory. -/
def readWithFile (given : List (String × Value)) (env : Environment) (files : Files) (historyFile : Path) :
    Except ReadFault Settings := do
  let file ← fileVariables env files
  (read ⟨given, env, file⟩ historyFile).mapError .refused

/-- What is said of a level that does not exist. -/
def unknownLevelText (name : String) : String := "Level '" ++ name ++ "' does not exist"

end CommandShell.Settings
