import BenchCharts.Config.Load

namespace BenchCharts.Cli

inductive Command where
  | list (source : Source)
  | plot (source : Source) (plotDir : Option String)
  | print (source : Source) (json : Bool)

structure Invocation where
  log : List String
  command : Command

structure Flag where
  long : String
  short : Option Char := none
  takesValue : Bool := true
  emptyAllowed : Bool := true
  repeatable : Bool := false

def logFlag : Flag := { long := "log", short := some 'l', repeatable := true }
def sourceFlags : List Flag := [
  { long := "config-file", short := some 'c' }, { long := "data-dir", emptyAllowed := false }, { long := "only" }]
def plotDirFlag : Flag := { long := "plot-dir", emptyAllowed := false }
def jsonFlag : Flag := { long := "json", takesValue := false }

abbrev Setting := Flag × String

-- A separate value may not look like an option; a single dash does not.
def isValue (arg : String) : Bool := !arg.startsWith "-" || arg == "-"

def accept? (flag : Flag) (value : String) (rest : List String) : Option (Setting × List String) :=
  if value.isEmpty && !flag.emptyAllowed then none else some ((flag, value), rest)

def valued? (flag : Flag) (attached : Option String) (rest : List String) : Option (Setting × List String) :=
  if !flag.takesValue then (if attached.isSome then none else some ((flag, ""), rest))
  else
    match attached, rest with
    | some value, _ => accept? flag value rest
    | none, value :: rest => if isValue value then accept? flag value rest else none
    | none, [] => none

def splitEquals (cs : List Char) : String × Option String :=
  let name := cs.takeWhile (· != '=')
  match cs.dropWhile (· != '=') with
  | [] => (.ofList name, none)
  | _ :: value => (.ofList name, some (.ofList value))

-- A short option may carry its value without an equals sign.
def option? (flags : List Flag) (arg : List Char) (rest : List String) : Option (Setting × List String) :=
  match arg with
  | '-' :: '-' :: long =>
    let (name, value) := splitEquals long
    match flags.find? (·.long == name) with
    | some flag => valued? flag value rest
    | none => none
  | '-' :: short :: tail =>
    match flags.find? (·.short == some short) with
    | some flag =>
      let attached := match tail with
        | [] => none
        | '=' :: value => some (String.ofList value)
        | value => some (String.ofList value)
      valued? flag attached rest
    | none => none
  | _ => none

def isOption (arg : String) : Bool := arg.startsWith "-" && arg != "-" && arg != "--"

def options? (flags : List Flag) : Nat → List String → Option (List Setting × List String)
  | 0, args => some ([], args)
  | fuel + 1, args =>
    match args with
    | arg :: rest =>
      if isOption arg then do
        let (setting, rest) ← option? flags arg.toList rest
        let (settings, rest) ← options? flags fuel rest
        return (setting :: settings, rest)
      else some ([], args)
    | [] => some ([], [])

def valuesOf (flag : Flag) (settings : List Setting) : List String :=
  (settings.filter (·.1.long == flag.long)).map (·.2)

def valueOf? (long : String) (settings : List Setting) : Option String :=
  (settings.find? (·.1.long == long)).map (·.2)

def noneRepeated (flags : List Flag) (settings : List Setting) : Bool :=
  flags.all fun flag => flag.repeatable || (valuesOf flag settings).length ≤ 1

def settings? (flags : List Flag) (args : List String) : Option (List Setting) := do
  let (settings, rest) ← options? flags args.length args
  guard (rest.isEmpty || rest == ["--"])
  guard (noneRepeated flags settings)
  return settings

def sourceOf (settings : List Setting) : Source where
  configFile := (valueOf? "config-file" settings).getD ({} : Source).configFile
  dataDir := valueOf? "data-dir" settings
  only := valueOf? "only" settings

def command? (name : String) (args : List String) : Option Command :=
  if name = "ls" then do
    return .list (sourceOf (← settings? sourceFlags args))
  else if name = "plot" then do
    let settings ← settings? (plotDirFlag :: sourceFlags) args
    return .plot (sourceOf settings) (valueOf? "plot-dir" settings)
  else if name = "print" then do
    let settings ← settings? (jsonFlag :: sourceFlags) args
    return .print (sourceOf settings) (valueOf? "json" settings).isSome
  else none

def Invocation.parse? (args : List String) : Option Invocation := do
  let (log, rest) ← options? [logFlag] args.length args
  match rest with
  | name :: args => return ⟨valuesOf logFlag log, ← command? name args⟩
  | [] => none

end BenchCharts.Cli
