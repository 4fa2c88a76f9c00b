set_option autoImplicit false

namespace Runbook.Command

structure RunArguments where
  file : String
  values? : Option String
  settings : List String
  interactive : Bool
  quiet : Bool
  json : Bool

structure TestArguments where
  path : String
  categories : List String
  listing : Bool

inductive Request where
  | run (arguments : RunArguments)
  | check (file : String)
  | ast (file : String) (dump : Bool)
  | holes (file : String) (values? : Option String)
  | createInstance
  | test (arguments : TestArguments)

inductive Refusal where
  | usage
  | help
  | version

inductive Kind where
  | flag
  | counter
  | value
  | values
  | help
  | version
deriving DecidableEq

structure Switch where
  name : String
  letter? : Option Char
  kind : Kind

def everywhere : List Switch :=
  [⟨"no-color", none, .flag⟩, ⟨"verbose", some 'v', .counter⟩, ⟨"help", some 'h', .help⟩]

structure Given where
  flags : List String
  values : List (String × String)
  positionals : List String

def Given.none : Given := ⟨[], [], []⟩

def Given.has (given : Given) (name : String) : Bool := given.flags.contains name

def Given.value? (given : Given) (name : String) : Option String := given.values.lookup name

def Given.valuesOf (given : Given) (name : String) : List String :=
  (given.values.filter (·.1 == name)).map Prod.snd

structure Level where
  switches : List Switch
  commands : List String
  paths : Nat

inductive Outcome where
  | finished (given : Given)
  | command (given : Given) (name : String) (rest : List String)

def giveFlag (given : Given) (switch : Switch) : Except Refusal Given :=
  match switch.kind with
  | .flag =>
    if given.has switch.name then .error .usage
    else .ok { given with flags := switch.name :: given.flags }
  | .counter => .ok given
  | .help => .error .help
  | .version => .error .version
  | .value | .values => .error .usage

def giveValue (given : Given) (switch : Switch) (value : String) : Except Refusal Given :=
  match switch.kind with
  | .value =>
    if value = "" || (given.value? switch.name).isSome then .error .usage
    else .ok { given with values := given.values ++ [(switch.name, value)] }
  | .values => .ok { given with values := given.values ++ [(switch.name, value)] }
  | _ => .error .usage

def takesValue (switch : Switch) : Bool := switch.kind == .value || switch.kind == .values

def looksLikeOption : List Char → Bool
  | '-' :: _ :: _ => true
  | _ => false

def giveLetters (level : Level) (given : Given) : List Char → Except Refusal (Given × Option Switch)
  | [] => .ok (given, none)
  | letter :: rest =>
    match level.switches.find? (·.letter? == some letter) with
    | none => .error .usage
    | some switch =>
      if takesValue switch then
        match rest with
        | [] => .ok (given, some switch)
        | '=' :: value => (giveValue given switch (String.ofList value)).map (·, none)
        | value => (giveValue given switch (String.ofList value)).map (·, none)
      else
        match giveFlag given switch with
        | .error refusal => .error refusal
        | .ok given => giveLetters level given rest

def giveLong (level : Level) (given : Given) (chars : List Char) :
    Except Refusal (Given × Option Switch) :=
  let name := String.ofList (chars.takeWhile (· != '='))
  match level.switches.find? (·.name == name) with
  | none => .error .usage
  | some switch =>
    match chars.dropWhile (· != '=') with
    | [] =>
      if takesValue switch then .ok (given, some switch)
      else (giveFlag given switch).map (·, none)
    | _ :: value =>
      if takesValue switch then (giveValue given switch (String.ofList value)).map (·, none)
      else .error .usage

def givePath (level : Level) (given : Given) (path : String) : Except Refusal Given :=
  if path = "" || level.paths ≤ given.positionals.length then .error .usage
  else .ok { given with positionals := given.positionals ++ [path] }

/-- Reads the arguments of a level. `waiting?` is the switch that wants the next argument as its
value; behind a lone `--` all arguments are positional. -/
def readLevel (level : Level) :
    (given : Given) → (waiting? : Option Switch) → List String → Except Refusal Outcome
  | given, none, [] => .ok (.finished given)
  | _, some _, [] => .error .usage
  | given, waiting?, argument :: rest =>
    let chars := argument.toList
    if looksLikeOption chars then
      -- A value that looks like an option has to be attached.
      if waiting?.isSome then .error .usage
      else
        match chars with
        | ['-', '-'] => (rest.foldlM (givePath level) given).map .finished
        | '-' :: '-' :: long =>
          match giveLong level given long with
          | .error refusal => .error refusal
          | .ok (given, waiting?) => readLevel level given waiting? rest
        | _ =>
          match giveLetters level given chars.tail with
          | .error refusal => .error refusal
          | .ok (given, waiting?) => readLevel level given waiting? rest
    else
      match waiting? with
      | some switch =>
        match giveValue given switch argument with
        | .error refusal => .error refusal
        | .ok given => readLevel level given none rest
      | none =>
        if level.commands.contains argument then .ok (.command given argument rest)
        else
          match givePath level given argument with
          | .error refusal => .error refusal
          | .ok given => readLevel level given none rest

def readCommand (switches : List Switch) (paths : Nat) (arguments : List String) :
    Except Refusal Given :=
  match readLevel ⟨switches ++ everywhere, [], paths⟩ .none none arguments with
  | .error refusal => .error refusal
  | .ok (.finished given) => .ok given
  | .ok (.command _ _ _) => .error .usage

def readWithPath (switches : List Switch) (arguments : List String) :
    Except Refusal (Given × String) :=
  match readCommand switches 1 arguments with
  | .error refusal => .error refusal
  | .ok given =>
    match given.positionals with
    | path :: _ => .ok (given, path)
    | [] => .error .usage

def valuesSwitch : Switch := ⟨"values", none, .value⟩

def runRequest (arguments : List String) : Except Refusal Request := do
  let (given, file) ← readWithPath
    [valuesSwitch, ⟨"set", none, .values⟩, ⟨"interactive", some 'i', .flag⟩,
      ⟨"quiet", some 'q', .flag⟩, ⟨"json", none, .flag⟩] arguments
  return .run {
    file := file
    values? := given.value? "values"
    settings := given.valuesOf "set"
    interactive := given.has "interactive"
    quiet := given.has "quiet"
    json := given.has "json" }

def testRequest (arguments : List String) : Except Refusal Request := do
  let (given, path) ← readWithPath
    [⟨"category", some 'c', .values⟩, ⟨"list-categories", none, .flag⟩] arguments
  return .test {
    path := path
    categories := given.valuesOf "category"
    listing := given.has "list-categories" }

def commandNames : List String := ["run", "check", "ast", "holes", "create", "test", "help"]

def creationNames : List String := ["instance", "inst", "i", "help"]

def namesBelow (command : String) : List String :=
  if command = "create" then creationNames else []

def helpOn : (names : List String) → List String → Refusal
  | _, [] => .help
  | names, name :: rest => if names.contains name then helpOn (namesBelow name) rest else .usage

def createRequest (arguments : List String) : Except Refusal Request :=
  match readLevel ⟨everywhere, creationNames, 0⟩ .none none arguments with
  | .error refusal => .error refusal
  | .ok (.finished _) => .error .usage
  | .ok (.command _ "help" rest) => .error (helpOn creationNames rest)
  | .ok (.command _ _ rest) => do
    let _ ← readCommand [] 0 rest
    return .createInstance

def Request.ofArguments (arguments : List String) : Except Refusal Request :=
  match readLevel ⟨⟨"version", some 'V', .version⟩ :: everywhere, commandNames, 0⟩ .none none
    arguments with
  | .error refusal => .error refusal
  | .ok (.finished _) => .error .usage
  | .ok (.command _ name rest) =>
    match name with
    | "run" => runRequest rest
    | "check" => do
      let (_, file) ← readWithPath [] rest
      return .check file
    | "ast" => do
      let (given, file) ← readWithPath [⟨"debug", none, .flag⟩] rest
      return .ast file (given.has "debug")
    | "holes" => do
      let (given, file) ← readWithPath [valuesSwitch] rest
      return .holes file (given.value? "values")
    | "create" => createRequest rest
    | "test" => testRequest rest
    | _ => .error (helpOn commandNames rest)

end Runbook.Command
