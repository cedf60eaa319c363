/-
`CommandLine.lean` -- what the arguments of a run say.

There are options that take a value, options that do not, and nothing else: the
program has no positional arguments, so a word on its own is a mistake. The value of
an option is attached to its name with an equals sign, or it is the next argument,
which then must not look like an option itself. No option is given twice.

Arguments are read from left to right, and the first that is wrong ends the reading,
as does a request for help or for the version. So a request that comes before a
mistake is granted.
-/

set_option autoImplicit false

namespace FlowTriad

/-- How the summary is printed. -/
inductive SummaryFormat where
  /-- To be read. -/
  | text
  /-- To be processed. -/
  | json
  deriving DecidableEq, Repr

/-- The name of a format. -/
def SummaryFormat.name : SummaryFormat → String
  | .text => "text"
  | .json => "json"

/-- The format of a name. -/
def SummaryFormat.ofName? (s : String) : Option SummaryFormat :=
  [text, json].find? (·.name == s)

/-- The options of a run. -/
structure Options where
  /-- The capture with the kernel's measurements. -/
  kernelPath : String := "fireflies.jsonl"
  /-- The capture with the probe's measurements. -/
  probePath : String := kernelPath
  /-- The generator's report. -/
  generatorPath : String := "iperf3.json"
  /-- What the paths of all output files begin with. -/
  stem : String := "plots/def-"
  /-- The congestion algorithm, for the titles of charts. -/
  algorithm : Option String := none
  /-- The configuration. -/
  settingsPath : Option String := none
  /-- Whether the points of each variable are exported. -/
  tables : Bool := false
  format : SummaryFormat := .text
  /-- Whether the run tells all that it does. -/
  verbose : Bool := false
  deriving DecidableEq, Repr

/-- What the arguments ask for. -/
inductive Invocation where
  | run (options : Options)
  | help
  | version
  deriving DecidableEq, Repr

/-! ## 1. Names -/

/-- An option that takes a value. -/
inductive ValueOption where
  | kernelPath
  | probePath
  | generatorPath
  | stem
  | algorithm
  | settingsPath
  | format
  deriving DecidableEq, Repr

namespace ValueOption

/-- All options that take a value. -/
def all : List ValueOption :=
  [kernelPath, probePath, generatorPath, stem, algorithm, settingsPath, format]

/-- The name of the option, without its dashes. -/
def name : ValueOption → String
  | kernelPath => "firefly-path"
  | probePath => "skops-path"
  | generatorPath => "iperf3-path"
  | stem => "prefix"
  | algorithm => "cong-alg"
  | settingsPath => "config"
  | format => "format"

/-- Whether the option accepts a value: a path is not empty, and a format is one of
those there are. -/
def accepts (o : ValueOption) (value : String) : Bool :=
  match o with
  | kernelPath | probePath | generatorPath | settingsPath => !value.isEmpty
  | stem | algorithm => true
  | format => (SummaryFormat.ofName? value).isSome

end ValueOption

/-- An option without a value. -/
inductive Flag where
  | tables
  | verbose
  deriving DecidableEq, Repr

/-- The name of the flag, without its dashes. -/
def Flag.name : Flag → String
  | tables => "csv"
  | verbose => "debug"

/-- What a name asks for. -/
inductive Meaning where
  | value (o : ValueOption)
  | flag (f : Flag)
  | help
  | version

/-- What a name asks for, if it is one. -/
def Meaning.ofName? (name : String) : Option Meaning :=
  match ValueOption.all.find? (·.name == name) with
  | some o => some (.value o)
  | none =>
      match [Flag.tables, Flag.verbose].find? (·.name == name) with
      | some f => some (.flag f)
      | none =>
          if name = "help" then some .help else if name = "version" then some .version else none

/-! ## 2. One argument -/

/-- Why arguments are refused. -/
inductive UsageFault where
  /-- An argument has no meaning where it stands. -/
  | unexpected (argument : String)
  | missingValue (name : String)
  | badValue (name value : String)
  /-- A flag has a value. -/
  | needlessValue (name : String)
  | repeated (name : String)
  deriving DecidableEq, Repr

/-- The reason in words. -/
def UsageFault.message : UsageFault → String
  | .unexpected a => "unexpected argument '" ++ a ++ "'"
  | .missingValue n => "a value is required for '--" ++ n ++ "'"
  | .badValue n v => "invalid value '" ++ v ++ "' for '--" ++ n ++ "'"
  | .needlessValue n => "'--" ++ n ++ "' takes no value"
  | .repeated n => "'--" ++ n ++ "' cannot be used more than once"

/-- The shape of an argument. -/
inductive Argument where
  /-- Two dashes, after which nothing is an option. -/
  | separator
  /-- Two dashes and a name, perhaps with a value attached. -/
  | long (name : String) (value : Option String)
  /-- One dash and a letter, with whatever comes after it. -/
  | short (letter : Char)
  /-- Anything else, also a single dash. -/
  | word
  deriving DecidableEq, Repr

/-- The shape of an argument. -/
def Argument.of (arg : String) : Argument :=
  match arg.toList with
  | ['-', '-'] => .separator
  | '-' :: '-' :: cs =>
      let name := cs.takeWhile (· != '=')
      let value := match cs.drop name.length with
        | _ :: v => some (String.ofList v)
        | [] => none
      .long (String.ofList name) value
  | '-' :: c :: _ => .short c
  | _ => .word

/-! ## 3. All arguments -/

/-- The options given so far. -/
structure Given where
  values : List (ValueOption × String)
  flags : List Flag
  deriving DecidableEq, Repr

namespace Given

/-- The options with the value of one more. -/
def addValue (g : Given) (o : ValueOption) (v : String) : Except UsageFault Given :=
  if !o.accepts v then .error (.badValue o.name v)
  else if (g.values.lookup o).isSome then .error (.repeated o.name)
  else .ok { g with values := (o, v) :: g.values }

/-- The options with one more flag. -/
def addFlag (g : Given) (f : Flag) : Except UsageFault Given :=
  if f ∈ g.flags then .error (.repeated f.name) else .ok { g with flags := f :: g.flags }

/-- The options of the run. What is not given has its default, which for the probe's
capture is the kernel's. -/
def options (g : Given) : Options :=
  let usual : Options := {}
  let value (o : ValueOption) := g.values.lookup o
  let kernelPath := (value .kernelPath).getD usual.kernelPath
  { kernelPath
    probePath := (value .probePath).getD kernelPath
    generatorPath := (value .generatorPath).getD usual.generatorPath
    stem := (value .stem).getD usual.stem
    algorithm := value .algorithm
    settingsPath := value .settingsPath
    tables := .tables ∈ g.flags
    format := ((value .format).bind SummaryFormat.ofName?).getD usual.format
    verbose := .verbose ∈ g.flags }

/-- Reads arguments, after the options given so far. -/
def read (g : Given) : List String → Except UsageFault Invocation
  | [] => .ok (.run g.options)
  | arg :: rest =>
      match Argument.of arg with
      | .separator =>
          match rest with
          | [] => .ok (.run g.options)
          | a :: _ => .error (.unexpected a)
      | .long name attached =>
          match Meaning.ofName? name, attached with
          | none, _ => .error (.unexpected arg)
          | some (.value o), some v => do
              let g ← g.addValue o v
              g.read rest
          | some (.value o), none =>
              match rest with
              | [] => .error (.missingValue name)
              | v :: rest =>
                  if Argument.of v = .word then do
                    let g ← g.addValue o v
                    g.read rest
                  else .error (.missingValue name)
          | some (.flag f), none => do
              let g ← g.addFlag f
              g.read rest
          | some .help, none => .ok .help
          | some .version, none => .ok .version
          | some _, some _ => .error (.needlessValue name)
      | .short 'h' => .ok .help
      | .short 'V' => .ok .version
      | .short _ => .error (.unexpected arg)
      | .word => .error (.unexpected arg)

end Given

/-- What a list of arguments asks for. -/
def Invocation.ofArguments (args : List String) : Except UsageFault Invocation :=
  Given.read ⟨[], []⟩ args

end FlowTriad
