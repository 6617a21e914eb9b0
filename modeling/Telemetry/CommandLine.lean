/-
The command line.

* `CommandLine.read` — what the arguments ask for: a command, a text to show, or nothing that
  there is;
* `Request` — a command with the path of the configuration;
* `CommandLine.help`, `CommandLine.version` — the texts to show;
* `UsageError` — why arguments ask for nothing that there is.

Design notes: options stand before or after the command, each at most once on either side, and
the later side has the last word. A value stands behind its option, or is attached to it. The
first argument that asks for help or is wrong decides, and the rest is not looked at.
-/
import Telemetry.Net.Address
import Telemetry.Text.Blank
import Telemetry.Wire.Message

namespace Telemetry

/-- What the program can be told to do. -/
inductive Job where
  | run
  | listen (bind : SocketAddr) (asJson : Bool) (count : Option Nat)
  | dumpConfig
deriving DecidableEq

/-- A command, and the path of the configuration if one is given. -/
structure Request where
  config : Option String
  job : Job
deriving DecidableEq

namespace CommandLine

/-- The name of the program. -/
def programName : String := "telemetry-pipeline"

/-- The text of the version. -/
def version : String := programName ++ " 0.1.0\n"

/-- The name of the environment variable with the path of the configuration. -/
def configVariable : String := "TELEMETRY_CONFIG"

/-- The options of the commands. -/
inductive Flag where
  | config
  | bind
  | json
  | count
  | help
  | version
deriving DecidableEq

/-- The name of an option after two hyphens. -/
def Flag.long : Flag → String
  | .config => "config"
  | .bind => "bind"
  | .json => "json"
  | .count => "count"
  | .help => "help"
  | .version => "version"

/-- The letter of an option after one hyphen. -/
def Flag.letter? : Flag → Option Char
  | .config => some 'c'
  | .bind => some 'b'
  | .json => none
  | .count => some 'n'
  | .help => some 'h'
  | .version => some 'V'

/-- The word that stands for the value of an option. -/
def Flag.valueName? : Flag → Option String
  | .config => some "CONFIG"
  | .bind => some "BIND"
  | .count => some "COUNT"
  | _ => none

/-- The address that telemetry is received on unless another is given. -/
def defaultBind : SocketAddr := ⟨.v4 0 0 0 0, Message.port⟩

/-- What an option means; `env` is the path of the configuration in the environment. -/
def Flag.meaning (env : Option String) : Flag → String
  | .config =>
    "Path to the TOML config file (defaults to the platform config directory) [env: " ++
      configVariable ++ "=" ++ env.getD "" ++ "]"
  | .bind => "Address to bind [default: " ++ defaultBind.text ++ "]"
  | .json => "Print one JSON object per datagram"
  | .count => "Stop after this many valid messages"
  | .help => "Print help"
  | .version => "Print version"

/-- Where options stand: before the command, or after one. -/
inductive Place where
  | top
  | run
  | listen
  | dumpConfig
deriving DecidableEq

/-- The options of a place, in the order of its help. -/
def Place.flags : Place → List Flag
  | .top => [.config, .help, .version]
  | .run => [.config, .help]
  | .listen => [.bind, .config, .json, .count, .help]
  | .dumpConfig => [.config, .help]

/-- The commands by name. -/
def places : List (String × Place) :=
  [("run", .run), ("listen", .listen), ("dump-config", .dumpConfig)]

/-- The command that gives help. -/
def helpName : String := "help"

/-- What a command does. -/
def Place.about : Place → String
  | .top => "Periodic sample/transform/transmit telemetry pipeline with per-task runtime statistics"
  | .run => "Start the pipeline and the statistics monitor"
  | .listen => "Receive and decode telemetry datagrams"
  | .dumpConfig => "Print the effective configuration as TOML"

/-- What the command that gives help does. -/
def helpAbout : String := "Print this message or the help of the given subcommand(s)"

/-- How a command is written. -/
def Place.usage : Place → String
  | .top => "Usage: " ++ programName ++ " [OPTIONS] <COMMAND>"
  | .run => "Usage: " ++ programName ++ " run [OPTIONS]"
  | .listen => "Usage: " ++ programName ++ " listen [OPTIONS]"
  | .dumpConfig => "Usage: " ++ programName ++ " dump-config [OPTIONS]"

/-- The width of the lines of help. -/
def helpWidth : Nat := 100

/-- Words on lines of at most `width` characters, as long as no word is longer; `line` is the
line so far. -/
def wrap (width : Nat) : String → List String → List String
  | line, [] => [line]
  | line, word :: words =>
    if line = "" then wrap width word words
    else if width < line.length + 1 + word.length then line :: wrap width word words
    else wrap width (line ++ " " ++ word) words

/-- A name and what it means in two columns. -/
def entry (nameWidth : Nat) (name meaning : String) : String :=
  let indent := String.ofList (List.replicate (nameWidth + 4) ' ')
  let lines := wrap (helpWidth - (nameWidth + 4)) "" (meaning.splitOn " ")
  "  " ++ Text.padRight nameWidth name ++ "  " ++ ("\n" ++ indent).intercalate lines

/-- An option with the word for its value. -/
def Flag.shown (f : Flag) : String :=
  "--" ++ f.long ++ (match f.valueName? with
    | some v => " <" ++ v ++ ">"
    | none => "")

/-- An option in the first column of the help. -/
def Flag.column (f : Flag) : String :=
  match f.letter? with
  | some c => "-" ++ String.singleton c ++ ", " ++ f.shown
  | none => "    " ++ f.shown

/-- A titled list of names and what they mean. -/
def listing (title : String) (entries : List (String × String)) : String :=
  let width := (entries.map fun e => e.1.length).foldl max 0
  title ++ ":\n" ++ String.join (entries.map fun e => entry width e.1 e.2 ++ "\n")

/-- The commands with what they do. -/
def commandList : String :=
  listing "Commands" (places.map (fun p => (p.1, p.2.about)) ++ [(helpName, helpAbout)])

/-- The options of a place with what they mean. -/
def optionList (env : Option String) (p : Place) : String :=
  listing "Options" (p.flags.map fun f => (f.column, f.meaning env))

/-- The help of a place. -/
def help (env : Option String) (p : Place) : String :=
  p.about ++ "\n\n" ++ p.usage ++ "\n\n" ++
    (if p = .top then commandList ++ "\n" else "") ++ optionList env p

/-- The help of the command that gives help. -/
def helpOfHelp : String :=
  helpAbout ++ "\n\nUsage: " ++ programName ++ " help [COMMAND]...\n\n" ++
    listing "Arguments" [("[COMMAND]...", "Print help for the subcommand(s)")]

/-- Why arguments ask for nothing that there is. -/
inductive UsageError where
  | nothing
  | noCommand
  | unknownCommand (name : String)
  | unexpected (arg : String)
  | valueMissing (f : Flag)
  | valueInvalid (f : Flag) (value : String)
  | valueNotTaken (f : Flag) (value : String)
  | repeated (f : Flag)
deriving DecidableEq

/-- What is said of wrong arguments. -/
def UsageError.message : UsageError → String
  | .nothing => "no arguments"
  | .noCommand => "'" ++ programName ++ "' requires a subcommand but one was not provided"
  | .unknownCommand name => "unrecognized subcommand '" ++ name ++ "'"
  | .unexpected arg => "unexpected argument '" ++ arg ++ "' found"
  | .valueMissing f => "a value is required for '" ++ f.shown ++ "' but none was supplied"
  | .valueInvalid f value => "invalid value '" ++ value ++ "' for '" ++ f.shown ++ "'"
  | .valueNotTaken f value =>
    "unexpected value '" ++ value ++ "' for '" ++ f.shown ++ "' found; no more were expected"
  | .repeated f => "the argument '" ++ f.shown ++ "' cannot be used multiple times"

/-- The report of wrong arguments; without arguments it is the help. -/
def UsageError.report (env : Option String) (e : UsageError) : String :=
  match e with
  | .nothing => help env .top
  | e =>
    "error: " ++ e.message ++ "\n\n" ++ Place.usage .top ++
      "\n\nFor more information, try '--help'.\n"

/-- What ends the reading of arguments early: a text to show, or an error. -/
inductive Stop where
  | display (text : String)
  | usage (e : UsageError)
deriving DecidableEq

/-- The options that were given, with their values. -/
abbrev Given := List (Flag × String)

/-- A natural number of sixty-four bits, a plus before it allowed. -/
def readCount? (s : String) : Option Nat :=
  let ds := match s.toList with
    | '+' :: ds => ds
    | ds => ds
  let n := Digit.number 10 ds
  if ds.isEmpty || !ds.all (Digit.isOf 10) || UInt64.size ≤ n then none else some n

/-- Whether a value is right for an option. -/
def Flag.accepts (f : Flag) (value : String) : Bool :=
  match f with
  | .config => value ≠ ""
  | .bind => (SocketAddr.parse? value).isSome
  | .count => (readCount? value).isSome
  | _ => true

/-- The options given with one more. -/
def give (given : Given) (f : Flag) (value : String) : Except Stop Given :=
  if (given.lookup f).isSome then .error (.usage (.repeated f))
  else if !f.accepts value then .error (.usage (.valueInvalid f value))
  else .ok (given ++ [(f, value)])

/-- Whether an argument is an option, and so no value of the option before it. -/
def isOption (arg : String) : Bool :=
  match arg.toList with
  | '-' :: _ :: _ => true
  | _ => false

/-- An option that takes a value, which is attached to it or is the next argument. -/
def giveValue (given : Given) (f : Flag) (attached : Option String) (rest : List String) :
    Except Stop (Given × List String) :=
  match attached, rest with
  | some value, _ => (give given f value).map (·, rest)
  | none, value :: rest =>
    if isOption value then .error (.usage (.valueMissing f))
    else (give given f value).map (·, rest)
  | none, [] => .error (.usage (.valueMissing f))

/-- An option at a place. -/
def giveFlag (env : Option String) (p : Place) (given : Given) (f : Flag)
    (attached : Option String) (rest : List String) : Except Stop (Given × List String) :=
  match f.valueName?, attached with
  | some _, _ => giveValue given f attached rest
  | none, some value => .error (.usage (.valueNotTaken f value))
  | none, none =>
    if f = .help then .error (.display (help env p))
    else if f = .version then .error (.display version)
    else (give given f "").map (·, rest)

/-- A name with a value attached to it by an equals sign, or without one. -/
def splitValue (s : String) : String × Option String :=
  let name := s.toList.takeWhile (· ≠ '=')
  match s.toList.drop name.length with
  | [] => (s, none)
  | _ :: value => (String.ofList name, some (String.ofList value))

/-- The value attached to a letter, an equals sign between them allowed. An option that takes
no value has none, whatever follows its letter. -/
def attachedTo (f : Flag) (cs : List Char) : Option String :=
  if f.valueName?.isNone then none
  else
    match cs with
    | [] => none
    | '=' :: value => some (String.ofList value)
    | value => some (String.ofList value)

/-- An argument that begins with a hyphen, and the arguments after it. -/
def readOption (env : Option String) (p : Place) (given : Given) (arg : String)
    (rest : List String) : Except Stop (Given × List String) :=
  let unexpected := Except.error (Stop.usage (.unexpected arg))
  match arg.toList with
  | '-' :: '-' :: cs =>
    let (name, attached) := splitValue (String.ofList cs)
    match p.flags.find? fun f => f.long == name with
    | some f => giveFlag env p given f attached rest
    | none => unexpected
  | '-' :: c :: cs =>
    match p.flags.find? fun f => f.letter? == some c with
    | some f => giveFlag env p given f (attachedTo f cs) rest
    | none => unexpected
  | _ => unexpected

/-- The options at the beginning of some arguments, and what follows them. Two hyphens end the
options; `bound` is the number of arguments. -/
def readOptions (env : Option String) (p : Place) : Nat → Given → List String →
    Except Stop (Given × List String)
  | 0, given, args => .ok (given, args)
  | _ + 1, given, [] => .ok (given, [])
  | bound + 1, given, arg :: rest =>
    if arg = "--" then
      match rest with
      | [] => .ok (given, [])
      | stray :: _ => .error (.usage (.unexpected stray))
    else if isOption arg then
      match readOption env p given arg rest with
      | .error stop => .error stop
      | .ok (given, rest) => readOptions env p bound given rest
    else .ok (given, arg :: rest)

/-- The help that the command for help shows. -/
def helpFor (env : Option String) : List String → Stop
  | [] => .display (help env .top)
  | [name] =>
    if name = helpName then .display helpOfHelp
    else
      match places.lookup name with
      | some p => .display (help env p)
      | none => .usage (.unknownCommand name)
  | name :: next :: _ =>
    if name = helpName || (places.lookup name).isSome then .usage (.unknownCommand next)
    else .usage (.unknownCommand name)

/-- The command of a place with the options given after it. -/
def jobOf (given : Given) : Place → Job
  | .listen =>
    .listen (((given.lookup .bind).bind SocketAddr.parse?).getD defaultBind)
      (given.lookup .json).isSome ((given.lookup .count).bind readCount?)
  | .dumpConfig => .dumpConfig
  | _ => .run

/-- The command of a place with its options, and nothing after them. -/
def readCommand (env : Option String) (before : Given) (p : Place) (args : List String) :
    Except Stop Request :=
  match readOptions env p args.length [] args with
  | .error stop => .error stop
  | .ok (_, stray :: _) => .error (.usage (.unexpected stray))
  | .ok (given, []) =>
    if env = some "" then .error (.usage (.valueMissing .config))
    else
      let config := ((given.lookup .config).or (before.lookup .config)).or env
      .ok ⟨config, jobOf given p⟩

/-- What arguments ask for; `env` is the path of the configuration in the environment. -/
def read (env : Option String) (args : List String) : Except Stop Request :=
  if args.isEmpty then .error (.usage .nothing)
  else
    match readOptions env .top args.length [] args with
    | .error stop => .error stop
    | .ok (_, []) => .error (.usage .noCommand)
    | .ok (given, name :: rest) =>
      if name = helpName then .error (helpFor env rest)
      else
        match places.lookup name with
        | some p => readCommand env given p rest
        | none => .error (.usage (.unknownCommand name))

end CommandLine

end Telemetry
