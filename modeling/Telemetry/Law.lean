/-
The laws that turn a sample into a command.

* `ScriptLaw.compile` — a script as a law, if it is a program and has a command for the
  smallest sample, for zero and for the largest;
* `ScriptLaw.eval` — the command of a script for a sample;
* `ControlLaw.ofSource` — the law of a configuration: a script, or else inversion;
* `builtinLaws` — scripts that are ready to use.

Design notes: a script knows one variable, the sample, and cannot change it. Its value
becomes a command by rounding and clamping, so a law never wraps; a value that is no
number, or not a number, is a failure and never a command.
-/
import Telemetry.Notice
import Telemetry.Script.Eval
import Telemetry.Script.Parser
import Telemetry.Script.Simplify

namespace Telemetry

/-- Why a law has no command for a sample. -/
inductive LawFailure where
  | fault (f : Script.Fault)
  | notANumber
  | notNumeric (typeName : String)

/-- The text of a failure. -/
def LawFailure.message : LawFailure → String
  | .fault f => f.message
  | .notANumber => "Script returned NaN"
  | .notNumeric t => "Script must return a number, got " ++ t

/-- A failure where it crosses to another part of the program. -/
def LawFailure.error (f : LawFailure) : Error := .script f.message

/-- Why a text is no law. -/
inductive LawRefusal where
  | noProgram
  | failedProbe (probe : Sample) (f : LawFailure)

/-- The text of a refusal. -/
def LawRefusal.message : LawRefusal → String
  | .noProgram => "Compilation error"
  | .failedProbe probe f =>
    "Validation failed for sample " ++ toString probe.toInt ++ ": " ++ f.error.message

/-- A refusal where it crosses to another part of the program. -/
def LawRefusal.error (r : LawRefusal) : Error := .script r.message

/-- A law that is a script. -/
structure ScriptLaw where
  source : String
  program : Script.Program

namespace ScriptLaw

/-- The name of the only variable that a script begins with. -/
def sampleVariable : String := "sample"

/-- The samples for which a script must have a command. -/
def probes : List Sample := [Int16.minValue, 0, Int16.maxValue]

/-- The command that a floating point number means: the nearest, a half away from zero. -/
def commandOfFloat (x : Float) : Except LawFailure Command :=
  if x.isNaN then .error .notANumber else .ok x.round.toInt16

/-- The command that a value means. -/
def commandOf : Script.Value → Except LawFailure Command
  | .int i => .ok (Command.clamp i.toInt)
  | .float x => commandOfFloat x
  | v => .error (.notNumeric (match v with
    | .text _ => "string"
    | v => v.typeName))

/-- The variables that a script begins with. -/
def scope (s : Sample) : List Script.Variable :=
  [{ name := sampleVariable, value := .int s.toInt64, constant := true }]

/-- The command of a program for a sample. -/
def commandFor (p : Script.Program) (s : Sample) : Except LawFailure Command :=
  match p.value (scope s) with
  | .ok v => commandOf v
  | .error f => .error (.fault f)

/-- The command of a script for a sample. -/
def eval (law : ScriptLaw) (s : Sample) : Except LawFailure Command :=
  commandFor law.program s

/-- The first of some samples for which a program has no command. -/
def refusal? (p : Script.Program) : List Sample → Option LawRefusal
  | [] => none
  | s :: rest =>
    match commandFor p s with
    | .ok _ => refusal? p rest
    | .error f => some (.failedProbe s f)

/-- A script as a law. -/
def compile (source : String) : Except LawRefusal ScriptLaw :=
  match Script.Program.parse? source with
  | none => .error .noProgram
  | some p =>
    let program := p.simplify
    match refusal? program probes with
    | some r => .error r
    | none => .ok ⟨source, program⟩

end ScriptLaw

/-- A law. -/
inductive ControlLaw where
  | invert
  | script (law : ScriptLaw)

namespace ControlLaw

/-- The law of a script, with the notice that it has been compiled. -/
def ofScript (source : String) : Except LawRefusal ControlLaw × List Notice :=
  match ScriptLaw.compile source with
  | .ok law => (.ok (.script law), [.lawCompiled (Text.trim source)])
  | .error r => (.error r, [])

/-- The law of a configuration: inversion, unless there is a script that is not blank. -/
def ofSource : Option String → Except LawRefusal ControlLaw × List Notice
  | none => (.ok .invert, [])
  | some source =>
    if Text.isBlankText source then (.ok .invert, []) else ofScript source

/-- The command of a law for a sample. -/
def command : ControlLaw → Sample → Except LawFailure Command
  | .invert, s => .ok (Telemetry.invert s)
  | .script law, s => law.eval s

/-- A law in words. -/
def description : ControlLaw → String
  | .invert => "invert"
  | .script law => law.source

/-- The command of a law as a stage of the pipeline takes it. -/
def forStage (law : ControlLaw) (s : Sample) : Except Error Command :=
  match law.command s with
  | .ok c => .ok c
  | .error f => .error f.error

end ControlLaw

/-- The script that is the same law as inversion. -/
def invertLaw : String := "invert(sample)"

/-- Scripts that are ready to use, with their names. -/
def builtinLaws : List (String × String) :=
  [("Invert", invertLaw),
    ("Half gain", "-sample / 2"),
    ("Deadband 16", "invert(deadband(sample, 16))"),
    ("Duty (permille)", "map_range(sample.to_float(), -32768.0, 32767.0, 0.0, 1000.0)")]

end Telemetry
