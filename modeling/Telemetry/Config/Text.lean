/-
Configurations as text.

* `Config.ofToml` — the configuration of a text, if the program can work with it;
* `Config.toTomlListing` — the text of a configuration; there is none if a number does not fit
  the notation; `Config.toToml` lists the stack budgets by name.
-/
import Telemetry.Config.Document
import Telemetry.Toml.Printer
import Telemetry.Toml.Reader

namespace Telemetry.Config

/-- The configuration of a text, if the program can work with it. -/
def ofToml (s : String) : Except Error Config :=
  match Toml.parse? s with
  | none => .error (.config "TOML syntax error")
  | some v => accept v

/-- Whether a number fits the notation, whose integers have sixty-four bits with a sign. -/
def fits (n : UInt64) : Bool := n.toNat < 9223372036854775808

/-- Whether every number of a configuration fits the notation. -/
def isWritable (c : Config) : Bool :=
  fits c.sampling.periodMs && fits c.network.readyPollMs && fits c.monitor.periodMs &&
    c.monitor.stackBudgets.entries.all fun p => fits p.2

/-- The text of a configuration with its stack budgets in the order of a listing. -/
def toTomlListing (c : Config) (listing : List (String × UInt64)) : Except Error String :=
  if c.isWritable then .ok (Toml.print (c.documentListing listing))
  else .error (.config "Failed to serialize config: out-of-range value for u64 type")

/-- The text of a configuration, its stack budgets in the order of their names. -/
def toToml (c : Config) : Except Error String := c.toTomlListing c.monitor.stackBudgets.entries

end Telemetry.Config
