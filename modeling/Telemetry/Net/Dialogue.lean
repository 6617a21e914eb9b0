/-
A network whose answers come from outside, one after the other.

* `Question` — what is asked of a network;
* `Dialogue` — the answers that are known, and the first question that has none;
* `Dialogue.settle` — a step with all the answers that it asks for.

Design notes: a step of the program is a function and cannot wait for an answer. It is taken
again from its beginning with one answer more, until it asks nothing that is not known. The
questions before an open one are the same each time, and so their answers are.
-/
import Telemetry.Net.Stack

namespace Telemetry

/-- What is asked of a network. -/
inductive Question where
  | bind (localIp : IpAddr)
  | allowBroadcast
  | send (destination : SocketAddr) (bytes : List UInt8)
deriving DecidableEq

/-- An answer to a question: why it cannot be done, or how many bytes were sent. -/
abbrev Answer := Except ExchangeError Nat

/-- The answers that are known, and the first question that has none. -/
structure Dialogue where
  localIp : IpAddr
  known : List Answer := []
  unanswered : Option Question := none

namespace Dialogue

/-- The answer to a question; one that is not known counts as a failure. -/
def ask (d : Dialogue) (q : Question) : Answer × Dialogue :=
  match d.known with
  | a :: rest => (a, { d with known := rest })
  | [] => (.error (.stated "no answer"), { d with unanswered := d.unanswered.or (some q) })

/-- Whether a socket can be bound. -/
def poll (d : Dialogue) : Step Dialogue Bool :=
  match d.ask (.bind d.localIp) with
  | (.ok _, d) => ⟨true, d, []⟩
  | (.error e, d) => ⟨false, d, [.networkDown d.localIp e]⟩

/-- Binds a socket, and lets it send to every host of a network if that is wanted. -/
def openSocket (d : Dialogue) (destination : SocketAddr) : Except Error Unit × Dialogue :=
  match d.ask (.bind d.localIp) with
  | (.error e, d) =>
    (.error (.context ("bind UDP socket on " ++ d.localIp.text) (.exchange e)), d)
  | (.ok _, d) =>
    if !destination.ip.isBroadcast then (.ok (), d)
    else
      match d.ask .allowBroadcast with
      | (.error e, d) =>
        (.error (.context "enable broadcast on telemetry socket" (.exchange e)), d)
      | (.ok _, d) => (.ok (), d)

instance : NetworkStack Dialogue where
  isUp := poll
  openSocket := openSocket
  send d destination bytes := d.ask (.send destination bytes)

/-- A step with all the answers that it asks for, at most so many after those that are known. -/
def settle {m : Type → Type} [Monad m] {α : Type} (answer : Question → m Answer)
    (step : List Answer → α × Dialogue) : Nat → List Answer → m α
  | 0, known => return (step known).1
  | more + 1, known => do
    let (a, d) := step known
    match d.unanswered with
    | none => return a
    | some q => settle answer step more (known ++ [← answer q])

end Dialogue

end Telemetry
