/-
The program.

* `main` — reads the arguments and the environment, and does what they ask for.

Design notes: everything that is decided is decided elsewhere. What is here reads files, clocks
and sockets, and prints.
-/
import Std.Internal.UV.UDP
import Std.Time.Format
import Std.Time.Zoned
import Telemetry.Net.Dialogue
import Telemetry.Program
import Telemetry.Wire.Listener

namespace Telemetry.Main

open Std.Internal.UV.UDP (Socket)

/-- The number that the operating system gives to an error, or zero. -/
def numberOf : IO.Error → Nat
  | .alreadyExists _ n _ => n.toNat
  | .otherError n _ => n.toNat
  | .resourceBusy n _ => n.toNat
  | .resourceVanished n _ => n.toNat
  | .unsupportedOperation n _ => n.toNat
  | .hardwareFault n _ => n.toNat
  | .unsatisfiedConstraints n _ => n.toNat
  | .illegalOperation n _ => n.toNat
  | .protocolError n _ => n.toNat
  | .timeExpired n _ => n.toNat
  | .interrupted _ n _ => n.toNat
  | .noFileOrDirectory _ n _ => n.toNat
  | .invalidArgument _ n _ => n.toNat
  | .permissionDenied _ n _ => n.toNat
  | .resourceExhausted _ n _ => n.toNat
  | .inappropriateType _ n _ => n.toNat
  | .noSuchThing _ n _ => n.toNat
  | .unexpectedEof => 0
  | .userError _ => 0

/-- What an action gives, or why it fails. -/
def attempt {α : Type} (act : IO α) : IO (Except ExchangeError α) := do
  match ← act.toBaseIO with
  | .ok a => return .ok a
  | .error e =>
    match OsError.ofNumber? (numberOf e) with
    | some known => return .error (.os known)
    | none => return .error (.stated (toString e))

instance : FileStore IO where
  isThere path := do
    let found ← attempt (IO.FS.realPath path)
    return found.isOk
  readText path := do
    match ← attempt (IO.FS.readBinFile path) with
    | .error e => return .error e
    | .ok bytes => return (String.fromUTF8? bytes).elim (.error .notUtf8) .ok
  makeFolders path := attempt (IO.FS.createDirAll path)
  writeText path s := attempt (IO.FS.writeFile path s)

/-- An address for a socket. -/
def outward : SocketAddr → Std.Net.SocketAddress
  | ⟨.v4 a b c d, port⟩ => .v4 ⟨⟨#v[a, b, c, d]⟩, port⟩
  | ⟨.v6 groups, port⟩ => .v6 ⟨⟨groups⟩, port⟩

/-- An address from a socket. -/
def inward : Std.Net.SocketAddress → SocketAddr
  | .v4 ⟨⟨octets⟩, port⟩ => ⟨.v4 octets[0] octets[1] octets[2] octets[3], port⟩
  | .v6 ⟨⟨segments⟩, port⟩ => ⟨.v6 segments, port⟩

/-- What a promise is kept with. -/
def awaited {α : Type} (promise : IO.Promise (Except IO.Error α)) : IO α := do
  match ← IO.wait promise.result? with
  | some (.ok a) => return a
  | some (.error e) => throw e
  | none => throw (IO.userError "the exchange was given up")

/-- A new socket at an address. -/
def bound (address : SocketAddr) : IO Socket := do
  let socket ← Socket.new
  socket.bind (outward address)
  return socket

/-- Does something with the socket that is kept. -/
def withSocket (kept : IO.Ref (Option Socket)) (act : Socket → IO Nat) : IO Answer := do
  match ← kept.get with
  | none => return .error (.stated "socket not bound")
  | some socket => attempt (act socket)

/-- Answers a question with a socket that is kept once it is bound. -/
def answer (kept : IO.Ref (Option Socket)) : Question → IO Answer
  | .bind ip => do
    match ← kept.get with
    | some _ => return .ok 0
    | none => attempt do
      kept.set (some (← bound ⟨ip, 0⟩))
      return 0
  | .allowBroadcast => withSocket kept fun socket => do
    socket.setBroadcast true
    return 0
  | .send destination bytes => withSocket kept fun socket => do
    let _ ← awaited (← socket.send #[ByteArray.mk bytes.toArray] (some (outward destination)))
    return bytes.length

/-- Prints a notice, and adds it to the log file of the day if there is one. -/
def log (file : Option String) (n : Notice) : IO Unit := do
  if n.level ≠ .trace then
    let now ← Std.Time.DateTime.now
    let line := n.line (now.format "uuuu-MM-dd'T'HH:mm:ss.SSSSSSxxx")
    IO.println line
    match file with
    | none => return ()
    | some path =>
      let _ ← attempt do
        let handle ← IO.FS.Handle.mk (path ++ "." ++ now.format "uuuu-MM-dd") .append
        handle.putStrLn line

/-- Says why the program cannot go on. -/
def complain (f : Failure) (code : UInt32) : IO UInt32 := do
  IO.eprint f.report
  return code

/-- The exit code of a program that has been aborted. -/
def abortCode : UInt32 := 134

/-- How many questions a step of the program may ask. -/
def questionBound : Nat := 64

/-- Does what is due, and waits for what is due next, as long as nothing fails. -/
partial def keepOn (kept : IO.Ref (Option Socket)) (c : Config) (r : Service Dialogue) :
    IO UInt32 := do
  let ahead := r.nextEvent - Int.ofNat (← IO.monoNanosNow)
  IO.sleep (UInt32.ofNat ((ahead.toNat + 999999) / 1000000))
  let now := Int.ofNat (← IO.monoNanosNow)
  let step ← Dialogue.settle (answer kept) (fun known =>
    let network : Dialogue := ⟨c.network.localIp, known, none⟩
    let step := { r with pipeline := { r.pipeline with network := network } }.advance now
    (step, step.state.pipeline.network)) questionBound []
  step.notices.forM (log c.logging.file)
  match step.answer with
  | .error e => complain (Failure.ofError e) (if e.isFatal then abortCode else 1)
  | .ok () => keepOn kept c { step.state with records := { step.state.records with queue := [] } }

/-- Runs the pipeline of a configuration. -/
def run (c : Config) : IO UInt32 := do
  let now := Int.ofNat (← IO.monoNanosNow)
  let (launched, notices) := Program.launch c (⟨c.network.localIp, [], none⟩ : Dialogue) now
  notices.forM (log c.logging.file)
  match launched with
  | .error f => complain f 1
  | .ok r => keepOn (← IO.mkRef none) c r

/-- Prints an event, as an object or as a line. -/
def display (asJson : Bool) (e : Listener.Event) : IO Unit := do
  let now ← Std.Time.DateTime.now
  if asJson then IO.println (e.json (now.format "uuuu-MM-dd'T'HH:mm:ss.SSSSSSSSSxxx"))
  else
    match e.line (now.format "HH:mm:ss.SSS") with
    | some line => IO.println line
    | none => return ()

/-- Prints what arrives until there are enough messages; `received` have been before. -/
partial def hear (socket : Socket) (asJson : Bool) (count : Option Nat) (received : Nat)
    (t : Tracker) : IO Unit := do
  if count = some received then log none (.received received t.missing)
  else
    let (bytes, sender) ← awaited (← socket.recv 65535)
    let source := (sender.map inward).getD ⟨.loopback, 0⟩
    let step := Listener.receive t source bytes.toList
    step.notices.forM (log none)
    display asJson step.answer
    hear socket asJson count (if step.answer.isMessage then received + 1 else received) step.state

/-- Listens on an address. -/
def listen (address : SocketAddr) (asJson : Bool) (count : Option Nat) : IO UInt32 := do
  match ← attempt (bound address) with
  | .error e =>
    complain (Failure.ofError (.context ("bind " ++ address.text) (.exchange e))) 1
  | .ok socket =>
    log none (.listening address)
    hear socket asJson count 0 {}
    return 0

/-- Does what a plan says. -/
def carryOut : Plan → IO UInt32
  | .print text => do
    IO.print text
    return 0
  | .run c => run c
  | .listen address asJson count => listen address asJson count

/-- Does what is requested. -/
def serve (r : Request) : IO UInt32 := do
  let folder := Config.folder? (← IO.getEnv "XDG_CONFIG_HOME") (← IO.getEnv "HOME")
  let (plan, _) ← Program.prepare r folder
  match plan with
  | .error f => complain f 1
  | .ok plan => carryOut plan

/-- Does what arguments ask for. -/
def start (args : List String) : IO UInt32 := do
  let env ← IO.getEnv CommandLine.configVariable
  match CommandLine.read env args with
  | .error (.display text) => do
    IO.print text
    return 0
  | .error (.usage e) => do
    IO.eprint (e.report env)
    return 2
  | .ok r => serve r

end Telemetry.Main

/-- The program; it gives the exit code. -/
def main (args : List String) : IO UInt32 := Telemetry.Main.start args
