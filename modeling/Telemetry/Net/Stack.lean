/-
Network stacks: what the transmit stage needs of a network, and two networks.

* `NetworkStack` — readiness, opening a socket, and sending one datagram;
* `ScriptedNetwork` — up after a chosen number of polls, fails chosen attempts and
  records what was sent;
* `Host` — what an operating system answers to binding and sending, with
  `Host.isolated` for a machine without any interface up;
* `HostNetwork` — the stack of a host, bound to one of its addresses.
-/
import Telemetry.Notice

namespace Telemetry

/-- What the transmit stage needs of a network. -/
class NetworkStack (ν : Type) where
  /-- Whether a socket could be opened now. -/
  isUp : ν → Step ν Bool
  /-- Opens a socket that sends to one destination. -/
  openSocket : ν → SocketAddr → Except Error Unit × ν
  /-- Sends one datagram to the destination of an open socket. -/
  send : ν → SocketAddr → List UInt8 → Except ExchangeError Nat × ν

/-- A network that follows a script and records what happens. -/
structure ScriptedNetwork where
  upAfter : Nat := 0
  failAttempts : List Nat := []
  polls : Nat := 0
  attempts : Nat := 0
  datagrams : List (List UInt8) := []

namespace ScriptedNetwork

/-- A network that is up after `upAfter` polls and fails the sends numbered, from
one, in `failAttempts`. -/
def create (upAfter : Nat) (failAttempts : List Nat) : ScriptedNetwork :=
  ⟨upAfter, failAttempts, 0, 0, []⟩

/-- Records a send attempt and the datagram, unless the attempt is one to fail. -/
def record (n : ScriptedNetwork) (bytes : List UInt8) :
    Except ExchangeError Nat × ScriptedNetwork :=
  let attempt := n.attempts + 1
  if attempt ∈ n.failAttempts then
    (.error (.scripted attempt), { n with attempts := attempt })
  else
    (.ok bytes.length, { n with attempts := attempt, datagrams := n.datagrams ++ [bytes] })

instance : NetworkStack ScriptedNetwork where
  isUp n := ⟨n.upAfter ≤ n.polls, { n with polls := n.polls + 1 }, []⟩
  openSocket n _ := (.ok (), n)
  send n _ bytes := n.record bytes

end ScriptedNetwork

/-- What an operating system answers to a socket. -/
structure Host where
  /-- Binding a datagram socket to a local address. -/
  bind : IpAddr → Except OsError Unit
  /-- Sending from a socket bound to the first address to the second. -/
  send : IpAddr → SocketAddr → List UInt8 → Except OsError Nat

namespace Host

/-- Whether an address is of version 4. -/
def isV4 : IpAddr → Bool
  | .v4 .. => true
  | .v6 _ => false

/-- A host without any interface up: a socket can be bound to any address of
version 4, and to the unspecified one of version 6, but nothing can be sent. -/
def isolated : Host where
  bind ip :=
    match ip with
    | .v4 .. => .ok ()
    | .v6 groups => if groups.toList.all (· == 0) then .ok () else .error .addressNotAvailable
  send source destination _ :=
    if destination.port = 0 then .error .invalidArgument
    else if isV4 source && !isV4 destination.ip then .error .familyNotSupported
    else .error .networkUnreachable

end Host

/-- The stack of a host, bound to one local address. -/
structure HostNetwork where
  host : Host
  localIp : IpAddr
  bound : Bool := false

namespace HostNetwork

/-- A stack that has bound nothing yet. -/
def create (host : Host) (localIp : IpAddr) : HostNetwork := ⟨host, localIp, false⟩

/-- Whether a socket is bound or can be bound now; it is then kept. -/
def poll (n : HostNetwork) : Step HostNetwork Bool :=
  if n.bound then ⟨true, n, []⟩
  else
    match n.host.bind n.localIp with
    | .ok () => ⟨true, { n with bound := true }, []⟩
    | .error e => ⟨false, n, [.networkDown n.localIp (.os e)]⟩

/-- Hands out the bound socket, or binds one. -/
def openSocket (n : HostNetwork) : Except Error Unit × HostNetwork :=
  if n.bound then (.ok (), { n with bound := false })
  else
    match n.host.bind n.localIp with
    | .ok () => (.ok (), n)
    | .error e =>
      (.error (.context ("bind UDP socket on " ++ n.localIp.text) (.exchange (.os e))), n)

instance : NetworkStack HostNetwork where
  isUp := poll
  openSocket n _ := n.openSocket
  send n destination bytes :=
    match n.host.send n.localIp destination bytes with
    | .ok sent => (.ok sent, n)
    | .error e => (.error (.os e), n)

end HostNetwork

end Telemetry
