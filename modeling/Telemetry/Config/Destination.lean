/-
Where telemetry goes.

* `Destination.ofText?` — the word `broadcast`, in letters of either case, or an address;
* `Destination.text` — the way back;
* `Destination.resolve` — the address that a destination means for a host.
-/
import Telemetry.Net.Address

namespace Telemetry

/-- Every host of the local network, or one address. -/
inductive Destination where
  | broadcast
  | address (ip : IpAddr)
deriving DecidableEq

namespace Destination

/-- This host, where no destination is given. -/
def standard : Destination := .address .loopback

/-- The word that stands for every host of the local network. -/
def broadcastWord : String := "broadcast"

/-- Whether two texts differ at most in the case of the letters from A to Z. -/
def sameWord (a b : String) : Bool := a.toList.map Char.toLower == b.toList.map Char.toLower

/-- The destination that a text stands for. -/
def ofText? (s : String) : Option Destination :=
  if sameWord s broadcastWord then some .broadcast else (IpAddr.parse? s).map .address

/-- The text of a destination. -/
def text : Destination → String
  | .broadcast => broadcastWord
  | .address ip => ip.text

/-- The address that a destination means for a host with the address `localIp`. -/
def resolve (d : Destination) (localIp : IpAddr) : IpAddr :=
  match d with
  | .broadcast => localIp.subnetBroadcast
  | .address ip => ip

/-- What is said of a text that is no destination. -/
def refusal (s : String) : String := "invalid destination '" ++ s ++ "': " ++ IpAddr.syntaxRefusal

end Destination

end Telemetry
