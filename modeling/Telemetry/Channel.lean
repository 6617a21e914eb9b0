/-
The bounded channel between two stages.

A channel has a name, a capacity, the items queued in it and counters of what was
accepted and what was dropped. Its producer never waits: an item that finds the
channel full is dropped. Its consumer waits for the next item and fails only when
the producer is gone and everything accepted has been received.

* `Channel.send` — accepts, drops or refuses one item;
* `Channel.receive` — the next item, or that there is none yet, or none any more;
* `Channel.dropSender`, `Channel.dropReceiver` — one end goes away; the counters
  stay readable, and so does the number of items that were left behind.

Design notes: a channel of capacity zero has no room at any time, since nobody
waits at its other end while the producer sends. The queue is the view in which
the channel is judged: what was accepted is what was received and then the queue.
-/
import Telemetry.Error

namespace Telemetry

/-- A channel with both of its ends. -/
structure Channel (α : Type) where
  name : String
  capacity : Nat
  queue : List α := []
  sent : Nat := 0
  dropped : Nat := 0
  senderAlive : Bool := true
  receiverAlive : Bool := true

/-- What a consumer finds. -/
inductive Receipt (α : Type) where
  | item (a : α)
  | waiting
  | closed (e : PipelineError)

namespace Channel

variable {α : Type}

/-- A new channel. -/
def create (α : Type) (name : String) (capacity : Nat) : Channel α :=
  ⟨name, capacity, [], 0, 0, true, true⟩

/-- The capacity of both channels of the pipeline. -/
def defaultCapacity : Nat := 8

/-- The error of a full channel. -/
def full (c : Channel α) : PipelineError := .channelFull c.name

/-- The error of a channel whose other end is gone. -/
def closed (c : Channel α) : PipelineError := .channelClosed c.name

/-- Offers an item to the channel without waiting. -/
def send (c : Channel α) (a : α) : Except PipelineError Unit × Channel α :=
  if !c.receiverAlive then (.error c.closed, c)
  else if c.capacity ≤ c.queue.length then
    (.error c.full, { c with dropped := c.dropped + 1 })
  else (.ok (), { c with queue := c.queue ++ [a], sent := c.sent + 1 })

/-- The next item of the channel. -/
def receive (c : Channel α) : Receipt α × Channel α :=
  match c.queue with
  | a :: rest => (.item a, { c with queue := rest })
  | [] => (if c.senderAlive then .waiting else .closed c.closed, c)

/-- The channel without its producer. -/
def dropSender (c : Channel α) : Channel α := { c with senderAlive := false }

/-- The channel without its consumer. -/
def dropReceiver (c : Channel α) : Channel α := { c with receiverAlive := false }

end Channel

end Telemetry
