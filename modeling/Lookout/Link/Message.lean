import Lookout.Message.Control
import Lookout.Result
import Lookout.Stream.Basic

/-!
# What goes in and out of a link

The client orders, a socket reports, and the link tells: these are the messages between the
client, the task that drives the link and the tasks that run its sockets.

## Main definitions

* `WireMessage` — what travels on a socket.
* `Command` — what the client orders.
* `TransportEvent` — what a socket reports, with its generation.
* `Notice` — what the application is told.
-/

namespace Lookout

/-- A message on a socket. -/
inductive WireMessage where
  | text (s : String)
  | binary (bytes : Bytes)
  | close

/-- An order of the client. -/
inductive Command where
  | connect (url : String)
  | send (message : ControlMessage)
  | close

/-- A report of the socket of a generation. -/
inductive TransportEvent where
  | connected (generation : Nat)
  | connectFailed (generation : Nat) (error : Error)
  | message (generation : Nat) (message : WireMessage)
  | closed (generation : Nat) (error : Option Error)

/-- The socket that an event comes from. -/
def TransportEvent.generation : TransportEvent → Nat
  | connected g | connectFailed g _ | message g _ | closed g _ => g

/-- What the application is told. -/
inductive Notice where
  | opened
  | message (message : Inbound)
  | disconnected (error : Option Error)
  | reconnecting (attempt maxAttempts : Nat)
  | linkLost (attempts : Nat)
  | superseded
  /-- a result belongs on the frame that is displayed -/
  | aligned (result : Result)
  | streamStats (stats : StreamStats)
  /-- what has been drawn over a channel's frames is out of date -/
  | overlayExpired (channel : ChannelId)

end Lookout
