import Lookout.Proofs.Link.Protocol
import Lookout.System.Client
import Lookout.System.Device

/-!
# Runs of the console

A move is one thing that somebody does: a task takes a step that it can take, the client calls, the
device acts, or time passes.  A run is a list of moves in any order, latest first, so it may delay
a report, a release or a timer for as long as it likes.

What the link has answered on a run is a history of the link; its reports, together with those that
still wait in the queue, are all that the sockets have said.

## Main definitions

* `Move`, `System.move`, `System.after`.
* `System.inputs` — the history of the link on a run, and `System.handled` its reports.
* `System.arrived` — what has arrived on a socket, and `System.reports` — what it has said.
* `System.linkNotices` — what the application has been told about the link.
-/

namespace Lookout

/-- One thing that somebody does. -/
inductive Move where
  /-- a task takes a step, if it can -/
  | act (action : Action)
  | connect (url : String)
  | connectConfigured
  | send (message : ControlMessage)
  | close
  | startStreams (bindings : List (ChannelId × Player))
  | stopStreams (channels : List ChannelId)
  | pushResult (result : Result)
  /-- the client is shut down -/
  | shutDown
  /-- the client is given up -/
  | drop
  /-- the device sends on one of the sockets that it has accepted -/
  | arrive (number : Option Nat) (arrival : Arrival)
  | hangUp (number : Option Nat)
  | play (channel : ChannelId) (player : Player)
  /-- the device will answer otherwise -/
  | arrange (answer : Answer) (delay : Millis) (failWrites : Bool)
  | wait (span : Millis)

/-- The report that an input is. -/
def Input.event? : Input → Option TransportEvent
  | .transport event => some event
  | _ => none

/-- What an observation tells about the link. -/
def Observation.linkNotice? : Observation → Option Notice
  | .notice _ told => if told.isLink then some told else none
  | _ => none

namespace System

/-- The console after a move. -/
def move (s : System) : Move → System
  | .act action => if s.enabled action then s.act action else s
  | .connect url => (s.connect url).1
  | .connectConfigured => s.connectConfigured.1
  | .send message => (s.send message).1
  | .close => s.close.1
  | .startStreams bindings => (s.startStreams bindings).elim s (·.1)
  | .stopStreams channels => (s.stopStreams channels).1
  | .pushResult result => (s.pushResult result).1
  | .shutDown => s.shutdownClient
  | .drop => s.dropClient
  | .arrive number arrival => (s.arrive number arrival).1
  | .hangUp number => (s.hangUp number).1
  | .play channel player => s.play channel player
  | .arrange answer delay failWrites =>
    { s with device := { s.device with answer, delay, failWrites } }
  | .wait span => { s with now := s.now + span }

/-- The console that a run leads to. -/
def after (config : Config) : List Move → System
  | [] => new config
  | m :: past => (after config past).move m

/-! ## What happens on a run -/

/-- What the link answers in a move. -/
def input? (s : System) : Move → Option Input
  | .act action =>
    if s.enabled action then
      match action with
      | .command => s.commands.head?.map .command
      | .transport => s.transport.head?.map .transport
      | .timer timer => some (.timer timer)
      | .stop | .poll _ | .attempt _ | .tick _ | .finish => none
    else none
  | _ => none

/-- What arrives in a move, with the generation of the socket it arrives on. -/
def arrival? (s : System) : Move → Option (Nat × Arrival)
  | .arrive number arrival =>
    (s.accepted? number).bind fun k =>
      if k.hungUp || k.phase = .ended then none else some (k.generation, arrival)
  | .hangUp number =>
    (s.accepted? number).bind fun k => if k.hungUp then none else some (k.generation, .finished)
  | _ => none

/-- The history of the link on a run. -/
def inputs (config : Config) : List Move → Link.History
  | [] => []
  | m :: past =>
    (((after config past).input? m).map ((after config past).now, ·)).toList ++ inputs config past

/-- The reports that the link has answered, oldest first. -/
def handled (config : Config) (moves : List Move) : List TransportEvent :=
  ((inputs config moves).filterMap (·.2.event?)).reverse

/-- What has arrived on the socket of a generation, oldest first. -/
def arrived (config : Config) (generation : Nat) : List Move → List Arrival
  | [] => []
  | m :: past =>
    arrived config generation past ++
      (((after config past).arrival? m).filter (·.1 == generation)).toList.map (·.2)

/-- The reports of a generation, oldest first: those that the link has answered, and those in the
queue. -/
def reports (config : Config) (moves : List Move) (generation : Nat) : List TransportEvent :=
  (handled config moves ++ (after config moves).transport).filter (·.generation == generation)

/-- What the application has been told about the link, latest first. -/
def linkNotices (s : System) : List Notice := s.trace.filterMap Observation.linkNotice?

end System

end Lookout
