import Lookout.Proofs.System.Display

/-!
# What a socket writes and reads

The task of a connected socket has three things to look after: what the link has queued for it,
what has arrived, and whether it has been let go.  `System.exchange?` is what it does at the device
in its next step, if anything, and `Pump` says what becomes of the socket, and of all that has been
written so far, in any step (`pumps_pollSocket`, `pumps_attemptSocket`).  Nobody else writes: every
other step leaves the outlet of the console as it is.

## Main definitions

* `Exchange`, `System.exchange?` — what is written to a device or read from it.
* `Outlet`, `System.outlet` — the sockets that have been accepted, and what has been written on
  them.
* `Pump`, `Pumps` — one step of the task of a socket.
-/

namespace Lookout

/-- Whether nothing is read after an arrival. -/
def Arrival.isEnd : Arrival → Bool
  | .message .close | .failure _ | .finished => true
  | .message _ => false

/-- What the task of a connected socket does at the device. -/
inductive Exchange where
  | wrote (message : WireMessage)
  /-- the message is offered, but writing fails -/
  | refused (message : WireMessage)
  | read (arrival : Arrival)

/-- What is written on an accepted socket. -/
def SocketAct.message? : SocketAct → Option WireMessage
  | .wrote text => some (.text text)
  | .wroteBinary bytes => some (.binary bytes)
  | .wroteClose => some .close
  | .closed | .released => none

/-- What is seen to be written, with the number of the socket. -/
def Observation.wrote? : Observation → Option (Nat × WireMessage)
  | .socket _ number act => act.message?.map (number, ·)
  | _ => none

/-- How many sockets have been accepted, and what has been written on them, latest first. -/
structure Outlet where
  accepted : Nat
  sent : List (Nat × WireMessage)

namespace Outlet

/-- One more socket is accepted. -/
def accept (x : Outlet) : Outlet := { x with accepted := x.accepted + 1 }

/-- A message is written on a socket, if it has a number. -/
def write (x : Outlet) (number : Option Nat) (message : WireMessage) : Outlet :=
  { x with sent := number.toList.map (·, message) ++ x.sent }

/-- What has been written on the socket with a number, oldest first. -/
def written (x : Outlet) (number : Nat) : List WireMessage :=
  ((x.sent.filter (·.1 == number)).map (·.2)).reverse

theorem written_write (x : Outlet) (own number : Nat) (message : WireMessage) :
    (x.write (some own) message).written number =
      x.written number ++ if own = number then [message] else [] := by
  by_cases same : own = number <;> simp [write, written, same]

end Outlet

namespace System

/-- What has been accepted and written so far. -/
def outlet (s : System) : Outlet := ⟨s.device.accepted, s.trace.filterMap Observation.wrote?⟩

/-- What the task of a socket does at the device in its next step: it writes what is queued, and
reads when nothing is queued and it has not been let go. -/
def exchange? (s : System) (k : Socket) : Option Exchange :=
  if k.phase = .running then
    match k.outbound, k.released, k.inbound with
    | message :: _, _, _ =>
      some (if s.device.failWrites then .refused message else .wrote message)
    | [], false, arrival :: _ => some (.read arrival)
    | [], true, _ | [], false, [] => none
  else none

/-! ## What leaves the outlet alone -/

section
variable (s : System)

theorem outlet_observe {o : Observation} (aside : o.wrote? = none) :
    (s.observe o).outlet = s.outlet := by
  simp [outlet, observe, aside]

theorem outlet_report (event : TransportEvent) : (s.report event).outlet = s.outlet := by
  simp only [report]
  split <;> rfl

theorem outlet_observeSocket {act : SocketAct} (aside : act.message? = none) (k : Socket) :
    (s.observeSocket k act).outlet = s.outlet := by
  simp only [observeSocket]
  split
  · exact outlet_observe s (by simp [Observation.wrote?, aside])
  · rfl

theorem outlet_endSocket (k : Socket) : (s.endSocket k).outlet = s.outlet :=
  outlet_observeSocket _ rfl k

/-- What is written on a socket that has no number goes unseen. -/
theorem outlet_wrote {act : SocketAct} {message : WireMessage}
    (written : act.message? = some message) (k : Socket) :
    (s.observeSocket k act).outlet = s.outlet.write k.number message := by
  simp only [observeSocket]
  split
  · next number numbered =>
    simp [outlet, observe, Observation.wrote?, written, Outlet.write, numbered]
  · next unnumbered => simp [Outlet.write, unnumbered]

/-- What is repeated leaves the outlet alone if each of its steps does. -/
theorem outlet_foldl {α : Type} {step : System → α → System} {xs : List α}
    (each : ∀ s, ∀ x ∈ xs, (step s x).outlet = s.outlet) :
    (xs.foldl step s).outlet = s.outlet := by
  induction xs generalizing s with
  | nil => rfl
  | cons x xs ih =>
    rw [List.foldl_cons, ih _ fun s other member => each s other (.tail _ member)]
    exact each s x (.head _)

theorem outlet_observeCalls (calls : List StreamCall) :
    (s.observeCalls calls).outlet = s.outlet :=
  outlet_foldl s fun s _ _ => outlet_observe s rfl

theorem outlet_notify (notice : Notice) : (s.notify notice).outlet = s.outlet :=
  outlet_observe s rfl

theorem outlet_perform (effect : Effect) : (s.perform effect).outlet = s.outlet := by
  cases effect with
  | dial | hand | release => rfl
  | notify notice => exact outlet_notify s notice
  | endStreams => exact outlet_observeCalls _ _
  | queueResult result =>
    simp only [perform]
    split <;> rfl
  | deliver raw =>
    simp only [perform]
    split
    · exact outlet_observeCalls _ _
    · rfl
  | reportStreams => exact outlet_foldl _ fun s notice _ => outlet_notify s notice

/-- A turn of the link writes nothing itself. -/
theorem outlet_commit (turn : Turn) : (s.commit turn).outlet = s.outlet :=
  outlet_foldl { s with link := turn.link } fun s effect _ => outlet_perform s effect

theorem outlet_order (command : Command) : (s.order command).1.outlet = s.outlet := by
  simp only [order]
  split <;> rfl

theorem outlet_connect (url : String) : (s.connect url).1.outlet = s.outlet := by
  simp only [connect]
  split
  · rfl
  · exact outlet_order s _

theorem outlet_connectConfigured : s.connectConfigured.1.outlet = s.outlet := by
  simp only [connectConfigured]
  split
  · exact outlet_connect s _
  · rfl

theorem outlet_startStreams (bindings : List (ChannelId × Player)) :
    ((s.startStreams bindings).elim s (·.1)).outlet = s.outlet := by
  simp only [startStreams]
  cases s.config.alignment.frameInterval? with
  | none => rfl
  | some period =>
    refine (outlet_order _ _).trans (outlet_foldl s fun s binding _ => ?_)
    exact outlet_observeCalls _ _

theorem outlet_stopStreams (channels : List ChannelId) :
    (s.stopStreams channels).1.outlet = s.outlet :=
  (outlet_order _ _).trans (outlet_foldl s fun _ _ _ => outlet_observeCalls _ _)

theorem outlet_pushResult (result : Result) : (s.pushResult result).1.outlet = s.outlet := by
  simp only [pushResult]
  split <;> rfl

theorem outlet_play (channel : ChannelId) (player : Player) :
    (s.play channel player).outlet = s.outlet := by
  simp only [play]
  split <;> rfl

theorem outlet_tickLoop (l : FrameLoop) : (s.tickLoop l).outlet = s.outlet := by
  simp only [tickLoop]
  split
  · rfl
  split
  · rfl
  split
  · rfl
  split
  · rfl
  split
  · exact (outlet_notify _ _).trans (outlet_observeCalls _ _)
  · exact outlet_observeCalls _ _

theorem outlet_finish : (s.act .finish).outlet = s.outlet :=
  (outlet_observe _ rfl).trans (outlet_observeCalls _ _)

theorem outlet_arrive (number : Option Nat) (arrival : Arrival) :
    (s.arrive number arrival).1.outlet = s.outlet := by
  simp only [arrive]
  split
  · rfl
  · split <;> rfl

theorem outlet_hangUp (number : Option Nat) : (s.hangUp number).1.outlet = s.outlet := by
  simp only [hangUp]
  split
  · rfl
  · split <;> rfl

end

/-! ## Steps of the task of a socket -/

/-- What one step of the task of a socket makes of it and of the outlet, and what the task does at
the device in it. -/
inductive Pump (s : System) (k : Socket) : Option Exchange → Socket → Outlet → Prop where
  | dialed {answer : Answer} {due : Millis} (early : k.phase ≠ .running) (live : k.phase ≠ .ended) :
      Pump s k none { k with phase := .dialing answer due } s.outlet
  | accepted (early : k.phase ≠ .running) (live : k.phase ≠ .ended) :
      Pump s k none { k with phase := .running, number := some s.outlet.accept.accepted }
        s.outlet.accept
  /-- the socket is refused, or let go before it is connected -/
  | failed (early : k.phase ≠ .running) (live : k.phase ≠ .ended) :
      Pump s k none (retired k) s.outlet
  | wrote {message : WireMessage} {rest : List WireMessage} (running : k.phase = .running)
      (next : k.outbound = message :: rest) (further : message ≠ .close) :
      Pump s k (some (.wrote message)) { k with outbound := k.outbound.drop 1 }
        (s.outlet.write k.number message)
  /-- a socket that has written a close message ends -/
  | closed {rest : List WireMessage} (running : k.phase = .running)
      (next : k.outbound = .close :: rest) :
      Pump s k (some (.wrote .close)) (retired k) (s.outlet.write k.number .close)
  | refused {message : WireMessage} {rest : List WireMessage} (running : k.phase = .running)
      (next : k.outbound = message :: rest) :
      Pump s k (some (.refused message)) (retired k) s.outlet
  | read {arrival : Arrival} (running : k.phase = .running) (further : arrival.isEnd = false) :
      Pump s k (some (.read arrival)) { k with inbound := k.inbound.drop 1 } s.outlet
  | ended {arrival : Arrival} (running : k.phase = .running) (last : arrival.isEnd = true) :
      Pump s k (some (.read arrival)) (retired k) s.outlet
  /-- a socket that has been let go ends when nothing is queued any more -/
  | left (running : k.phase = .running) (empty : k.outbound = []) (gone : k.released = true) :
      Pump s k none (retired k) s.outlet

/-- A console after one step of the task of a socket, as far as sockets and the outlet go. -/
def Pumps (s : System) (k : Socket) (x : Option Exchange) (s' : System) : Prop :=
  ∃ f, Pump s k x (f k) s'.outlet ∧ s'.sockets = (s.updateSocket k.generation f).sockets

variable {s : System} {k : Socket}

theorem sockets_observeSocket (s : System) (k : Socket) (act : SocketAct) :
    (s.observeSocket k act).sockets = s.sockets :=
  (performed_observeSocket s k act).sockets_eq

theorem sockets_endSocket (s : System) (k : Socket) :
    (s.endSocket k).sockets = (s.updateSocket k.generation retired).sockets :=
  (performed_endSocket s k).sockets_eq

theorem sockets_report (s : System) (event : TransportEvent) :
    (s.report event).sockets = s.sockets := by
  simp only [report]
  split <;> rfl

/-- A socket ends, whatever it reports. -/
theorem pumps_endSocket {x : Option Exchange} (pump : Pump s k x (retired k) s.outlet) :
    Pumps s k x (s.endSocket k) :=
  ⟨retired, by rwa [outlet_endSocket], sockets_endSocket s k⟩

theorem Pumps.report {x : Option Exchange} {s' : System} (pumps : Pumps s k x s')
    (event : TransportEvent) : Pumps s k x (s'.report event) := by
  obtain ⟨f, pump, sockets⟩ := pumps
  exact ⟨f, by rwa [outlet_report], (sockets_report s' event).trans sockets⟩

theorem pumps_attemptSocket (driving : s.driving = true) (ready : s.canAttempt k = true) :
    Pumps s k none (s.attemptSocket k) := by
  simp only [attemptSocket]
  split
  · next fresh =>
    refine ⟨fun k => { k with phase := .dialing s.device.answer (s.now + s.device.delay) }, ?_, rfl⟩
    rw [outlet_observe _ rfl]
    exact .dialed (by simp [fresh]) (by simp [fresh])
  · next answer due dialing =>
    have early : k.phase ≠ .running := by simp [dialing]
    have live : k.phase ≠ .ended := by simp [dialing]
    cases answer with
    | refuse => exact (pumps_endSocket (.failed early live)).report _
    | accept =>
      have accepted : Pumps s k none ({ s with
          device := { s.device with accepted := s.device.accepted + 1 } }.updateSocket k.generation
            fun k => { k with phase := .running, number := some (s.device.accepted + 1) }) :=
        ⟨fun k => { k with phase := .running, number := some (s.device.accepted + 1) },
          .accepted early live, rfl⟩
      simp only [answered]
      rw [if_pos (by exact driving)]
      exact accepted.report _
  · next running => simp [canAttempt, running] at ready
  · next ended => simp [canAttempt, ended] at ready

theorem pumps_writeNext (running : k.phase = .running) {message : WireMessage}
    {rest : List WireMessage} (next : k.outbound = message :: rest) :
    Pumps s k (some (if s.device.failWrites then .refused message else .wrote message))
      (s.writeNext k message) := by
  simp only [writeNext]
  split
  · exact (pumps_endSocket (.refused running next)).report _
  · have shorter (act : SocketAct) (written : act.message? = some message)
        (further : message ≠ .close) :
        Pumps s k (some (.wrote message))
          ((s.updateSocket k.generation fun k => { k with outbound := k.outbound.drop 1 })
            |>.observeSocket k act) := by
      refine ⟨fun k => { k with outbound := k.outbound.drop 1 }, ?_, sockets_observeSocket _ k act⟩
      rw [outlet_wrote _ written]
      exact .wrote running next further
    cases message with
    | text text => exact shorter (.wrote text) rfl (by rintro ⟨⟩)
    | binary bytes => exact shorter (.wroteBinary bytes) rfl (by rintro ⟨⟩)
    | close =>
      refine ⟨retired, ?_, ?_⟩
      · rw [outlet_endSocket, outlet_wrote _ rfl]
        exact .closed running next
      · have dropped := updateSocket_updateSocket s k.generation
          (f := fun k => { k with outbound := k.outbound.drop 1 }) (fun _ => rfl) retired
        rw [sockets_endSocket]
        simp only [updateSocket, sockets_observeSocket] at dropped ⊢
        exact congrArg sockets dropped

theorem pumps_readNext (driving : s.driving = true) (running : k.phase = .running)
    (arrival : Arrival) : Pumps s k (some (.read arrival)) (s.readNext k arrival) := by
  simp only [readNext]
  split
  · exact (pumps_endSocket (.ended running rfl)).report _
  · exact (pumps_endSocket (.ended running rfl)).report _
  · exact (pumps_endSocket (.ended running rfl)).report _
  · next message other =>
    have listened : (s.updateSocket k.generation fun k =>
        { k with inbound := k.inbound.drop 1 }).driving = true := driving
    rw [if_pos listened]
    refine Pumps.report ⟨fun k => { k with inbound := k.inbound.drop 1 }, ?_, rfl⟩ _
    refine .read running ?_
    cases message with
    | text | binary => rfl
    | close => exact absurd rfl other

/-- **What the task of a socket does in one step**, while the task of the link listens and the
client has not been shut down. -/
theorem pumps_pollSocket (driving : s.driving = true) (kept : s.shutDown = false)
    (ready : s.canPoll k = true) : Pumps s k (s.exchange? k) (s.pollSocket k) := by
  -- Before it is connected, a socket that has been let go ends, and any other goes on.
  have early (early : k.phase ≠ .running) (live : k.phase ≠ .ended)
      (attempt : s.cancelled k = false → s.canAttempt k = true) :
      Pumps s k (s.exchange? k) (if s.cancelled k then s.endSocket k else s.attemptSocket k) := by
    rw [exchange?, if_neg early]
    by_cases gone : s.cancelled k = true
    · rw [if_pos gone]
      exact pumps_endSocket (.failed early live)
    · rw [if_neg gone]
      exact pumps_attemptSocket driving (attempt (by simpa using gone))
  simp only [pollSocket]
  split
  · next ended => simp [canPoll, ended] at ready
  · next spawned =>
    exact early (by simp [spawned]) (by simp [spawned]) fun _ => by simp [canAttempt, spawned]
  · next dialing =>
    refine early (by simp [dialing]) (by simp [dialing]) fun held => ?_
    simpa [canPoll, canAttempt, dialing, held] using ready
  · next running =>
    rw [exchange?, if_pos running]
    cases queued : k.outbound with
    | cons message rest => exact pumps_writeNext running queued
    | nil =>
      cases gone : k.released with
      | true =>
        have unseen : (s.observeSocket k .closed).outlet = s.outlet := outlet_observeSocket s rfl k
        refine ⟨retired, ?_, ?_⟩
        · rw [closeAndEnd, outlet_endSocket, unseen]
          exact .left running queued gone
        · simp only [closeAndEnd, sockets_endSocket, updateSocket, sockets_observeSocket]
      | false =>
        cases waiting : k.inbound with
        | cons arrival rest => exact pumps_readNext driving running arrival
        | nil => simp [canPoll, running, queued, cancelled, gone, waiting, kept] at ready

end System
end Lookout
