import Lookout.Link.Step

/-!
# What a turn can do

`Course` lists the ways in which one turn changes the life of a link: it says which fields change,
to what, and which effects come with the change.  `Sound` is what holds between two turns, and a
sound link takes no other course (`course_step`) and stays sound (`Sound.step`).  Every law about
the life of a link is a case analysis on `Course`; none of them opens a handler.
-/

namespace Lookout
namespace Link

/-! ## Sound links -/

/-- What holds of a link between two turns: the socket and the timers that are kept in fields of
their own fit the state. -/
structure Sound (config : Config) (l : Link) : Prop where
  policy_eq : l.lifecycle.policy = .ofConnection config.connection
  socket_eq : l.socket = if l.state = .disconnected then none else some l.lifecycle.generation
  heartbeat_iff : l.heartbeat.isSome ↔ l.state = .opened
  closeGrace_iff : l.closeGrace.isSome ↔ l.state = .closing
  published_eq : l.published = l.state
  reconnect_iff : l.reconnect.isSome ↔
    l.state = .disconnected ∧ l.lifecycle.termination = none ∧ l.lifecycle.autoReconnect = true
  url_isSome : l.state ≠ .disconnected ∨ l.lifecycle.autoReconnect = true → l.url.isSome
  attempts_le : l.lifecycle.attempts ≤ l.lifecycle.policy.maxAttempts
  -- A socket is held only by a link that nobody has ended, or that another console took over.
  termination_eq : l.state ≠ .disconnected →
    l.lifecycle.termination = none ∨ l.lifecycle.termination = some .superseded
  eligible_of_up : l.isUp = true →
    l.lifecycle.autoReconnect = true ∨ l.lifecycle.termination = some .superseded

theorem sound_new (config : Config) : Sound config (new config) := by
  constructor <;> simp [new, Lifecycle.new, isUp]

/-- A link that is not down holds the socket of its generation. -/
theorem Sound.socket_eq_some {config : Config} {l : Link} (sound : Sound config l)
    (up : l.state ≠ .disconnected) : l.socket = some l.lifecycle.generation := by
  rw [sound.socket_eq, if_neg up]

/-! ## Courses -/

/-- Two links that differ in nothing that belongs to the life of a link. -/
structure SameLife (l l' : Link) : Prop where
  lifecycle : l'.lifecycle = l.lifecycle
  published : l'.published = l.published
  url : l'.url = l.url
  socket : l'.socket = l.socket
  heartbeat : l'.heartbeat.isSome = l.heartbeat.isSome
  reconnect : l'.reconnect = l.reconnect
  closeGrace : l'.closeGrace = l.closeGrace

theorem SameLife.refl (l : Link) : SameLife l l := ⟨rfl, rfl, rfl, rfl, rfl, rfl, rfl⟩

/-- Effects that neither start nor end a socket and tell the application nothing.  A text is handed
to the socket of an open link only. -/
def IsQuiet (l : Link) : Effect → Prop
  | .hand generation (.text _) => l.state = .opened ∧ l.socket = some generation
  | .queueResult _ | .deliver _ | .reportStreams => True
  | _ => False

/-- A link that dials. -/
def dialing (url : String) (l : Link) : Link :=
  { l with
    lifecycle := { l.lifecycle with
      state := .connecting
      generation := l.lifecycle.generation + 1
      attempts := if l.lifecycle.isTerminated then 0 else l.lifecycle.attempts
      termination := none }
    published := .connecting
    url := some url
    socket := some (l.lifecycle.generation + 1)
    reconnect := none }

/-- A link whose attempt has succeeded. -/
def opening (config : Config) (now : Millis) (l : Link) : Link :=
  { l with
    lifecycle := { l.lifecycle with state := .opened, autoReconnect := true, attempts := 0 }
    published := .opened
    heartbeat := some (now + config.connection.heartbeatInterval)
    lastInbound := now }

/-- A link that the device has announced to close. -/
def expiring (config : Config) (now : Millis) (l : Link) : Link :=
  { l with
    lifecycle := { l.lifecycle with state := .closing }
    published := .closing
    heartbeat := none
    closeGrace := some (now + config.connection.closeGrace)
    lastInbound := now }

/-- A link that the user has ended, before its socket is let go. -/
def resigned (l : Link) : Link :=
  { l with
    lifecycle := { l.lifecycle with termination := some .userClosed }
    reconnect := none
    pending := []
    sendRetry := none }

/-- A link without its socket and the timers that belong to it. -/
def letGo (l : Link) : Link :=
  { l with
    lifecycle := { l.lifecycle with state := .disconnected }
    published := .disconnected
    socket := none
    heartbeat := none
    closeGrace := none }

/-- What the end of a socket does before it is decided what comes next. -/
def parting (error : Option Error) (l : Link) : List Effect :=
  l.socket.toList.map .release ++ [.endStreams] ++
    if l.isUp then [.notify (.disconnected error)] else []

/-- How a socket that is held ends. -/
inductive Ending (now : Millis) (error : Option Error) (l : Link) : Turn → Prop where
  | retried (free : l.lifecycle.termination = none) (eligible : l.lifecycle.autoReconnect = true)
      (left : l.lifecycle.attempts < l.lifecycle.policy.maxAttempts) :
      Ending now error l
        ⟨{ l.letGo with
            lifecycle := { l.letGo.lifecycle with attempts := l.lifecycle.attempts + 1 }
            reconnect := some (now + l.lifecycle.policy.interval) },
          l.parting error ++
            [.notify (.reconnecting (l.lifecycle.attempts + 1) l.lifecycle.policy.maxAttempts)]⟩
  | lost (free : l.lifecycle.termination = none) (eligible : l.lifecycle.autoReconnect = true)
      (spent : l.lifecycle.policy.maxAttempts ≤ l.lifecycle.attempts) :
      Ending now error l
        ⟨{ l.letGo with
            lifecycle := { l.letGo.lifecycle with termination := some .linkLost } }.dropPending,
          l.parting error ++ [.notify (.linkLost l.lifecycle.attempts)]⟩
  | stopped (ended : l.lifecycle.termination.isSome) :
      Ending now error l ⟨l.letGo.dropPending, l.parting error⟩
  | idle (free : l.lifecycle.termination = none) (fresh : l.lifecycle.autoReconnect = false) :
      Ending now error l ⟨l.letGo.dropPending, l.parting error⟩

/-- Inputs that change the life of the link whenever they come: an order to connect a link that is
down, an order to close, and the time of an attempt. -/
def Decides (l : Link) : Input → Prop
  | .command (.connect _) => l.state = .disconnected
  | .command .close => True
  | .timer .reconnect => l.reconnect.isSome
  | _ => False

/-- The courses that a turn can take. -/
inductive Course (config : Config) (now : Millis) (l : Link) : Input → Turn → Prop where
  | steady {input : Input} {turn : Turn} (minor : ¬ l.Decides input) (same : SameLife l turn.link)
      (quiet : ∀ effect ∈ turn.effects, l.IsQuiet effect) : Course config now l input turn
  | heard {generation : Nat} {text : String} (message : Inbound)
      (current : l.lifecycle.isCurrent generation = true) :
      Course config now l (.transport (.message generation (.text text)))
        ⟨{ l with lastInbound := now }, resultEffects message ++ [.notify (.message message)]⟩
  | dialed {input : Input} {url : String}
      (cause : input = .command (.connect url) ∨
        input = .timer .reconnect ∧ l.url = some url ∧ l.reconnect.isSome)
      (down : l.state = .disconnected) :
      Course config now l input ⟨l.dialing url, [.dial (l.lifecycle.generation + 1) url]⟩
  | opened {retry : Option Millis} (connecting : l.state = .connecting) :
      Course config now l (.transport (.connected l.lifecycle.generation))
        ⟨{ l.opening config now with sendRetry := retry }, [.notify .opened]⟩
  | announced {generation : Nat} {text : String}
      (current : l.lifecycle.isCurrent generation = true) (up : l.state = .opened) :
      Course config now l (.transport (.message generation (.text text)))
        ⟨l.expiring config now, []⟩
  | superseded {generation : Nat} {text : String}
      (current : l.lifecycle.isCurrent generation = true) :
      Course config now l (.transport (.message generation (.text text)))
        ⟨{ l with lifecycle := l.lifecycle.superseded, lastInbound := now },
          [.notify .superseded]⟩
  | abandoned (down : l.state = .disconnected) :
      Course config now l (.command .close) ⟨l.resigned, []⟩
  | closed {turn : Turn} (up : l.state ≠ .disconnected) (ending : Ending now none l.resigned turn) :
      Course config now l (.command .close)
        ⟨turn.link, .hand l.lifecycle.generation .close :: turn.effects⟩
  | ended {input : Input} {error : Option Error} {turn : Turn}
      (cause : input = .transport (.closed l.lifecycle.generation error) ∨
        (∃ e, error = some e ∧ input = .transport (.connectFailed l.lifecycle.generation e)) ∨
        input = .timer .heartbeat ∨ input = .timer .closeGrace)
      (up : l.state ≠ .disconnected) (ending : Ending now error l turn) :
      Course config now l input turn

/-! ## The handlers -/

theorem isCurrent_generation {l : Link} (up : l.state ≠ .disconnected) :
    l.lifecycle.isCurrent l.lifecycle.generation = true := by
  simp [Lifecycle.isCurrent, up]

theorem isCurrent_iff {l : Link} {generation : Nat} :
    l.lifecycle.isCurrent generation = true ↔
      generation = l.lifecycle.generation ∧ l.state ≠ .disconnected := by
  simp [Lifecycle.isCurrent]

/-- The end of a socket that is not the present one is no news. -/
theorem afterSocket_stale {l : Link} {generation : Nat}
    (stale : l.lifecycle.isCurrent generation = false) (now : Millis) (error : Option Error) :
    l.afterSocket now generation error = l.idle := by
  simp [afterSocket, Lifecycle.closed, stale]

/-- Whatever comes next, the socket is let go and its end is told first. -/
theorem afterSocket_of_closed {l : Link} {generation : Nat} (lifecycle : Lifecycle)
    (outcome : CloseOutcome) (closed : l.lifecycle.closed generation = (lifecycle, outcome))
    (present : outcome ≠ .stale) (down : lifecycle.state = .disconnected) (now : Millis)
    (error : Option Error) :
    l.afterSocket now generation error =
      ⟨({ l.letGo with lifecycle }.settleOutcome now outcome).link,
        l.parting error ++ ({ l.letGo with lifecycle }.settleOutcome now outcome).effects⟩ := by
  simp only [afterSocket, closed, parting]
  cases told : l.isUp <;>
    simp [releaseSocket, publish, Turn.update, Turn.also, Turn.notify, Turn.followedBy, letGo,
      state, down]

theorem afterSocket_ending {l : Link} (up : l.state ≠ .disconnected) (now : Millis)
    (error : Option Error) :
    Ending now error l (l.afterSocket now l.lifecycle.generation error) := by
  have current := isCurrent_generation up
  cases ended : l.lifecycle.termination with
  | some termination =>
    have stopped : Ending now error l ⟨l.letGo.dropPending, l.parting error⟩ :=
      .stopped (by simp [ended])
    rw [afterSocket_of_closed l.letGo.lifecycle (.stopped termination)
      (by simp [Lifecycle.closed, current, ended, letGo]) (by simp) rfl]
    simpa [settleOutcome, idle] using stopped
  | none =>
    cases eligible : l.lifecycle.autoReconnect with
    | false =>
      have idle : Ending now error l ⟨l.letGo.dropPending, l.parting error⟩ :=
        .idle ended eligible
      rw [afterSocket_of_closed l.letGo.lifecycle .idle
        (by simp [Lifecycle.closed, current, ended, eligible, letGo]) (by simp) rfl]
      simpa [settleOutcome, Link.idle] using idle
    | true =>
      by_cases left : l.lifecycle.attempts < l.lifecycle.policy.maxAttempts
      · rw [afterSocket_of_closed
          { l.letGo.lifecycle with attempts := l.lifecycle.attempts + 1 }
          (.reconnect (l.lifecycle.attempts + 1) l.lifecycle.policy.interval)
          (by simp [Lifecycle.closed, current, ended, eligible, left, letGo]) (by simp) rfl]
        exact .retried ended eligible left
      · rw [afterSocket_of_closed
          { l.letGo.lifecycle with termination := some .linkLost }
          (.linkLost l.lifecycle.attempts)
          (by simp [Lifecycle.closed, current, ended, eligible, left, letGo]) (by simp) rfl]
        exact .lost ended eligible (Nat.le_of_not_lt left)

/-- The timers of a socket do not matter to its end. -/
theorem Ending.of_timers {l : Link} {now : Millis} {error : Option Error} {turn : Turn}
    {heartbeat closeGrace : Option Millis}
    (ending : Ending now error { l with heartbeat, closeGrace } turn) :
    Ending now error l turn := by
  cases ending with
  | retried free eligible left => exact .retried free eligible left
  | lost free eligible spent => exact .lost free eligible spent
  | stopped ended => exact .stopped ended
  | idle free fresh => exact .idle free fresh

section
variable {now : Millis} {error : Option Error} {l : Link} {turn : Turn}

theorem Ending.state_eq (ending : Ending now error l turn) : turn.link.state = .disconnected := by
  cases ending <;> rfl

theorem Ending.generation_eq (ending : Ending now error l turn) :
    turn.link.lifecycle.generation = l.lifecycle.generation := by
  cases ending <;> rfl

theorem Ending.autoReconnect_eq (ending : Ending now error l turn) :
    turn.link.lifecycle.autoReconnect = l.lifecycle.autoReconnect := by
  cases ending <;> rfl

theorem Ending.url_eq (ending : Ending now error l turn) : turn.link.url = l.url := by
  cases ending <;> rfl

/-- A link that had ended has still ended. -/
theorem Ending.isTerminated (ending : Ending now error l turn)
    (ended : l.lifecycle.isTerminated = true) : turn.link.lifecycle.isTerminated = true := by
  cases ending with
  | retried free eligible left => simp [Lifecycle.isTerminated, free] at ended
  | lost free eligible spent => rfl
  | stopped => exact ended
  | idle => exact ended

end

/-- A message only lets results wait. -/
theorem eq_queueResult_of_mem {message : Inbound} {effect : Effect}
    (member : effect ∈ resultEffects message) : ∃ result, effect = .queueResult result := by
  simp only [resultEffects] at member
  split at member
  · split at member
    · exact ⟨_, List.mem_singleton.1 member⟩
    · cases member
  · cases member

/-- A message that is heard only tells something and lets results wait. -/
theorem aside_of_heard {message : Inbound} {effect : Effect}
    (member : effect ∈ resultEffects message ++ [.notify (.message message)]) :
    (∃ notice, effect = .notify notice) ∨ ∃ result, effect = .queueResult result := by
  rcases List.mem_append.1 member with waits | told
  · exact .inr (eq_queueResult_of_mem waits)
  · exact .inl ⟨_, List.mem_singleton.1 told⟩

/-- What is written goes to the socket that is held. -/
theorem quiet_write {l : Link} (up : l.state = .opened) {message : ControlMessage}
    {effect : Effect} (written : effect ∈ (l.write message).effects) : l.IsQuiet effect := by
  obtain ⟨generation, held, rfl⟩ := List.mem_map.1 written
  exact ⟨up, by simpa using held⟩

/-- A dial succeeds whenever there is an address and no socket. -/
theorem openSocket_eq {l : Link} {url : String} (known : l.url = some url)
    (down : l.state = .disconnected) (idle : l.reconnect = none) :
    l.openSocket = ⟨l.dialing url, [.dial (l.lifecycle.generation + 1) url]⟩ := by
  simp [openSocket, known, Lifecycle.beginConnect, down, dialing, publish, Link.idle, Turn.also,
    idle]

/-! ## Every turn takes a course -/

section
variable {config : Config} {now : Millis} {l : Link}

theorem Course.idle {input : Input} (minor : ¬ l.Decides input) :
    Course config now l input l.idle :=
  .steady minor (.refl l) (by simp [Link.idle])

theorem connect_eq (url : String) (down : l.state = .disconnected) :
    l.connect url = ⟨l.dialing url, [.dial (l.lifecycle.generation + 1) url]⟩ := by
  rw [connect, if_pos down]
  exact openSocket_eq (l := { l with reconnect := none, url := some url }) rfl down rfl

theorem course_connect (url : String) :
    Course config now l (.command (.connect url)) (l.connect url) := by
  by_cases down : l.state = .disconnected
  · rw [connect_eq url down]
    exact .dialed (.inl rfl) down
  · simp only [connect, down, if_false]
    exact .idle down

theorem course_send (message : ControlMessage) :
    Course config now l (.command (.send message)) (l.send config now message) := by
  by_cases up : l.state = .opened
  · simp only [send, up, if_true]
    exact .steady id (.refl l) fun _ => quiet_write up
  · by_cases ended : l.lifecycle.isTerminated = true
    · simp only [send, up, ended, if_true, if_false]
      exact .idle id
    · simp only [send, up, ended, if_false]
      exact .steady id ⟨rfl, rfl, rfl, rfl, rfl, rfl, rfl⟩ (by simp [Link.idle])

theorem course_close (sound : Sound config l) :
    Course config now l (.command .close) (l.close now) := by
  by_cases down : l.state = .disconnected
  · have turn : l.close now = ⟨l.resigned, []⟩ := by
      simp [close, Lifecycle.userClose, down, dropPending, resigned, Link.idle]
    rw [turn]
    exact .abandoned down
  · have held : l.socket = some l.lifecycle.generation := sound.socket_eq_some down
    have ending := afterSocket_ending (l := l.resigned) down now none
    have turn : l.close now = ⟨(l.resigned.afterSocket now l.lifecycle.generation none).link,
        .hand l.lifecycle.generation .close ::
          (l.resigned.afterSocket now l.lifecycle.generation none).effects⟩ := by
      simp [close, Lifecycle.userClose, down, dropPending, Turn.followedBy, hand, held, resigned]
    rw [turn]
    exact .closed down ending

theorem course_connected (generation : Nat) :
    Course config now l (.transport (.connected generation))
      (l.connected config now generation) := by
  by_cases present : l.state = .connecting ∧ generation = l.lifecycle.generation
  · obtain ⟨connecting, rfl⟩ := present
    have turn : l.connected config now l.lifecycle.generation =
        ⟨{ l.opening config now with
            sendRetry := if l.pending.isEmpty then l.sendRetry
              else some (l.sendRetry.getD (now + config.connection.sendRetryDelay)) },
          [.notify .opened]⟩ := by
      by_cases waits : l.pending.isEmpty <;>
        simp [connected, Lifecycle.opened, connecting, waits, armSendRetry, Link.idle, Turn.notify,
          Turn.also, opening, publish]
    rw [turn]
    exact .opened connecting
  · simp only [connected, Lifecycle.opened, present, if_false]
    exact .idle id

theorem course_afterSocket {input : Input} {generation : Nat} {error : Option Error}
    (cause : input = .transport (.closed generation error) ∨
      ∃ e, error = some e ∧ input = .transport (.connectFailed generation e)) :
    Course config now l input (l.afterSocket now generation error) := by
  cases current : l.lifecycle.isCurrent generation with
  | false =>
    rw [afterSocket_stale current]
    rcases cause with rfl | ⟨e, -, rfl⟩ <;> exact .idle id
  | true =>
    obtain ⟨rfl, up⟩ := isCurrent_iff.1 current
    exact .ended (cause.imp_right .inl) up (afterSocket_ending up now error)

theorem course_receive (generation : Nat) (message : WireMessage) :
    Course config now l (.transport (.message generation message))
      (l.receive config now generation message) := by
  cases current : l.lifecycle.isCurrent generation with
  | false =>
    simp only [receive, current]
    exact .idle id
  | true =>
    simp only [receive, current, if_true]
    cases message with
    | binary raw => exact .steady id ⟨rfl, rfl, rfl, rfl, rfl, rfl, rfl⟩ (by simp [IsQuiet])
    | close => exact .steady id ⟨rfl, rfl, rfl, rfl, rfl, rfl, rfl⟩ (by simp [Link.idle])
    | text text =>
      simp only [receiveText]
      split
      · exact .steady id ⟨rfl, rfl, rfl, rfl, rfl, rfl, rfl⟩ (by simp [Link.idle])
      · split
        · by_cases up : l.state = .opened
          · simp only [announced, Lifecycle.serverClosing, up, if_true]
            exact .announced current up
          · simp only [announced, Lifecycle.serverClosing, up, if_false]
            exact .steady id ⟨rfl, rfl, rfl, rfl, rfl, rfl, rfl⟩ (by simp [Link.idle])
        · exact .superseded current
        · exact .heard _ current

/-- A scheduled attempt takes place: a link that is eligible has an address. -/
theorem fire_reconnect (sound : Sound config l) (armed : l.reconnect.isSome) :
    ∃ url, l.url = some url ∧ ∀ now, l.fire config now .reconnect =
      ⟨l.dialing url, [.dial (l.lifecycle.generation + 1) url]⟩ := by
  obtain ⟨down, -, eligible⟩ := sound.reconnect_iff.1 armed
  obtain ⟨url, known⟩ := Option.isSome_iff_exists.1 (sound.url_isSome (.inr eligible))
  exact ⟨url, known, fun _ => openSocket_eq (l := { l with reconnect := none }) known down rfl⟩

/-- A link that the device does not close in time is ended. -/
theorem ending_closeGrace (closing : l.state = .closing) (config : Config) (now : Millis) :
    ∃ error, Ending now error l (l.fire config now .closeGrace) := by
  have up : l.state ≠ .disconnected := by simp [closing]
  have ending := afterSocket_ending (l := { l with closeGrace := none }) up now
  simp only [fire, onCloseGrace]
  rw [if_pos closing]
  exact ⟨_, .of_timers (ending _)⟩

theorem course_fire (sound : Sound config l) (timer : Timer) (armed : (l.deadline timer).isSome) :
    Course config now l (.timer timer) (l.fire config now timer) := by
  cases timer with
  | heartbeat =>
    have isOpen : l.state = .opened := sound.heartbeat_iff.1 armed
    have up : l.state ≠ .disconnected := by simp [isOpen]
    have steady : Course config now l (.timer .heartbeat)
        (write .heartbeat
          { l with heartbeat := l.heartbeat.map (· + config.connection.heartbeatInterval) }) :=
      .steady id ⟨rfl, rfl, rfl, rfl, by simp [write, hand], rfl, rfl⟩ fun _ =>
        quiet_write (l := l) isOpen
    have ending := afterSocket_ending (l :=
      { l with heartbeat := l.heartbeat.map (· + config.connection.heartbeatInterval) }) up now
    simp only [fire, onHeartbeat]
    split
    · split
      · exact .ended (.inr (.inr (.inl rfl))) up (.of_timers (ending _))
      · exact steady
    · exact steady
  | reconnect =>
    obtain ⟨url, known, dialed⟩ := fire_reconnect sound armed
    rw [dialed]
    exact .dialed (.inr ⟨rfl, known, armed⟩) (sound.reconnect_iff.1 armed).1
  | sendRetry =>
    simp only [fire, onSendRetry]
    split
    · exact .steady id ⟨rfl, rfl, rfl, rfl, rfl, rfl, rfl⟩ (by simp [Link.idle])
    · split
      · next up =>
        refine .steady id ⟨rfl, rfl, rfl, rfl, rfl, rfl, rfl⟩ fun effect flushed => ?_
        obtain ⟨message, -, written⟩ := List.mem_flatMap.1 flushed
        exact quiet_write (l := l) up written
      · split
        · exact .steady id ⟨rfl, rfl, rfl, rfl, rfl, rfl, rfl⟩ (by simp [Link.idle])
        · exact .steady id ⟨rfl, rfl, rfl, rfl, rfl, rfl, rfl⟩ (by simp [Link.idle])
  | closeGrace =>
    have closing : l.state = .closing := sound.closeGrace_iff.1 armed
    obtain ⟨error, ending⟩ := ending_closeGrace closing config now
    exact .ended (.inr (.inr (.inr rfl))) (by simp [closing]) ending
  | metrics => exact .steady id ⟨rfl, rfl, rfl, rfl, rfl, rfl, rfl⟩ (by simp [fire, IsQuiet])

/-- **A sound link takes one of the courses**, whatever it has to answer. -/
theorem course_step (sound : Sound config l) (now : Millis) (input : Input) :
    Course config now l input (l.step config now input) := by
  cases input with
  | command command =>
    cases command with
    | connect url => exact course_connect url
    | send message => exact course_send message
    | close => exact course_close sound
  | transport event =>
    cases event with
    | connected generation => exact course_connected generation
    | connectFailed generation error => exact course_afterSocket (.inr ⟨error, rfl, rfl⟩)
    | message generation message => exact course_receive generation message
    | closed generation error => exact course_afterSocket (.inl rfl)
  | timer timer =>
    by_cases armed : (l.deadline timer).isSome = true
    · rw [step, if_pos armed]
      exact course_fire sound timer armed
    · rw [step, if_neg armed]
      refine .idle fun decides => armed ?_
      cases timer with
      | reconnect => exact decides
      | _ => exact absurd decides id

/-! ## Soundness is kept -/

theorem Sound.of_same {l' : Link} (sound : Sound config l) (same : SameLife l l') :
    Sound config l' where
  policy_eq := by rw [same.lifecycle]; exact sound.policy_eq
  socket_eq := by rw [same.socket, state, same.lifecycle]; exact sound.socket_eq
  heartbeat_iff := by rw [same.heartbeat, state, same.lifecycle]; exact sound.heartbeat_iff
  closeGrace_iff := by rw [same.closeGrace, state, same.lifecycle]; exact sound.closeGrace_iff
  published_eq := by rw [same.published, state, same.lifecycle]; exact sound.published_eq
  reconnect_iff := by rw [same.reconnect, state, same.lifecycle]; exact sound.reconnect_iff
  url_isSome := by rw [same.url, state, same.lifecycle]; exact sound.url_isSome
  attempts_le := by rw [same.lifecycle]; exact sound.attempts_le
  termination_eq := by rw [state, same.lifecycle]; exact sound.termination_eq
  eligible_of_up := by rw [isUp, state, same.lifecycle]; exact sound.eligible_of_up

theorem Sound.reconnect_eq_none (sound : Sound config l) (up : l.state ≠ .disconnected) :
    l.reconnect = none := by
  cases armed : l.reconnect with
  | none => rfl
  | some due => exact absurd (sound.reconnect_iff.1 (by simp [armed])).1 up

/-- The end of a socket leaves a sound link behind.  The link before need not be sound: a link that
the user ends has its termination set while it still holds its socket. -/
theorem Ending.sound {error : Option Error} {turn : Turn} (ending : Ending now error l turn)
    (policy : l.lifecycle.policy = .ofConnection config.connection) (known : l.url.isSome)
    (bound : l.lifecycle.attempts ≤ l.lifecycle.policy.maxAttempts) (unarmed : l.reconnect = none) :
    Sound config turn.link := by
  cases ending with
  | retried free eligible left =>
    have counted : l.lifecycle.attempts + 1 ≤ l.lifecycle.policy.maxAttempts := left
    constructor <;> simp_all [letGo, isUp]
  | lost free eligible spent => constructor <;> simp_all [letGo, isUp, dropPending]
  | stopped ended =>
    have free : l.lifecycle.termination ≠ none := Option.isSome_iff_ne_none.1 ended
    constructor <;> simp_all [letGo, isUp, dropPending]
  | idle free fresh => constructor <;> simp_all [letGo, isUp, dropPending]

/-- **A sound link stays sound**, whatever course it takes. -/
theorem Course.sound {input : Input} {turn : Turn} (course : Course config now l input turn)
    (sound : Sound config l) : Sound config turn.link := by
  cases course with
  | steady minor same quiet => exact sound.of_same same
  | heard message current => exact sound.of_same ⟨rfl, rfl, rfl, rfl, rfl, rfl, rfl⟩
  | @dialed input url cause down =>
    have unspent : (l.dialing url).lifecycle.attempts ≤ l.lifecycle.policy.maxAttempts := by
      have := sound.attempts_le
      simp only [dialing]
      split <;> omega
    have closed := sound.heartbeat_iff
    have graced := sound.closeGrace_iff
    have policy := sound.policy_eq
    constructor <;> simp_all [dialing, isUp]
  | opened connecting =>
    have unarmed := sound.reconnect_eq_none (by simp [connecting])
    have := sound.url_isSome (.inl (by simp [connecting]))
    have := sound.termination_eq (by simp [connecting])
    have graced := sound.closeGrace_iff
    have held := sound.socket_eq
    have policy := sound.policy_eq
    constructor <;> simp_all [opening, isUp]
  | announced current up =>
    have unarmed := sound.reconnect_eq_none (by simp [up])
    have := sound.url_isSome (.inl (by simp [up]))
    have := sound.termination_eq (by simp [up])
    have := sound.eligible_of_up (by simp [isUp, up])
    have held := sound.socket_eq
    have policy := sound.policy_eq
    have := sound.attempts_le
    constructor <;> simp_all [expiring, isUp]
  | superseded current =>
    obtain ⟨-, up⟩ := isCurrent_iff.1 current
    have unarmed := sound.reconnect_eq_none up
    exact { sound with
      reconnect_iff := by simp [unarmed, Lifecycle.superseded]
      url_isSome := fun _ => sound.url_isSome (.inl up)
      termination_eq := fun _ => .inr rfl
      eligible_of_up := fun _ => .inr rfl }
  | abandoned down =>
    exact { sound with
      reconnect_iff := by simp [resigned]
      termination_eq := fun up => absurd down up
      eligible_of_up := fun up => by simp [isUp, resigned, down] at up }
  | closed up ending =>
    exact ending.sound sound.policy_eq (sound.url_isSome (.inl up)) sound.attempts_le rfl
  | ended cause up ending =>
    exact ending.sound sound.policy_eq (sound.url_isSome (.inl up)) sound.attempts_le
      (sound.reconnect_eq_none up)

end

end Link
end Lookout
