import Lookout.Proofs.Link.Hearing
import Lookout.Proofs.System.Display
import Lookout.Proofs.System.Notices

/-!
# What comes of inbound messages

What a message says is read off the message alone, and a link passes on just that.  Here this is
followed into the console: a message for the application is told, and a result waits on its channel,
if a stream runs there (`Heard`, `heard_hear`).  Whatever is wrong with a message stays with it
(`hear_of_faulty`).  Both are said of messages that the link answers one after another, which is
what it does with those that wait (`after_transport`); what the application is told in all is said
of every run, whatever comes between the messages (`inbound_law`).

## Main definitions

* `System.told` — the messages that the application has been told.
* `StreamTable.queued` — the results that wait on a channel.
* `System.hear` — messages of a socket, answered one after another, and `System.Heard` — what comes
  of them.
-/

namespace Lookout

/-- The message that an observation tells. -/
def Observation.message? : Observation → Option Inbound
  | .notice _ told => told.message?
  | _ => none

/-! ## Queues -/

namespace StreamTable

/-- The results that wait on a channel, if a stream runs on it. -/
def queued (t : StreamTable) (channel : ChannelId) : Option (List Result) :=
  (t.find? channel).map (·.queue.entries)

variable (t : StreamTable) (channel : ChannelId)

theorem queued_update {s : Stream} (found : t.find? s.channel = some s) (s' : Stream)
    (own : s'.channel = s.channel) :
    (t.update s').queued channel =
      if s.channel = channel then some s'.queue.entries else t.queued channel := by
  by_cases same : s.channel = channel
  · subst same
    simp [queued, find?_update, own, found]
  · simp [queued, find?_update, own, same]

/-- A result waits on its channel, behind all others, if a stream runs there. -/
theorem queued_pushResult (result : Result) :
    ((t.pushResult result).toOption.getD t).queued channel =
      (t.queued channel).map (· ++ [result].filter (·.channel = channel)) := by
  cases found : t.find? result.channel with
  | none =>
    by_cases own : result.channel = channel
    · subst own
      simp [pushResult, queued, found, Except.toOption]
    · simp [pushResult, found, own, Except.toOption]
  | some s =>
    have place : s.channel = result.channel := channel_of_find? found
    rw [← place] at found
    have there := queued_update t channel found (s.pushResult result) rfl
    rw [place] at found there
    simp only [pushResult, found, Except.toOption, Option.getD_some, there]
    by_cases own : result.channel = channel
    · subst own
      simp [queued, found, Stream.pushResult, MatchQueue.push]
    · simp [own]

theorem queue_latchEpoch (s : Stream) (time : Timestamp) :
    (s.latchEpoch time).1.queue = s.queue := by
  cases epoch : s.epoch <;> simp [Stream.latchEpoch, epoch]

/-- A binary message lets no result wait. -/
theorem queued_route (minLength : Nat) (raw : Bytes) :
    (((t.route minLength raw).toOption.map (·.1)).getD t).queued channel = t.queued channel := by
  cases decoded : Frame.decode raw with
  | error fault => simp [route, decoded, Except.map, Except.toOption]
  | ok frame =>
    simp only [route, decoded, Except.map, Except.toOption, Option.map_some, Option.getD_some,
      deliver]
    cases found : t.find? frame.channel with
    | none => rfl
    | some s =>
      have place : s.channel = frame.channel := channel_of_find? found
      rw [← place] at found
      have own : ((s.latchEpoch frame.timestamp).1.feed frame.payload minLength).1.channel =
          s.channel := s.channel_latchEpoch frame.timestamp
      refine (queued_update t channel found _ own).trans ?_
      split
      · next own =>
        subst own
        simp [queued, found, Stream.feed, queue_latchEpoch]
      · rfl

/-- What is heard lets the result wait that it carries. -/
theorem queued_hearing {config : Config} {now : Millis} {l : Link} {message : WireMessage}
    {turn : Turn} (hearing : Link.Hearing config now l message turn) (minLength : Nat) :
    (turn.effects.foldl (Effect.onStreams minLength) t).queued channel =
      (t.queued channel).map (· ++ message.result?.toList.filter (·.channel = channel)) := by
  cases hearing with
  | faulty silent => simp [WireMessage.result?, silent]
  | announced read code => simp [Link.effects_announced, WireMessage.result?, read, code]
  | superseded read code => simp [Effect.onStreams, WireMessage.result?, read, code]
  | @passed text message spoken =>
    rw [List.foldl_append]
    cases WireMessage.result? (.text text) with
    | none => simp [Effect.onStreams]
    | some result => exact queued_pushResult t channel result
  | @binary raw =>
    refine (queued_route t channel minLength raw).trans ?_
    simp [WireMessage.result?, WireMessage.members?]
  | close => simp [WireMessage.result?, WireMessage.members?]

end StreamTable

namespace System

/-- The messages that the application has been told, latest first. -/
def told (s : System) : List Inbound := s.trace.filterMap Observation.message?

/-- The console when the link answers messages of a socket one after another. -/
def hear (s : System) (generation : Nat) (messages : List WireMessage) : System :=
  messages.foldl (fun s message => s.answer (.transport (.message generation message))) s

variable {s s' : System} {effects : List Effect}

theorem told_eq (s : System) : s.told = s.linkNotices.filterMap Notice.message? := by
  rw [told, linkNotices, List.filterMap_filterMap]
  congr 1
  funext o
  cases o with
  | notice time told => cases told <;> rfl
  | _ => rfl

theorem filterMap_message (effects : List Effect) :
    (effects.filterMap Effect.linkNotice?).filterMap Notice.message? =
      effects.filterMap Effect.message? := by
  rw [List.filterMap_filterMap]
  congr 1
  funext effect
  cases effect with
  | notify told => cases told <;> rfl
  | _ => rfl

theorem Performed.told_eq (done : Performed s effects s') :
    s'.told = (effects.filterMap Effect.message?).reverse ++ s.told := by
  rw [System.told_eq, System.told_eq, done.notices_eq, List.filterMap_append,
    List.filterMap_reverse, filterMap_message]

/-- The link displays nothing when it hears something. -/
theorem not_aligned_of_hearing {config : Config} {now : Millis} {l : Link} {message : WireMessage}
    {turn : Turn} (hearing : Link.Hearing config now l message turn) (result : Result) :
    .notify (.aligned result) ∉ turn.effects := by
  cases hearing with
  | announced => simp [Link.effects_announced]
  | passed => simp
  | faulty | superseded | binary | close => simp

/-- What becomes of the console when the link has heard a message. -/
structure Heard (s : System) (generation : Nat) (messages : List WireMessage) (s' : System) :
    Prop where
  /-- the socket is live as before -/
  isCurrent : s'.link.lifecycle.isCurrent generation = true
  /-- the application has been told what the messages say to it -/
  told_eq : s'.told = (messages.filterMap WireMessage.application?).reverse ++ s.told
  /-- the results that the messages carry wait on their channels -/
  queued_eq : ∀ channel, s'.streams.queued channel =
    (s.streams.queued channel).map
      (· ++ (messages.filterMap WireMessage.result?).filter (·.channel = channel))

theorem Heard.refl {generation : Nat} (current : s.link.lifecycle.isCurrent generation = true) :
    Heard s generation [] s :=
  ⟨current, rfl, fun channel => by simp⟩

theorem Heard.trans {s'' : System} {generation : Nat} {messages later : List WireMessage}
    (first : Heard s generation messages s') (second : Heard s' generation later s'') :
    Heard s generation (messages ++ later) s'' where
  isCurrent := second.isCurrent
  told_eq := by
    rw [second.told_eq, first.told_eq, List.filterMap_append, List.reverse_append,
      List.append_assoc]
  queued_eq channel := by
    rw [second.queued_eq, first.queued_eq, Option.map_map, List.filterMap_append,
      List.filter_append]
    simp [Function.comp_def]

theorem heard_commit {generation : Nat} {message : WireMessage} {turn : Turn}
    (current : s.link.lifecycle.isCurrent generation = true)
    (hearing : Link.Hearing s.config s.now s.link message turn) :
    Heard s generation [message] (s.commit turn) := by
  have done := performed_commit s turn
  have stage := stage_performAll { s with link := turn.link } (not_aligned_of_hearing hearing)
  have streams : (s.commit turn).streams = _ := congrArg Stage.streams stage
  refine ⟨?_, ?_, fun channel => ?_⟩
  · rw [done.link_eq]
    exact hearing.isCurrent current
  · rw [done.told_eq, hearing.passed_eq.1]
    cases said : message.application? <;> simp [said] <;> rfl
  · rw [streams]
    refine (s.streams.queued_hearing channel hearing _).trans ?_
    cases carried : message.result? <;> simp [carried]

/-- **What is heard is passed on**, message by message. -/
theorem heard_hear {generation : Nat} (current : s.link.lifecycle.isCurrent generation = true)
    (messages : List WireMessage) : Heard s generation messages (s.hear generation messages) := by
  induction messages generalizing s with
  | nil => exact .refl current
  | cons message later ih =>
    have first : Heard s generation [message]
        (s.answer (.transport (.message generation message))) :=
      heard_commit current (Link.hearing_receive current message)
    exact first.trans (ih first.isCurrent)

/-- **A message at fault changes nothing**, but for the time at which something last arrived; it is
told if it is an object. -/
theorem hear_of_faulty {generation : Nat} {message : WireMessage}
    (current : s.link.lifecycle.isCurrent generation = true) (faulty : message.IsFaulty) :
    s.hear generation [message] =
      { s with
        link := { s.link with lastInbound := s.now }
        trace := message.application?.toList.map (.notice s.now <| .message ·) ++ s.trace } := by
  have hearing : Link.Hearing s.config s.now s.link message
      (s.link.step s.config s.now (.transport (.message generation message))) :=
    Link.hearing_receive current message
  obtain ⟨link_eq, effects_eq⟩ := hearing.of_faulty faulty
  simp only [hear, List.foldl_cons, List.foldl_nil, answer, commit, link_eq]
  rcases effects_eq with told | ⟨raw, rfl, short, delivered⟩
  · rw [told]
    cases message.application? <;> rfl
  · rw [delivered]
    simp [perform, StreamTable.route, Frame.decode, Frame.headerLength, short, Except.map,
      WireMessage.application?, WireMessage.members?]

/-! ## Reports that wait -/

theorem trace_notifyAll (s : System) (notices : List Notice) :
    notices.foldl notify s =
      { s with trace := (notices.map (.notice s.now)).reverse ++ s.trace } := by
  induction notices generalizing s with
  | nil => rfl
  | cons notice notices ih =>
    rw [List.foldl_cons, ih]
    simp [notify, observe]

/-- A console in which other reports wait. -/
def withReports (s : System) (transport : List TransportEvent) : System := { s with transport }

/-- No effect looks at the reports that wait. -/
theorem perform_withReports (s : System) (transport : List TransportEvent) (effect : Effect) :
    (s.withReports transport).perform effect = (s.perform effect).withReports transport := by
  cases effect with
  | dial | hand | release | notify => rfl
  | endStreams => simp only [perform, trace_observeCalls, withReports]
  | queueResult result =>
    simp only [perform, withReports]
    cases s.streams.pushResult result <;> rfl
  | deliver raw =>
    simp only [perform, trace_observeCalls, withReports]
    cases s.streams.route s.config.demux.minPictureLength raw <;> rfl
  | reportStreams => simp only [perform, trace_notifyAll, withReports]

theorem answer_withReports (s : System) (transport : List TransportEvent) (input : Input) :
    (s.withReports transport).answer input = (s.answer input).withReports transport := by
  have all (effects : List Effect) (s : System) :
      effects.foldl perform (s.withReports transport) =
        (effects.foldl perform s).withReports transport := by
    induction effects generalizing s with
    | nil => rfl
    | cons effect effects ih => rw [List.foldl_cons, List.foldl_cons, perform_withReports, ih]
  exact all _ { s with link := (s.link.step s.config s.now input).link }

theorem hear_withReports (s : System) (transport : List TransportEvent) (generation : Nat)
    (messages : List WireMessage) :
    (s.withReports transport).hear generation messages =
      (s.hear generation messages).withReports transport := by
  induction messages generalizing s with
  | nil => rfl
  | cons message later ih =>
    rw [hear, List.foldl_cons, answer_withReports]
    exact ih _

theorem move_transport {event : TransportEvent} {rest : List TransportEvent}
    (driving : s.driving = true) (waiting : s.transport = event :: rest) :
    s.move (.act .transport) = (s.answer (.transport event)).withReports rest := by
  have enabled : s.enabled .transport = true := by simp [System.enabled, driving, waiting]
  rw [← answer_withReports, move, if_pos enabled, act, waiting]
  rfl

/-- Messages that wait are heard one after another. -/
theorem after_transport (config : Config) (moves : List Move) {generation : Nat}
    {messages : List WireMessage} {rest : List TransportEvent}
    (driving : (after config moves).driving = true)
    (waiting : (after config moves).transport = messages.map (.message generation) ++ rest) :
    after config (List.replicate messages.length (.act .transport) ++ moves) =
      ((after config moves).hear generation messages).withReports rest := by
  induction messages generalizing moves with
  | nil =>
    rw [List.map_nil, List.nil_append] at waiting
    rw [← waiting]
    rfl
  | cons message later ih =>
    have next : after config (.act .transport :: moves) = _ := move_transport driving waiting
    have driving' : (after config (.act .transport :: moves)).driving = true := by
      rw [next]
      exact (performed_commit _ _).driving_eq.trans driving
    have goes_on := ih (.act .transport :: moves) driving' (by rw [next]; rfl)
    rw [List.length_cons, List.replicate_succ', List.append_assoc, List.singleton_append, goes_on,
      next, hear_withReports]
    rfl

/-- What the application has been told about the link is what the turns of the link tell. -/
theorem linkNotices_after (config : Config) (moves : List Move) :
    (after config moves).linkNotices =
      (Link.effects config (inputs config moves)).filterMap Effect.linkNotice? := by
  induction moves with
  | nil => rfl
  | cons m past ih =>
    have stride := stride_move (after config past) m
    have told := stride.notices_eq
    simp only [inputs]
    cases answers : (after config past).input? m with
    | none =>
      rw [answers] at told
      exact told.trans ih
    | some input =>
      rw [answers] at told stride
      have link := link_after config past stride.taken.1
      rw [config_after, link] at told
      simp only [Option.map_some, Option.toList_some, List.cons_append, List.nil_append,
        Link.effects, List.filterMap_append, List.filterMap_reverse]
      rw [← ih]
      exact told

/-- **What comes of inbound messages.**  On every run the application is told exactly the messages
that the texts on the live socket are for it, in the order of their arrival and each once, whatever
else is in them; and the results that are let wait are exactly those that these texts carry.  At
every moment, whatever messages come next on the live socket, it stays live, the application is told
what they say to it, and each result that they carry waits behind all others on its channel, if a
stream runs there, and nothing else does.  A message at fault changes nothing at all in the console,
but for the time at which something last arrived, and that it is told if it is an object. -/
theorem inbound_law (config : Config) (moves : List Move) :
    let s := after config moves
    let history := inputs config moves
    let heard := Link.heard config history
    s.told = heard.filterMap WireMessage.application? ∧
    (Link.effects config history).filterMap Effect.result? =
      heard.filterMap WireMessage.result? ∧
    ∀ generation, s.link.lifecycle.isCurrent generation = true →
      (∀ messages, Heard s generation messages (s.hear generation messages)) ∧
      (∀ message, message.IsFaulty → s.hear generation [message] =
        { s with
          link := { s.link with lastInbound := s.now }
          trace := message.application?.toList.map (.notice s.now <| .message ·) ++ s.trace }) ∧
      (∀ messages rest, s.driving = true →
        s.transport = messages.map (.message generation) ++ rest →
        after config (List.replicate messages.length (.act .transport) ++ moves) =
          (s.hear generation messages).withReports rest) := by
  intro s history heard
  obtain ⟨messages_eq, results_eq⟩ := Link.passed_after config history
  refine ⟨?_, results_eq, fun generation current => ⟨heard_hear current, fun message faulty =>
    hear_of_faulty current faulty, fun messages rest driving waiting =>
    after_transport config moves driving waiting⟩⟩
  rw [told_eq, linkNotices_after, filterMap_message]
  exact messages_eq

end System

end Lookout
