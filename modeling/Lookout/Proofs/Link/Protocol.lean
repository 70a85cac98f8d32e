import Lookout.Proofs.Link.Chronicle
import Lookout.Proofs.Link.History

/-!
# A link keeps the protocol

`chronicle` is the chronicle of a history.  A link remembers just enough of its own chronicle to go
on with it (`Tracks`), and every course of a sound link adds marks that may follow
(`Course.tracks`).  One thing the link does not check itself: that no message reaches it before it
is open.  It is asked of the history (`Timely`), and the tasks that run sockets see to it.
-/

namespace Lookout

/-- What an effect tells about the link. -/
def Effect.linkNotice? : Effect → Option Notice
  | .notify notice => if notice.isLink then some notice else none
  | _ => none

/-- What a turn tells about the link, latest first. -/
def Turn.told (turn : Turn) : Chronicle :=
  (turn.effects.filterMap Effect.linkNotice?).reverse.map .told

namespace Link

/-- What makes the link change from outside. -/
def cause (l : Link) : Input → Chronicle
  | .command (.connect _) =>
    if l.state = .disconnected then [.accepted l.lifecycle.isTerminated] else []
  | .command .close => [.resigned]
  | .timer .reconnect => if l.reconnect.isSome then [.retried] else []
  | _ => []

/-- The chronicle of a history. -/
def chronicle (config : Config) : History → Chronicle
  | [] => []
  | (now, input) :: past =>
    ((after config past).step config now input).told ++ (after config past).cause input ++
      chronicle config past

/-- No message reaches the link before it is open. -/
def Timely (config : Config) : History → Prop
  | [] => True
  | (_, input) :: past =>
    (∀ generation message, input = .transport (.message generation message) →
      (after config past).lifecycle.isCurrent generation = true →
      (after config past).isUp = true) ∧ Timely config past

/-! ## What a link remembers of its chronicle -/

/-- A link remembers its chronicle. -/
structure Tracks (l : Link) (c : Chronicle) : Prop where
  isUp_eq : c.isUp = l.isUp
  attempts_eq : c.attempts = l.lifecycle.attempts
  isRenounced_eq : l.isUp = true → c.isRenounced = l.lifecycle.isTerminated
  finished : c.isOver = true → l.state = .disconnected ∧ l.lifecycle.isTerminated = true
  admits : l.state = .connecting → l.lifecycle.isTerminated = false → c.admitsVerdict = true
  owned : l.state = .connecting → l.lifecycle.termination ≠ some .superseded
  settled : c.owesVerdict = false

theorem tracks_new (config : Config) : Tracks (new config) [] := by
  constructor <;> simp [new, Lifecycle.new, isUp, Chronicle.isUp, Chronicle.attempts,
    Chronicle.isRenounced, Chronicle.isOver, Chronicle.owesVerdict]

section
variable {config : Config} {now : Millis} {l : Link} {input : Input} {turn : Turn} {limit : Nat}
  {c : Chronicle} {error : Option Error}

theorem Tracks.of_same {l' : Link} (tracks : Tracks l c) (same : SameLife l l') : Tracks l' c where
  isUp_eq := by rw [isUp, state, same.lifecycle]; exact tracks.isUp_eq
  attempts_eq := by rw [same.lifecycle]; exact tracks.attempts_eq
  isRenounced_eq := by rw [isUp, state, same.lifecycle]; exact tracks.isRenounced_eq
  finished := by rw [state, same.lifecycle]; exact tracks.finished
  admits := by rw [state, same.lifecycle]; exact tracks.admits
  owned := by rw [state, same.lifecycle]; exact tracks.owned
  settled := tracks.settled

theorem Tracks.live (tracks : Tracks l c) (held : l.state ≠ .disconnected) : c.isOver = false :=
  Bool.eq_false_iff.2 fun isOver => held (tracks.finished isOver).1

theorem Tracks.resigned (tracks : Tracks l c) : Tracks l.resigned (.resigned :: c) where
  isUp_eq := tracks.isUp_eq
  attempts_eq := tracks.attempts_eq
  isRenounced_eq _ := rfl
  finished isOver := ⟨(tracks.finished isOver).1, rfl⟩
  admits _ free := by cases free
  owned _ := nofun
  settled := rfl

/-! ## The end of a socket -/

/-- The end of a link that was up is told. -/
def tellEnd (error : Option Error) (l : Link) (c : Chronicle) : Chronicle :=
  if l.isUp then .told (.disconnected error) :: c else c

theorem told_parting (link : Link) (tail : List Effect) :
    (Turn.mk link (l.parting error ++ tail)).told ++ c =
      (Turn.mk link tail).told ++ l.tellEnd error c := by
  cases up : l.isUp <;> cases held : l.socket <;>
    simp [Turn.told, parting, tellEnd, up, held, List.filterMap_cons, Effect.linkNotice?,
      Notice.isLink]

theorem told_parting_nil (link : Link) :
    (Turn.mk link (l.parting error)).told ++ c = l.tellEnd error c := by
  rw [← List.append_nil (l.parting error)]
  exact told_parting link []

theorem Tracks.chain_tellEnd (tracks : Tracks l c) (held : l.state ≠ .disconnected)
    (chain : c.Chain limit) (error : Option Error) : (l.tellEnd error c).Chain limit := by
  simp only [tellEnd]
  split
  · next up => exact ⟨.disconnected (tracks.live held) (tracks.isUp_eq.trans up), chain⟩
  · exact chain

/-- Once the end has been told, a verdict may come unless the link was ended on purpose. -/
theorem Tracks.tellEnd (tracks : Tracks l c) (held : l.state ≠ .disconnected)
    (error : Option Error) :
    (l.tellEnd error c).isUp = false ∧ (l.tellEnd error c).attempts = l.lifecycle.attempts ∧
    (l.lifecycle.isTerminated = false →
      (l.tellEnd error c).isOver = false ∧ (l.tellEnd error c).admitsVerdict = true) ∧
    (l.tellEnd error c).owesVerdict = (l.isUp && !l.lifecycle.isTerminated) := by
  cases up : l.isUp with
  | true =>
    have kept := tracks.isRenounced_eq up
    refine ⟨by simp [Link.tellEnd, up, Chronicle.isUp], ?_, fun free => ⟨?_, ?_⟩, ?_⟩
    · simpa [Link.tellEnd, up, Chronicle.attempts] using tracks.attempts_eq
    · simp [Link.tellEnd, up, Chronicle.isOver, kept, free]
    · simp [Link.tellEnd, up, Chronicle.admitsVerdict, Chronicle.owesVerdict, kept, free]
    · simp [Link.tellEnd, up, Chronicle.owesVerdict, kept]
  | false =>
    have connecting : l.state = .connecting := by
      cases s : l.state <;> simp_all [isUp]
    simp only [Link.tellEnd, up, Bool.false_and]
    exact ⟨tracks.isUp_eq.trans up, tracks.attempts_eq,
      fun free => ⟨tracks.live held, tracks.admits connecting free⟩, tracks.settled⟩

/-- A link that is down after its end has been told remembers its chronicle. -/
theorem tracks_down (down : l.state = .disconnected) (isUp : c.isUp = false)
    (attempts : c.attempts = l.lifecycle.attempts)
    (finished : c.isOver = true → l.lifecycle.isTerminated = true)
    (settled : c.owesVerdict = false) : Tracks l c where
  isUp_eq := by simp [isUp, Link.isUp, down]
  attempts_eq := attempts
  isRenounced_eq up := by simp [Link.isUp, down] at up
  finished isOver := ⟨down, finished isOver⟩
  admits connecting := by rw [down] at connecting; cases connecting
  owned connecting := by rw [down] at connecting; cases connecting
  settled := settled

/-- A link that is up remembers its chronicle. -/
theorem tracks_up (up : l.isUp = true) (isUp : c.isUp = true)
    (attempts : c.attempts = l.lifecycle.attempts)
    (renounced : c.isRenounced = l.lifecycle.isTerminated) (live : c.isOver = false)
    (settled : c.owesVerdict = false) : Tracks l c where
  isUp_eq := isUp.trans up.symm
  attempts_eq := attempts
  isRenounced_eq _ := renounced
  finished isOver := absurd isOver (Bool.eq_false_iff.1 live)
  admits connecting := by simp [Link.isUp, connecting] at up
  owned connecting := by simp [Link.isUp, connecting] at up
  settled := settled

/-- A link that dials remembers its chronicle. -/
theorem tracks_dialing {url : String} (isUp : c.isUp = false)
    (attempts : c.attempts = (l.dialing url).lifecycle.attempts) (live : c.isOver = false)
    (admits : c.admitsVerdict = true) (settled : c.owesVerdict = false) :
    Tracks (l.dialing url) c where
  isUp_eq := isUp
  attempts_eq := attempts
  isRenounced_eq up := by cases up
  finished isOver := absurd isOver (Bool.eq_false_iff.1 live)
  admits _ _ := admits
  owned _ := nofun
  settled := settled

theorem Ending.tracks (ending : Ending now error l turn) (tracks : Tracks l c)
    (chain : c.Chain limit) (held : l.state ≠ .disconnected)
    (policy : l.lifecycle.policy.maxAttempts = limit) (bound : l.lifecycle.attempts ≤ limit)
    (eligible : l.isUp = true →
      l.lifecycle.autoReconnect = true ∨ l.lifecycle.isTerminated = true) :
    (turn.told ++ c).Chain limit ∧ Tracks turn.link (turn.told ++ c) := by
  have told := tracks.chain_tellEnd held chain error
  obtain ⟨down, attempts, verdict, owed⟩ := tracks.tellEnd held error
  cases ending with
  | retried free _ left =>
    obtain ⟨live, due⟩ := verdict (by simp [Lifecycle.isTerminated, free])
    rw [policy] at left
    rw [told_parting, policy, ← attempts]
    exact ⟨⟨.reconnecting live due (attempts ▸ left), told⟩, tracks_down rfl down rfl
      (fun isOver => absurd isOver (Bool.eq_false_iff.1 live)) rfl⟩
  | lost free _ spent =>
    obtain ⟨live, due⟩ := verdict (by simp [Lifecycle.isTerminated, free])
    have all : l.lifecycle.attempts = limit := Nat.le_antisymm bound (policy ▸ spent)
    rw [told_parting, all]
    exact ⟨⟨.linkLost live due (attempts.trans all), told⟩,
      tracks_down rfl down attempts (fun _ => rfl) rfl⟩
  | stopped ended =>
    rw [told_parting_nil]
    exact ⟨told, tracks_down rfl down attempts (fun _ => ended) (by
      simpa [Lifecycle.isTerminated, ended] using owed)⟩
  | idle free fresh =>
    -- An eligible link cannot get here once it is up.
    have ready : l.isUp = false := by
      cases up : l.isUp with
      | false => rfl
      | true => simpa [fresh, Lifecycle.isTerminated, free] using eligible up
    obtain ⟨live, -⟩ := verdict (by simp [Lifecycle.isTerminated, free])
    rw [told_parting_nil]
    exact ⟨told, tracks_down rfl down attempts
      (fun isOver => absurd isOver (Bool.eq_false_iff.1 live))
      (by simpa [ready] using owed)⟩

/-! ## Courses -/

theorem told_of_quiet {effects : List Effect} {link : Link}
    (quiet : ∀ effect ∈ effects, l.IsQuiet effect) : (Turn.mk link effects).told = [] := by
  have silent : effects.filterMap Effect.linkNotice? = [] := by
    rw [List.filterMap_eq_nil_iff]
    intro effect member
    have := quiet effect member
    cases effect with
    | notify => exact absurd this id
    | _ => rfl
  simp [Turn.told, silent]

theorem cause_of_not_decides (minor : ¬ l.Decides input) : l.cause input = [] := by
  cases input with
  | command command =>
    cases command with
    | connect url => exact if_neg minor
    | send => rfl
    | close => exact absurd trivial minor
  | transport => rfl
  | timer timer =>
    cases timer with
    | reconnect => exact if_neg minor
    | _ => rfl

theorem told_heard (link : Link) (message : Inbound) :
    (Turn.mk link (resultEffects message ++ [.notify (.message message)])).told =
      [.told (.message message)] := by
  have silent : (resultEffects message).filterMap Effect.linkNotice? = [] := by
    rw [List.filterMap_eq_nil_iff]
    intro effect member
    obtain ⟨result, rfl⟩ := eq_queueResult_of_mem member
    rfl
  simp [Turn.told, silent, Effect.linkNotice?, Notice.isLink]

/-- **The marks of a turn may follow the chronicle**, and the link remembers them. -/
theorem Course.tracks (course : Course config now l input turn) (sound : Sound config l)
    (tracks : Tracks l c) (chain : c.Chain config.connection.reconnectAttempts)
    (timely : ∀ generation message, input = .transport (.message generation message) →
      l.lifecycle.isCurrent generation = true → l.isUp = true) :
    (turn.told ++ l.cause input ++ c).Chain config.connection.reconnectAttempts ∧
      Tracks turn.link (turn.told ++ l.cause input ++ c) := by
  have policy : l.lifecycle.policy.maxAttempts = config.connection.reconnectAttempts := by
    rw [sound.policy_eq]
    rfl
  cases course with
  | steady minor same quiet =>
    rw [told_of_quiet quiet, cause_of_not_decides minor]
    exact ⟨chain, tracks.of_same same⟩
  | heard message current =>
    obtain ⟨-, held⟩ := isCurrent_iff.1 current
    have up := timely _ _ rfl current
    have live := tracks.live held
    rw [told_heard]
    exact ⟨⟨.message live (tracks.isUp_eq.trans up), chain⟩,
      tracks_up up (tracks.isUp_eq.trans up) tracks.attempts_eq (tracks.isRenounced_eq up) live rfl⟩
  | @dialed input url cause down =>
    have isUp : c.isUp = false := tracks.isUp_eq.trans (by simp [isUp, down])
    rcases cause with rfl | ⟨rfl, -, armed⟩
    · have accepted : l.cause (.command (.connect url)) = [.accepted l.lifecycle.isTerminated] :=
        if_pos down
      have counted : Chronicle.attempts (.accepted l.lifecycle.isTerminated :: c) =
          (l.dialing url).lifecycle.attempts := by
        cases ended : l.lifecycle.isTerminated with
        | true => simp [dialing, ended, Chronicle.attempts]
        | false => simpa [dialing, ended, Chronicle.attempts] using tracks.attempts_eq
      rw [accepted]
      exact ⟨⟨.accepted tracks.settled, chain⟩, tracks_dialing isUp counted rfl rfl rfl⟩
    · have retried : l.cause (.timer .reconnect) = [.retried] := if_pos armed
      have free : l.lifecycle.isTerminated = false := by
        simp [Lifecycle.isTerminated, (sound.reconnect_iff.1 armed).2.1]
      have live : c.isOver = false := by
        cases isOver : c.isOver with
        | false => rfl
        | true => exact absurd (free.symm.trans (tracks.finished isOver).2) Bool.false_ne_true
      have counted : Chronicle.attempts (.retried :: c) = (l.dialing url).lifecycle.attempts := by
        simpa [dialing, free, Chronicle.attempts] using tracks.attempts_eq
      rw [retried]
      exact ⟨⟨.retried tracks.settled, chain⟩, tracks_dialing isUp counted live rfl rfl⟩
  | opened connecting =>
    have live := tracks.live (by simp [connecting])
    have down : c.isUp = false := tracks.isUp_eq.trans (by simp [isUp, connecting])
    have free : l.lifecycle.termination = none :=
      (sound.termination_eq (by simp [connecting])).resolve_right (tracks.owned connecting)
    have kept : l.lifecycle.isTerminated = false := by simp [Lifecycle.isTerminated, free]
    exact ⟨⟨.opened live tracks.settled down, chain⟩,
      tracks_up rfl rfl rfl kept.symm live rfl⟩
  | announced current isOpen =>
    have held : l.state ≠ .disconnected := by simp [isOpen]
    have up : l.isUp = true := by simp [isUp, isOpen]
    exact ⟨chain, tracks_up rfl (tracks.isUp_eq.trans up) tracks.attempts_eq
      (tracks.isRenounced_eq up) (tracks.live held) tracks.settled⟩
  | superseded current =>
    obtain ⟨-, held⟩ := isCurrent_iff.1 current
    have up := timely _ _ rfl current
    have live := tracks.live held
    exact ⟨⟨.superseded live (tracks.isUp_eq.trans up), chain⟩,
      tracks_up up (tracks.isUp_eq.trans up) tracks.attempts_eq rfl live rfl⟩
  | abandoned down => exact ⟨⟨.resigned tracks.settled, chain⟩, tracks.resigned⟩
  | closed held ending =>
    rw [List.append_assoc]
    exact ending.tracks tracks.resigned ⟨.resigned tracks.settled, chain⟩ held policy
      (policy ▸ sound.attempts_le) fun _ => .inr rfl
  | ended cause held ending =>
    have uncaused : l.cause input = [] := by
      rcases cause with rfl | ⟨e, -, rfl⟩ | rfl | rfl <;> rfl
    rw [uncaused, List.append_nil]
    exact ending.tracks tracks chain held policy (policy ▸ sound.attempts_le) fun up =>
      (sound.eligible_of_up up).imp_right fun taken => by simp [Lifecycle.isTerminated, taken]

end

variable {config : Config}

theorem tracks_chronicle {history : History} (timely : Timely config history) :
    (chronicle config history).Chain config.connection.reconnectAttempts ∧
      Tracks (after config history) (chronicle config history) := by
  induction history with
  | nil => exact ⟨trivial, tracks_new config⟩
  | cons turn past ih =>
    obtain ⟨chain, tracks⟩ := ih timely.2
    exact (course_after past turn.1 turn.2).tracks (sound_after past) tracks chain timely.1

/-- **A link keeps the protocol**, whatever it has to answer, if no message reaches it before it is
open. -/
theorem orderly_chronicle {history : History} (timely : Timely config history) :
    (chronicle config history).Orderly config.connection.reconnectAttempts :=
  let ⟨chain, tracks⟩ := tracks_chronicle timely
  chain.orderly tracks.settled

end Link
end Lookout
