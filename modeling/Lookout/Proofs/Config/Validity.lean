import Lookout.Config.Basic
import Lookout.Proofs.Success

/-!
# Configurations that are accepted

What `Config.validate` has checked of a configuration that it accepts.
-/

namespace Lookout

theorem demand_eq_ok_iff {condition : Bool} {fault : ConfigFault} {done : Unit} :
    demand condition fault = .ok done ↔ condition = true := by
  cases condition <;> simp [demand]

theorem Connection.waits_pos {c : Connection} {done : Unit} (valid : c.validate = .ok done) :
    0 < c.heartbeatInterval ∧ 0 < c.reconnectInterval ∧ 0 < c.sendRetryDelay ∧
      0 < c.closeGrace := by
  rw [validate] at valid
  -- an address, if there is one, is checked first
  cases address : c.url
  all_goals
    simp only [address, bind_eq_ok_iff, demand_eq_ok_iff, decide_eq_true_eq] at valid
    obtain ⟨_, -, _, heartbeat, _, reconnect, _, retry, grace⟩ := valid
    exact ⟨heartbeat, reconnect, retry, grace⟩

namespace Config

/-- Every wait and every limit lets something happen, and the rate is a positive number. -/
structure Accepted (config : Config) : Prop where
  heartbeatInterval_pos : 0 < config.connection.heartbeatInterval
  reconnectInterval_pos : 0 < config.connection.reconnectInterval
  sendRetryDelay_pos : 0 < config.connection.sendRetryDelay
  closeGrace_pos : 0 < config.connection.closeGrace
  metricsInterval_pos : 0 < config.metrics.interval
  idleTimeout_ne : config.connection.idleTimeout ≠ some 0
  maxPendingSends_pos : 0 < config.connection.maxPendingSends
  frameRate_pos : isPositive config.alignment.frameRate = true

theorem accepted_of_validate {config : Config} (valid : config.validate = .ok ()) :
    config.Accepted := by
  simp only [validate, Connection.validateLimits, bind_eq_ok_iff, demand_eq_ok_iff,
    decide_eq_true_eq, bne_iff_ne] at valid
  obtain ⟨_, link, _, metrics, _, ⟨_, idle, pending⟩, _, rate, -⟩ := valid
  obtain ⟨heartbeat, reconnect, retry, grace⟩ := Connection.waits_pos link
  exact ⟨heartbeat, reconnect, retry, grace, metrics, idle, pending, rate⟩

theorem catchUpRate_of_validate {config : Config} (valid : config.validate = .ok ()) :
    isPositive config.playback.catchUpRate = true := by
  simp only [validate, Playback.validate, bind_eq_ok_iff, demand_eq_ok_iff] at valid
  obtain ⟨_, -, _, -, _, -, _, -, _, -, catchUp⟩ := valid
  exact catchUp

end Config
end Lookout
