import AudioRouter.Client.Model

/-!
# The negotiated configuration and its copy

`start()` configures the jitter buffer with `audio_config_`.  The heartbeat thread
repeats the handshake and does not: the copy in the jitter buffer is the negotiated
configuration as long as every renegotiation brings the same one.
-/

namespace AudioRouter

namespace Client

open Protocol Transition

/-- The jitter buffer sizes and copies packets by the negotiated configuration. -/
def ConfigsAgree (c : Client) : Prop :=
  c.jitterBuffer.config = c.audioConfig

instance (c : Client) : Decidable c.ConfigsAgree :=
  inferInstanceAs (Decidable (_ = _))

/-- A `CONNECT_ACK` that is accepted carries the configuration that is in use. -/
def AcceptsSame (c : Client) (action : Action) : Prop :=
  (c.acceptedBy action).all (fun config => decide (config = c.audioConfig)) = true

instance (c : Client) (action : Action) : Decidable (c.AcceptsSame action) :=
  inferInstanceAs (Decidable (_ = _))

section

variable {c d : Client} {action : Action}

/-- Where the copy agrees before a step, it agrees after it exactly when the step
accepts no other configuration. -/
theorem step_configsAgree (agree : c.ConfigsAgree) (stepped : c.step action = some d) :
    d.ConfigsAgree ↔ c.AcceptsSame action := by
  obtain ⟨kept, negotiated⟩ := step_keeps stepped
  unfold ConfigsAgree at agree ⊢
  rw [kept.config, negotiated, agree, AcceptsSame]
  cases c.acceptedBy action with
  | none => simp
  | some config => simp [eq_comm]

end

/-- In all states of a run of the streaming client the jitter buffer's configuration is
that of the last accepted `CONNECT_ACK`: exactly when every accepted one carries the
configuration that is in use. -/
theorem configs_agree_iff (config : ClientConfig) (audioConfig : AudioConfig)
    (nowMs : Clock) (actions : List Action) (t : Client)
    (reached : run step (start config audioConfig nowMs) actions = some t) :
    (∀ before u, before <+: actions →
        run step (start config audioConfig nowMs) before = some u → u.ConfigsAgree) ↔
      EveryStep step AcceptsSame (start config audioConfig nowMs) actions := by
  have passedOn : ∀ (c : Client) (action : Action) (d : Client), True → c.ConfigsAgree →
      c.step action = some d → (d.ConfigsAgree ↔ c.AcceptsSame action) :=
    fun _ _ _ _ agree stepped => step_configsAgree agree stepped
  exact
    everyState_iff (fun _ _ _ _ _ => trivial) passedOn actions trivial rfl reached

/-- The server falls silent, and the client repeats the handshake. -/
def reconnecting (ack : Datagram) : List Action :=
  .tick 5002 :: List.replicate 4 (.heartbeat none) ++ [.heartbeat (some ack)]

/-- The client that `start()` leaves behind for the stream of an acknowledgement. -/
def acknowledged (ack : Datagram) : Client :=
  start {} (ackConfig (.ofBytes ack)) 1

def reconnected (c : Client) (ack : Datagram) : Client :=
  (run step c (reconnecting ack)).getD c

/-- The server comes back with the configuration that it had. -/
theorem same_ack_agrees :
    (reconnected (acknowledged stereoAck) stereoAck).ConfigsAgree := by
  have reached :
      run step (acknowledged stereoAck) (reconnecting stereoAck) =
        some (reconnected (acknowledged stereoAck) stereoAck) :=
    run_eq_some_getD (by decide +kernel)
  have same :
      EveryStep step AcceptsSame (acknowledged stereoAck) (reconnecting stereoAck) := by
    decide +kernel
  exact
    (configs_agree_iff {} _ 1 _ _ reached).2 same _ _ List.prefix_rfl reached

/-- A client that streams in packets of 240 frames meets a server that was restarted
with packets of 480 frames. -/
theorem other_ack_disagrees :
    ¬ ∀ (config : ClientConfig) (audioConfig : AudioConfig) (nowMs : Clock)
        (actions : List Action) (t : Client),
        run step (start config audioConfig nowMs) actions = some t → t.ConfigsAgree := by
  intro claim
  have reached :
      run step (start {} { framesPerPacket := 240 } 1) (reconnecting stereoAck) =
        some (reconnected (start {} { framesPerPacket := 240 } 1) stereoAck) :=
    run_eq_some_getD (by decide +kernel)
  exact absurd (claim {} { framesPerPacket := 240 } 1 _ _ reached) (by decide +kernel)

end Client

end AudioRouter
