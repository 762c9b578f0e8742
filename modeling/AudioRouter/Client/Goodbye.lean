import AudioRouter.Client.Stop

/-!
# What the server is told in the end

`stop()` says goodbye with one `DISCONNECT_REQ`.  A `CONNECT_REQ` of `perform_handshake` may
still follow it, and the server then takes the client for a new one.  In USB mode the goodbye
goes through the relay, which ends its loop as soon as `stop_requested_` is set.
-/

namespace AudioRouter

namespace ClientLifecycle

open Transition Protocol

/-- The goodbye is the last thing that has been sent. -/
def GoodbyeLast (s : ClientLifecycle) : Prop :=
  .disconnectReq ∈ s.sent → s.sent.head? = some .disconnectReq

/-- A `CONNECT_REQ` goes out behind the goodbye. -/
def sendsBehind (s : ClientLifecycle) : Action → Bool
  | .heartbeat _ opens =>
      match s.heartbeat with
      | .send _ => decide (.disconnectReq ∈ s.sent) && (s.socket.isSome || opens)
      | _ => false
  | _ => false

/-- One `DISCONNECT_REQ`, and at most one `CONNECT_REQ` behind it. -/
def Told (s : ClientLifecycle) : Prop :=
  .disconnectReq ∈ s.sent →
    ∃ rest, .disconnectReq ∉ rest ∧
      (s.sent = .disconnectReq :: rest ∨
        s.sent = .connectReq :: .disconnectReq :: rest ∧ ∀ retries, s.heartbeat ≠ .send retries)

section

variable {s t : ClientLifecycle} {a : Action}

theorem sendTo_sent (message : Sent) (opens : Bool) :
    (s.sendTo message opens).sent =
      if s.socket.isSome || opens then message :: s.sent else s.sent := by
  unfold sendTo
  cases s.socket with
  | some timed => rfl
  | none => cases opens <;> rfl

theorem Orderly.told_stopRequested (orderly : s.Orderly) (told : .disconnectReq ∈ s.sent) :
    s.stopRequested = true := by
  have late := (OrderlyAt.told orderly).1 told
  exact (OrderlyAt.requested orderly).2 (Nat.le_trans (by decide) late)

theorem Orderly.not_told_of_goesOn (orderly : s.Orderly) (on : s.goesOn = true) :
    .disconnectReq ∉ s.sent := by
  intro told
  rw [goesOn, orderly.told_stopRequested told, Bool.not_true, Bool.and_false] at on
  cases on

/-- What a step adds to the messages. -/
inductive Adds (s : ClientLifecycle) (a : Action) (t : ClientLifecycle) : Prop where
  | nothing (same : t.sent = s.sent) (quiet : s.sendsBehind a = false)
  | before (message : Sent) (untold : .disconnectReq ∉ s.sent)
    (sends : t.sent = message :: s.sent) (quiet : s.sendsBehind a = false)
  | behind (told : .disconnectReq ∈ s.sent) (sends : t.sent = .connectReq :: s.sent)
    (late : s.sendsBehind a = true) (retries : Nat) (place : s.heartbeat = .send retries)
    (next : t.heartbeat = .receive retries)

theorem adds_send {received : Option Datagram} {opens : Bool} {retries : Nat}
    (place : s.heartbeat = .send retries)
    (stepped : s.step (.heartbeat received opens) = some t) :
    Adds s (.heartbeat received opens) t := by
  have result := (heartbeatStep_send place).symm.trans stepped
  cases result
  have sent := s.sendTo_sent .connectReq opens
  by_cases goes : (s.socket.isSome || opens) = true
  · rw [if_pos goes] at sent
    by_cases told : .disconnectReq ∈ s.sent
    · exact .behind told sent (by simp [sendsBehind, place, told, goes]) retries place rfl
    · exact .before _ told sent (by simp [sendsBehind, place, told])
  · rw [if_neg goes] at sent
    exact .nothing sent (by simp [sendsBehind, place, goes])

theorem adds_step (orderly : s.Orderly) (stepped : s.step a = some t) : Adds s a t := by
  cases a with
  | tick nowMs =>
    simp only [step] at stepped
    split at stepped <;> cases stepped
    exact .nothing rfl rfl
  | net received => exact .nothing (netStep_frame stepped).sent rfl
  | heartbeat received opens =>
    by_cases sends : ∃ retries, s.heartbeat = .send retries
    · obtain ⟨retries, place⟩ := sends
      exact adds_send place stepped
    · have quiet : s.sendsBehind (.heartbeat received opens) = false := by
        simp only [sendsBehind]
        split
        · next retries place => exact absurd ⟨retries, place⟩ sends
        · rfl
      cases (heartbeatStep_cases stepped).2 with
      | quiet same _ => exact .nothing same.sent quiet
      | timeout _ same _ => exact .nothing same.sent quiet
      | ping opens on same _ =>
        have sent := same.sent.trans (s.sendTo_sent .heartbeatPing opens)
        rw [orderly.opened_of_goesOn on] at sent
        exact .before _ (orderly.not_told_of_goesOn on) sent quiet
      | send _ retries place _ _ => exact absurd ⟨retries, place⟩ sends
  | playback =>
    simp only [step, playbackStep] at stepped
    split at stepped <;> cases stepped <;> exact .nothing rfl rfl
  | relay round =>
    obtain ⟨_, _, _, rfl⟩ := relayStep_eq stepped
    exact .nothing rfl rfl
  | stop =>
    rcases (stopStep_frame stepped).sends with ⟨same, -⟩ | ⟨place, sent, -⟩
    · exact .nothing same rfl
    · refine .before _ (fun told => ?_) sent rfl
      have late := (OrderlyAt.told orderly).1 told
      rw [place] at late
      exact absurd late (by decide)

/-! ## The goodbye comes last -/

theorem goodbyeLast_step (orderly : s.Orderly) (last : s.GoodbyeLast)
    (stepped : s.step a = some t) : t.GoodbyeLast ↔ s.sendsBehind a = false := by
  cases adds_step orderly stepped with
  | nothing same quiet =>
    refine iff_of_true ?_ quiet
    rw [GoodbyeLast, same]
    exact last
  | before message untold sends quiet =>
    refine iff_of_true ?_ quiet
    rw [GoodbyeLast, sends]
    intro told
    rcases List.mem_cons.1 told with rfl | earlier
    · rfl
    · exact absurd earlier untold
  | behind told sends late _ _ _ =>
    refine iff_of_false ?_ (by simp [late])
    rw [GoodbyeLast, sends]
    intro last
    have first := last (List.mem_cons_of_mem _ told)
    rw [List.head?_cons] at first
    cases first

/-- Only the test of `stop_requested_` leads to a `CONNECT_REQ`. -/
theorem heartbeatStep_not_send {received : Option Datagram} {opens : Bool}
    (requested : s.stopRequested = true) (stepped : s.heartbeatStep received opens = some t)
    (retries : Nat) : t.heartbeat ≠ .send retries := by
  unfold heartbeatStep at stepped
  cases place : s.heartbeat with
  | checking | compare | handshake =>
    simp only [place] at stepped
    cases stepped
    dsimp only
    split <;> exact HeartbeatLoop.noConfusion
  | ping =>
    simp only [place] at stepped
    split at stepped
    · cases stepped
    · split at stepped <;> cases stepped <;> exact HeartbeatLoop.noConfusion
  | attempt left =>
    cases left with
    | zero =>
      simp only [place] at stepped
      cases stepped
      exact HeartbeatLoop.noConfusion
    | succ left =>
      simp only [place, requested] at stepped
      cases stepped
      exact HeartbeatLoop.noConfusion
  | receive left =>
    simp only [place] at stepped
    split at stepped <;> cases stepped <;> exact HeartbeatLoop.noConfusion
  | receiving timed left =>
    simp only [place] at stepped
    split at stepped <;> cases stepped
    unfold handshakeReceived
    split <;> exact HeartbeatLoop.noConfusion
  | readClock | loadPacketTime | setTimeout | send | storePacketTime =>
    simp only [place] at stepped
    cases stepped
    exact HeartbeatLoop.noConfusion
  | ended => simp [place] at stepped

/-- Once `stop_requested_` is set, `perform_handshake` passes no more tests. -/
theorem not_send_step (requested : s.stopRequested = true)
    (outside : ∀ retries, s.heartbeat ≠ .send retries) (stepped : s.step a = some t) :
    ∀ retries, t.heartbeat ≠ .send retries := by
  cases a with
  | tick nowMs =>
    simp only [step] at stepped
    split at stepped <;> cases stepped
    exact outside
  | net received =>
    rw [(netStep_frame stepped).heartbeat]
    exact outside
  | heartbeat received opens => exact heartbeatStep_not_send requested stepped
  | playback =>
    simp only [step, playbackStep] at stepped
    split at stepped <;> cases stepped <;> exact outside
  | relay round =>
    obtain ⟨_, _, _, rfl⟩ := relayStep_eq stepped
    exact outside
  | stop =>
    rw [(stopStep_frame stepped).heartbeat]
    exact outside

theorem Told.step (told : s.Told) (orderly : s.Orderly) (stepped : s.step a = some t) :
    t.Told := by
  cases adds_step orderly stepped with
  | nothing same quiet =>
    intro member
    rw [same] at member ⊢
    obtain ⟨rest, fresh, sent | ⟨sent, outside⟩⟩ := told member
    · exact ⟨rest, fresh, Or.inl sent⟩
    · have requested := orderly.told_stopRequested member
      exact ⟨rest, fresh, Or.inr ⟨sent, not_send_step requested outside stepped⟩⟩
  | before message untold sends quiet =>
    intro member
    rw [sends] at member ⊢
    rcases List.mem_cons.1 member with rfl | earlier
    · exact ⟨s.sent, untold, Or.inl rfl⟩
    · exact absurd earlier untold
  | behind member sends _ retries place next =>
    intro _
    obtain ⟨rest, fresh, sent | ⟨-, outside⟩⟩ := told member
    · refine ⟨rest, fresh, Or.inr ⟨by rw [sends, sent], fun left => ?_⟩⟩
      rw [next]
      exact HeartbeatLoop.noConfusion
    · exact absurd place (outside retries)

/-! ## The relay ends before it -/

/-- The relay takes no more than one datagram, and that is not the goodbye. -/
structure CutOff (s : ClientLifecycle) : Prop where
  stopRequested : s.stopRequested = true
  tunnelled : .disconnectReq ∉ s.tunnelled
  queued :
    s.relay = .body → ∃ message rest, s.queued = message :: rest ∧ message ≠ .disconnectReq

theorem CutOff.same (cut : s.CutOff)
    (stopRequested : s.stopRequested = true → t.stopRequested = true)
    (tunnelled : t.tunnelled = s.tunnelled) (relay : t.relay = s.relay)
    (queued : ∃ more, t.queued = s.queued ++ more) : t.CutOff := by
  refine ⟨stopRequested cut.stopRequested, ?_, ?_⟩
  · rw [tunnelled]
    exact cut.tunnelled
  · rw [relay]
    intro inBody
    obtain ⟨message, rest, first, other⟩ := cut.queued inBody
    obtain ⟨more, queued⟩ := queued
    exact ⟨message, rest ++ more, by rw [queued, first, List.cons_append], other⟩

theorem sendTo_queued (s : ClientLifecycle) (message : Sent) (opens : Bool) :
    ∃ more, (s.sendTo message opens).queued = s.queued ++ more := by
  have put (q : ClientLifecycle) : ∃ more, (q.put message).queued = q.queued ++ more := by
    simp only [ClientLifecycle.put]
    split
    · exact ⟨_, rfl⟩
    · exact ⟨[], (List.append_nil _).symm⟩
  unfold sendTo
  split
  · exact put s
  · split
    · exact put { s with socket := some false }
    · exact ⟨[], (List.append_nil _).symm⟩

theorem UsesSocket.queued (uses : UsesSocket s t) : ∃ more, t.queued = s.queued ++ more := by
  cases uses with
  | quiet same _ => exact ⟨[], by rw [same.queued, List.append_nil]⟩
  | timeout _ same _ => exact ⟨[], by rw [same.queued, List.append_nil]⟩
  | ping opens _ same _ =>
    rw [same.queued]
    exact s.sendTo_queued _ opens
  | send opens _ _ same _ =>
    rw [same.queued]
    exact s.sendTo_queued _ opens

theorem CutOff.step (cut : s.CutOff) (stepped : s.step a = some t) : t.CutOff := by
  have same : ∃ more, s.queued = s.queued ++ more := ⟨[], (List.append_nil _).symm⟩
  cases a with
  | tick nowMs =>
    simp only [ClientLifecycle.step] at stepped
    split at stepped <;> cases stepped
    exact cut.same id rfl rfl same
  | net received =>
    have frame := netStep_frame stepped
    refine cut.same (fun requested => frame.stopRequested.trans requested) frame.tunnelled
      frame.relay ?_
    rw [frame.queued]
    exact same
  | heartbeat received opens =>
    obtain ⟨frame, uses⟩ := heartbeatStep_cases stepped
    exact cut.same (fun requested => frame.stopRequested.trans requested) frame.tunnelled
      frame.relay uses.queued
  | playback =>
    simp only [ClientLifecycle.step, playbackStep] at stepped
    split at stepped <;> cases stepped <;> exact cut.same id rfl rfl same
  | relay round =>
    simp only [ClientLifecycle.step, relayStep] at stepped
    split at stepped
    · cases stepped
      refine ⟨cut.stopRequested, cut.tunnelled, ?_⟩
      rw [cut.stopRequested]
      exact Loop.noConfusion
    · next inBody =>
      obtain ⟨message, rest, first, other⟩ := cut.queued inBody
      rw [first] at stepped
      split at stepped <;> cases stepped
      · next same =>
        cases same
        refine ⟨cut.stopRequested, ?_, Loop.noConfusion⟩
        rw [List.mem_cons]
        rintro (rfl | earlier)
        · exact other rfl
        · exact cut.tunnelled earlier
      · exact ⟨cut.stopRequested, cut.tunnelled, Loop.noConfusion⟩
      · exact ⟨cut.stopRequested, cut.tunnelled, Loop.noConfusion⟩
    · cases stepped
  | stop =>
    have frame := stopStep_frame stepped
    refine cut.same frame.stopRequested frame.tunnelled frame.relay ?_
    rcases frame.sends with ⟨-, queued⟩ | ⟨-, -, queued⟩
    · rw [queued]
      exact same
    · rw [queued]
      split
      · exact ⟨_, rfl⟩
      · exact same

/-- Whatever is on its way has been sent. -/
structure Posted (s : ClientLifecycle) : Prop where
  queued : ∀ message ∈ s.queued, message ∈ s.sent
  tunnelled : ∀ message ∈ s.tunnelled, message ∈ s.sent

theorem Posted.put (posted : s.Posted) (message : Sent) : (s.put message).Posted := by
  refine ⟨fun other member => ?_, fun other member => ?_⟩
  · simp only [ClientLifecycle.put] at member ⊢
    split at member
    · rcases List.mem_append.1 member with earlier | last
      · exact List.mem_cons_of_mem _ (posted.queued other earlier)
      · rw [List.mem_singleton.1 last]
        exact List.mem_cons_self
    · exact List.mem_cons_of_mem _ (posted.queued other member)
  · exact List.mem_cons_of_mem _ (posted.tunnelled other member)

theorem Posted.same (posted : s.Posted) (sent : t.sent = s.sent) (queued : t.queued = s.queued)
    (tunnelled : t.tunnelled = s.tunnelled) : t.Posted := by
  refine ⟨?_, ?_⟩
  · rw [queued, sent]
    exact posted.queued
  · rw [tunnelled, sent]
    exact posted.tunnelled

theorem Posted.sendTo (posted : s.Posted) (message : Sent) (opens : Bool) :
    (s.sendTo message opens).Posted := by
  unfold ClientLifecycle.sendTo
  split
  · exact posted.put message
  · split
    · have opened : Posted { s with socket := some false } := posted.same rfl rfl rfl
      exact opened.put message
    · exact posted

theorem Posted.step (posted : s.Posted) (stepped : s.step a = some t) : t.Posted := by
  cases a with
  | tick nowMs =>
    simp only [ClientLifecycle.step] at stepped
    split at stepped <;> cases stepped
    exact posted.same rfl rfl rfl
  | net received =>
    have frame := netStep_frame stepped
    exact posted.same frame.sent frame.queued frame.tunnelled
  | heartbeat received opens =>
    obtain ⟨frame, uses⟩ := heartbeatStep_cases stepped
    cases uses with
    | quiet same _ => exact posted.same same.sent same.queued frame.tunnelled
    | timeout _ same _ => exact posted.same same.sent same.queued frame.tunnelled
    | ping opens _ same _ =>
      have sends := s.sendTo_frame .heartbeatPing opens
      exact (posted.sendTo _ opens).same same.sent same.queued
        (frame.tunnelled.trans sends.tunnelled.symm)
    | send opens _ _ same _ =>
      have sends := s.sendTo_frame .connectReq opens
      exact (posted.sendTo _ opens).same same.sent same.queued
        (frame.tunnelled.trans sends.tunnelled.symm)
  | playback =>
    simp only [ClientLifecycle.step, playbackStep] at stepped
    split at stepped <;> cases stepped <;> exact posted.same rfl rfl rfl
  | relay round =>
    simp only [ClientLifecycle.step, relayStep] at stepped
    split at stepped
    · cases stepped
      exact posted.same rfl rfl rfl
    · split at stepped <;> cases stepped
      · next first =>
        refine ⟨fun other member => ?_, fun other member => ?_⟩
        · exact posted.queued other (first ▸ List.mem_cons_of_mem _ member)
        · rcases List.mem_cons.1 member with rfl | earlier
          · exact posted.queued _ (first ▸ List.mem_cons_self)
          · exact posted.tunnelled other earlier
      · next first =>
        refine ⟨fun other member => ?_, posted.tunnelled⟩
        exact posted.queued other (first ▸ List.mem_cons_of_mem _ member)
      · exact posted.same rfl rfl rfl
    · cases stepped
  | stop =>
    have frame := stopStep_frame stepped
    rcases frame.sends with ⟨sent, queued⟩ | ⟨-, sent, queued⟩
    · exact posted.same sent queued frame.tunnelled
    · exact (posted.put .disconnectReq).same sent queued frame.tunnelled

theorem cutOff_of_stop (orderly : s.Orderly) (posted : s.Posted) (notCalled : s.stop = .notCalled)
    (late : s.relay ≠ .body ∨ s.queued ≠ []) (stepped : s.step .stop = some t) : t.CutOff := by
  have untold : .disconnectReq ∉ s.sent := by
    rw [OrderlyAt.told orderly, notCalled]
    decide
  have frame := stopStep_frame stepped
  have called : StopStep.clearRunning.phase ≤ t.stop.phase := by
    have next := frame.phase
    rw [notCalled] at next
    exact next
  have sent : t.queued = s.queued := by
    rcases frame.sends with ⟨-, queued⟩ | ⟨place, -⟩
    · exact queued
    · rw [notCalled] at place
      cases place
  refine ⟨(OrderlyAt.requested (orderly.step stepped)).2 called, ?_, fun inBody => ?_⟩
  · rw [frame.tunnelled]
    exact fun member => untold (posted.tunnelled _ member)
  · rw [frame.relay] at inBody
    rw [sent]
    cases waiting : s.queued with
    | nil => exact absurd waiting (late.resolve_left (not_not_intro inBody))
    | cons message rest =>
      refine ⟨message, rest, rfl, ?_⟩
      rintro rfl
      exact untold (posted.queued _ (waiting ▸ List.mem_cons_self))

end

theorem start_posted (config : Client.ClientConfig) (usbMode : Bool) (nowMs : Clock) :
    (start config usbMode nowMs).Posted :=
  ⟨fun _ member => absurd member List.not_mem_nil, fun _ member => absurd member List.not_mem_nil⟩

/-- When `stop()` has returned, the goodbye has been sent.  It is sent once, and followed by
one `CONNECT_REQ` at most; in every state of a run it is the last message if and only if no
`perform_handshake` sends behind it.  In USB mode it never reaches the tunnel where `stop()`
is called while the relay is not in a round of its loop, or has another datagram waiting. -/
theorem goodbye {config : Client.ClientConfig} {usbMode : Bool} {nowMs : Clock}
    {actions : List Action} {s : ClientLifecycle}
    (reached : run step (start config usbMode nowMs) actions = some s) :
    (s.stop = .returned → .disconnectReq ∈ s.sent) ∧
    (.disconnectReq ∈ s.sent → ∃ rest, .disconnectReq ∉ rest ∧
      (s.sent = .disconnectReq :: rest ∨ s.sent = .connectReq :: .disconnectReq :: rest)) ∧
    ((∀ before u, before <+: actions → run step (start config usbMode nowMs) before = some u →
        u.GoodbyeLast) ↔
      EveryStep step (fun u a => u.sendsBehind a = false) (start config usbMode nowMs)
        actions) ∧
    (s.stop = .notCalled → s.relay ≠ .body ∨ s.queued ≠ [] → ∀ t, s.step .stop = some t →
      ∀ later u, run step t later = some u → .disconnectReq ∉ u.tunnelled) := by
  have orderly := run_orderly reached
  have posted : s.Posted :=
    run_preserves (fun _ _ _ posted stepped => Posted.step posted stepped) actions
      (start_posted config usbMode nowMs) reached
  have told : s.Orderly ∧ s.Told := by
    have kept : ∀ (u : ClientLifecycle) (a : Action) (v : ClientLifecycle),
        u.Orderly ∧ u.Told → u.step a = some v → v.Orderly ∧ v.Told :=
      fun _ _ _ both stepped => ⟨both.1.step stepped, both.2.step both.1 stepped⟩
    refine run_preserves kept actions ⟨start_orderly config usbMode nowMs, ?_⟩ reached
    exact fun member => absurd member List.not_mem_nil
  refine ⟨fun returned => ?_, fun member => ?_, ?_, fun notCalled late t stepped later u on => ?_⟩
  · rw [OrderlyAt.told orderly, returned]
    decide
  · obtain ⟨rest, fresh, sent | ⟨sent, -⟩⟩ := told.2 member
    · exact ⟨rest, fresh, Or.inl sent⟩
    · exact ⟨rest, fresh, Or.inr sent⟩
  · have preserved : ∀ (u : ClientLifecycle) (a : Action) (v : ClientLifecycle), u.Orderly →
        u.step a = some v → v.Orderly := fun _ _ _ orderly stepped => orderly.step stepped
    have passedOn : ∀ (u : ClientLifecycle) (a : Action) (v : ClientLifecycle), u.Orderly →
        u.GoodbyeLast → u.step a = some v → (v.GoodbyeLast ↔ u.sendsBehind a = false) :=
      fun _ _ _ orderly last stepped => goodbyeLast_step orderly last stepped
    refine everyState_iff preserved passedOn actions (start_orderly config usbMode nowMs) ?_
      reached
    exact fun member => absurd member List.not_mem_nil
  · have cut := cutOff_of_stop orderly posted notCalled late stepped
    exact (run_preserves (fun _ _ _ cut stepped => CutOff.step cut stepped) later cut
      on).tunnelled

/-- In USB mode, the relay has just tested `stop_requested_`, and a ping waits for it. -/
def pingWaits : List Action :=
  [.relay .quiet, .heartbeat none false, .heartbeat none false]

def pingingClient : ClientLifecycle :=
  (run step (start {} true 1) pingWaits).getD (start {} true 1)

theorem pingWaits_cutsOff :
    pingingClient.queued = [.heartbeatPing] ∧
      ∀ t, pingingClient.step .stop = some t →
        ∀ later u, run step t later = some u → .disconnectReq ∉ u.tunnelled := by
  have reached : run step (start {} true 1) pingWaits = some pingingClient :=
    run_eq_some_getD (by decide +kernel)
  refine ⟨by decide +kernel, ?_⟩
  exact (goodbye reached).2.2.2 (by decide +kernel) (Or.inr (by decide +kernel))

end ClientLifecycle

end AudioRouter
