import AudioRouter.Lib.Framing
import Mathlib.Data.List.Basic
import Mathlib.Logic.Function.Basic

/-!
# Payloads over a series of framed connections

A sender takes payloads from a source and writes each as a frame to its current
connection; a receiver takes frames off its own current connection.  A connection
is a reliable byte stream.  Either side may leave its connection at any byte and
go on with a later one, at its own time.  Whatever they do, the payloads that are
handed over form a subsequence of those that were taken: a connection is never
written to behind a cut frame, and nothing is kept from one connection to the
next.
-/

namespace AudioRouter

/-- The sender: the connections below `next` are used up, and `busy` is the
payload that is being written with the number of bytes written of its frame. -/
structure FramedSender where
  next : Nat := 0
  conn : Option Nat := none
  busy : Option (List UInt8 × Nat) := none
  taken : List (List UInt8) := []

/-- The receiver with its reassembly buffer. -/
structure FramedReceiver where
  next : Nat := 0
  conn : Option Nat := none
  buffer : List UInt8 := []
  handed : List (List UInt8) := []

/-- Both ends, and the bytes on the way on each connection. -/
structure FramedChannel where
  line : Nat → List UInt8 := fun _ => []
  sender : FramedSender := {}
  receiver : FramedReceiver := {}

namespace FramedChannel

open FrameFormat

/-- The steps of both ends. -/
inductive Step (format : FrameFormat) : FramedChannel → FramedChannel → Prop
  | openSender (c : FramedChannel) (k : Nat) (fresh : c.sender.next ≤ k)
      (idle : c.sender.busy = none) :
      Step format c
        { c with sender := { c.sender with next := k + 1, conn := some k } }
  | closeSender (c : FramedChannel) :
      Step format c { c with sender := { c.sender with conn := none, busy := none } }
  | take (c : FramedChannel) (payload : List UInt8)
      (accepted : format.Accepts payload) (idle : c.sender.busy = none) :
      Step format c
        { c with
          sender :=
            { c.sender with
              taken := c.sender.taken ++ [payload]
              busy := some (payload, 0) } }
  | skip (c : FramedChannel) (payload : List UInt8)
      (idle : c.sender.busy = none) :
      Step format c
        { c with sender := { c.sender with taken := c.sender.taken ++ [payload] } }
  | send (c : FramedChannel) (k : Nat) (payload : List UInt8) (sent n : Nat)
      (conn : c.sender.conn = some k) (busy : c.sender.busy = some (payload, sent))
      (inside : sent + n ≤ (format.frame payload).length) :
      Step format c
        { c with
          line :=
            Function.update c.line k
              (c.line k ++ ((format.frame payload).drop sent).take n)
          sender :=
            { c.sender with
              busy :=
                if sent + n = (format.frame payload).length then none
                else some (payload, sent + n) } }
  | openReceiver (c : FramedChannel) (k : Nat) (fresh : c.receiver.next ≤ k) :
      Step format c
        { c with
          receiver :=
            { c.receiver with next := k + 1, conn := some k, buffer := [] } }
  | closeReceiver (c : FramedChannel) (buffer : List UInt8) :
      Step format c
        { c with receiver := { c.receiver with conn := none, buffer := buffer } }
  | receive (c : FramedChannel) (k n : Nat) (conn : c.receiver.conn = some k) :
      Step format c
        { c with
          line := Function.update c.line k ((c.line k).drop n)
          receiver :=
            { c.receiver with buffer := c.receiver.buffer ++ (c.line k).take n } }
  | hand (c : FramedChannel) (k : Nat) (payload rest : List UInt8)
      (conn : c.receiver.conn = some k)
      (extracted : format.extract c.receiver.buffer = .frame payload rest) :
      Step format c
        { c with
          receiver :=
            { c.receiver with
              buffer := rest
              handed := c.receiver.handed ++ [payload] } }
  | drop (c : FramedChannel) (k : Nat) (payload rest : List UInt8)
      (conn : c.receiver.conn = some k)
      (extracted : format.extract c.receiver.buffer = .frame payload rest) :
      Step format c { c with receiver := { c.receiver with buffer := rest } }

/-! ## The invariant -/

/-- The first connection whose frames can still be handed over. -/
def floor (c : FramedChannel) : Nat :=
  match c.receiver.conn with
  | some k => k
  | none => c.receiver.next

/-- What the receiver has read of a connection and not taken off. -/
def buffered (c : FramedChannel) (k : Nat) : List UInt8 :=
  if c.receiver.conn = some k then c.receiver.buffer else []

/-- The payloads that are no longer being written. -/
def settled (c : FramedChannel) : List (List UInt8) :=
  match c.sender.busy with
  | none => c.sender.taken
  | some _ => c.sender.taken.dropLast

/-- The part of a frame that the sender has written. -/
def written (format : FrameFormat) (c : FramedChannel) : List UInt8 :=
  match c.sender.busy with
  | none => []
  | some (payload, sent) => (format.frame payload).take sent

/-- On each connection from `floor` on, the outstanding bytes are the frames of
the payloads `rest`, and then the part of a frame. -/
structure Account (format : FrameFormat) (c : FramedChannel)
    (rest : Nat → List (List UInt8)) (part : Nat → List UInt8) : Prop where
  senderNext : ∀ k, c.sender.conn = some k → c.sender.next = k + 1
  receiverNext : ∀ k, c.receiver.conn = some k → c.receiver.next = k + 1
  unused : ∀ k, c.sender.next ≤ k → rest k = [] ∧ part k = []
  gone : ∀ k, k < c.floor → rest k = []
  outstanding :
    ∀ k, c.floor ≤ k →
      c.buffered k ++ c.line k = format.stream (rest k) ++ part k
  accepted : ∀ k, ∀ payload ∈ rest k, format.Accepts payload
  cut : ∀ k, format.Cut (part k)
  boundary : ∀ k, c.sender.conn = some k → part k = c.written format
  busy :
    ∀ payload sent, c.sender.busy = some (payload, sent) →
      format.Accepts payload ∧ sent < (format.frame payload).length ∧
        ∃ before, c.sender.taken = before ++ [payload]
  carried :
    (c.receiver.handed ++ (List.range c.sender.next).flatMap rest).Sublist c.settled

/-! ## Lists of payloads by connection -/

section Lists

variable {rest rest' : Nat → List (List UInt8)}

theorem flatMap_range_of_empty {n m : Nat} (le : n ≤ m)
    (empty : ∀ k, n ≤ k → rest k = []) :
    (List.range m).flatMap rest = (List.range n).flatMap rest := by
  induction m, le using Nat.le_induction with
  | base => rfl
  | succ m le inductionHypothesis =>
      rw [List.range_succ, List.flatMap_append, List.flatMap_singleton,
        inductionHypothesis, empty m le, List.append_nil]

theorem flatMap_range_update_last (k : Nat) (payloads : List (List UInt8)) :
    (List.range (k + 1)).flatMap (Function.update rest k payloads) =
      (List.range k).flatMap rest ++ payloads := by
  rw [List.range_succ, List.flatMap_append, List.flatMap_singleton,
    Function.update_self]
  congr 1
  refine List.flatMap_congr fun j below => ?_
  exact Function.update_of_ne (Nat.ne_of_lt (List.mem_range.1 below)) _ _

/-- The first payload of the first connection that has any. -/
theorem flatMap_range_eq_cons {k n : Nat} {payload : List UInt8}
    {later : List (List UInt8)} (below : ∀ j, j < k → rest j = []) (lt : k < n)
    (first : rest k = payload :: later) :
    (List.range n).flatMap rest =
      payload :: (List.range n).flatMap (Function.update rest k later) := by
  have none (rest' : Nat → List (List UInt8)) (empty : ∀ j, j < k → rest' j = []) :
      (List.range k).flatMap rest' = [] :=
    List.flatMap_eq_nil_iff.2 fun j inside => empty j (List.mem_range.1 inside)
  induction n, lt using Nat.le_induction with
  | base =>
      rw [flatMap_range_update_last, List.range_succ, List.flatMap_append,
        List.flatMap_singleton, none rest below, first]
      rfl
  | succ n lt inductionHypothesis =>
      rw [List.range_succ, List.flatMap_append, List.flatMap_append,
        inductionHypothesis, List.flatMap_singleton, List.flatMap_singleton,
        Function.update_of_ne (Nat.ne_of_gt lt), List.cons_append]

theorem flatMap_range_sublist (n : Nat) (parts : ∀ k, (rest' k).Sublist (rest k)) :
    ((List.range n).flatMap rest').Sublist ((List.range n).flatMap rest) := by
  induction n with
  | zero => exact List.Sublist.refl _
  | succ n inductionHypothesis =>
      rw [List.range_succ, List.flatMap_append, List.flatMap_append,
        List.flatMap_singleton, List.flatMap_singleton]
      exact inductionHypothesis.append (parts n)

end Lists

/-! ## Steps of the sender -/

section Steps

variable {format : FrameFormat} {c : FramedChannel}
  {rest : Nat → List (List UInt8)} {part : Nat → List UInt8}

theorem start_account : Account format {} (fun _ => []) fun _ => [] where
  senderNext := nofun
  receiverNext := nofun
  unused := fun _ _ => ⟨rfl, rfl⟩
  gone := fun _ _ => rfl
  outstanding := fun _ _ => rfl
  accepted := nofun
  cut := fun _ => Or.inl rfl
  boundary := nofun
  busy := nofun
  carried := List.Sublist.refl _

theorem settled_sublist_taken : c.settled.Sublist c.sender.taken := by
  unfold settled
  split
  · exact List.Sublist.refl _
  · exact List.dropLast_sublist _

theorem openSender_account (account : Account format c rest part) {k : Nat}
    (fresh : c.sender.next ≤ k) (idle : c.sender.busy = none) :
    Account format
      { c with sender := { c.sender with next := k + 1, conn := some k } }
      rest part where
  senderNext := by
    rintro j conn
    obtain rfl := Option.some.inj conn
    rfl
  receiverNext := account.receiverNext
  unused := fun j past => account.unused j (by dsimp only at past; omega)
  gone := account.gone
  outstanding := account.outstanding
  accepted := account.accepted
  cut := account.cut
  boundary := by
    intro j conn
    obtain rfl := Option.some.inj conn
    rw [(account.unused k fresh).2, written, idle]
  busy := account.busy
  carried := by
    have same :=
      flatMap_range_of_empty (Nat.le_succ_of_le fresh)
        fun j past => (account.unused j past).1
    dsimp only
    rw [same]
    exact account.carried

theorem closeSender_account (account : Account format c rest part) :
    Account format { c with sender := { c.sender with conn := none, busy := none } }
      rest part where
  senderNext := nofun
  receiverNext := account.receiverNext
  unused := account.unused
  gone := account.gone
  outstanding := account.outstanding
  accepted := account.accepted
  cut := account.cut
  boundary := nofun
  busy := nofun
  carried := account.carried.trans settled_sublist_taken

theorem take_account (account : Account format c rest part) {payload : List UInt8}
    (accepted : format.Accepts payload) (nonempty : 0 < format.headerSize)
    (idle : c.sender.busy = none) :
    Account format
      { c with
        sender :=
          { c.sender with
            taken := c.sender.taken ++ [payload]
            busy := some (payload, 0) } }
      rest part where
  senderNext := account.senderNext
  receiverNext := account.receiverNext
  unused := account.unused
  gone := account.gone
  outstanding := account.outstanding
  accepted := account.accepted
  cut := account.cut
  boundary := by
    intro k conn
    have boundary := account.boundary k conn
    rw [written, idle] at boundary
    exact boundary
  busy := by
    intro payload' sent busy
    obtain ⟨rfl, rfl⟩ := Prod.mk.inj (Option.some.inj busy)
    exact ⟨accepted, by rw [length_frame]; omega, c.sender.taken, rfl⟩
  carried := by
    have carried := account.carried
    rw [settled, idle] at carried
    rw [settled]
    dsimp only
    rwa [List.dropLast_concat]

theorem skip_account (account : Account format c rest part) {payload : List UInt8}
    (idle : c.sender.busy = none) :
    Account format
      { c with sender := { c.sender with taken := c.sender.taken ++ [payload] } }
      rest part where
  senderNext := account.senderNext
  receiverNext := account.receiverNext
  unused := account.unused
  gone := account.gone
  outstanding := account.outstanding
  accepted := account.accepted
  cut := account.cut
  boundary := account.boundary
  busy := by
    dsimp only
    rw [idle]
    nofun
  carried := by
    have carried := account.carried
    rw [settled, idle] at carried
    rw [settled]
    dsimp only
    rw [idle]
    exact carried.trans (List.sublist_append_left _ _)

/-- The channel after `n` more bytes of a frame have been accepted. -/
def afterSend (format : FrameFormat) (c : FramedChannel) (k : Nat)
    (payload : List UInt8) (sent n : Nat) : FramedChannel :=
  { c with
    line :=
      Function.update c.line k
        (c.line k ++ ((format.frame payload).drop sent).take n)
    sender :=
      { c.sender with
        busy :=
          if sent + n = (format.frame payload).length then none
          else some (payload, sent + n) } }

theorem part_of_busy (account : Account format c rest part) {k : Nat}
    {payload : List UInt8} {sent : Nat} (conn : c.sender.conn = some k)
    (busy : c.sender.busy = some (payload, sent)) :
    part k = (format.frame payload).take sent := by
  rw [account.boundary k conn, written, busy]

theorem outstanding_afterSend (account : Account format c rest part) {k : Nat}
    {payload : List UInt8} {sent : Nat} (n : Nat) (conn : c.sender.conn = some k)
    (busy : c.sender.busy = some (payload, sent)) {j : Nat} (current : c.floor ≤ j) :
    c.buffered j ++ (c.afterSend format k payload sent n).line j =
      format.stream (rest j) ++
        Function.update part k ((format.frame payload).take (sent + n)) j := by
  have before := account.outstanding j current
  rw [afterSend]
  dsimp only
  by_cases same : j = k
  · subst same
    rw [Function.update_self, Function.update_self, List.take_add,
      ← part_of_busy account conn busy, ← List.append_assoc, ← List.append_assoc,
      before]
  · rwa [Function.update_of_ne same, Function.update_of_ne same]

/-- Bytes inside a frame lengthen the cut part. -/
theorem sendPart_account (account : Account format c rest part) {k : Nat}
    {payload : List UInt8} {sent n : Nat} (conn : c.sender.conn = some k)
    (busy : c.sender.busy = some (payload, sent))
    (inside : sent + n < (format.frame payload).length) :
    Account format (c.afterSend format k payload sent n) rest
      (Function.update part k ((format.frame payload).take (sent + n))) := by
  obtain ⟨accepted, _, taken⟩ := account.busy payload sent busy
  have next := account.senderNext k conn
  have still :
      (c.afterSend format k payload sent n).sender.busy =
        some (payload, sent + n) :=
    if_neg (Nat.ne_of_lt inside)
  exact
    { senderNext := account.senderNext
      receiverNext := account.receiverNext
      unused := by
        intro j past
        have other : j ≠ k := by
          have later : c.sender.next ≤ j := past
          omega
        rw [Function.update_of_ne other]
        exact account.unused j past
      gone := account.gone
      outstanding := fun j current =>
        outstanding_afterSend account n conn busy current
      accepted := account.accepted
      cut := by
        intro j
        by_cases same : j = k
        · subst same
          rw [Function.update_self]
          refine Or.inr ⟨payload, accepted, List.take_prefix _ _, fun whole => ?_⟩
          have length := congrArg List.length whole
          rw [List.length_take] at length
          omega
        · rw [Function.update_of_ne same]
          exact account.cut j
      boundary := by
        intro j conn'
        obtain rfl := Option.some.inj (conn.symm.trans conn')
        rw [Function.update_self, written, still]
      busy := by
        rw [still]
        intro payload' sent' busy'
        obtain ⟨rfl, rfl⟩ := Prod.mk.inj (Option.some.inj busy')
        exact ⟨accepted, inside, taken⟩
      carried := by
        have carried := account.carried
        rw [settled, busy] at carried
        rw [settled, still]
        exact carried }

/-- The last bytes of a frame add its payload to the outstanding ones. -/
theorem sendRest_account (account : Account format c rest part) {k : Nat}
    {payload : List UInt8} {sent n : Nat} (conn : c.sender.conn = some k)
    (busy : c.sender.busy = some (payload, sent))
    (whole : sent + n = (format.frame payload).length) :
    Account format (c.afterSend format k payload sent n)
      (if c.floor ≤ k then Function.update rest k (rest k ++ [payload]) else rest)
      (Function.update part k []) := by
  obtain ⟨accepted, _, before, taken⟩ := account.busy payload sent busy
  have next := account.senderNext k conn
  have done : (c.afterSend format k payload sent n).sender.busy = none :=
    if_pos whole
  have other {j : Nat} (past : c.sender.next ≤ j) : j ≠ k := by omega
  exact
    { senderNext := account.senderNext
      receiverNext := account.receiverNext
      unused := by
        intro j past
        rw [Function.update_of_ne (other past)]
        refine ⟨?_, (account.unused j past).2⟩
        split
        · rw [Function.update_of_ne (other past)]
          exact (account.unused j past).1
        · exact (account.unused j past).1
      gone := by
        intro j below
        have left : rest j = [] := account.gone j below
        split
        · next current =>
            have below : j < c.floor := below
            rw [Function.update_of_ne (by omega)]
            exact left
        · exact left
      outstanding := by
        intro j current
        have floor : c.floor ≤ j := current
        have lengthened := outstanding_afterSend account n conn busy floor
        refine Eq.trans lengthened ?_
        by_cases same : j = k
        · subst same
          rw [if_pos floor, Function.update_self, Function.update_self,
            Function.update_self, List.append_nil, stream_append_singleton, whole,
            List.take_length]
        · rw [Function.update_of_ne same, Function.update_of_ne same]
          split
          · rw [Function.update_of_ne same]
          · rfl
      accepted := by
        intro j payload' member
        split at member
        · by_cases same : j = k
          · subst same
            rw [Function.update_self] at member
            rcases List.mem_append.1 member with old | new
            · exact account.accepted j payload' old
            · obtain rfl := List.mem_singleton.1 new
              exact accepted
          · rw [Function.update_of_ne same] at member
            exact account.accepted j payload' member
        · exact account.accepted j payload' member
      cut := by
        intro j
        by_cases same : j = k
        · subst same
          rw [Function.update_self]
          exact Or.inl rfl
        · rw [Function.update_of_ne same]
          exact account.cut j
      boundary := by
        intro j conn'
        obtain rfl := Option.some.inj (conn.symm.trans conn')
        rw [Function.update_self, written, done]
      busy := by
        rw [done]
        nofun
      carried := by
        have carried := account.carried
        rw [settled, busy, taken, List.dropLast_concat] at carried
        rw [settled, done]
        change (c.receiver.handed ++ (List.range c.sender.next).flatMap _).Sublist
          c.sender.taken
        rw [taken]
        rw [next] at carried ⊢
        split
        · rw [flatMap_range_update_last]
          rw [List.range_succ, List.flatMap_append, List.flatMap_singleton] at carried
          rw [← List.append_assoc (List.flatMap _ _), ← List.append_assoc]
          exact carried.append (List.Sublist.refl _)
        · exact carried.trans (List.sublist_append_left _ _) }

/-! ## Steps of the receiver -/

theorem floor_le_next (account : Account format c rest part) :
    c.floor ≤ c.receiver.next := by
  unfold floor
  split
  · next k conn => rw [account.receiverNext k conn]; omega
  · exact Nat.le_refl _

theorem buffered_of_next_le (account : Account format c rest part) {k : Nat}
    (past : c.receiver.next ≤ k) : c.buffered k = [] := by
  refine if_neg fun conn => ?_
  have next := account.receiverNext k conn
  omega

/-- A receiver that leaves its connection gives up what is outstanding on it. -/
theorem leave_account (account : Account format c rest part)
    {receiver : FramedReceiver} (handed : receiver.handed = c.receiver.handed)
    (receiverNext : ∀ k, receiver.conn = some k → receiver.next = k + 1)
    (later : c.receiver.next ≤ floor { c with receiver := receiver })
    (empty : ∀ k, buffered { c with receiver := receiver } k = []) :
    Account format { c with receiver := receiver }
      (fun k => if k < floor { c with receiver := receiver } then [] else rest k)
      part where
  senderNext := account.senderNext
  receiverNext := receiverNext
  unused := by
    intro k past
    obtain ⟨none, clean⟩ := account.unused k past
    exact ⟨by rw [none, ite_self], clean⟩
  gone := fun k below => if_pos below
  outstanding := by
    intro k current
    have old := floor_le_next account
    have before := account.outstanding k (by omega)
    rw [buffered_of_next_le account (by omega)] at before
    rw [empty k, if_neg (Nat.not_lt.2 current)]
    exact before
  accepted := by
    intro k payload member
    split at member
    · nomatch member
    · exact account.accepted k payload member
  cut := account.cut
  boundary := account.boundary
  busy := account.busy
  carried := by
    refine List.Sublist.trans ?_ account.carried
    dsimp only
    rw [handed]
    refine List.Sublist.append (List.Sublist.refl _) ?_
    refine flatMap_range_sublist _ fun k => ?_
    split
    · exact List.nil_sublist _
    · exact List.Sublist.refl _

theorem receive_account (account : Account format c rest part) {k : Nat} (n : Nat)
    (conn : c.receiver.conn = some k) :
    Account format
      { c with
        line := Function.update c.line k ((c.line k).drop n)
        receiver :=
          { c.receiver with buffer := c.receiver.buffer ++ (c.line k).take n } }
      rest part where
  senderNext := account.senderNext
  receiverNext := account.receiverNext
  unused := account.unused
  gone := account.gone
  outstanding := by
    intro j current
    have before := account.outstanding j current
    unfold buffered at *
    dsimp only
    by_cases same : j = k
    · subst same
      rw [if_pos conn] at before ⊢
      rw [Function.update_self, List.append_assoc, List.take_append_drop, before]
    · rwa [Function.update_of_ne same, if_neg (by rw [conn]; simpa using Ne.symm same)]
        at *
  accepted := account.accepted
  cut := account.cut
  boundary := account.boundary
  busy := account.busy
  carried := account.carried

/-- The frame that is taken off carries the first outstanding payload. -/
theorem first_outstanding (account : Account format c rest part) {k : Nat}
    {payload buffer : List UInt8} (nonempty : 0 < format.headerSize)
    (conn : c.receiver.conn = some k)
    (extracted : format.extract c.receiver.buffer = .frame payload buffer) :
    ∃ later, rest k = payload :: later ∧
      buffer ++ c.line k = format.stream later ++ part k := by
  obtain ⟨whole, accepted⟩ := eq_of_extract_eq_frame extracted
  have current : c.floor ≤ k := by
    rw [floor, conn]
  have before := account.outstanding k current
  rw [buffered, if_pos conn, whole, List.append_assoc] at before
  exact
    stream_eq_frame_append nonempty (account.accepted k) (account.cut k) accepted
      before.symm

/-- The account once the first outstanding payload has been taken off. -/
theorem takeOff_account (account : Account format c rest part) {k : Nat}
    {payload buffer : List UInt8} {later : List (List UInt8)}
    {handed : List (List UInt8)} (conn : c.receiver.conn = some k)
    (first : rest k = payload :: later)
    (remaining : buffer ++ c.line k = format.stream later ++ part k)
    (logged : handed.Sublist (c.receiver.handed ++ [payload])) :
    Account format
      { c with receiver := { c.receiver with buffer := buffer, handed := handed } }
      (Function.update rest k later) part := by
  have current : c.floor = k := by
    rw [floor, conn]
  have used : k < c.sender.next := by
    by_contra unused
    rw [(account.unused k (Nat.not_lt.1 unused)).1] at first
    nomatch first
  exact
    { senderNext := account.senderNext
      receiverNext := account.receiverNext
      unused := by
        intro j past
        have later : c.sender.next ≤ j := past
        rw [Function.update_of_ne (by omega)]
        exact account.unused j past
      gone := by
        intro j below
        have left : j < c.floor := below
        rw [Function.update_of_ne (by omega)]
        exact account.gone j left
      outstanding := by
        intro j past
        unfold buffered
        dsimp only
        by_cases same : j = k
        · subst same
          rw [if_pos conn, Function.update_self, remaining]
        · have before := account.outstanding j past
          have other : c.receiver.conn ≠ some j := by
            rw [conn]
            simpa using Ne.symm same
          rw [buffered, if_neg other] at before
          rw [if_neg other, Function.update_of_ne same]
          exact before
      accepted := by
        intro j payload' member
        by_cases same : j = k
        · subst same
          rw [Function.update_self] at member
          refine account.accepted j payload' ?_
          rw [first]
          exact List.mem_cons_of_mem _ member
        · rw [Function.update_of_ne same] at member
          exact account.accepted j payload' member
      cut := account.cut
      boundary := account.boundary
      busy := account.busy
      carried := by
        have carried := account.carried
        rw [flatMap_range_eq_cons (fun j below => account.gone j (by omega)) used first,
          List.append_cons] at carried
        exact (logged.append (List.Sublist.refl _)).trans carried }

/-! ## Runs -/

/-- Some account of the channel exists. -/
def Sound (format : FrameFormat) (c : FramedChannel) : Prop :=
  ∃ rest part, Account format c rest part

theorem step_sound {c' : FramedChannel} (nonempty : 0 < format.headerSize)
    (step : Step format c c') (sound : Sound format c) : Sound format c' := by
  obtain ⟨rest, part, account⟩ := sound
  cases step with
  | openSender k fresh idle =>
      exact ⟨rest, part, openSender_account account fresh idle⟩
  | closeSender => exact ⟨rest, part, closeSender_account account⟩
  | take payload accepted idle =>
      exact ⟨rest, part, take_account account accepted nonempty idle⟩
  | skip payload idle => exact ⟨rest, part, skip_account account idle⟩
  | send k payload sent n conn busy inside =>
      rcases Nat.lt_or_eq_of_le inside with short | whole
      · exact ⟨_, _, sendPart_account account conn busy short⟩
      · exact ⟨_, _, sendRest_account account conn busy whole⟩
  | openReceiver k fresh =>
      refine ⟨_, _, leave_account account rfl ?_ fresh fun j => ite_self _⟩
      rintro j conn
      obtain rfl := Option.some.inj conn
      rfl
  | closeReceiver buffer =>
      exact ⟨_, _, leave_account account rfl nofun (Nat.le_refl _) fun _ => rfl⟩
  | receive k n conn => exact ⟨rest, part, receive_account account n conn⟩
  | hand k payload buffer conn extracted =>
      obtain ⟨later, first, remaining⟩ :=
        first_outstanding account nonempty conn extracted
      exact
        ⟨_, _, takeOff_account account conn first remaining (List.Sublist.refl _)⟩
  | drop k payload buffer conn extracted =>
      obtain ⟨later, first, remaining⟩ :=
        first_outstanding account nonempty conn extracted
      exact
        ⟨_, _, takeOff_account account conn first remaining
          (List.sublist_append_left _ _)⟩

/-- Nothing that is handed over has been reordered, repeated or altered. -/
theorem handed_sublist_taken (sound : Sound format c) :
    c.receiver.handed.Sublist c.sender.taken := by
  obtain ⟨rest, part, account⟩ := sound
  exact
    (List.sublist_append_left _ _).trans
      (account.carried.trans settled_sublist_taken)

end Steps

end FramedChannel

end AudioRouter
