import TeamPresence.Proofs.Session.Attempts

/-!
# What is left over in the queue

A datagram that comes too late for its request stays in the client's queue. No later request looks
at it: **`Session.leftovers_ignored`** says of two networks that differ in the queue of the client
only (`Net.SameAhead`) that every operation of a session sends the same packets at the same times,
hears the same refusals, ends with the same result and leaves the same session behind. What is in
the queue may be anything, and so may be what arrives later and which packets cannot be sent.

The networks are the same once the queue is discarded (`Net.SameAhead.discard_eq`), and whatever
fails before that does not look at what is under way.
-/

namespace TeamPresence

/-! ### Queues -/

/-- What is still to come to a client is the same on both sides. What has arrived by now and was not
taken, its queue, may be anything. -/
inductive Transit.SameAhead (now : Rat) : Transit → Transit → Prop
  | ordered {queue queue' : List Arrival} (ahead : List Arrival)
      (h : ∀ a ∈ queue, Clock.hasCome a.due now = true)
      (h' : ∀ a ∈ queue', Clock.hasCome a.due now = true) :
      SameAhead now (.ordered (queue ++ ahead)) (.ordered (queue' ++ ahead))
  /-- An arrival that rings by now belongs to the queue. -/
  | heaped (queue queue' late : List Bytes) {heap heap' : AlarmHeap}
      (h : (heap.ring now).2 = (heap'.ring now).2) :
      SameAhead now (.heaped queue late heap) (.heaped queue' late heap')

/-- Two networks that differ in the queue of the client only. -/
def Net.SameAhead (n n' : Net) : Prop :=
  ∃ transit, n.link.transit.SameAhead n.now transit ∧
    n' = { n with link := { n.link with transit } }

theorem Transit.SameAhead.refl (now : Rat) (t : Transit) : t.SameAhead now t := by
  cases t with
  | ordered arrivals =>
    have hnone : ∀ a ∈ ([] : List Arrival), Clock.hasCome a.due now = true := by simp
    exact .ordered arrivals hnone hnone
  | heaped inbox late heap => exact .heaped inbox inbox late rfl

theorem Transit.SameAhead.discard_eq {now : Rat} {t t' : Transit} (h : t.SameAhead now t') :
    t'.discard now = t.discard now := by
  cases h with
  | ordered ahead h h' =>
    rw [discard, discard, List.dropWhile_append_of_pos h, List.dropWhile_append_of_pos h']
  | heaped queue queue' late h => rw [discard, discard, h]

namespace Net.SameAhead

variable {n n' : Net}

theorem refl (n : Net) : n.SameAhead n := ⟨_, .refl _ _, rfl⟩

theorem discard_eq (h : n.SameAhead n') : n'.discard = n.discard := by
  obtain ⟨transit, htransit, rfl⟩ := h
  rw [discard, discard, htransit.discard_eq]

theorem isOpen_eq (h : n.SameAhead n') : n'.link.isOpen = n.link.isOpen := by
  obtain ⟨transit, -, rfl⟩ := h
  rfl

theorem budget_eq (h : n.SameAhead n') : n'.budget = n.budget := by
  obtain ⟨transit, -, rfl⟩ := h
  rfl

end Net.SameAhead

/-! ### Runs -/

variable {α β : Type} {n n' : Net} {s : Session}

/-- The packets of a run that a session made over a network, each with the time when it was sent:
the first one at once, and the next one when the attempt before has failed. -/
def Run.sendings (r : Run α) (s : Session) (net : Net) : List (Rat × Bytes) :=
  r.sent.mapIdx fun k packet => ((s.afterAttempts packet net k).now, packet)

/-- Runs of a session over two networks that went the same way. -/
structure Run.Alike (s : Session) (n n' : Net) (r r' : Run α) : Prop where
  result : r'.result = r.result
  session : r'.session = r.session
  exchange : r'.exchange = r.exchange
  sendings : r'.sendings s n' = r.sendings s n
  ahead : r.net.SameAhead r'.net

theorem Net.SameAhead.sendings_eq (h : n.SameAhead n') {r r' : Run α}
    (hexchange : r'.exchange = r.exchange) : r'.sendings s n' = r.sendings s n := by
  have hsent : r'.sent = r.sent := by rw [Run.sent, Run.sent, hexchange]
  simp only [Run.sendings, hsent, Session.afterAttempts, h.discard_eq]

namespace Run.Alike

variable {r r' : Run α}

theorem refusals (h : Alike s n n' r r') : r'.refusals = r.refusals := by
  rw [Run.refusals, Run.refusals, h.exchange]

theorem map (h : Alike s n n' r r') (f : α → β) : Alike s n n' (r.map f) (r'.map f) :=
  ⟨congrArg (Except.map f) h.result, h.session, h.exchange, h.sendings, h.ahead⟩

theorem reading (h : Alike s n n' r r') (hstart : n.SameAhead n')
    (read : α → Except Fault β × Session) :
    Alike s n n' (r.reading read) (r'.reading read) := by
  have hexchange : (r'.reading read).exchange = (r.reading read).exchange := by
    rw [Run.reading, Run.reading]
    split <;> split <;> exact h.exchange
  have hresult := h.result
  have hsession := h.session
  refine ⟨?_, ?_, hexchange, hstart.sendings_eq hexchange, ?_⟩
  · rw [Run.reading, Run.reading, hresult]
    cases r.result <;> rfl
  · rw [Run.reading, Run.reading, hresult]
    cases r.result with
    | ok a => rfl
    | error f => exact hsession
  · rw [reading_net, reading_net]
    exact h.ahead

end Run.Alike

/-! ### Operations -/

namespace Session

/-- A request goes the same way, whatever lies in the queue. -/
theorem request_alike (h : n.SameAhead n') (s : Session) (a : Ask) :
    Run.Alike s n n' (s.request a n) (s.request a n') := by
  have hclosed : ∀ f, Run.Alike s n n' { result := .error f, session := s, net := n }
      ({ result := .error f, session := s, net := n' } : Run Reply) := fun f =>
    ⟨rfl, rfl, rfl, h.sendings_eq rfl, h⟩
  rw [request, request, h.isOpen_eq]
  split
  · exact hclosed _
  · cases s.packet a with
    | error f => exact hclosed f
    | ok packet =>
      -- both exchanges begin with the same network
      have hexchange : s.manner.exchange a packet n' = s.manner.exchange a packet n := by
        rw [Manner.exchange, Manner.exchange, h.discard_eq, h.budget_eq]
      simp only [hexchange]
      exact ⟨rfl, rfl, rfl, h.sendings_eq rfl, .refl _⟩

end Session

/-- Whether an action is an operation of a session over the endpoint that it has. -/
def Action.IsOperation : Action → Prop
  | .register _ | .fetchDescription | .updateStatus _ _ | .changeTeam _ _ | .teamStatus _ | .leave
  | .request _ => True
  | .openEndpoint | .closeEndpoint | .registerOnce _ | .takeIn _ => False

theorem Action.run_alike (h : n.SameAhead n') (s : Session) {action : Action}
    (hoperation : action.IsOperation) :
    Run.Alike s n n' (action.run s n) (action.run s n') := by
  have hpush : ∀ team status giveUp,
      Run.Alike s n n' (s.push team status giveUp n) (s.push team status giveUp n') :=
    fun team status giveUp => (s.request_alike h _).reading h _
  cases action with
  | openEndpoint | closeEndpoint | registerOnce _ | takeIn _ => exact hoperation.elim
  | register name =>
    refine Run.Alike.map ?_ _
    rw [Session.register, Session.register]
    cases Latin1.encode name with
    | error gap => exact ⟨rfl, rfl, rfl, h.sendings_eq rfl, h⟩
    | ok body => exact (s.request_alike h _).reading h _
  | fetchDescription => exact ((s.request_alike h _).reading h _).map _
  | updateStatus status giveUp => exact (hpush _ _ _).map _
  | changeTeam team giveUp => exact (hpush _ _ _).map _
  | teamStatus team => exact ((s.request_alike h _).reading h _).map _
  | leave => exact (hpush _ _ _).map _
  | request a => exact (s.request_alike h a).map _

/-- **What is left over in the queue does not influence an operation.** Over two networks that
differ in the queue of the client only, it sends the same packets at the same times, hears the same
refusals, ends with the same result, and leaves the same session behind. What is to come is the same
afterwards too. -/
theorem Session.leftovers_ignored (h : n.SameAhead n') (s : Session) {action : Action}
    (hoperation : action.IsOperation) :
    (action.run s n').sendings s n' = (action.run s n).sendings s n ∧
      (action.run s n').refusals = (action.run s n).refusals ∧
      (action.run s n').result = (action.run s n).result ∧
      (action.run s n').session = (action.run s n).session ∧
      (action.run s n).net.SameAhead (action.run s n').net :=
  have halike := action.run_alike h s hoperation
  ⟨halike.sendings, halike.refusals, halike.result, halike.session, halike.ahead⟩

/-- A network that cannot send the first packet, and where an acknowledgement is still to come. -/
def Net.overdue (queue : List Arrival) : Net := {
  link := {
    address := ⟨"127.0.0.1", 40000⟩, isOpen := true
    transit := .ordered (queue ++ [⟨5 / 4, [5, 0x26]⟩])
    script := [{ failure := some "unreachable", events := [] }, { events := [] }] } }

/-- An acknowledgement and a refusal in the queue end no update: it waits for the acknowledgement
that is to come. -/
theorem Session.leftovers_ignored_overdue :
    let s : Session := { manner := ⟨.one, some 2⟩, networkId := 7 }
    let queue : List Arrival := [⟨0, [5, 0x26]⟩, ⟨0, [1, 0x66, 0x75, 0x6c, 0x6c]⟩]
    let action := Action.updateStatus 3 true
    (Net.overdue []).SameAhead (Net.overdue queue) ∧ action.IsOperation ∧
      (action.run s (Net.overdue queue)).sendings s (Net.overdue queue) =
        [(0, [2, 0, 0, 7, 0xff, 3, 0x26]), (1, [2, 0, 0, 7, 0xff, 3, 0x26])] ∧
      (action.run s (Net.overdue queue)).refusals = [] ∧
      (action.run s (Net.overdue queue)).result = .ok .done ∧
      (action.run s (Net.overdue queue)).session = { s with status := 3 } := by
  intro s queue action
  have hahead : (Net.overdue []).SameAhead (Net.overdue queue) :=
    ⟨_, .ordered [⟨5 / 4, [5, 0x26]⟩] (by decide) (by decide +kernel), rfl⟩
  have hoperation : action.IsOperation := trivial
  obtain ⟨hsendings, hrefusals, hresult, hsession, -⟩ := s.leftovers_ignored hahead hoperation
  rw [hsendings, hrefusals, hresult, hsession]
  exact ⟨hahead, hoperation, by decide +kernel, by decide +kernel, by decide +kernel,
    by decide +kernel⟩

end TeamPresence
