import TeamPresence.Proofs.Session.Accounts
import TeamPresence.Proofs.Session.Identity

/-!
# What a session holds

A session takes on a team and a status, or a network ID and a name, when the call that asks for them
returns. The calls may be any, over any networks: each of them may fail, and what arrives may be
anything.

**`holds_last_returned`**: the team and status of a session are those that the last update asked for
that returned, and the network ID and name are those of the last registration that returned. A call
that fails leaves all four as they were. A call that takes any on was answered by an acknowledgement
of its kind, which arrived after the call began, and the packets of an update name what it asks for.

An update changes the header of later packets only, so each packet is made of what was held before
the call (`Action.packet_of_sent`). What a call receives is still to come when it begins, or is
brought by a packet of its own (`Session.comes_of_received`).
-/

namespace TeamPresence

/-! ### What arrives during a call -/

/-- What is still to come when the clock shows a time. In a heap that is what has not been handed
over when all has rung that rings by then. -/
def Transit.Expects (now : Rat) (data : Bytes) : Transit → Prop
  | ordered arrivals => ∃ a ∈ arrivals, ¬ Clock.hasCome a.due now = true ∧ a.data = data
  | heaped _ late heap => data ∈ late ∨ ∃ a, .arrival a ∈ (heap.ring now).2.rows ∧ a.data = data

namespace Net

/-- A network where arrivals that are not kept in a heap are in the order of their times. -/
def InOrder (n : Net) : Prop :=
  ∀ arrivals, n.link.transit = .ordered arrivals → IsSchedule arrivals

/-- What a send puts on its way to the client. -/
def SendBrings (packet data : Bytes) (n : Net) : Prop :=
  ∃ before e after, n.nextFate.1.events = before ++ e :: after ∧
    let m := before.foldl (happen packet) n.nextFate.2
    e.Brings (m.serve packet m.link.address).1 data

variable {n : Net} {packet data : Bytes}

theorem carries_of_send (h : (n.send packet).2.link.transit.Carries data) :
    n.link.transit.Carries data ∨ n.SendBrings packet data := by
  have hevents : ∀ (E : List Event) (m : Net),
      (E.foldl (happen packet) m).link.transit.Carries data → m.link.transit.Carries data ∨
        ∃ before e after, E = before ++ e :: after ∧
          let k := before.foldl (happen packet) m
          e.Brings (k.serve packet k.link.address).1 data := by
    intro E
    induction E with
    | nil =>
      intro m h
      exact Or.inl h
    | cons e rest ih =>
      intro m h
      rcases ih _ h with h | ⟨before, e', after, rfl, hbrings⟩
      · exact (carries_of_happen h).imp_right fun hbrings => ⟨[], e, rest, rfl, hbrings⟩
      · exact Or.inr ⟨e :: before, e', after, rfl, hbrings⟩
  have hnext : n.nextFate.2.link.transit = n.link.transit := by
    unfold nextFate
    split <;> rfl
  have hsend := hevents n.nextFate.1.events n.nextFate.2 h
  rwa [hnext] at hsend

theorem InOrder.expects_of_discard (horder : n.InOrder)
    (h : n.discard.link.transit.Carries data) : n.link.transit.Expects n.now data := by
  cases htransit : n.link.transit with
  | ordered arrivals =>
    rw [Timely.transit_discard htransit (horder arrivals htransit)] at h
    obtain ⟨a, ha, hdata⟩ := h
    rw [List.mem_filter, Bool.not_eq_true', ← Bool.not_eq_true] at ha
    exact ⟨a, ha.1, ha.2, hdata⟩
  | heaped inbox late heap =>
    rw [discard, htransit, Transit.discard] at h
    exact h.resolve_left List.not_mem_nil

end Net

namespace Session

variable {s : Session} {net : Net} {packet data : Bytes}

/-- What arrives after a session began to send a packet: it is still to come then, or one of the
first `count` packets brings it. -/
def Comes (s : Session) (packet : Bytes) (net : Net) (count : Nat) (data : Bytes) : Prop :=
  net.link.transit.Expects net.now data ∨
    ∃ k < count, (s.afterAttempts packet net k).SendBrings packet data

theorem comes_of_carries (horder : net.InOrder) {k : Nat}
    (h : (s.afterAttempts packet net k).link.transit.Carries data) : s.Comes packet net k data := by
  induction k with
  | zero => exact Or.inl (horder.expects_of_discard h)
  | succ k ih =>
    rw [afterAttempts, Net.afterAttempts_succ] at h
    rcases Net.carries_of_send (Transit.carries_of_wait (Or.inr h)) with h | hbrings
    · refine (ih h).imp_right ?_
      rintro ⟨j, hj, hbrings⟩
      exact ⟨j, Nat.lt_succ_of_lt hj, hbrings⟩
    · exact Or.inr ⟨k, Nat.lt_succ_self k, hbrings⟩

/-- What an attempt receives arrived after the first one began. -/
theorem comes_of_received (horder : net.InOrder) {k : Nat}
    (h : (s.attempt packet net k).received = some data) : s.Comes packet net (k + 1) data := by
  rcases Net.carries_of_send (Transit.carries_of_wait (Or.inl h)) with h | hbrings
  · refine (comes_of_carries horder h).imp_right ?_
    rintro ⟨j, hj, hbrings⟩
    exact ⟨j, Nat.lt_succ_of_lt hj, hbrings⟩
  · exact Or.inr ⟨k, Nat.lt_succ_self k, hbrings⟩

theorem Comes.mono {count more : Nat} (h : s.Comes packet net count data) (hle : count ≤ more) :
    s.Comes packet net more data := by
  refine h.imp_right ?_
  rintro ⟨k, hk, hbrings⟩
  exact ⟨k, Nat.lt_of_lt_of_le hk hle, hbrings⟩

end Session

/-! ### What an action asks -/

namespace Action

variable {s : Session} {net : Net} {action : Action}

/-- What an action asks of the server, if it gets so far. -/
def ask? (s : Session) : Action → Option Ask
  | register name | registerOnce name => (Latin1.encode name).toOption.map Session.registration
  | fetchDescription => some Session.inquiry
  | updateStatus status giveUp => some (Session.stateUpdate s.team status giveUp)
  | changeTeam team giveUp => some (Session.stateUpdate team s.status giveUp)
  | teamStatus team => some (Session.muster team)
  | leave => some (Session.stateUpdate noTeam noStatus false)
  | request a => some a
  | openEndpoint | closeEndpoint | takeIn _ => none

/-- The network over which an action asks. One registration opens an endpoint of its own. -/
def netOf (s : Session) (net : Net) : Action → Net
  | registerOnce _ => { net with link := net.link.reopen s.manner.timeout }
  | _ => net

theorem exchange_of_request {a : Ask} {x : Exchange} (h : (s.request a net).exchange = some x) :
    ∃ packet, s.packet a = .ok packet ∧ x = (s.manner.exchange a packet net).1 := by
  rcases s.request_cases a net with ⟨f, hrequest, -⟩ | ⟨packet, hpacket, hrequest⟩
  · rw [hrequest] at h
    cases h
  · rw [hrequest] at h
    exact ⟨packet, hpacket, (Option.some.inj h).symm⟩

theorem exchange_of_register {name : String} {x : Exchange}
    (h : (s.register name net).exchange = some x) :
    ∃ a packet, (Latin1.encode name).toOption.map Session.registration = some a ∧
      s.packet a = .ok packet ∧ x = (s.manner.exchange a packet net).1 := by
  unfold Session.register at h
  cases hname : Latin1.encode name with
  | error gap =>
    rw [hname] at h
    cases h
  | ok body =>
    rw [hname, Run.exchange_reading] at h
    obtain ⟨packet, hpacket, hx⟩ := exchange_of_request h
    exact ⟨_, packet, rfl, hpacket, hx⟩

theorem exchange_of_run {x : Exchange} (h : (action.run s net).exchange = some x) :
    ∃ a packet, action.ask? s = some a ∧ s.packet a = .ok packet ∧
      x = (s.manner.exchange a packet (action.netOf s net)).1 := by
  have hread : ∀ {a : Ask} {β : Type} (read : Reply → Except Fault β × Session),
      ((s.request a net).reading read).exchange = some x →
        ∃ a' packet, some a = some a' ∧ s.packet a' = .ok packet ∧
          x = (s.manner.exchange a' packet net).1 := by
    intro a β read h
    rw [Run.exchange_reading] at h
    obtain ⟨packet, hpacket, hx⟩ := exchange_of_request h
    exact ⟨a, packet, rfl, hpacket, hx⟩
  have hpush : ∀ {team status : Int} {giveUp : Bool}, (s.push team status giveUp net).exchange =
      some x → ∃ a packet, some (Session.stateUpdate team status giveUp) = some a ∧
        s.packet a = .ok packet ∧ x = (s.manner.exchange a packet net).1 := fun h => hread _ h
  cases action with
  | openEndpoint | closeEndpoint | takeIn _ => cases h
  | register name => exact exchange_of_register h
  | registerOnce name => exact exchange_of_register h
  | fetchDescription => exact hread s.adoptNames h
  | updateStatus _ _ | changeTeam _ _ | leave => exact hpush h
  | teamStatus _ => exact hread (fun reply => (Session.membersIn reply, s)) h
  | request a =>
    obtain ⟨packet, hpacket, hx⟩ := exchange_of_request h
    exact ⟨a, packet, rfl, hpacket, hx⟩

theorem packet_of_sent {packet : Bytes} (h : packet ∈ (action.run s net).sent) :
    ∃ a, action.ask? s = some a ∧ s.packet a = .ok packet := by
  rw [Run.sent] at h
  cases hx : (action.run s net).exchange with
  | none =>
    rw [hx] at h
    cases h
  | some x =>
    rw [hx] at h
    obtain ⟨a, packet', hask, hpacket, rfl⟩ := exchange_of_run hx
    obtain ⟨attempt, -, rfl⟩ := List.mem_map.mp h
    exact ⟨a, hask, hpacket⟩

end Action

/-! ### Acknowledgements -/

/-- Whether a run consumed a reply of a kind, which arrived after it began. -/
def Run.Consumes {α : Type} (r : Run α) (s : Session) (net : Net) (kind : ReplyKind) : Prop :=
  ∃ x attempt data reply, r.exchange = some x ∧ attempt ∈ x.attempts ∧
    attempt.received = some data ∧ Reply.parse data = .ok reply ∧ reply.code = kind.code ∧
    s.Comes x.packet net x.attempts.length data

theorem Reply.received?_eq_some_iff {received : Option Bytes} {reply : Reply} :
    Reply.received? received = some reply ↔
      ∃ data, received = some data ∧ Reply.parse data = .ok reply := by
  rw [Reply.received?]
  cases received with
  | none => simp
  | some data => cases hparse : Reply.parse data <;> simp [hparse, Except.toOption]

theorem Action.consumes_of_answer {s : Session} {net : Net} {action : Action} {reply : Reply}
    {a : Ask} {kind : ReplyKind} (horder : (action.netOf s net).InOrder)
    (h : (action.run s net).answer? = some reply) (hask : action.ask? s = some a)
    (hkind : a.expected = kind.code.toNat) :
    (action.run s net).Consumes s (action.netOf s net) kind := by
  rw [Run.answer?] at h
  obtain ⟨x, hx, houtcome⟩ := Option.bind_eq_some_iff.mp h
  obtain ⟨a', packet, hask', -, rfl⟩ := exchange_of_run hx
  obtain rfl := Option.some.inj (hask.symm.trans hask')
  have hok : (s.manner.exchange a packet (action.netOf s net)).1.outcome = .ok reply := by
    cases hresult : (s.manner.exchange a packet (action.netOf s net)).1.outcome with
    | ok r =>
      rw [hresult] at houtcome
      rw [Option.some.inj houtcome]
    | error f =>
      rw [hresult] at houtcome
      cases houtcome
  obtain ⟨hcode, attempt, hattempt, hreceived⟩ := Session.received_of_outcome hok
  obtain ⟨data, hdata, hparse⟩ := Reply.received?_eq_some_iff.mp hreceived
  refine ⟨_, attempt, data, reply, hx, hattempt, hdata, hparse, ?_, ?_⟩
  · exact UInt8.toNat_inj.mp (Int.ofNat_inj.mp (hcode.trans hkind))
  · -- the attempts are numbered from the first one on
    obtain ⟨n, hmakes⟩ := s.exchange_makes a packet (action.netOf s net)
    have hattempts := hmakes.attempts
    have hlength := congrArg List.length hattempts
    rw [List.length_map, List.length_range'] at hlength
    change attempt ∈ (s.manner.pursue a packet 0 _ _).attempts at hattempt
    rw [hattempts] at hattempt
    obtain ⟨k, hk, rfl⟩ := List.mem_map.mp hattempt
    have hlt := (List.mem_range'_1.mp hk).2
    apply (Session.comes_of_received horder hdata).mono
    show k + 1 ≤ (s.manner.pursue a packet 0 _ _).attempts.length
    rw [hlength]
    omega

/-! ### What an action takes on -/

/-- Under which network ID and name a session goes. -/
def Session.identity (s : Session) : Int × Option String := (s.networkId, s.displayName)

/-- What becomes of the team and status, and of the network ID and name, in the run of an action:
they stay, or what an action asked for is taken on with the answer to it. -/
inductive Run.Adopts (s : Session) (action : Action) (r : Run Answer) : Prop
  | failed {f : Fault} (hresult : r.result = .error f) (hvalues : r.session.values = s.values)
      (hidentity : r.session.identity = s.identity)
  | kept {answer : Answer} (hpushes : action.pushes s = none) (hregisters : action.registers = none)
      (hresult : r.result = .ok answer) (hvalues : r.session.values = s.values)
      (hidentity : r.session.identity = s.identity)
  | pushed {team status : Int} {reply : Reply} (hpushes : action.pushes s = some (team, status))
      (hregisters : action.registers = none) (hanswer : r.answer? = some reply)
      (hresult : r.result = .ok .done) (hsession : r.session = { s with team, status })
  | registered {name : String} {id : Int} {reply : Reply} (hpushes : action.pushes s = none)
      (hregisters : action.registers = some name) (hanswer : r.answer? = some reply)
      (hresult : r.result = .ok (.networkId id))
      (hsession : r.session = { s with networkId := id, displayName := some name })

namespace Action

variable {s : Session} {net : Net} {action : Action}

theorem adopts_of_kept {r : Run Answer} (hpushes : action.pushes s = none)
    (hregisters : action.registers = none) (hvalues : r.session.values = s.values)
    (hidentity : r.session.identity = s.identity) : r.Adopts s action := by
  cases hresult : r.result with
  | ok answer => exact .kept hpushes hregisters hresult hvalues hidentity
  | error f => exact .failed hresult hvalues hidentity

theorem registers_of_pushes {team status : Int} (h : action.pushes s = some (team, status)) :
    action.registers = none := by
  cases action <;> first | rfl | cases h

theorem adopts_of_pushes {team status : Int} (h : action.pushes s = some (team, status))
    (net : Net) : (action.run s net).Adopts s action := by
  obtain ⟨giveUp, hrun⟩ := run_of_pushes h net
  rw [hrun]
  cases s.request_reads (Session.stateUpdate team status giveUp) net
    (fun _ => (.ok (), { s with team, status })) with
  | unanswered _ hresult hsession =>
    exact .failed (congrArg (Except.map _) hresult) (congrArg Session.values hsession)
      (congrArg Session.identity hsession)
  | answered _ hanswer _ _ hresult hsession =>
    exact .pushed h (registers_of_pushes h) hanswer (congrArg (Except.map _) hresult) hsession

theorem adopts_of_registers {name : String} (h : action.registers = some name) (net : Net) :
    (action.run s net).Adopts s action := by
  have hpushes : action.pushes s = none := by
    cases hpushes : action.pushes s with
    | none => rfl
    | some values => cases h.symm.trans (registers_of_pushes hpushes)
  cases run_of_registers h s net with
  | failed _ hresult hsession =>
    exact .failed hresult (congrArg Session.values hsession) (congrArg Session.identity hsession)
  | told hanswer _ hresult hsession => exact .registered hpushes h hanswer hresult hsession

theorem run_adopts (s : Session) (net : Net) (action : Action) :
    (action.run s net).Adopts s action := by
  cases action with
  | openEndpoint | closeEndpoint | takeIn _ => exact adopts_of_kept rfl rfl rfl rfl
  | register _ | registerOnce _ => exact adopts_of_registers rfl net
  | updateStatus _ _ | changeTeam _ _ | leave => exact adopts_of_pushes rfl net
  | fetchDescription =>
    cases s.fetchDescription_describes net with
    | nothing _ _ hsession | half _ _ _ _ hsession | whole _ _ _ _ _ _ hsession =>
      have hvalues := congrArg Session.values hsession
      have hidentity := congrArg Session.identity hsession
      exact adopts_of_kept rfl rfl hvalues hidentity
  | teamStatus team =>
    have hsession := s.teamStatus_session team net
    exact adopts_of_kept rfl rfl (congrArg Session.values hsession)
      (congrArg Session.identity hsession)
  | request a =>
    have hsession := s.request_session a net
    exact adopts_of_kept rfl rfl (congrArg Session.values hsession)
      (congrArg Session.identity hsession)

/-- The values that the header of an update names, if the action sends one. -/
def names (s : Session) : Action → Option (Int × Int)
  | request a => some (a.team.getD s.team, a.status.getD s.status)
  | action => action.pushes s

theorem names_of_sent {packet : Bytes} (h : packet ∈ (action.run s net).sent) {r : Request}
    (hparse : Request.parse packet = .ok r) (hkind : r.kind? = some .updateStatus) :
    (r.networkId : Int) = s.networkId ∧
      action.names s = some ((r.team.toNat : Int), (r.status.toNat : Int)) := by
  obtain ⟨a, hask, hpacket⟩ := packet_of_sent h
  obtain ⟨r', hparse', hcode, hid, hteam, hstatus, -⟩ := Session.parse_of_packet hpacket
  obtain rfl := Except.ok.inj (hparse.symm.trans hparse')
  refine ⟨hid, ?_⟩
  have hupdate : a.code = RequestKind.updateStatus.code.toNat := by
    rw [← hcode, Request.code_of_kind? hkind]
  rw [hteam, hstatus]
  cases action with
  | openEndpoint | closeEndpoint | takeIn _ => cases hask
  | register _ | registerOnce _ =>
    obtain ⟨body, -, rfl⟩ := Option.map_eq_some_iff.mp hask
    exact absurd (show (RequestKind.register.code.toNat : Int) = _ from hupdate) (by decide)
  | fetchDescription =>
    obtain rfl := Option.some.inj hask
    exact absurd (show (RequestKind.description.code.toNat : Int) = _ from hupdate) (by decide)
  | teamStatus _ =>
    obtain rfl := Option.some.inj hask
    exact absurd (show (RequestKind.teamStatus.code.toNat : Int) = _ from hupdate) (by decide)
  | updateStatus _ _ | changeTeam _ _ | leave | request _ =>
    obtain rfl := Option.some.inj hask
    rfl

end Action

/-! ### Runs of calls -/

namespace Call

/-- The team and status that a call asked for, if it returned. -/
def pushed? (s : Session) (c : Call) : Option (Int × Int) :=
  match (c.run s).result with
  | .ok _ => c.action.pushes s
  | .error _ => none

/-- The network ID that a call returned, and the name that it registered. -/
def registered? (s : Session) (c : Call) : Option (Int × Option String) :=
  match c.action.registers, (c.run s).result with
  | some name, .ok (.networkId id) => some (id, some name)
  | _, _ => none

/-- What is expected of a call: if it fails, nothing is taken on; if it takes on values or an
identity, an acknowledgement of that kind came after the call began; and each packet of an update
names what the call asks for. -/
structure Holds (s : Session) (c : Call) : Prop where
  failed : ∀ {f : Fault}, (c.run s).result = .error f →
    (c.run s).session.values = s.values ∧ (c.run s).session.identity = s.identity
  pushed : ∀ {team status : Int} {answer : Answer}, c.action.pushes s = some (team, status) →
    (c.run s).result = .ok answer → (c.run s).session.values = (team, status) ∧
      (c.run s).Consumes s (c.action.netOf s c.net) .updated
  registered : ∀ {name : String} {answer : Answer}, c.action.registers = some name →
    (c.run s).result = .ok answer → ∃ id, answer = .networkId id ∧
      (c.run s).session.identity = (id, some name) ∧
      (c.run s).Consumes s (c.action.netOf s c.net) .registered
  packets : ∀ packet ∈ (c.run s).sent, ∀ r, Request.parse packet = .ok r →
    r.kind? = some .updateStatus → (r.networkId : Int) = s.networkId ∧
      c.action.names s = some ((r.team.toNat : Int), (r.status.toNat : Int))

variable {s : Session} {c : Call}

theorem inOrder_netOf (h : c.net.InOrder) : (c.action.netOf s c.net).InOrder := by
  cases haction : c.action with
  | registerOnce name =>
    intro arrivals htransit
    have hempty : Transit.empty s.manner.timeout = .ordered arrivals := htransit
    unfold Transit.empty at hempty
    split at hempty
    · cases hempty
    · cases hempty
      exact IsSchedule.nil
  | _ => exact h

theorem values_run (s : Session) (c : Call) :
    (c.run s).session.values = (c.pushed? s).getD s.values := by
  unfold pushed? run
  cases c.action.run_adopts s c.net with
  | failed hresult hvalues _ =>
    rw [hresult, hvalues]
    rfl
  | kept hpushes _ hresult hvalues _ =>
    rw [hresult, hvalues, hpushes]
    rfl
  | pushed hpushes _ _ hresult hsession =>
    rw [hresult, hsession, hpushes]
    rfl
  | registered hpushes _ _ hresult hsession =>
    rw [hresult, hsession, hpushes]
    rfl

theorem identity_run (s : Session) (c : Call) :
    (c.run s).session.identity = (c.registered? s).getD s.identity := by
  unfold registered? run
  cases c.action.run_adopts s c.net with
  | failed hresult _ hidentity =>
    rw [hresult, hidentity]
    cases c.action.registers <;> rfl
  | kept _ hregisters _ _ hidentity =>
    rw [hregisters, hidentity]
    rfl
  | pushed _ hregisters _ _ hsession =>
    rw [hregisters, hsession]
    rfl
  | registered _ hregisters _ hresult hsession =>
    rw [hresult, hsession, hregisters]
    rfl

theorem expected_of_pushes {action : Action} {values : Int × Int}
    (h : action.pushes s = some values) :
    ∃ a, action.ask? s = some a ∧ a.expected = ReplyKind.updated.code.toNat := by
  cases action <;> cases h <;> exact ⟨_, rfl, rfl⟩

theorem expected_of_registers {action : Action} {name : String} {net : Net} {reply : Reply}
    (h : action.registers = some name) (hanswer : (action.run s net).answer? = some reply) :
    ∃ a, action.ask? s = some a ∧ a.expected = ReplyKind.registered.code.toNat := by
  rw [Run.answer?] at hanswer
  obtain ⟨x, hx, -⟩ := Option.bind_eq_some_iff.mp hanswer
  obtain ⟨a, -, hask, -⟩ := Action.exchange_of_run hx
  refine ⟨a, hask, ?_⟩
  cases action <;> cases h
  all_goals
    obtain ⟨body, -, rfl⟩ := Option.map_eq_some_iff.mp hask
    rfl

theorem holds (h : c.net.InOrder) : c.Holds s := by
  have horder := inOrder_netOf (s := s) h
  refine ⟨?_, ?_, ?_, fun packet hsent r hparse hkind => Action.names_of_sent hsent hparse hkind⟩
  · intro f hfailed
    have hnone : c.pushed? s = none ∧ c.registered? s = none := by
      unfold pushed? registered?
      rw [hfailed]
      cases c.action.registers <;> exact ⟨rfl, rfl⟩
    rw [values_run, identity_run, hnone.1, hnone.2]
    exact ⟨rfl, rfl⟩
  · intro team status answer hpushes hok
    refine ⟨?_, ?_⟩
    · rw [values_run, pushed?, hok, hpushes]
      rfl
    · obtain ⟨a, hask, hexpected⟩ := expected_of_pushes hpushes
      unfold run at hok
      cases c.action.run_adopts s c.net with
      | failed hresult => cases hresult.symm.trans hok
      | kept hnone => cases hnone.symm.trans hpushes
      | pushed _ _ hanswer => exact Action.consumes_of_answer horder hanswer hask hexpected
      | registered hnone => cases hnone.symm.trans hpushes
  · intro name answer hregisters hok
    unfold run at hok ⊢
    cases c.action.run_adopts s c.net with
    | failed hresult => cases hresult.symm.trans hok
    | kept _ hnone => cases hnone.symm.trans hregisters
    | pushed _ hnone => cases hnone.symm.trans hregisters
    | registered _ hregisters' hanswer hresult hsession =>
      obtain rfl := Option.some.inj (hregisters.symm.trans hregisters')
      obtain ⟨a, hask, hexpected⟩ := expected_of_registers hregisters hanswer
      refine ⟨_, (Except.ok.inj (hresult.symm.trans hok)).symm, ?_,
        Action.consumes_of_answer horder hanswer hask hexpected⟩
      rw [hsession]
      rfl

end Call

namespace Session

/-- The session after some calls. -/
def after (s : Session) (calls : List Call) : Session :=
  calls.foldl (fun s c => (c.run s).session) s

/-- What is told by some calls and stays in all others is after a run what was told last. -/
theorem last_told {α : Type} (held : Session → α) (told? : Session → Call → Option α)
    (hstep : ∀ s c, held (c.run s).session = (told? s c).getD (held s)) (s : Session)
    (calls : List Call) :
    held (s.after calls) =
      ((s.course calls).filterMap fun p => told? p.1 p.2).getLast?.getD (held s) := by
  induction calls generalizing s with
  | nil => rfl
  | cons c rest ih =>
    show held ((c.run s).session.after rest) = _
    rw [ih, course, hstep, List.filterMap_cons]
    cases told? s c with
    | none => rfl
    | some value =>
      rw [List.getLast?_cons]
      rfl

theorem holds_of_mem_course {s : Session} {calls : List Call} (h : ∀ c ∈ calls, c.net.InOrder) :
    ∀ p ∈ s.course calls, p.2.Holds p.1 := by
  induction calls generalizing s with
  | nil => exact fun p hp => absurd hp List.not_mem_nil
  | cons c rest ih =>
    rw [List.forall_mem_cons] at h
    rw [course, List.forall_mem_cons]
    exact ⟨Call.holds h.1, ih h.2⟩

/-- **A session holds what the last call that returned asked for**: the team and status of the last
update, and the network ID and name of the last registration. At first it has no team and no
status. -/
theorem holds_last_returned (s : Session) (calls : List Call) (h : ∀ c ∈ calls, c.net.InOrder) :
    (∀ c : ClientSettings, (ofSettings c).values = (noTeam, noStatus)) ∧
      (s.after calls).values =
        ((s.course calls).filterMap fun p => p.2.pushed? p.1).getLast?.getD s.values ∧
      (s.after calls).identity =
        ((s.course calls).filterMap fun p => p.2.registered? p.1).getLast?.getD s.identity ∧
      ∀ p ∈ s.course calls, p.2.Holds p.1 := by
  refine ⟨fun _ => rfl, ?_, ?_, holds_of_mem_course h⟩
  · exact last_told values (fun s c => c.pushed? s) Call.values_run s calls
  · exact last_told identity (fun s c => c.registered? s) Call.identity_run s calls

/-- An open endpoint with datagrams under way to it, where each packet has the fate told. -/
def unsettledNet (arrivals : List Arrival) (script : List Fate) : Net := {
  link := {
    address := ⟨"127.0.0.1", 40000⟩, isOpen := true, transit := .ordered arrivals, script } }

/-- A session registers, and joins a team though its first packet is lost. Then a status is refused,
and leaving is unanswered, though an old acknowledgement lies in the queue. -/
def unsettledCalls : List Call :=
  [⟨.register "Ann", unsettledNet [] [⟨none, [.planted [2, 0x37] 0]⟩]⟩,
    ⟨.changeTeam 1 false, unsettledNet [⟨5 / 4, [5, 0x26]⟩] [⟨none, []⟩, ⟨none, []⟩]⟩,
    ⟨.updateStatus 9 true, unsettledNet [] [⟨none, [.planted [1, 0x6e, 0x6f] 0]⟩]⟩,
    ⟨.leave, unsettledNet [⟨0, [5, 0x26]⟩] [⟨none, []⟩, ⟨none, []⟩]⟩]

theorem inOrder_unsettledNet {arrivals : List Arrival} (script : List Fate)
    (h : IsSchedule arrivals) : (unsettledNet arrivals script).InOrder := by
  intro arrivals' htransit
  cases htransit
  exact h

theorem holds_last_returned_unsettled :
    let s : Session := { manner := ⟨.one, some 2⟩ }
    (∀ c ∈ unsettledCalls, c.net.InOrder) ∧
      (s.course unsettledCalls).map (fun p => (p.2.run p.1).result) =
        [.ok (.networkId 7), .ok .done, .error (.rejected "no"), .error (.unanswered 5 2)] ∧
      (s.after unsettledCalls).values = (1, noStatus) ∧
      (s.after unsettledCalls).identity = (7, some "Ann") ∧
      ∀ p ∈ s.course unsettledCalls, p.2.Holds p.1 := by
  intro s
  have horder : ∀ c ∈ unsettledCalls, c.net.InOrder := by
    rw [unsettledCalls, List.forall_mem_cons, List.forall_mem_cons, List.forall_mem_cons,
      List.forall_mem_singleton]
    refine ⟨inOrder_unsettledNet _ .nil, inOrder_unsettledNet _ ?_, inOrder_unsettledNet _ .nil,
      inOrder_unsettledNet _ ?_⟩
    · exact ⟨by simp, by decide +kernel⟩
    · exact ⟨by simp, by decide +kernel⟩
  obtain ⟨-, hvalues, hidentity, hholds⟩ := s.holds_last_returned unsettledCalls horder
  rw [hvalues, hidentity]
  exact ⟨horder, by decide +kernel, by decide +kernel, by decide +kernel, hholds⟩

end Session

end TeamPresence
