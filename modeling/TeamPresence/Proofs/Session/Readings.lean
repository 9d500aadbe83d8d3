import TeamPresence.Proofs.Session.Attempts

/-!
# What an operation makes of its answer

An operation of a session makes a request and reads the reply that answers it. **`request_reads`**:
without an answer it fails and leaves the session as it was; with one, which an attempt of the
request received, what it returns and what becomes of the session is up to the reading of it.
-/

namespace TeamPresence

variable {α β : Type}

namespace Run

/-- The reply that answered the request of a run, if one did. -/
def answer? (r : Run α) : Option Reply := r.exchange.bind fun x => x.outcome.toOption

/-- Whether an attempt of a run received a reply. -/
def Receives (r : Run α) (reply : Reply) : Prop :=
  ∃ x ∈ r.exchange, ∃ a ∈ x.attempts, Reply.received? a.received = some reply

theorem exchange_reading (r : Run α) (read : α → Except Fault β × Session) :
    (r.reading read).exchange = r.exchange := by
  rw [reading]
  split <;> rfl

theorem answer?_reading (r : Run α) (read : α → Except Fault β × Session) :
    (r.reading read).answer? = r.answer? := by rw [answer?, exchange_reading, answer?]

theorem receives_reading {r : Run α} {read : α → Except Fault β × Session} {reply : Reply} :
    (r.reading read).Receives reply ↔ r.Receives reply := by
  rw [Receives, exchange_reading, Receives]

/-- How a run reads the answer to what a session asks. -/
inductive Reads (s : Session) (a : Ask) (read : Reply → Except Fault β × Session) (r : Run β) :
    Prop
  | unanswered {f : Fault} (hanswer : r.answer? = none) (hresult : r.result = .error f)
      (hsession : r.session = s)
  | answered {packet : Bytes} {reply : Reply} (hpacket : s.packet a = .ok packet)
      (hanswer : r.answer? = some reply) (hreceives : r.Receives reply)
      (hcode : (reply.code.toNat : Int) = a.expected) (hresult : r.result = (read reply).1)
      (hsession : r.session = (read reply).2)

end Run

theorem Ask.code_of_reply? {a : Ask} {received : Option Bytes} {reply : Reply}
    (h : a.reply? received = some reply) :
    Reply.received? received = some reply ∧ (reply.code.toNat : Int) = a.expected := by
  rw [reply?, Option.filter_eq_some_iff] at h
  exact ⟨h.1, of_decide_eq_true h.2⟩

namespace Session

theorem received_of_outcome {s : Session} {a : Ask} {packet : Bytes} {net : Net} {reply : Reply}
    (h : (s.manner.exchange a packet net).1.outcome = .ok reply) :
    (reply.code.toNat : Int) = a.expected ∧
      ∃ x ∈ (s.manner.exchange a packet net).1.attempts,
        Reply.received? x.received = some reply := by
  obtain ⟨n, hmakes⟩ := s.exchange_makes a packet net
  have hattempts := hmakes.attempts
  have hsettles := hmakes.settles
  rw [show (s.manner.pursue a packet 0 net.budget net.discard).outcome = .ok reply from h]
    at hsettles
  cases hsettles with
  | @answered k _ _ _ hreply =>
    obtain ⟨hreceived, hcode⟩ := Ask.code_of_reply? hreply
    refine ⟨hcode, _, ?_, hreceived⟩
    show _ ∈ (s.manner.pursue a packet 0 net.budget net.discard).attempts
    rw [hattempts]
    exact List.mem_map_of_mem (List.mem_range'_1.mpr ⟨Nat.zero_le k, by omega⟩)

/-- **A request that is read** fails without an answer, and else comes to what is read. -/
theorem request_reads (s : Session) (a : Ask) (net : Net)
    (read : Reply → Except Fault β × Session) :
    ((s.request a net).reading read).Reads s a read := by
  rcases s.request_cases a net with ⟨f, hrequest, -⟩ | ⟨packet, hpacket, hrequest⟩
  · exact .unanswered (by rw [hrequest]; rfl) (by rw [hrequest]; rfl) (by rw [hrequest]; rfl)
  · have hanswer : ((s.request a net).reading read).answer? =
        (s.manner.exchange a packet net).1.outcome.toOption := by
      rw [Run.answer?_reading, hrequest, Run.answer?, Option.bind_some]
    cases houtcome : (s.manner.exchange a packet net).1.outcome with
    | error f =>
      rw [houtcome] at hanswer
      refine .unanswered (f := f) hanswer ?_ ?_
      · rw [hrequest, Run.reading, houtcome]
      · rw [hrequest, Run.reading, houtcome]
    | ok reply =>
      rw [houtcome] at hanswer
      obtain ⟨hcode, x, hx, hreceived⟩ := received_of_outcome houtcome
      refine .answered hpacket hanswer ?_ hcode ?_ ?_
      · rw [Run.receives_reading, hrequest]
        exact ⟨_, rfl, x, hx, hreceived⟩
      · rw [hrequest, Run.reading, houtcome]
      · rw [hrequest, Run.reading, houtcome]

theorem teamStatus_session (s : Session) (team : Option Int) (net : Net) :
    (s.teamStatus team net).session = s := by
  cases s.request_reads (muster team) net fun reply => (membersIn reply, s) with
  | unanswered _ _ hsession => exact hsession
  | answered _ _ _ _ _ hsession => exact hsession

/-- A session takes on the values of an update that returns, and of no other. -/
theorem push_session (s : Session) (team status : Int) (giveUp : Bool) (net : Net) :
    ((s.push team status giveUp net).result = .ok () ∧
      (s.push team status giveUp net).session = { s with team, status }) ∨
    ∃ f, (s.push team status giveUp net).result = .error f ∧
      (s.push team status giveUp net).session = s := by
  cases s.request_reads (stateUpdate team status giveUp) net
    (fun _ => (.ok (), { s with team, status })) with
  | @unanswered f _ hresult hsession => exact Or.inr ⟨f, hresult, hsession⟩
  | answered _ _ _ _ hresult hsession => exact Or.inl ⟨hresult, hsession⟩

end Session

/-- An open endpoint to which a datagram comes as soon as a packet is sent, whoever sent it. -/
def Net.bringing (data : Bytes) : Net := {
  link := {
    address := ⟨"127.0.0.1", 40000⟩, isOpen := true
    script := [{ events := [.planted data 0] }] } }

end TeamPresence
