import TeamPresence.Program.Daemon
import TeamPresence.Proofs.Service.Totality

/-!
# A host at its endpoint

**`Host.sends_one_reply`**: a host that is bound tries to send one packet for each datagram, back to
where it came from, and the packet reads as the reply of its service.

Nothing that a host does depends on whether its packets leave. `Host.course` is what a host goes
through while things come in: what it tries to send, and its service afterwards. Forgetting which of
the packets fail to be sent does not change it (`Host.course_map_unfailing`), and what is sent is
what is tried, less the failures (`Daemon.serve_eq_course`).
-/

namespace TeamPresence

/-- The same without the reason why a reply is not sent. -/
def Incoming.unfailing : Incoming → Incoming
  | datagram data sender _ => datagram data sender none
  | trouble text => trouble text

/-- Whether the reply fails to be sent. -/
def Incoming.fails : Incoming → Bool
  | datagram _ _ failure => failure.isSome
  | trouble _ => false

namespace Host

/-- The packets that a host tries to send for a datagram, and where they go. -/
def attempts (h : Host) (data : Bytes) (sender : Address) : List (Address × Bytes) :=
  match h.bound with
  | none => []
  | some _ => (h.service.respond data sender).1.packet?.toList.map (sender, ·)

/-- What a host tries to send for each thing that comes in, and its service after that. -/
def course : Host → List Incoming → List (List (Address × Bytes) × Service)
  | _, [] => []
  | h, .trouble _ :: rest => ([], h.service) :: h.course rest
  | h, .datagram data sender failure :: rest =>
    let next := (h.receive data sender failure).2
    (h.attempts data sender, next.service) :: next.course rest

theorem receive_eq (h : Host) (data : Bytes) (sender : Address) (failure : Option String) :
    (h.receive data sender failure).1.toList.map (sender, ·) =
        (if failure.isSome then [] else h.attempts data sender) ∧
      (h.receive data sender failure).2 = (h.receive data sender none).2 := by
  rw [receive, receive, attempts]
  cases h.bound with
  | none => cases failure <;> exact ⟨rfl, rfl⟩
  | some _ => cases failure <;> exact ⟨rfl, rfl⟩

theorem course_map_unfailing (h : Host) (l : List Incoming) :
    h.course (l.map Incoming.unfailing) = h.course l := by
  induction l generalizing h with
  | nil => rfl
  | cons i rest ih =>
    cases i with
    | trouble text => exact congrArg (([], h.service) :: ·) (ih h)
    | datagram data sender failure =>
      simp only [List.map_cons, Incoming.unfailing, course, ih,
        (h.receive_eq data sender failure).2]

end Host

/-- What is sent is what is tried, but for what fails to be sent. -/
theorem Daemon.serve_eq_course (h : Host) (l : List Incoming) :
    (serve h l).1 =
      ((l.zip (h.course l)).filter fun p => !p.1.fails).flatMap fun p => p.2.1 := by
  induction l generalizing h with
  | nil => rfl
  | cons i rest ih =>
    cases i with
    | trouble text => exact ih h
    | datagram data sender failure =>
      have hsent := (h.receive_eq data sender failure).1
      simp only [serve, Host.course, List.zip_cons_cons, hsent, ih]
      cases failure <;> simp [Incoming.fails]

namespace Host

variable {teams statuses : List String} {size limit memory : Int} {dedupe : Bool} {h : Host}

/-- **Each datagram makes a bound host try to send one packet, which reads as the reply of its
service; and the course of a host is the same whichever of its packets fail to be sent.** Those that
do not fail are what the program sends. -/
theorem sends_one_reply
    (hreach : Service.Reachable teams statuses size limit dedupe memory h.service)
    (hmemory : 0 ≤ memory) (hbound : h.bound.isSome = true) :
    (∀ (data : Bytes) (sender : Address), ∃ reply,
      (h.service.handle data (some sender)).1 = .ok reply ∧
      (h.service.respond data sender).1 = .reply reply ∧
      h.attempts data sender = [(sender, reply.serialize)] ∧
      (2 ≤ reply.serialize.length ∧ reply.serialize.length ≤ maxDatagram) ∧
      Reply.parse reply.serialize = .ok reply) ∧
    (∀ l m : List Incoming, l.map Incoming.unfailing = m.map Incoming.unfailing →
      h.course l = h.course m) ∧
    ∀ l : List Incoming, (Daemon.serve h l).1 =
      ((l.zip (h.course l)).filter fun p => !p.1.fails).flatMap fun p => p.2.1 := by
  refine ⟨fun data sender => ?_, fun l m hlm => ?_, Daemon.serve_eq_course h⟩
  · obtain ⟨reply, hreply⟩ :=
      hreach.sound.handle_isOk (hreach.fixed.2 ▸ hmemory) data (some sender)
    have hresponse := Service.respond_of_handle hreply
    obtain ⟨address, haddress⟩ := Option.isSome_iff_exists.mp hbound
    refine ⟨reply, hreply, hresponse, ?_, reply.length_serialize, reply.parse_serialize⟩
    simp only [attempts, haddress, hresponse]
    rfl
  · rw [← h.course_map_unfailing l, hlm, h.course_map_unfailing]

theorem sends_one_reply_crowding :
    ∃ s, Service.host ["Red", "Blue"] ["Busy"] 1 100 true 4 = .ok s ∧
      ∃ h : Host, h.service = s.after Service.crowding ∧ h.bound.isSome = true ∧
        ∃ reply : Reply, reply.code = ReplyKind.error.code ∧
          h.attempts [1, 0, 0, 0, 0, 0, 0xe9] ⟨"127.0.0.1", 5000⟩ =
            [(⟨"127.0.0.1", 5000⟩, reply.serialize)] := by
  obtain ⟨s, hs⟩ : ∃ s, Service.host ["Red", "Blue"] ["Busy"] 1 100 true 4 = .ok s := ⟨_, rfl⟩
  have hrun : ∀ s ∈ (Service.host ["Red", "Blue"] ["Busy"] 1 100 true 4).toOption,
      ((s.after Service.crowding).handle [1, 0, 0, 0, 0, 0, 0xe9]
        (some ⟨"127.0.0.1", 5000⟩)).1.map Reply.code = .ok ReplyKind.error.code := by
    decide +kernel
  have hreach := (Service.Reachable.hosted hs).after Service.crowding
  have hcode := hrun s (by rw [hs]; rfl)
  generalize hafter : s.after Service.crowding = sv at hreach hcode
  let h : Host := {
    settings := { teams := ["Red", "Blue"], statuses := ["Busy"] }
    service := sv
    bound := some ⟨"127.0.0.1", 2000⟩ }
  obtain ⟨reply, hreply, -, hattempts, -, -⟩ := (sends_one_reply (h := h) hreach (by decide) rfl).1
    [1, 0, 0, 0, 0, 0, 0xe9] ⟨"127.0.0.1", 5000⟩
  rw [hreply] at hcode
  exact ⟨s, hs, h, hafter.symm, rfl, reply, Except.ok.inj hcode, hattempts⟩

end Host

end TeamPresence
