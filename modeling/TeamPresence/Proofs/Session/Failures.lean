import TeamPresence.Proofs.Session.Attempts
import TeamPresence.Proofs.Wire.Rosters

/-!
# How a session fails

An action of a session fails before its packet is made, without an answer, or with one that does not
read (`Fault.IsOfSession`). A refusal ends an action only if it gives up on refusals.
**`Action.isOfSession_of_error`** says so of every action.
-/

namespace TeamPresence

/-- The faults at which an action of a session can end, if it gives up on refusals or does not. -/
def Fault.IsOfSession (givesUp : Bool) : Fault → Prop
  | header _ | body _ | closed | unencodable _ | unanswered _ _ | sendLimit => True
  | malformed _ | unexpectedKind _ _ => True
  | rejected _ => givesUp = true
  | _ => False

/-- What is wrong with a reply that does not read. -/
def Fault.IsMisread : Fault → Prop
  | malformed _ | unexpectedKind _ _ => True
  | _ => False

theorem Fault.IsMisread.isOfSession {f : Fault} (h : f.IsMisread) (givesUp : Bool) :
    f.IsOfSession givesUp := by
  cases f
  case malformed => trivial
  case unexpectedKind => trivial
  all_goals exact h.elim

/-! ### Reading -/

namespace Reply

variable {r : Reply} {f : Fault}

theorem isMisread_of_expect {α : Type} {kind : ReplyKind} {read : Except Fault α}
    (hread : ∀ f, read = .error f → f.IsMisread)
    (h : (r.expect kind >>= fun _ => read) = .error f) : f.IsMisread := by
  rcases bind_eq_error_iff.mp h with h | ⟨_, -, h⟩
  · unfold expect at h
    split at h
    · cases h
    · cases h
      trivial
  · exact hread f h

theorem isMisread_of_unpack {body : Bytes} {delimiter : String}
    (h : Wire.unpack body delimiter = .error f) : f.IsMisread := by
  unfold Wire.unpack at h
  split at h
  · cases h
  · cases h
    trivial

theorem isMisread_of_unpackTeamStatus {α : Type} {body : Bytes}
    {g : List String × List UInt8 → Except Fault α} (hg : ∀ x, ∃ y, g x = .ok y)
    (h : (Wire.unpackTeamStatus body >>= g) = .error f) : f.IsMisread := by
  rcases bind_eq_error_iff.mp h with h | ⟨x, -, h⟩
  · obtain ⟨cause, rfl⟩ := Wire.unpackTeamStatus_eq_error h
    trivial
  · obtain ⟨y, hy⟩ := hg x
    cases hy.symm.trans h

theorem isMisread_of_networkId (h : r.networkId = .error f) : f.IsMisread := by
  apply isMisread_of_expect _ h
  intro f h
  split at h
  · cases h
  · cases h
    trivial

theorem isMisread_of_teamNames (h : r.teamNames = .error f) : f.IsMisread :=
  isMisread_of_expect (fun _ => isMisread_of_unpack) h

theorem isMisread_of_statusNames (h : r.statusNames = .error f) : f.IsMisread :=
  isMisread_of_expect (fun _ => isMisread_of_unpack) h

theorem isMisread_of_membersIn (h : Session.membersIn r = .error f) : f.IsMisread := by
  rcases bind_eq_error_iff.mp h with h | ⟨names, -, h⟩
  · exact isMisread_of_expect (fun _ => isMisread_of_unpackTeamStatus fun _ => ⟨_, rfl⟩) h
  rcases bind_eq_error_iff.mp h with h | ⟨statuses, -, h⟩
  · exact isMisread_of_expect (fun _ => isMisread_of_unpackTeamStatus fun _ => ⟨_, rfl⟩) h
  · cases h

end Reply

/-! ### Requests -/

namespace Session

variable {s : Session} {net : Net} {f : Fault}

theorem isOfSession_of_packet {a : Ask} (h : s.packet a = .error f) (givesUp : Bool) :
    f.IsOfSession givesUp := by
  rcases bind_eq_error_iff.mp h with h | ⟨r, -, h⟩
  · rcases Request.make_eq_error h with ⟨cause, rfl⟩ | rfl
    · trivial
    · trivial
  · cases h

theorem isOfSession_of_request {a : Ask} (h : (s.request a net).result = .error f) :
    f.IsOfSession a.giveUp := by
  unfold request at h
  split at h
  · cases h
    trivial
  · cases hpacket : s.packet a with
    | error g =>
      rw [hpacket] at h
      cases h
      exact isOfSession_of_packet hpacket _
    | ok packet =>
      rw [hpacket] at h
      obtain ⟨n, hmakes⟩ := s.exchange_makes a packet net
      have hsettles := hmakes.settles
      rw [show (s.manner.pursue a packet 0 net.budget net.discard).outcome = .error f from h]
        at hsettles
      cases hsettles with
      | rejected _ _ hgiveUp _ => exact hgiveUp
      | unanswered _ _ _ => trivial
      | cut _ _ => trivial

theorem isOfSession_of_reading {a : Ask} {β : Type} {read : Reply → Except Fault β × Session}
    (hread : ∀ reply f, (read reply).1 = .error f → f.IsMisread)
    (h : ((s.request a net).reading read).result = .error f) : f.IsOfSession a.giveUp := by
  rcases Run.reading_eq_error h with h | ⟨reply, -, h⟩
  · exact isOfSession_of_request h
  · exact (hread reply f h).isOfSession _

theorem isOfSession_of_register {name : String} (h : (s.register name net).result = .error f) :
    f.IsOfSession false := by
  unfold register at h
  split at h
  · cases h
    trivial
  · refine isOfSession_of_reading (fun reply f h => ?_) h
    unfold adoptId at h
    cases hid : reply.networkId with
    | ok id =>
      rw [hid] at h
      cases h
    | error g =>
      rw [hid] at h
      cases h
      exact Reply.isMisread_of_networkId hid

theorem isOfSession_of_push {team status : Int} {giveUp : Bool}
    (h : (s.push team status giveUp net).result = .error f) : f.IsOfSession giveUp :=
  isOfSession_of_reading (fun _ _ h => by cases h) h

theorem isOfSession_of_fetchDescription (h : (s.fetchDescription net).result = .error f) :
    f.IsOfSession false := by
  refine isOfSession_of_reading (fun reply f h => ?_) h
  unfold adoptNames at h
  cases hteams : reply.teamNames with
  | error g =>
    rw [hteams] at h
    cases h
    exact Reply.isMisread_of_teamNames hteams
  | ok teamNames =>
    cases hstatuses : reply.statusNames with
    | error g =>
      simp only [hteams, hstatuses] at h
      cases h
      exact Reply.isMisread_of_statusNames hstatuses
    | ok statusNames =>
      simp only [hteams, hstatuses] at h
      cases h

theorem isOfSession_of_teamStatus {team : Option Int}
    (h : (s.teamStatus team net).result = .error f) : f.IsOfSession false :=
  isOfSession_of_reading (fun _ _ h => Reply.isMisread_of_membersIn h) h

end Session

/-- Whether an action gives up on a refusal. -/
def Action.givesUp : Action → Bool
  | updateStatus _ giveUp | changeTeam _ giveUp => giveUp
  | request a => a.giveUp
  | _ => false

/-- **An action of a session fails for a reason of its own, or is refused and gives up.** -/
theorem Action.isOfSession_of_error {s : Session} {net : Net} {action : Action} {f : Fault}
    (h : (action.run s net).result = .error f) : f.IsOfSession action.givesUp := by
  cases action with
  | openEndpoint | closeEndpoint | takeIn _ => cases h
  | register name => exact Session.isOfSession_of_register (Run.map_eq_error h)
  | registerOnce name =>
    have herror : (s.registerOnce name net).result = .error f := Run.map_eq_error h
    exact Session.isOfSession_of_register herror
  | fetchDescription => exact Session.isOfSession_of_fetchDescription (Run.map_eq_error h)
  | updateStatus _ _ | changeTeam _ _ | leave =>
    exact Session.isOfSession_of_push (Run.map_eq_error h)
  | teamStatus team => exact Session.isOfSession_of_teamStatus (Run.map_eq_error h)
  | request a => exact Session.isOfSession_of_request (Run.map_eq_error h)

end TeamPresence
