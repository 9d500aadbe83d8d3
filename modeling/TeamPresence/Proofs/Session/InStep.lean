import TeamPresence.Proofs.Session.Company
import TeamPresence.Proofs.Session.Readings

/-!
# Sessions in step with the server

Over a network without delay, on which nobody else uses its network ID, a session attends to the
server (`Session.Attends`): it waits for each answer and has the names of the server, which knows it
by its ID. It is in step when the server also has on record for it what it holds
(`Session.OnRecord`).

A user who is new to the server has no team and no status there (`Session.register_records`), and
the first description that such a session receives brings it in step. From then on an update that
returns is on record, whatever was before (`Session.Attends.onRecord_push`). An update that is given
up on at a refusal leaves both sides as they were, if the server does not relent
(`Session.Attends.onRecord_push_failed`).
-/

namespace TeamPresence

/-! ### Requests -/

/-- What a request comes to for a server: it sends nothing and fails, or all that it returns was
answered in one of its own handlings. -/
inductive Run.Reaches (r : Run Reply) (s : Session) (ask : Ask) (id : Int) (a : Address)
    (sv : Service) : Service → Prop
  | unsent {f : Fault} (hresult : r.result = .error f) : Reaches r s ask id a sv sv
  | sent {packet : Bytes} {E : List Event} (hpacket : s.packet ask = .ok packet)
      (hgenuine : ∀ e ∈ E, e.IsGenuine id)
      (hanswer : ∀ {reply : Reply}, r.result = .ok reply →
        (reply.code.toNat : Int) = ask.expected ∧
          ∃ t ∈ sv.handlings packet a E, (t.handle packet (some a)).1 = .ok reply) :
      Reaches r s ask id a sv (sv.undergo packet a E)

namespace Session

variable {s : Session} {net : Net} {sv sv' : Service} {ask : Ask} {id : Nat}

theorem request_reaches (h : net.Undelayed id) (hservice : net.service = some sv) (s : Session)
    (ask : Ask) :
    (s.request ask net).net.Undelayed id ∧ ∃ sv', (s.request ask net).net.service = some sv' ∧
      (s.request ask net).Reaches s ask id net.link.address sv sv' := by
  rcases s.request_cases ask net with ⟨f, hrequest, -⟩ | ⟨packet, hpacket, hrequest⟩
  · rw [hrequest]
    exact ⟨h, sv, hservice, .unsent rfl⟩
  · obtain ⟨hnet, E, hgenuine, hserved, hanswer⟩ := h.exchange hservice s.manner ask packet
    rw [hrequest]
    exact ⟨hnet, _, hserved, .sent hpacket hgenuine hanswer⟩

end Session

namespace Run.Reaches

variable {s : Session} {sv sv' : Service} {ask : Ask} {id : Nat} {r : Run Reply} {a : Address}

theorem succeeds (h : r.Reaches s ask id a sv sv') (hs : sv.Sound) : sv.Succeeds sv' := by
  cases h with
  | unsent _ => exact ⟨hs, le_rfl, rfl⟩
  | sent _ _ _ => exact Service.succeeds_undergo hs _ a _

theorem standing_eq (h : r.Reaches s ask id a sv sv') (hs : sv.Sound)
    (hcode : ask.code ≠ RequestKind.updateStatus.code.toNat) :
    sv'.standing id = sv.standing id := by
  cases h with
  | unsent _ => rfl
  | sent hpacket hgenuine _ =>
    exact Service.standing_undergo hs hgenuine fun hupdate =>
      absurd hupdate (Session.not_isUpdateFor_packet hpacket hcode)

theorem standing_of_ok {team status : Int} {giveUp : Bool}
    (h : r.Reaches s (Session.stateUpdate team status giveUp) id a sv sv') (hs : sv.Sound)
    (hid : s.networkId = id) {reply : Reply} (hok : r.result = .ok reply) :
    sv'.standing id = (team, status) := by
  cases h with
  | unsent hresult => cases hresult.symm.trans hok
  | sent hpacket hgenuine hanswer =>
    obtain ⟨q, hparse, hkind, hqid, hteam, hstatus, -⟩ :=
      Session.parse_packet .updateStatus hpacket rfl
    obtain rfl : q.networkId = id := Int.ofNat_inj.mp (hqid.trans hid)
    obtain ⟨hcode, t, ht, hreply⟩ := hanswer hok
    have haccepts := Service.accepts_of_code hparse hkind hreply
      (UInt8.toNat_inj.mp (Int.ofNat_inj.mp hcode))
    obtain ⟨before, delay, after, hE, rfl⟩ := Service.mem_handlings.mp ht
    have hteam : (q.team.toNat : Int) = team := hteam
    have hstatus : (q.status.toNat : Int) = status := hstatus
    rw [← hteam, ← hstatus]
    exact Service.standing_of_takes hs hparse hkind hgenuine ⟨before, delay, after, hE, haccepts⟩

theorem lt_size_of_ok {body : Bytes} (h : r.Reaches s (Session.registration body) id a sv sv')
    (hs : sv.Sound) {reply : Reply} (hok : r.result = .ok reply) {k : Nat}
    (hk : reply.networkId = .ok (k : Int)) : k < sv'.directory.users.size := by
  cases h with
  | unsent hresult => cases hresult.symm.trans hok
  | @sent packet E hpacket hgenuine hanswer =>
    obtain ⟨q, hparse, hkind, -⟩ := Session.parse_packet .register hpacket rfl
    obtain ⟨hcode, t, ht, hhandled⟩ := hanswer hok
    obtain ⟨before, delay, after, rfl, rfl⟩ := Service.mem_handlings.mp ht
    have hbefore := Service.sound_undergo hs packet a before
    have hcode : reply.code = ReplyKind.registered.code :=
      UInt8.toNat_inj.mp (Int.ofNat_inj.mp hcode)
    rw [Service.handle_registration hparse hkind] at hhandled
    obtain ⟨k', u, hk', hu, -⟩ :=
      hbefore.acknowledged (Service.ok_of_replyTo hhandled (by rw [hcode]; decide))
    obtain rfl : k = k' := Int.ofNat_inj.mp (Except.ok.inj (hk.symm.trans hk'))
    have hregistered : Event.serve packet a (sv.undergo packet a before) (.handled delay) =
        ((sv.undergo packet a before).register q.text (some a)).2 := by
      show ((sv.undergo packet a before).handle packet (some a)).2 = _
      rw [Service.handle_registration hparse hkind]
    have hafter := Service.succeeds_undergo
      (Service.sound_serve hbefore packet a (.handled delay)) packet a after
    rw [← hregistered] at hu
    rw [Service.undergo_append]
    exact (Array.getElem?_eq_some_iff.mp hu).1.trans_le hafter.size_le

theorem eq_description_of_ok (h : r.Reaches s Session.inquiry id a sv sv') {reply : Reply}
    (hok : r.result = .ok reply) : reply = sv'.description := by
  cases h with
  | unsent hresult => cases hresult.symm.trans hok
  | @sent packet E hpacket hgenuine hanswer =>
    obtain ⟨q, hparse, hkind, -⟩ := Session.parse_packet .description hpacket rfl
    obtain ⟨-, t, ht, hhandled⟩ := hanswer hok
    obtain ⟨before, delay, after, rfl, rfl⟩ := Service.mem_handlings.mp ht
    simp only [Service.handle, hparse, Service.answer, hkind, Service.replyTo] at hhandled
    obtain rfl := Except.ok.inj hhandled
    exact (sv.description_undergo packet a _).trans (sv.description_undergo packet a _).symm

end Run.Reaches

/-! ### Clients that are known -/

/-- A client's end of a network without delay, to a server with these names of teams and statuses
that knows the client by its network ID. -/
structure Net.Knows (id : Nat) (teams statuses : List String) (n : Net) : Prop where
  undelayed : n.Undelayed id
  served : ∃ sv, n.service = some sv ∧ sv.Sound ∧ id < sv.directory.users.size ∧
    sv.directory.teamNames = teams ∧ sv.directory.statuses = statuses

namespace Net.Knows

variable {net : Net} {id : Nat} {teams statuses : List String}

theorem request (h : net.Knows id teams statuses) (s : Session) (ask : Ask) :
    (s.request ask net).net.Knows id teams statuses := by
  obtain ⟨sv, hservice, hs, hsize, hteams, hstatuses⟩ := h.served
  obtain ⟨hnet, sv', hsv', hreaches⟩ := Session.request_reaches h.undelayed hservice s ask
  have hsucceeds := hreaches.succeeds hs
  exact ⟨hnet, sv', hsv', hsucceeds.sound, hsize.trans_le hsucceeds.size_le,
    (Directory.teamNames_eq_of_outline hsucceeds.outline).trans hteams,
    (Directory.statuses_eq_of_outline hsucceeds.outline).trans hstatuses⟩

theorem reopen (h : net.Knows id teams statuses) (timeout : Binary64) :
    { net with link := net.link.reopen timeout }.Knows id teams statuses :=
  ⟨⟨⟨h.undelayed.upToDate.rounded, Transit.arrived_empty _ _⟩, h.undelayed.script⟩, h.served⟩

theorem close (h : net.Knows id teams statuses) :
    { net with link := net.link.close }.Knows id teams statuses :=
  ⟨⟨⟨h.undelayed.upToDate.rounded, fun _ hb => absurd hb List.not_mem_nil⟩, h.undelayed.script⟩,
    h.served⟩

theorem rebudget (h : net.Knows id teams statuses) (budget : Nat) :
    { net with budget }.Knows id teams statuses :=
  ⟨h.undelayed.rebudget budget, h.served⟩

theorem run (h : net.Knows id teams statuses) (s : Session) {action : Action}
    (hgenuine : ∀ data, action ≠ .takeIn data) :
    (action.run s net).net.Knows id teams statuses :=
  Action.run_keeps (P := fun _ n => n.Knows id teams statuses) h (fun ask _ h => h.request s ask)
    (fun _ h => h.reopen _) (fun _ _ h => h.close) fun data htakes => absurd htakes (hgenuine data)

theorem records_of_push (h : net.Knows id teams statuses) {s : Session} (hid : s.networkId = id)
    {team status : Int} {giveUp : Bool} (hok : (s.push team status giveUp net).result = .ok ()) :
    ∃ sv, (s.push team status giveUp net).net.service = some sv ∧ sv.Sound ∧
      sv.Records id team status := by
  obtain ⟨sv, hservice, hs, hsize, -⟩ := h.served
  obtain ⟨-, sv', hsv', hreaches⟩ :=
    Session.request_reaches h.undelayed hservice s (Session.stateUpdate team status giveUp)
  obtain ⟨reply, hreply, -⟩ := Run.reading_eq_ok hok
  have hsucceeds := hreaches.succeeds hs
  rw [Session.push, Run.reading_net]
  exact ⟨sv', hsv', hsucceeds.sound, Service.records_of_standing
    (hsize.trans_le hsucceeds.size_le) (hreaches.standing_of_ok hs hid hreply)⟩

end Net.Knows

theorem Action.course_run (s : Session) (net : Net) {action : Action}
    (hgenuine : ∀ data, action ≠ .takeIn data) :
    (action.run s net).net.course = (net.sendAll (action.run s net).sent).course :=
  Action.run_keeps (P := fun sent n => n.course = (net.sendAll sent).course) rfl
    (fun ask n h => (s.course_request ask n).trans (Net.course_sendAll h _)) (fun _ h => h)
    (fun _ _ h => h) fun data htakes => absurd htakes (hgenuine data)

/-! ### Giving up at a refusal -/

/-- A client that waits for each answer, and never stops asking for it. -/
structure Manner.IsPersistent (m : Manner) : Prop where
  unlimited : m.maxAttempts = none
  waits : m.timeout.patience ≠ .none

namespace Session

variable {s : Session} {net : Net} {sv : Service} {id : Nat}

/-- An update that fails changed nothing, if a persistent client gives up at a refusal that
lasts: it was refused, or was never sent. -/
theorem standing_of_push_failed {team status : Int} (hid : s.networkId = id)
    (hpersistent : s.manner.IsPersistent) (h : net.Undelayed id)
    (hservice : net.service = some sv) (hs : sv.Sound) (hsize : id < sv.directory.users.size)
    (hlasts : net.NeverRelents (s.push team status true net).sent) {f : Fault}
    (hfailed : (s.push team status true net).result = .error f) (hcut : f ≠ .sendLimit) :
    ∃ sv', (s.push team status true net).net.service = some sv' ∧
      sv'.standing id = sv.standing id := by
  have hresult : (s.request (stateUpdate team status true) net).result = .error f := by
    rcases Run.reading_eq_error hfailed with hresult | ⟨reply, -, hread⟩
    · exact hresult
    · cases hread
  rw [push, Run.reading_sent] at hlasts
  rw [push, Run.reading_net]
  rcases s.request_cases (stateUpdate team status true) net with
    ⟨g, hrequest, -⟩ | ⟨packet, hpacket, hrequest⟩
  · rw [hrequest]
    exact ⟨sv, hservice, rfl⟩
  · obtain ⟨r, hparse, hkind, hrid, -⟩ := parse_packet .updateStatus hpacket rfl
    have hrid : r.networkId = id := Int.ofNat_inj.mp (hrid.trans hid)
    obtain ⟨n, hmakes⟩ := s.exchange_makes (stateUpdate team status true) packet net
    have hnet := hmakes.net
    have hsettles := hmakes.settles
    have hsent : (s.request (stateUpdate team status true) net).sent = List.replicate n packet := by
      rw [hrequest]
      exact sent_of_makes hmakes
    rw [hsent] at hlasts
    have hlasts : ∀ k < n, ¬ (net.discard.afterAttempts packet
        s.manner.timeout.patience k).Relents packet := fun k hk =>
      (hlasts.of_course (m := net.discard) (Eq.refl net.course)).attempt hk _
    rw [hrequest] at hresult ⊢
    rw [show (s.manner.pursue (stateUpdate team status true) packet 0 net.budget
      net.discard).outcome = .error f from hresult] at hsettles
    cases hsettles with
    | @rejected n text _ hfails hgiveUp herror =>
      have hstart : net.discard.Repeats id (sv.standing id)
          ((r.team.toNat : Int), (r.status.toNat : Int)) :=
        ⟨h.discard, h.idle_discard, sv, hservice, hs, hsize, Or.inl rfl⟩
      show ∃ sv', (s.manner.pursue (stateUpdate team status true) packet 0 net.budget
        net.discard).net.service = some sv' ∧ sv'.standing id = sv.standing id
      rw [hnet]
      exact hstart.standing_of_error hparse hkind hrid rfl hpersistent.waits
        (stateUpdate team status true) rfl hgiveUp hlasts hfails herror
    | unanswered hsome => cases hpersistent.unlimited.symm.trans hsome
    | cut => exact absurd rfl hcut

/-! ### What a session holds -/

/-- A session holds what a server has on record for its network ID, and the names of the server. -/
structure Mirrors (s : Session) (sv : Service) : Prop where
  records : sv.Records s.networkId s.team s.status
  teamNames : s.teamNames = sv.directory.teamNames
  statusNames : s.statusNames = sv.directory.statuses

theorem register_records {name : String} (h : net.Undelayed id) (hservice : net.service = some sv)
    (hs : sv.Sound) (hnew : sv.directory.users.size ≤ id)
    (hok : (s.register name net).result = .ok (id : Int)) :
    (s.register name net).net.Undelayed id ∧ ∃ sv', (s.register name net).net.service = some sv' ∧
      sv'.Sound ∧ sv'.Records id noTeam noStatus := by
  rw [register] at hok ⊢
  cases hbody : Latin1.encode name with
  | error gap =>
    rw [hbody] at hok
    cases hok
  | ok body =>
    rw [hbody] at hok
    dsimp only at hok ⊢
    obtain ⟨reply, hreply, hid, -⟩ := reading_adoptId hok
    obtain ⟨hnet, sv', hsv', hreaches⟩ := request_reaches h hservice s (registration body)
    have hcode : (registration body).code ≠ RequestKind.updateStatus.code.toNat := by
      show (RequestKind.register.code.toNat : Int) ≠ RequestKind.updateStatus.code.toNat
      decide
    have hnone := Service.standing_of_none (Array.getElem?_eq_none hnew)
    rw [Run.reading_net]
    refine ⟨hnet, sv', hsv', (hreaches.succeeds hs).sound, ?_⟩
    exact Service.records_of_standing (hreaches.lt_size_of_ok hs hreply hid)
      ((hreaches.standing_eq hs hcode).trans hnone)

/-- A session that waits for each answer and has the names of the server, which knows it. -/
structure Attends (s : Session) (net : Net) (id : Nat) : Prop where
  networkId : s.networkId = id
  persistent : s.manner.IsPersistent
  knows : net.Knows id s.teamNames s.statusNames

/-- The server has on record what a session holds. -/
def OnRecord (s : Session) (net : Net) : Prop :=
  ∃ sv, net.service = some sv ∧ sv.Records s.networkId s.team s.status

theorem attends_fetchDescription (hid : s.networkId = id) (hpersistent : s.manner.IsPersistent)
    (h : net.Undelayed id) (hservice : net.service = some sv) (hs : sv.Sound)
    (hrecords : sv.Records id s.team s.status) {names : List String × List String}
    (hok : (s.fetchDescription net).result = .ok names) :
    (s.fetchDescription net).session.Attends (s.fetchDescription net).net id ∧
      (s.fetchDescription net).session.OnRecord (s.fetchDescription net).net := by
  obtain ⟨hnet, sv', hsv', hreaches⟩ := request_reaches h hservice s inquiry
  obtain ⟨reply, hreply, -⟩ := Run.reading_eq_ok hok
  have hsucceeds := hreaches.succeeds hs
  have hsize := hrecords.lt_size.trans_le hsucceeds.size_le
  have hstanding := (hreaches.standing_eq hs (by decide)).trans
    (Service.standing_of_records hrecords)
  obtain ⟨-, hteams, hstatuses⟩ := hsucceeds.sound.names_of_description
  rw [← hreaches.eq_description_of_ok hreply] at hteams hstatuses
  have hsession : (s.fetchDescription net).session =
      { s with teamNames := sv'.directory.teamNames, statusNames := sv'.directory.statuses } := by
    rw [fetchDescription, Run.reading, hreply]
    simp only [adoptNames, hteams, hstatuses]
  rw [hsession, fetchDescription, Run.reading_net]
  refine ⟨⟨hid, hpersistent, hnet, sv', hsv', hsucceeds.sound, hsize, rfl, rfl⟩, sv', hsv', ?_⟩
  show sv'.Records s.networkId s.team s.status
  rw [hid]
  exact Service.records_of_standing hsize hstanding

namespace Attends

variable (h : s.Attends net id)

include h

theorem rebudget (budget : Nat) : s.Attends { net with budget } id :=
  ⟨h.networkId, h.persistent, h.knows.rebudget budget⟩

theorem mirrors (hheld : s.OnRecord net) :
    ∃ sv, net.service = some sv ∧ sv.Sound ∧ s.Mirrors sv := by
  obtain ⟨sv, hservice, hs, -, hteams, hstatuses⟩ := h.knows.served
  obtain ⟨sv', hsv', hrecords⟩ := hheld
  obtain rfl := Option.some.inj (hservice.symm.trans hsv')
  exact ⟨sv, hservice, hs, hrecords, hteams.symm, hstatuses.symm⟩

theorem onRecord_teamStatus (hheld : s.OnRecord net) (team : Option Int) :
    (s.teamStatus team net).session.OnRecord (s.teamStatus team net).net := by
  obtain ⟨sv, hservice, hs, ⟨hrecords, -, -⟩⟩ := h.mirrors hheld
  rw [h.networkId] at hrecords
  obtain ⟨-, sv', hsv', hreaches⟩ :=
    request_reaches h.knows.undelayed hservice s (muster team)
  have hcode : (muster team).code ≠ RequestKind.updateStatus.code.toNat := by
    show (RequestKind.teamStatus.code.toNat : Int) ≠ RequestKind.updateStatus.code.toNat
    decide
  have hstanding := (hreaches.standing_eq hs hcode).trans (Service.standing_of_records hrecords)
  have hsize := hrecords.lt_size.trans_le (hreaches.succeeds hs).size_le
  rw [s.teamStatus_session, Session.teamStatus, Run.reading_net]
  refine ⟨sv', hsv', ?_⟩
  rw [h.networkId]
  exact Service.records_of_standing hsize hstanding

theorem onRecord_push {team status : Int} {giveUp : Bool}
    (hok : (s.push team status giveUp net).result = .ok ()) :
    (s.push team status giveUp net).session.OnRecord (s.push team status giveUp net).net := by
  obtain ⟨sv, hservice, -, hrecords⟩ := h.knows.records_of_push h.networkId hok
  rcases s.push_session team status giveUp net with ⟨-, hsession⟩ | ⟨f, hfailed, -⟩
  · refine ⟨sv, hservice, ?_⟩
    rw [hsession]
    show sv.Records s.networkId team status
    rwa [h.networkId]
  · cases hfailed.symm.trans hok

theorem onRecord_of_pushes {action : Action} {team status : Int}
    (hpushes : action.pushes s = some (team, status)) {answer : Answer}
    (hok : (action.run s net).result = .ok answer) :
    (action.run s net).session.OnRecord (action.run s net).net := by
  obtain ⟨giveUp, hrun⟩ := Action.run_of_pushes hpushes net
  rw [hrun] at hok ⊢
  obtain ⟨_, hpushed, -⟩ := Run.map_eq_ok hok
  exact h.onRecord_push hpushed

/-- **An update that is given up on leaves both sides as they were**, if its refusal lasts. -/
theorem onRecord_push_failed (hheld : s.OnRecord net) {team status : Int} {f : Fault}
    (hlasts : net.NeverRelents (s.push team status true net).sent)
    (hfailed : (s.push team status true net).result = .error f) (hcut : f ≠ .sendLimit) :
    (s.push team status true net).session.OnRecord (s.push team status true net).net := by
  obtain ⟨sv, hservice, hs, ⟨hrecords, -, -⟩⟩ := h.mirrors hheld
  rw [h.networkId] at hrecords
  obtain ⟨sv', hsv', -, hsize, -⟩ := (h.knows.request s (stateUpdate team status true)).served
  obtain ⟨sv'', hsv'', hsame⟩ := standing_of_push_failed h.networkId h.persistent
    h.knows.undelayed hservice hs hrecords.lt_size hlasts hfailed hcut
  rcases s.push_session team status true net with ⟨hok, -⟩ | ⟨_, -, hsession⟩
  · cases hfailed.symm.trans hok
  · rw [push, Run.reading_net, hsv'] at hsv''
    obtain rfl := Option.some.inj hsv''
    rw [hsession, Session.push, Run.reading_net]
    refine ⟨sv', hsv', ?_⟩
    rw [h.networkId]
    exact Service.records_of_standing hsize (hsame.trans (Service.standing_of_records hrecords))

end Attends

end Session

end TeamPresence
