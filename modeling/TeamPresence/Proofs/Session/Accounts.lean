import TeamPresence.Proofs.Service.Totality
import TeamPresence.Proofs.Session.Adoption
import TeamPresence.Proofs.Session.Lossless
import TeamPresence.Proofs.Session.Runs

/-!
# What a call does to what is on record

The team and status on record for a network ID change only by an update for it that is taken
(`Service.standing_handle`). Over a network that loses nothing a session learns of each such update
of its own: one that returns is on record, and one that does not return was not taken
(`Session.push_accounts`).

**`Action.run_accounts`**: so an action of a session either makes its values the ones on record, or
leaves both as they were.
-/

namespace TeamPresence

theorem Event.IsForeign.isGenuine {id : Int} {e : Event} (h : e.IsForeign id) : e.IsGenuine id := by
  cases e with
  | handled delay => trivial
  | elsewhere sender data => exact h
  | planted data delay => exact h

namespace Service

/-! ### What is on record -/

/-- The team and status on record for a network ID. An ID that is not assigned yet has none, as it
will when it is assigned. -/
def standing (s : Service) (id : Nat) : Int × Int :=
  match s.directory.users[id]? with
  | some u => (u.team, u.status)
  | none => (noTeam, noStatus)

variable {s : Service} {id : Nat}

theorem standing_of_some {u : User} (hu : s.directory.users[id]? = some u) :
    s.standing id = (u.team, u.status) := by rw [standing, hu]

theorem standing_of_none (h : s.directory.users[id]? = none) :
    s.standing id = (noTeam, noStatus) := by rw [standing, h]

theorem standing_of_records {team status : Int} (h : s.Records id team status) :
    s.standing id = (team, status) := by
  obtain ⟨u, hu, rfl, rfl⟩ := h
  exact standing_of_some ((Directory.user?_natCast _ _).symm.trans hu)

theorem standing_of_effect {s' : Service} (h : Effect s s') (hs : s.Sound)
    (hnone : s.directory.users[id]? = none) : s'.standing id = (noTeam, noStatus) := by
  cases h with
  | none => exact standing_of_none hnone
  | confirmed => exact standing_of_none hnone
  | registered hregister =>
    obtain ⟨-, -, rfl, rfl⟩ := Directory.register_eq_ok_iff.mp hregister
    rw [standing, Array.getElem?_push]
    by_cases hid : id = s.directory.users.size
    · rw [if_pos hid]
    · rw [if_neg hid, hnone]
  | @updated directory id' u status team seat hu hupdate =>
    obtain ⟨-, rfl, -⟩ :=
      (Directory.update_member_eq_ok_iff hu (hs.seated.proper hu).team).mp hupdate
    have hother : id ≠ id' := fun e => by rw [e, hu] at hnone; cases hnone
    refine standing_of_none ?_
    rw [Directory.getElem?_users_moved hu, if_neg hother, hnone]

theorem standing_handle (hs : s.Sound) {data : Bytes} {sender : Option Address}
    (h : IsUpdateFor id data → ¬ s.Accepts data sender) :
    (s.handle data sender).2.standing id = s.standing id := by
  cases hu : s.directory.users[id]? with
  | some u => rw [standing_of_some (users_handle hs hu h), standing_of_some hu]
  | none =>
    rw [standing_of_none hu]
    exact standing_of_effect (s.handle_effect data sender) hs hu

theorem standing_serve (hs : s.Sound) {packet : Bytes} {a : Address} {e : Event}
    (he : e.IsGenuine id) (h : IsUpdateFor id packet → ∀ delay, e = .handled delay →
      ¬ s.Accepts packet (some a)) : (e.serve packet a s).standing id = s.standing id := by
  cases e with
  | handled delay => exact standing_handle hs fun hupdate => h hupdate delay rfl
  | elsewhere sender data => exact standing_handle hs fun hupdate => absurd hupdate he
  | planted data delay => exact he.elim

theorem standing_undergo (hs : s.Sound) {packet : Bytes} {a : Address} {E : List Event}
    (hE : ∀ e ∈ E, e.IsGenuine id) (h : IsUpdateFor id packet → ¬ s.Takes packet a E) :
    (s.undergo packet a E).standing id = s.standing id := by
  induction E using List.reverseRecOn with
  | nil => rfl
  | append_singleton E e ih =>
    have hkept := ih (fun f hf => hE f (List.mem_append_left _ hf)) fun hupdate htakes =>
      h hupdate (htakes.append [e])
    rw [undergo_append, undergo_singleton, ← hkept]
    apply standing_serve (sound_undergo hs packet a E) (hE e (by simp))
    rintro hupdate delay rfl haccepts
    exact h hupdate (takes_concat haccepts)

theorem standing_foreign (hs : s.Sound) {E : List Event} (hE : ∀ e ∈ E, e.IsForeign id)
    (packet : Bytes) (a : Address) : (s.undergo packet a E).standing id = s.standing id := by
  apply standing_undergo hs fun e he => (hE e he).isGenuine
  rintro - ⟨before, delay, after, rfl, -⟩
  exact (hE (.handled delay) (by simp)).elim

theorem Sound.answer_of_update (hs : s.Sound) {packet : Bytes} {r : Request}
    (hparse : Request.parse packet = .ok r) (hkind : r.kind? = some .updateStatus) (a : Address) :
    ∃ reply : Reply, (s.respond packet a).1.packet? = some reply.serialize ∧
      (s.Accepts packet (some a) ∧ reply = Reply.updated ∨
        ¬ s.Accepts packet (some a) ∧ reply.code = ReplyKind.error.code) := by
  obtain ⟨reply, hreply⟩ : ∃ reply, (s.handle packet (some a)).1 = .ok reply := by
    rw [handle_update hparse hkind]
    exact (hs.isAnswered_updateStatus r).replyTo_isOk
  refine ⟨reply, by rw [respond_of_handle hreply, Response.packet?], ?_⟩
  by_cases haccepts : s.Accepts packet (some a)
  · exact Or.inl ⟨haccepts, Except.ok.inj (hreply.symm.trans haccepts)⟩
  · refine Or.inr ⟨haccepts, ?_⟩
    rw [handle_update hparse hkind] at hreply
    cases houtcome : (s.updateStatus r).1 with
    | error f => exact code_of_replyTo_error (houtcome ▸ hreply)
    | ok taken =>
      refine absurd ?_ haccepts
      rw [Accepts, handle_update hparse hkind, houtcome, updated_of_updateStatus houtcome]
      rfl

/-! ### One round -/

namespace Round

variable {p : Patience} {packet : Bytes} {a : Address} {received : Option Bytes} {s' : Service}

theorem handling (h : s.Round id p packet a received s') (hs : s.Sound) :
    ∃ t : Service, t.Sound ∧ t.standing id = s.standing id ∧ s'.Sound ∧
      s'.standing id = (t.handle packet (some a)).2.standing id ∧
      received = if p = .none then none else (t.respond packet a).1.packet? := by
  obtain ⟨before, after, hforeign, hreceived, rfl⟩ := h
  have hbefore := standing_foreign hs (fun e he => hforeign e (List.mem_append_left _ he)) packet a
  have ht := sound_undergo hs packet a before
  have hhandled : ((s.undergo packet a before).handle packet (some a)).2.Sound :=
    (handle_effect _ packet (some a)).sound ht
  have hafter :=
    standing_foreign hhandled (fun e he => hforeign e (List.mem_append_right _ he)) packet a
  refine ⟨_, ht, hbefore, sound_undergo hs packet a _, ?_, hreceived⟩
  rw [undergo_append]
  exact hafter

theorem of_not_update (h : s.Round id p packet a received s') (hs : s.Sound)
    (hpacket : ¬ IsUpdateFor id packet) : s'.Sound ∧ s'.standing id = s.standing id := by
  obtain ⟨t, ht, hbefore, hs', hafter, -⟩ := h.handling hs
  refine ⟨hs', hafter.trans (Eq.trans ?_ hbefore)⟩
  exact standing_handle ht fun hupdate => absurd hupdate hpacket

theorem of_update (h : s.Round id p packet a received s') (hs : s.Sound) {r : Request}
    (hparse : Request.parse packet = .ok r) (hkind : r.kind? = some .updateStatus)
    (hid : r.networkId = id) (hp : p ≠ .none) :
    s'.Sound ∧
      ((received = some Reply.updated.serialize ∧
          s'.standing id = ((r.team.toNat : Int), (r.status.toNat : Int))) ∨
        ∃ reply : Reply, received = some reply.serialize ∧ reply.code = ReplyKind.error.code ∧
          s'.standing id = s.standing id) := by
  obtain ⟨t, ht, hbefore, hs', hafter, hreceived⟩ := h.handling hs
  obtain ⟨reply, hreply, ⟨haccepts, rfl⟩ | ⟨haccepts, hcode⟩⟩ := ht.answer_of_update hparse hkind a
  all_goals
    rw [if_neg hp, hreply] at hreceived
    refine ⟨hs', ?_⟩
  · refine Or.inl ⟨hreceived, ?_⟩
    rw [hafter]
    exact standing_of_records (hid ▸ Records.of_accepted ht hparse hkind haccepts)
  · refine Or.inr ⟨reply, hreceived, hcode, ?_⟩
    rw [hafter, handle_update_of_not_accepts ht hparse hkind haccepts, hbefore]

end Round

end Service

/-! ### Calls -/

namespace Session

/-- The team and status that a session tells of itself. -/
def values (s : Session) : Int × Int := (s.team, s.status)

end Session

/-- What a run did to the values of a session and to those on record for a network ID: they became
the same if an update was acknowledged, and otherwise both stayed. A client that never waits hears
of nothing. -/
structure Run.Accounts {α : Type} (r : Run α) (id : Nat) (s : Session) (sv : Service)
    (acknowledged : Bool) : Prop where
  manner : r.session.manner = s.manner
  lossless : r.net.Lossless id s.manner.timeout.patience
  served : ∃ sv', r.net.service = some sv' ∧ sv'.Sound ∧
    if acknowledged then s.manner.timeout.patience ≠ .none ∧ sv'.standing id = r.session.values
    else s.manner.timeout.patience ≠ .none →
      sv'.standing id = sv.standing id ∧ r.session.values = s.values

namespace Session

variable {s : Session} {n : Net} {sv : Service} {id : Nat} {ask : Ask}

theorem push_networkId (s : Session) (team status : Int) (giveUp : Bool) (n : Net) :
    (s.push team status giveUp n).session.networkId = s.networkId := by
  have hsession := s.request_session (stateUpdate team status giveUp) n
  rw [push, Run.reading]
  split
  · rfl
  · rw [hsession]

theorem push_values {team status : Int} {giveUp : Bool}
    (hok : (s.push team status giveUp n).result = .ok ()) :
    (s.push team status giveUp n).session.values = (team, status) := by
  obtain ⟨reply, hreply, -⟩ := Run.reading_eq_ok hok
  rw [push, Run.reading, hreply]
  rfl

theorem not_isUpdateFor_packet {packet : Bytes} (h : s.packet ask = .ok packet)
    (hcode : ask.code ≠ RequestKind.updateStatus.code.toNat) : ¬ Service.IsUpdateFor id packet := by
  rintro ⟨r, hparse, hkind, -⟩
  obtain ⟨r', hparse', hask, -⟩ := parse_of_packet h
  obtain rfl := Except.ok.inj (hparse.symm.trans hparse')
  rw [← hask] at hcode
  exact hcode (Request.code_of_kind? hkind)

theorem request_accounts (hcode : ask.code ≠ RequestKind.updateStatus.code.toNat)
    (h : n.Lossless id s.manner.timeout.patience) (hservice : n.service = some sv) (hs : sv.Sound) :
    (s.request ask n).Accounts id s sv false := by
  obtain ⟨hlossless, sv', hsv', hs', hkept⟩ := s.request_lossless ask
    (J := fun t => t.Sound ∧ t.standing id = sv.standing id)
    (Q := fun t _ => t.Sound ∧ t.standing id = sv.standing id)
    (fun hpacket t t' received hJ hround => by
      have hkept := hround.of_not_update hJ.1 (not_isUpdateFor_packet hpacket hcode)
      split
      · exact ⟨hkept.1, hkept.2.trans hJ.2⟩
      · exact ⟨hkept.1, hkept.2.trans hJ.2⟩)
    (fun f hJ => hJ) h hservice ⟨hs, rfl⟩
  have hsession := s.request_session ask n
  refine ⟨by rw [hsession], hlossless, sv', hsv', hs', ?_⟩
  simp only [Bool.false_eq_true, if_false]
  exact fun _ => ⟨hkept, by rw [hsession]⟩

theorem reading_accounts {β : Type} {read : Reply → Except Fault β × Session}
    (hcode : ask.code ≠ RequestKind.updateStatus.code.toNat)
    (hread : ∀ reply, (read reply).2.manner = s.manner ∧ (read reply).2.values = s.values)
    (h : n.Lossless id s.manner.timeout.patience) (hservice : n.service = some sv) (hs : sv.Sound) :
    ((s.request ask n).reading read).Accounts id s sv false := by
  have hrequest := request_accounts hcode h hservice hs
  rw [Run.reading]
  cases (s.request ask n).result with
  | error f => exact ⟨hrequest.manner, hrequest.lossless, hrequest.served⟩
  | ok reply =>
    obtain ⟨sv', hsv', hs', hkept⟩ := hrequest.served
    refine ⟨(hread reply).1, hrequest.lossless, sv', hsv', hs', ?_⟩
    simp only [Bool.false_eq_true, if_false] at hkept ⊢
    exact fun hp => ⟨(hkept hp).1, (hread reply).2⟩

/-- A service that an update has not changed so far, if the client waits for answers. -/
def Unchanged (id : Nat) (p : Patience) (before : Int × Int) (t : Service) : Prop :=
  t.Sound ∧ (p ≠ .none → t.standing id = before)

/-- A service at the end of an update: it has what was asked for on record if it acknowledged that,
and has not changed otherwise. -/
def Concluded (id : Nat) (p : Patience) (before asked : Int × Int) (t : Service) :
    Except Fault Reply → Prop
  | .ok _ => t.Sound ∧ p ≠ .none ∧ t.standing id = asked
  | .error _ => Unchanged id p before t

theorem round_of_push {packet : Bytes} {a : Address} {team status : Int} {giveUp : Bool}
    (hid : s.networkId = id) (hpacket : s.packet (stateUpdate team status giveUp) = .ok packet)
    {t t' : Service} {received : Option Bytes} {p : Patience} {before : Int × Int}
    (hJ : Unchanged id p before t) (hround : t.Round id p packet a received t') :
    match (Verdict.of (stateUpdate team status giveUp).expected received).outcome? giveUp with
    | none => Unchanged id p before t'
    | some outcome => Concluded id p before (team, status) t' outcome := by
  have hexpected : (stateUpdate team status giveUp).expected = ReplyKind.updated.code.toNat := rfl
  rw [hexpected]
  by_cases hp : p = .none
  · obtain ⟨before, after, -, hreceived, rfl⟩ := hround
    rw [hreceived, if_pos hp]
    exact ⟨Service.sound_undergo hJ.1 packet a _, fun hwaits => absurd hp hwaits⟩
  · obtain ⟨r, hparse, hkind, hrid, hteam, hstatus, -⟩ := parse_packet .updateStatus hpacket rfl
    have hrid : r.networkId = id := Int.ofNat_inj.mp (hrid.trans hid)
    obtain ⟨hs', ⟨rfl, hasked⟩ | ⟨reply, rfl, hcode, hsame⟩⟩ :=
      hround.of_update hJ.1 hparse hkind hrid hp
    · rw [hteam, hstatus] at hasked
      have houtcome : (Verdict.of ReplyKind.updated.code.toNat
          (some Reply.updated.serialize)).outcome? giveUp = some (.ok Reply.updated) :=
        Verdict.outcome?_eq_ok_iff.mpr ⟨Reply.parse_serialize Reply.updated, rfl⟩
      rw [houtcome]
      exact ⟨hs', hp, hasked⟩
    · have hkept : Unchanged id p before t' := ⟨hs', fun hwaits => hsame.trans (hJ.2 hwaits)⟩
      have hother : (reply.code.toNat : Int) ≠ ReplyKind.updated.code.toNat := by
        rw [hcode]
        decide
      rw [Verdict.of, Reply.parse_serialize]
      dsimp only
      rw [if_neg hother, if_pos hcode]
      cases giveUp with
      | true => exact hkept
      | false => exact hkept

theorem push_accounts (hid : s.networkId = id) (h : n.Lossless id s.manner.timeout.patience)
    (hservice : n.service = some sv) (hs : sv.Sound) (team status : Int) (giveUp : Bool) :
    (s.push team status giveUp n).Accounts id s sv (s.push team status giveUp n).result.isOk := by
  obtain ⟨hlossless, sv', hsv', hconcluded⟩ := s.request_lossless (stateUpdate team status giveUp)
    (fun hpacket t t' received hJ hround => round_of_push hid hpacket hJ hround)
    (fun f hJ => hJ) h hservice ⟨hs, fun _ => rfl⟩
  have hsession := s.request_session (stateUpdate team status giveUp) n
  rw [push, Run.reading]
  cases hresult : (s.request (stateUpdate team status giveUp) n).result with
  | ok reply =>
    rw [hresult] at hconcluded
    obtain ⟨hs', hwaits, hasked⟩ := hconcluded
    exact ⟨rfl, hlossless, sv', hsv', hs', hwaits, hasked⟩
  | error f =>
    rw [hresult] at hconcluded
    obtain ⟨hs', hsame⟩ := hconcluded
    refine ⟨by rw [hsession], hlossless, sv', hsv', hs', ?_⟩
    exact fun hp => ⟨hsame hp, by rw [hsession]⟩

end Session

/-! ### Actions -/

namespace Run.Accounts

variable {α β : Type} {r : Run α} {id : Nat} {s : Session} {sv : Service} {acknowledged : Bool}

theorem map (h : r.Accounts id s sv acknowledged) (f : α → β) :
    (r.map f).Accounts id s sv acknowledged := ⟨h.manner, h.lossless, h.served⟩

end Run.Accounts

theorem Net.Lossless.relink {id : Int} {p : Patience} {n : Net} (h : n.Lossless id p) {link : Link}
    (htransit : link.transit.Rests p) (hscript : link.script = n.link.script) :
    { n with link }.Lossless id p := ⟨h.rounded, htransit, hscript ▸ h.script⟩

namespace Action

/-- Whether a session itself keeps account of what it is told to do: it takes in no datagram that it
did not ask for, and makes updates by its own operations only. -/
def IsOwn : Action → Prop
  | request a => a.code ≠ RequestKind.updateStatus.code.toNat
  | takeIn _ => False
  | _ => True

/-- Whether an action is an update that returns. -/
def updates (s : Session) (n : Net) (action : Action) : Bool :=
  (action.pushes s).isSome && (action.run s n).result.isOk

variable {s : Session} {n : Net} {sv : Service} {id : Nat} {action : Action}

theorem onLink_accounts {f : Link → Link} (h : n.Lossless id s.manner.timeout.patience)
    (hservice : n.service = some sv) (hs : sv.Sound)
    (htransit : (f n.link).transit.Rests s.manner.timeout.patience)
    (hscript : (f n.link).script = n.link.script) :
    (onLink f s n).Accounts id s sv false :=
  ⟨rfl, h.relink htransit hscript, sv, hservice, hs, fun _ => ⟨rfl, rfl⟩⟩

theorem register_accounts (name : String) (h : n.Lossless id s.manner.timeout.patience)
    (hservice : n.service = some sv) (hs : sv.Sound) :
    (s.register name n).Accounts id s sv false := by
  have hcode : (RequestKind.register.code.toNat : Int) ≠ RequestKind.updateStatus.code.toNat := by
    decide
  rw [Session.register]
  cases Latin1.encode name with
  | error gap => exact ⟨rfl, h, sv, hservice, hs, fun _ => ⟨rfl, rfl⟩⟩
  | ok body =>
    refine Session.reading_accounts hcode (fun reply => ?_) h hservice hs
    rw [Session.adoptId]
    cases reply.networkId <;> exact ⟨rfl, rfl⟩

theorem accounts_of_pushes {team status : Int} (hpushes : action.pushes s = some (team, status))
    (hid : (action.run s n).session.networkId = id) (h : n.Lossless id s.manner.timeout.patience)
    (hservice : n.service = some sv) (hs : sv.Sound) :
    (action.run s n).Accounts id s sv (action.run s n).result.isOk := by
  obtain ⟨giveUp, hrun⟩ := run_of_pushes hpushes n
  have hsame : (s.push team status giveUp n).session.networkId = id := by
    rw [hrun] at hid
    exact hid
  rw [Session.push_networkId] at hsame
  have haccounts := Session.push_accounts hsame h hservice hs team status giveUp
  have hresult : (action.run s n).result.isOk = (s.push team status giveUp n).result.isOk := by
    rw [hrun, Run.map]
    cases (s.push team status giveUp n).result <;> rfl
  rw [hresult, hrun]
  exact haccounts.map _

theorem accounts_of_not_pushes (hpushes : action.pushes s = none) (hown : action.IsOwn)
    (h : n.Lossless id s.manner.timeout.patience) (hservice : n.service = some sv) (hs : sv.Sound) :
    (action.run s n).Accounts id s sv false := by
  cases action with
  | openEndpoint =>
    exact onLink_accounts (f := fun l => l.reopen s.manner.timeout) h hservice hs
      (Transit.rests_empty _) rfl
  | closeEndpoint => exact onLink_accounts (f := Link.close) h hservice hs (Transit.rests_nil _) rfl
  | register name => exact (register_accounts name h hservice hs).map _
  | registerOnce name =>
    have hopened : { n with link := n.link.reopen s.manner.timeout }.Lossless id
        s.manner.timeout.patience := h.relink (Transit.rests_empty _) rfl
    obtain ⟨hmanner, hlossless, hserved⟩ := register_accounts name hopened hservice hs
    exact ⟨hmanner, hlossless.relink (Transit.rests_nil _) rfl, hserved⟩
  | fetchDescription =>
    refine (Session.reading_accounts (by decide) (fun reply => ?_) h hservice hs).map _
    rw [Session.adoptNames]
    cases reply.teamNames with
    | error f => exact ⟨rfl, rfl⟩
    | ok names => cases reply.statusNames <;> exact ⟨rfl, rfl⟩
  | updateStatus status giveUp => cases hpushes
  | changeTeam team giveUp => cases hpushes
  | teamStatus team =>
    have hcode : (Session.muster team).code ≠ RequestKind.updateStatus.code.toNat := by
      show (RequestKind.teamStatus.code.toNat : Int) ≠ RequestKind.updateStatus.code.toNat
      decide
    have hasked : (s.teamStatus team n).Accounts id s sv false := by
      rw [Session.teamStatus]
      exact Session.reading_accounts hcode (fun reply => ⟨rfl, rfl⟩) h hservice hs
    exact hasked.map _
  | leave => cases hpushes
  | request ask => exact (Session.request_accounts hown h hservice hs).map _
  | takeIn data => cases hown

/-- **What an action does to what is on record for the ID that the session has afterwards.** -/
theorem run_accounts (hown : action.IsOwn) (hid : (action.run s n).session.networkId = id)
    (h : n.Lossless id s.manner.timeout.patience) (hservice : n.service = some sv) (hs : sv.Sound) :
    (action.run s n).Accounts id s sv (action.updates s n) := by
  rw [updates]
  cases hpushes : action.pushes s with
  | some values => exact accounts_of_pushes hpushes hid h hservice hs
  | none => exact accounts_of_not_pushes hpushes hown h hservice hs

end Action

end TeamPresence
