import TeamPresence.Proofs.Session.Calls
import TeamPresence.Session.Action

/-!
# Operations over a calm network

What the operations of a session mean for a sound server when no datagram is delayed. An operation
that returns was answered by the server as it is then:

* `register_named`: the network ID is that of a user with the name,
* `records_of_push`: the update is on record,
* `service_of_push_rejected`: a refused update changed nothing,
* `members_of_teamStatus`: the members are those who sit in the roster, in the order of their slots,
* `names_of_fetchDescription`: the names are those of the directory.
-/

namespace TeamPresence

variable {s : Session} {ask : Ask} {net : Net} {a : Address} {start : Rat} {sv : Service}
  {packet : Bytes}

/-! ### Reading the answer -/

namespace Run

variable {α β : Type} {r : Run α} {read : α → Except Fault β × Session}

@[simp] theorem reading_net (r : Run α) (read : α → Except Fault β × Session) :
    (r.reading read).net = r.net := by
  rw [reading]
  split <;> rfl

@[simp] theorem reading_sent (r : Run α) (read : α → Except Fault β × Session) :
    (r.reading read).sent = r.sent := by
  rw [reading]
  split <;> rfl

theorem reading_eq_ok {b : β} (h : (r.reading read).result = .ok b) :
    ∃ reply, r.result = .ok reply ∧ (read reply).1 = .ok b := by
  rw [reading] at h
  cases hresult : r.result with
  | ok reply =>
    rw [hresult] at h
    exact ⟨reply, rfl, h⟩
  | error f =>
    rw [hresult] at h
    cases h

theorem reading_eq_error {f : Fault} (h : (r.reading read).result = .error f) :
    r.result = .error f ∨ ∃ reply, r.result = .ok reply ∧ (read reply).1 = .error f := by
  rw [reading] at h
  cases hresult : r.result with
  | ok reply =>
    rw [hresult] at h
    exact Or.inr ⟨reply, rfl, h⟩
  | error g =>
    rw [hresult] at h
    exact Or.inl (congrArg Except.error (Except.error.inj h))

theorem map_eq_ok {f : α → β} {b : β} (h : (r.map f).result = .ok b) :
    ∃ x, r.result = .ok x ∧ f x = b := by
  cases hresult : r.result with
  | ok x =>
    rw [map, hresult] at h
    exact ⟨x, rfl, Except.ok.inj h⟩
  | error g =>
    rw [map, hresult] at h
    cases h

theorem map_eq_error {f : α → β} {g : Fault} (h : (r.map f).result = .error g) :
    r.result = .error g := by
  cases hresult : r.result with
  | ok x =>
    rw [map, hresult] at h
    cases h
  | error g' =>
    rw [map, hresult] at h
    exact congrArg Except.error (Except.error.inj h)

end Run

/-- What requests keep, and the opening and closing of the endpoint, every action keeps, if it takes
in no datagram of itself. It may be about the packets that were sent. -/
theorem Action.run_keeps {P : List Bytes → Net → Prop} {s : Session} {net : Net} {action : Action}
    (hnet : P [] net)
    (hrequest : ∀ ask n, P [] n → P (s.request ask n).sent (s.request ask n).net)
    (hreopen : ∀ n, P [] n → P [] { n with link := n.link.reopen s.manner.timeout })
    (hclose : ∀ sent n, P sent n → P sent { n with link := n.link.close })
    (htakeIn : ∀ data, action = .takeIn data →
      P [] { net with link := net.link.expect net.now ⟨net.now, data⟩ }) :
    P (action.run s net).sent (action.run s net).net := by
  have hread : ∀ {β : Type} (ask : Ask) (n : Net) (read : Reply → Except Fault β × Session),
      P [] n → P ((s.request ask n).reading read).sent ((s.request ask n).reading read).net := by
    intro β ask n read hn
    rw [Run.reading_sent, Run.reading_net]
    exact hrequest ask n hn
  have hregister : ∀ (name : String) (n : Net), P [] n →
      P (s.register name n).sent (s.register name n).net := by
    intro name n hn
    rw [Session.register]
    split
    · exact hn
    · exact hread _ n _ hn
  cases action with
  | openEndpoint => exact hreopen net hnet
  | closeEndpoint => exact hclose [] net hnet
  | register name => exact hregister name net hnet
  | registerOnce name => exact hclose _ _ (hregister name _ (hreopen net hnet))
  | fetchDescription => exact hread Session.inquiry net s.adoptNames hnet
  | updateStatus _ _ | changeTeam _ _ | leave =>
    exact hread (Session.stateUpdate _ _ _) net (fun _ => (.ok (), _)) hnet
  | teamStatus team =>
    exact hread (Session.muster team) net (fun reply => (Session.membersIn reply, s)) hnet
  | request ask => exact hrequest ask net hnet
  | takeIn data => exact htakeIn data rfl

/-! ### Registrations -/

/-- Each acknowledgement under way names a user that has the name. -/
def Service.Acknowledges (name : String) (s : Service) (C : Bytes → Prop) : Prop :=
  s.Sound ∧ ∀ data reply, C data → Reply.parse data = .ok reply →
    reply.code = ReplyKind.registered.code →
    ∃ (id : Nat) (u : User),
      reply.networkId = .ok id ∧ s.directory.users[id]? = some u ∧ u.name = name

theorem Service.keeps_acknowledges {r : Request} (hparse : Request.parse packet = .ok r)
    (hkind : r.kind? = some .register) (a : Address) :
    Keeps packet a (Acknowledges r.text) := by
  have hupdate : ∀ id : Nat, ¬ IsUpdateFor id packet := by
    rintro id ⟨r', hparse', hkind', -⟩
    obtain rfl := Except.ok.inj (hparse.symm.trans hparse')
    cases hkind.symm.trans hkind'
  constructor
  case fewer =>
    exact fun hsub h => ⟨h.1, fun data reply hd => h.2 data reply (hsub data hd)⟩
  case respond =>
    rintro s C ⟨hs, hall⟩
    refine ⟨(s.handle_effect packet (some a)).sound hs, fun data reply hd hreply hcode => ?_⟩
    rcases hd with hd | hd
    · obtain ⟨id, u, hid, hu, hname⟩ := hall data reply hd hreply hcode
      exact ⟨id, u, hid, users_handle hs hu fun h => absurd h (hupdate id), hname⟩
    · obtain ⟨reply', hhandled, rfl⟩ := reply_of_packet? hd
      rw [Reply.parse_serialize] at hreply
      cases hreply
      simp only [respond, handle, hparse, answer, hkind] at hhandled ⊢
      exact hs.acknowledged (ok_of_replyTo hhandled (by rw [hcode]; decide))

theorem Session.register_named {name : String} {n : Int} (hs : sv.Sound) (h : net.Calm a start)
    (hservice : net.service = some sv) (hok : (s.register name net).result = .ok n) :
    ∃ sv', (s.register name net).net.service = some sv' ∧
      ∃ u, sv'.directory.user? n = some u ∧ u.name = trimNulls name := by
  rw [register] at hok ⊢
  cases hbody : Latin1.encode name with
  | error gap =>
    rw [hbody] at hok
    cases hok
  | ok body =>
    rw [hbody] at hok
    dsimp only at hok ⊢
    obtain ⟨reply, hreply, hread⟩ := Run.reading_eq_ok hok
    rw [Run.reading_net]
    rcases s.request_cases (registration body) net with ⟨f, hrequest, -⟩ | ⟨packet, hpacket, -⟩
    · rw [hrequest] at hreply
      cases hreply
    · obtain ⟨r, hparse, hkind, -, -, -, hrbody⟩ := parse_packet .register hpacket rfl
      have htext : r.text = trimNulls name := by
        rw [Request.text, hrbody]
        exact textOf_of_encode hbody
      have hkeeps := Service.keeps_acknowledges hparse hkind a
      rw [htext] at hkeeps
      obtain ⟨-, sv', C, hsv', ⟨-, hall⟩, ⟨f, hfailed, -⟩ | ⟨data, hd, hsettled⟩⟩ :=
        hkeeps.request hpacket ⟨hs, fun _ _ => False.elim⟩ h hservice
      · cases hreply.symm.trans hfailed
      · rw [hreply, Verdict.outcome?_eq_ok_iff] at hsettled
        obtain ⟨hdata, hexpected⟩ := hsettled
        obtain ⟨id, u, hid, hu, hname⟩ :=
          hall data reply hd hdata (UInt8.toNat_inj.mp (Int.ofNat_inj.mp hexpected))
        simp only [adoptId, hid, Except.ok.injEq] at hread
        subst hread
        exact ⟨sv', hsv', u, (Directory.user?_natCast _ _).trans hu, hname⟩

/-! ### Updates -/

namespace Session

theorem steady_packet (kind : RequestKind) (hpacket : s.packet ask = .ok packet)
    (hcode : ask.code = kind.code.toNat) (hkind : kind ≠ .register) (hs : sv.Sound) :
    sv.Steady packet a := by
  refine hs.steady ?_ a
  rintro ⟨r, hparse, hregister⟩
  obtain ⟨r', hparse', hkind', -⟩ := parse_packet kind hpacket hcode
  obtain rfl := Except.ok.inj (hparse.symm.trans hparse')
  exact hkind (Option.some.inj (hkind'.symm.trans hregister))

theorem reply_of_request (kind : RequestKind) (hcode : ask.code = kind.code.toNat)
    (hkind : kind ≠ .register) (hs : sv.Sound) (h : net.Calm a start)
    (hservice : net.service = some sv) {reply : Reply}
    (hok : (s.request ask net).result = .ok reply) :
    ∃ packet, s.packet ask = .ok packet ∧ (sv.handle packet (some a)).1 = .ok reply ∧
      (s.request ask net).net.service = some (sv.handle packet (some a)).2 ∧
      (reply.code.toNat : Int) = ask.expected := by
  rcases s.request_steady ask (fun packet hpacket => steady_packet kind hpacket hcode hkind hs)
      h hservice with ⟨f, hfailed, -⟩ | ⟨packet, reply', hpacket, hhandled, hsv', hsettled⟩
  · cases hok.symm.trans hfailed
  · rw [hok, Verdict.outcome?_eq_ok_iff, Reply.parse_serialize] at hsettled
    obtain ⟨hsame, hexpected⟩ := hsettled
    cases hsame
    exact ⟨packet, hpacket, hhandled, hsv', hexpected⟩

variable {team status : Int} {giveUp : Bool}

theorem records_of_push (hs : sv.Sound) (h : net.Calm a start) (hservice : net.service = some sv)
    (hok : (s.push team status giveUp net).result = .ok ()) :
    ∃ sv', (s.push team status giveUp net).net.service = some sv' ∧
      sv'.Records s.networkId team status := by
  obtain ⟨reply, hreply, -⟩ := Run.reading_eq_ok hok
  obtain ⟨packet, hpacket, hhandled, hsv', hexpected⟩ :=
    reply_of_request .updateStatus rfl (by decide) hs h hservice hreply
  obtain ⟨r, hparse, hkind, hid, hteam, hstatus, -⟩ := parse_packet .updateStatus hpacket rfl
  have haccepts := Service.accepts_of_code hparse hkind hhandled
    (UInt8.toNat_inj.mp (Int.ofNat_inj.mp hexpected))
  have hrecords := Service.Records.of_accepted hs hparse hkind haccepts
  rw [hid, hteam, hstatus] at hrecords
  rw [push, Run.reading_net]
  exact ⟨_, hsv', hrecords⟩

theorem service_of_push_rejected (hs : sv.Sound) (h : net.Calm a start)
    (hservice : net.service = some sv) {text : String}
    (hrejected : (s.push team status giveUp net).result = .error (.rejected text)) :
    (s.push team status giveUp net).net.service = some sv := by
  have hresult : (s.request (stateUpdate team status giveUp) net).result =
      .error (.rejected text) := by
    rcases Run.reading_eq_error hrejected with hresult | ⟨reply, -, hread⟩
    · exact hresult
    · cases hread
  rw [push, Run.reading_net]
  rcases s.request_steady (stateUpdate team status giveUp)
      (fun packet hpacket => steady_packet .updateStatus hpacket rfl (by decide) hs)
      h hservice with ⟨f, hfailed, hlocal⟩ | ⟨packet, reply, hpacket, hhandled, hsv', hsettled⟩
  · cases hresult.symm.trans hfailed
    exact absurd rfl (hlocal text)
  · rw [hresult] at hsettled
    obtain ⟨r, hparse, hcode, -⟩ := Verdict.outcome?_eq_error hsettled
    rw [Reply.parse_serialize] at hparse
    cases hparse
    obtain ⟨q, hq, hkind, -⟩ := parse_packet .updateStatus hpacket rfl
    rw [hsv', Service.handle_update_of_not_accepts hs hq hkind]
    intro haccepts
    rw [Service.Accepts, hhandled] at haccepts
    cases haccepts
    exact absurd hcode (by decide)

end Session

/-! ### Questions -/

theorem Roster.filter_zip_names {β : Type} {r : Roster User}
    (h : ∀ u ∈ r.members, u.name ≠ "") (f : Int → β) :
    (r.names.zip (r.statuses.map f)).filter (fun m => !m.1.isEmpty) =
      r.members.map fun u => (u.name, f u.status) := by
  obtain ⟨slots⟩ := r
  simp only [members, names, statuses] at h ⊢
  induction slots with
  | nil => rfl
  | cons o rest ih =>
    cases o with
    | none => simpa using ih h
    | some u =>
      have hu := h u List.mem_cons_self
      have hrest := ih fun v hv => h v (List.mem_cons_of_mem _ hv)
      simpa [hu] using hrest

theorem Service.Sound.membersIn_of_teamStatus (hs : sv.Sound) {r : Request} {reply : Reply}
    (h : sv.teamStatus r = .ok reply) :
    ∃ team, sv.directory.teams[r.team.toNat]? = some team ∧
      Session.membersIn reply = .ok ((sv.directory.rosterView team).members.map fun u =>
        (u.name, UInt8.ofNat u.status.toNat)) := by
  obtain ⟨team, hteam, -, hnames, hstatuses⟩ := hs.slots_of_teamStatus h
  refine ⟨team, hteam, ?_⟩
  have hnamed : ∀ u ∈ (sv.directory.rosterView team).members, u.name ≠ "" := by
    intro u hu hempty
    obtain ⟨o, ho, rfl⟩ := List.mem_filterMap.mp hu
    obtain ⟨id, hproper⟩ := hs.seated.proper_of_mem hteam ho
    exact absurd hproper.name (by rw [hempty]; decide)
  rw [Session.membersIn, hnames, ok_bind, hstatuses, ok_bind, Roster.filter_zip_names hnamed]
  rfl

namespace Session

theorem members_of_teamStatus {team : Option Int} {members : List (String × UInt8)}
    (hs : sv.Sound) (h : net.Calm a start) (hservice : net.service = some sv)
    (hok : (s.teamStatus team net).result = .ok members) :
    (s.teamStatus team net).net.service = some sv ∧
      ∃ t, sv.directory.teams[(team.getD s.team).toNat]? = some t ∧
        members.map (fun m => (m.1, (m.2.toNat : Int))) =
          (sv.directory.rosterView t).members.map fun u => (u.name, u.status) := by
  obtain ⟨reply, hreply, hread⟩ := Run.reading_eq_ok hok
  obtain ⟨packet, hpacket, hhandled, hsv', hexpected⟩ :=
    reply_of_request .teamStatus rfl (by decide) hs h hservice hreply
  obtain ⟨r, hparse, hkind, -, hteam, -⟩ := parse_packet .teamStatus hpacket rfl
  have hanswer : sv.handle packet (some a) = (Service.replyTo (sv.teamStatus r), sv) := by
    simp only [Service.handle, hparse, Service.answer, hkind]
  rw [hanswer] at hhandled hsv'
  have hcode : reply.code = ReplyKind.teamStatus.code :=
    UInt8.toNat_inj.mp (Int.ofNat_inj.mp hexpected)
  obtain ⟨t, ht, hmembers⟩ :=
    hs.membersIn_of_teamStatus (Service.ok_of_replyTo hhandled (by rw [hcode]; decide))
  rw [teamStatus, Run.reading_net]
  refine ⟨hsv', t, ?_, ?_⟩
  · rw [← ht, ← show (r.team.toNat : Int) = team.getD s.team from hteam, Int.toNat_natCast]
  · obtain rfl := Except.ok.inj (hread.symm.trans hmembers)
    rw [List.map_map]
    refine List.map_congr_left fun u hu => ?_
    obtain ⟨o, ho, rfl⟩ := List.mem_filterMap.mp hu
    obtain ⟨id, hproper⟩ := hs.seated.proper_of_mem ht ho
    simp only [Function.comp_apply, Directory.toNat_statusByte hproper.status_le]

theorem names_of_fetchDescription {teams statuses : List String} (hs : sv.Sound)
    (h : net.Calm a start) (hservice : net.service = some sv)
    (hok : (s.fetchDescription net).result = .ok (teams, statuses)) :
    (s.fetchDescription net).net.service = some sv ∧
      teams = sv.directory.teamNames ∧ statuses = sv.directory.statuses := by
  obtain ⟨reply, hreply, hread⟩ := Run.reading_eq_ok hok
  obtain ⟨packet, hpacket, hhandled, hsv', -⟩ :=
    reply_of_request .description rfl (by decide) hs h hservice hreply
  obtain ⟨r, hparse, hkind, -⟩ := parse_packet .description hpacket rfl
  have hanswer : sv.handle packet (some a) = (.ok sv.description, sv) := by
    simp only [Service.handle, hparse, Service.answer, hkind, Service.replyTo]
  rw [hanswer] at hhandled hsv'
  cases hhandled
  obtain ⟨-, hteams, hstatuses⟩ := hs.names_of_description
  simp only [adoptNames, hteams, hstatuses, Except.ok.injEq, Prod.mk.injEq] at hread
  rw [fetchDescription, Run.reading_net]
  exact ⟨hsv', hread.1.symm, hread.2.symm⟩

end Session

end TeamPresence
