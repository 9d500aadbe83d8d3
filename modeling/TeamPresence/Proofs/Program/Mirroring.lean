import TeamPresence.Proofs.Program.Places
import TeamPresence.Proofs.Service.Consistency
import TeamPresence.Proofs.Session.InStep
import TeamPresence.Proofs.Settings.Usability

/-!
# What the client program shows is on record

Let the client program register as a new user and ask without end, over a network without delay on
which nobody else uses its network ID.

**`shown_on_record`**: whenever the header is shown, the team and the status in it are those that
the server has on record at that moment, also after a move that was refused, as long as the server
has not relented since the start or since an update last returned. When the program has said
goodbye, the server has its user on no team, with no status and in no roster, whether it relented or
not.

A server relents when it takes a packet after a refusal of it was delivered: others have made room
on a team between two handlings, and the program hears of the refusal only (`refused_move_taken`).

The session attends to the server from the first header on, and each turn of the program keeps it so
or ends the program (`Turn.known`). That the server has on record what is shown is brought about by
an update that returns (`onRecord_of_updates`), and kept by each turn in which no refusal is taken
back (`Turn.onRecord`). The packets that the program sends tell what the server goes through
(`Turn.posts`), and so whether it relents.
-/

namespace TeamPresence

/-! ### Settings -/

theorem Environment.integer?_of_unset {env : Environment} {key : String}
    (h : env.nonempty? key = none) : env.integer? key = .ok none := by
  unfold integer?
  rw [h]

theorem ClientSettings.isPersistent {env : Environment} {c : ClientSettings} (h : load env = .ok c)
    (hunset : env.nonempty? "CLIENT_MAX_ATTEMPTS" = none) :
    (Session.ofSettings c).manner.IsPersistent := by
  obtain ⟨-, -, hattempts, hcheck⟩ := load_eq_ok h
  rw [Environment.integer?_of_unset hunset] at hattempts
  exact ⟨(Except.ok.inj hattempts).symm, Binary64.patience_ne_none (check_eq_ok_iff.mp hcheck).2⟩

theorem ClientSettings.not_isRegistered {env : Environment} {c : ClientSettings}
    (h : load env = .ok c) (hunset : env.nonempty? "CLIENT_NETWORK_ID" = none) :
    (Session.ofSettings c).isRegistered = false := by
  obtain ⟨-, hid, -, -⟩ := load_eq_ok h
  rw [Environment.integer?_of_unset hunset] at hid
  unfold Session.isRegistered Session.ofSettings
  rw [← Except.ok.inj hid]
  rfl

/-! ### Actions -/

namespace Question.Allows

variable {s : Session} {net : Net} {q : Question} {action : Action} {id : Nat}

theorem genuine (h : q.Allows s action) (data : Bytes) : action ≠ .takeIn data := by
  cases h <;> simp

theorem attends (h : q.Allows s action) (hs : s.Attends net id) :
    (action.run s net).session.Attends (action.run s net).net id := by
  have hnet := hs.knows.run s h.genuine
  rcases h.session_cases net with hsame | ⟨team, status, -, hsame⟩
  all_goals
    rw [hsame]
    exact ⟨hs.networkId, hs.persistent, hnet⟩

theorem onRecord (h : q.Allows s action) (hs : s.Attends net id) (hheld : s.OnRecord net)
    {answer : Answer} (hok : (action.run s net).result = .ok answer) :
    (action.run s net).session.OnRecord (action.run s net).net := by
  cases h with
  | showTeam _ => exact hs.onRecord_teamStatus hheld none
  | quit => exact hs.onRecord_of_pushes rfl hok
  | setStatus _ => exact hs.onRecord_of_pushes rfl hok
  | setTeam _ => exact hs.onRecord_of_pushes rfl hok

theorem onRecord_of_isTolerated (h : team.Allows s action) (hs : s.Attends net id)
    (hheld : s.OnRecord net) (hlasts : net.NeverRelents (action.run s net).sent) {f : Fault}
    (hfailed : (action.run s net).result = .error f) (htolerated : f.IsTolerated) :
    (action.run s net).session.OnRecord (action.run s net).net := by
  cases h with
  | setTeam _ =>
    apply hs.onRecord_push_failed hheld hlasts (Run.map_eq_error hfailed)
    rintro rfl
    exact htolerated

end Question.Allows

namespace Menu

/-- The menu is shown, under a header with what the server has on record at that moment. -/
def ShowsRecord (m : Menu) : Prop :=
  ∃ sv before header, m.net.service = some sv ∧ m.session.Mirrors sv ∧
    Screen.header m.session = .ok header ∧ m.shown = before ++ header ++ Screen.menu

/-- The program has said goodbye, and the server has its user on no team, with no status, and in no
roster. -/
def HasLeft (m : Menu) (id : Nat) : Prop :=
  ∃ sv before, m.net.service = some sv ∧ m.shown = before ++ "Shutdown complete. Goodbye.\n" ∧
    sv.Records id noTeam noStatus ∧ ∀ t i, ¬ sv.directory.Holds t i id

/-- Where a line is asked for, the session attends to the server. Where the program has left, the
server knows that. -/
structure Known (m : Menu) (id : Nat) : Prop where
  asking : ∀ {q : Question}, m.stage = .asking q → m.session.Attends m.net id
  left : m.stage = .ended .returned → m.HasLeft id

/-- Where a line is asked for, the server has on record what the session holds. -/
def OnRecord (m : Menu) : Prop := ∀ q, m.stage = .asking q → m.session.OnRecord m.net

variable {m m' : Menu} {id : Nat}

theorem known_fail (m : Menu) (f : Fault) : (m.fail f).Known id := by
  obtain ⟨e, hstage, hne⟩ := m.fail_stage f
  constructor
  · intro q hasking
    cases hstage.symm.trans hasking
  · intro hleft
    exact absurd (Stage.ended.inj (hstage.symm.trans hleft)) hne

theorem onRecord_fail (m : Menu) (f : Fault) : (m.fail f).OnRecord := by
  obtain ⟨e, hstage, -⟩ := m.fail_stage f
  intro q hasking
  cases hstage.symm.trans hasking

theorem known_offer (h : m.session.Attends m.net id) : m.offer.Known id := by
  rcases m.offer_cases with ⟨header, hoffer⟩ | ⟨f, hoffer⟩
  · rw [hoffer]
    exact ⟨fun _ => h, nofun⟩
  · rw [hoffer]
    exact known_fail m f

theorem onRecord_offer (h : m.session.OnRecord m.net) : m.offer.OnRecord := by
  rcases m.offer_cases with ⟨header, hoffer⟩ | ⟨f, hoffer⟩
  · rw [hoffer]
    exact fun _ _ => h
  · rw [hoffer]
    exact onRecord_fail m f

/-! ### What the server goes through -/

/-- The program has sent some packets in between, and they tell what became of the server. -/
structure Posts (m : Menu) (packets : List Bytes) (m' : Menu) : Prop where
  sent : m'.sent = m.sent ++ packets
  course : m'.net.course = (m.net.sendAll packets).course

theorem posts_nil (m : Menu) : m.Posts [] m := ⟨(List.append_nil _).symm, rfl⟩

theorem Posts.trans {m'' : Menu} {packets more : List Bytes} (h : m.Posts packets m')
    (h' : m'.Posts more m'') : m.Posts (packets ++ more) m'' := by
  constructor
  · rw [h'.sent, h.sent, List.append_assoc]
  · rw [h'.course, Net.sendAll_append]
    exact Net.course_sendAll h.course more

theorem fail_course (m : Menu) (f : Fault) : (m.fail f).net.course = m.net.course := by
  cases f <;> rfl

theorem offer_course (m : Menu) : m.offer.net.course = m.net.course := by
  rcases m.offer_cases with ⟨header, hoffer⟩ | ⟨f, hoffer⟩
  · rw [hoffer]
    rfl
  · rw [hoffer, fail_course]

theorem Acts.posts {action : Action} {result : Except Fault Answer} {acted : Menu}
    (h : m.Acts action result acted) (hgenuine : ∀ data, action ≠ .takeIn data) :
    m.Posts (action.run m.session m.net).sent acted := by
  refine ⟨h.sent, ?_⟩
  rw [h.net]
  exact Action.course_run m.session m.net hgenuine

theorem Turn.posts {q : Question} (h : m.Turn q m') : ∃ packets, m.Posts packets m' := by
  cases h with
  | asks text hnext => exact ⟨[], (List.append_nil _).symm, rfl⟩
  | offers text => exact ⟨[], by simp [offer_sent, print], offer_course _⟩
  | misreads text why => exact ⟨[], by simp, fail_course m _⟩
  | goesOn text hallows hstays hacts =>
    obtain ⟨hsent, hcourse⟩ := hacts.posts hallows.genuine
    exact ⟨_, (offer_sent _).trans hsent, (offer_course _).trans hcourse⟩
  | stays text hallows hacts htolerated =>
    obtain ⟨hsent, hcourse⟩ := hacts.posts hallows.genuine
    exact ⟨_, (offer_sent _).trans hsent, (offer_course _).trans hcourse⟩
  | breaks text hallows hacts hbreaks =>
    obtain ⟨hsent, hcourse⟩ := hacts.posts hallows.genuine
    exact ⟨_, (fail_sent _ _).trans hsent, (fail_course _ _).trans hcourse⟩
  | leaves text hacts =>
    obtain ⟨hsent, hcourse⟩ := hacts.posts nofun
    exact ⟨_, hsent, hcourse⟩

/-! ### One turn -/

theorem Turn.networkId {q : Question} (h : m.Turn q m') :
    m'.session.networkId = m.session.networkId := by
  have hact : ∀ {action : Action} {result : Except Fault Answer} {acted : Menu} (spoken : Menu),
      q.Allows m.session action → spoken.session = m.session →
        spoken.Acts action result acted → acted.session.networkId = m.session.networkId := by
    intro action result acted spoken hallows hsession hacts
    rw [← hsession] at hallows
    rw [hacts.session, ← hsession]
    rcases hallows.session_cases spoken.net with hsame | ⟨team, status, -, hsame⟩
    · rw [hsame]
    · rw [hsame]
  cases h with
  | asks text hnext => rfl
  | offers text => rw [offer_session, print_session]
  | misreads text why => rw [fail_session]
  | goesOn text hallows hstays hacts =>
    rw [offer_session, print_session]
    exact hact m hallows rfl hacts
  | stays text hallows hacts htolerated =>
    rw [offer_session, print_session]
    exact hact m hallows rfl hacts
  | breaks text hallows hacts hbreaks =>
    rw [fail_session]
    exact hact (m.print text) hallows rfl hacts
  | @leaves _ acted text hacts =>
    show acted.session.networkId = m.session.networkId
    exact hact (m.print text) .quit rfl hacts

theorem Turn.known {q : Question} (h : m.Turn q m') (hm : m.session.Attends m.net id) :
    m'.Known id := by
  have hact : ∀ {action : Action} {result : Except Fault Answer} {acted : Menu},
      q.Allows m.session action → m.Acts action result acted →
        acted.session.Attends acted.net id := by
    intro action result acted hallows hacts
    rw [hacts.session, hacts.net]
    exact hallows.attends hm
  cases h with
  | asks text hnext => exact ⟨fun _ => hm, nofun⟩
  | offers text => exact known_offer hm
  | misreads text why => exact known_fail m _
  | goesOn text hallows hstays hacts =>
    have hattends := hact hallows hacts
    exact known_offer hattends
  | stays text hallows hacts htolerated =>
    have hattends := hact hallows hacts
    exact known_offer hattends
  | breaks text hallows hacts hbreaks => exact known_fail _ _
  | @leaves answer acted text hacts =>
    refine ⟨nofun, fun _ => ?_⟩
    obtain ⟨_, hpushed, -⟩ := Run.map_eq_ok hacts.result
    obtain ⟨sv, hservice, hs, hrecords⟩ := hm.knows.records_of_push hm.networkId hpushed
    have hserved : acted.net.service = some sv := by
      rw [hacts.net]
      exact hservice
    have hgoodbye : "Shutdown complete. Goodbye." ++ "\n" = "Shutdown complete. Goodbye.\n" := by
      decide
    refine ⟨sv, acted.shown, hserved, congrArg (acted.shown ++ ·) hgoodbye, hrecords, ?_⟩
    obtain ⟨u, hu, hno, -⟩ := hrecords
    exact hs.seated.not_holds ((Directory.user?_natCast _ _).symm.trans hu) hno

/-- A turn leaves on record what is shown, if no refusal in it is taken back. -/
theorem Turn.onRecord {q : Question} (h : m.Turn q m') (hm : m.session.Attends m.net id)
    (hheld : m.session.OnRecord m.net) {packets : List Bytes} (hposts : m.Posts packets m')
    (hlasts : m.net.NeverRelents packets) : m'.OnRecord := by
  cases h with
  | asks text hnext => exact fun _ _ => hheld
  | offers text => exact onRecord_offer hheld
  | misreads text why => exact onRecord_fail m _
  | goesOn text hallows hstays hacts =>
    apply onRecord_offer
    rw [print_session, print_net, hacts.session, hacts.net]
    exact hallows.onRecord hm hheld hacts.result
  | @stays action f acted text hallows hacts htolerated =>
    have hsent : packets = (action.run m.session m.net).sent :=
      List.append_cancel_left (hposts.sent.symm.trans ((offer_sent _).trans hacts.sent))
    rw [hsent] at hlasts
    apply onRecord_offer
    rw [print_session, print_net, hacts.session, hacts.net]
    exact hallows.onRecord_of_isTolerated hm hheld hlasts hacts.result htolerated
  | breaks text hallows hacts hbreaks => exact onRecord_fail _ _
  | leaves text hacts => exact nofun

/-! ### Updates that return -/

/-- The update that a typed line makes, if it makes one. -/
def update? (m : Menu) (line : String × Nat) : Option (Run Unit) :=
  let net := { m.net with budget := line.2 }
  match m.stage with
  | .asking .status =>
    (chooseOption m.session.statusNames.length line.1).toOption.join.map fun (i : Nat) =>
      m.session.updateStatus i false net
  | .asking .team =>
    (chooseOption m.session.teamNames.length line.1).toOption.join.map fun (i : Nat) =>
      m.session.changeTeam i true net
  | .asking .option | .ended _ => none

/-- Whether a typed line makes an update, and the update returns. -/
def Updates (m : Menu) (line : String × Nat) : Prop := ∃ r ∈ m.update? line, r.result = .ok ()

instance (m : Menu) (line : String × Nat) : Decidable (m.Updates line) :=
  inferInstanceAs (Decidable (∃ r, r ∈ m.update? line ∧ _))

theorem onRecord_perform {op : Session → Net → Run Unit} {next : Menu → Except Fault Unit → Menu}
    (hok : (op m.session m.net).result = .ok ()) (hnext : ∀ acted, next acted (.ok ()) = acted.offer)
    (hheld : (op m.session m.net).session.OnRecord (op m.session m.net).net) :
    (m.perform op next).OnRecord := by
  unfold perform
  dsimp only
  rw [hok, hnext]
  exact onRecord_offer hheld

theorem chooseOption_of_join {count : Nat} {line : String} {i : Nat}
    (h : (chooseOption count line).toOption.join = some i) :
    chooseOption count line = .ok (some i) := by
  cases hchoose : chooseOption count line with
  | error f =>
    rw [hchoose] at h
    cases h
  | ok choice =>
    rw [hchoose] at h
    exact congrArg Except.ok h

/-- When an update has returned, what is shown is on record, whatever was before. -/
theorem onRecord_of_updates (h : m.Known id) {line : String × Nat} (hupdates : m.Updates line) :
    (m.feedWithin line.2 line.1).OnRecord := by
  obtain ⟨r, hr, hok⟩ := hupdates
  unfold update? at hr
  split at hr
  case h_1 hstage =>
    obtain ⟨i, hi, rfl⟩ := Option.map_eq_some_iff.mp hr
    have hm := (h.asking hstage).rebudget line.2
    unfold feedWithin
    rw [hstage]
    dsimp only
    rw [answer_of_ok (chooseOption_of_join hi)]
    show OnRecord (setStatus _ i)
    apply onRecord_perform hok fun _ => rfl
    exact hm.onRecord_push hok
  case h_2 hstage =>
    obtain ⟨i, hi, rfl⟩ := Option.map_eq_some_iff.mp hr
    have hm := (h.asking hstage).rebudget line.2
    unfold feedWithin
    rw [hstage]
    dsimp only
    rw [answer_of_ok (chooseOption_of_join hi)]
    show OnRecord (setTeam _ i)
    unfold setTeam
    split
    · exact onRecord_fail _ _
    · apply onRecord_perform hok fun _ => rfl
      exact hm.onRecord_push hok
  case h_3 => cases hr
  case h_4 => cases hr

/-! ### The start -/

theorem describe_networkId (m : Menu) : m.describe.session.networkId = m.session.networkId := by
  have hkept : (Action.fetchDescription.run m.session m.net).session.networkId =
      m.session.networkId := by
    show (m.session.fetchDescription m.net).session.networkId = m.session.networkId
    cases m.session.fetchDescription_describes m.net with
    | nothing _ _ hsession => rw [hsession]
    | half _ _ _ _ hsession => rw [hsession]
    | whole _ _ _ _ _ _ hsession => rw [hsession]
  obtain ⟨acted, ⟨answer, text, hacts, hdescribe⟩ | ⟨f, hacts, hdescribe⟩⟩ := m.describe_cases
  · rw [hdescribe, offer_session, ← hkept, ← hacts.session]
    rfl
  · rw [hdescribe, fail_session, hacts.session, hkept]

theorem known_describe {sv : Service} (hid : m.session.networkId = id)
    (hpersistent : m.session.manner.IsPersistent) (hnet : m.net.Undelayed id)
    (hservice : m.net.service = some sv) (hs : sv.Sound)
    (hrecords : sv.Records id m.session.team m.session.status) :
    m.describe.Known id ∧ m.describe.OnRecord := by
  obtain ⟨acted, ⟨answer, text, hacts, hdescribe⟩ | ⟨f, hacts, hdescribe⟩⟩ := m.describe_cases
  · rw [hdescribe]
    obtain ⟨names, hfetched, -⟩ := Run.map_eq_ok hacts.result
    obtain ⟨hattends, hheld⟩ :=
      Session.attends_fetchDescription hid hpersistent hnet hservice hs hrecords hfetched
    refine ⟨known_offer ?_, onRecord_offer ?_⟩
    · show acted.session.Attends acted.net id
      rw [hacts.session, hacts.net]
      exact hattends
    · show acted.session.OnRecord acted.net
      rw [hacts.session, hacts.net]
      exact hheld
  · rw [hdescribe]
    exact ⟨known_fail acted f, onRecord_fail acted f⟩

theorem known_start {env : Environment} {net : Net} {sv : Service}
    (hregisters : env.nonempty? "CLIENT_NETWORK_ID" = none)
    (hattempts : env.nonempty? "CLIENT_MAX_ATTEMPTS" = none)
    (hnow : Binary64.nearest net.now = net.now) (hservice : net.service = some sv) (hs : sv.Sound)
    (hnew : sv.directory.users.size ≤ id) (hscript : ∀ f ∈ net.link.script, f.IsUndelayed id)
    (hid : (start env net).session.networkId = id) :
    (start env net).Known id ∧ (start env net).OnRecord := by
  rcases start_cases env net with ⟨c, hload, hstart⟩ | ⟨f, -, hstart⟩
  · have hnet : (opened c net).net.Undelayed id :=
      ⟨⟨hnow, Transit.arrived_empty _ _⟩, hscript⟩
    rw [hstart, connect_eq, if_neg (by simp [ClientSettings.not_isRegistered hload hregisters])]
      at hid ⊢
    obtain ⟨acted, ⟨k, hacts, hregister⟩ | ⟨f, hacts, hregister⟩⟩ :=
      (opened c net).register_cases c.displayName
    · rw [hregister, describe_networkId] at hid
      rw [hregister]
      have hregisters : (Action.register c.displayName).registers = some c.displayName := rfl
      cases Action.run_of_registers hregisters (opened c net).session (opened c net).net with
      | failed _ hfailed _ => cases hfailed.symm.trans hacts.result
      | @told _ k' _ _ hresult hsession =>
        rw [hacts.session, hsession] at hid
        obtain rfl : k' = id := hid
        obtain ⟨_, hok, hsame⟩ := Run.map_eq_ok hresult
        cases hsame
        obtain ⟨hnet', sv', hsv', hs', hrecords⟩ :=
          Session.register_records hnet hservice hs hnew hok
        apply known_describe
        · rw [hacts.session, hsession]
        · rw [hacts.session, hsession]
          exact ClientSettings.isPersistent hload hattempts
        · rw [hacts.net]
          exact hnet'
        · rw [hacts.net]
          exact hsv'
        · exact hs'
        · rw [hacts.session, hsession]
          exact hrecords
    · rw [hregister]
      exact ⟨known_fail acted f, onRecord_fail acted f⟩
  · rw [hstart]
    exact ⟨⟨nofun, nofun⟩, nofun⟩

/-! ### Any number of lines -/

theorem after_networkId (m : Menu) (lines : List (String × Nat)) :
    (m.after lines).session.networkId = m.session.networkId :=
  after_induction (P := fun m' => m'.session.networkId = m.session.networkId) lines
    (fun _ _ h hturn => hturn.networkId.trans h) rfl

theorem after_inPlace (h : m.InPlace) (lines : List (String × Nat)) : (m.after lines).InPlace :=
  after_induction lines (fun _ _ h hturn => hturn.inPlace h.placed h.found) h

theorem after_known (h : m.Known id) (lines : List (String × Nat)) : (m.after lines).Known id :=
  after_induction (P := fun m => m.Known id) lines
    (fun budget hasking h hturn => hturn.known ((h.asking hasking).rebudget budget)) h

theorem after_onRecord (h : m.Known id) (hheld : m.OnRecord) (lines : List (String × Nat))
    (hlasts : m.net.NeverRelents ((m.after lines).sent.drop m.sent.length)) :
    (m.after lines).OnRecord := by
  have hrun : (m.after lines).Known id ∧ ∃ packets, m.Posts packets (m.after lines) ∧
      (m.net.NeverRelents packets → (m.after lines).OnRecord) := by
    apply after_induction lines (P := fun m' => m'.Known id ∧ ∃ packets, m.Posts packets m' ∧
      (m.net.NeverRelents packets → m'.OnRecord))
    · rintro m₁ m' q budget hasking ⟨hknown, packets, hposts, hkept⟩ hturn
      have hattends := (hknown.asking hasking).rebudget budget
      obtain ⟨more, hmore⟩ := hturn.posts
      -- how many packets a line may send makes no difference to the server
      replace hposts : m.Posts packets { m₁ with net := { m₁.net with budget } } :=
        ⟨hposts.sent, hposts.course⟩
      refine ⟨hturn.known hattends, packets ++ more, hposts.trans hmore, fun hnever => ?_⟩
      exact hturn.onRecord hattends (hkept hnever.left q hasking) hmore
        (hnever.right.of_course hposts.course.symm)
    · exact ⟨h, [], m.posts_nil, fun _ => hheld⟩
  obtain ⟨-, packets, hposts, hkept⟩ := hrun
  rw [hposts.sent, List.drop_left] at hlasts
  exact hkept hlasts

/-- **What the header shows is on record.** Let the client program register as a new user and ask
without end, and let nobody else use its network ID. Each of its packets is lost, or handled any
number of times, and each answer that is not lost arrives at once. Whatever is typed, the server has
on record what is shown whenever the program asks for an option, if since the start, or since a line
at which an update returned, it took no packet after a refusal of the same packet was delivered.
Whether it did or not, it knows that its user has left when the program has said so. -/
theorem shown_on_record {teams statuses : List String} {size limit memory : Int} {dedupe : Bool}
    {sv : Service} (hreach : Service.Reachable teams statuses size limit dedupe memory sv)
    {env : Environment} {net : Net} (hregisters : env.nonempty? "CLIENT_NETWORK_ID" = none)
    (hattempts : env.nonempty? "CLIENT_MAX_ATTEMPTS" = none)
    (hnow : Binary64.nearest net.now = net.now) (hservice : net.service = some sv)
    (before after : List (String × Nat)) {m₀ m : Menu} (hm₀ : (start env net).after before = m₀)
    (hm : (start env net).after (before ++ after) = m) (hid : m.session.networkId = id)
    (hnew : sv.directory.users.size ≤ id) (hscript : ∀ f ∈ net.link.script, f.IsUndelayed id) :
    ((before = [] ∨ ∃ earlier line, before = earlier ++ [line] ∧
          ((start env net).after earlier).Updates line) →
        m₀.net.NeverRelents (m.sent.drop m₀.sent.length) → m.stage = .asking .option →
          m.ShowsRecord) ∧
      (m.stage = .ended .returned → m.HasLeft id) := by
  have hid₀ : (start env net).session.networkId = id := by
    rw [← hid, ← hm, after_networkId]
  obtain ⟨hknown, hstart⟩ :=
    known_start hregisters hattempts hnow hservice hreach.sound hnew hscript hid₀
  have hknownAfter : m.Known id := hm ▸ after_known hknown _
  refine ⟨fun hfresh hlasts hasking => ?_, hknownAfter.left⟩
  have hheld₀ : m₀.OnRecord := by
    rw [← hm₀]
    rcases hfresh with rfl | ⟨earlier, line, rfl, hupdates⟩
    · exact hstart
    · rw [after_concat]
      exact onRecord_of_updates (after_known hknown earlier) hupdates
  have hheld : m.OnRecord := by
    have hsplit : m₀.after after = m := by
      rw [← hm, ← hm₀]
      exact (List.foldl_append ..).symm
    rw [← hsplit] at hlasts ⊢
    exact after_onRecord (hm₀ ▸ after_known hknown before) hheld₀ after hlasts
  have hplace : m.InPlace := hm ▸ after_inPlace (inPlace_start env net) _
  obtain ⟨shown, header, hheader, hshown⟩ := hplace.shown hasking
  obtain ⟨sv', hsv', -, hmirrors⟩ := (hknownAfter.asking hasking).mirrors (hheld _ hasking)
  exact ⟨sv', shown, header, hsv', hmirrors, hheader, hshown⟩

/-- Settings without a network ID and without a limit of attempts. -/
def annsSettings : Environment := ⟨[("CLIENT_DISPLAY_NAME", "Ann")]⟩

/-- A network with a server that has two users already. -/
def companyNet (sv : Service) (script : List Fate) : Net :=
  { service := some (sv.after Service.crowding)
    link := { address := ⟨"127.0.0.1", 40000⟩, script } }

/-- The first registration is lost, and so is the reply to the second. Somebody else registers
between two handlings of the third. The first update is handled twice too, and in between the user
in the only slot of the second team takes another status. -/
def busyScript : List Fate :=
  [{ events := [] }, { events := [.handled none] },
    { events := [.handled (some 0), .elsewhere ⟨"127.0.0.1", 5001⟩
        [1, 0xff, 0xff, 0xff, 0xff, 0xff, 0x43], .handled (some 0)] },
    .delivered,
    { events := [.handled (some 0), .elsewhere ⟨"127.0.0.1", 5000⟩ [2, 0, 0, 0, 1, 0, 0x26],
        .handled (some 0)] }]

/-- The update of the move is handled twice, and in between the user in the only slot of the second
team leaves. -/
def roomyScript : List Fate :=
  [.delivered, .delivered,
    { events := [.handled (some 0), .elsewhere ⟨"127.0.0.1", 5000⟩ [2, 0, 0, 0, 0xff, 0xff, 0x26],
        .handled (some 0)] }]

/-- What is typed to move to the second team. -/
def move : List (String × Nat) := [("2", 50), ("2", 50)]

/-- What is typed to take the first status. -/
def takeStatus : List (String × Nat) := [("1", 50), ("1", 50)]

/-- The move is refused and the status is shown. Then the user leaves. Where the server relents,
what is shown is on record again when the status is taken. -/
theorem shown_on_record_crowding :
    ∃ sv m m' m'', Service.host ["Red", "Blue"] ["Busy"] 1 100 true 4 = .ok sv ∧
      (start annsSettings (companyNet sv busyScript)).after (move ++ takeStatus) = m ∧
      m.stage = .asking .option ∧ m.session.values = (noTeam, 0) ∧ m.ShowsRecord ∧
      (start annsSettings (companyNet sv busyScript)).after (move ++ takeStatus ++ [("4", 50)]) =
        m' ∧ m'.stage = .ended .returned ∧ m'.HasLeft 2 ∧
      (start annsSettings (companyNet sv roomyScript)).after (move ++ takeStatus) = m'' ∧
      m''.ShowsRecord := by
  obtain ⟨sv, h⟩ : ∃ sv, Service.host ["Red", "Blue"] ["Busy"] 1 100 true 4 = .ok sv := ⟨_, rfl⟩
  have hbusy : ∀ sv ∈ (Service.host ["Red", "Blue"] ["Busy"] 1 100 true 4).toOption,
      let m₀ := start annsSettings (companyNet sv busyScript)
      let m := m₀.after (move ++ takeStatus)
      let m' := m₀.after (move ++ takeStatus ++ [("4", 50)])
      ((sv.after Service.crowding).directory.users.size = 2 ∧
        m₀.net.NeverRelents (m.sent.drop m₀.sent.length)) ∧
      (m.stage = .asking .option ∧ m.session.networkId = 2 ∧ m.session.values = (noTeam, 0)) ∧
      m'.stage = .ended .returned ∧ m'.session.networkId = 2 := by
    decide +kernel
  have hroomy : ∀ sv ∈ (Service.host ["Red", "Blue"] ["Busy"] 1 100 true 4).toOption,
      let m₀ := start annsSettings (companyNet sv roomyScript)
      let m := m₀.after (move ++ takeStatus)
      (m₀.after (move ++ [("1", 50)])).Updates ("1", 50) ∧
      m.net.NeverRelents (m.sent.drop m.sent.length) ∧
      m.stage = .asking .option ∧ m.session.networkId = 2 := by
    decide +kernel
  obtain ⟨⟨hsize, hlasts⟩, ⟨hasking, hid, hvalues⟩, hleft, hid'⟩ := hbusy sv (by rw [h]; rfl)
  obtain ⟨hupdates, hlasts'', hasking'', hid''⟩ := hroomy sv (by rw [h]; rfl)
  have hreach := (Service.Reachable.hosted h).after Service.crowding
  have hnow : Binary64.nearest 0 = 0 := by decide +kernel
  have hscript : ∀ f ∈ busyScript, f.IsUndelayed (2 : Nat) := by decide +kernel
  have hscript'' : ∀ f ∈ roomyScript, f.IsUndelayed (2 : Nat) := by decide +kernel
  have hlines : ∀ script lines, (start annsSettings (companyNet sv script)).after ([] ++ lines) =
      (start annsSettings (companyNet sv script)).after lines := fun _ _ => rfl
  refine ⟨sv, _, _, _, h, rfl, hasking, hvalues, ?_, rfl, hleft, ?_, rfl, ?_⟩
  · exact (shown_on_record hreach rfl rfl hnow rfl [] _ rfl (hlines _ _) hid hsize.le hscript).1
      (Or.inl rfl) hlasts hasking
  · exact (shown_on_record hreach rfl rfl hnow rfl [] _ rfl (hlines _ _) hid' hsize.le hscript).2
      hleft
  · exact (shown_on_record hreach rfl rfl hnow rfl (move ++ takeStatus) [] rfl rfl hid'' hsize.le
      hscript'').1 (Or.inr ⟨move ++ [("1", 50)], ("1", 50), rfl, hupdates⟩) hlasts'' hasking''

/-- A server that relents: the header shows no team, and the server has the user on the second. -/
theorem refused_move_taken :
    ∃ sv m sv', Service.host ["Red", "Blue"] ["Busy"] 1 100 true 4 = .ok sv ∧
      (sv.after Service.crowding).directory.users.size ≤ 2 ∧
      (∀ f ∈ roomyScript, f.IsUndelayed (2 : Nat)) ∧
      (start annsSettings (companyNet sv roomyScript)).after move = m ∧ m.session.networkId = 2 ∧
      m.stage = .asking .option ∧ m.session.values = (noTeam, noStatus) ∧
      m.net.service = some sv' ∧ sv'.Records 2 1 noStatus ∧ ¬ m.ShowsRecord := by
  obtain ⟨sv, h⟩ : ∃ sv, Service.host ["Red", "Blue"] ["Busy"] 1 100 true 4 = .ok sv := ⟨_, rfl⟩
  have hrun : ∀ sv ∈ (Service.host ["Red", "Blue"] ["Busy"] 1 100 true 4).toOption,
      let m := (start annsSettings (companyNet sv roomyScript)).after move
      (sv.after Service.crowding).directory.users.size ≤ 2 ∧
      m.session.networkId = 2 ∧ m.stage = .asking .option ∧ m.session.values = (noTeam, noStatus) ∧
      ∃ sv' ∈ m.net.service, sv'.Records 2 1 noStatus := by
    decide +kernel
  obtain ⟨hsize, hid, hasking, hvalues, sv', hsv', hrecords⟩ := hrun sv (by rw [h]; rfl)
  have hscript : ∀ f ∈ roomyScript, f.IsUndelayed (2 : Nat) := by decide +kernel
  refine ⟨sv, _, sv', h, hsize, hscript, rfl, hid, hasking, hvalues, hsv', hrecords, ?_⟩
  rintro ⟨t, before, header, ht, hmirrors, -⟩
  obtain rfl := Option.some.inj (hsv'.symm.trans ht)
  obtain ⟨u, hu, hteam, -⟩ := hrecords
  obtain ⟨v, hv, hshown, -⟩ := hmirrors.records
  rw [hid] at hv
  obtain rfl := Option.some.inj (hu.symm.trans hv)
  exact absurd (hteam.symm.trans (hshown.trans (congrArg Prod.fst hvalues))) (by decide)

end Menu

end TeamPresence
