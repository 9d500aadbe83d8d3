import TeamPresence.Proofs.Program.Choosing
import TeamPresence.Session.Action

/-!
# The course of the client program

Each typed line lets the program make at most one action of its session, and the question that the
line answers tells which (`Question.Allows`). **`feedWithin_turn`** lists all that a line can lead
to: the program asks another question, shows the header again, ends at an action that failed, or
ends because it has left. What comes before the first line is listed by `start_cases`,
`connect_cases` and `describe_cases`.

`after_induction`: what holds at the start and after each such turn holds whatever is typed, with
any number of packets for each line.
-/

namespace TeamPresence

/-- What the program may let its session do when a line answers a question. -/
inductive Question.Allows (s : Session) : Question → Action → Prop
  | showTeam (h : s.team ≠ noTeam) : Allows s .option (.teamStatus none)
  | quit : Allows s .option .leave
  | setStatus {i : Nat} (h : i < s.statusNames.length) : Allows s .status (.updateStatus i false)
  | setTeam {i : Nat} (h : i < s.teamNames.length) : Allows s .team (.changeTeam i true)

/-- What the program goes on after, though a move failed. -/
def Fault.IsTolerated : Fault → Prop
  | .rejected _ | .unanswered _ _ => True
  | _ => False

namespace Menu

/-! ### What a menu keeps -/

section Frame

variable (m : Menu) (f : Fault)

@[simp] theorem print_empty : m.print "" = m := by
  unfold print
  rw [String.append_empty]

@[simp] theorem print_session (text : String) : (m.print text).session = m.session := rfl

@[simp] theorem print_net (text : String) : (m.print text).net = m.net := rfl

@[simp] theorem fail_session : (m.fail f).session = m.session := by cases f <;> rfl

theorem offer_cases :
    (∃ header, m.offer = ((m.print header).print Screen.menu).ask .option) ∨
      ∃ f, m.offer = m.fail f := by
  unfold offer
  cases Screen.header m.session with
  | ok header => exact Or.inl ⟨header, rfl⟩
  | error f => exact Or.inr ⟨f, rfl⟩

@[simp] theorem offer_session : m.offer.session = m.session := by
  rcases m.offer_cases with ⟨header, hoffer⟩ | ⟨f, hoffer⟩
  · rw [hoffer]
    rfl
  · rw [hoffer, fail_session]

@[simp] theorem fail_sent : (m.fail f).sent = m.sent := by cases f <;> rfl

@[simp] theorem offer_sent : m.offer.sent = m.sent := by
  rcases m.offer_cases with ⟨header, hoffer⟩ | ⟨f, hoffer⟩
  · rw [hoffer]
    rfl
  · rw [hoffer, fail_sent]

theorem fail_stage : ∃ e, (m.fail f).stage = .ended e ∧ e ≠ .returned := by
  cases f
  case sendLimit => exact ⟨_, rfl, by simp⟩
  all_goals exact ⟨.exited 1, rfl, by simp⟩

theorem offer_of_header {m : Menu} {header : String} (h : Screen.header m.session = .ok header) :
    m.offer = ((m.print header).print Screen.menu).ask .option := by
  unfold offer
  rw [h]

end Frame

/-! ### Actions -/

/-- The program lets its session act: it goes on with what the session and the network are then, and
tells what the session tells. -/
structure Acts (m : Menu) (action : Action) (result : Except Fault Answer) (acted : Menu) :
    Prop where
  result : (action.run m.session m.net).result = result
  session : acted.session = (action.run m.session m.net).session
  net : acted.net = (action.run m.session m.net).net
  sent : acted.sent = m.sent ++ (action.run m.session m.net).sent
  shown : ∃ heard, acted.shown = m.shown ++ heard
  records : ∃ told, acted.records = m.records ++ told ∧ ∀ r ∈ told, r.source = "client.session"

theorem source_of_runRecords {α : Type} {s : Session} {r : Run α} :
    ∀ told ∈ s.runRecords r, told.source = "client.session" := by
  intro told htold
  unfold Session.runRecords at htold
  cases hx : r.exchange with
  | none =>
    rw [hx] at htold
    cases htold
  | some x =>
    rw [hx] at htold
    obtain ⟨⟨attempt, made⟩, -, htold⟩ := List.mem_flatMap.mp htold
    unfold Exchange.attemptRecords at htold
    rcases List.mem_append.mp htold with htold | htold
    · cases hfailure : attempt.failure with
      | none =>
        rw [hfailure] at htold
        cases htold
      | some text =>
        rw [hfailure] at htold
        rw [List.mem_singleton.mp htold]
        rfl
    · rcases List.mem_cons.mp htold with rfl | htold
      · rfl
      · unfold Verdict.records at htold
        split at htold
        case h_3 => cases htold
        all_goals
          rw [List.mem_singleton.mp htold]
          rfl

/-- A program that goes on after a run of its session has let it act, if an action comes to the same
as that run. -/
theorem acts_took {α : Type} {m : Menu} {action : Action} {r : Run α} {g : α → Answer}
    (hrun : action.run m.session m.net = r.map g) {records : List Record}
    (hrecords : ∀ told ∈ records, told.source = "client.session") :
    m.Acts action (r.result.map g) (m.took r records) := by
  refine ⟨?_, ?_, ?_, ?_, ⟨_, rfl⟩, ⟨records, rfl, hrecords⟩⟩
  all_goals
    rw [hrun]
    rfl

theorem perform_cases {α : Type} (m : Menu) {op : Session → Net → Run α} (action : Action)
    {g : α → Answer} (hrun : ∀ s n, action.run s n = (op s n).map g)
    (next : Menu → Except Fault α → Menu) :
    ∃ acted, (∃ a, m.Acts action (.ok (g a)) acted ∧ m.perform op next = next acted (.ok a)) ∨
      ∃ f, m.Acts action (.error f) acted ∧ m.perform op next = next acted (.error f) := by
  have hacts := acts_took (hrun m.session m.net)
    (source_of_runRecords (s := m.session) (r := op m.session m.net))
  refine ⟨m.took (op m.session m.net) (m.session.runRecords (op m.session m.net)), ?_⟩
  have hperform : m.perform op next = next (m.took (op m.session m.net)
      (m.session.runRecords (op m.session m.net))) (op m.session m.net).result := rfl
  rw [hperform]
  cases hresult : (op m.session m.net).result with
  | ok a =>
    rw [hresult] at hacts
    exact Or.inl ⟨a, hacts, rfl⟩
  | error f =>
    rw [hresult] at hacts
    exact Or.inr ⟨f, hacts, rfl⟩

/-! ### Turns -/

/-- What a line can lead to that answers a question. When the program goes on after an action, it may
say something first; before it leaves it says so. -/
inductive Turn (m : Menu) : Question → Menu → Prop
  | asks {next : Question} (text : String) (hnext : next ≠ .option) :
      Turn m .option ((m.print text).ask next)
  | offers {q : Question} (text : String) : Turn m q (m.print text).offer
  | misreads {q : Question} (text : String) (why : Numeral.Refusal) :
      Turn m q (m.fail (.choice text why))
  | goesOn {q : Question} {action : Action} {answer : Answer} {acted : Menu} (text : String)
      (hallows : q.Allows m.session action) (hstays : action ≠ .leave)
      (hacts : m.Acts action (.ok answer) acted) : Turn m q (acted.print text).offer
  | stays {action : Action} {f : Fault} {acted : Menu} (text : String)
      (hallows : Question.team.Allows m.session action)
      (hacts : m.Acts action (.error f) acted) (htolerated : f.IsTolerated) :
      Turn m .team (acted.print text).offer
  | breaks {q : Question} {action : Action} {f : Fault} {acted : Menu} (text : String)
      (hallows : q.Allows m.session action) (hacts : (m.print text).Acts action (.error f) acted)
      (hbreaks : q = .team → ¬ f.IsTolerated) : Turn m q (acted.fail f)
  | leaves {answer : Answer} {acted : Menu} (text : String)
      (hacts : (m.print text).Acts .leave (.ok answer) acted) :
      Turn m .option ((acted.close.printLine "Shutdown complete. Goodbye.").stop .returned)

variable (m : Menu)

theorem Turn.breaks_at_once {m : Menu} {q : Question} {action : Action} {f : Fault} {acted : Menu}
    (hallows : q.Allows m.session action) (hacts : m.Acts action (.error f) acted)
    (hbreaks : q = .team → ¬ f.IsTolerated) : m.Turn q (acted.fail f) := by
  apply Turn.breaks "" hallows _ hbreaks
  rwa [print_empty]

theorem Turn.goesOn_at_once {m : Menu} {q : Question} {action : Action} {answer : Answer}
    {acted : Menu} (hallows : q.Allows m.session action) (hstays : action ≠ .leave)
    (hacts : m.Acts action (.ok answer) acted) : m.Turn q acted.offer := by
  have hturn := Turn.goesOn "" hallows hstays hacts
  rwa [print_empty] at hturn

theorem showTeam_turn : m.Turn .option m.showTeam := by
  unfold showTeam
  split
  · exact .offers _
  · next hteam =>
    obtain ⟨acted, ⟨list, hacts, heq⟩ | ⟨f, hacts, heq⟩⟩ :=
      m.perform_cases (.teamStatus none) (fun _ _ => rfl) (orFail fun m list =>
        (m.print (Screen.members m.session.statusNames list)).offer)
    · rw [heq]
      exact .goesOn _ (.showTeam hteam) (by simp) hacts
    · rw [heq]
      exact .breaks_at_once (.showTeam hteam) hacts (by simp)

theorem quit_turn : m.Turn .option m.quit := by
  unfold quit
  obtain ⟨acted, ⟨_, hacts, heq⟩ | ⟨f, hacts, heq⟩⟩ :=
    (m.printLine "Shutting down TeamConnect client...").perform_cases .leave (fun _ _ => rfl)
      (orFail fun m _ => (m.close.printLine "Shutdown complete. Goodbye.").stop .returned)
  · rw [heq]
    exact .leaves _ hacts
  · rw [heq]
    exact .breaks _ .quit hacts (by simp)

theorem choose_turn (line : String) : m.Turn .option (m.choose line) := by
  unfold choose
  split
  · exact .asks _ (by simp)
  · exact .asks _ (by simp)
  · exact m.showTeam_turn
  · exact m.quit_turn
  · exact .offers _

theorem setStatus_turn {i : Nat} (h : i < m.session.statusNames.length) :
    m.Turn .status (m.setStatus i) := by
  unfold setStatus
  obtain ⟨acted, ⟨_, hacts, heq⟩ | ⟨f, hacts, heq⟩⟩ :=
    m.perform_cases (.updateStatus i false) (fun _ _ => rfl) (orFail fun m _ => m.offer)
  · rw [heq]
    exact .goesOn_at_once (.setStatus h) (by simp) hacts
  · rw [heq]
    exact .breaks_at_once (.setStatus h) hacts (by simp)

theorem setTeam_turn {i : Nat} (h : i < m.session.teamNames.length) :
    m.Turn .team (m.setTeam i) := by
  have hname : Screen.entryAt m.session.teamNames i = .ok m.session.teamNames[i] := by
    simp [Screen.entryAt, h]
  unfold setTeam
  rw [hname]
  dsimp only
  obtain ⟨acted, ⟨_, hacts, heq⟩ | ⟨f, hacts, heq⟩⟩ :=
    m.perform_cases (.changeTeam i true) (fun _ _ => rfl) (moved m.session.teamNames[i])
  · rw [heq]
    exact .goesOn_at_once (.setTeam h) (by simp) hacts
  · rw [heq]
    cases f
    case rejected => exact .stays _ (.setTeam h) hacts trivial
    case unanswered => exact .stays _ (.setTeam h) hacts trivial
    all_goals exact .breaks_at_once (.setTeam h) hacts fun _ => id

theorem answer_turn {q : Question} {options : List String} {line : String}
    {next : Menu → Nat → Menu} (hnext : ∀ i < options.length, m.Turn q (next m i)) :
    m.Turn q (m.answer options line next) := by
  rcases chooseOption_cases options.length line with ⟨-, why, herror⟩ | ⟨-, choice, hok, hchooses⟩
  · unfold answer
    rw [herror]
    exact .misreads _ why
  · rw [answer_of_ok hok]
    cases choice with
    | none => exact .offers _
    | some i => exact hnext i ((hchooses i).mp rfl).1

/-- The program after a typed line, for which it may send so many packets. -/
def feedWithin (m : Menu) (budget : Nat) (line : String) : Menu :=
  let fresh := { m with net := { m.net with budget } }
  match m.stage with
  | .asking .option => fresh.choose line
  | .asking .status => fresh.answer m.session.statusNames line setStatus
  | .asking .team => fresh.answer m.session.teamNames line setTeam
  | .ended _ => m

theorem feedWithin_stepBudget (line : String) : m.feedWithin stepBudget line = m.feed line := rfl

/-- **A line that answers a question leads to one of its turns.** -/
theorem feedWithin_turn {q : Question} (h : m.stage = .asking q) (budget : Nat) (line : String) :
    Turn { m with net := { m.net with budget } } q (m.feedWithin budget line) := by
  unfold feedWithin
  rw [h]
  cases q with
  | option => exact choose_turn _ line
  | status => exact answer_turn _ fun i hi => setStatus_turn _ hi
  | team => exact answer_turn _ fun i hi => setTeam_turn _ hi

/-- The program after some typed lines, each with the number of packets that it may send. -/
def after (lines : List (String × Nat)) : Menu := lines.foldl (fun m l => m.feedWithin l.2 l.1) m

theorem after_concat (lines : List (String × Nat)) (line : String) (budget : Nat) :
    m.after (lines ++ [(line, budget)]) = (m.after lines).feedWithin budget line := by
  unfold after
  rw [List.foldl_append]
  rfl

theorem run_eq_after (env : Environment) (net : Net) (lines : List String) :
    run env net lines = ((start env net).after (lines.map fun l => (l, stepBudget))).finish := by
  unfold run after
  rw [List.foldl_map]
  rfl

variable {m}

theorem after_induction {P : Menu → Prop} (lines : List (String × Nat))
    (hturn : ∀ {m m' : Menu} {q : Question} (budget : Nat), m.stage = .asking q → P m →
      Turn { m with net := { m.net with budget } } q m' → P m') (h : P m) :
    P (m.after lines) := by
  induction lines generalizing m with
  | nil => exact h
  | cons l rest ih =>
    apply ih
    cases hstage : m.stage with
    | asking q => exact hturn l.2 hstage h (m.feedWithin_turn hstage l.2 l.1)
    | ended e =>
      have hsame : m.feedWithin l.2 l.1 = m := by
        unfold feedWithin
        rw [hstage]
      show P (m.feedWithin l.2 l.1)
      rwa [hsame]

/-! ### What comes before the first line -/

/-- The program as it is when it begins to talk to the server. -/
def opened (c : ClientSettings) (net : Net) : Menu :=
  let session := Session.ofSettings c
  { session, net := { net with link := net.link.reopen session.manner.timeout }
    records := record .info ("Attempting to connect to server at " ++ c.host ++ ":" ++
      toString c.port) :: session.openRecords }

/-- The program that ends because its settings are refused. -/
def refused (f : Fault) (net : Net) : Menu := {
  session := { manner := ⟨Binary64.one, none⟩ }, net, stage := .ended (.exited 1)
  records := refusedSettingsRecords record f }

theorem start_cases (env : Environment) (net : Net) :
    (∃ c, ClientSettings.load env = .ok c ∧ start env net = connect c net) ∨
      ∃ f, ClientSettings.load env = .error f ∧ start env net = refused f net := by
  unfold start
  cases ClientSettings.load env with
  | ok c => exact Or.inl ⟨c, rfl, rfl⟩
  | error f => exact Or.inr ⟨f, rfl, rfl⟩

theorem describe_cases (m : Menu) :
    ∃ acted, (∃ answer text, m.Acts .fetchDescription (.ok answer) acted ∧
        m.describe = (acted.tell [record .info text]).offer) ∨
      ∃ f, m.Acts .fetchDescription (.error f) acted ∧ m.describe = acted.fail f := by
  obtain ⟨acted, ⟨_, hacts, heq⟩ | ⟨f, hacts, heq⟩⟩ :=
    m.perform_cases .fetchDescription (fun _ _ => rfl) (orFail fun m _ => m.begin)
  · exact ⟨acted, Or.inl ⟨_, _, hacts, heq⟩⟩
  · exact ⟨acted, Or.inr ⟨f, hacts, heq⟩⟩

theorem register_cases (m : Menu) (name : String) :
    ∃ acted, (∃ id, m.Acts (.register name) (.ok (.networkId id)) acted ∧
        m.register name = acted.describe) ∨
      ∃ f, m.Acts (.register name) (.error f) acted ∧ m.register name = acted.fail f := by
  have hsource : ∀ told ∈ m.session.registerRecords name (m.session.register name m.net),
      told.source = "client.session" := by
    intro told htold
    rcases List.mem_append.mp htold with htold | htold
    · exact source_of_runRecords told htold
    · split at htold
      · rw [List.mem_singleton.mp htold]
        rfl
      · cases htold
  have hacts : m.Acts (.register name) _ _ := acts_took rfl hsource
  have hregister : m.register name = orFail (fun m _ => m.describe) (m.took
      (m.session.register name m.net)
      (m.session.registerRecords name (m.session.register name m.net)))
      (m.session.register name m.net).result := rfl
  rw [hregister]
  cases hresult : (m.session.register name m.net).result with
  | ok id =>
    rw [hresult] at hacts
    exact ⟨_, Or.inl ⟨id, hacts, rfl⟩⟩
  | error f =>
    rw [hresult] at hacts
    exact ⟨_, Or.inr ⟨f, hacts, rfl⟩⟩

theorem connect_eq (c : ClientSettings) (net : Net) :
    connect c net =
      if (Session.ofSettings c).isRegistered then
        { opened c net with session :=
          { Session.ofSettings c with displayName := some c.displayName } }.describe
      else (opened c net).register c.displayName := rfl

end Menu

end TeamPresence
