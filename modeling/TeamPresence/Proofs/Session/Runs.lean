import TeamPresence.Proofs.Session.Operations
import TeamPresence.Session.World

/-!
# Runs of many clients

Any number of clients act one at a time, each over a network of its own that may lose or repeat
datagrams but delays none. `Reachable` holds of every world that can come of that.

**`Reachable.upheld`**: what the next action returns is true of the server (`Upheld`). A network ID
is that of a user with the name, an update is on record, a refusal changed nothing, and the members
and names are those of the directory.

Every step keeps a world `Calm`: the service is sound, and all that was sent to a client has
arrived. So a client discards what earlier actions left over before it asks for anything.
-/

namespace TeamPresence

variable {a : Address} {start : Rat} {net : Net}

/-! ### What an action returns -/

def Action.registers : Action → Option String
  | register name | registerOnce name => some name
  | _ => none

/-- The team and status that an action of a session asks the server to record. -/
def Action.pushes (s : Session) : Action → Option (Int × Int)
  | updateStatus status _ => some (s.team, status)
  | changeTeam team _ => some (team, s.status)
  | leave => some (noTeam, noStatus)
  | _ => none

theorem Action.run_of_pushes {s : Session} {action : Action} {team status : Int}
    (h : action.pushes s = some (team, status)) (net : Net) :
    ∃ giveUp, action.run s net = (s.push team status giveUp net).map fun _ => .done := by
  cases action <;> cases h
  case updateStatus giveUp => exact ⟨giveUp, rfl⟩
  case changeTeam giveUp => exact ⟨giveUp, rfl⟩
  case leave => exact ⟨false, rfl⟩

/-- Whether what an action of a session returned is true of the service before and after it. -/
structure Upheld (s : Session) (action : Action) (result : Except Fault Answer)
    (before after : Service) : Prop where
  registered : ∀ {name : String} {n : Int}, action.registers = some name →
    result = .ok (.networkId n) →
    ∃ u, after.directory.user? n = some u ∧ u.name = trimNulls name
  pushed : ∀ {team status : Int}, action.pushes s = some (team, status) →
    result = .ok .done → after.Records s.networkId team status
  rejected : ∀ {team status : Int} {text : String}, action.pushes s = some (team, status) →
    result = .error (.rejected text) → after = before
  /-- The members are those in the taken slots, in order. -/
  shown : ∀ {team : Option Int} {members : List (String × UInt8)}, action = .teamStatus team →
    result = .ok (.members members) →
    ∃ t, after.directory.teams[(team.getD s.team).toNat]? = some t ∧
      members.map (fun m => (m.1, (m.2.toNat : Int))) =
        (after.directory.rosterView t).members.map fun u => (u.name, u.status)
  described : ∀ {teams statuses : List String}, action = .fetchDescription →
    result = .ok (.names teams statuses) →
    teams = after.directory.teamNames ∧ statuses = after.directory.statuses

/-! ### Calm clients -/

/-- A client's end of a calm network with a sound service. -/
def Net.Served (a : Address) (start : Rat) (n : Net) : Prop :=
  n.Calm a start ∧ ∃ s, n.service = some s ∧ s.Sound

namespace Net.Served

theorem reopen (h : net.Served a start) (timeout : Binary64) :
    { net with link := net.link.reopen timeout }.Served a start :=
  ⟨⟨h.1.address, h.1.since, h.1.rounded, Transit.arrived_empty _ _, h.1.script⟩, h.2⟩

theorem close (h : net.Served a start) : { net with link := net.link.close }.Served a start :=
  ⟨⟨h.1.address, h.1.since, h.1.rounded, fun _ hb => absurd hb List.not_mem_nil, h.1.script⟩, h.2⟩

theorem request (h : net.Served a start) (s : Session) (ask : Ask) :
    (s.request ask net).net.Served a start :=
  let ⟨hcalm, _, hservice, hs⟩ := h
  s.request_calm ask hcalm hservice hs

theorem run (h : net.Served a start) (s : Session) {action : Action}
    (hgenuine : ∀ data, action ≠ .takeIn data) : (action.run s net).net.Served a start :=
  Action.run_keeps (P := fun _ n => n.Served a start) h (fun ask _ h => h.request s ask)
    (fun _ h => h.reopen _) (fun _ _ h => h.close) fun data htakes => absurd htakes (hgenuine data)

theorem upholds (h : net.Served a start) (s : Session) (action : Action) {before after : Service}
    (hbefore : net.service = some before) (hafter : (action.run s net).net.service = some after) :
    Upheld s action (action.run s net).result before after := by
  obtain ⟨hcalm, sv, hsv, hs⟩ := h
  obtain rfl := Option.some.inj (hbefore.symm.trans hsv)
  constructor
  case registered =>
    intro name n hregisters hok
    cases action <;> cases hregisters
    case register =>
      obtain ⟨x, hx, hn⟩ := Run.map_eq_ok hok
      cases hn
      obtain ⟨sv', hsv', hnamed⟩ := s.register_named hs hcalm hbefore hx
      obtain rfl := Option.some.inj (hafter.symm.trans hsv')
      exact hnamed
    case registerOnce =>
      obtain ⟨x, hx, hn⟩ := Run.map_eq_ok hok
      cases hn
      obtain ⟨hreopened, -⟩ := reopen ⟨hcalm, before, hbefore, hs⟩ s.manner.timeout
      obtain ⟨sv', hsv', hnamed⟩ := s.register_named hs hreopened hbefore hx
      obtain rfl := Option.some.inj (hafter.symm.trans hsv')
      exact hnamed
  case pushed =>
    intro team status hpushes hok
    obtain ⟨giveUp, hrun⟩ := Action.run_of_pushes hpushes net
    rw [hrun] at hok hafter
    obtain ⟨⟨⟩, hx, -⟩ := Run.map_eq_ok hok
    obtain ⟨sv', hsv', hrecords⟩ := s.records_of_push hs hcalm hbefore hx
    obtain rfl := Option.some.inj (hafter.symm.trans hsv')
    exact hrecords
  case rejected =>
    intro team status text hpushes hfailed
    obtain ⟨giveUp, hrun⟩ := Action.run_of_pushes hpushes net
    rw [hrun] at hfailed hafter
    have hsv' := s.service_of_push_rejected hs hcalm hbefore (Run.map_eq_error hfailed)
    exact Option.some.inj (hafter.symm.trans hsv')
  case shown =>
    rintro team members rfl hok
    obtain ⟨x, hx, hmembers⟩ := Run.map_eq_ok hok
    cases hmembers
    obtain ⟨hsv', hshown⟩ := s.members_of_teamStatus hs hcalm hbefore hx
    obtain rfl := Option.some.inj (hafter.symm.trans hsv')
    exact hshown
  case described =>
    rintro teams statuses rfl hok
    obtain ⟨x, hx, hnames⟩ := Run.map_eq_ok hok
    cases hnames
    obtain ⟨hsv', hdescribed⟩ := s.names_of_fetchDescription hs hcalm hbefore hx
    obtain rfl := Option.some.inj (hafter.symm.trans hsv')
    exact hdescribed

end Net.Served

/-! ### Worlds -/

namespace World

/-- Lets a client act that may send so many packets. -/
def actWithin (w : World) (i : Nat) (action : Action) (budget : Nat) :
    Option (Run Answer × World) :=
  w.clients[i]?.map fun c =>
    let r := action.run c.session { w.net c with budget }
    (r, w.settle i r)

theorem actWithin_stepBudget (w : World) (i : Nat) (action : Action) :
    w.actWithin i action stepBudget = w.act i action := rfl

/-- The world after some actions, one at a time. -/
def after (w : World) (actions : List (Nat × Action)) : World :=
  actions.foldl (fun w p => ((w.act p.1 p.2).map Prod.snd).getD w) w

/-- The worlds that come of a service that is hosted for some clients. -/
inductive Reachable (teams statuses : List String) (size limit : Int) (dedupe : Bool)
    (memory : Int) : World → Prop
  /-- Nothing is under way to a client at first. -/
  | hosted {s : Service} (h : Service.host teams statuses size limit dedupe memory = .ok s)
      {clients : List Client}
      (hclients : ∀ c ∈ clients,
        c.link.transit = .ordered [] ∧ ∀ f ∈ c.link.script, f.IsPrompt) :
      Reachable teams statuses size limit dedupe memory { service := some s, clients }
  | acted {w w' : World} (h : Reachable teams statuses size limit dedupe memory w) {i : Nat}
      {action : Action} (hgenuine : ∀ data, action ≠ .takeIn data) {budget : Nat}
      {run : Run Answer} (hact : w.actWithin i action budget = some (run, w')) :
      Reachable teams statuses size limit dedupe memory w'
  | slept {w : World} (h : Reachable teams statuses size limit dedupe memory w) {seconds : Rat}
      (hle : w.now ≤ (w.sleep seconds).now) :
      Reachable teams statuses size limit dedupe memory (w.sleep seconds)
  /-- Somebody else sends a datagram. -/
  | delivered {w : World} (h : Reachable teams statuses size limit dedupe memory w) (data : Bytes)
      (sender : Address) :
      Reachable teams statuses size limit dedupe memory (w.deliver data sender).2

/-- A sound service, and clients to whom all that was sent has arrived. -/
structure Calm (w : World) : Prop where
  service : ∃ s, w.service = some s ∧ s.Sound
  rounded : Binary64.nearest w.now = w.now
  clients : ∀ c ∈ w.clients,
    c.link.transit.Arrived w.now ∧ ∀ f ∈ c.link.script, f.IsPrompt

namespace Calm

variable {w w' : World} {i budget : Nat} {action : Action} {run : Run Answer} {c : Client}

theorem served (h : w.Calm) (hc : c ∈ w.clients) (budget : Nat) :
    { w.net c with budget }.Served c.link.address w.now :=
  ⟨⟨rfl, le_rfl, h.rounded, (h.clients c hc).1, (h.clients c hc).2⟩, h.service⟩

theorem acted (h : w.Calm) (hgenuine : ∀ data, action ≠ .takeIn data)
    (hact : w.actWithin i action budget = some (run, w')) : w'.Calm := by
  obtain ⟨c, hc, he⟩ := Option.map_eq_some_iff.mp hact
  cases he
  obtain ⟨hcalm, hservice⟩ :=
    (h.served (List.mem_of_getElem? hc) budget).run c.session hgenuine
  refine ⟨hservice, hcalm.rounded, fun d hd => ?_⟩
  rcases List.mem_or_eq_of_mem_set hd with hd | rfl
  · exact ⟨(h.clients d hd).1.mono hcalm.since, (h.clients d hd).2⟩
  · exact ⟨hcalm.arrived, hcalm.script⟩

theorem slept (h : w.Calm) {seconds : Rat} (hle : w.now ≤ (w.sleep seconds).now) :
    (w.sleep seconds).Calm :=
  ⟨h.service, Binary64.nearest_nearest _,
    fun c hc => ⟨(h.clients c hc).1.mono hle, (h.clients c hc).2⟩⟩

theorem delivered (h : w.Calm) (data : Bytes) (sender : Address) :
    (w.deliver data sender).2.Calm := by
  obtain ⟨s, hservice, hs⟩ := h.service
  rw [deliver, hservice]
  exact ⟨⟨_, rfl, (s.handle_effect data (some sender)).sound hs⟩, h.rounded, h.clients⟩

end Calm

namespace Reachable

variable {teams statuses : List String} {size limit memory : Int} {dedupe : Bool} {w w' : World}

theorem calm (h : Reachable teams statuses size limit dedupe memory w) : w.Calm := by
  induction h with
  | hosted h hclients =>
    refine ⟨⟨_, rfl, (Service.Reachable.hosted h).sound⟩, Binary64.nearest_zero, fun c hc => ?_⟩
    obtain ⟨hnothing, hscript⟩ := hclients c hc
    rw [hnothing]
    exact ⟨fun b hb => absurd hb List.not_mem_nil, hscript⟩
  | acted _ hgenuine hact ih => exact ih.acted hgenuine hact
  | slept _ hle ih => exact ih.slept hle
  | delivered _ data sender ih => exact ih.delivered data sender

theorem after (h : Reachable teams statuses size limit dedupe memory w)
    {actions : List (Nat × Action)}
    (hgenuine : ∀ p ∈ actions, ∀ data, p.2 ≠ .takeIn data) :
    Reachable teams statuses size limit dedupe memory (w.after actions) := by
  induction actions generalizing w with
  | nil => exact h
  | cons p rest ih =>
    rw [World.after, List.foldl_cons]
    have hrest := fun q hq => hgenuine q (List.mem_cons_of_mem _ hq)
    cases hact : w.act p.1 p.2 with
    | none => exact ih h hrest
    | some acted =>
      exact ih (h.acted (hgenuine p List.mem_cons_self) ((actWithin_stepBudget w _ _).trans hact))
        hrest

/-- **In every run, what an action of a client returns is true of the server.** -/
theorem upheld (h : Reachable teams statuses size limit dedupe memory w) {i : Nat} {c : Client}
    (hc : w.clients[i]? = some c) {action : Action} (hgenuine : ∀ data, action ≠ .takeIn data)
    (budget : Nat) :
    ∃ (run : Run Answer) (w' : World) (before after : Service),
      w.actWithin i action budget = some (run, w') ∧ w.service = some before ∧
        w'.service = some after ∧ Upheld c.session action run.result before after := by
  have hserved := h.calm.served (List.mem_of_getElem? hc) budget
  obtain ⟨before, hbefore, -⟩ := h.calm.service
  obtain ⟨-, after, hafter, -⟩ := hserved.run c.session hgenuine
  let run := action.run c.session { w.net c with budget }
  refine ⟨run, w.settle i run, before, after, ?_, hbefore, hafter,
    hserved.upholds c.session action hbefore hafter⟩
  rw [actWithin, hc, Option.map_some]

end Reachable

/-- Two clients ask for the only slot of team 0, and the second does not get it. On the way packets
and replies are lost, one is handled twice, and sending fails once. -/
def crowded (s : Service) : World := {
  service := some s
  clients := [{
    session := { manner := ⟨.one, none⟩ }
    link := {
      address := ⟨"127.0.0.1", 40000⟩
      script := [{ events := [] }, { events := [.handled (some 0), .handled (some 0)] },
        { events := [.handled none] }] } }, {
    session := { manner := ⟨.one, none⟩ }
    link := {
      address := ⟨"127.0.0.1", 40001⟩
      script := [{ failure := some "[Errno 101] Network is unreachable", events := [] }] } }] }

/-- What they do before the second client asks. -/
def crowding : List (Nat × Action) :=
  [(0, .openEndpoint), (1, .openEndpoint), (0, .register "Ann"), (1, .register "Bob"),
    (0, .changeTeam 0 false)]

theorem upheld_crowding :
    ∃ (w w' : World) (run : Run Answer) (s s' : Service) (text : String),
      Reachable ["Red"] ["Busy"] 1 100 true 4 w ∧
        w.actWithin 1 (.changeTeam 0 true) stepBudget = some (run, w') ∧
        run.result = .error (.rejected text) ∧ w.service = some s ∧ w'.service = some s' ∧
        s' = s := by
  obtain ⟨s, h⟩ : ∃ s, Service.host ["Red"] ["Busy"] 1 100 true 4 = .ok s := ⟨_, rfl⟩
  have hrun : ∀ s ∈ (Service.host ["Red"] ["Busy"] 1 100 true 4).toOption,
      ∃ c ∈ ((crowded s).after crowding).clients[1]?,
      ∃ acted ∈ ((crowded s).after crowding).actWithin 1 (.changeTeam 0 true) stepBudget,
        acted.1.result = .error (.rejected "Team 0 is full") := by
    decide +kernel
  obtain ⟨c, hc, acted, hact, hresult⟩ := hrun s (by rw [h]; rfl)
  have hreach : Reachable ["Red"] ["Busy"] 1 100 true 4 ((crowded s).after crowding) :=
    (Reachable.hosted h (by simp [Fate.IsPrompt, Event.IsPrompt])).after (by simp [crowding])
  have hgenuine : ∀ data, Action.changeTeam 0 true ≠ .takeIn data := by simp
  obtain ⟨run, w', before, after, hact', hbefore, hafter, hupheld⟩ :=
    hreach.upheld hc hgenuine stepBudget
  obtain rfl := Option.some.inj (hact.symm.trans hact')
  exact ⟨_, w', run, before, after, _, hreach, hact, hresult, hbefore, hafter,
    hupheld.rejected rfl hresult⟩

end World

end TeamPresence
