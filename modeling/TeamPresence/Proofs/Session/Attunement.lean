import TeamPresence.Proofs.Session.Accounts

/-!
# What an update leaves as it was

An update tells the server a team and a status. The one that is not to be changed is filled in with
the session's own value, which need not be the one on record: a session starts on no team and with
no status, whatever network ID it resumes, and it keeps its values when it takes on another ID.

**`Tenure.keeps_iff`** is for a session on a network that loses nothing, while nobody else updates
the user of its network ID. An update of the status that returns leaves the recorded team as it was
exactly if an update has returned since the session came to hold the ID, or its team was the one on
record then; and likewise for the status when the team is changed. So a session that registers a new
user changes nothing unasked (`Tenure.keeps_of_new`), but one that resumes an ID may
(`Tenure.resumed_status_lost`).

The proof follows the values of the session and those on record through all that may happen
(`Attuned`): they differ only until an update returns.
-/

namespace TeamPresence

/-- What may happen while a session holds a network ID, or as it comes to hold it: the client acts,
others send datagrams that are no updates for the ID, and time passes. It is told along the way
whether an update has returned. -/
inductive Tenure (id : Nat) (s₀ : Session) (n₀ : Net) : Bool → Session → Net → Prop
  | start : Tenure id s₀ n₀ false s₀ n₀
  | acted {updated : Bool} {s : Session} {n : Net} (h : Tenure id s₀ n₀ updated s n)
      {action : Action} (hown : action.IsOwn)
      (hid : (action.run s n).session.networkId = id) :
      Tenure id s₀ n₀ (updated || action.updates s n) (action.run s n).session (action.run s n).net
  | delivered {updated : Bool} {s : Session} {n : Net} (h : Tenure id s₀ n₀ updated s n)
      {data : Bytes} (hforeign : ¬ Service.IsUpdateFor id data) (sender : Address) :
      Tenure id s₀ n₀ updated s (n.serve data sender).2
  | slept {updated : Bool} {s : Session} {n : Net} (h : Tenure id s₀ n₀ updated s n)
      (seconds : Rat) :
      Tenure id s₀ n₀ updated s { n with now := Clock.after seconds n.now }
  /-- The client may send so many packets from now on. -/
  | allowed {updated : Bool} {s : Session} {n : Net} (h : Tenure id s₀ n₀ updated s n)
      (budget : Nat) :
      Tenure id s₀ n₀ updated s { n with budget }

/-- What is on record for a session in the course of a tenure: its own values once an update has
returned, and until then what was on record at first, while its own values are what they were. -/
structure Attuned (id : Nat) (s₀ : Session) (first : Int × Int) (updated : Bool) (s : Session)
    (n : Net) : Prop where
  manner : s.manner = s₀.manner
  lossless : n.Lossless id s₀.manner.timeout.patience
  served : ∃ sv, n.service = some sv ∧ sv.Sound ∧
    if updated then s₀.manner.timeout.patience ≠ .none ∧ sv.standing id = s.values
    else s₀.manner.timeout.patience ≠ .none → sv.standing id = first ∧ s.values = s₀.values

namespace Attuned

variable {id : Nat} {s₀ s : Session} {first : Int × Int} {updated : Bool} {n : Net}

theorem acted (h : Attuned id s₀ first updated s n) {action : Action} (hown : action.IsOwn)
    (hid : (action.run s n).session.networkId = id) :
    Attuned id s₀ first (updated || action.updates s n) (action.run s n).session
      (action.run s n).net := by
  obtain ⟨sv, hservice, hs, hknown⟩ := h.served
  have hlossless := h.lossless
  rw [← h.manner] at hlossless
  obtain ⟨hmanner, hafter, sv', hsv', hs', hdone⟩ :=
    Action.run_accounts hown hid hlossless hservice hs
  rw [h.manner] at hmanner hafter hdone
  refine ⟨hmanner, hafter, sv', hsv', hs', ?_⟩
  cases hupdates : action.updates s n with
  | true =>
    rw [hupdates] at hdone
    rw [Bool.or_true]
    exact hdone
  | false =>
    rw [hupdates] at hdone
    rw [Bool.or_false]
    cases updated with
    | true =>
      obtain ⟨hwaits, hsame⟩ := hknown
      obtain ⟨hrecord, hvalues⟩ := hdone hwaits
      exact ⟨hwaits, by rw [hrecord, hsame, hvalues]⟩
    | false =>
      intro hwaits
      obtain ⟨hrecord, hvalues⟩ := hdone hwaits
      obtain ⟨hfirst, hstart⟩ := hknown hwaits
      exact ⟨hrecord.trans hfirst, hvalues.trans hstart⟩

theorem delivered (h : Attuned id s₀ first updated s n) {data : Bytes}
    (hforeign : ¬ Service.IsUpdateFor id data) (sender : Address) :
    Attuned id s₀ first updated s (n.serve data sender).2 := by
  obtain ⟨sv, hservice, hs, hknown⟩ := h.served
  have hrecord : (sv.respond data sender).2.standing id = sv.standing id :=
    Service.standing_handle hs fun hupdate => absurd hupdate hforeign
  rw [Net.serve_eq hservice]
  refine ⟨h.manner, ⟨h.lossless.rounded, h.lossless.rests, h.lossless.script⟩, _, rfl,
    (sv.handle_effect data (some sender)).sound hs, ?_⟩
  rw [hrecord]
  exact hknown

theorem slept (h : Attuned id s₀ first updated s n) (seconds : Rat) :
    Attuned id s₀ first updated s { n with now := Clock.after seconds n.now } :=
  ⟨h.manner, ⟨Binary64.nearest_nearest _, h.lossless.rests, h.lossless.script⟩, h.served⟩

theorem allowed (h : Attuned id s₀ first updated s n) (budget : Nat) :
    Attuned id s₀ first updated s { n with budget } :=
  ⟨h.manner, ⟨h.lossless.rounded, h.lossless.rests, h.lossless.script⟩, h.served⟩

theorem push (h : Attuned id s₀ first updated s n) (hid : s.networkId = id) {team status : Int}
    {giveUp : Bool} (hok : (s.push team status giveUp n).result = .ok ()) :
    ∃ sv sv', n.service = some sv ∧ (s.push team status giveUp n).net.service = some sv' ∧
      sv'.standing id = (team, status) ∧
      if updated then sv.standing id = s.values
      else sv.standing id = first ∧ s.values = s₀.values := by
  obtain ⟨sv, hservice, hs, hknown⟩ := h.served
  have hlossless := h.lossless
  rw [← h.manner] at hlossless
  obtain ⟨-, -, sv', hsv', -, hdone⟩ :=
    Session.push_accounts hid hlossless hservice hs team status giveUp
  rw [hok, h.manner] at hdone
  obtain ⟨hwaits, hrecord⟩ := hdone
  refine ⟨sv, sv', hservice, hsv', hrecord.trans (Session.push_values hok), ?_⟩
  cases updated with
  | true => exact hknown.2
  | false => exact hknown hwaits

theorem updateStatus (h : Attuned id s₀ first updated s n) (hid : s.networkId = id) {status : Int}
    {giveUp : Bool} (hok : (s.updateStatus status giveUp n).result = .ok ()) :
    ∃ sv sv', n.service = some sv ∧ (s.updateStatus status giveUp n).net.service = some sv' ∧
      (sv'.standing id).2 = status ∧
      ((sv'.standing id).1 = (sv.standing id).1 ↔ updated = true ∨ first.1 = s₀.team) := by
  obtain ⟨sv, sv', hsv, hsv', hasked, hknown⟩ := h.push hid hok
  refine ⟨sv, sv', hsv, hsv', by rw [hasked], ?_⟩
  cases updated with
  | true =>
    have hteam : (sv.standing id).1 = s.team := congrArg Prod.fst hknown
    simp [hasked, hteam]
  | false =>
    obtain ⟨hfirst, hvalues⟩ := hknown
    have hteam : s.team = s₀.team := congrArg Prod.fst hvalues
    simp [hasked, hfirst, hteam, eq_comm]

theorem changeTeam (h : Attuned id s₀ first updated s n) (hid : s.networkId = id) {team : Int}
    {giveUp : Bool} (hok : (s.changeTeam team giveUp n).result = .ok ()) :
    ∃ sv sv', n.service = some sv ∧ (s.changeTeam team giveUp n).net.service = some sv' ∧
      (sv'.standing id).1 = team ∧
      ((sv'.standing id).2 = (sv.standing id).2 ↔ updated = true ∨ first.2 = s₀.status) := by
  obtain ⟨sv, sv', hsv, hsv', hasked, hknown⟩ := h.push hid hok
  refine ⟨sv, sv', hsv, hsv', by rw [hasked], ?_⟩
  cases updated with
  | true =>
    have hstatus : (sv.standing id).2 = s.status := congrArg Prod.snd hknown
    simp [hasked, hstatus]
  | false =>
    obtain ⟨hfirst, hvalues⟩ := hknown
    have hstatus : s.status = s₀.status := congrArg Prod.snd hvalues
    simp [hasked, hfirst, hstatus, eq_comm]

end Attuned

namespace Tenure

section Keeps

variable {teams statuses : List String} {size limit memory : Int} {dedupe : Bool} {id : Nat}
  {sv₀ : Service} {s₀ s : Session} {n₀ n : Net} {updated : Bool}
  (hreach : Service.Reachable teams statuses size limit dedupe memory sv₀)
  (hservice : n₀.service = some sv₀) (hlossless : n₀.Lossless id s₀.manner.timeout.patience)
  (h : Tenure id s₀ n₀ updated s n)

include hreach hservice hlossless h

theorem attuned : Attuned id s₀ (sv₀.standing id) updated s n := by
  induction h with
  | start => exact ⟨rfl, hlossless, sv₀, hservice, hreach.sound, fun _ => ⟨rfl, rfl⟩⟩
  | acted _ hown hid ih => exact ih.acted hown hid
  | delivered _ hforeign sender ih => exact ih.delivered hforeign sender
  | slept _ seconds ih => exact ih.slept seconds
  | allowed _ budget ih => exact ih.allowed budget

/-- **When an update leaves alone what it is not about.** Let a session hold a network ID on a
network that loses nothing, while nobody else updates that user. An update of the status that
returns leaves the recorded team as it was exactly if an update has returned before, or the
session's team was the one on record when it came to hold the ID. A change of the team that returns
leaves the recorded status as it was exactly if an update has returned before, or the session's
status was the one on record then. -/
theorem keeps_iff (hid : s.networkId = id) :
    (∀ status giveUp, (s.updateStatus status giveUp n).result = .ok () →
      ∃ sv sv', n.service = some sv ∧
        (s.updateStatus status giveUp n).net.service = some sv' ∧
        (sv'.standing id).2 = status ∧
        ((sv'.standing id).1 = (sv.standing id).1 ↔
          updated = true ∨ (sv₀.standing id).1 = s₀.team)) ∧
    ∀ team giveUp, (s.changeTeam team giveUp n).result = .ok () →
      ∃ sv sv', n.service = some sv ∧
        (s.changeTeam team giveUp n).net.service = some sv' ∧
        (sv'.standing id).1 = team ∧
        ((sv'.standing id).2 = (sv.standing id).2 ↔
          updated = true ∨ (sv₀.standing id).2 = s₀.status) := by
  have hattuned := h.attuned hreach hservice hlossless
  constructor
  · intro status giveUp hok
    exact hattuned.updateStatus hid hok
  · intro team giveUp hok
    exact hattuned.changeTeam hid hok

/-- A session that registers a new user changes nothing unasked, until it takes on another
ID. -/
theorem keeps_of_new (hnew : sv₀.directory.users.size ≤ id)
    (hvalues : s₀.values = (noTeam, noStatus)) (hid : s.networkId = id) :
    (∀ status giveUp, (s.updateStatus status giveUp n).result = .ok () →
      ∃ sv sv', n.service = some sv ∧
        (s.updateStatus status giveUp n).net.service = some sv' ∧
        (sv'.standing id).1 = (sv.standing id).1) ∧
    ∀ team giveUp, (s.changeTeam team giveUp n).result = .ok () →
      ∃ sv sv', n.service = some sv ∧
        (s.changeTeam team giveUp n).net.service = some sv' ∧
        (sv'.standing id).2 = (sv.standing id).2 := by
  have hattuned := h.attuned hreach hservice hlossless
  have hfirst : sv₀.standing id = s₀.values := by
    rw [hvalues]
    exact Service.standing_of_none (Array.getElem?_eq_none hnew)
  constructor
  · intro status giveUp hok
    obtain ⟨sv, sv', hsv, hsv', -, hkept⟩ := hattuned.updateStatus hid hok
    exact ⟨sv, sv', hsv, hsv', hkept.mpr (Or.inr (congrArg Prod.fst hfirst))⟩
  · intro team giveUp hok
    obtain ⟨sv, sv', hsv, hsv', -, hkept⟩ := hattuned.changeTeam hid hok
    exact ⟨sv, sv', hsv, hsv', hkept.mpr (Or.inr (congrArg Prod.snd hfirst))⟩

end Keeps

/-! ### Resumed network IDs -/

/-- A session that resumes the network ID 0. -/
def resumed : Session := .ofSettings { displayName := "A", networkId := some 0 }

/-- A network that loses nothing, and an endpoint that is not open yet. -/
def quietNet (sv : Service) : Net :=
  { service := some sv, link := { address := ⟨"127.0.0.1", 40000⟩, script := [] } }

/-- The user 0 registers, and takes on the status 1. -/
def busy : List Service.Datagram :=
  [⟨[1, 0xff, 0xff, 0xff, 0xff, 0xff, 0x41], none⟩, ⟨[2, 0, 0, 0, 0xff, 1, 0x26], none⟩]

theorem lossless_quietNet (id : Int) (p : Patience) (sv : Service) : (quietNet sv).Lossless id p :=
  ⟨Binary64.nearest_zero, Transit.rests_nil p, by simp [quietNet]⟩

/-- The session opens its endpoint. -/
def opened (sv : Service) : Run Answer := Action.openEndpoint.run resumed (quietNet sv)

/-- It updates its status then. -/
def settled (sv : Service) : Run Answer :=
  (Action.updateStatus 1 false).run (opened sv).session (opened sv).net

/-- Once it has updated its status, the session keeps it when it changes the team. -/
theorem keeps_iff_settled :
    ∃ sv₀ sv sv', Service.Reachable ["Red"] ["Busy", "Free"] 1 100 true 4 sv₀ ∧
      Tenure 0 resumed (quietNet sv₀) true (settled sv₀).session (settled sv₀).net ∧
      (settled sv₀).net.service = some sv ∧
      ((settled sv₀).session.changeTeam 0 false (settled sv₀).net).net.service = some sv' ∧
      (sv'.standing 0).1 = 0 ∧ (sv'.standing 0).2 = (sv.standing 0).2 := by
  obtain ⟨sv, h⟩ : ∃ sv, Service.host ["Red"] ["Busy", "Free"] 1 100 true 4 = .ok sv := ⟨_, rfl⟩
  have hrun : ∀ sv ∈ (Service.host ["Red"] ["Busy", "Free"] 1 100 true 4).toOption,
      (opened (sv.after busy)).session.networkId = 0 ∧
      (settled (sv.after busy)).session.networkId = 0 ∧
      (Action.updateStatus 1 false).updates (opened (sv.after busy)).session
        (opened (sv.after busy)).net = true ∧
      ((settled (sv.after busy)).session.changeTeam 0 false (settled (sv.after busy)).net).result =
        .ok () := by
    decide +kernel
  obtain ⟨hopened, hsettled, hupdated, hok⟩ := hrun sv (by rw [h]; rfl)
  have hreach := (Service.Reachable.hosted h).after busy
  have hstart : Tenure 0 resumed (quietNet (sv.after busy)) false resumed
      (quietNet (sv.after busy)) := .start
  have hfirst : Tenure 0 resumed (quietNet (sv.after busy)) false (opened (sv.after busy)).session
      (opened (sv.after busy)).net := by
    have hown : Action.openEndpoint.IsOwn := trivial
    exact hstart.acted hown hopened
  have htenure : Tenure 0 resumed (quietNet (sv.after busy)) true (settled (sv.after busy)).session
      (settled (sv.after busy)).net := by
    have hown : (Action.updateStatus 1 false).IsOwn := trivial
    have hacted := hfirst.acted hown hsettled
    rw [hupdated] at hacted
    exact hacted
  obtain ⟨sv₁, sv₂, hbefore, hafter, hteam, hkept⟩ := (htenure.keeps_iff hreach rfl
    (lossless_quietNet _ _ _) hsettled).2 0 false hok
  exact ⟨_, sv₁, sv₂, hreach, htenure, hbefore, hafter, hteam, hkept.mpr (Or.inl rfl)⟩

/-- A session that resumes a network ID loses the status on record when it changes the team. -/
theorem resumed_status_lost :
    ∃ sv, Service.Reachable ["Red"] ["Busy", "Free"] 1 100 true 4 sv ∧
      (quietNet sv).Lossless 0 resumed.manner.timeout.patience ∧
      ((opened sv).session.changeTeam 0 false (opened sv).net).result = .ok () ∧
      sv.Records 0 noTeam 1 ∧
      ∃ sv' ∈ ((opened sv).session.changeTeam 0 false (opened sv).net).net.service,
        sv'.Records 0 0 noStatus := by
  obtain ⟨sv, h⟩ : ∃ sv, Service.host ["Red"] ["Busy", "Free"] 1 100 true 4 = .ok sv := ⟨_, rfl⟩
  have hrun : ∀ sv ∈ (Service.host ["Red"] ["Busy", "Free"] 1 100 true 4).toOption,
      ((opened (sv.after busy)).session.changeTeam 0 false (opened (sv.after busy)).net).result =
        .ok () ∧
      (sv.after busy).Records 0 noTeam 1 ∧
      ∃ sv' ∈ ((opened (sv.after busy)).session.changeTeam 0 false
        (opened (sv.after busy)).net).net.service, sv'.Records 0 0 noStatus := by
    decide +kernel
  have hlost := hrun sv (by rw [h]; rfl)
  exact ⟨_, (Service.Reachable.hosted h).after busy, lossless_quietNet _ _ _, hlost⟩

end Tenure

end TeamPresence
