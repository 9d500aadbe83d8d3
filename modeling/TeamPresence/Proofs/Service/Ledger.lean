import Mathlib.Data.List.Forall2
import TeamPresence.Proofs.Directory.Membership
import TeamPresence.Proofs.Service.Answers
import TeamPresence.Proofs.Service.Updates

/-!
# A service is a ledger

A ledger answers the datagrams that a service answers, from nothing but a list of entries (name,
status, team) and the memo of registrations. It has no rosters: whether a team is full is told by
counting the entries that name it, and asked for a team it tells those entries.

* `handle_ledger`: a service answers a datagram as its ledger does, and keeps to it.
* `answers_of_ledger`: so it does in every history.
-/

namespace TeamPresence

/-- What a ledger keeps of a user. -/
structure Entry where
  name : String
  status : Int
  team : Int
deriving DecidableEq

/-- All that a ledger keeps. -/
@[ext] structure Ledger where
  entries : List Entry := []
  memo : Memo := Memo.empty
deriving DecidableEq

namespace Ledger

/-- What is settled before the first datagram. -/
structure Terms where
  teams : List String
  statuses : List String
  /-- How many may be on a team. -/
  size : Nat
  limit : Int
  dedupe : Bool
  memory : Int
deriving DecidableEq

/-- What a ledger answers. -/
inductive Answer
  /-- This outcome, to the byte. -/
  | reply (outcome : Except Fault Reply)
  /-- A team status that shows these names and statuses, in any order. -/
  | roster (members : List (String × Int))

variable (c : Terms) (l : Ledger)

def entriesOf (team : Nat) : List Entry := l.entries.filter fun e => e.team == team

/-- The first reason there is to refuse an update. -/
def refusal? (id status team : Nat) : Option Fault :=
  match l.entries[id]? with
  | none => some (.unknownUser id)
  | some e =>
    if ¬ (status ≤ 19 ∨ status = 0xff) then some (.status status)
    else if ¬ (team < c.teams.length ∨ team = 0xff) then some (.team (.update team))
    else if ¬ (team = 0xff ∨ team = e.team ∨ (l.entriesOf team).length < c.size) then
      some (.teamFull team)
    else none

def updateStatus (r : Request) : Answer × Ledger :=
  match l.refusal? c r.networkId r.status.toNat r.team.toNat with
  | some f => (.reply (.ok (Reply.refusal f.message)), l)
  | none =>
    (.reply (.ok Reply.updated),
      { l with
        entries := l.entries.modify r.networkId fun e =>
          { e with status := r.status.toNat, team := r.team.toNat } })

def repeated? (sender : Option Address) (name : String) : Option Registration :=
  if c.dedupe then (sender.bind l.memo.find?).filter fun r => r.name == name else none

/-- Remembers a registration, if it is to be, and acknowledges it. -/
def confirm (sender : Option Address) (name : String) (id : Nat) : Answer × Ledger :=
  match sender, c.dedupe with
  | some a, true =>
    let remembered := l.memo.remember c.memory ⟨a, name, id⟩
    (.reply (Service.replyTo (remembered.1.bind fun _ => Service.acknowledge id)),
      { l with memo := remembered.2 })
  | _, _ => (.reply (Service.replyTo (Service.acknowledge id)), l)

/-- Adds an entry for a name, or finds the registration that is repeated. -/
def register (name : String) (sender : Option Address) : Answer × Ledger :=
  match l.repeated? c sender name with
  | some r => l.confirm c sender name r.networkId
  | none =>
    if c.limit ≤ l.entries.length then (.reply (.ok (Reply.refusal Fault.usersFull.message)), l)
    else if isIdentifier name = false then
      (.reply (.ok (Reply.refusal (Fault.name (.user name)).message)), l)
    else
      confirm c { l with entries := l.entries ++ [⟨name, noStatus, noTeam⟩] } sender name
        l.entries.length

def teamStatus (team : Nat) : Answer :=
  if team < c.teams.length then .roster ((l.entriesOf team).map fun e => (e.name, e.status))
  else .reply (.ok (Reply.refusal (Fault.team (.view team)).message))

def handle (data : Bytes) (sender : Option Address) : Answer × Ledger :=
  match Request.parse data with
  | .error _ => (.reply (.ok (Reply.refusal Service.malformedReason)), l)
  | .ok r =>
    match r.kind? with
    | some .register => l.register c r.text sender
    | some .updateStatus => l.updateStatus c r
    | some .teamStatus => (l.teamStatus c r.team.toNat, l)
    | some .description =>
      (.reply (Wire.packDescription c.teams c.statuses >>=
        Reply.make ReplyKind.description.code.toNat), l)
    | none => (.reply (.ok (Reply.refusal Fault.unknownKind.message)), l)

def after : List Service.Datagram → Ledger :=
  List.foldl (fun l d => (l.handle c d.data d.sender).2) l

def answers (l : Ledger) : List Service.Datagram → List Answer
  | [] => []
  | d :: rest => (l.handle c d.data d.sender).1 :: answers (l.handle c d.data d.sender).2 rest

/-- The outcome is the one that was answered. A roster has all its slots, of which those that are
not vacant show the members. -/
def Answer.Matches (size : Nat) : Except Fault Reply → Answer → Prop
  | outcome, .reply expected => outcome = expected
  | outcome, .roster members =>
    ∃ reply names statuses, outcome = .ok reply ∧ reply.userNames = .ok names ∧
      reply.statusVector = .ok statuses ∧ names.length = size ∧ statuses.length = size ∧
      (names.zip (statuses.map fun b => (b.toNat : Int))).Perm
        (members ++ List.replicate (size - members.length) ("", 0xff))

end Ledger

namespace Service

open Ledger

def entryOf (u : User) : Entry := ⟨u.name, u.status, u.team⟩

/-- The ledger that a service keeps in its directory. -/
def ledger (s : Service) : Ledger := ⟨s.directory.users.toList.map entryOf, s.memo⟩

theorem length_ledger (s : Service) : s.ledger.entries.length = s.directory.users.size := by
  rw [ledger, List.length_map, Array.length_toList]

theorem getElem?_ledger (s : Service) (id : Nat) :
    s.ledger.entries[id]? = s.directory.users[id]?.map entryOf := by
  rw [ledger, List.getElem?_map, Array.getElem?_toList]

theorem entriesOf_ledger (s : Service) (team : Nat) :
    s.ledger.entriesOf team = (s.directory.usersOf team).map entryOf := by
  rw [entriesOf, ledger, List.filter_map]
  rfl

/-! ### Registrations -/

section Registration

variable {s : Service} {c : Terms}

theorem confirm_ledger (hdedupe : s.dedupe = c.dedupe) (hmemory : s.memory = c.memory)
    (sender : Option Address) (name : String) (id : Nat) :
    (Answer.reply (replyTo (s.confirm sender name id).1), (s.confirm sender name id).2.ledger) =
      s.ledger.confirm c sender name id := by
  cases sender with
  | none => rfl
  | some a =>
    simp only [confirm, remember, Ledger.confirm, ← hdedupe, ← hmemory]
    cases s.dedupe <;> rfl

theorem register_ledger (hdedupe : s.dedupe = c.dedupe) (hmemory : s.memory = c.memory)
    (hlimit : s.directory.limit = c.limit) (name : String) (sender : Option Address) :
    (Answer.reply (replyTo (s.register name sender).1), (s.register name sender).2.ledger) =
      s.ledger.register c name sender := by
  have hrepeated : s.ledger.repeated? c sender name = s.repeated? sender name := by
    rw [Ledger.repeated?, ← hdedupe]
    rfl
  rw [register, Ledger.register, hrepeated, length_ledger, ← hlimit]
  cases s.repeated? sender name with
  | some r => exact confirm_ledger hdedupe hmemory sender name r.networkId
  | none =>
    dsimp only
    cases hregister : s.directory.register name with
    | error f =>
      rw [Directory.register] at hregister
      by_cases hfull : s.directory.limit ≤ s.directory.users.size
      · rw [if_pos hfull] at hregister ⊢
        cases hregister
        rfl
      · rw [if_neg hfull] at hregister ⊢
        by_cases hname : isIdentifier name = true
        · simp [hname] at hregister
        · simp only [hname] at hregister ⊢
          cases hregister
          rfl
    | ok grown =>
      obtain ⟨directory, user⟩ := grown
      obtain ⟨hroom, hname, rfl, hdirectory⟩ := Directory.register_eq_ok_iff.mp hregister
      rw [if_neg (by omega), if_neg (by simp [hname])]
      have hledger : ledger { s with directory } =
          { s.ledger with entries := s.ledger.entries ++ [⟨name, noStatus, noTeam⟩] } := by
        rw [ledger, hdirectory]
        simp [ledger, entryOf]
      have hconfirm := confirm_ledger (s := { s with directory }) hdedupe hmemory sender name
        s.directory.users.size
      rw [hledger] at hconfirm
      exact hconfirm

end Registration

/-! ### Updates and rosters -/

variable {teams statuses : List String} {size : Nat} {limit memory : Int} {dedupe : Bool}
  {s : Service}

theorem Reachable.capacity_eq (h : Reachable teams statuses size limit dedupe memory s) {t : Nat}
    {team : Team} (ht : s.directory.teams[t]? = some team) : team.roster.capacity = size := by
  have hcapacity := congrArg (fun l => l[t]?) h.directory.capacity
  obtain ⟨hlt, -⟩ := List.getElem?_eq_some_iff.mp ht
  rw [h.directory.length_teams] at hlt
  simpa [ht, hlt] using hcapacity

theorem noPlace_ledger (h : Reachable teams statuses size limit dedupe memory s) {id : Nat}
    {u : User} (hu : s.directory.users[id]? = some u) {team : Nat}
    (hvalid : s.directory.isValidTeam team = true) :
    (¬ (team = 0xff ∨ team = (entryOf u).team ∨ (s.ledger.entriesOf team).length < size)) ↔
      ((team : Int) ≠ u.team ∧ (team : Int) ≠ noTeam ∧
        s.directory.hasPlaceFor team id = false) := by
  have hno : (team : Int) = noTeam ↔ team = 0xff := by
    rw [noTeam]
    omega
  rw [ne_eq, ne_eq, hno, entryOf, entriesOf_ledger, List.length_map]
  by_cases hsign : team = 0xff
  · simp [hsign]
  · by_cases hold : (team : Int) = u.team
    · simp [hold]
    · have hlt : team < s.directory.teams.length := by
        rw [Directory.isValidTeam_iff, noTeam] at hvalid
        omega
      have htm := List.getElem?_eq_getElem hlt
      have hd := h.directory.seated
      rw [hd.hasPlaceFor_eq hu (Ne.symm hold) htm, ← Bool.not_eq_true, hd.hasRoom_iff htm,
        h.capacity_eq htm]
      simp [hsign, hold]

theorem refusal?_ledger (h : Reachable teams statuses size limit dedupe memory s) {id : Nat}
    {u : User} (hu : s.directory.users[id]? = some u) (status team : Nat) :
    s.ledger.refusal? ⟨teams, statuses, size, limit, dedupe, memory⟩ id status team =
      s.directory.refusal? id u.team status team := by
  rw [Ledger.refusal?, getElem?_ledger, hu, Directory.refusal?]
  have hstatus : (status ≤ 19 ∨ status = 0xff) ↔ Directory.isValidStatus status = true := by
    rw [Directory.isValidStatus_iff, noStatus]
    omega
  have hteam : (team < teams.length ∨ team = 0xff) ↔ s.directory.isValidTeam team = true := by
    rw [Directory.isValidTeam_iff, h.directory.length_teams, noTeam]
    omega
  simp only [Option.map_some, hstatus, hteam, Bool.not_eq_true]
  cases hvalid : s.directory.isValidTeam team with
  | false => simp only [if_true]
  | true =>
    have hplace := noPlace_ledger h hu hvalid
    simp only [hplace]

theorem updateStatus_ledger (h : Reachable teams statuses size limit dedupe memory s)
    (r : Request) :
    (Answer.reply (replyTo (s.updateStatus r).1), (s.updateStatus r).2.ledger) =
      s.ledger.updateStatus ⟨teams, statuses, size, limit, dedupe, memory⟩ r := by
  rw [Ledger.updateStatus, updateStatus_eq h.sound.seated]
  cases hu : s.directory.users[r.networkId]? with
  | none =>
    rw [Ledger.refusal?, getElem?_ledger, hu]
    rfl
  | some u =>
    simp only
    rw [refusal?_ledger h hu]
    cases hrefusal :
        s.directory.refusal? r.networkId u.team r.status.toNat r.team.toNat with
    | some f =>
      have hf : f.isRefusal = true := Directory.isRefusal_of_refusal? hrefusal
      simp only [replyTo, hf, if_true]
    | none =>
      refine Prod.ext rfl (Ledger.ext ?_ rfl)
      refine List.ext_getElem? fun j => ?_
      rw [getElem?_ledger, Directory.getElem?_users_moved hu, List.getElem?_modify,
        getElem?_ledger]
      by_cases hj : j = r.networkId
      · simp [hj, hu, entryOf]
      · simp [hj, Ne.symm hj]

theorem teamStatus_ledger (h : Reachable teams statuses size limit dedupe memory s)
    (hsize : size ≤ 59) (r : Request) :
    (s.ledger.teamStatus ⟨teams, statuses, size, limit, dedupe, memory⟩ r.team.toNat).Matches
      size (replyTo (s.teamStatus r)) := by
  have hlen := h.directory.length_teams
  rw [Ledger.teamStatus]
  by_cases hlt : r.team.toNat < teams.length
  · have hteam := List.getElem?_eq_getElem (hlen.symm ▸ hlt)
    have hcapacity := h.capacity_eq hteam
    obtain ⟨reply, hreply⟩ := h.sound.teamStatus_isOk hteam (hcapacity.trans_le hsize)
    obtain ⟨team, hteam', -, hnames, hstatuses⟩ := h.sound.slots_of_teamStatus hreply
    obtain rfl := Option.some.inj (hteam.symm.trans hteam')
    rw [if_pos hlt, hreply]
    refine ⟨reply, _, _, rfl, hnames, hstatuses, ?_, ?_, ?_⟩
    · rw [Directory.length_names, hcapacity]
    · rw [List.length_map, Directory.length_statuses, hcapacity]
    · have hbytes : ((s.directory.rosterView s.directory.teams[r.team.toNat]).statuses.map
          fun n => UInt8.ofNat n.toNat).map (fun b => (b.toNat : Int)) =
          (s.directory.rosterView s.directory.teams[r.team.toNat]).statuses := by
        rw [List.map_map]
        exact (List.map_congr_left fun n hn => Directory.toNat_statusByte
          (h.directory.seated.status_le_of_mem_statuses hteam hn)).trans (List.map_id _)
      have hshown := h.directory.seated.shown_perm hteam
      rw [hcapacity] at hshown
      rw [hbytes, entriesOf_ledger, List.map_map, List.length_map]
      exact hshown
  · have hnone : s.directory.teams[r.team.toNat]? = none :=
      List.getElem?_eq_none (by omega)
    rw [if_neg hlt, teamStatus, Directory.teamView, if_pos (Int.natCast_nonneg _),
      Int.toNat_natCast, hnone]
    rfl

/-! ### Histories -/

/-- A service answers a datagram as its ledger does, and keeps to it. -/
theorem handle_ledger (h : Reachable teams statuses size limit dedupe memory s)
    (hsize : size ≤ 59) (data : Bytes) (sender : Option Address) :
    ((s.ledger.handle ⟨teams, statuses, size, limit, dedupe, memory⟩ data sender).1.Matches
      size (s.handle data sender).1) ∧
    (s.handle data sender).2.ledger =
      (s.ledger.handle ⟨teams, statuses, size, limit, dedupe, memory⟩ data sender).2 := by
  have hfixed := h.fixed
  have houtline := h.directory.outline
  rw [handle, Ledger.handle]
  cases Request.parse data with
  | error f => exact ⟨rfl, rfl⟩
  | ok r =>
    simp only [answer]
    cases r.kind? with
    | none => exact ⟨rfl, rfl⟩
    | some kind =>
      cases kind with
      | register =>
        rw [← register_ledger (c := ⟨teams, statuses, size, limit, dedupe, memory⟩) hfixed.1
          hfixed.2 (congrArg (fun o => o.2.2) houtline)]
        exact ⟨rfl, rfl⟩
      | updateStatus =>
        rw [← updateStatus_ledger h r]
        exact ⟨rfl, rfl⟩
      | teamStatus => exact ⟨teamStatus_ledger h hsize r, rfl⟩
      | description =>
        refine ⟨?_, rfl⟩
        have hdescribed := h.sound.described
        rw [h.directory.teamNames_eq, h.directory.statuses_eq] at hdescribed
        exact hdescribed.symm

/-- **In every history a service answers as a ledger does.** The records of its directory are then
the entries of the ledger. -/
theorem answers_of_ledger (h : host teams statuses size limit dedupe memory = .ok s)
    (hsize : size ≤ 59) (l : List Datagram) :
    List.Forall₂ (Answer.Matches size) (s.replies l)
      (Ledger.answers ⟨teams, statuses, size, limit, dedupe, memory⟩ {} l) ∧
    (s.after l).ledger = Ledger.after ⟨teams, statuses, size, limit, dedupe, memory⟩ {} l := by
  have hempty : s.ledger = {} := by
    obtain ⟨directory, description, hcreate, -, rfl⟩ := host_eq_ok_iff.mp h
    obtain ⟨-, -, -, -, rfl⟩ := Directory.create_eq_ok_iff.mp hcreate
    rfl
  have hreach : Reachable teams statuses size limit dedupe memory s := .hosted h
  clear h
  rw [← hempty]
  clear hempty
  induction l generalizing s with
  | nil => exact ⟨.nil, rfl⟩
  | cons d rest ih =>
    obtain ⟨hmatches, hledger⟩ := handle_ledger hreach hsize d.data d.sender
    obtain ⟨hanswers, hafter⟩ := ih (hreach.handled d.data d.sender)
    rw [hledger] at hanswers hafter
    exact ⟨.cons hmatches hanswers, hafter⟩

theorem answers_of_ledger_crowding :
    ∃ s, host ["Red", "Blue"] ["Busy"] (1 : Nat) 100 true 4 = .ok s ∧ 1 ≤ 59 ∧
      List.Forall₂ (Answer.Matches 1) (s.replies crowding)
        (Ledger.answers ⟨["Red", "Blue"], ["Busy"], 1, 100, true, 4⟩ {} crowding) ∧
      (s.after crowding).ledger =
        Ledger.after ⟨["Red", "Blue"], ["Busy"], 1, 100, true, 4⟩ {} crowding :=
  let ⟨s, h⟩ : ∃ s, host ["Red", "Blue"] ["Busy"] (1 : Nat) 100 true 4 = .ok s := ⟨_, rfl⟩
  ⟨s, h, by decide, answers_of_ledger h (by decide) crowding⟩

/-- The second user stays where it was. -/
example : (Ledger.after ⟨["Red", "Blue"], ["Busy"], 1, 100, true, 4⟩ {} crowding).entries =
    [⟨"A", 3, 1⟩, ⟨"B", 0xff, 0xff⟩] := by
  decide +kernel

end Service

end TeamPresence
