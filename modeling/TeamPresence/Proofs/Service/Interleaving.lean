import TeamPresence.Proofs.Directory.Membership
import TeamPresence.Proofs.Service.Grants
import TeamPresence.Proofs.Service.Updates

/-!
# Updates of different users

Updates of different users write to the same rosters, so in general their order matters: the last
slot of a team goes to whoever comes first. It does not matter while each roster has room for all
users (`Directory.Roomy`). Then a user finds a place on whatever team it asks for, since the others
cannot fill it (`Roomy.hasPlaceFor`); what may be said against an update (`Directory.objection?`)
depends on the number of users and teams only, which no update changes; and the record of a user is
written by its own updates alone.

`interleaving_irrelevant` compares two orders of the same updates that agree on the order of each
user's own: every update gets the same reply, and the records and the members of the teams are the
same in the end. The slots may differ.
-/

namespace TeamPresence

namespace Directory

variable {d : Directory}

/-- Each roster has room for all users at once. -/
structure Roomy (d : Directory) : Prop where
  seated : d.Seated
  room : ∀ roster ∈ d.outline.1, d.users.size ≤ roster.2

theorem Reachable.roomy {teams statuses : List String} {size limit : Int}
    (h : Reachable teams statuses size limit d) (hsize : (d.users.size : Int) ≤ size) :
    d.Roomy := by
  refine ⟨h.seated, ?_⟩
  intro roster hroster
  rw [h.outline, List.mem_map] at hroster
  obtain ⟨name, -, rfl⟩ := hroster
  show d.users.size ≤ size.toNat
  omega

theorem Seated.sits_iff (hd : d.Seated) {t : Nat} {seat : Seat} :
    (∃ i, d.occupant? t i = some seat) ↔
      t < d.teams.length ∧
        ∃ (id : Nat) (u : User), seat = .member id ∧ d.users[id]? = some u ∧ u.team = t := by
  constructor
  · rintro ⟨i, hi⟩
    exact ⟨lt_length_of_occupant? hi, hd.member hi⟩
  · rintro ⟨hlt, id, u, rfl, hu, hut⟩
    exact hd.slot hu hut hlt

/-- A user finds a place on each team that it is not on: the others are too few to fill it. -/
theorem Roomy.hasPlaceFor (h : d.Roomy) {id t : Nat} {u : User} (hu : d.users[id]? = some u)
    (hne : u.team ≠ t) (ht : t < d.teams.length) : d.hasPlaceFor t id = true := by
  obtain ⟨team, hteam⟩ : ∃ team, d.teams[t]? = some team := ⟨_, List.getElem?_eq_getElem ht⟩
  rw [h.seated.hasPlaceFor_eq hu hne hteam, h.seated.hasRoom_iff hteam]
  have hmem : u ∈ d.users.toList := Array.mem_toList_iff.mpr (Array.mem_of_getElem? hu)
  calc (d.usersOf t).length
      < d.users.toList.length :=
        List.length_filter_lt_length_iff_exists.mpr ⟨u, hmem, by simpa using hne⟩
    _ = d.users.size := Array.length_toList
    _ ≤ team.roster.capacity :=
        h.room (team.name, team.roster.capacity)
          (List.mem_map_of_mem (List.mem_of_getElem? hteam))

/-- Why an update is refused, apart from want of room. -/
def objection? (d : Directory) (r : Request) : Option Fault :=
  if d.users.size ≤ r.networkId then some (.unknownUser r.networkId)
  else if isValidStatus r.status.toNat = false then some (.status r.status.toNat)
  else if d.isValidTeam r.team.toNat = false then some (.team (.update r.team.toNat))
  else none

theorem objection?_eq {d e : Directory} (houtline : d.outline = e.outline)
    (hsize : d.users.size = e.users.size) (r : Request) : d.objection? r = e.objection? r := by
  rw [objection?, objection?, hsize, isValidTeam_eq_of_outline houtline]

theorem Roomy.refusal?_eq (h : d.Roomy) {r : Request} {u : User}
    (hu : d.users[r.networkId]? = some u) :
    d.refusal? r.networkId u.team r.status.toNat r.team.toNat = d.objection? r := by
  have hlt : r.networkId < d.users.size := (Array.getElem?_eq_some_iff.mp hu).1
  rw [refusal?, objection?, if_neg (Nat.not_le.mpr hlt)]
  by_cases hteam : d.isValidTeam r.team.toNat = false
  · simp only [hteam, if_true]
  · have hroom : ¬ ((r.team.toNat : Int) ≠ u.team ∧ (r.team.toNat : Int) ≠ noTeam ∧
        d.hasPlaceFor r.team.toNat r.networkId = false) := by
      rintro ⟨hold, hno, hfull⟩
      have hrange := (isValidTeam_iff.mp (Bool.not_eq_false _ ▸ hteam)).resolve_right hno
      rw [h.hasPlaceFor hu (Ne.symm hold) (by omega)] at hfull
      cases hfull
    rw [if_neg hroom]

end Directory

namespace Service

/-- The user that a datagram updates, if it is an update. -/
def updatedId? (data : Bytes) : Option Nat :=
  match Request.parse data with
  | .ok r => if r.kind? = some .updateStatus then some r.networkId else none
  | .error _ => none

theorem updatedId?_eq_some_iff {data : Bytes} {id : Nat} :
    updatedId? data = some id ↔
      ∃ r, Request.parse data = .ok r ∧ r.kind? = some .updateStatus ∧ r.networkId = id := by
  rw [updatedId?]
  cases Request.parse data with
  | error f => simp
  | ok r => by_cases hkind : r.kind? = some .updateStatus <;> simp [hkind]

theorem exists_update {data : Bytes} (h : (updatedId? data).isSome = true) :
    ∃ r, Request.parse data = .ok r ∧ r.kind? = some .updateStatus ∧
      updatedId? data = some r.networkId := by
  obtain ⟨id, hid⟩ := Option.isSome_iff_exists.mp h
  obtain ⟨r, hparse, hkind, rfl⟩ := updatedId?_eq_some_iff.mp hid
  exact ⟨r, hparse, hkind, hid⟩

/-- Whether a datagram is an update of a user. -/
def isOwn (id : Nat) (d : Datagram) : Bool := updatedId? d.data == some id

/-- An order of updates in which each user's own come in the order of its stream. -/
structure Interleaves (streams : Nat → List Datagram) (l : List Datagram) : Prop where
  updates : ∀ d ∈ l, (updatedId? d.data).isSome = true
  order : ∀ id, l.filter (isOwn id) = streams id

theorem filter_isOwn (own : List Datagram) (k : Nat) (h : ∀ d ∈ own, updatedId? d.data = some k)
    (id : Nat) : own.filter (isOwn id) = if id = k then own else [] := by
  by_cases hid : id = k
  · rw [if_pos hid, List.filter_eq_self]
    intro d hd
    simp [isOwn, h d hd, hid]
  · rw [if_neg hid, List.filter_eq_nil_iff]
    intro d hd
    simp [isOwn, h d hd, Ne.symm hid]

/-! ### One update -/

/-- What an update makes of its user's record. -/
def written (s : Service) (u : User) (d : Datagram) : User :=
  match Request.parse d.data with
  | .ok r =>
    if s.directory.objection? r = none then
      { u with status := r.status.toNat, team := r.team.toNat }
    else u
  | .error _ => u

variable {s t : Service}

theorem updateStatus_of_roomy (h : s.directory.Roomy) (r : Request) :
    (∃ f, s.directory.objection? r = some f ∧ s.updateStatus r = (.error f, s)) ∨
    (s.directory.objection? r = none ∧ ∃ u, s.directory.users[r.networkId]? = some u ∧
      s.directory.refusal? r.networkId u.team r.status.toNat r.team.toNat = none ∧
      s.updateStatus r = (.ok Reply.updated, { s with
        directory := s.directory.moved r.networkId u.team r.status.toNat r.team.toNat })) := by
  rw [updateStatus_eq h.seated]
  cases hu : s.directory.users[r.networkId]? with
  | none =>
    left
    refine ⟨.unknownUser r.networkId, ?_, rfl⟩
    exact if_pos (Array.getElem?_eq_none_iff.mp hu)
  | some u =>
    have hrefusal := h.refusal?_eq hu
    cases hobjection : s.directory.objection? r with
    | some f =>
      left
      rw [hobjection] at hrefusal
      exact ⟨f, rfl, by simp only [hrefusal]⟩
    | none =>
      right
      rw [hobjection] at hrefusal
      exact ⟨rfl, u, rfl, hrefusal, by simp only [hrefusal]⟩

/-- A service that differs from another in what updates change only. -/
structure Alike (s t : Service) : Prop where
  roomy : t.directory.Roomy
  outline : t.directory.outline = s.directory.outline
  size : t.directory.users.size = s.directory.users.size

namespace Alike

variable {d : Datagram}

theorem objection?_eq (h : Alike s t) (r : Request) :
    t.directory.objection? r = s.directory.objection? r :=
  Directory.objection?_eq h.outline h.size r

theorem handle (h : Alike s t) (hd : (updatedId? d.data).isSome = true) :
    Alike s (t.handle d.data d.sender).2 := by
  obtain ⟨r, hparse, hkind, -⟩ := exists_update hd
  rw [handle_update hparse hkind]
  rcases updateStatus_of_roomy h.roomy r with ⟨f, -, heq⟩ | ⟨-, u, hu, hnone, heq⟩
  · rw [heq]
    exact h
  · rw [heq]
    have houtline := (t.directory.outline_moved r.networkId u.team r.status.toNat r.team.toNat)
    have hsize : (t.directory.moved r.networkId u.team r.status.toNat r.team.toNat).users.size =
        t.directory.users.size := by
      rw [Directory.users_moved, Array.size_modify]
    refine ⟨⟨h.roomy.seated.moved hu hnone, ?_⟩, houtline.trans h.outline, hsize.trans h.size⟩
    show ∀ roster ∈ (t.directory.moved _ _ _ _).outline.1, _
    rw [houtline, hsize]
    exact h.roomy.room

theorem reply_eq (h : Alike s t) (hs : s.directory.Roomy)
    (hd : (updatedId? d.data).isSome = true) :
    (t.handle d.data d.sender).1 = (s.handle d.data d.sender).1 := by
  obtain ⟨r, hparse, hkind, -⟩ := exists_update hd
  have hsame := h.objection?_eq r
  rw [handle_update hparse hkind, handle_update hparse hkind]
  rcases updateStatus_of_roomy h.roomy r with ⟨f, hf, ht⟩ | ⟨hf, u, -, -, ht⟩ <;>
    rcases updateStatus_of_roomy hs r with ⟨g, hg, hs⟩ | ⟨hg, v, -, -, hs⟩
  · obtain rfl : f = g := Option.some.inj (hf.symm.trans (hsame.trans hg))
    rw [ht, hs]
  · rw [hf, hg] at hsame
    cases hsame
  · rw [hf, hg] at hsame
    cases hsame
  · rw [ht, hs]

theorem users_handle (h : Alike s t) (hd : (updatedId? d.data).isSome = true) (id : Nat) :
    (t.handle d.data d.sender).2.directory.users[id]? =
      (t.directory.users[id]?).map fun u => if isOwn id d then s.written u d else u := by
  obtain ⟨r, hparse, hkind, hown⟩ := exists_update hd
  have hsame := h.objection?_eq r
  rw [handle_update hparse hkind]
  simp only [isOwn, hown, beq_iff_eq, Option.some.injEq, written, hparse]
  rcases updateStatus_of_roomy h.roomy r with ⟨f, hf, heq⟩ | ⟨hf, u, hu, -, heq⟩
  · rw [heq, ← hsame, hf]
    simp
  · rw [heq, ← hsame, hf]
    show (t.directory.moved _ _ _ _).users[id]? = _
    rw [Directory.getElem?_users_moved hu]
    by_cases hid : id = r.networkId
    · simp [hid, hu]
    · simp [hid, Ne.symm hid]

/-! ### Many updates -/

variable {l : List Datagram}

theorem after (h : Alike s t) (hl : ∀ d ∈ l, (updatedId? d.data).isSome = true) :
    Alike s (t.after l) := by
  induction l generalizing t with
  | nil => exact h
  | cons d rest ih =>
    obtain ⟨hd, hrest⟩ := List.forall_mem_cons.mp hl
    exact ih (h.handle hd) hrest

/-- Each of many updates gets the reply that it would have got at the start. -/
theorem replies_eq (h : Alike s t) (hs : s.directory.Roomy)
    (hl : ∀ d ∈ l, (updatedId? d.data).isSome = true) :
    t.replies l = l.map fun d => (s.handle d.data d.sender).1 := by
  induction l generalizing t with
  | nil => rfl
  | cons d rest ih =>
    obtain ⟨hd, hrest⟩ := List.forall_mem_cons.mp hl
    rw [replies, h.reply_eq hs hd, ih (h.handle hd) hrest, List.map_cons]

theorem users_after (h : Alike s t) (hl : ∀ d ∈ l, (updatedId? d.data).isSome = true)
    (id : Nat) :
    (t.after l).directory.users[id]? =
      (t.directory.users[id]?).map fun u => (l.filter (isOwn id)).foldl s.written u := by
  induction l generalizing t with
  | nil => exact Option.map_id'.symm
  | cons d rest ih =>
    obtain ⟨hd, hrest⟩ := List.forall_mem_cons.mp hl
    show ((t.handle d.data d.sender).2.after rest).directory.users[id]? = _
    rw [ih (h.handle hd) hrest, h.users_handle hd id, Option.map_map]
    congr 1
    funext u
    by_cases hown : isOwn id d = true <;> simp [hown]

end Alike

theorem dialogue_of_replies_eq {l : List Datagram} {f : Datagram → Except Fault Reply}
    (h : s.replies l = l.map f) : s.dialogue l = l.map fun d => (d, f d) := by
  calc s.dialogue l
      = (l.map id).zip (l.map f) := by rw [dialogue, h, List.map_id]
    _ = l.map fun d => (d, f d) := List.zip_map' ..

/-- **The order of different users' updates does not matter** while each team has room for all
users. However the streams of the users are interleaved, each update gets the same reply; in the end
the records are the same, and so are the members of each team. -/
theorem interleaving_irrelevant {teams statuses : List String} {size limit : Int}
    (h : Directory.Reachable teams statuses size limit s.directory)
    (hroom : (s.directory.userCount : Int) ≤ size) {streams : Nat → List Datagram}
    {l m : List Datagram} (hl : Interleaves streams l) (hm : Interleaves streams m) :
    (∀ id, (s.dialogue l).filter (fun x => isOwn id x.1) =
      (s.dialogue m).filter fun x => isOwn id x.1) ∧
    (∀ id : Nat, (s.after l).directory.users[id]? = (s.after m).directory.users[id]?) ∧
    ∀ (t : Nat) (seat : Seat),
      (∃ i, (s.after l).directory.occupant? t i = some seat) ↔
        ∃ i, (s.after m).directory.occupant? t i = some seat := by
  have hs := h.roomy hroom
  have hstart : Alike s s := ⟨hs, rfl, rfl⟩
  have hafterL := hstart.after hl.updates
  have hafterM := hstart.after hm.updates
  have husers : ∀ id : Nat,
      (s.after l).directory.users[id]? = (s.after m).directory.users[id]? := by
    intro id
    rw [hstart.users_after hl.updates, hstart.users_after hm.updates, hl.order, hm.order]
  have hlength : (s.after l).directory.teams.length = (s.after m).directory.teams.length :=
    Directory.length_teams_eq_of_outline (hafterL.outline.trans hafterM.outline.symm)
  refine ⟨?_, husers, ?_⟩
  · intro id
    rw [dialogue_of_replies_eq (hstart.replies_eq hs hl.updates),
      dialogue_of_replies_eq (hstart.replies_eq hs hm.updates), List.filter_map, List.filter_map]
    show (l.filter (isOwn id)).map _ = (m.filter (isOwn id)).map _
    rw [hl.order, hm.order]
  · intro t seat
    rw [hafterL.roomy.seated.sits_iff, hafterM.roomy.seated.sits_iff, hlength]
    simp only [husers]

/-- Two users join a team that has two slots. Who comes first gets the first slot. One of them is
refused a team that there is not, and so is an update of nobody. -/
theorem interleaving_irrelevant_slots :
    ∃ s : Service, Directory.Reachable ["Red", "Blue"] ["Busy"] 2 100 s.directory ∧
      s.directory.userCount = 2 ∧
      ∃ l m : List Datagram,
        (s.after l).directory.occupant? 0 0 = some (.member 0) ∧
        (s.after m).directory.occupant? 0 0 = some (.member 1) ∧
        (∀ id, (s.dialogue l).filter (fun x => isOwn id x.1) =
          (s.dialogue m).filter fun x => isOwn id x.1) ∧
        (∀ id : Nat, (s.after l).directory.users[id]? = (s.after m).directory.users[id]?) ∧
        ∀ (t : Nat) (seat : Seat),
          (∃ i, (s.after l).directory.occupant? t i = some seat) ↔
            ∃ i, (s.after m).directory.occupant? t i = some seat := by
  let registrations : List Datagram :=
    [⟨[1, 0xff, 0xff, 0xff, 0xff, 0xff, 0x41], none⟩,
      ⟨[1, 0xff, 0xff, 0xff, 0xff, 0xff, 0x42], none⟩]
  let first : List Datagram := [⟨[2, 0, 0, 0, 0, 0, 0x26], none⟩]
  let second : List Datagram :=
    [⟨[2, 0, 0, 1, 0, 0, 0x26], none⟩, ⟨[2, 0, 0, 1, 7, 0, 0x26], none⟩]
  let nobody : List Datagram := [⟨[2, 0, 0, 9, 0, 0, 0x26], none⟩]
  let streams : Nat → List Datagram := fun id =>
    if id = 0 then first else if id = 1 then second else if id = 9 then nobody else []
  obtain ⟨sv, hsv⟩ : ∃ sv, host ["Red", "Blue"] ["Busy"] 2 100 true 4 = .ok sv := ⟨_, rfl⟩
  have hrun : ∀ sv ∈ (host ["Red", "Blue"] ["Busy"] 2 100 true 4).toOption,
      (sv.after registrations).directory.userCount = 2 ∧
      ((sv.after registrations).after (first ++ second ++ nobody)).directory.occupant? 0 0 =
        some (.member 0) ∧
      ((sv.after registrations).after (nobody ++ second ++ first)).directory.occupant? 0 0 =
        some (.member 1) := by
    decide +kernel
  obtain ⟨hcount, hfirst, hsecond⟩ := hrun sv (by rw [hsv]; rfl)
  have hreach := ((Reachable.hosted hsv).after registrations).directory
  have hfirstOwn := filter_isOwn first 0 (by decide +kernel)
  have hsecondOwn := filter_isOwn second 1 (by decide +kernel)
  have hnobodyOwn := filter_isOwn nobody 9 (by decide +kernel)
  have hl : Interleaves streams (first ++ second ++ nobody) := by
    refine ⟨by decide +kernel, ?_⟩
    intro id
    simp only [List.filter_append, hfirstOwn, hsecondOwn, hnobodyOwn, streams]
    split_ifs <;> simp_all
  have hm : Interleaves streams (nobody ++ second ++ first) := by
    refine ⟨by decide +kernel, ?_⟩
    intro id
    simp only [List.filter_append, hfirstOwn, hsecondOwn, hnobodyOwn, streams]
    split_ifs <;> simp_all
  exact ⟨_, hreach, hcount, _, _, hfirst, hsecond,
    interleaving_irrelevant hreach (by rw [hcount]; decide) hl hm⟩

end Service

end TeamPresence
