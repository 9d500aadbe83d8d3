import TeamPresence.Proofs.Directory.Seating
import TeamPresence.Service.Response

/-!
# Histories of a service

A service is hosted and then handles datagrams one after the other. `Reachable` holds of every
service that can come of that; what each datagram keeps is kept by every history.

* `Effect` lists all that one datagram can do to a service (`handle_effect`): nothing, or register a
  name, or confirm a registration again, or update a user.
* `Sound` is what every history keeps (`Reachable.sound`): records and rosters agree, a remembered
  registration is that of an existing user, and the description is that of the directory.
-/

namespace TeamPresence.Service

def host (teams statuses : List String) (size limit : Int) (dedupe : Bool) (memory : Int) :
    Except Fault Service := do
  let directory ← Directory.create teams statuses size limit
  create directory dedupe memory

/-- A datagram and where it comes from. -/
structure Datagram where
  data : Bytes
  sender : Option Address
deriving DecidableEq

def after (s : Service) (l : List Datagram) : Service :=
  l.foldl (fun s d => (s.handle d.data d.sender).2) s

def replies (s : Service) : List Datagram → List (Except Fault Reply)
  | [] => []
  | d :: rest => (s.handle d.data d.sender).1 :: ((s.handle d.data d.sender).2.replies rest)

/-- Two users register, under the IDs 0 and 1, and ask for the only slot of team 0, which the second
does not get. Then the first moves on to team 1, and both teams are asked for. -/
def crowding : List Datagram :=
  let sender : Option Address := some ⟨"127.0.0.1", 5000⟩
  [⟨[1, 0xff, 0xff, 0xff, 0xff, 0xff, 0x41], sender⟩,
    ⟨[1, 0xff, 0xff, 0xff, 0xff, 0xff, 0x42], sender⟩,
    ⟨[2, 0, 0, 0, 0, 3, 0x26], sender⟩,
    ⟨[2, 0, 0, 1, 0, 4, 0x26], sender⟩,
    ⟨[2, 0, 0, 0, 1, 3, 0x26], sender⟩,
    ⟨[3, 0, 0, 0, 0, 0, 0x26], sender⟩,
    ⟨[3, 0, 0, 0, 1, 0, 0x26], sender⟩]

/-- The services that come of one hosted with the given names and bounds. -/
inductive Reachable (teams statuses : List String) (size limit : Int) (dedupe : Bool)
    (memory : Int) : Service → Prop
  | hosted {s : Service} (h : host teams statuses size limit dedupe memory = .ok s) :
      Reachable teams statuses size limit dedupe memory s
  | handled {s : Service} (h : Reachable teams statuses size limit dedupe memory s) (data : Bytes)
      (sender : Option Address) :
      Reachable teams statuses size limit dedupe memory (s.handle data sender).2

/-! ### One datagram -/

theorem remember_eq (s : Service) (sender : Option Address) (name : String) (id : Nat) :
    ∃ memo, (s.remember sender name id).2 = { s with memo } ∧
      ∀ e ∈ memo.entries, e ∈ s.memo.entries ∨ (e.name = name ∧ e.networkId = id) := by
  unfold remember
  split
  · split
    · refine ⟨_, rfl, fun e he => ?_⟩
      rcases List.mem_append.mp (List.mem_of_mem_drop he) with he | he
      · exact Or.inl (List.mem_filter.mp he).1
      · obtain rfl := List.mem_singleton.mp he
        exact Or.inr ⟨rfl, rfl⟩
    · exact ⟨s.memo, rfl, fun e he => Or.inl he⟩
  · exact ⟨s.memo, rfl, fun e he => Or.inl he⟩

theorem mem_of_repeated? {s : Service} {sender : Option Address} {name : String}
    {r : Registration} (h : s.repeated? sender name = some r) :
    r ∈ s.memo.entries ∧ r.name = name := by
  unfold repeated? at h
  split at h
  · obtain ⟨hfind, hname⟩ := Option.filter_eq_some_iff.mp h
    obtain ⟨a, -, hfind⟩ := Option.bind_eq_some_iff.mp hfind
    exact ⟨List.mem_of_find?_eq_some hfind, eq_of_beq hname⟩
  · cases h

/-- What a datagram can do to a service. -/
inductive Effect (s : Service) : Service → Prop
  | none : Effect s s
  /-- A remembered registration is confirmed again. -/
  | confirmed {memo : Memo} {r : Registration} (hr : r ∈ s.memo.entries)
      (hmemo : ∀ e ∈ memo.entries,
        e ∈ s.memo.entries ∨ (e.name = r.name ∧ e.networkId = r.networkId)) :
      Effect s { s with memo }
  | registered {memo : Memo} {directory : Directory} {name : String} {user : User}
      (h : s.directory.register name = .ok (directory, user))
      (hmemo : ∀ e ∈ memo.entries,
        e ∈ s.memo.entries ∨ (e.name = name ∧ e.networkId = user.networkId.toNat)) :
      Effect s { s with directory, memo }
  | updated {directory : Directory} {id : Nat} {u : User} {status team : Int} {seat : Seat}
      (hu : s.directory.users[id]? = some u)
      (h : s.directory.update (.member id) status team = .ok (directory, seat)) :
      Effect s { s with directory }

theorem register_effect (s : Service) (name : String) (sender : Option Address) :
    Effect s (s.register name sender).2 := by
  unfold register
  split
  · next r hr =>
    obtain ⟨hmem, rfl⟩ := mem_of_repeated? hr
    obtain ⟨memo, hs, hmemo⟩ := s.remember_eq sender r.name r.networkId
    rw [confirm, hs]
    exact .confirmed hmem hmemo
  · split
    · exact .none
    · next directory user h =>
      obtain ⟨memo, hs, hmemo⟩ :=
        remember_eq { s with directory } sender name user.networkId.toNat
      rw [confirm, hs]
      exact .registered h hmemo

theorem confirm_directory (s : Service) (sender : Option Address) (name : String) (id : Nat) :
    (s.confirm sender name id).2.directory = s.directory := by
  obtain ⟨memo, hs, -⟩ := s.remember_eq sender name id
  rw [confirm, hs]

theorem register_directory (s : Service) (name : String) (sender : Option Address) :
    (s.register name sender).2.directory = s.directory ∨
      ∃ user, s.directory.register name = .ok ((s.register name sender).2.directory, user) := by
  unfold register
  split
  · exact Or.inl (s.confirm_directory _ _ _)
  · split
    · exact Or.inl rfl
    · next directory user h =>
      rw [confirm_directory]
      exact Or.inr ⟨user, h⟩

theorem updateStatus_effect (s : Service) (r : Request) : Effect s (s.updateStatus r).2 := by
  unfold updateStatus
  split
  · exact .none
  · next u hu =>
    rw [Directory.user?_natCast] at hu
    split
    · exact .none
    · next h => exact .updated hu h

/-- A datagram does one of these to a service. -/
theorem handle_effect (s : Service) (data : Bytes) (sender : Option Address) :
    Effect s (s.handle data sender).2 := by
  unfold handle
  split
  · exact .none
  · next r _ =>
    simp only [answer]
    split
    · exact s.register_effect r.text sender
    · exact s.updateStatus_effect r
    · exact .none
    · exact .none
    · exact .none

namespace Effect

variable {s s' : Service}

theorem directory (h : Effect s s') :
    s'.directory = s.directory ∨ Directory.Step s.directory s'.directory := by
  cases h with
  | none => exact Or.inl rfl
  | confirmed => exact Or.inl rfl
  | registered h => exact Or.inr (.register h)
  | updated hu h => exact Or.inr (.update hu h)

theorem fixed (h : Effect s s') :
    s'.dedupe = s.dedupe ∧ s'.memory = s.memory ∧ s'.description = s.description := by
  cases h <;> exact ⟨rfl, rfl, rfl⟩

end Effect

/-! ### What is kept -/

/-- A service that tells the truth: its records and rosters agree, what it remembers of a sender is
the registration of a user, and it describes its own directory. -/
structure Sound (s : Service) : Prop where
  seated : s.directory.Seated
  teamNames : ∀ n ∈ s.directory.teamNames, isIdentifier n = true
  statuses : ∀ n ∈ s.directory.statuses, isIdentifier n = true
  remembered : ∀ {e : Registration}, e ∈ s.memo.entries →
    ∃ u, s.directory.users[e.networkId]? = some u ∧ u.name = e.name
  described : (Wire.packDescription s.directory.teamNames s.directory.statuses >>=
    Reply.make ReplyKind.description.code.toNat) = .ok s.description

theorem host_eq_ok_iff {teams statuses : List String} {size limit : Int} {dedupe : Bool}
    {memory : Int} {s : Service} :
    host teams statuses size limit dedupe memory = .ok s ↔
      ∃ directory description,
        Directory.create teams statuses size limit = .ok directory ∧
        (Wire.packDescription directory.teamNames directory.statuses >>=
          Reply.make ReplyKind.description.code.toNat) = .ok description ∧
        s = { directory, dedupe, memory, description } := by
  simp only [host, create, bind_eq_ok_iff, pure_eq_ok, Except.ok.injEq]
  grind

theorem sound_host {teams statuses : List String} {size limit : Int} {dedupe : Bool}
    {memory : Int} {s : Service} (h : host teams statuses size limit dedupe memory = .ok s) :
    s.Sound := by
  obtain ⟨directory, description, hcreate, hdescribed, rfl⟩ := host_eq_ok_iff.mp h
  obtain ⟨-, -, hteams, hstatuses, hdirectory⟩ := Directory.create_eq_ok_iff.mp hcreate
  constructor
  case seated => exact Directory.seated_create hcreate
  case teamNames =>
    rw [hdirectory]
    simpa [Directory.teamNames] using hteams
  case statuses =>
    rw [hdirectory]
    exact hstatuses
  case remembered =>
    intro e he
    simp [Memo.empty] at he
  case described => exact hdescribed

theorem Effect.remembered {s s' : Service} (h : Effect s s') (hs : s.Sound) {e : Registration}
    (he : e ∈ s'.memo.entries) :
    ∃ u, s'.directory.users[e.networkId]? = some u ∧ u.name = e.name := by
  cases h with
  | none => exact hs.remembered he
  | confirmed hr hmemo =>
    rcases hmemo e he with he | ⟨hname, hid⟩
    · exact hs.remembered he
    · rw [hname, hid]
      exact hs.remembered hr
  | @registered memo directory name user hreg hmemo =>
    rcases hmemo e he with he | ⟨hname, hid⟩
    · obtain ⟨u, hu, hname⟩ := hs.remembered he
      obtain ⟨u', hu', hsame⟩ := (Directory.Step.register hreg).named hs.seated hu
      exact ⟨u', hu', hsame.trans hname⟩
    · obtain ⟨-, -, rfl, rfl⟩ := Directory.register_eq_ok_iff.mp hreg
      rw [hname, hid]
      exact ⟨_, Array.getElem?_push_size, rfl⟩
  | updated hu hup =>
    obtain ⟨u, hu', hname⟩ := hs.remembered he
    obtain ⟨u', hu', hsame⟩ := (Directory.Step.update hu hup).named hs.seated hu'
    exact ⟨u', hu', hsame.trans hname⟩

theorem Effect.outline {s s' : Service} (h : Effect s s') (hs : s.Sound) :
    s'.directory.outline = s.directory.outline := by
  rcases h.directory with e | hstep
  · rw [e]
  · exact hstep.outline hs.seated

theorem Effect.sound {s s' : Service} (h : Effect s s') (hs : s.Sound) : s'.Sound := by
  have houtline := h.outline hs
  have hteamNames := Directory.teamNames_eq_of_outline houtline
  have hstatuses := Directory.statuses_eq_of_outline houtline
  constructor
  case seated =>
    rcases h.directory with e | hstep
    · rw [e]
      exact hs.seated
    · exact hstep.seated hs.seated
  case teamNames => exact hteamNames ▸ hs.teamNames
  case statuses => exact hstatuses ▸ hs.statuses
  case remembered => exact h.remembered hs
  case described =>
    rw [hteamNames, hstatuses, h.fixed.2.2]
    exact hs.described

namespace Reachable

variable {teams statuses : List String} {size limit memory : Int} {dedupe : Bool} {s : Service}

theorem sound (h : Reachable teams statuses size limit dedupe memory s) : s.Sound := by
  induction h with
  | hosted h => exact sound_host h
  | handled _ data sender ih => exact (handle_effect _ data sender).sound ih

theorem directory (h : Reachable teams statuses size limit dedupe memory s) :
    Directory.Reachable teams statuses size limit s.directory := by
  induction h with
  | hosted h =>
    obtain ⟨directory, description, hcreate, -, rfl⟩ := host_eq_ok_iff.mp h
    exact .created hcreate
  | handled _ data sender ih =>
    rcases (handle_effect _ data sender).directory with e | hstep
    · rw [e]
      exact ih
    · exact ih.step hstep

theorem fixed (h : Reachable teams statuses size limit dedupe memory s) :
    s.dedupe = dedupe ∧ s.memory = memory := by
  induction h with
  | hosted h =>
    obtain ⟨directory, description, -, -, rfl⟩ := host_eq_ok_iff.mp h
    exact ⟨rfl, rfl⟩
  | handled _ data sender ih =>
    obtain ⟨hdedupe, hmemory, -⟩ := (handle_effect _ data sender).fixed
    rw [hdedupe, hmemory]
    exact ih

theorem after (h : Reachable teams statuses size limit dedupe memory s) (l : List Datagram) :
    Reachable teams statuses size limit dedupe memory (s.after l) := by
  induction l generalizing s with
  | nil => exact h
  | cons d rest ih => exact ih (h.handled d.data d.sender)

end Reachable

end TeamPresence.Service
