import Mathlib.Algebra.Group.Nat.Defs
import TeamPresence.Proofs.Service.Answers
import TeamPresence.Proofs.Service.Updates
import TeamPresence.Proofs.Wire.Framing
import TeamPresence.Service.Response

/-!
# Every datagram is answered

A sound service with a bound on its memo that can be kept answers whatever it is sent
(`Sound.handle_isOk`): each fault that handling meets is a refusal, and a refusal is answered with
its words. Each reply fits into a datagram, so none is dropped (`respond_of_handle`).

**`Reachable.eq_of_not_acknowledged`**: a reply that acknowledges nothing leaves the service as it
was. What is refused is refused before anything is written; the one exception would be a network ID
with more digits than a reply holds (`acknowledge_isOk_iff`).
-/

namespace TeamPresence

theorem Reply.make_eq_error {kind : ReplyKind} {body : Bytes} {f : Fault}
    (h : Reply.make kind.code.toNat body = .error f) : f = .body maxReplyBody := by
  have hbyte : byteField .messageType kind.code.toNat = .ok kind.code := by cases kind <;> rfl
  rw [Reply.make, hbyte, ok_bind] at h
  split at h
  · cases h
  · cases h
    rfl

theorem Directory.Reachable.size_le {teams statuses : List String} {size limit : Int}
    {d : Directory} (h : Directory.Reachable teams statuses size limit d) :
    d.users.size ≤ limit.toNat := by
  induction h with
  | created h =>
    obtain ⟨-, -, -, -, rfl⟩ := create_eq_ok_iff.mp h
    exact Nat.zero_le _
  | @step d d' h next ih =>
    have hlimit : d.limit = limit := congrArg (fun o => o.2.2) h.outline
    cases next with
    | register hregister =>
      obtain ⟨hlt, -, -, rfl⟩ := register_eq_ok_iff.mp hregister
      rw [Array.size_push]
      omega
    | update hu hupdate =>
      obtain ⟨-, rfl, -⟩ := (update_member_eq_ok_iff hu (h.seated.proper hu).team).mp hupdate
      rwa [users_moved, Array.size_modify]

namespace Service

/-! ### Acknowledgements -/

theorem encode_toString (id : Nat) :
    ∃ body, Latin1.encode (toString id) = .ok body ∧ body.length = (Nat.toDigits 10 id).length := by
  have hdigits : ∀ c ∈ (toString id).toList, Latin1.isEncodable c = true := by
    intro c hc
    rw [Nat.toString_eq_ofList_toDigits, String.toList_ofList] at hc
    have hdigit : c.isDigit = true := Nat.isDigit_of_mem_toDigits (by decide) (by decide) hc
    simp only [Char.isDigit, Bool.and_eq_true, decide_eq_true_eq, UInt32.le_iff_toNat_le] at hdigit
    have hval : c.toNat = c.val.toNat := rfl
    have h9 : '9'.val.toNat = 57 := rfl
    simp only [Latin1.isEncodable, decide_eq_true_eq]
    omega
  refine ⟨_, Latin1.encode_eq_ok_iff.mpr ⟨hdigits, rfl⟩, ?_⟩
  rw [List.length_map, Nat.toString_eq_ofList_toDigits, String.toList_ofList]

theorem acknowledge_eq (id : Nat) :
    ∃ body, body.length = (Nat.toDigits 10 id).length ∧
      acknowledge id = Reply.make ReplyKind.registered.code.toNat body := by
  obtain ⟨body, hbody, hlength⟩ := encode_toString id
  exact ⟨body, hlength, by rw [acknowledge, hbody]⟩

theorem acknowledge_isOk_iff {id : Nat} :
    (∃ reply, acknowledge id = .ok reply) ↔ id < 10 ^ maxReplyBody := by
  obtain ⟨body, hlength, hmake⟩ := acknowledge_eq id
  rw [← Nat.length_toDigits_le_iff (by decide) (by decide), ← hlength, hmake]
  constructor
  · rintro ⟨reply, h⟩
    exact (Reply.make_eq_ok_iff.mp h).1.2
  · intro hle
    have hpos : 1 ≤ body.length := hlength ▸ Nat.length_toDigits_pos
    exact ⟨⟨ReplyKind.registered.code, body, hpos, hle⟩,
      Reply.make_eq_ok_iff.mpr ⟨⟨hpos, hle⟩, rfl, rfl⟩⟩

theorem Reachable.size_lt {teams statuses : List String} {size limit memory : Int} {dedupe : Bool}
    {s : Service} (h : Reachable teams statuses size limit dedupe memory s)
    (hlimit : limit ≤ noNetworkId) : s.directory.users.size < 10 ^ maxReplyBody := by
  have hsize : s.directory.users.size ≤ noNetworkId :=
    h.directory.size_le.trans (Int.toNat_le.mpr hlimit)
  have hfits : noNetworkId < 10 ^ 8 := by decide
  exact hsize.trans_lt (hfits.trans_le (Nat.pow_le_pow_right (by decide) (by decide)))

theorem acknowledge_eq_error {id : Nat} {f : Fault} (h : acknowledge id = .error f) :
    f = .body maxReplyBody := by
  obtain ⟨body, -, hmake⟩ := acknowledge_eq id
  exact Reply.make_eq_error (hmake ▸ h)

/-! ### Registrations -/

variable {s : Service}

theorem confirm_eq (hmemory : 0 ≤ s.memory) (sender : Option Address) (name : String) (id : Nat) :
    s.confirm sender name id = (acknowledge id, (s.remember sender name id).2) := by
  have hremembered : (s.remember sender name id).1 = .ok () := by
    unfold remember
    split
    · split
      · exact if_neg (Int.not_lt.mpr hmemory)
      · rfl
    · rfl
  rw [confirm, hremembered]
  rfl

theorem register_eq (hmemory : 0 ≤ s.memory) (name : String) (sender : Option Address) :
    s.register name sender =
      match s.repeated? sender name with
      | some r => (acknowledge r.networkId, (s.remember sender name r.networkId).2)
      | none =>
        match s.directory.register name with
        | .error f => (.error f, s)
        | .ok (directory, _) =>
          (acknowledge s.directory.users.size,
            ({ s with directory }.remember sender name s.directory.users.size).2) := by
  rw [register]
  cases s.repeated? sender name with
  | some r => exact confirm_eq hmemory _ _ _
  | none =>
    cases hregister : s.directory.register name with
    | error f => rfl
    | ok grown =>
      obtain ⟨directory, user⟩ := grown
      obtain ⟨-, -, rfl, -⟩ := Directory.register_eq_ok_iff.mp hregister
      exact confirm_eq (s := { s with directory }) hmemory _ _ _

theorem isRefusal_of_register {d : Directory} {name : String} {f : Fault}
    (h : d.register name = .error f) : f.isRefusal = true := by
  rw [Directory.register] at h
  split at h
  · cases h
    rfl
  · split at h
    · cases h
      rfl
    · cases h

/-! ### Faults are refusals -/

/-- An outcome that gets an answer: its fault, if there is one, is a refusal. -/
def IsAnswered (outcome : Except Fault Reply) : Prop :=
  ∀ f, outcome = .error f → f.isRefusal = true

theorem IsAnswered.replyTo_isOk {outcome : Except Fault Reply} (h : IsAnswered outcome) :
    ∃ reply, replyTo outcome = .ok reply := by
  cases outcome with
  | ok reply => exact ⟨reply, rfl⟩
  | error f => exact ⟨_, if_pos (h f rfl)⟩

theorem isAnswered_acknowledge (id : Nat) : IsAnswered (acknowledge id) := by
  intro f h
  rw [acknowledge_eq_error h]
  rfl

theorem isAnswered_register (hmemory : 0 ≤ s.memory) (name : String) (sender : Option Address) :
    IsAnswered (s.register name sender).1 := by
  rw [register_eq hmemory]
  cases s.repeated? sender name with
  | some r => exact isAnswered_acknowledge _
  | none =>
    cases hregister : s.directory.register name with
    | error f =>
      rintro _ ⟨⟩
      exact isRefusal_of_register hregister
    | ok grown => exact isAnswered_acknowledge _

namespace Sound

theorem isAnswered_updateStatus (hs : s.Sound) (r : Request) :
    IsAnswered (s.updateStatus r).1 := by
  intro f h
  rw [updateStatus_eq hs.seated] at h
  cases hu : s.directory.users[r.networkId]? with
  | none =>
    rw [hu] at h
    cases h
    rfl
  | some u =>
    rw [hu] at h
    cases hrefusal : s.directory.refusal? r.networkId u.team r.status.toNat r.team.toNat with
    | none =>
      simp only [hrefusal] at h
      cases h
    | some g =>
      simp only [hrefusal, Except.error.injEq] at h
      exact h ▸ Directory.isRefusal_of_refusal? hrefusal

/-- A roster can be packed, so that only its length can keep it from being sent. -/
theorem teamStatus_eq_error (hs : s.Sound) {r : Request} {f : Fault}
    (h : s.teamStatus r = .error f) :
    f = .team (.view r.team.toNat) ∨ f = .body maxReplyBody := by
  rw [teamStatus, Directory.teamView, if_pos (Int.natCast_nonneg _), Int.toNat_natCast] at h
  cases hteam : s.directory.teams[r.team.toNat]? with
  | none =>
    rw [hteam] at h
    cases h
    exact Or.inl rfl
  | some team =>
    obtain ⟨body, hbody⟩ := Wire.packTeamStatus_isOk
      ((s.directory.length_names team).trans (s.directory.length_statuses team).symm)
      (fun n hn => hs.seated.isEntry_of_mem_names hteam hn)
      fun status h => hs.seated.status_le_of_mem_statuses hteam h
    simp only [hteam, ok_bind, hbody] at h
    exact Or.inr (Reply.make_eq_error h)

theorem isAnswered_teamStatus (hs : s.Sound) (r : Request) : IsAnswered (s.teamStatus r) := by
  intro f h
  rcases hs.teamStatus_eq_error h with rfl | rfl <;> rfl

theorem isAnswered_answer (hs : s.Sound) (hmemory : 0 ≤ s.memory) (r : Request)
    (sender : Option Address) : IsAnswered (s.answer r sender).1 := by
  rw [answer]
  split
  · exact isAnswered_register hmemory _ _
  · exact hs.isAnswered_updateStatus r
  · exact hs.isAnswered_teamStatus r
  · rintro f ⟨⟩
  · rintro f ⟨⟩
    rfl

theorem handle_isOk (hs : s.Sound) (hmemory : 0 ≤ s.memory) (data : Bytes)
    (sender : Option Address) : ∃ reply, (s.handle data sender).1 = .ok reply := by
  rw [handle]
  cases Request.parse data with
  | error f => exact ⟨_, rfl⟩
  | ok r => exact (hs.isAnswered_answer hmemory r sender).replyTo_isOk

end Sound

theorem respond_of_handle {data : Bytes} {a : Address} {reply : Reply}
    (h : (s.handle data (some a)).1 = .ok reply) : (s.respond data a).1 = .reply reply := by
  rw [respond]
  dsimp only
  rw [h, Response.of, if_neg (Nat.not_lt.mpr reply.length_serialize.2)]

/-! ### What a reply tells of the service -/

/-- What comes of a registration. -/
inductive Registering (s : Service) (name : String) (sender : Option Address) :
    Except Fault Reply × Service → Prop
  /-- It gets the network ID of the one that it repeats. -/
  | repeated {r : Registration} {reply : Reply} (hr : s.repeated? sender name = some r)
      (hreply : acknowledge r.networkId = .ok reply) :
      Registering s name sender (.ok reply, (s.remember sender name r.networkId).2)
  | refused {f : Fault} (hr : s.repeated? sender name = none)
      (h : s.directory.register name = .error f) : Registering s name sender (.error f, s)
  /-- It gets the next network ID. -/
  | created {directory : Directory} {user : User} {reply : Reply}
      (hr : s.repeated? sender name = none)
      (h : s.directory.register name = .ok (directory, user))
      (hreply : acknowledge s.directory.users.size = .ok reply) :
      Registering s name sender
        (.ok reply, ({ s with directory }.remember sender name s.directory.users.size).2)

theorem Sound.registering (hs : s.Sound) (hmemory : 0 ≤ s.memory)
    (hids : s.directory.users.size < 10 ^ maxReplyBody) (name : String)
    (sender : Option Address) : Registering s name sender (s.register name sender) := by
  rw [register_eq hmemory]
  cases hr : s.repeated? sender name with
  | some r =>
    obtain ⟨u, hu, -⟩ := hs.remembered (mem_of_repeated? hr).1
    obtain ⟨reply, hreply⟩ :=
      acknowledge_isOk_iff.mpr ((Array.getElem?_eq_some_iff.mp hu).1.trans hids)
    simp only [hreply]
    exact .repeated hr hreply
  | none =>
    cases hregister : s.directory.register name with
    | error f => exact .refused hr hregister
    | ok grown =>
      obtain ⟨reply, hreply⟩ := acknowledge_isOk_iff.mpr hids
      simp only [hreply]
      exact .created hr hregister hreply

theorem updateStatus_cases (s : Service) (r : Request) :
    (s.updateStatus r).1 = .ok Reply.updated ∨ (s.updateStatus r).2 = s := by
  rw [updateStatus]
  split
  · exact Or.inr rfl
  · split
    · exact Or.inr rfl
    · exact Or.inl rfl

/-- **A reply that acknowledges nothing leaves the service as it was**: its records and rosters, the
next network ID, the room for users, and the memo with its order.

The bound on the number of users is the one on network IDs that a reply has room for, which have
more than a thousand digits. -/
theorem Reachable.eq_of_not_acknowledged {teams statuses : List String} {size limit memory : Int}
    {dedupe : Bool} (h : Reachable teams statuses size limit dedupe memory s)
    (hmemory : 0 ≤ memory) (hids : s.directory.users.size < 10 ^ maxReplyBody) (data : Bytes)
    (sender : Option Address) :
    ∃ reply, (s.handle data sender).1 = .ok reply ∧
      (reply.code ≠ ReplyKind.registered.code → reply.code ≠ ReplyKind.updated.code →
        (s.handle data sender).2 = s) := by
  have hs := h.sound
  have hmemory : 0 ≤ s.memory := h.fixed.2 ▸ hmemory
  obtain ⟨reply, hreply⟩ := hs.handle_isOk hmemory data sender
  refine ⟨reply, hreply, fun hregistered hupdated => ?_⟩
  cases hparse : Request.parse data with
  | error f => rw [handle, hparse]
  | ok r =>
    simp only [handle, hparse, answer] at hreply ⊢
    split at hreply
    · have hcases := hs.registering hmemory hids r.text sender
      generalize s.register r.text sender = out at hreply hcases ⊢
      cases hcases with
      | repeated hr hacknowledged | created hr h hacknowledged =>
        cases hreply
        exact absurd (networkId_of_acknowledge hacknowledged).1 hregistered
      | refused => rfl
    · obtain houtcome | hsame := s.updateStatus_cases r
      · rw [houtcome] at hreply
        cases hreply
        exact absurd rfl hupdated
      · exact hsame
    · rfl
    · rfl
    · rfl

theorem eq_of_not_acknowledged_crowding :
    ∃ s, host ["Red", "Blue"] ["Busy"] 1 100 true 4 = .ok s ∧
      ((s.after (crowding.take 3)).handle [2, 0, 0, 1, 0, 4, 0x26] none).1 =
        .ok (Reply.refusal "Team 0 is full") ∧
      ((s.after (crowding.take 3)).handle [2, 0, 0, 1, 0, 4, 0x26] none).2 =
        s.after (crowding.take 3) := by
  obtain ⟨s, h, hfull⟩ : ∃ s, host ["Red", "Blue"] ["Busy"] 1 100 true 4 = .ok s ∧
      ((s.after (crowding.take 3)).handle [2, 0, 0, 1, 0, 4, 0x26] none).1 =
        .ok (Reply.refusal "Team 0 is full") := ⟨_, rfl, by decide⟩
  have hreach := (Reachable.hosted h).after (crowding.take 3)
  obtain ⟨reply, hreply, hsame⟩ := Reachable.eq_of_not_acknowledged hreach (by decide)
    (hreach.size_lt (by decide)) [2, 0, 0, 1, 0, 4, 0x26] none
  obtain rfl := Except.ok.inj (hreply.symm.trans hfull)
  exact ⟨s, h, hfull, hsame (by decide) (by decide)⟩

end Service

end TeamPresence
