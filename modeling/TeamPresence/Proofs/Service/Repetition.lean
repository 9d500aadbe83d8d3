import TeamPresence.Proofs.Service.Answers
import TeamPresence.Proofs.Service.Updates
import TeamPresence.Service.Response

/-!
# Requests that are repeated

A client sends a request again when it hears nothing, so a service may handle it more than once.
Every request but a registration is *steady*: handling it again changes nothing and gets the same
response (`Sound.handle_again`). Of a registration each acknowledgement names a user of that name
(`Sound.acknowledged`), whichever of them the client takes.
-/

namespace TeamPresence.Service

def IsRegistration (data : Bytes) : Prop :=
  ∃ r, Request.parse data = .ok r ∧ r.kind? = some .register

/-- Whether a service that has handled a datagram responds to it in the same way, and stays as it
is. -/
def Steady (s : Service) (data : Bytes) (a : Address) : Prop :=
  (s.respond data a).2.respond data a = s.respond data a

variable {s : Service}

theorem handle_update_again (hs : s.Sound) {data : Bytes} {r : Request}
    (hparse : Request.parse data = .ok r) (hkind : r.kind? = some .updateStatus)
    {sender : Option Address} (h : s.Accepts data sender) :
    (s.handle data sender).2.handle data sender = s.handle data sender := by
  obtain ⟨u, hu, -⟩ := (accepts_iff hs hparse hkind sender).mp h
  have hsound := (handle_effect s data sender).sound hs
  have hagain := (Records.of_accepted hs hparse hkind h).accepts hsound hparse hkind sender
  have hafter := handle_update_of_accepts hs hparse hkind hu h
  have hmoved := s.directory.moved_moved r.networkId u.team r.status.toNat r.team.toNat
  have hu' := Directory.getElem?_users_moved hu u.team r.status.toNat r.team.toNat r.networkId
  rw [if_pos rfl] at hu'
  rw [hafter] at hsound hagain
  refine Prod.ext ?_ ?_
  · rw [hafter]
    exact hagain.trans h.symm
  · rw [hafter, handle_update_of_accepts hsound hparse hkind hu' hagain, hmoved]

/-- **Only a registration can do more when it is handled again.** -/
theorem Sound.handle_again (hs : s.Sound) {data : Bytes} (h : ¬ IsRegistration data)
    (sender : Option Address) :
    (s.handle data sender).2.handle data sender = s.handle data sender := by
  have unchanged : (s.handle data sender).2 = s →
      (s.handle data sender).2.handle data sender = s.handle data sender := fun e => by rw [e]
  cases hparse : Request.parse data with
  | error f => exact unchanged (by rw [handle, hparse])
  | ok r =>
    by_cases hkind : r.kind? = some .updateStatus
    · by_cases haccepts : s.Accepts data sender
      · exact handle_update_again hs hparse hkind haccepts
      · exact unchanged (handle_update_of_not_accepts hs hparse hkind haccepts)
    · refine unchanged ?_
      simp only [handle, hparse, answer]
      split
      · next hregister => exact absurd ⟨r, hparse, hregister⟩ h
      · next hupdate => exact absurd hupdate hkind
      · rfl
      · rfl
      · rfl

theorem Sound.steady (hs : s.Sound) {data : Bytes} (h : ¬ IsRegistration data) (a : Address) :
    s.Steady data a := by
  have hagain := hs.handle_again h (some a)
  rw [Steady, show (s.respond data a).2 = (s.handle data (some a)).2 from rfl, respond, respond,
    hagain]

/-! ### Registrations -/

theorem acknowledge_of_confirm {sender : Option Address} {name : String} {id : Nat} {reply : Reply}
    (h : (s.confirm sender name id).1 = .ok reply) : acknowledge id = .ok reply := by
  rw [confirm] at h
  dsimp only at h
  cases hremembered : (s.remember sender name id).1 with
  | error f =>
    rw [hremembered] at h
    cases h
  | ok _ =>
    rw [hremembered] at h
    exact h

theorem Sound.acknowledged (hs : s.Sound) {name : String} {sender : Option Address} {reply : Reply}
    (h : (s.register name sender).1 = .ok reply) :
    ∃ (id : Nat) (u : User), reply.networkId = .ok id ∧
      (s.register name sender).2.directory.users[id]? = some u ∧ u.name = name := by
  rw [register] at h ⊢
  split at h
  · next r hr =>
    obtain ⟨hmem, rfl⟩ := mem_of_repeated? hr
    obtain ⟨u, hu, hname⟩ := hs.remembered hmem
    have hid := (networkId_of_acknowledge (acknowledge_of_confirm h)).2
    simp only [confirm_directory]
    exact ⟨r.networkId, u, hid, hu, hname⟩
  · next hr =>
    split at h
    · cases h
    · next directory user hregister =>
      obtain ⟨-, -, rfl, rfl⟩ := Directory.register_eq_ok_iff.mp hregister
      have hid := (networkId_of_acknowledge (acknowledge_of_confirm h)).2
      simp only [confirm_directory]
      exact ⟨_, _, hid, Array.getElem?_push_size, rfl⟩

end TeamPresence.Service
