import TeamPresence.Proofs.Service.History

/-!
# Status updates

What a service does with a status update (`updateStatus_eq`), and what of it is seen in the
records: an update that is taken shows in the record of its user (`Records.of_accepted`), and no
datagram but such an update changes the record of a user (`users_handle`).
-/

namespace TeamPresence.Service

/-- The directory has this team and status on record for a network ID. -/
def Records (s : Service) (id : Int) (team status : Int) : Prop :=
  ∃ u, s.directory.user? id = some u ∧ u.team = team ∧ u.status = status

instance (s : Service) (id team status : Int) : Decidable (s.Records id team status) :=
  decidable_of_iff (∃ u ∈ s.directory.user? id, u.team = team ∧ u.status = status) Iff.rfl

/-- Whether a datagram is a status update for a network ID. -/
def IsUpdateFor (id : Int) (data : Bytes) : Prop :=
  ∃ r, Request.parse data = .ok r ∧ r.kind? = some .updateStatus ∧ r.networkId = id

instance (id : Int) (data : Bytes) : Decidable (IsUpdateFor id data) :=
  match h : Request.parse data with
  | .ok r =>
    decidable_of_iff (r.kind? = some .updateStatus ∧ r.networkId = id) (by simp [IsUpdateFor, h])
  | .error _ => isFalse (by simp [IsUpdateFor, h])

def Accepts (s : Service) (data : Bytes) (sender : Option Address) : Prop :=
  (s.handle data sender).1 = .ok Reply.updated

instance (s : Service) (data : Bytes) (sender : Option Address) :
    Decidable (s.Accepts data sender) := inferInstanceAs (Decidable (_ = _))

variable {s : Service}

/-! ### One update -/

theorem updateStatus_eq (hs : s.directory.Seated) (r : Request) :
    s.updateStatus r =
      match s.directory.users[r.networkId]? with
      | none => (.error (.unknownUser r.networkId), s)
      | some u =>
        match s.directory.refusal? r.networkId u.team r.status.toNat r.team.toNat with
        | some f => (.error f, s)
        | none =>
          (.ok Reply.updated,
            { s with
              directory :=
                s.directory.moved r.networkId u.team r.status.toNat r.team.toNat }) := by
  rw [updateStatus, Directory.user?_natCast]
  cases hu : s.directory.users[r.networkId]? with
  | none => rfl
  | some u =>
    simp only [Directory.update_member hu (hs.proper hu).team]
    cases s.directory.refusal? r.networkId u.team r.status.toNat r.team.toNat <;> rfl

theorem handle_update {data : Bytes} {r : Request} (hparse : Request.parse data = .ok r)
    (hkind : r.kind? = some .updateStatus) (sender : Option Address) :
    s.handle data sender = (replyTo (s.updateStatus r).1, (s.updateStatus r).2) := by
  simp only [handle, hparse, answer, hkind]

theorem code_of_replyTo_error {f : Fault} {reply : Reply} (h : replyTo (.error f) = .ok reply) :
    reply.code = ReplyKind.error.code := by
  rw [replyTo] at h
  split at h
  · cases h
    rfl
  · cases h

theorem ok_of_replyTo {outcome : Except Fault Reply} {reply : Reply}
    (h : replyTo outcome = .ok reply) (hcode : reply.code ≠ ReplyKind.error.code) :
    outcome = .ok reply := by
  cases outcome with
  | error f => exact absurd (code_of_replyTo_error h) hcode
  | ok taken => exact h

theorem replyTo_ne_updated (f : Fault) : replyTo (.error f) ≠ .ok Reply.updated :=
  fun h => absurd (code_of_replyTo_error h) (by decide)

theorem accepts_iff (hs : s.Sound) {data : Bytes} {r : Request}
    (hparse : Request.parse data = .ok r) (hkind : r.kind? = some .updateStatus)
    (sender : Option Address) :
    s.Accepts data sender ↔
      ∃ u, s.directory.users[r.networkId]? = some u ∧
        s.directory.refusal? r.networkId u.team r.status.toNat r.team.toNat = none := by
  rw [Accepts, handle_update hparse hkind, updateStatus_eq hs.seated]
  cases s.directory.users[r.networkId]? with
  | none => simpa using replyTo_ne_updated _
  | some u =>
    simp only [Option.some.injEq, exists_eq_left']
    cases s.directory.refusal? r.networkId u.team r.status.toNat r.team.toNat with
    | none => exact ⟨fun _ => rfl, fun _ => rfl⟩
    | some f => simpa using replyTo_ne_updated f

theorem updated_of_updateStatus {r : Request} {reply : Reply}
    (h : (s.updateStatus r).1 = .ok reply) : reply = Reply.updated := by
  rw [updateStatus] at h
  split at h
  · cases h
  · split at h
    · cases h
    · cases h
      rfl

theorem accepts_of_code {data : Bytes} {r : Request} (hparse : Request.parse data = .ok r)
    (hkind : r.kind? = some .updateStatus) {sender : Option Address} {reply : Reply}
    (h : (s.handle data sender).1 = .ok reply) (hcode : reply.code = ReplyKind.updated.code) :
    s.Accepts data sender := by
  rw [Accepts, handle_update hparse hkind]
  rw [handle_update hparse hkind] at h
  have houtcome := ok_of_replyTo h (by rw [hcode]; decide)
  dsimp only
  rw [houtcome, updated_of_updateStatus houtcome]
  rfl

theorem handle_update_of_accepts (hs : s.Sound) {data : Bytes} {r : Request} {u : User}
    (hparse : Request.parse data = .ok r) (hkind : r.kind? = some .updateStatus)
    {sender : Option Address} (hu : s.directory.users[r.networkId]? = some u)
    (h : s.Accepts data sender) :
    (s.handle data sender).2 =
      { s with
        directory := s.directory.moved r.networkId u.team r.status.toNat r.team.toNat } := by
  obtain ⟨v, hv, hnone⟩ := (accepts_iff hs hparse hkind sender).mp h
  obtain rfl := Option.some.inj (hu.symm.trans hv)
  simp only [handle_update hparse hkind, updateStatus_eq hs.seated, hu, hnone]

theorem handle_update_of_not_accepts (hs : s.Sound) {data : Bytes} {r : Request}
    (hparse : Request.parse data = .ok r) (hkind : r.kind? = some .updateStatus)
    {sender : Option Address} (h : ¬ s.Accepts data sender) : (s.handle data sender).2 = s := by
  rw [accepts_iff hs hparse hkind] at h
  rw [handle_update hparse hkind, updateStatus_eq hs.seated]
  cases hu : s.directory.users[r.networkId]? with
  | none => rfl
  | some u =>
    cases hrefusal : s.directory.refusal? r.networkId u.team r.status.toNat r.team.toNat with
    | none => exact absurd ⟨u, hu, hrefusal⟩ h
    | some f => simp only [hrefusal]

/-! ### The records -/

theorem Records.of_accepted (hs : s.Sound) {data : Bytes} {r : Request}
    (hparse : Request.parse data = .ok r) (hkind : r.kind? = some .updateStatus)
    {sender : Option Address} (h : s.Accepts data sender) :
    (s.handle data sender).2.Records r.networkId r.team.toNat r.status.toNat := by
  obtain ⟨u, hu, -⟩ := (accepts_iff hs hparse hkind sender).mp h
  refine ⟨{ u with status := r.status.toNat, team := r.team.toNat }, ?_, rfl, rfl⟩
  rw [handle_update_of_accepts hs hparse hkind hu h, Directory.user?_natCast,
    Directory.getElem?_users_moved hu, if_pos rfl]

theorem Records.accepts (hs : s.Sound) {data : Bytes} {r : Request}
    (hparse : Request.parse data = .ok r) (hkind : r.kind? = some .updateStatus)
    (sender : Option Address) (h : s.Records r.networkId r.team.toNat r.status.toNat) :
    s.Accepts data sender := by
  obtain ⟨u, hu, hteam, hstatus⟩ := h
  rw [Directory.user?_natCast] at hu
  have hproper := hs.seated.proper hu
  apply (accepts_iff hs hparse hkind sender).mpr
  refine ⟨u, hu, Directory.refusal?_eq_none_iff.mpr ⟨?_, ?_, Or.inl hteam.symm⟩⟩
  · rw [← hstatus]
    exact hproper.status
  · rw [← hteam]
    exact hproper.team

/-- **No datagram but an update that is taken changes the record of a user.** -/
theorem users_handle (hs : s.Sound) {id : Nat} {u : User} (hu : s.directory.users[id]? = some u)
    {data : Bytes} {sender : Option Address}
    (h : IsUpdateFor id data → ¬ s.Accepts data sender) :
    (s.handle data sender).2.directory.users[id]? = some u := by
  cases hparse : Request.parse data with
  | error f => simpa only [handle, hparse] using hu
  | ok r =>
    by_cases hkind : r.kind? = some .updateStatus
    · by_cases haccepts : s.Accepts data sender
      · have hid : r.networkId ≠ id := fun e => h ⟨r, hparse, hkind, by rw [e]⟩ haccepts
        obtain ⟨v, hv, -⟩ := (accepts_iff hs hparse hkind sender).mp haccepts
        rw [handle_update_of_accepts hs hparse hkind hv haccepts,
          Directory.getElem?_users_moved hv, if_neg (Ne.symm hid), hu]
      · rw [handle_update_of_not_accepts hs hparse hkind haccepts, hu]
    · simp only [handle, hparse, answer]
      split
      · rcases s.register_directory r.text sender with e | ⟨user, hregister⟩
        · rw [e, hu]
        · exact Directory.getElem?_users_register hregister hu
      · next hupdate => exact absurd hupdate hkind
      · exact hu
      · exact hu
      · exact hu

end TeamPresence.Service
