import TeamPresence.Proofs.Wire.Requests
import TeamPresence.Session.Basic

/-!
# What a pursuit keeps

A pursuit sends a packet and waits, again and again. What each of the two keeps holds at its end,
and held when the datagram was taken that settled it (`Invariant.pursue`). So to tell what an answer
means it is enough to say what is under way after some packets were sent.
-/

namespace TeamPresence

/-- A property of the network after `k` packets that the steps of a pursuit keep. -/
structure Invariant (packet : Bytes) (I : Nat → Net → Prop) : Prop where
  send : ∀ {k : Nat} {n : Net}, I k n → I (k + 1) (n.send packet).2
  wait : ∀ {k : Nat} {n : Net} (p : Patience), I k n → I k (n.wait p).2
  budget : ∀ {k : Nat} {n : Net} (b : Nat), I k n → I k { n with budget := b }

/-! ### Verdicts -/

theorem Verdict.outcome?_eq_ok_iff {expected : Int} {data : Bytes} {giveUp : Bool} {r : Reply} :
    (Verdict.of expected (some data)).outcome? giveUp = some (.ok r) ↔
      Reply.parse data = .ok r ∧ r.code.toNat = expected := by
  rw [Verdict.of]
  cases Reply.parse data with
  | error f => simp [Verdict.outcome?]
  | ok reply =>
    simp only [Except.ok.injEq]
    by_cases hexpected : (reply.code.toNat : Int) = expected
    · rw [if_pos hexpected]
      simp only [Verdict.outcome?, Option.some.injEq, Except.ok.injEq, iff_self_and]
      rintro rfl
      exact hexpected
    · rw [if_neg hexpected]
      split
      · cases giveUp <;> simp_all [Verdict.outcome?] <;> grind
      · simp only [Verdict.outcome?, reduceCtorEq, false_iff, not_and]
        rintro rfl
        exact hexpected

theorem Verdict.outcome?_eq_error {expected : Int} {data : Bytes} {giveUp : Bool} {f : Fault}
    (h : (Verdict.of expected (some data)).outcome? giveUp = some (.error f)) :
    ∃ r, Reply.parse data = .ok r ∧ r.code = ReplyKind.error.code ∧ f = .rejected r.text := by
  rw [Verdict.of] at h
  split at h
  · cases h
  · next r hparse =>
    split at h
    · cases h
    · split at h
      · next hcode =>
        rw [Verdict.outcome?] at h
        split at h
        · cases h
          exact ⟨r, hparse, hcode, rfl⟩
        · cases h
      · cases h

/-! ### The pursuit -/

/-- How a pursuit ended: a datagram settled it, while the property held and the service was what it
still is; or none did. -/
def Pursuit.Ends (p : Pursuit) (ask : Ask) (J : Net → Prop) : Prop :=
  (∃ n data, J n ∧ n.service = p.net.service ∧ n.link.transit.Carries data ∧
    (Verdict.of ask.expected (some data)).outcome? ask.giveUp = some p.outcome) ∨
  (∃ made, p.outcome = .error (.unanswered ask.expected made)) ∨ p.outcome = .error .sendLimit

/-- **What sending and waiting keep, a pursuit keeps**, and it is settled by a datagram that was
under way while it held. -/
theorem Invariant.pursue {packet : Bytes} {I : Nat → Net → Prop} (hI : Invariant packet I)
    (m : Manner) (ask : Ask) (made budget k : Nat) (net : Net) (h : I k net) :
    I (k + (m.pursue ask packet made budget net).attempts.length)
        (m.pursue ask packet made budget net).net ∧
      (m.pursue ask packet made budget net).Ends ask
        (I (k + (m.pursue ask packet made budget net).attempts.length)) := by
  induction budget generalizing made k net with
  | zero =>
    refine ⟨hI.budget 0 h, Or.inr ?_⟩
    rw [Manner.pursue]
    by_cases hspent : m.isSpent made = true
    · exact Or.inl ⟨made, by simp only [hspent, if_true]⟩
    · exact Or.inr (by simp only [hspent]; rfl)
  | succ budget ih =>
    rw [Manner.pursue]
    by_cases hspent : m.isSpent made = true
    · rw [if_pos hspent]
      exact ⟨hI.budget _ h, Or.inr (Or.inl ⟨made, rfl⟩)⟩
    · rw [if_neg hspent]
      have hsent := hI.send h
      have hwaited := hI.wait m.timeout.patience hsent
      cases houtcome : (Verdict.of ask.expected
          ((net.send packet).2.wait m.timeout.patience).1).outcome? ask.giveUp with
      | none =>
        obtain ⟨hkept, hends⟩ := ih (made + 1) (k + 1) _ hwaited
        simp only [houtcome, List.length_cons]
        rw [show ∀ a : Nat, k + (a + 1) = k + 1 + a by omega]
        exact ⟨hkept, hends⟩
      | some outcome =>
        simp only [houtcome, List.length_singleton]
        refine ⟨hI.budget _ hwaited, Or.inl ?_⟩
        cases hreceived : ((net.send packet).2.wait m.timeout.patience).1 with
        | none =>
          rw [hreceived] at houtcome
          cases houtcome
        | some data =>
          rw [hreceived] at houtcome
          exact ⟨(net.send packet).2, data, hsent, rfl,
            Transit.carries_of_wait (Or.inl hreceived), houtcome⟩

/-! ### Requests -/

theorem Session.parse_of_packet {s : Session} {a : Ask} {packet : Bytes}
    (h : s.packet a = .ok packet) :
    ∃ r, Request.parse packet = .ok r ∧ (r.code.toNat : Int) = a.code ∧
      (r.networkId : Int) = s.networkId ∧ (r.team.toNat : Int) = a.team.getD s.team ∧
      (r.status.toNat : Int) = a.status.getD s.status ∧ r.body = a.body := by
  rw [Session.packet, bind_eq_ok_iff] at h
  obtain ⟨r, hmake, hserialize⟩ := h
  cases hserialize
  exact ⟨r, Request.parse_serialize r, Request.make_eq_ok_iff.mp hmake⟩

theorem Session.parse_packet (kind : RequestKind) {s : Session} {a : Ask} {packet : Bytes}
    (h : s.packet a = .ok packet) (hkind : a.code = kind.code.toNat) :
    ∃ r, Request.parse packet = .ok r ∧ r.kind? = some kind ∧
      (r.networkId : Int) = s.networkId ∧ (r.team.toNat : Int) = a.team.getD s.team ∧
      (r.status.toNat : Int) = a.status.getD s.status ∧ r.body = a.body := by
  obtain ⟨r, hparse, hcode, hrest⟩ := Session.parse_of_packet h
  refine ⟨r, hparse, ?_, hrest⟩
  rw [Request.kind?, UInt8.toNat_inj.mp (Int.ofNat_inj.mp (hcode.trans hkind)),
    RequestKind.ofCode?_code]

/-- What is not refused by the server. -/
def Fault.IsLocal (f : Fault) : Prop := ∀ text, f ≠ .rejected text

theorem Session.packet_ne_rejected (s : Session) (a : Ask) (text : String) :
    s.packet a ≠ .error (.rejected text) := by
  intro h
  rw [Session.packet] at h
  rcases bind_eq_error_iff.mp h with h | ⟨r, -, h⟩
  · rcases Request.make_eq_error h with ⟨cause, e⟩ | e <;> cases e
  · cases h

theorem Session.request_cases (s : Session) (a : Ask) (net : Net) :
    (∃ f, s.request a net = { result := .error f, session := s, net } ∧ f.IsLocal) ∨
    ∃ packet, s.packet a = .ok packet ∧
      s.request a net =
        { result := (s.manner.exchange a packet net).1.outcome, session := s
          net := (s.manner.exchange a packet net).2
          exchange := some (s.manner.exchange a packet net).1 } := by
  rw [Session.request]
  by_cases hopen : net.link.isOpen = true
  · simp only [hopen, Bool.not_true, Bool.false_eq_true, if_false]
    cases hpacket : s.packet a with
    | ok packet => exact Or.inr ⟨packet, rfl, rfl⟩
    | error f => exact Or.inl ⟨f, rfl, fun text e => s.packet_ne_rejected a text (e ▸ hpacket)⟩
  · simp only [hopen]
    exact Or.inl ⟨.closed, rfl, fun text e => by cases e⟩

theorem Session.request_session (s : Session) (a : Ask) (net : Net) :
    (s.request a net).session = s := by
  rcases s.request_cases a net with ⟨f, hrequest, -⟩ | ⟨packet, -, hrequest⟩
  · rw [hrequest]
  · rw [hrequest]

end TeamPresence
