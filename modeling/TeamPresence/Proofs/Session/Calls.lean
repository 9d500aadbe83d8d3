import TeamPresence.Proofs.Service.Repetition
import TeamPresence.Proofs.Session.Promptness

/-!
# Requests over a calm network

A request over a network that delays nothing is settled by a datagram that was sent while it was
made (`Keeps.request`). If the server handles a repeated packet as it handled it at first, the
request is answered as if the packet was handled once (`Session.request_steady`).
-/

namespace TeamPresence

variable {s : Session} {ask : Ask} {net : Net} {a : Address} {start : Rat} {sv : Service}
  {packet : Bytes}

theorem Keeps.request {K : Service → (Bytes → Prop) → Prop} (hpacket : s.packet ask = .ok packet)
    (hK : Keeps packet a K) (hstart : K sv fun _ => False) (h : net.Calm a start)
    (hservice : net.service = some sv) :
    (s.request ask net).net.Calm a start ∧
      ∃ sv' C, (s.request ask net).net.service = some sv' ∧ K sv' C ∧
        ((∃ f, (s.request ask net).result = .error f ∧ f.IsLocal) ∨
          ∃ data, C data ∧ (Verdict.of ask.expected (some data)).outcome? ask.giveUp =
            some (s.request ask net).result) := by
  rcases s.request_cases ask net with ⟨f, hrequest, hlocal⟩ | ⟨packet', hpacket', hrequest⟩
  · rw [hrequest]
    exact ⟨h, sv, _, hservice, hstart, Or.inl ⟨f, rfl, hlocal⟩⟩
  · obtain rfl := Except.ok.inj (hpacket.symm.trans hpacket')
    have hnothing : K sv fun data => net.discard.link.transit.Carries data :=
      hK.fewer (fun data c => Transit.not_carries_discard h.arrived data c) hstart
    obtain ⟨⟨hcalm, sv', hsv', hkept⟩, hends⟩ :=
      (hK.invariant start).pursue s.manner ask 0 net.budget 0 net.discard
        ⟨h.discard, sv, hservice, hnothing⟩
    rw [hrequest]
    refine ⟨hcalm, ?_⟩
    rcases hends with ⟨n, data, ⟨-, sn, hsn, hn⟩, hsame, c, hsettled⟩ | ⟨made, hfailed⟩ | hfailed
    · exact ⟨sn, _, hsame.symm.trans hsn, hn, Or.inr ⟨data, c, hsettled⟩⟩
    · exact ⟨sv', _, hsv', hkept, Or.inl ⟨_, hfailed, fun text e => by cases e⟩⟩
    · exact ⟨sv', _, hsv', hkept, Or.inl ⟨_, hfailed, fun text e => by cases e⟩⟩

/-! ### Soundness -/

theorem keeps_sound (packet : Bytes) (a : Address) : Keeps packet a fun s _ => s.Sound := by
  constructor
  case fewer => exact fun _ hs => hs
  case respond => exact fun {s C} hs => (s.handle_effect packet (some a)).sound hs

theorem Session.request_calm (s : Session) (ask : Ask) (h : net.Calm a start)
    (hservice : net.service = some sv) (hs : sv.Sound) :
    (s.request ask net).net.Calm a start ∧
      ∃ sv', (s.request ask net).net.service = some sv' ∧ sv'.Sound := by
  rcases s.request_cases ask net with ⟨f, hrequest, -⟩ | ⟨packet, hpacket, -⟩
  · rw [hrequest]
    exact ⟨h, sv, hservice, hs⟩
  · obtain ⟨hcalm, sv', C, hsv', hsound, -⟩ :=
      (keeps_sound packet a).request hpacket hs h hservice
    exact ⟨hcalm, sv', hsv', hsound⟩

/-! ### Steady requests -/

/-- A steady packet was not handled yet and nothing is under way, or it was handled and only its
response is. -/
theorem Service.Steady.keeps (h : sv.Steady packet a) :
    Keeps packet a fun s C => (s = sv ∧ ∀ data, ¬ C data) ∨
      (s = (sv.respond packet a).2 ∧
        ∀ data, C data → (sv.respond packet a).1.packet? = some data) := by
  constructor
  case fewer =>
    rintro s C D hsub (⟨rfl, hnone⟩ | ⟨rfl, hall⟩)
    · exact Or.inl ⟨rfl, fun data hd => hnone data (hsub data hd)⟩
    · exact Or.inr ⟨rfl, fun data hd => hall data (hsub data hd)⟩
  case respond =>
    rintro s C (⟨rfl, hnone⟩ | ⟨rfl, hall⟩)
    · exact Or.inr ⟨rfl, fun data hd => hd.resolve_left (hnone data)⟩
    · rw [h]
      exact Or.inr ⟨rfl, fun data hd => hd.elim (hall data) id⟩

/-- **A steady request is answered as if it was handled once.** -/
theorem Session.request_steady (s : Session) (ask : Ask)
    (hsteady : ∀ packet, s.packet ask = .ok packet → sv.Steady packet a)
    (h : net.Calm a start) (hservice : net.service = some sv) :
    (∃ f, (s.request ask net).result = .error f ∧ f.IsLocal) ∨
      ∃ packet reply, s.packet ask = .ok packet ∧
        (sv.handle packet (some a)).1 = .ok reply ∧
        (s.request ask net).net.service = some (sv.handle packet (some a)).2 ∧
        (Verdict.of ask.expected (some reply.serialize)).outcome? ask.giveUp =
          some (s.request ask net).result := by
  rcases s.request_cases ask net with ⟨f, hrequest, hlocal⟩ | ⟨packet, hpacket, -⟩
  · rw [hrequest]
    exact Or.inl ⟨f, rfl, hlocal⟩
  · obtain ⟨-, sv', C, hsv', hkept, hfailed | ⟨data, hd, hsettled⟩⟩ :=
      (hsteady packet hpacket).keeps.request hpacket (Or.inl ⟨rfl, fun _ => id⟩) h hservice
    · exact Or.inl hfailed
    · rcases hkept with ⟨-, hnone⟩ | ⟨rfl, hall⟩
      · exact absurd hd (hnone data)
      · obtain ⟨reply, hreply, rfl⟩ := Service.reply_of_packet? (hall data hd)
        exact Or.inr ⟨packet, reply, hpacket, hreply, hsv', hsettled⟩

end TeamPresence
