import TeamPresence.Proofs.Service.Grants
import TeamPresence.Proofs.Session.Pursuit
import TeamPresence.Proofs.Session.Sending

/-!
# Following a call

What happens to the packets of a call is, to the server, a history of datagrams
(`Service.undergo_eq_after`), in which it handles the packet of the call now and then
(`Service.handlings`). What is under way to the client has an explanation at the start of the call
or was brought by one of the events since; `Explains.invariant` keeps that through a pursuit.
-/

namespace TeamPresence

/-- The datagram that reaches the server when something happens to a packet. -/
def Event.datagram? (packet : Bytes) (a : Address) : Event → Option Service.Datagram
  | .handled _ => some ⟨packet, some a⟩
  | .elsewhere sender data => some ⟨data, some sender⟩
  | .planted _ _ => none

namespace Service

def datagrams (packet : Bytes) (a : Address) (E : List Event) : List Datagram :=
  E.filterMap (Event.datagram? packet a)

theorem datagrams_append (packet : Bytes) (a : Address) (E F : List Event) :
    datagrams packet a (E ++ F) = datagrams packet a E ++ datagrams packet a F :=
  List.filterMap_append

theorem undergo_eq_after (s : Service) (packet : Bytes) (a : Address) (E : List Event) :
    s.undergo packet a E = s.after (datagrams packet a E) := by
  induction E generalizing s with
  | nil => rfl
  | cons e rest ih => cases e <;> exact ih _

theorem undergo_after (s : Service) (l : List Datagram) (packet : Bytes) (a : Address)
    (E : List Event) :
    (s.after l).undergo packet a E = s.after (l ++ datagrams packet a E) := by
  rw [undergo_eq_after, after_append]

/-- The server as it is each time that it handles the packet of a call. -/
def handlings (packet : Bytes) (a : Address) (s : Service) : List Event → List Service
  | [] => []
  | .handled delay :: rest => s :: handlings packet a (Event.serve packet a s (.handled delay)) rest
  | .elsewhere sender data :: rest =>
    handlings packet a (Event.serve packet a s (.elsewhere sender data)) rest
  | .planted _ _ :: rest => handlings packet a s rest

variable {packet : Bytes} {a : Address} {s t : Service} {E F : List Event}

theorem handlings_append :
    s.handlings packet a (E ++ F) =
      s.handlings packet a E ++ (s.undergo packet a E).handlings packet a F := by
  induction E generalizing s with
  | nil => rfl
  | cons e rest ih =>
    cases e with
    | handled delay => exact congrArg (s :: ·) ih
    | elsewhere sender data => exact ih
    | planted data delay => exact ih

theorem mem_handlings :
    t ∈ s.handlings packet a E ↔
      ∃ before delay after, E = before ++ .handled delay :: after ∧
        t = s.undergo packet a before := by
  constructor
  · intro h
    induction E generalizing s with
    | nil => exact absurd h List.not_mem_nil
    | cons e rest ih =>
      have hlater : t ∈ (e.serve packet a s).handlings packet a rest →
          ∃ before delay after, e :: rest = before ++ .handled delay :: after ∧
            t = s.undergo packet a before := fun h => by
        obtain ⟨before, delay, after, rfl, rfl⟩ := ih h
        exact ⟨e :: before, delay, after, rfl, rfl⟩
      cases e with
      | handled delay =>
        rcases List.mem_cons.mp h with rfl | h
        · exact ⟨[], delay, rest, rfl, rfl⟩
        · exact hlater h
      | elsewhere sender data => exact hlater h
      | planted data delay => exact hlater h
  · rintro ⟨before, delay, after, rfl, rfl⟩
    rw [handlings_append]
    exact List.mem_append_right _ List.mem_cons_self

theorem pairwise_handlings {R : Service → Service → Prop}
    (h : ∀ (before mid after : List Event) (d d' : Option Rat),
      E = before ++ .handled d :: (mid ++ .handled d' :: after) →
        R (s.undergo packet a before) (s.undergo packet a (before ++ .handled d :: mid))) :
    (s.handlings packet a E).Pairwise R := by
  induction E generalizing s with
  | nil => exact .nil
  | cons e rest ih =>
    have hlater : ((e.serve packet a s).handlings packet a rest).Pairwise R :=
      ih fun before mid after d d' hrest =>
        h (e :: before) mid after d d' (congrArg (e :: ·) hrest)
    cases e with
    | handled delay =>
      refine List.pairwise_cons.mpr ⟨fun t ht => ?_, hlater⟩
      obtain ⟨mid, delay', after, rfl, rfl⟩ := mem_handlings.mp ht
      exact h [] mid after delay delay' rfl
    | elsewhere sender data => exact hlater
    | planted data delay => exact hlater

end Service

/-! ### What is under way to the client -/

/-- An explanation of what is under way after some events, which what they bring has too. -/
structure Explains (sv : Service) (packet : Bytes) (a : Address)
    (P : List Event → Bytes → Prop) : Prop where
  keep : ∀ {E : List Event} {data : Bytes} (e : Event), P E data → P (E ++ [e]) data
  brings : ∀ {E : List Event} {data : Bytes} {e : Event},
    e.Brings ((sv.undergo packet a E).respond packet a).1.packet? data → P (E ++ [e]) data

/-- Where the network stands when `E` has happened to the packets of a call. -/
structure Following (sv : Service) (packet : Bytes) (a : Address) (P : List Event → Bytes → Prop)
    (E : List Event) (n : Net) : Prop where
  address : n.link.address = a
  service : n.service = some (sv.undergo packet a E)
  explained : ∀ {data : Bytes}, n.link.transit.Carries data → P E data

namespace Explains

variable {sv : Service} {packet : Bytes} {a : Address} {P : List Event → Bytes → Prop}
  {E F : List Event} {n : Net}

theorem happen (hP : Explains sv packet a P) (h : Following sv packet a P E n) (e : Event) :
    Following sv packet a P (E ++ [e]) (n.happen packet e) := by
  constructor
  case address => rw [Net.happen_address, h.address]
  case service =>
    rw [Net.happen_service h.service, h.address, Service.undergo_append,
      Service.undergo_singleton]
  case explained =>
    intro data c
    rcases Net.carries_of_happen c with c | hbrings
    · exact hP.keep e (h.explained c)
    · rw [Net.serve_reply h.service, h.address] at hbrings
      exact hP.brings hbrings

theorem foldl_happen (hP : Explains sv packet a P) (h : Following sv packet a P E n)
    (F : List Event) : Following sv packet a P (E ++ F) (F.foldl (Net.happen packet) n) := by
  induction F generalizing E n with
  | nil => rwa [List.append_nil]
  | cons e rest ih =>
    rw [List.append_cons]
    exact ih (hP.happen h e)

theorem invariant (hP : Explains sv packet a P) (script : List Fate) :
    Invariant packet fun k n => n.link.script = script.drop k ∧
      Following sv packet a P (Fate.eventsOf script k) n := by
  constructor
  case send =>
    rintro k n ⟨hrest, h⟩
    rw [Net.send, Net.nextFate_eq hrest, Fate.eventsOf_succ]
    have hnext : Following sv packet a P (Fate.eventsOf script k)
        { n with link := { n.link with script := script.drop (k + 1) } } :=
      ⟨h.address, h.service, h.explained⟩
    exact ⟨Net.foldl_happen_script _ _ _, hP.foldl_happen hnext _⟩
  case wait =>
    rintro k n p ⟨hrest, h⟩
    exact ⟨hrest, h.address, h.service, fun c =>
      h.explained (Transit.carries_of_wait (Or.inr c))⟩
  case budget =>
    rintro k n b ⟨hrest, h⟩
    exact ⟨hrest, h.address, h.service, h.explained⟩

/-- **What an exchange returns has an explanation**, and the server has undergone what happened to
the packets that were sent. -/
theorem exchange {net : Net} (hP : Explains sv packet net.link.address P)
    (hservice : net.service = some sv)
    (hstart : ∀ {data : Bytes}, net.discard.link.transit.Carries data → P [] data) (m : Manner)
    (ask : Ask) :
    (m.exchange ask packet net).2.service =
        some (sv.undergo packet net.link.address
          (Fate.eventsOf net.link.script (m.exchange ask packet net).1.attempts.length)) ∧
      ∀ {reply : Reply}, (m.exchange ask packet net).1.outcome = .ok reply →
        (reply.code.toNat : Int) = ask.expected ∧
          ∃ data, Reply.parse data = .ok reply ∧
            P (Fate.eventsOf net.link.script (m.exchange ask packet net).1.attempts.length)
              data := by
  obtain ⟨⟨-, hfollowing⟩, hends⟩ := (hP.invariant net.link.script).pursue m ask 0 net.budget 0
    net.discard ⟨rfl, rfl, hservice, hstart⟩
  rw [Nat.zero_add] at hfollowing hends
  refine ⟨hfollowing.service, fun {reply} hreply => ?_⟩
  rcases hends with ⟨n, data, ⟨-, hn⟩, -, c, hsettled⟩ | ⟨made, hfailed⟩ | hfailed
  · rw [show (m.pursue ask packet 0 net.budget net.discard).outcome = .ok reply from hreply,
      Verdict.outcome?_eq_ok_iff] at hsettled
    exact ⟨hsettled.2, data, hsettled.1, hn.explained c⟩
  · exact absurd (hreply.symm.trans hfailed) (by simp)
  · exact absurd (hreply.symm.trans hfailed) (by simp)

end Explains

end TeamPresence
