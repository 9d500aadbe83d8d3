import Mathlib.Data.List.Infix
import TeamPresence.Proofs.Session.Following
import TeamPresence.Session.World

/-!
# When a session takes on what the server has

A session takes on a team and a status when an acknowledgement arrives, over a network that may
lose, repeat and delay datagrams at will. An acknowledgement does not tell which update it is for.

* `push_recorded_iff`: for an update that returns, the server had the values on record at some
  moment of the call exactly if it had them before or took one of the packets of the call. It did
  if no acknowledgement of an earlier call was still under way.
* `late_acknowledgement_adopted`: otherwise the server may never have them.
-/

namespace TeamPresence

def IsAcknowledgement (data : Bytes) : Prop :=
  ∃ r, Reply.parse data = .ok r ∧ r.code = ReplyKind.updated.code

/-- Whether an event is of a network that invents no datagram, and leaves the status updates for a
network ID to one client. -/
def Event.IsGenuine (id : Int) : Event → Prop
  | .handled _ => True
  | .elsewhere _ data => ¬ Service.IsUpdateFor id data
  | .planted _ _ => False

namespace Service

/-- Whether a service takes the packet of a client in the course of some events. -/
def Takes (s : Service) (packet : Bytes) (a : Address) (E : List Event) : Prop :=
  ∃ before delay after, E = before ++ .handled delay :: after ∧
    (s.undergo packet a before).Accepts packet (some a)

/-- Whether a service has a team and a status on record for a network ID before, between or after
some events. -/
def Sees (s : Service) (packet : Bytes) (a : Address) (E : List Event) (id team status : Int) :
    Prop :=
  ∃ before, before <+: E ∧ (s.undergo packet a before).Records id team status

instance (s : Service) (packet : Bytes) (a : Address) (E : List Event) (id team status : Int) :
    Decidable (s.Sees packet a E id team status) :=
  decidable_of_iff (∃ before ∈ E.inits, (s.undergo packet a before).Records id team status)
    (by simp only [Sees, List.mem_inits])

variable {s : Service} {packet : Bytes} {a : Address} {E : List Event}

theorem Takes.append (h : s.Takes packet a E) (F : List Event) : s.Takes packet a (E ++ F) := by
  obtain ⟨before, delay, after, rfl, haccepts⟩ := h
  exact ⟨before, delay, after ++ F, by simp, haccepts⟩

theorem takes_concat {delay : Option Rat}
    (h : (s.undergo packet a E).Accepts packet (some a)) :
    s.Takes packet a (E ++ [.handled delay]) := ⟨E, delay, [], rfl, h⟩

theorem users_serve (hs : s.Sound) {id : Nat} {u : User} (hu : s.directory.users[id]? = some u)
    {e : Event} (he : e.IsGenuine id)
    (h : ∀ delay, e = .handled delay → ¬ s.Accepts packet (some a)) :
    (e.serve packet a s).directory.users[id]? = some u := by
  cases e with
  | handled delay => exact users_handle hs hu fun _ => h delay rfl
  | elsewhere sender data => exact users_handle hs hu fun hupdate => absurd hupdate he
  | planted data delay => exact hu

theorem users_undergo (hs : s.Sound) {id : Nat} {u : User} (hu : s.directory.users[id]? = some u)
    (hE : ∀ e ∈ E, e.IsGenuine id) (h : ¬ s.Takes packet a E) :
    (s.undergo packet a E).directory.users[id]? = some u := by
  induction E using List.reverseRecOn with
  | nil => exact hu
  | append_singleton E e ih =>
    have hkept := ih (fun f hf => hE f (List.mem_append_left _ hf)) fun htakes =>
      h (htakes.append [e])
    rw [undergo_append, undergo_singleton]
    refine users_serve (sound_undergo hs packet a E) hkept (hE e (by simp)) ?_
    rintro delay rfl haccepts
    exact h (takes_concat haccepts)

theorem sees_iff (hs : s.Sound) {r : Request} (hparse : Request.parse packet = .ok r)
    (hkind : r.kind? = some .updateStatus) {u : User}
    (hu : s.directory.users[r.networkId]? = some u) (hE : ∀ e ∈ E, e.IsGenuine r.networkId) :
    s.Sees packet a E r.networkId r.team.toNat r.status.toNat ↔
      s.Records r.networkId r.team.toNat r.status.toNat ∨ s.Takes packet a E := by
  constructor
  · rintro ⟨before, hbefore, v, hv, hteam, hstatus⟩
    by_cases htakes : s.Takes packet a before
    · obtain ⟨after, rfl⟩ := hbefore
      exact Or.inr (htakes.append after)
    · have hkept := users_undergo hs hu (fun e he => hE e (hbefore.subset he)) htakes
      rw [Directory.user?_natCast, hkept] at hv
      obtain rfl := Option.some.inj hv
      exact Or.inl ⟨u, (Directory.user?_natCast _ _).trans hu, hteam, hstatus⟩
  · rintro (hrecords | ⟨before, delay, after, rfl, haccepts⟩)
    · exact ⟨[], List.nil_prefix, hrecords⟩
    · refine ⟨before ++ [.handled delay], ⟨after, by simp⟩, ?_⟩
      rw [undergo_append, undergo_singleton]
      exact Records.of_accepted (sound_undergo hs packet a before) hparse hkind haccepts

end Service

/-! ### What is under way -/

theorem Service.explains_acknowledgement {packet : Bytes} {r : Request}
    (hparse : Request.parse packet = .ok r) (hkind : r.kind? = some .updateStatus) (id : Int)
    (a : Address) (leftOver : Bytes → Prop) (sv : Service) :
    Explains sv packet a fun E data => (∀ e ∈ E, e.IsGenuine id) → IsAcknowledgement data →
      leftOver data ∨ sv.Takes packet a E := by
  constructor
  case keep =>
    intro E data e h hE hack
    exact (h (fun f hf => hE f (List.mem_append_left _ hf)) hack).imp_right fun htakes =>
      htakes.append [e]
  case brings =>
    intro E data e hbrings hE hack
    cases e with
    | handled delay =>
      cases delay with
      | none => cases hbrings
      | some d =>
        -- the reply to the packet is an acknowledgement only if the update was taken
        obtain ⟨reply, hreply, rfl⟩ := reply_of_packet? hbrings
        obtain ⟨reply', hparse', hcode⟩ := hack
        rw [Reply.parse_serialize] at hparse'
        cases hparse'
        exact Or.inr (takes_concat (accepts_of_code hparse hkind hreply hcode))
    | elsewhere sender data => cases hbrings
    | planted data delay => exact (hE (.planted data delay) (by simp)).elim

namespace Session

theorem push_eq_ok {s : Session} {net : Net} {team status : Int} {giveUp : Bool}
    (hok : (s.push team status giveUp net).result = .ok ()) :
    ∃ packet reply, s.packet (stateUpdate team status giveUp) = .ok packet ∧
      (s.manner.exchange (stateUpdate team status giveUp) packet net).1.outcome = .ok reply ∧
      (s.push team status giveUp net).net =
        (s.manner.exchange (stateUpdate team status giveUp) packet net).2 ∧
      (s.push team status giveUp net).sent =
        (s.manner.exchange (stateUpdate team status giveUp) packet net).1.sent := by
  rw [push] at hok ⊢
  rcases s.request_cases (stateUpdate team status giveUp) net with
    ⟨f, hrequest, -⟩ | ⟨packet, hpacket, hrequest⟩
  · rw [hrequest] at hok
    cases hok
  · rw [hrequest] at hok ⊢
    cases houtcome : (s.manner.exchange (stateUpdate team status giveUp) packet net).1.outcome with
    | error f =>
      simp only [Run.reading, houtcome] at hok
      cases hok
    | ok reply =>
      simp only [Run.reading]
      exact ⟨packet, reply, hpacket, houtcome, rfl, rfl⟩

/-- **When the values that a session takes on were on record.** Let an update of a registered client
return, over a network that loses, repeats and delays datagrams as it likes. Then the server had the
values on record at some moment of the call exactly if it had them at its start or took one of its
packets; and it took one if no acknowledgement was left over when the call began. -/
theorem push_recorded_iff {teams statuses : List String} {size limit memory : Int} {dedupe : Bool}
    {sv : Service} (hreach : Service.Reachable teams statuses size limit dedupe memory sv)
    {s : Session} {net : Net} {id : Nat} {u : User} (hid : s.networkId = id)
    (hu : sv.directory.users[id]? = some u) (hservice : net.service = some sv)
    (hscript : ∀ f ∈ net.link.script, ∀ e ∈ f.events, e.IsGenuine id)
    {team status : Int} {giveUp : Bool}
    (hok : (s.push team status giveUp net).result = .ok ()) :
    ∃ packet E, s.packet (stateUpdate team status giveUp) = .ok packet ∧
      (∀ p ∈ (s.push team status giveUp net).sent, p = packet) ∧
      E = Fate.eventsOf net.link.script (s.push team status giveUp net).sent.length ∧
      (s.push team status giveUp net).net.service =
        some (sv.undergo packet net.link.address E) ∧
      (sv.Sees packet net.link.address E id team status ↔
        sv.Records id team status ∨ sv.Takes packet net.link.address E) ∧
      ((∀ data, net.discard.link.transit.Carries data → ¬ IsAcknowledgement data) →
        sv.Takes packet net.link.address E) := by
  obtain ⟨packet, reply, hpacket, houtcome, hnet, hsent⟩ := push_eq_ok hok
  obtain ⟨r, hparse, hkind, hrid, hteam, hstatus, -⟩ :=
    parse_packet .updateStatus hpacket rfl
  have hrid : r.networkId = id := by omega
  have hteam : (r.team.toNat : Int) = team := hteam
  have hstatus : (r.status.toNat : Int) = status := hstatus
  rw [hnet, hsent]
  simp only [Exchange.sent, List.length_map]
  have hgenuine : ∀ e ∈ Fate.eventsOf net.link.script
      (s.manner.exchange (stateUpdate team status giveUp) packet net).1.attempts.length,
      e.IsGenuine r.networkId := fun e he =>
    Fate.forall_mem_eventsOf (hrid ▸ hscript) trivial he
  obtain ⟨hafter, hanswer⟩ := (Service.explains_acknowledgement hparse hkind r.networkId
    net.link.address (fun data => net.discard.link.transit.Carries data) sv).exchange hservice
    (fun c _ _ => Or.inl c) s.manner (stateUpdate team status giveUp)
  refine ⟨packet, _, hpacket, ?_, rfl, hafter, ?_, fun hnone => ?_⟩
  · intro p hp
    obtain ⟨-, -, rfl⟩ := List.mem_map.mp hp
    rfl
  · have hsees := @Service.sees_iff sv packet net.link.address _ hreach.sound r hparse hkind u
      (hrid ▸ hu) hgenuine
    rwa [hrid, hteam, hstatus] at hsees
  · obtain ⟨hexpected, data, hreply, hexplained⟩ := hanswer houtcome
    have hack : IsAcknowledgement data :=
      ⟨reply, hreply, UInt8.toNat_inj.mp (Int.ofNat_inj.mp hexpected)⟩
    exact (hexplained hgenuine hack).resolve_left fun c => hnone data c hack

/-- A network that loses a packet and then a reply. -/
def lossyNet (sv : Service) : Net := {
  service := some sv
  link := {
    address := ⟨"127.0.0.1", 40000⟩, isOpen := true
    script := [{ events := [] }, { events := [.handled none] }] } }

theorem push_recorded_iff_lossy :
    ∃ sv u, Service.Reachable ["Red"] ["Busy"] 1 100 true 4 sv ∧
      sv.directory.users[0]? = some u ∧
      (∀ f ∈ (lossyNet sv).link.script, ∀ e ∈ f.events, e.IsGenuine 0) ∧
      (push { manner := ⟨.one, none⟩, networkId := 0 } 0 1 false (lossyNet sv)).result = .ok () ∧
      ∃ packet E, sv.Sees packet (lossyNet sv).link.address E 0 0 1 ∧
        sv.Takes packet (lossyNet sv).link.address E := by
  let registration : Bytes := [1, 0xff, 0xff, 0xff, 0xff, 0xff, 0x41]
  obtain ⟨s, h⟩ : ∃ s, Service.host ["Red"] ["Busy"] 1 100 true 4 = .ok s := ⟨_, rfl⟩
  have hrun : ∀ s ∈ (Service.host ["Red"] ["Busy"] 1 100 true 4).toOption,
      (s.handle registration none).2.directory.users[0]? = some { networkId := 0, name := "A" } ∧
      (push { manner := ⟨.one, none⟩, networkId := 0 } 0 1 false
        (lossyNet (s.handle registration none).2)).result = .ok () := by
    decide +kernel
  obtain ⟨hu, hok⟩ := hrun s (by rw [h]; rfl)
  have hreach := (Service.Reachable.hosted h).handled registration none
  have hscript : ∀ f ∈ (lossyNet (s.handle registration none).2).link.script,
      ∀ e ∈ f.events, e.IsGenuine 0 := by
    simp [lossyNet, Event.IsGenuine]
  have hid : (Session.networkId { manner := ⟨.one, none⟩, networkId := 0 }) = (0 : Nat) := rfl
  obtain ⟨packet, E, -, -, -, -, hsees, htakes⟩ :=
    push_recorded_iff hreach hid hu rfl hscript hok
  have htakes := htakes fun data c =>
    absurd c (by simp [lossyNet, Net.discard, Transit.discard, Transit.Carries])
  exact ⟨_, _, hreach, hu, hscript, hok, packet, E, hsees.mpr (Or.inr htakes), htakes⟩

/-! ### Acknowledgements that are left over -/

/-- A run up to the last call: a client registers and updates its status, and the acknowledgement of
the first packet comes only after that of the second. -/
def beforeLastCall : Option World := do
  let sv ← (Service.host ["Red", "Blue"] ["Busy", "Free"] defaultRosterSize noNetworkId true
    defaultMemory).toOption
  let late : Fate := { events := [.handled (some (Clock.delayOfMilliseconds 300))] }
  let lost : Fate := { events := [] }
  let world : World := {
    service := some sv
    clients := [{
      session := { manner := ⟨.finite false 0x1999999999999a (-55), some 2⟩ }
      link := {
        address := ⟨"127.0.0.1", 40000⟩
        script := [.delivered, late, .delivered, lost, lost] } }] }
  let (_, world) ← world.act 0 .openEndpoint
  let (_, world) ← world.act 0 (.register "Alice")
  let (_, world) ← world.act 0 (.updateStatus 0 false)
  return world

/-- A late acknowledgement is taken for that of the next update. The update returns, although
its packet is lost and the server never has the new status on record. -/
theorem late_acknowledgement_adopted :
    ∃ world ∈ beforeLastCall, ∃ sv ∈ world.service, ∃ c ∈ world.clients,
      (c.session.updateStatus 1 false (world.net c)).result = .ok () ∧
      (c.session.updateStatus 1 false (world.net c)).net.service = some sv ∧
      ∀ packet ∈ (c.session.updateStatus 1 false (world.net c)).sent,
        ¬ sv.Sees packet c.link.address
          (Fate.eventsOf c.link.script (c.session.updateStatus 1 false (world.net c)).sent.length)
          c.session.networkId c.session.team 1 := by
  decide +kernel

end Session

end TeamPresence
