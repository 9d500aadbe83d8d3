import TeamPresence.Proofs.Service.Registrations
import TeamPresence.Proofs.Session.Adoption
import TeamPresence.Proofs.Session.Following
import TeamPresence.Proofs.Session.Operations

/-!
# Registering once

A client sends its registration again when it hears nothing, so the server may handle it any number
of times, during the call and after it. **`Session.register_once`**: as long as the memo has room
for those who register in between, all these handlings create at most one user and are acknowledged
with one network ID, and the call returns that ID if it returns any.

Of any two handlings the later one gets the network ID of the earlier one again, if that was
acknowledged (`Undisturbed.pairwise_echoes`). What is under way to the client is the acknowledgement
of a handling, or acknowledges no registration (`explains_answered`), and so is what the call
returns (`exchange_registration`).
-/

namespace TeamPresence

/-- Whether a datagram acknowledges a registration. -/
def IsGrant (data : Bytes) : Prop :=
  ∃ r, Reply.parse data = .ok r ∧ r.code = ReplyKind.registered.code

/-- Whether an event is nothing but that the server handles the packet. -/
def Event.IsHandling : Event → Prop
  | .handled _ => True
  | .elsewhere _ _ | .planted _ _ => False

namespace Service

/-- Whether a service answered an address with these bytes in the course of a history. -/
def SentTo (s : Service) (l : List Datagram) (a : Address) (data : Bytes) : Prop :=
  ∃ x ∈ s.dialogue l, x.1.sender = some a ∧ ∃ reply, x.2 = .ok reply ∧ data = reply.serialize

/-- Whether a service answered the packet of a call with these bytes in the course of some
events. -/
def Answered (packet : Bytes) (a : Address) (s : Service) (E : List Event) (data : Bytes) : Prop :=
  ∃ t ∈ s.handlings packet a E, (t.respond packet a).1.packet? = some data

/-- The addresses other than the client's that are granted a network ID in the course of some
events. -/
def othersGranted (packet : Bytes) (a : Address) (s : Service) (E : List Event) : Finset Address :=
  Memo.others a (registrations (s.grants (datagrams packet a E)))

/-- Whether no acknowledgement of a registration is forged in the course of some events: what
arrives besides the answers to the packet is a copy of one, or acknowledges no registration. -/
def Genuine (packet : Bytes) (a : Address) (s : Service) (E : List Event) : Prop :=
  ∀ (before after : List Event) (data : Bytes) (delay : Rat),
    E = before ++ .planted data delay :: after → IsGrant data → Answered packet a s before data

/-- What others may do while a server handles the packet of a registration again and again. -/
structure Undisturbed (packet : Bytes) (a : Address) (s : Service) (E : List Event) : Prop where
  /-- The memo has room for those who are granted a network ID between two handlings. -/
  room : ∀ (before mid after : List Event) (d d' : Option Rat),
    E = before ++ .handled d :: (mid ++ .handled d' :: after) →
      (othersGranted packet a (s.undergo packet a (before ++ [.handled d])) mid).card < s.memory
  /-- Nobody registers another name from the client's address before the last handling. -/
  sameName : ∀ (before mid after : List Event) (data : Bytes) (d : Option Rat),
    E = before ++ .elsewhere a data :: (mid ++ .handled d :: after) →
      ∀ {q r : Request}, Request.parse data = .ok q → q.kind? = some .register →
        Request.parse packet = .ok r → q.text = r.text
  genuine : Genuine packet a s E

/-- The users that a service adds when it handles a packet. -/
def growth (packet : Bytes) (a : Address) (s : Service) : Nat :=
  (s.handle packet (some a)).2.directory.users.size - s.directory.users.size

/-! ### What is under way -/

section UnderWay

variable {packet : Bytes} {a : Address} {s : Service} {E : List Event}

theorem Genuine.of_append {F : List Event} (h : Genuine packet a s (E ++ F)) :
    Genuine packet a s E := fun before after data delay hE hgrant =>
  h before (after ++ F) data delay (by rw [hE, List.append_assoc, List.cons_append]) hgrant

theorem genuine_nil : Genuine packet a s [] := fun before after data delay hE =>
  absurd hE (by simp)

theorem Answered.append {data : Bytes} (h : Answered packet a s E data) (F : List Event) :
    Answered packet a s (E ++ F) data := by
  obtain ⟨t, ht, hreply⟩ := h
  exact ⟨t, by rw [handlings_append]; exact List.mem_append_left _ ht, hreply⟩

theorem answered_or_planted {data : Bytes} {e : Event}
    (h : e.Brings ((s.undergo packet a E).respond packet a).1.packet? data) :
    Answered packet a s (E ++ [e]) data ∨ ∃ delay, e = .planted data delay := by
  cases e with
  | handled delay =>
    cases delay with
    | none => cases h
    | some d => exact Or.inl ⟨_, mem_handlings.mpr ⟨E, some d, [], rfl, rfl⟩, h⟩
  | elsewhere sender sent => cases h
  | planted sent delay =>
    obtain rfl : sent = data := h
    exact Or.inr ⟨delay, rfl⟩

theorem explains_answered (packet : Bytes) (a : Address) (s : Service) :
    Explains s packet a fun E data =>
      Genuine packet a s E → IsGrant data → Answered packet a s E data := by
  constructor
  case keep => exact fun e h hgenuine hgrant => (h hgenuine.of_append hgrant).append [e]
  case brings =>
    intro E data e hbrings hgenuine hgrant
    rcases answered_or_planted hbrings with hanswered | ⟨delay, rfl⟩
    · exact hanswered
    · exact (hgenuine E [] data delay rfl hgrant).append _

theorem exchange_registration {net : Net} (hservice : net.service = some s)
    (hstart : ∀ data, net.link.transit.Carries data → ¬ IsGrant data) (m : Manner) (body : Bytes)
    {k : Nat} (hk : (m.exchange (Session.registration body) packet net).1.attempts.length = k)
    (hgenuine : Genuine packet net.link.address s (Fate.eventsOf net.link.script k)) :
    (m.exchange (Session.registration body) packet net).2.service =
        some (s.undergo packet net.link.address (Fate.eventsOf net.link.script k)) ∧
      ∀ reply, (m.exchange (Session.registration body) packet net).1.outcome = .ok reply →
        reply.code = ReplyKind.registered.code ∧
          ∃ t ∈ s.handlings packet net.link.address (Fate.eventsOf net.link.script k),
            (t.handle packet (some net.link.address)).1 = .ok reply := by
  subst hk
  obtain ⟨hafter, hanswer⟩ := (explains_answered packet net.link.address s).exchange hservice
    (fun c _ hgrant => absurd hgrant (hstart _ (Transit.carries_of_discard c))) m
    (Session.registration body)
  refine ⟨hafter, fun reply hreply => ?_⟩
  obtain ⟨hexpected, data, hdata, hanswered⟩ := hanswer hreply
  have hcode : reply.code = ReplyKind.registered.code :=
    UInt8.toNat_inj.mp (Int.ofNat_inj.mp hexpected)
  obtain ⟨t, ht, hpacket⟩ := hanswered hgenuine ⟨reply, hdata, hcode⟩
  obtain ⟨reply', hhandled, rfl⟩ := reply_of_packet? hpacket
  obtain rfl := Except.ok.inj ((Reply.parse_serialize reply').symm.trans hdata)
  exact ⟨hcode, t, ht, hhandled⟩

end UnderWay

theorem undisturbed_of_isHandling {packet : Bytes} {a : Address} {s : Service} {E : List Event}
    (hE : ∀ e ∈ E, e.IsHandling) (hmemory : 0 < s.memory) : Undisturbed packet a s E := by
  constructor
  case room =>
    intro before mid after d d' hsplit
    have hnobody :
        othersGranted packet a (s.undergo packet a (before ++ [.handled d])) mid = ∅ := by
      refine Finset.eq_empty_of_forall_notMem fun b hb => ?_
      obtain ⟨hne, hsender⟩ := Finset.mem_erase.mp hb
      obtain ⟨e, he, rfl⟩ := Memo.mem_senders.mp hsender
      obtain ⟨x, hx, hgrant⟩ := List.mem_filterMap.mp (mem_registrations.mp he)
      obtain ⟨event, hevent, hdatagram⟩ := List.mem_filterMap.mp (List.of_mem_zip hx).1
      have hhandling := hE event (by rw [hsplit]; simp [hevent])
      cases event with
      | handled delay =>
        have hfrom := sender_of_grant? hgrant
        rw [← Option.some.inj hdatagram] at hfrom
        exact hne (Option.some.inj hfrom)
      | elsewhere sender data => exact hhandling
      | planted data delay => exact hhandling
    rw [hnobody, Finset.card_empty]
    exact hmemory
  case sameName =>
    intro before mid after data d hsplit
    exact (hE (.elsewhere a data) (by rw [hsplit]; simp)).elim
  case genuine =>
    intro before after data delay hsplit
    exact (hE (.planted data delay) (by rw [hsplit]; simp)).elim

/-! ### The handlings of a registration -/

/-- Whether what is assigned once is assigned again, without another user. -/
def Echoes (packet : Bytes) (a : Address) (t t' : Service) : Prop :=
  ∀ id : Nat, t.Assigns packet (some a) id → t'.Reissues packet (some a) id

section Echoes

variable {packet : Bytes} {a : Address} {L : List Service}

theorem growth_of_reissues {t : Service} {id : Nat} (h : t.Reissues packet (some a) id) :
    growth packet a t = 0 := by
  rw [growth, h.2.2, Nat.sub_self]

theorem exists_assigned (hL : L.Pairwise (Echoes packet a)) :
    ∃ id : Nat, ∀ t ∈ L, ∀ id' : Nat, t.Assigns packet (some a) id' → id' = id := by
  induction L with
  | nil => exact ⟨0, fun t ht => absurd ht List.not_mem_nil⟩
  | cons t rest ih =>
    obtain ⟨hfirst, hrest⟩ := List.pairwise_cons.mp hL
    by_cases hassigned : ∃ id, t.Assigns packet (some a) id
    · obtain ⟨id, hid⟩ := hassigned
      refine ⟨id, fun t' ht' id' hid' => ?_⟩
      rcases List.mem_cons.mp ht' with rfl | ht'
      · exact hid'.unique hid
      · exact hid'.unique (hfirst t' ht' id hid).1
    · obtain ⟨id, hall⟩ := ih hrest
      refine ⟨id, fun t' ht' id' hid' => ?_⟩
      rcases List.mem_cons.mp ht' with rfl | ht'
      · exact absurd ⟨id', hid'⟩ hassigned
      · exact hall t' ht' id' hid'

/-- Handlings that echo each other add one user at most, if those that add one assign its
network ID. -/
theorem sum_growth_le_one (hL : L.Pairwise (Echoes packet a))
    (hgrowth : ∀ t ∈ L, growth packet a t = 0 ∨
      growth packet a t = 1 ∧ ∃ id, t.Assigns packet (some a) id) :
    (L.map (growth packet a)).sum ≤ 1 := by
  induction L with
  | nil => exact Nat.zero_le _
  | cons t rest ih =>
    obtain ⟨hfirst, hrest⟩ := List.pairwise_cons.mp hL
    rw [List.map_cons, List.sum_cons]
    rcases hgrowth t List.mem_cons_self with hnone | ⟨hone, id, hid⟩
    · rw [hnone, Nat.zero_add]
      exact ih hrest fun t' ht' => hgrowth t' (List.mem_cons_of_mem _ ht')
    · have hlater : (rest.map (growth packet a)).sum = 0 := by
        refine List.sum_eq_zero_iff_forall_eq_nat.mpr fun n hn => ?_
        obtain ⟨t', ht', rfl⟩ := List.mem_map.mp hn
        exact growth_of_reissues (hfirst t' ht' id hid)
      rw [hone, hlater]

end Echoes

section Handled

variable {teams statuses : List String} {size limit memory : Int} {s : Service}
  (h : host teams statuses size limit true memory = .ok s) (hmemory : 0 ≤ memory)
  (hlimit : limit ≤ noNetworkId) {packet : Bytes} {r : Request}
  (hparse : Request.parse packet = .ok r) (hkind : r.kind? = some .register) {a : Address}
  {l : List Datagram} {E : List Event}

include h hmemory hlimit hparse hkind

theorem growth_cases : growth packet a (s.after l) = 0 ∨
    growth packet a (s.after l) = 1 ∧ ∃ id, (s.after l).Assigns packet (some a) id := by
  have hreach := (Reachable.hosted h).after l
  have hids := hreach.size_lt hlimit
  have hroom : 0 ≤ (s.after l).memory := hreach.fixed.2 ▸ hmemory
  cases hrepeated : (s.after l).repeated? (some a) r.text with
  | some e =>
    have hreissues := (hreach.sound.reissues_iff hroom hids hparse hkind (some a)).mpr
      ⟨e, hrepeated, rfl⟩
    exact Or.inl (growth_of_reissues hreissues)
  | none =>
    rcases hreach.sound.creates_or_refuses hroom hids hparse hkind (some a) hrepeated with
      hcreates | hrefuses
    · refine Or.inr ⟨?_, _, hcreates.1⟩
      rw [growth, hcreates.2, Array.size_push, Nat.add_sub_cancel_left]
    · rw [growth, hrefuses.2, Nat.sub_self]
      exact Or.inl rfl

omit h hmemory hlimit hkind in
theorem Undisturbed.sameName_of_mem {before mid after : List Event} {d d' : Option Rat}
    (hU : Undisturbed packet a s E)
    (hE : E = before ++ .handled d :: (mid ++ .handled d' :: after)) {c : Datagram}
    (hc : c ∈ datagrams packet a mid) (hsender : c.sender = some a) {q : Request}
    (hq : Request.parse c.data = .ok q) (hregister : q.kind? = some .register) :
    q.text = r.text := by
  obtain ⟨e, he, hdatagram⟩ := List.mem_filterMap.mp hc
  obtain ⟨early, late, rfl⟩ := List.append_of_mem he
  cases e with
  | handled delay =>
    cases hdatagram
    rw [Except.ok.inj (hq.symm.trans hparse)]
  | elsewhere sender data =>
    cases hdatagram
    cases hsender
    refine hU.sameName (before ++ .handled d :: early) late after data d' ?_ hq hregister hparse
    rw [hE]
    simp
  | planted data delay => cases hdatagram

/-- Of two handlings the later one gets the network ID of the earlier one again. -/
theorem Undisturbed.pairwise_echoes (hU : Undisturbed packet a (s.after l) E) :
    ((s.after l).handlings packet a E).Pairwise (Echoes packet a) := by
  refine pairwise_handlings fun before mid after d d' hE id hassigns => ?_
  have hroom := hU.room before mid after d d' hE
  rw [undergo_after, ((Reachable.hosted h).after l).fixed.2] at hroom
  rw [undergo_after] at hassigns
  -- the history up to the first of the two handlings ends with its grant
  have hhistory : l ++ datagrams packet a (before ++ [.handled d]) =
      l ++ datagrams packet a before ++ [⟨packet, some a⟩] := by
    rw [datagrams_append, List.append_assoc]
    rfl
  have hgrant : grant? ⟨packet, some a⟩ ((s.after (l ++ datagrams packet a before)).handle
      packet (some a)).1 = some ⟨some a, r.text, id⟩ :=
    grant?_eq_some_iff.mpr ⟨r, hparse, rfl, rfl, hassigns⟩
  have hgranted : registrations (s.grants (l ++ datagrams packet a (before ++ [.handled d]))) =
      registrations (s.grants (l ++ datagrams packet a before)) ++ [⟨a, r.text, id⟩] := by
    rw [hhistory, grants_append, registrations_append, registrations_grants_singleton]
    simp only [hgrant]
    rfl
  have hreissues := reissues_of_granted h hmemory
    (((Reachable.hosted h).after _).size_lt hlimit) hgranted hroom
    (fun c hc hsender q hq hregister =>
      hU.sameName_of_mem hparse hE hc hsender hq hregister) hparse hkind rfl
  rw [show before ++ .handled d :: mid = before ++ [.handled d] ++ mid by simp, undergo_after,
    datagrams_append, ← List.append_assoc]
  exact hreissues

omit hlimit hparse hkind in
theorem assigns_of_registered (hlimit : limit ≤ noNetworkId) {reply : Reply}
    (hreply : ((s.after l).handle packet (some a)).1 = .ok reply)
    (hcode : reply.code = ReplyKind.registered.code) :
    ∃ id : Nat, (s.after l).Assigns packet (some a) id ∧ reply.networkId = .ok id := by
  have hreach := (Reachable.hosted h).after l
  obtain ⟨g, -, hid⟩ := hreach.sound.grant?_of_registered (hreach.fixed.2 ▸ hmemory)
    (hreach.size_lt hlimit) (d := ⟨packet, some a⟩) hreply hcode
  exact ⟨g.networkId, ⟨reply, hreply, hid⟩, hid⟩

end Handled

theorem not_isGrant_of_sentTo {s : Service} {l : List Datagram} (hremembers : s.Remembers l)
    {a : Address} (hnever : ∀ g ∈ s.grants l, g.sender ≠ some a) {data : Bytes}
    (hsent : s.SentTo l a data) : ¬ IsGrant data := by
  rintro ⟨reply, hparse, hcode⟩
  obtain ⟨x, hx, hsender, reply', hreply, rfl⟩ := hsent
  obtain rfl := Except.ok.inj ((Reply.parse_serialize reply').symm.trans hparse)
  obtain ⟨g, hg, -⟩ := hremembers.complete x hx reply' hreply hcode
  exact hnever g (List.mem_filterMap.mpr ⟨x, hx, hg⟩) ((sender_of_grant? hg).trans hsender)

/-- What comes of all the handlings of the packet of a registration: one user at most, and one
network ID. -/
structure RegistersOnce (packet : Bytes) (a : Address) (s : Service) (E : List Event) (id : Nat) :
    Prop where
  users : ((s.handlings packet a E).map (growth packet a)).sum ≤ 1
  acknowledged : ∀ t ∈ s.handlings packet a E, ∀ reply,
    (t.handle packet (some a)).1 = .ok reply → reply.code = ReplyKind.registered.code →
      reply.networkId = .ok id

theorem Undisturbed.registersOnce {teams statuses : List String} {size limit memory : Int}
    {s : Service} (h : host teams statuses size limit true memory = .ok s) (hmemory : 0 ≤ memory)
    (hlimit : limit ≤ noNetworkId) {packet : Bytes} {r : Request}
    (hparse : Request.parse packet = .ok r) (hkind : r.kind? = some .register) {a : Address}
    {l : List Datagram} {E : List Event} (hU : Undisturbed packet a (s.after l) E) :
    ∃ id, RegistersOnce packet a (s.after l) E id := by
  have hechoes := hU.pairwise_echoes h hmemory hlimit hparse hkind
  obtain ⟨id, hid⟩ := exists_assigned hechoes
  have hhistory : ∀ t ∈ (s.after l).handlings packet a E, ∃ m, t = s.after m := fun t ht => by
    obtain ⟨before, d, after, -, rfl⟩ := mem_handlings.mp ht
    exact ⟨l ++ datagrams packet a before, undergo_after s l packet a before⟩
  refine ⟨id, sum_growth_le_one hechoes fun t ht => ?_, fun t ht reply hreply hcode => ?_⟩
  · obtain ⟨m, rfl⟩ := hhistory t ht
    exact growth_cases h hmemory hlimit hparse hkind
  · obtain ⟨m, rfl⟩ := hhistory t ht
    obtain ⟨id', hassigns, hread⟩ := assigns_of_registered h hmemory hlimit hreply hcode
    rw [hread, hid _ ht id' hassigns]

end Service

@[simp] theorem Run.sent_reading {α β : Type} (r : Run α) (read : α → Except Fault β × Session) :
    (r.reading read).sent = r.sent := by
  rw [reading]
  split <;> rfl

namespace Session

variable {s : Session} {net : Net} {name : String}

theorem reading_adoptId {r : Run Reply} {n : Int}
    (hok : (r.reading (s.adoptId name)).result = .ok n) :
    ∃ reply, r.result = .ok reply ∧ reply.networkId = .ok n ∧
      (r.reading (s.adoptId name)).session =
        { s with networkId := n, displayName := some name } := by
  obtain ⟨reply, hreply, hread⟩ := Run.reading_eq_ok hok
  refine ⟨reply, hreply, ?_⟩
  simp only [Run.reading, hreply]
  rw [adoptId] at hread ⊢
  cases hid : reply.networkId with
  | error f =>
    rw [hid] at hread
    cases hread
  | ok id =>
    rw [hid] at hread
    cases hread
    exact ⟨rfl, rfl⟩

theorem register_cases (s : Session) (name : String) (net : Net) :
    ((s.register name net).sent = [] ∧ ∃ f, (s.register name net).result = .error f) ∨
    ∃ body packet, s.packet (registration body) = .ok packet ∧
      (s.register name net).sent =
        List.replicate (s.manner.exchange (registration body) packet net).1.attempts.length
          packet ∧
      (s.register name net).net = (s.manner.exchange (registration body) packet net).2 ∧
      ∀ n, (s.register name net).result = .ok n → ∃ reply,
        (s.manner.exchange (registration body) packet net).1.outcome = .ok reply ∧
          reply.networkId = .ok n ∧
          (s.register name net).session =
            { s with networkId := n, displayName := some name } := by
  rw [register]
  cases Latin1.encode name with
  | error gap => exact Or.inl ⟨rfl, _, rfl⟩
  | ok body =>
    dsimp only
    rcases s.request_cases (registration body) net with
      ⟨f, hrequest, -⟩ | ⟨packet, hpacket, hrequest⟩
    · rw [hrequest]
      exact Or.inl ⟨rfl, f, rfl⟩
    · rw [hrequest, Run.sent_reading, Run.reading_net]
      exact Or.inr ⟨body, packet, hpacket, List.map_const', rfl, fun n => reading_adoptId⟩

/-- **A registration is made once.** Let a client register from an address that was never granted a
network ID, over a network that loses, repeats and delays datagrams as it likes; `F` is what happens
to its packets after the call. If all this is undisturbed, the handlings of the packets add one user
at most and are acknowledged with one network ID. If the call returns, it returns that ID, which
one of the handlings assigned, and the session takes it on. -/
theorem register_once {teams statuses : List String} {size limit memory : Int} {sv : Service}
    (h : Service.host teams statuses size limit true memory = .ok sv) (hmemory : 0 ≤ memory)
    (hlimit : limit ≤ noNetworkId) {l : List Service.Datagram}
    (hservice : net.service = some (sv.after l))
    (hnever : ∀ g ∈ sv.grants l, g.sender ≠ some net.link.address)
    (hgenuine : ∀ data, net.link.transit.Carries data → IsGrant data →
      sv.SentTo l net.link.address data)
    (F : List Event)
    (hevents : ∀ packet ∈ (s.register name net).sent,
      Service.Undisturbed packet net.link.address (sv.after l)
        (Fate.eventsOf net.link.script (s.register name net).sent.length ++ F)) :
    ∃ id : Nat,
      (∀ packet ∈ (s.register name net).sent,
        (s.register name net).net.service = some ((sv.after l).undergo packet net.link.address
          (Fate.eventsOf net.link.script (s.register name net).sent.length)) ∧
        Service.RegistersOnce packet net.link.address (sv.after l)
          (Fate.eventsOf net.link.script (s.register name net).sent.length ++ F) id) ∧
      ∀ n, (s.register name net).result = .ok n →
        n = id ∧
        (s.register name net).session = { s with networkId := id, displayName := some name } ∧
        ∃ packet ∈ (s.register name net).sent,
          ∃ t ∈ (sv.after l).handlings packet net.link.address
            (Fate.eventsOf net.link.script (s.register name net).sent.length),
            t.Assigns packet (some net.link.address) id := by
  rcases s.register_cases name net with
    ⟨hnone, f, hfailed⟩ | ⟨body, packet, hpacket, hsent, hnet, hread⟩
  · refine ⟨0, fun packet hmem => ?_, fun n hok => ?_⟩
    · rw [hnone] at hmem
      cases hmem
    · rw [hfailed] at hok
      cases hok
  · obtain ⟨r, hparse, hkind, -⟩ := parse_packet .register hpacket rfl
    have hremembers := Service.Reachable.remembers h hmemory l
      (((Service.Reachable.hosted h).after l).size_lt hlimit)
    rw [hsent, List.length_replicate] at hevents ⊢
    rw [hnet]
    obtain ⟨k, hk⟩ : ∃ k,
      (s.manner.exchange (registration body) packet net).1.attempts.length = k := ⟨_, rfl⟩
    rw [hk] at hevents ⊢
    have hexchange := Service.exchange_registration hservice
      (fun data c hgrant => Service.not_isGrant_of_sentTo hremembers hnever
        (hgenuine data c hgrant) hgrant) s.manner body hk
    rcases Nat.eq_zero_or_pos k with rfl | hpos
    · refine ⟨0, fun p hp => absurd hp List.not_mem_nil, fun n hok => ?_⟩
      obtain ⟨reply, houtcome, -⟩ := hread n hok
      obtain ⟨-, t, ht, -⟩ := (hexchange Service.genuine_nil).2 reply houtcome
      exact absurd ht List.not_mem_nil
    · have hmem : packet ∈ List.replicate k packet := List.mem_replicate.mpr ⟨hpos.ne', rfl⟩
      have hU := hevents packet hmem
      obtain ⟨hsv, hanswer⟩ := hexchange hU.genuine.of_append
      obtain ⟨id, honce⟩ := hU.registersOnce h hmemory hlimit hparse hkind
      refine ⟨id, fun p hp => ?_, fun n hok => ?_⟩
      · rw [List.eq_of_mem_replicate hp]
        exact ⟨hsv, honce⟩
      · -- what the call returns is what one of the handlings acknowledged
        obtain ⟨reply, houtcome, hid, hsession⟩ := hread n hok
        obtain ⟨hcode, t, ht, hreply⟩ := hanswer reply houtcome
        have hall : t ∈ (sv.after l).handlings packet net.link.address
            (Fate.eventsOf net.link.script k ++ F) := by
          rw [Service.handlings_append]
          exact List.mem_append_left _ ht
        have hsame := honce.acknowledged t hall reply hreply hcode
        obtain rfl := Except.ok.inj (hid.symm.trans hsame)
        exact ⟨rfl, hsession, packet, hmem, t, ht, reply, hreply, hid⟩

/-- The server handles the packet in the call twice, and once more after it. -/
theorem register_once_lossy :
    ∃ sv, Service.host ["Red"] ["Busy"] 1 100 true 1 = .ok sv ∧
      (register { manner := ⟨.one, none⟩ } "A" (lossyNet sv)).result = .ok 0 ∧
      ∃ packet, Service.RegistersOnce packet (lossyNet sv).link.address sv
        [.handled none, .handled (some 0), .handled none] 0 := by
  obtain ⟨sv, h⟩ : ∃ sv, Service.host ["Red"] ["Busy"] 1 100 true 1 = .ok sv := ⟨_, rfl⟩
  have hrun : ∀ sv ∈ (Service.host ["Red"] ["Busy"] 1 100 true 1).toOption,
      sv.memory = 1 ∧
      (register { manner := ⟨.one, none⟩ } "A" (lossyNet sv)).result = .ok 0 ∧
      (register { manner := ⟨.one, none⟩ } "A" (lossyNet sv)).sent.length = 3 := by
    decide +kernel
  obtain ⟨hmemory, hok, hsent⟩ := hrun sv (by rw [h]; rfl)
  have hhandled : ∀ e ∈ Fate.eventsOf (lossyNet sv).link.script 3 ++ [.handled none],
      e.IsHandling := by
    intro e he
    rcases List.mem_append.mp he with he | he
    · refine Fate.forall_mem_eventsOf (P := Event.IsHandling) ?_ trivial he
      simp [lossyNet, Event.IsHandling]
    · exact List.mem_singleton.mp he ▸ trivial
  obtain ⟨id, honce, hreturned⟩ := register_once (l := []) h (by decide) (by decide) rfl
    (fun g hg => absurd hg List.not_mem_nil)
    (fun data c => absurd c (by simp [lossyNet, Transit.Carries])) [.handled none]
    (fun packet _ => hsent ▸ Service.undisturbed_of_isHandling hhandled (by
      rw [show (sv.after []).memory = 1 from hmemory]
      decide))
  obtain ⟨hid, -, packet, hpacket, -⟩ := hreturned 0 hok
  obtain rfl := Int.ofNat_inj.mp hid
  rw [hsent] at honce
  exact ⟨sv, h, hok, packet, (honce packet hpacket).2⟩

end Session

end TeamPresence
