import TeamPresence.Proofs.Session.Accounts
import TeamPresence.Proofs.Session.Adoption
import TeamPresence.Proofs.Session.Attempts
import TeamPresence.Proofs.Session.Enrolment

/-!
# A client among others

Others use the server too, but leave the network ID of a client to it. Each packet of the client is
lost, or handled once or several times, and an answer that is not lost arrives at once
(`Fate.IsUndelayed`). Between two handlings the server may have heard of others.

All that an exchange returns over such a network was answered in one of its own handlings
(`Net.Undelayed.exchange`), so an acknowledgement tells that an update is on record
(`Service.standing_of_takes`). A refusal does not tell that nothing has changed: when others have
made room, the server may take a packet that it refused when it handled it before
(`Service.Relents`), and a client that gives up hears of the refusal only. A refusal by a server
that does not relent tells that all is as it was before the first attempt (`Net.Repeats.attempt`).
-/

namespace TeamPresence

/-! ### What becomes of the server -/

namespace Service

/-- What a service keeps, whatever reaches it. -/
structure Succeeds (s s' : Service) : Prop where
  sound : s'.Sound
  size_le : s.directory.users.size ≤ s'.directory.users.size
  outline : s'.directory.outline = s.directory.outline

variable {s t : Service} {id : Nat} {packet : Bytes} {a : Address} {E : List Event} {r : Request}

theorem succeeds_undergo (hs : s.Sound) (packet : Bytes) (a : Address) (E : List Event) :
    s.Succeeds (s.undergo packet a E) := by
  induction E generalizing s with
  | nil => exact ⟨hs, le_rfl, rfl⟩
  | cons e rest ih =>
    have heffect := s.effect_serve packet a e
    have hrest := ih (heffect.sound hs)
    exact ⟨hrest.sound, (heffect.size_le hs).trans hrest.size_le,
      hrest.outline.trans (heffect.outline hs)⟩

theorem description_undergo (s : Service) (packet : Bytes) (a : Address) (E : List Event) :
    (s.undergo packet a E).description = s.description := by
  induction E generalizing s with
  | nil => rfl
  | cons e rest ih => exact (ih _).trans (s.effect_serve packet a e).fixed.2.2

theorem records_of_standing {team status : Int} (hsize : id < s.directory.users.size)
    (h : s.standing id = (team, status)) : s.Records id team status := by
  have hu := Array.getElem?_eq_getElem hsize
  rw [standing_of_some hu] at h
  exact ⟨_, (Directory.user?_natCast _ _).trans hu, congrArg Prod.fst h, congrArg Prod.snd h⟩

theorem Records.lt_size {team status : Int} (h : s.Records id team status) :
    id < s.directory.users.size := by
  obtain ⟨u, hu, -⟩ := h
  rw [Directory.user?_natCast] at hu
  exact (Array.getElem?_eq_some_iff.mp hu).1

section Updates

variable (hs : s.Sound) (hparse : Request.parse packet = .ok r)
  (hkind : r.kind? = some .updateStatus)

include hs hparse hkind

theorem standing_again (hE : ∀ e ∈ E, e.IsGenuine r.networkId)
    (h : s.standing r.networkId = ((r.team.toNat : Int), (r.status.toNat : Int))) :
    (s.undergo packet a E).standing r.networkId = s.standing r.networkId := by
  induction E using List.reverseRecOn with
  | nil => rfl
  | append_singleton E e ih =>
    have hkept := ih fun f hf => hE f (List.mem_append_left _ hf)
    have hsound := sound_undergo hs packet a E
    rw [undergo_append, undergo_singleton]
    by_cases haccepts : (s.undergo packet a E).Accepts packet (some a) ∧ ∃ delay, e = .handled delay
    · obtain ⟨haccepts, delay, rfl⟩ := haccepts
      rw [h]
      exact standing_of_records (Records.of_accepted hsound hparse hkind haccepts)
    · refine (standing_serve hsound (hE e (by simp)) fun _ delay he htaken => ?_).trans hkept
      exact haccepts ⟨htaken, delay, he⟩

theorem standing_of_takes (hE : ∀ e ∈ E, e.IsGenuine r.networkId) (h : s.Takes packet a E) :
    (s.undergo packet a E).standing r.networkId =
      ((r.team.toNat : Int), (r.status.toNat : Int)) := by
  obtain ⟨before, delay, after, rfl, haccepts⟩ := h
  have hbefore := sound_undergo hs packet a before
  have htaken := standing_of_records (Records.of_accepted hbefore hparse hkind haccepts)
  have hafter : ∀ e ∈ after, e.IsGenuine r.networkId := fun e he => hE e (by simp [he])
  rw [undergo_append]
  exact (standing_again (sound_serve hbefore packet a (.handled delay)) hparse hkind hafter
    htaken).trans htaken

end Updates

/-- Whether these bytes answer a handling of a packet in the course of some events, and are not
lost. -/
def Delivers (s : Service) (packet : Bytes) (a : Address) (E : List Event) (data : Bytes) : Prop :=
  ∃ before delay after, E = before ++ .handled (some delay) :: after ∧
    ((s.undergo packet a before).respond packet a).1.packet? = some data

theorem explains_delivered (id : Int) (packet : Bytes) (a : Address) (s : Service) :
    Explains s packet a fun E data => (∀ e ∈ E, e.IsGenuine id) → s.Delivers packet a E data := by
  constructor
  case keep =>
    intro E data e h hE
    obtain ⟨before, delay, after, rfl, hreply⟩ := h fun f hf => hE f (List.mem_append_left _ hf)
    exact ⟨before, delay, after ++ [e], by simp, hreply⟩
  case brings =>
    intro E data e hbrings hE
    cases e with
    | handled delay =>
      cases delay with
      | none => cases hbrings
      | some delay => exact ⟨E, delay, [], rfl, hbrings⟩
    | elsewhere sender data => cases hbrings
    | planted data delay => exact (hE (.planted data delay) (by simp)).elim

/-! ### Refusals that do not last -/

theorem takes_iff :
    s.Takes packet a E ↔ ∃ t ∈ s.handlings packet a E, t.Accepts packet (some a) := by
  constructor
  · rintro ⟨before, delay, after, hE, haccepts⟩
    exact ⟨_, mem_handlings.mpr ⟨before, delay, after, hE, rfl⟩, haccepts⟩
  · rintro ⟨t, ht, haccepts⟩
    obtain ⟨before, delay, after, hE, rfl⟩ := mem_handlings.mp ht
    exact ⟨before, delay, after, hE, haccepts⟩

instance (s : Service) (packet : Bytes) (a : Address) (E : List Event) :
    Decidable (s.Takes packet a E) := decidable_of_iff _ takes_iff.symm

theorem takes_append {F : List Event} :
    s.Takes packet a (E ++ F) ↔ s.Takes packet a E ∨ (s.undergo packet a E).Takes packet a F := by
  simp only [takes_iff, handlings_append, List.mem_append, or_and_right, exists_or]

instance : (e : Event) → Decidable (∃ delay, e = .handled (some delay))
  | .handled (some delay) => isTrue ⟨delay, rfl⟩
  | .handled none | .elsewhere _ _ | .planted _ _ => isFalse nofun

/-- Whether a server takes a packet after a refusal of it was delivered. -/
def Relents (s : Service) (packet : Bytes) (a : Address) (E : List Event) : Prop :=
  ∃ before delay after, E = before ++ .handled (some delay) :: after ∧
    ¬ (s.undergo packet a before).Accepts packet (some a) ∧
    (s.undergo packet a before).Takes packet a (.handled (some delay) :: after)

theorem not_relents_nil : ¬ s.Relents packet a [] := by
  rintro ⟨before, delay, after, hE, -⟩
  exact List.append_ne_nil_of_right_ne_nil before (List.cons_ne_nil _ _) hE.symm

theorem relents_cons {e : Event} :
    s.Relents packet a (e :: E) ↔
      ((∃ delay, e = .handled (some delay)) ∧ ¬ s.Accepts packet (some a) ∧
        s.Takes packet a (e :: E)) ∨ (e.serve packet a s).Relents packet a E := by
  constructor
  · rintro ⟨before, delay, after, hE, hrefused, htakes⟩
    rcases List.cons_eq_append_iff.mp hE with ⟨rfl, hE⟩ | ⟨before, rfl, rfl⟩
    · obtain ⟨rfl, rfl⟩ := List.cons.inj hE
      exact Or.inl ⟨⟨delay, rfl⟩, hrefused, htakes⟩
    · exact Or.inr ⟨before, delay, after, rfl, hrefused, htakes⟩
  · rintro (⟨⟨delay, rfl⟩, hrefused, htakes⟩ | ⟨before, delay, after, rfl, hrefused, htakes⟩)
    · exact ⟨[], delay, E, rfl, hrefused, htakes⟩
    · exact ⟨e :: before, delay, after, rfl, hrefused, htakes⟩

instance decidableRelents (packet : Bytes) (a : Address) :
    (E : List Event) → (s : Service) → Decidable (s.Relents packet a E)
  | [], _ => isFalse not_relents_nil
  | e :: E, s =>
    have := decidableRelents packet a E (e.serve packet a s)
    decidable_of_iff _ relents_cons.symm

/-- A refusal that lasts tells that nothing has changed, and that there was something to
change. -/
theorem standing_of_refused (hs : s.Sound) (hparse : Request.parse packet = .ok r)
    (hkind : r.kind? = some .updateStatus) (hid : r.networkId = id)
    (hsize : id < s.directory.users.size) (hgenuine : ∀ e ∈ E, e.IsGenuine id)
    (hlasts : ¬ s.Relents packet a E) {before after : List Event} {delay : Rat}
    (hE : E = before ++ .handled (some delay) :: after)
    (hrefused : ¬ (s.undergo packet a before).Accepts packet (some a)) :
    (s.undergo packet a E).standing id = s.standing id ∧
      s.standing id ≠ ((r.team.toNat : Int), (r.status.toNat : Int)) := by
  have hfirst := succeeds_undergo hs packet a before
  have hbefore : ∀ e ∈ before, e.IsGenuine id := fun e he => hgenuine e (by simp [hE, he])
  -- what is on record already is accepted
  have hunrecorded : (s.undergo packet a before).standing id ≠
      ((r.team.toNat : Int), (r.status.toNat : Int)) := by
    intro hasked
    apply hrefused
    apply Records.accepts hfirst.sound hparse hkind
    rw [hid]
    exact records_of_standing (hsize.trans_le hfirst.size_le) hasked
  have hnone : ¬ s.Takes packet a before := by
    intro htakes
    rw [← hid] at hbefore hunrecorded
    exact hunrecorded (standing_of_takes hs hparse hkind hbefore htakes)
  have hnever : ¬ s.Takes packet a E := by
    intro htakes
    rw [hE, takes_append] at htakes
    exact hlasts ⟨before, delay, after, hE, hrefused, htakes.resolve_left hnone⟩
  refine ⟨standing_undergo hs hgenuine fun _ => hnever, ?_⟩
  rwa [standing_undergo hs hbefore fun _ => hnone] at hunrecorded

end Service

/-! ### Networks without delay -/

theorem Event.IsPrompt.isGenuine {e : Event} (h : e.IsPrompt) (id : Int) : e.IsGenuine id := by
  rcases h with rfl | rfl
  · trivial
  · trivial

/-- Whether the server handles a packet any number of times, each answer that is not lost arrives at
once, and others who are heard leave a network ID alone. -/
def Fate.IsUndelayed (id : Int) (f : Fate) : Prop := ∀ e ∈ f.events, e.IsPrompt ∨ e.IsForeign id

instance (id : Int) (f : Fate) : Decidable (f.IsUndelayed id) :=
  inferInstanceAs (Decidable (∀ e ∈ f.events, _))

namespace Fate

variable {id : Int} {f : Fate} {e : Event}

theorem isUndelayed_delivered (id : Int) : delivered.IsUndelayed id := by
  intro e he
  obtain rfl := List.mem_singleton.mp he
  exact Or.inl (Or.inr rfl)

theorem IsUndelayed.isGenuine (h : f.IsUndelayed id) (he : e ∈ f.events) : e.IsGenuine id := by
  rcases h e he with he | he
  · exact he.isGenuine id
  · exact he.isGenuine

end Fate

/-- A client's end of a network that delays nothing, on which nobody else uses the client's ID. -/
structure Net.Undelayed (id : Int) (n : Net) : Prop where
  upToDate : n.UpToDate
  script : ∀ f ∈ n.link.script, f.IsUndelayed id

namespace Net.Undelayed

variable {id : Int} {n : Net} {sv : Service} {packet : Bytes}

theorem foldl_happen (h : n.UpToDate) {E : List Event}
    (hE : ∀ e ∈ E, e.IsPrompt ∨ e.IsForeign id) : (E.foldl (happen packet) n).UpToDate := by
  induction E generalizing n with
  | nil => exact h
  | cons e rest ih =>
    apply ih _ fun e he => hE e (List.mem_cons_of_mem _ he)
    rcases hE e List.mem_cons_self with he | he
    · exact h.happen packet he
    · cases e with
      | handled delay => exact he.elim
      | elsewhere sender data => exact h.serve data sender
      | planted data delay => exact he.elim

theorem nextFate (h : n.Undelayed id) :
    n.nextFate.1.IsUndelayed id ∧ n.nextFate.2.Undelayed id := by
  rw [Net.nextFate_eq (k := 0) rfl]
  refine ⟨Fate.getD_of_forall h.script (Fate.isUndelayed_delivered id) 0,
    ⟨h.upToDate.rounded, h.upToDate.arrived⟩, ?_⟩
  intro f hf
  exact h.script f (List.mem_of_mem_drop hf)

theorem send (h : n.Undelayed id) (packet : Bytes) : (n.send packet).2.Undelayed id := by
  obtain ⟨hf, hm⟩ := h.nextFate
  refine ⟨foldl_happen hm.upToDate hf, ?_⟩
  rw [Net.send]
  dsimp only
  rw [foldl_happen_script]
  exact hm.script

theorem wait (h : n.Undelayed id) (p : Patience) : (n.wait p).2.Undelayed id :=
  ⟨h.upToDate.wait p, h.script⟩

theorem discard (h : n.Undelayed id) : n.discard.Undelayed id := ⟨h.upToDate.discard, h.script⟩

theorem idle_discard (h : n.Undelayed id) : n.discard.link.transit.IsIdle :=
  Transit.not_carries_discard h.upToDate.arrived

theorem rebudget (h : n.Undelayed id) (budget : Nat) : { n with budget }.Undelayed id :=
  ⟨⟨h.upToDate.rounded, h.upToDate.arrived⟩, h.script⟩

theorem invariant (id : Int) (packet : Bytes) : Invariant packet fun _ n => n.Undelayed id where
  send := fun h => h.send packet
  wait := fun p h => h.wait p
  budget := fun b h => h.rebudget b

theorem exchange (h : n.Undelayed id) (hservice : n.service = some sv) (m : Manner) (ask : Ask)
    (packet : Bytes) :
    (m.exchange ask packet n).2.Undelayed id ∧ ∃ E : List Event, (∀ e ∈ E, e.IsGenuine id) ∧
      (m.exchange ask packet n).2.service = some (sv.undergo packet n.link.address E) ∧
      ∀ {reply : Reply}, (m.exchange ask packet n).1.outcome = .ok reply →
        (reply.code.toNat : Int) = ask.expected ∧
          ∃ t ∈ sv.handlings packet n.link.address E,
            (t.handle packet (some n.link.address)).1 = .ok reply := by
  obtain ⟨hafter, hanswer⟩ := (Service.explains_delivered id packet n.link.address sv).exchange
    hservice (fun c => absurd c (h.idle_discard _)) m ask
  have hgenuine : ∀ k, ∀ e ∈ Fate.eventsOf n.link.script k, e.IsGenuine id := fun k e he =>
    Fate.forall_mem_eventsOf (fun f hf e he => (h.script f hf).isGenuine he) trivial he
  refine ⟨((invariant id packet).pursue m ask 0 n.budget 0 n.discard h.discard).1, _, hgenuine _,
    hafter, ?_⟩
  intro reply hreply
  obtain ⟨hcode, data, hdata, hdelivered⟩ := hanswer hreply
  obtain ⟨before, delay, after, hE, hpacket⟩ := hdelivered (hgenuine _)
  obtain ⟨reply', hhandled, rfl⟩ := Service.reply_of_packet? hpacket
  obtain rfl := Except.ok.inj ((Reply.parse_serialize reply').symm.trans hdata)
  exact ⟨hcode, _, Service.mem_handlings.mpr ⟨before, some delay, after, hE, rfl⟩, hhandled⟩

end Net.Undelayed

/-! ### Servers that do not relent -/

namespace Net

variable {n m : Net} {packet : Bytes} {packets more : List Bytes}

/-- Whether the server relents when a packet is sent next. -/
def Relents (n : Net) (packet : Bytes) : Prop :=
  ∃ sv, n.service = some sv ∧ sv.Relents packet n.link.address n.nextFate.1.events

instance (n : Net) (packet : Bytes) : Decidable (n.Relents packet) :=
  inferInstanceAs (Decidable (∃ sv, sv ∈ n.service ∧ _))

/-- Whether the server never relents when some packets are sent, one after the other. -/
def NeverRelents (n : Net) (packets : List Bytes) : Prop :=
  ∀ before packet after, packets = before ++ packet :: after →
    ¬ (n.sendAll before).Relents packet

theorem Relents.of_course (h : n.course = m.course) (hrelents : n.Relents packet) :
    m.Relents packet := by
  obtain ⟨hservice, haddress, -⟩ := course_eq_iff.mp h
  obtain ⟨sv, hsv, hrelents⟩ := hrelents
  rw [haddress, (nextFate_of_course h).1] at hrelents
  exact ⟨sv, hservice.symm.trans hsv, hrelents⟩

namespace NeverRelents

theorem of_course (h : n.course = m.course) (hnever : n.NeverRelents packets) :
    m.NeverRelents packets := by
  intro before packet after hpackets hrelents
  exact hnever before packet after hpackets (hrelents.of_course (course_sendAll h before).symm)

theorem left (h : n.NeverRelents (packets ++ more)) : n.NeverRelents packets := by
  intro before packet after hpackets
  exact h before packet (after ++ more) (by simp [hpackets])

theorem right (h : n.NeverRelents (packets ++ more)) : (n.sendAll packets).NeverRelents more := by
  intro before packet after hmore
  rw [← sendAll_append]
  exact h (packets ++ before) packet after (by simp [hmore])

theorem cons_iff :
    n.NeverRelents (packet :: packets) ↔
      ¬ n.Relents packet ∧ (n.send packet).2.NeverRelents packets := by
  constructor
  · intro h
    exact ⟨h [] packet packets rfl, fun before p after hpackets =>
      h (packet :: before) p after (by simp [hpackets])⟩
  · rintro ⟨hfirst, hrest⟩ before p after hpackets
    rcases List.cons_eq_append_iff.mp hpackets with ⟨rfl, hpackets⟩ | ⟨before, rfl, rfl⟩
    · obtain ⟨rfl, rfl⟩ := List.cons.inj hpackets
      exact hfirst
    · exact hrest before p after rfl

instance decidable : (packets : List Bytes) → (n : Net) → Decidable (n.NeverRelents packets)
  | [], _ => isTrue fun before _ _ hpackets =>
    absurd hpackets.symm (List.append_ne_nil_of_right_ne_nil before (List.cons_ne_nil _ _))
  | packet :: packets, n =>
    have := decidable packets (n.send packet).2
    decidable_of_iff _ cons_iff.symm

theorem attempt {count k : Nat} (h : n.NeverRelents (List.replicate count packet)) (hk : k < count)
    (p : Patience) : ¬ (n.afterAttempts packet p k).Relents packet := by
  intro hrelents
  refine h (List.replicate k packet) packet (List.replicate (count - k - 1) packet) ?_
    (hrelents.of_course (course_afterAttempts packet p n k))
  rw [← List.replicate_succ, List.replicate_append_replicate]
  congr 1
  omega

end NeverRelents

end Net

/-! ### Giving up at a refusal -/

/-- Where a client stands that is about to repeat an update: nothing is under way to it, and it has
on record what it had before, or what it asks for. -/
structure Net.Repeats (id : Nat) (before asked : Int × Int) (n : Net) : Prop where
  undelayed : n.Undelayed id
  idle : n.link.transit.IsIdle
  served : ∃ sv, n.service = some sv ∧ sv.Sound ∧ id < sv.directory.users.size ∧
    (sv.standing id = before ∨ sv.standing id = asked)

namespace Net.Repeats

variable {id : Nat} {before asked : Int × Int} {n : Net} {packet : Bytes} {r : Request}
  {p : Patience} (h : n.Repeats id before asked) (hparse : Request.parse packet = .ok r)
  (hkind : r.kind? = some .updateStatus) (hid : r.networkId = id)
  (hasked : asked = ((r.team.toNat : Int), (r.status.toNat : Int))) (hp : p ≠ .none)

include h hparse hkind hid hasked hp

/-- **One attempt at an update**: it receives nothing, and the client may repeat it, or it receives
the answer. A refusal that lasts tells that nothing has changed since before the first attempt. -/
theorem attempt (hlasts : ¬ n.Relents packet) :
    (((n.send packet).2.wait p).1 = none ∧ ((n.send packet).2.wait p).2.Repeats id before asked) ∨
      ∃ reply : Reply, ((n.send packet).2.wait p).1 = some reply.serialize ∧
        (reply = Reply.updated ∨ reply.code = ReplyKind.error.code ∧
          ∃ sv, ((n.send packet).2.wait p).2.service = some sv ∧ sv.standing id = before) := by
  obtain ⟨sv, hsv, hs, hsize, hstanding⟩ := h.served
  obtain ⟨hf, hnext⟩ := h.undelayed.nextFate
  have hgenuine : ∀ e ∈ n.nextFate.1.events, e.IsGenuine id := fun e he => hf.isGenuine he
  have hsent := h.undelayed.send packet
  have hstart : Following sv packet n.link.address
      (fun E data => (∀ e ∈ E, e.IsGenuine id) → sv.Delivers packet n.link.address E data) []
      n.nextFate.2 := by
    rw [Net.nextFate_eq (k := 0) rfl]
    exact ⟨rfl, hsv, fun c => absurd c (h.idle _)⟩
  obtain ⟨-, hserved, hexplained⟩ :=
    (Service.explains_delivered id packet n.link.address sv).foldl_happen hstart n.nextFate.1.events
  change (n.send packet).2.service = _ at hserved
  rw [List.nil_append] at hserved hexplained
  cases hreceived : ((n.send packet).2.wait p).1 with
  | none =>
    have hidle : (n.send packet).2.link.transit.IsIdle := by
      intro data c
      obtain ⟨taken, htaken⟩ := Transit.received_of_carries hsent.upToDate.arrived hp c
      cases hreceived.symm.trans htaken
    have hkept := Service.succeeds_undergo hs packet n.link.address n.nextFate.1.events
    refine Or.inl ⟨rfl, hsent.wait p, (hidle.wait _ p).2, _, hserved, hkept.sound,
      hsize.trans_le hkept.size_le, ?_⟩
    by_cases htakes : sv.Takes packet n.link.address n.nextFate.1.events
    · right
      rw [hasked, ← hid]
      exact Service.standing_of_takes hs hparse hkind (hid ▸ hgenuine) htakes
    · rw [Service.standing_undergo hs hgenuine fun _ => htakes]
      exact hstanding
  | some data =>
    obtain ⟨first, delay, last, hE, hpacket⟩ :=
      hexplained (Transit.carries_of_wait (Or.inl hreceived)) hgenuine
    have hsound := Service.sound_undergo hs packet n.link.address first
    obtain ⟨reply, hreply, hanswer⟩ := hsound.answer_of_update hparse hkind n.link.address
    obtain rfl : reply.serialize = data := Option.some.inj (hreply.symm.trans hpacket)
    refine Or.inr ⟨reply, rfl, ?_⟩
    rcases hanswer with ⟨-, rfl⟩ | ⟨hrefused, hcode⟩
    · exact Or.inl rfl
    · obtain ⟨hsame, hne⟩ := Service.standing_of_refused hs hparse hkind hid hsize hgenuine
        (fun hrelents => hlasts ⟨sv, hsv, hrelents⟩) hE hrefused
      rw [← hasked] at hne
      exact Or.inr ⟨hcode, _, hserved, hsame.trans (hstanding.resolve_right hne)⟩

theorem afterAttempts (ask : Ask) (hexpected : ask.expected = ReplyKind.updated.code.toNat)
    (hgiveUp : ask.giveUp = true) {k : Nat}
    (hlasts : ∀ j < k, ¬ (n.afterAttempts packet p j).Relents packet)
    (hfailed : ∀ j < k, ask.Fails (n.attempt packet p j).received) :
    (n.afterAttempts packet p k).Repeats id before asked := by
  induction k with
  | zero => exact h
  | succ k ih =>
    have hsofar := ih (fun j hj => hlasts j (Nat.lt_succ_of_lt hj)) fun j hj =>
      hfailed j (Nat.lt_succ_of_lt hj)
    have hlast := hfailed k (Nat.lt_succ_self k)
    rw [Net.afterAttempts_succ]
    rcases hsofar.attempt hparse hkind hid hasked hp (hlasts k (Nat.lt_succ_self k)) with
      ⟨-, hnext⟩ | ⟨reply, hreceived, hanswer⟩
    · exact hnext
    · rw [Net.attempt, hreceived, ← Ask.outcome?_eq_none_iff, Verdict.of, Reply.parse_serialize,
        hexpected, hgiveUp] at hlast
      rcases hanswer with rfl | ⟨hcode, -⟩
      · cases hlast
      · simp [hcode, Verdict.outcome?, ReplyKind.code] at hlast

/-- When a client gives up at an error, its user stands where it stood before the first attempt. -/
theorem standing_of_error (ask : Ask) (hexpected : ask.expected = ReplyKind.updated.code.toNat)
    (hgiveUp : ask.giveUp = true) {k : Nat}
    (hlasts : ∀ j < k + 1, ¬ (n.afterAttempts packet p j).Relents packet)
    (hfailed : ∀ j < k, ask.Fails (n.attempt packet p j).received) {text : String}
    (herror : ask.errorText? (n.attempt packet p k).received = some text) :
    ∃ sv, (n.afterAttempts packet p (k + 1)).service = some sv ∧ sv.standing id = before := by
  have hlast := h.afterAttempts hparse hkind hid hasked hp ask hexpected hgiveUp
    (fun j hj => hlasts j (Nat.lt_succ_of_lt hj)) hfailed
  rw [Net.afterAttempts_succ]
  rcases hlast.attempt hparse hkind hid hasked hp (hlasts k (Nat.lt_succ_self k)) with
    ⟨hnone, -⟩ | ⟨reply, hreceived, rfl | ⟨-, hsame⟩⟩
  · rw [Net.attempt, hnone] at herror
    cases herror
  · rw [Net.attempt, hreceived, Ask.errorText?, Reply.received?, Option.bind_some,
      Reply.parse_serialize] at herror
    cases herror
  · exact hsame

end Net.Repeats

end TeamPresence
