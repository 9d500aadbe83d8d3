import Mathlib.Data.List.GetD
import TeamPresence.Proofs.Service.Updates
import TeamPresence.Session.Net

/-!
# What a send does

A send lets the events of one fate happen. Each event is one step of the service (`Event.serve`) and
may put one datagram on its way to the client (`carries_of_happen`); nothing else of the network
changes. `Fate.eventsOf` lists what happens to the first packets of a script, so that a service can
be followed through any number of sends (`Service.undergo`).
-/

namespace TeamPresence

/-- The service after one thing happened to a packet of a client. -/
def Event.serve (packet : Bytes) (a : Address) (s : Service) : Event → Service
  | .handled _ => (s.respond packet a).2
  | .elsewhere sender data => (s.respond data sender).2
  | .planted _ _ => s

/-- The service after some things happened to a packet of a client. -/
def Service.undergo (s : Service) (packet : Bytes) (a : Address) (events : List Event) : Service :=
  events.foldl (Event.serve packet a) s

/-- What an event puts on its way to the client, when the server replies so to the packet. -/
def Event.Brings (reply : Option Bytes) (data : Bytes) : Event → Prop
  | .handled (some _) => reply = some data
  | .planted sent _ => sent = data
  | .handled none | .elsewhere _ _ => False

/-- What happens to the first packets, when a script tells their fates. -/
def Fate.eventsOf (script : List Fate) (k : Nat) : List Event :=
  (List.range k).flatMap fun i => (script.getD i Fate.delivered).events

theorem Fate.eventsOf_succ (script : List Fate) (k : Nat) :
    eventsOf script (k + 1) = eventsOf script k ++ (script.getD k delivered).events := by
  rw [eventsOf, List.range_succ, List.flatMap_append, List.flatMap_singleton, eventsOf]

theorem Fate.getD_of_forall {script : List Fate} {P : Fate → Prop} (hscript : ∀ f ∈ script, P f)
    (hdelivered : P delivered) (k : Nat) : P (script.getD k delivered) := by
  rcases Nat.lt_or_ge k script.length with hlt | hge
  · rw [List.getD_eq_getElem _ _ hlt]
    exact hscript _ (List.getElem_mem hlt)
  · rw [List.getD_eq_default _ _ hge]
    exact hdelivered

theorem Fate.forall_mem_eventsOf {script : List Fate} {P : Event → Prop}
    (hscript : ∀ f ∈ script, ∀ e ∈ f.events, P e) (hhandled : P (.handled (some 0))) {k : Nat}
    {e : Event} (he : e ∈ eventsOf script k) : P e := by
  obtain ⟨i, -, he⟩ := List.mem_flatMap.mp he
  have hdelivered : ∀ e ∈ delivered.events, P e := fun e he => List.mem_singleton.mp he ▸ hhandled
  exact getD_of_forall (P := fun f => ∀ e ∈ f.events, P e) hscript hdelivered i e he

namespace Service

theorem undergo_append (s : Service) (packet : Bytes) (a : Address) (E F : List Event) :
    s.undergo packet a (E ++ F) = (s.undergo packet a E).undergo packet a F :=
  List.foldl_append

theorem undergo_singleton (s : Service) (packet : Bytes) (a : Address) (e : Event) :
    s.undergo packet a [e] = e.serve packet a s := rfl

theorem effect_serve (s : Service) (packet : Bytes) (a : Address) (e : Event) :
    Effect s (e.serve packet a s) := by
  cases e with
  | handled delay => exact s.handle_effect packet _
  | elsewhere sender data => exact s.handle_effect data _
  | planted data delay => exact .none

theorem sound_serve {s : Service} (hs : s.Sound) (packet : Bytes) (a : Address) (e : Event) :
    (e.serve packet a s).Sound := (s.effect_serve packet a e).sound hs

theorem sound_undergo {s : Service} (hs : s.Sound) (packet : Bytes) (a : Address)
    (E : List Event) : (s.undergo packet a E).Sound := by
  induction E generalizing s with
  | nil => exact hs
  | cons e rest ih => exact ih (sound_serve hs packet a e)

theorem reply_of_packet? {s : Service} {data packet : Bytes} {a : Address}
    (h : (s.respond data a).1.packet? = some packet) :
    ∃ r, (s.handle data (some a)).1 = .ok r ∧ packet = r.serialize := by
  rw [respond] at h
  generalize (s.handle data (some a)).1 = outcome at h
  cases outcome with
  | error f => cases h
  | ok r =>
    refine ⟨r, rfl, ?_⟩
    simp only [Response.of] at h
    split at h
    · cases h
    · exact (Option.some.inj h).symm

end Service

/-! ### One event -/

namespace Net

section Frame

variable (n : Net) (data packet : Bytes) (delay : Rat) (a : Address) (e : Event)

@[simp] theorem expect_address : (n.expect data delay).link.address = n.link.address := by
  rw [expect, Link.expect]
  split <;> rfl

@[simp] theorem expect_script : (n.expect data delay).link.script = n.link.script := by
  rw [expect, Link.expect]
  split <;> rfl

@[simp] theorem serve_link : (n.serve data a).2.link = n.link := by
  rw [serve]
  split <;> rfl

@[simp] theorem serve_now : (n.serve data a).2.now = n.now := by
  rw [serve]
  split <;> rfl

@[simp] theorem happen_address : (n.happen packet e).link.address = n.link.address := by
  cases e with
  | handled delay =>
    simp only [happen]
    split <;> simp
  | elsewhere sender data => simp [happen]
  | planted data delay => simp [happen]

@[simp] theorem happen_script : (n.happen packet e).link.script = n.link.script := by
  cases e with
  | handled delay =>
    simp only [happen]
    split <;> simp
  | elsewhere sender data => simp [happen]
  | planted data delay => simp [happen]

@[simp] theorem happen_now : (n.happen packet e).now = n.now := by
  cases e with
  | handled delay =>
    simp only [happen]
    split <;> simp [expect]
  | elsewhere sender data => simp [happen]
  | planted data delay => rfl

end Frame

variable {n : Net} {s : Service} {packet data : Bytes}

theorem serve_eq (h : n.service = some s) (data : Bytes) (a : Address) :
    n.serve data a =
      ((s.respond data a).1.packet?, { n with service := some (s.respond data a).2 }) := by
  rw [serve, h]

theorem serve_reply (h : n.service = some s) (data : Bytes) (a : Address) :
    (n.serve data a).1 = (s.respond data a).1.packet? := by rw [serve_eq h]

theorem serve_service (n : Net) (data : Bytes) (a : Address) :
    (n.serve data a).2.service = n.service.map fun s => (s.respond data a).2 := by
  rw [serve]
  cases hservice : n.service with
  | none => exact hservice
  | some s => rfl

@[simp] theorem expect_service (n : Net) (data : Bytes) (delay : Rat) :
    (n.expect data delay).service = n.service := rfl

theorem happen_service_eq (n : Net) (packet : Bytes) (e : Event) :
    (n.happen packet e).service = n.service.map (e.serve packet n.link.address) := by
  cases e with
  | handled delay =>
    simp only [happen]
    split
    · exact serve_service n packet n.link.address
    · exact serve_service n packet n.link.address
  | elsewhere sender data => exact serve_service n data sender
  | planted data delay =>
    show n.service = n.service.map fun s => s
    simp

theorem happen_service (h : n.service = some s) (e : Event) :
    (n.happen packet e).service = some (e.serve packet n.link.address s) := by
  rw [happen_service_eq, h, Option.map_some]

theorem carries_of_expect {delay : Rat} {sent : Bytes}
    (c : (n.expect sent delay).link.transit.Carries data) :
    n.link.transit.Carries data ∨ sent = data := by
  rw [expect, Link.expect] at c
  split at c
  · exact (Transit.carries_of_add c).symm.imp_right Eq.symm
  · exact Or.inl c

/-- What is under way after something happened to a packet was so before, or is brought by it. -/
theorem carries_of_happen {e : Event} (c : (n.happen packet e).link.transit.Carries data) :
    n.link.transit.Carries data ∨ e.Brings (n.serve packet n.link.address).1 data := by
  cases e with
  | handled delay =>
    simp only [happen] at c
    split at c
    · next reply d hreply =>
      rcases carries_of_expect c with c | rfl
      · rw [serve_link] at c
        exact Or.inl c
      · exact Or.inr hreply
    · rw [serve_link] at c
      exact Or.inl c
  | elsewhere sender d =>
    rw [happen, serve_link] at c
    exact Or.inl c
  | planted d delay => exact carries_of_expect c

/-! ### One packet -/

theorem nextFate_eq {script : List Fate} {k : Nat} (h : n.link.script = script.drop k) :
    n.nextFate = (script.getD k Fate.delivered,
      { n with link := { n.link with script := script.drop (k + 1) } }) := by
  obtain ⟨now, service, ⟨address, isOpen, transit, fates⟩, budget⟩ := n
  obtain rfl : fates = script.drop k := h
  rw [nextFate]
  rcases Nat.lt_or_ge k script.length with hlt | hge
  · simp only [List.drop_eq_getElem_cons hlt, List.getD_eq_getElem _ _ hlt]
  · simp only [List.drop_eq_nil_of_le hge, List.getD_eq_default _ _ hge,
      List.drop_eq_nil_of_le (Nat.le_succ_of_le hge)]

theorem foldl_happen_script (packet : Bytes) (E : List Event) (n : Net) :
    (E.foldl (happen packet) n).link.script = n.link.script := by
  induction E generalizing n with
  | nil => rfl
  | cons e rest ih => exact (ih _).trans (n.happen_script packet e)

/-! ### Many packets -/

/-- The network after some packets were sent, one after the other. -/
def sendAll (n : Net) (packets : List Bytes) : Net :=
  packets.foldl (fun n packet => (n.send packet).2) n

theorem sendAll_append (n : Net) (packets more : List Bytes) :
    n.sendAll (packets ++ more) = (n.sendAll packets).sendAll more := List.foldl_append

/-- All of a network that matters to what becomes of the server when packets are sent. -/
def course (n : Net) : Option Service × Address × List Fate :=
  (n.service, n.link.address, n.link.script)

variable {m : Net}

theorem course_eq_iff : n.course = m.course ↔
    n.service = m.service ∧ n.link.address = m.link.address ∧ n.link.script = m.link.script := by
  simp only [course, Prod.mk.injEq]

theorem course_happen (h : n.course = m.course) (packet : Bytes) (e : Event) :
    (n.happen packet e).course = (m.happen packet e).course := by
  obtain ⟨hservice, haddress, hscript⟩ := course_eq_iff.mp h
  simp only [course, happen_service_eq, happen_address, happen_script, hservice, haddress, hscript]

theorem nextFate_of_course (h : n.course = m.course) :
    n.nextFate.1 = m.nextFate.1 ∧ n.nextFate.2.course = m.nextFate.2.course := by
  obtain ⟨hservice, haddress, hscript⟩ := course_eq_iff.mp h
  rw [nextFate_eq (n := n) (k := 0) rfl, nextFate_eq (n := m) (k := 0) rfl]
  simp only [course, hservice, haddress, hscript, true_and]

theorem course_send (h : n.course = m.course) (packet : Bytes) :
    (n.send packet).2.course = (m.send packet).2.course := by
  obtain ⟨hfate, hnext⟩ := nextFate_of_course h
  rw [send, send, hfate]
  dsimp only
  generalize m.nextFate.1.events = events
  generalize n.nextFate.2 = first at hnext
  generalize m.nextFate.2 = second at hnext
  induction events generalizing first second with
  | nil => exact hnext
  | cons e rest ih => exact ih _ _ (course_happen hnext packet e)

theorem course_sendAll (h : n.course = m.course) (packets : List Bytes) :
    (n.sendAll packets).course = (m.sendAll packets).course := by
  induction packets generalizing n m with
  | nil => exact h
  | cons packet rest ih => exact ih (course_send h packet)

end Net

end TeamPresence
