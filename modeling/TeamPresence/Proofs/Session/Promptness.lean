import Mathlib.Data.List.TakeWhile
import TeamPresence.Proofs.Number.Rounding
import TeamPresence.Proofs.Session.Pursuit
import TeamPresence.Proofs.Session.Sending

/-!
# Prompt networks

On a prompt network a datagram that is not lost arrives while its request is sent. So all that was
sent to a client has arrived (`Transit.Arrived`), and nothing is left under way once it has
discarded that (`Transit.not_carries_discard`).

`Calm` is what a client's end of such a network keeps through every exchange. `Keeps.invariant` adds
to it what a service and the datagrams under way to the client are to each other, as long as each
handling of the packet keeps it.
-/

namespace TeamPresence

/-! ### The clock -/

namespace Clock

theorem le_reach (time now : Rat) : now ≤ reach time now := by
  rw [reach, hasCome]
  split
  · exact le_rfl
  · next h =>
    simp only [Bool.or_eq_true, decide_eq_true_eq, not_or, not_le] at h
    exact h.1.le

theorem reach_of_le {time now : Rat} (h : time ≤ now) : reach time now = now := by
  rw [reach, hasCome, decide_eq_true h, Bool.true_or, if_pos rfl]

theorem nearest_reach {time now : Rat} (htime : Binary64.nearest time = time)
    (hnow : Binary64.nearest now = now) : Binary64.nearest (reach time now) = reach time now := by
  rw [reach]
  split
  · exact hnow
  · exact htime

theorem after_zero {now : Rat} (h : Binary64.nearest now = now) : after 0 now = now := by
  rw [after, add_zero, h]

end Clock

/-! ### What has arrived -/

namespace Transit

/-- Whether all that was sent to a client has arrived. -/
def Arrived (now : Rat) : Transit → Prop
  | ordered arrivals => ∀ a ∈ arrivals, a.due ≤ now
  | heaped _ late heap => late = [] ∧ ∀ a, .arrival a ∉ heap.rows

variable {now : Rat} {t : Transit}

theorem Arrived.mono {later : Rat} (h : t.Arrived now) (hle : now ≤ later) : t.Arrived later := by
  cases t with
  | ordered arrivals => exact fun a ha => (h a ha).trans hle
  | heaped inbox late heap => exact h

theorem arrived_empty (timeout : Binary64) (now : Rat) : (empty timeout).Arrived now := by
  rw [empty]
  split <;> simp [Arrived]

theorem arrived_add {a : Arrival} (h : t.Arrived now) (ha : a.due ≤ now) :
    (t.add now a).Arrived now := by
  cases t with
  | ordered arrivals =>
    intro b hb
    rcases mem_insertArrival.mp hb with rfl | hb
    · exact ha
    · exact h b hb
  | heaped inbox late heap =>
    rw [add, if_pos ha]
    exact h

theorem arrived_discard (h : t.Arrived now) : (t.discard now).Arrived now := by
  cases t with
  | ordered arrivals => exact fun a ha => h a ((List.dropWhile_sublist _).subset ha)
  | heaped inbox late heap => exact ⟨h.1, fun a ha => h.2 a (AlarmHeap.mem_of_ring (Or.inr ha))⟩

theorem not_carries_discard (h : t.Arrived now) (data : Bytes) :
    ¬ (t.discard now).Carries data := by
  cases t with
  | ordered arrivals =>
    have hall : arrivals.dropWhile (fun a => Clock.hasCome a.due now) = [] := by
      rw [List.dropWhile_eq_nil_iff]
      intro a ha
      rw [Clock.hasCome, decide_eq_true (h a ha), Bool.true_or]
    simp [discard, Carries, hall]
  | heaped inbox late heap =>
    rintro (hin | hlate | ⟨a, ha, -⟩)
    · cases hin
    · rw [h.1] at hlate
      cases hlate
    · exact h.2 a (AlarmHeap.mem_of_ring (Or.inr ha))

end Transit

/-- What a wait among what has arrived comes to: the clock did not go back and is still rounded, and
all that is left has arrived. -/
structure Waited.Calm (now : Rat) (w : Waited) : Prop where
  since : now ≤ w.now
  rounded : Binary64.nearest w.now = w.now
  arrived : w.transit.Arrived w.now

namespace Transit

variable {now : Rat} {t : Transit}

theorem calm_concludeInOrder {later : Rat} {received : Option Bytes} {arrivals : List Arrival}
    (hle : now ≤ later) (hlater : Binary64.nearest later = later)
    (h : ∀ a ∈ arrivals, a.due ≤ now) : (concludeInOrder later received arrivals).Calm now := by
  refine ⟨hle, hlater, ?_⟩
  intro b hb
  obtain ⟨a, ha, rfl⟩ := List.mem_map.mp hb
  exact (Clock.reach_of_le ((h a ha).trans hle)).le

theorem calm_waitInOrder {arrivals : List Arrival} (h : ∀ a ∈ arrivals, a.due ≤ now)
    (hnow : Binary64.nearest now = now) (p : Patience) : (waitInOrder now p arrivals).Calm now := by
  have hreach : ∀ d, Binary64.nearest (Clock.reach (Clock.after d now) now) =
      Clock.reach (Clock.after d now) now :=
    fun d => Clock.nearest_reach (Binary64.nearest_nearest _) hnow
  unfold waitInOrder
  split
  · next d a rest =>
    have hrest : ∀ b ∈ rest, b.due ≤ now := fun b hb => h b (List.mem_cons_of_mem _ hb)
    dsimp only
    split
    · rw [Clock.reach_of_le (h a List.mem_cons_self)]
      exact calm_concludeInOrder le_rfl hnow hrest
    · exact calm_concludeInOrder (Clock.le_reach _ _) (hreach d) h
  · next d => exact calm_concludeInOrder (Clock.le_reach _ _) (hreach d) h
  · next a rest =>
    rw [Clock.reach_of_le (h a List.mem_cons_self)]
    exact calm_concludeInOrder le_rfl hnow fun b hb => h b (List.mem_cons_of_mem _ hb)
  · exact calm_concludeInOrder le_rfl hnow h
  · exact calm_concludeInOrder le_rfl hnow h

theorem calm_waitInHeap {inbox : List Bytes} {heap : AlarmHeap} (h : ∀ a, .arrival a ∉ heap.rows)
    (hnow : Binary64.nearest now = now) : (waitInHeap now inbox heap).Calm now := by
  have hrows : ∀ a, .arrival a ∉ ((heap.push .deadline).tend now).2.rows := by
    intro a ha
    rcases AlarmHeap.mem_of_mem_push (AlarmHeap.mem_of_tend (Or.inr ha)) with e | ha
    · cases e
    · exact h a ha
  unfold waitInHeap
  dsimp only
  split
  · next a rest _ hfirst => exact absurd (by rw [hfirst]; exact List.mem_cons_self) (hrows a)
  · exact ⟨le_rfl, hnow, rfl, fun a ha => hrows a (AlarmHeap.arrival_mem_of_lapse ha)⟩

/-- Of what has arrived a client that waits takes something. -/
theorem received_of_carries {p : Patience} (h : t.Arrived now) (hp : p ≠ .none) {data : Bytes}
    (c : t.Carries data) : ∃ taken, (t.wait now p).received = some taken := by
  cases t with
  | ordered arrivals =>
    obtain ⟨a, ha, -⟩ := c
    cases arrivals with
    | nil => cases ha
    | cons b rest =>
      have hcome : Clock.hasCome b.due now = true := by
        rw [Clock.hasCome, decide_eq_true (h b List.mem_cons_self), Bool.true_or]
      cases p with
      | none => exact absurd rfl hp
      | upTo d => exact ⟨b.data, by simp [Transit.wait, waitInOrder, concludeInOrder, hcome]⟩
      | unlimited => exact ⟨b.data, rfl⟩
  | heaped inbox late heap =>
    obtain ⟨rfl, hrows⟩ := h
    have hinbox : data ∈ inbox := by
      rcases c with hin | hlate | ⟨a, ha, -⟩
      · exact hin
      · cases hlate
      · exact absurd ha (hrows a)
    cases inbox with
    | nil => cases hinbox
    | cons first rest => exact ⟨first, rfl⟩

theorem calm_wait (h : t.Arrived now) (hnow : Binary64.nearest now = now) (p : Patience) :
    (t.wait now p).Calm now := by
  cases t with
  | ordered arrivals => exact calm_waitInOrder h hnow p
  | heaped inbox late heap => exact calm_waitInHeap h.2 hnow

end Transit

/-! ### Calm networks -/

/-- Whether an event is of a network that loses or repeats datagrams, but delays none. -/
def Event.IsPrompt (e : Event) : Prop := e = .handled none ∨ e = .handled (some 0)

instance (e : Event) : Decidable e.IsPrompt := inferInstanceAs (Decidable (_ ∨ _))

/-- Whether all that happens to a packet happens at once. -/
def Fate.IsPrompt (f : Fate) : Prop := ∀ e ∈ f.events, e.IsPrompt

instance (f : Fate) : Decidable f.IsPrompt := inferInstanceAs (Decidable (∀ e ∈ f.events, _))

theorem Fate.isPrompt_delivered : delivered.IsPrompt := by decide

/-- A client's end of the network to which all that was sent has arrived. -/
structure Net.UpToDate (n : Net) : Prop where
  rounded : Binary64.nearest n.now = n.now
  arrived : n.link.transit.Arrived n.now

namespace Net.UpToDate

variable {n : Net}

theorem expect (h : n.UpToDate) (data : Bytes) : (n.expect data 0).UpToDate := by
  refine ⟨h.rounded, ?_⟩
  rw [Net.expect, Link.expect]
  split
  · exact Transit.arrived_add h.arrived (Clock.after_zero h.rounded).le
  · exact h.arrived

theorem serve (h : n.UpToDate) (data : Bytes) (sender : Address) :
    (n.serve data sender).2.UpToDate := by
  constructor
  · rw [serve_now, h.rounded]
  · rw [serve_link, serve_now]
    exact h.arrived

theorem happen (h : n.UpToDate) (packet : Bytes) {e : Event} (he : e.IsPrompt) :
    (n.happen packet e).UpToDate := by
  rcases he with rfl | rfl
  · simp only [Net.happen]
    split
    · next hnone => cases hnone
    · exact h.serve _ _
  · simp only [Net.happen]
    split
    · next reply d _ hd =>
      cases hd
      exact (h.serve _ _).expect reply
    · exact h.serve _ _

theorem discard (h : n.UpToDate) : n.discard.UpToDate :=
  ⟨h.rounded, Transit.arrived_discard h.arrived⟩

theorem wait (h : n.UpToDate) (p : Patience) : (n.wait p).2.UpToDate :=
  have hwait := Transit.calm_wait h.arrived h.rounded p
  ⟨hwait.rounded, hwait.arrived⟩

end Net.UpToDate

/-- A client's end of a network that delays nothing, at or after some time. -/
structure Net.Calm (a : Address) (start : Rat) (n : Net) : Prop where
  address : n.link.address = a
  since : start ≤ n.now
  rounded : Binary64.nearest n.now = n.now
  arrived : n.link.transit.Arrived n.now
  script : ∀ f ∈ n.link.script, f.IsPrompt

namespace Net.Calm

variable {a : Address} {start : Rat} {n : Net} {packet : Bytes}

theorem upToDate (h : Calm a start n) : n.UpToDate := ⟨h.rounded, h.arrived⟩

theorem happen (h : Calm a start n) (packet : Bytes) {e : Event} (he : e.IsPrompt) :
    Calm a start (n.happen packet e) := by
  have hnext := h.upToDate.happen packet he
  refine ⟨?_, ?_, hnext.rounded, hnext.arrived, ?_⟩
  · rw [Net.happen_address, h.address]
  · rw [Net.happen_now]
    exact h.since
  · rw [Net.happen_script]
    exact h.script

theorem discard (h : Calm a start n) : Calm a start n.discard :=
  ⟨h.address, h.since, h.rounded, h.upToDate.discard.arrived, h.script⟩

theorem wait (h : Calm a start n) (p : Patience) : Calm a start (n.wait p).2 := by
  have hwait := Transit.calm_wait h.arrived h.rounded p
  exact ⟨h.address, h.since.trans hwait.since, hwait.rounded, hwait.arrived, h.script⟩

end Net.Calm

/-! ### What an exchange over a calm network keeps -/

/-- What a service and the datagrams under way to a client are to each other, as long as each
handling of a packet keeps it. -/
structure Keeps (packet : Bytes) (a : Address) (K : Service → (Bytes → Prop) → Prop) : Prop where
  fewer : ∀ {s : Service} {C D : Bytes → Prop}, (∀ data, D data → C data) → K s C → K s D
  respond : ∀ {s : Service} {C : Bytes → Prop}, K s C →
    K (s.respond packet a).2 fun data => C data ∨ (s.respond packet a).1.packet? = some data

namespace Keeps

variable {packet : Bytes} {a : Address} {K : Service → (Bytes → Prop) → Prop} {start : Rat}
  {n : Net}

theorem happen (hK : Keeps packet a K) (h : n.Calm a start)
    (hservice : ∃ s, n.service = some s ∧ K s fun data => n.link.transit.Carries data) {e : Event}
    (he : e.IsPrompt) :
    ∃ s, (n.happen packet e).service = some s ∧
      K s fun data => (n.happen packet e).link.transit.Carries data := by
  obtain ⟨s, hs, hkept⟩ := hservice
  refine ⟨_, Net.happen_service hs e, ?_⟩
  rw [h.address]
  have hbrings : ∀ data, (n.happen packet e).link.transit.Carries data →
      n.link.transit.Carries data ∨ (s.respond packet a).1.packet? = some data := by
    intro data c
    refine (Net.carries_of_happen c).imp_right fun hb => ?_
    rw [Net.serve_reply hs, h.address] at hb
    rcases he with rfl | rfl
    · cases hb
    · exact hb
  rcases he with rfl | rfl
  · exact hK.fewer hbrings (hK.respond hkept)
  · exact hK.fewer hbrings (hK.respond hkept)

theorem invariant (hK : Keeps packet a K) (start : Rat) :
    Invariant packet fun _ n => n.Calm a start ∧
      ∃ s, n.service = some s ∧ K s fun data => n.link.transit.Carries data := by
  constructor
  case send =>
    rintro k n ⟨h, hservice⟩
    obtain ⟨f, m, hnext, hm, hmservice, hf⟩ : ∃ f m, n.nextFate = (f, m) ∧ m.Calm a start ∧
        (∃ s, m.service = some s ∧ K s fun data => m.link.transit.Carries data) ∧ f.IsPrompt := by
      rw [Net.nextFate_eq (k := 0) rfl]
      exact ⟨_, _, rfl, ⟨h.address, h.since, h.rounded, h.arrived, fun f hf =>
        h.script f (List.mem_of_mem_drop hf)⟩, hservice,
        Fate.getD_of_forall h.script Fate.isPrompt_delivered 0⟩
    rw [Net.send, hnext]
    dsimp only
    have hall : ∀ e ∈ f.events, e.IsPrompt := hf
    clear hnext hf
    generalize f.events = E at hall
    induction E generalizing m with
    | nil => exact ⟨hm, hmservice⟩
    | cons e rest ih =>
      have he := hall e List.mem_cons_self
      exact ih _ (hm.happen packet he) (hK.happen hm hmservice he) fun e he =>
        hall e (List.mem_cons_of_mem _ he)
  case wait =>
    rintro k n p ⟨h, s, hs, hkept⟩
    exact ⟨h.wait p, s, hs, hK.fewer (fun data c => Transit.carries_of_wait (Or.inr c)) hkept⟩
  case budget =>
    rintro k n b ⟨h, hservice⟩
    exact ⟨⟨h.address, h.since, h.rounded, h.arrived, h.script⟩, hservice⟩

end Keeps

end TeamPresence
