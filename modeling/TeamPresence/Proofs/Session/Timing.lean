import Mathlib.Logic.Function.Iterate
import TeamPresence.Proofs.Number.Order
import TeamPresence.Proofs.Session.Operations
import TeamPresence.Session.Action

/-!
# Waiting in order

While the arrivals under way to a client are in the order of their times (`Net.Timely`), a wait of
some seconds takes the first of them if it has come or comes in time, and else lets the clock go to
the deadline (`Net.Timely.waits`). Whatever happens keeps that order, and so does whatever a client
does whose timeout is a number (`Net.Timely.run`). A wait lets no more time pass than the timeout,
as the clock adds it up (`Net.Timely.now_wait_le`); the sums are rounded, so many waits may last a
little longer than that many timeouts.

A client whose timeout is infinite waits for ever if nothing comes, so nothing is said of its waits
but that they keep the order.
-/

namespace TeamPresence

/-! ### The clock -/

namespace Clock

theorem after_mono (delay : Rat) {now later : Rat} (h : now ≤ later) :
    after delay now ≤ after delay later :=
  Binary64.nearest_mono (by linarith)

theorem le_after {delay now : Rat} (hdelay : 0 ≤ delay) (hnow : Binary64.nearest now = now) :
    now ≤ after delay now := by
  calc now = Binary64.nearest now := hnow.symm
    _ ≤ after delay now := Binary64.nearest_mono (by linarith)

theorem hasCome_of_le {time sooner now : Rat} (h : sooner ≤ time)
    (hcome : hasCome time now = true) : hasCome sooner now = true := by
  simp only [hasCome, Bool.or_eq_true, decide_eq_true_eq] at hcome ⊢
  rcases hcome with hle | hlt
  · exact Or.inl (h.trans hle)
  · exact Or.inr (h.trans_lt hlt)

theorem lt_of_not_hasCome {time now : Rat} (h : ¬ hasCome time now = true) : now < time := by
  simp only [hasCome, Bool.or_eq_true, decide_eq_true_eq, not_or, not_le] at h
  exact h.1

theorem reach_le {time now bound : Rat} (htime : time ≤ bound) (hnow : now ≤ bound) :
    reach time now ≤ bound := by
  rw [reach]
  split
  · exact hnow
  · exact htime

theorem reach_mono {time later now : Rat} (h : time ≤ later) :
    reach time now ≤ reach later now := by
  by_cases hcome : hasCome later now = true
  · rw [reach, reach, if_pos hcome, if_pos (hasCome_of_le h hcome)]
  · have hlt := lt_of_not_hasCome hcome
    have hlater : reach later now = later := if_neg hcome
    rw [hlater]
    exact reach_le h hlt.le

theorem after_iterate_le {delay now : Rat} (hdelay : 0 ≤ delay) (hnow : Binary64.nearest now = now)
    {n m : Nat} (h : n ≤ m) : (after delay)^[n] now ≤ (after delay)^[m] now := by
  have hrounded : ∀ k, Binary64.nearest ((after delay)^[k] now) = (after delay)^[k] now := by
    intro k
    cases k with
    | zero => exact hnow
    | succ k =>
      rw [Function.iterate_succ_apply']
      exact Binary64.nearest_nearest _
  induction m, h using Nat.le_induction with
  | base => exact le_rfl
  | succ m _ ih =>
    rw [Function.iterate_succ_apply']
    exact ih.trans (le_after hdelay (hrounded m))

/-- Sums that need no rounding are exact. -/
theorem after_iterate_of_exact {delay now : Rat} {n : Nat}
    (hexact : ∀ k ≤ n, Binary64.nearest (now + k * delay) = now + k * delay) :
    (after delay)^[n] now = now + n * delay := by
  induction n with
  | zero => simp
  | succ n ih =>
    rw [Function.iterate_succ_apply', ih fun k hk => hexact k (Nat.le_succ_of_le hk), after]
    have hnext := hexact (n + 1) le_rfl
    rw [← hnext]
    congr 1
    push_cast
    ring

end Clock

/-! ### Arrivals in order -/

/-- Arrivals in the order of their times, which are times that the clock shows. -/
structure IsSchedule (arrivals : List Arrival) : Prop where
  sorted : arrivals.Pairwise fun a b => a.due ≤ b.due
  rounded : ∀ a ∈ arrivals, Binary64.nearest a.due = a.due

namespace IsSchedule

variable {arrivals : List Arrival}

theorem nil : IsSchedule [] := ⟨List.Pairwise.nil, by simp⟩

theorem sublist {fewer : List Arrival} (h : IsSchedule arrivals) (hsub : fewer.Sublist arrivals) :
    IsSchedule fewer :=
  ⟨h.sorted.sublist hsub, fun a ha => h.rounded a (hsub.subset ha)⟩

theorem insertArrival (h : IsSchedule arrivals) {a : Arrival}
    (ha : Binary64.nearest a.due = a.due) : IsSchedule (insertArrival a arrivals) := by
  refine ⟨?_, ?_⟩
  · have hsorted := h.sorted
    clear h ha
    induction arrivals with
    | nil => simp [TeamPresence.insertArrival]
    | cons b rest ih =>
      obtain ⟨hb, hrest⟩ := List.pairwise_cons.mp hsorted
      rw [TeamPresence.insertArrival]
      split
      · next hlt =>
        refine List.pairwise_cons.mpr ⟨?_, hsorted⟩
        intro c hc
        rcases List.mem_cons.mp hc with rfl | hc
        · exact hlt.le
        · exact hlt.le.trans (hb c hc)
      · next hge =>
        refine List.pairwise_cons.mpr ⟨?_, ih hrest⟩
        intro c hc
        rcases Transit.mem_insertArrival.mp hc with rfl | hc
        · exact not_lt.mp hge
        · exact hb c hc
  · intro b hb
    rcases Transit.mem_insertArrival.mp hb with rfl | hb
    · exact ha
    · exact h.rounded b hb

theorem arrive (h : IsSchedule arrivals) {now : Rat} (hnow : Binary64.nearest now = now) :
    IsSchedule (Transit.arrive now arrivals) := by
  refine ⟨?_, ?_⟩
  · rw [Transit.arrive, List.pairwise_map]
    exact h.sorted.imp Clock.reach_mono
  · intro b hb
    obtain ⟨a, ha, rfl⟩ := List.mem_map.mp hb
    exact Clock.nearest_reach (h.rounded a ha) hnow

theorem dropWhile_hasCome (h : IsSchedule arrivals) (now : Rat) :
    (arrivals.dropWhile fun a => Clock.hasCome a.due now) =
      arrivals.filter fun a => !Clock.hasCome a.due now := by
  have hsorted := h.sorted
  clear h
  induction arrivals with
  | nil => rfl
  | cons a rest ih =>
    obtain ⟨ha, hrest⟩ := List.pairwise_cons.mp hsorted
    by_cases hcome : Clock.hasCome a.due now = true
    · rw [List.dropWhile_cons, if_pos hcome, ih hrest, List.filter_cons_of_neg (by simp [hcome])]
    · have hall : ∀ b ∈ a :: rest, (!Clock.hasCome b.due now) = true := by
        intro b hb
        rcases List.mem_cons.mp hb with rfl | hb
        · simpa using hcome
        · have hb := fun hbcome => hcome (Clock.hasCome_of_le (ha b hb) hbcome)
          simpa using hb
      rw [List.dropWhile_cons, if_neg hcome, List.filter_eq_self.mpr hall]

end IsSchedule

/-! ### Networks in order -/

/-- A network whose arrivals are in order. -/
structure Net.Timely (n : Net) : Prop where
  rounded : Binary64.nearest n.now = n.now
  ordered : ∃ arrivals, n.link.transit = .ordered arrivals ∧ IsSchedule arrivals

/-- Whether what is due at some time comes before a wait of some seconds is over. -/
def Clock.InTime (seconds now due : Rat) : Prop :=
  hasCome due now = true ∨ due ≤ after seconds now

/-- The network at a later time, with these arrivals left. -/
def Net.later (n : Net) (time : Rat) (arrivals : List Arrival) : Net :=
  { n with now := time, link := { n.link with transit := .ordered (Transit.arrive time arrivals) } }

/-- What a wait of some seconds comes to. -/
inductive Net.Waits (seconds : Rat) (n : Net) : Option Bytes × Net → Prop
  /-- The first arrival comes in time. It is taken when it is there, and the others are left. -/
  | took {a : Arrival} {rest : List Arrival} (h : n.link.transit = .ordered (a :: rest))
      (hfirst : ∀ b ∈ rest, a.due ≤ b.due) (hintime : Clock.InTime seconds n.now a.due) :
      Waits seconds n (some a.data, n.later (Clock.reach a.due n.now) rest)
  /-- Nothing comes in time. Nothing is taken, and the wait is over at its deadline. -/
  | timedOut {arrivals : List Arrival} (h : n.link.transit = .ordered arrivals)
      (hlate : ∀ b ∈ arrivals, ¬ Clock.InTime seconds n.now b.due) :
      Waits seconds n (none, n.later (Clock.reach (Clock.after seconds n.now) n.now) arrivals)

theorem Clock.InTime.mono {seconds now due sooner : Rat} (h : sooner ≤ due)
    (hintime : InTime seconds now due) : InTime seconds now sooner := by
  rcases hintime with hcome | hle
  · exact Or.inl (hasCome_of_le h hcome)
  · exact Or.inr (h.trans hle)

namespace Net.Timely

variable {n : Net}

/-- **A wait takes the first arrival that comes in time, or none does.** -/
theorem waits (h : n.Timely) (seconds : Rat) : n.Waits seconds (n.wait (.upTo seconds)) := by
  obtain ⟨arrivals, htransit, hschedule⟩ := h.ordered
  rw [Net.wait, htransit, Transit.wait]
  cases arrivals with
  | nil => exact Waits.timedOut htransit (by simp)
  | cons a rest =>
    obtain ⟨hfirst, -⟩ := List.pairwise_cons.mp hschedule.sorted
    rw [Transit.waitInOrder]
    by_cases hintime : Clock.hasCome a.due n.now = true ∨ a.due ≤ Clock.after seconds n.now
    · simp only [if_pos hintime]
      exact Waits.took htransit hfirst hintime
    · simp only [if_neg hintime]
      refine Waits.timedOut htransit ?_
      intro b hb hbin
      rcases List.mem_cons.mp hb with rfl | hb
      · exact hintime hbin
      · exact hintime (hbin.mono (hfirst b hb))

/-! ### What keeps the order -/

theorem of_later (n : Net) {time : Rat} (htime : Binary64.nearest time = time)
    {arrivals : List Arrival} (hschedule : IsSchedule arrivals) : (n.later time arrivals).Timely :=
  ⟨htime, _, rfl, hschedule.arrive htime⟩

theorem wait (h : n.Timely) (p : Patience) : (n.wait p).2.Timely := by
  obtain ⟨arrivals, htransit, hschedule⟩ := h.ordered
  have hdeadline : ∀ seconds,
      Binary64.nearest (Clock.reach (Clock.after seconds n.now) n.now) =
        Clock.reach (Clock.after seconds n.now) n.now := fun seconds =>
    Clock.nearest_reach (Binary64.nearest_nearest _) h.rounded
  rw [Net.wait, htransit, Transit.wait]
  cases arrivals with
  | nil =>
    cases p with
    | none => exact of_later n h.rounded hschedule
    | upTo seconds => exact of_later n (hdeadline seconds) hschedule
    | unlimited => exact of_later n h.rounded hschedule
  | cons a rest =>
    have harrival := Clock.nearest_reach (hschedule.rounded a List.mem_cons_self) h.rounded
    have hrest := hschedule.sublist (List.sublist_cons_self a rest)
    cases p with
    | none => exact of_later n h.rounded hschedule
    | upTo seconds =>
      rw [Transit.waitInOrder]
      dsimp only
      split
      · exact of_later n harrival hrest
      · exact of_later n (hdeadline seconds) hschedule
    | unlimited => exact of_later n harrival hrest

theorem transit_discard {arrivals : List Arrival} (htransit : n.link.transit = .ordered arrivals)
    (hschedule : IsSchedule arrivals) :
    n.discard.link.transit = .ordered (arrivals.filter fun a => !Clock.hasCome a.due n.now) := by
  rw [Net.discard, htransit, Transit.discard, hschedule.dropWhile_hasCome]

theorem discard (h : n.Timely) : n.discard.Timely := by
  obtain ⟨arrivals, htransit, hschedule⟩ := h.ordered
  exact ⟨h.rounded, _, transit_discard htransit hschedule, hschedule.sublist List.filter_sublist⟩

theorem serve (h : n.Timely) (data : Bytes) (sender : Address) :
    (n.serve data sender).2.Timely := by
  refine ⟨?_, ?_⟩
  · rw [Net.serve_now, h.rounded]
  · rw [Net.serve_link]
    exact h.ordered

theorem linkExpect (h : n.Timely) {a : Arrival} (ha : Binary64.nearest a.due = a.due) :
    { n with link := n.link.expect n.now a }.Timely := by
  obtain ⟨arrivals, htransit, hschedule⟩ := h.ordered
  refine ⟨h.rounded, ?_⟩
  rw [Link.expect]
  by_cases hopen : n.link.isOpen = true
  · rw [if_pos hopen]
    refine ⟨TeamPresence.insertArrival a arrivals, ?_, hschedule.insertArrival ha⟩
    simp only [htransit, Transit.add]
  · rw [if_neg hopen]
    exact h.ordered

theorem expect (h : n.Timely) (data : Bytes) (delay : Rat) : (n.expect data delay).Timely :=
  h.linkExpect (Binary64.nearest_nearest _)

theorem happen (h : n.Timely) (packet : Bytes) (e : Event) : (n.happen packet e).Timely := by
  cases e with
  | handled delay =>
    simp only [Net.happen]
    split
    · exact (h.serve _ _).expect _ _
    · exact h.serve _ _
  | elsewhere sender data => exact h.serve data sender
  | planted data delay => exact h.expect data delay

theorem send (h : n.Timely) (packet : Bytes) : (n.send packet).2.Timely := by
  have hnext : n.nextFate.2.Timely := by
    rw [Net.nextFate]
    split
    · exact ⟨h.rounded, h.ordered⟩
    · exact h
  rw [Net.send]
  generalize n.nextFate.1.events = events
  generalize n.nextFate.2 = sent at hnext
  induction events generalizing sent with
  | nil => exact hnext
  | cons e rest ih => exact ih _ (hnext.happen packet e)

/-! ### What a client does -/

theorem invariant (packet : Bytes) : Invariant packet fun _ n => n.Timely where
  send h := h.send packet
  wait p h := h.wait p
  budget _ h := ⟨h.rounded, h.ordered⟩

theorem request (h : n.Timely) (s : Session) (a : Ask) : (s.request a n).net.Timely := by
  rcases s.request_cases a n with ⟨f, hrequest, -⟩ | ⟨packet, -, hrequest⟩
  · rw [hrequest]
    exact h
  · rw [hrequest]
    exact ((invariant packet).pursue s.manner a 0 n.budget 0 n.discard h.discard).1

theorem reopen (h : n.Timely) {timeout : Binary64} (hnumber : timeout ≠ .nan) :
    { n with link := n.link.reopen timeout }.Timely :=
  ⟨h.rounded, [], if_neg hnumber, IsSchedule.nil⟩

theorem close (h : n.Timely) : { n with link := n.link.close }.Timely :=
  ⟨h.rounded, [], rfl, IsSchedule.nil⟩

theorem run (h : n.Timely) {s : Session} (hnumber : s.manner.timeout ≠ .nan) (action : Action) :
    (action.run s n).net.Timely :=
  Action.run_keeps (P := fun _ n => n.Timely) h (fun ask _ h => h.request s ask)
    (fun _ h => h.reopen hnumber) (fun _ _ h => h.close) fun _ _ => h.linkExpect h.rounded

end Net.Timely

/-! ### How long it takes -/

namespace Net

theorem send_now (packet : Bytes) (n : Net) : (n.send packet).2.now = n.now := by
  have hnext : n.nextFate.2.now = n.now := by
    rw [nextFate]
    split <;> rfl
  rw [send, ← hnext]
  generalize n.nextFate.1.events = events
  generalize n.nextFate.2 = sent
  induction events generalizing sent with
  | nil => rfl
  | cons e rest ih => exact (ih _).trans (sent.happen_now packet e)

theorem Timely.now_wait_le {n : Net} (h : n.Timely) {seconds : Rat} (hseconds : 0 ≤ seconds) :
    (n.wait (.upTo seconds)).2.now ≤ Clock.after seconds n.now := by
  have hdeadline := Clock.le_after hseconds h.rounded
  generalize hwaited : n.wait (.upTo seconds) = waited
  have hwaits : n.Waits seconds waited := hwaited ▸ h.waits seconds
  cases hwaits with
  | @took a rest _ _ hintime =>
    rcases hintime with hcome | hle
    · show Clock.reach a.due n.now ≤ _
      rwa [Clock.reach, if_pos hcome]
    · exact Clock.reach_le hle hdeadline
  | timedOut => exact Clock.reach_le le_rfl hdeadline

end Net

end TeamPresence
