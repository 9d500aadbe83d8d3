import TeamPresence.Session.AlarmHeap

/-!
# Datagrams on their way to a client

What was sent to a client arrives at its time and then stays there until it is taken or discarded.
The client waits for one datagram at a time, and the timeout bounds the wait.

Arrivals come in the order of their times, as long as the timeout is a number. An infinite timeout
sets no deadline, and then a wait for which nothing is under way never ends. `wait` is total: it
cuts such a wait off, with nothing received and the time unchanged. That is no timeout, and what is
said of timeouts is said of finite ones (`Net.Waits`).

A timeout that is not a number sets a deadline without a time. Arrivals and deadlines are then kept
in one heap, where a deadline stays when its wait is over. The deadline of a wait rings once it is
at the top: at once if nothing is under way, and not before the arrival that is at the top instead.
When arrival and deadline ring together, the client goes on before it is handed what a cleared heap
brings up then.

* `add` is told of a datagram that was sent.
* `discard` drops what has arrived.
* `wait` takes the next datagram to arrive, if it arrives in time.
* `Carries` tells what can still be taken. A datagram gets there by `add` only.
-/

namespace TeamPresence

/-- How long a wait may last. -/
inductive Patience
  | none
  | upTo (seconds : Rat)
  /-- Until something arrives, if ever. -/
  | unlimited
deriving DecidableEq

/-- The patience of a timeout in seconds. An infinite one bounds no wait. Nor does one that is not a
number, where arrivals and deadlines are kept in a heap (`Transit.waitInHeap`). -/
def Binary64.patience (timeout : Binary64) : Patience :=
  if timeout.isNonpositive then .none
  else match timeout.toRat? with
    | some d => .upTo d
    | none => .unlimited

/-- What has been sent to a client and not been taken. -/
inductive Transit
  /-- Arrivals, the first one first. -/
  | ordered (arrivals : List Arrival)
  /-- What has arrived, the oldest first, what is handed over at the next wait, and a heap of what
  will arrive, with deadlines in it. -/
  | heaped (inbox late : List Bytes) (heap : AlarmHeap)
deriving DecidableEq

/-- Puts an arrival behind all that are not later. -/
def insertArrival (a : Arrival) : List Arrival → List Arrival
  | [] => [a]
  | b :: rest => if a.due < b.due then a :: b :: rest else b :: insertArrival a rest

/-- What a wait comes to. -/
structure Waited where
  received : Option Bytes
  now : Rat
  transit : Transit
deriving DecidableEq

namespace Transit

/-- Nothing under way to a client with a timeout. -/
def empty (timeout : Binary64) : Transit :=
  if timeout = .nan then .heaped [] [] {} else .ordered []

/-- One more datagram sent. -/
def add (now : Rat) (a : Arrival) : Transit → Transit
  | ordered arrivals => .ordered (insertArrival a arrivals)
  | heaped inbox late heap =>
    if a.due ≤ now then .heaped (inbox ++ [a.data]) late heap
    else .heaped inbox late (heap.push (.arrival a))

/-- What is left when all that has arrived is dropped. -/
def discard (now : Rat) : Transit → Transit
  | ordered arrivals => .ordered (arrivals.dropWhile fun a => Clock.hasCome a.due now)
  | heaped _ late heap => .heaped [] late (heap.ring now).2

/-- The arrivals when those whose time has come are there. -/
def arrive (now : Rat) (arrivals : List Arrival) : List Arrival :=
  arrivals.map fun a => { a with due := Clock.reach a.due now }

def concludeInOrder (now : Rat) (received : Option Bytes) (arrivals : List Arrival) : Waited :=
  ⟨received, now, .ordered (arrive now arrivals)⟩

/-- Waits for one of the arrivals in order. Without a limit and with nothing under way the wait has
no end, and it is cut off where it began. -/
def waitInOrder (now : Rat) : Patience → List Arrival → Waited
  | .upTo d, a :: rest =>
    let deadline := Clock.after d now
    if Clock.hasCome a.due now ∨ a.due ≤ deadline then
      concludeInOrder (Clock.reach a.due now) (some a.data) rest
    else concludeInOrder (Clock.reach deadline now) none (a :: rest)
  | .upTo d, [] => concludeInOrder (Clock.reach (Clock.after d now) now) none []
  | .unlimited, a :: rest => concludeInOrder (Clock.reach a.due now) (some a.data) rest
  | .unlimited, [] => concludeInOrder now none []
  | .none, arrivals => concludeInOrder now none arrivals

/-- Ends a wait with the first of what was heard, a datagram or the deadline. The other datagrams
stay. -/
def conclude (now : Rat) (heard : List (Option Bytes)) (late : List Bytes) (heap : AlarmHeap) :
    Waited :=
  ⟨heard.head?.join, now, .heaped (heard.tail.filterMap id) late heap.lapse⟩

/-- Sets a deadline without a time, and waits until a datagram has arrived or the deadline rings. If
nothing is heard at once, the arrival at the top of the heap is. -/
def waitInHeap (now : Rat) (inbox : List Bytes) (heap : AlarmHeap) : Waited :=
  let first := (heap.push .deadline).tend now
  match inbox.map some ++ first.1.filterMap Alarm.signal?, first.2.rows with
  | [], .arrival a :: _ =>
    let second := first.2.tend a.due
    let third := second.2.tend a.due
    if .deadline ∈ second.1 then
      conclude a.due (second.1.filterMap Alarm.signal?) (third.1.filterMap Alarm.data?) third.2
    else conclude a.due ((second.1 ++ third.1).filterMap Alarm.signal?) [] third.2
  | heard, _ => conclude now heard [] first.2

/-- Waits for a datagram: the oldest that has arrived, or the next to arrive in time. -/
def wait (now : Rat) (patience : Patience) : Transit → Waited
  | ordered arrivals => waitInOrder now patience arrivals
  | heaped inbox late heap => waitInHeap now (inbox ++ late) heap

/-! ## What can be taken -/

/-- Whether a datagram with this content has arrived or will. -/
def Carries (data : Bytes) : Transit → Prop
  | ordered arrivals => ∃ a ∈ arrivals, a.data = data
  | heaped inbox late heap =>
    data ∈ inbox ∨ data ∈ late ∨ ∃ a, .arrival a ∈ heap.rows ∧ a.data = data

theorem not_carries_empty (timeout : Binary64) (data : Bytes) :
    ¬ (empty timeout).Carries data := by
  unfold empty
  split <;> simp [Carries]

theorem mem_insertArrival {a b : Arrival} {l : List Arrival} :
    b ∈ insertArrival a l ↔ b = a ∨ b ∈ l := by
  induction l with
  | nil => simp [insertArrival]
  | cons c rest ih =>
    simp only [insertArrival]
    split
    · simp
    · simp only [List.mem_cons, ih]
      grind

theorem carries_of_add {now : Rat} {a : Arrival} {t : Transit} {data : Bytes}
    (c : (t.add now a).Carries data) : data = a.data ∨ t.Carries data := by
  cases t with
  | ordered arrivals =>
    obtain ⟨b, m, rfl⟩ := c
    rcases mem_insertArrival.mp m with rfl | m
    · exact .inl rfl
    · exact .inr ⟨b, m, rfl⟩
  | heaped inbox late heap =>
    simp only [add] at c
    split at c
    · rcases c with m | c
      · rcases List.mem_append.mp m with m | m
        · exact .inr (.inl m)
        · exact .inl (List.mem_singleton.mp m)
      · exact .inr (.inr c)
    · rcases c with m | m | ⟨b, m, rfl⟩
      · exact .inr (.inl m)
      · exact .inr (.inr (.inl m))
      · rcases AlarmHeap.mem_of_mem_push m with e | m
        · cases e
          exact .inl rfl
        · exact .inr (.inr (.inr ⟨b, m, rfl⟩))

theorem carries_of_discard {now : Rat} {t : Transit} {data : Bytes}
    (c : (t.discard now).Carries data) : t.Carries data := by
  cases t with
  | ordered arrivals =>
    obtain ⟨a, m, d⟩ := c
    exact ⟨a, (List.dropWhile_sublist _).subset m, d⟩
  | heaped inbox late heap =>
    rcases c with m | m | ⟨a, m, d⟩
    · cases m
    · exact .inr (.inl m)
    · exact .inr (.inr ⟨a, AlarmHeap.mem_of_ring (.inr m), d⟩)

/-- The content of an arrival that is among some alarms. -/
def InAlarms (data : Bytes) (alarms : List Alarm) : Prop :=
  ∃ a, .arrival a ∈ alarms ∧ a.data = data

theorem InAlarms.mono {data : Bytes} {l k : List Alarm} (sub : ∀ y ∈ l, y ∈ k)
    (m : InAlarms data l) : InAlarms data k :=
  m.imp fun _ m => ⟨sub _ m.1, m.2⟩

theorem inAlarms_of_signal {data : Bytes} {rung : List Alarm}
    (m : some data ∈ rung.filterMap Alarm.signal?) : InAlarms data rung := by
  obtain ⟨x, m, e⟩ := List.mem_filterMap.mp m
  cases x with
  | arrival a => exact ⟨a, m, by simpa [Alarm.signal?] using e⟩
  | deadline => simp [Alarm.signal?] at e
  | lapsed => simp [Alarm.signal?] at e

theorem inAlarms_of_data {data : Bytes} {rung : List Alarm}
    (m : data ∈ rung.filterMap Alarm.data?) : InAlarms data rung := by
  obtain ⟨x, m, e⟩ := List.mem_filterMap.mp m
  cases x with
  | arrival a => exact ⟨a, m, by simpa [Alarm.data?] using e⟩
  | deadline => simp [Alarm.data?] at e
  | lapsed => simp [Alarm.data?] at e

theorem of_conclude {now : Rat} {heard : List (Option Bytes)} {late : List Bytes}
    {heap : AlarmHeap} {data : Bytes}
    (c : (conclude now heard late heap).received = some data ∨
      (conclude now heard late heap).transit.Carries data) :
    some data ∈ heard ∨ data ∈ late ∨ InAlarms data heap.rows := by
  rcases c with e | m | m | ⟨a, m, d⟩
  · refine .inl ?_
    cases heard with
    | nil => simp [conclude] at e
    | cons x rest =>
      simp only [conclude, List.head?_cons, Option.join_some] at e
      exact e ▸ List.mem_cons_self
  · obtain ⟨x, m, rfl⟩ := List.mem_filterMap.mp m
    exact .inl (List.mem_of_mem_tail m)
  · exact .inr (.inl m)
  · exact .inr (.inr ⟨a, AlarmHeap.arrival_mem_of_lapse m, d⟩)

theorem of_waitInHeap {now : Rat} {inbox : List Bytes} {heap : AlarmHeap} {data : Bytes}
    (c : (waitInHeap now inbox heap).received = some data ∨
      (waitInHeap now inbox heap).transit.Carries data) :
    data ∈ inbox ∨ InAlarms data heap.rows := by
  have pushed : InAlarms data (heap.push .deadline).rows → InAlarms data heap.rows := by
    rintro ⟨a, m, d⟩
    rcases AlarmHeap.mem_of_mem_push m with e | m
    · cases e
    · exact ⟨a, m, d⟩
  have rung : ∀ (time : Rat) (h : AlarmHeap), InAlarms data (h.tend time).1 →
      InAlarms data h.rows := fun _ _ => InAlarms.mono fun _ m => AlarmHeap.mem_of_tend (.inl m)
  have left : ∀ (time : Rat) (h : AlarmHeap), InAlarms data (h.tend time).2.rows →
      InAlarms data h.rows := fun _ _ => InAlarms.mono fun _ m => AlarmHeap.mem_of_tend (.inr m)
  unfold waitInHeap at c
  simp only at c
  split at c
  · refine .inr (pushed (left now _ ?_))
    split at c
    · rcases of_conclude c with m | m | m
      · exact rung _ _ (inAlarms_of_signal m)
      · exact left _ _ (rung _ _ (inAlarms_of_data m))
      · exact left _ _ (left _ _ m)
    · rcases of_conclude c with m | m | m
      · obtain ⟨a, m, d⟩ := inAlarms_of_signal m
        rcases List.mem_append.mp m with m | m
        · exact rung _ _ ⟨a, m, d⟩
        · exact left _ _ (rung _ _ ⟨a, m, d⟩)
      · cases m
      · exact left _ _ (left _ _ m)
  · rcases of_conclude c with m | m | m
    · rcases List.mem_append.mp m with m | m
      · exact .inl (by simpa using m)
      · exact .inr (pushed (rung _ _ (inAlarms_of_signal m)))
    · cases m
    · exact .inr (pushed (left _ _ m))

theorem of_concludeInOrder {now : Rat} {received : Option Bytes} {arrivals : List Arrival}
    {data : Bytes}
    (c : (concludeInOrder now received arrivals).received = some data ∨
      (concludeInOrder now received arrivals).transit.Carries data) :
    received = some data ∨ ∃ a ∈ arrivals, a.data = data := by
  refine c.imp_right ?_
  rintro ⟨_, m, rfl⟩
  obtain ⟨a, ha, rfl⟩ := List.mem_map.mp m
  exact ⟨a, ha, rfl⟩

/-- What was taken was on its way, and so was what still is. -/
theorem carries_of_wait {now : Rat} {p : Patience} {t : Transit} {data : Bytes}
    (c : (t.wait now p).received = some data ∨ (t.wait now p).transit.Carries data) :
    t.Carries data := by
  cases t with
  | ordered arrivals =>
    simp only [wait] at c
    unfold waitInOrder at c
    have taken : ∀ {later : Rat} {a : Arrival} {rest : List Arrival},
        (concludeInOrder later (some a.data) rest).received = some data ∨
          (concludeInOrder later (some a.data) rest).transit.Carries data →
        ∃ b ∈ a :: rest, b.data = data := fun {_ a _} c => by
      rcases of_concludeInOrder c with m | ⟨b, hb, m⟩
      · exact ⟨a, List.mem_cons_self, Option.some.inj m⟩
      · exact ⟨b, List.mem_cons_of_mem a hb, m⟩
    split at c
    · dsimp only at c
      split at c
      · exact taken c
      · exact (of_concludeInOrder c).resolve_left (by simp)
    · exact (of_concludeInOrder c).resolve_left (by simp)
    · exact taken c
    · exact (of_concludeInOrder c).resolve_left (by simp)
    · exact (of_concludeInOrder c).resolve_left (by simp)
  | heaped inbox late heap =>
    rcases of_waitInHeap c with m | m
    · rcases List.mem_append.mp m with m | m
      · exact .inl m
      · exact .inr (.inl m)
    · exact .inr (.inr m)

end Transit

end TeamPresence
