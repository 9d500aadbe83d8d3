import TeamPresence.Bytes
import TeamPresence.Session.Clock

/-!
# Heaps of alarms

An alarm is a datagram that arrives at its time, or a deadline whose time is not a number. Such a
deadline is neither before nor after any other alarm. Alarms wait in a binary heap, written row by
row: the children of place `i` are the places `2 * i + 1` and `2 * i + 2`.

Among arrivals the top is the first to arrive. A deadline hides from its children whether they come
before what is above it, so an arrival below one may come out late.

* `push` puts an alarm at the end, from where it rises past each parent that it is before.
* `pop?` takes the top. The earlier child moves up, all the way down, and the last alarm takes the
  place that is left.
* `ring` takes from the top all that a time has come for. A deadline at the top rings at any time.
* `lapse` is told that a wait is over. Its deadline stays, but means nothing any more.
* `clear` takes such deadlines out of a large heap that had many of them.
-/

namespace TeamPresence

/-- A datagram on its way to a client. -/
structure Arrival where
  /-- When it arrives, in seconds. -/
  due : Rat
  data : Bytes
deriving DecidableEq

/-- What rings. -/
inductive Alarm
  | arrival (a : Arrival)
  /-- The deadline of the wait that goes on. Its time is not a number. -/
  | deadline
  /-- The deadline of a wait that is over. -/
  | lapsed
deriving DecidableEq

namespace Alarm

/-- Whether the times of two alarms are in order. -/
def before : Alarm → Alarm → Bool
  | arrival a, arrival b => a.due < b.due
  | _, _ => false

/-- Whether a time has come for an alarm. -/
def isDue (now : Rat) : Alarm → Bool
  | arrival a => Clock.hasCome a.due now
  | deadline | lapsed => true

/-- The content of an arrival. -/
def data? : Alarm → Option Bytes
  | arrival a => some a.data
  | deadline | lapsed => none

/-- What is heard when an alarm rings: a datagram, or (`none`) the end of the wait. -/
def signal? : Alarm → Option (Option Bytes)
  | arrival a => some (some a.data)
  | deadline => some none
  | lapsed => none

/-- The alarm once the wait is over. -/
def lapse : Alarm → Alarm
  | arrival a => arrival a
  | deadline | lapsed => lapsed

end Alarm

/-! ## Rows -/

namespace AlarmHeap

/-- Puts an alarm at a vacant place, or at the place of the last of the parents that it is before:
each of those moves down by one. No parent before the root is looked at. -/
def riseInRows (x : Alarm) (root place : Nat) (rows : List Alarm) : List Alarm :=
  match place with
  | 0 => rows.set 0 x
  | i + 1 =>
    match rows[i / 2]? with
    | some parent =>
      if root ≤ i ∧ x.before parent then riseInRows x root (i / 2) (rows.set (i + 1) parent)
      else rows.set (i + 1) x
    | none => rows.set (i + 1) x
termination_by place
decreasing_by omega

/-- Fills a vacant place from below. Of two children the left one moves up only if it is before the
right one. The alarm that is put in at the end rises from there, at most up to the root. -/
def sinkInRows (x : Alarm) (root place : Nat) (rows : List Alarm) : List Alarm :=
  if both : 2 * place + 2 < rows.length then
    if (rows[2 * place + 1]).before rows[2 * place + 2] then
      sinkInRows x root (2 * place + 1) (rows.set place rows[2 * place + 1])
    else sinkInRows x root (2 * place + 2) (rows.set place rows[2 * place + 2])
  else if one : 2 * place + 1 < rows.length then
    sinkInRows x root (2 * place + 1) (rows.set place rows[2 * place + 1])
  else riseInRows x root place rows
termination_by rows.length - place
decreasing_by all_goals simp only [List.length_set]; omega

/-- Lets the alarm at a place sink among those below it. -/
def sinkAt (place : Nat) (rows : List Alarm) : List Alarm :=
  match rows[place]? with
  | some x => sinkInRows x place place rows
  | none => rows

end AlarmHeap

/-! ## Heaps -/

/-- Alarms in a binary heap. -/
structure AlarmHeap where
  rows : List Alarm := []
  /-- How many deadlines have lapsed in the heap since it was cleared. -/
  lapses : Nat := 0
deriving DecidableEq

namespace AlarmHeap

def push (x : Alarm) (h : AlarmHeap) : AlarmHeap :=
  { h with rows := riseInRows x 0 h.rows.length (h.rows ++ [x]) }

def pop? (h : AlarmHeap) : Option (Alarm × AlarmHeap) :=
  match h.rows with
  | [] => none
  | top :: rest =>
    match rest.getLast? with
    | some last => some (top, { h with rows := sinkInRows last 0 0 (top :: rest.dropLast) })
    | none => some (top, { h with rows := [] })

@[simp] theorem length_riseInRows (x : Alarm) (root place : Nat) (rows : List Alarm) :
    (riseInRows x root place rows).length = rows.length := by
  fun_induction riseInRows x root place rows <;> simp_all

@[simp] theorem length_sinkInRows (x : Alarm) (root place : Nat) (rows : List Alarm) :
    (sinkInRows x root place rows).length = rows.length := by
  fun_induction sinkInRows x root place rows <;> simp_all

theorem length_of_pop? {h rest : AlarmHeap} {x : Alarm} (e : h.pop? = some (x, rest)) :
    rest.rows.length + 1 = h.rows.length := by
  unfold pop? at e
  split at e
  · simp at e
  · rename_i top tail shape
    split at e
    · rename_i last found
      have : tail ≠ [] := by rintro rfl; simp at found
      have := List.length_pos_iff.mpr this
      simp only [Option.some.injEq, Prod.mk.injEq] at e
      simp only [← e.2, shape, length_sinkInRows, List.length_cons, List.length_dropLast]
      omega
    · rename_i found
      simp_all
      simp [← e.2]

/-- What a time has come for, taken from the top until something is not due, and the heap left. -/
def ring (now : Rat) (h : AlarmHeap) : List Alarm × AlarmHeap :=
  match _ : h.pop? with
  | none => ([], h)
  | some (x, rest) =>
    if x.isDue now then
      let later := ring now rest
      (x :: later.1, later.2)
    else ([], h)
termination_by h.rows.length
decreasing_by rename pop? h = _ => e; have := length_of_pop? e; omega

/-- The heap after a wait. -/
def lapse (h : AlarmHeap) : AlarmHeap :=
  ⟨h.rows.map Alarm.lapse, h.lapses + h.rows.count .deadline⟩

/-- The size up to which a heap is not cleared. -/
def fewAlarms : Nat := 100

/-- The heap without lapsed deadlines, if it is large and there have been more of them than half its
size. It is put in order from the last parent to the top. -/
def clear (h : AlarmHeap) : AlarmHeap :=
  if fewAlarms < h.rows.length ∧ h.rows.length < 2 * h.lapses then
    let kept := h.rows.filter (· ≠ .lapsed)
    ⟨(List.range (kept.length / 2)).foldr sinkAt kept, 0⟩
  else h

/-- What rings at a time once the heap is cleared, and the heap left. -/
def tend (now : Rat) (h : AlarmHeap) : List Alarm × AlarmHeap := h.clear.ring now

/-! ## What is kept -/

theorem mem_of_mem_riseInRows {x y : Alarm} {root place : Nat} {rows : List Alarm}
    (m : y ∈ riseInRows x root place rows) : y = x ∨ y ∈ rows := by
  fun_induction riseInRows x root place rows with
  | case1 | case3 | case4 => exact (List.mem_or_eq_of_mem_set m).symm
  | case2 rows i parent found _ ih =>
    rcases ih m with m | m
    · exact .inl m
    · rcases List.mem_or_eq_of_mem_set m with m | rfl
      · exact .inr m
      · exact .inr (List.mem_of_getElem? found)

theorem mem_of_mem_sinkInRows {x y : Alarm} {root place : Nat} {rows : List Alarm}
    (m : y ∈ sinkInRows x root place rows) : y = x ∨ y ∈ rows := by
  fun_induction sinkInRows x root place rows with
  | case4 => exact mem_of_mem_riseInRows m
  | case1 place rows _ _ ih | case2 place rows _ _ ih | case3 place rows _ _ ih =>
    rcases ih m with m | m
    · exact .inl m
    · rcases List.mem_or_eq_of_mem_set m with m | rfl
      · exact .inr m
      · exact .inr (List.getElem_mem _)

theorem mem_of_mem_sinkAt {y : Alarm} {place : Nat} {rows : List Alarm}
    (m : y ∈ sinkAt place rows) : y ∈ rows := by
  unfold sinkAt at m
  split at m
  · rename_i found
    rcases mem_of_mem_sinkInRows m with rfl | m
    · exact List.mem_of_getElem? found
    · exact m
  · exact m

theorem mem_of_mem_push {x y : Alarm} {h : AlarmHeap} (m : y ∈ (h.push x).rows) :
    y = x ∨ y ∈ h.rows := by
  rcases mem_of_mem_riseInRows m with m | m
  · exact .inl m
  · simpa [or_comm] using m

theorem mem_of_pop? {h rest : AlarmHeap} {x : Alarm} (e : h.pop? = some (x, rest)) :
    x ∈ h.rows ∧ ∀ y ∈ rest.rows, y ∈ h.rows := by
  unfold pop? at e
  split at e
  · simp at e
  · rename_i top tail shape
    rw [shape]
    split at e
    · rename_i last found
      simp only [Option.some.injEq, Prod.mk.injEq] at e
      obtain ⟨rfl, rfl⟩ := e
      refine ⟨List.mem_cons_self, fun y m => ?_⟩
      rcases mem_of_mem_sinkInRows m with rfl | m
      · exact List.mem_cons_of_mem _ (List.mem_of_getLast? found)
      · rcases List.mem_cons.mp m with rfl | m
        · exact List.mem_cons_self
        · exact List.mem_cons_of_mem _ (List.dropLast_subset _ m)
    · simp only [Option.some.injEq, Prod.mk.injEq] at e
      obtain ⟨rfl, rfl⟩ := e
      exact ⟨List.mem_cons_self, fun y m => by simp at m⟩

theorem mem_of_ring {now : Rat} {h : AlarmHeap} {y : Alarm}
    (m : y ∈ (h.ring now).1 ∨ y ∈ (h.ring now).2.rows) : y ∈ h.rows := by
  fun_induction ring now h with
  | case1 h => simpa using m
  | case2 h x rest e _ later ih =>
    simp only [List.mem_cons] at m
    rcases m with (rfl | m) | m
    · exact (mem_of_pop? e).1
    · exact (mem_of_pop? e).2 _ (ih (.inl m))
    · exact (mem_of_pop? e).2 _ (ih (.inr m))
  | case3 h => simpa using m

theorem mem_of_mem_clear {h : AlarmHeap} {y : Alarm} (m : y ∈ h.clear.rows) : y ∈ h.rows := by
  have order : ∀ (l : List Nat) (rows : List Alarm), y ∈ l.foldr sinkAt rows → y ∈ rows := by
    intro l rows m
    induction l with
    | nil => exact m
    | cons i l ih => exact ih (mem_of_mem_sinkAt m)
  unfold clear at m
  split at m
  · exact (List.mem_filter.mp (order _ _ m)).1
  · exact m

theorem mem_of_tend {now : Rat} {h : AlarmHeap} {y : Alarm}
    (m : y ∈ (h.tend now).1 ∨ y ∈ (h.tend now).2.rows) : y ∈ h.rows :=
  mem_of_mem_clear (mem_of_ring m)

theorem arrival_mem_of_lapse {h : AlarmHeap} {a : Arrival} (m : .arrival a ∈ h.lapse.rows) :
    .arrival a ∈ h.rows := by
  obtain ⟨x, m, e⟩ := List.mem_map.mp m
  cases x <;> simp_all [Alarm.lapse]

end AlarmHeap

end TeamPresence
