import TeamPresence.Proofs.Session.Promptness

/-!
# Networks that lose nothing

On a network that neither loses nor repeats nor delays a datagram, the server handles each packet
once and the answer is there at once. A client that waits at all takes it, so nothing is under way
when it sends the next packet (`Net.Lossless.attempt`). Others may send datagrams of their own
before and after the packet, as long as these are no updates for the client's network ID.

**`Session.request_lossless`**: what each round of packet and answer keeps holds after a request.
-/

namespace TeamPresence

/-! ### Waiting for an answer -/

namespace Transit

/-- Whether nothing is under way. -/
def IsIdle (t : Transit) : Prop := ∀ data, ¬ t.Carries data

/-- What may be under way to a client when it sends a packet: nothing, unless it never waits. -/
def Rests (p : Patience) (t : Transit) : Prop :=
  (p ≠ .none ∧ t.IsIdle) ∨ (p = .none ∧ ∃ arrivals, t = .ordered arrivals)

/-- One more datagram that arrives at once, if there is one. -/
def sent (now : Rat) (t : Transit) : Option Bytes → Transit
  | some data => t.add now ⟨now, data⟩
  | none => t

variable {now : Rat} {t : Transit} {p : Patience}

theorem IsIdle.arrived (h : t.IsIdle) : t.Arrived now := by
  cases t with
  | ordered arrivals => exact fun a ha => absurd ⟨a, ha, rfl⟩ (h a.data)
  | heaped inbox late heap =>
    refine ⟨List.eq_nil_iff_forall_not_mem.mpr fun data hd => h data (Or.inr (Or.inl hd)), ?_⟩
    exact fun a ha => h a.data (Or.inr (Or.inr ⟨a, ha, rfl⟩))

theorem IsIdle.wait (h : t.IsIdle) (now : Rat) (p : Patience) :
    (t.wait now p).received = none ∧ (t.wait now p).transit.IsIdle := by
  constructor
  · rw [Option.eq_none_iff_forall_ne_some]
    exact fun data hd => h data (carries_of_wait (Or.inl hd))
  · exact fun data c => h data (carries_of_wait (Or.inr c))

theorem IsIdle.wait_add (h : t.IsIdle) (now : Rat) (hp : p ≠ .none) (data : Bytes) :
    ((t.add now ⟨now, data⟩).wait now p).received = some data ∧
      ((t.add now ⟨now, data⟩).wait now p).now = now ∧
      ((t.add now ⟨now, data⟩).wait now p).transit.IsIdle := by
  cases t with
  | ordered arrivals =>
    have hnil : arrivals = [] :=
      List.eq_nil_iff_forall_not_mem.mpr fun a ha => h a.data ⟨a, ha, rfl⟩
    have hcome : Clock.hasCome now now = true := by simp [Clock.hasCome]
    have hreach : Clock.reach now now = now := Clock.reach_of_le le_rfl
    cases p with
    | none => exact absurd rfl hp
    | upTo d | unlimited =>
      simp [hnil, add, insertArrival, Transit.wait, waitInOrder, concludeInOrder, arrive, hcome,
        hreach, IsIdle, Carries]
  | heaped inbox late heap =>
    have hinbox : inbox = [] := List.eq_nil_iff_forall_not_mem.mpr fun d hd => h d (Or.inl hd)
    have hlate : late = [] :=
      List.eq_nil_iff_forall_not_mem.mpr fun d hd => h d (Or.inr (Or.inl hd))
    have hheap : ∀ a, Alarm.arrival a ∉ (heap.push .deadline).rows := fun a ha => by
      rcases AlarmHeap.mem_of_mem_push ha with e | ha
      · cases e
      · exact h a.data (Or.inr (Or.inr ⟨a, ha, rfl⟩))
    simp only [add, le_refl, if_true, Transit.wait, waitInHeap, hinbox, hlate, List.nil_append,
      List.append_nil, List.map_cons, List.map_nil, List.cons_append, conclude, List.head?_cons,
      Option.join_some, List.tail_cons, true_and]
    -- the heap holds deadlines only, so nothing else rings
    rintro d (hd | hd | ⟨a, ha, -⟩)
    · obtain ⟨x, hx, rfl⟩ := List.mem_filterMap.mp hd
      obtain ⟨a, ha, -⟩ := inAlarms_of_signal hx
      exact hheap a (AlarmHeap.mem_of_tend (Or.inl ha))
    · cases hd
    · exact hheap a (AlarmHeap.mem_of_tend (Or.inr (AlarmHeap.arrival_mem_of_lapse ha)))

theorem Rests.wait_sent (h : t.Rests p) (hnow : Binary64.nearest now = now)
    (answer : Option Bytes) :
    ((t.sent now answer).wait now p).received = (if p = .none then none else answer) ∧
      Binary64.nearest ((t.sent now answer).wait now p).now =
        ((t.sent now answer).wait now p).now ∧
      ((t.sent now answer).wait now p).transit.Rests p := by
  rcases h with ⟨hp, hidle⟩ | ⟨rfl, arrivals, rfl⟩
  · rw [if_neg hp]
    cases answer with
    | none =>
      obtain ⟨hreceived, hrest⟩ := hidle.wait now p
      exact ⟨hreceived, (calm_wait hidle.arrived hnow p).rounded, Or.inl ⟨hp, hrest⟩⟩
    | some data =>
      obtain ⟨hreceived, hsame, hrest⟩ := hidle.wait_add now hp data
      rw [sent, hsame]
      exact ⟨hreceived, hnow, Or.inl ⟨hp, hrest⟩⟩
  · cases answer with
    | none => exact ⟨rfl, hnow, Or.inr ⟨rfl, _, rfl⟩⟩
    | some data => exact ⟨rfl, hnow, Or.inr ⟨rfl, _, rfl⟩⟩

theorem Rests.discard (h : t.Rests p) : (t.discard now).Rests p := by
  rcases h with ⟨hp, hidle⟩ | ⟨rfl, arrivals, rfl⟩
  · exact Or.inl ⟨hp, fun data c => hidle data (carries_of_discard c)⟩
  · exact Or.inr ⟨rfl, _, rfl⟩

theorem rests_nil (p : Patience) : (ordered []).Rests p := by
  by_cases hp : p = .none
  · exact Or.inr ⟨hp, _, rfl⟩
  · refine Or.inl ⟨hp, ?_⟩
    rintro data ⟨a, ha, -⟩
    cases ha

theorem rests_empty (timeout : Binary64) : (empty timeout).Rests timeout.patience := by
  by_cases hnan : timeout = .nan
  · have hp : timeout.patience ≠ .none := by rw [hnan]; decide
    exact Or.inl ⟨hp, not_carries_empty timeout⟩
  · rw [empty, if_neg hnan]
    exact rests_nil _

end Transit

/-! ### One packet -/

/-- Whether somebody else sends the server a datagram that is no update for a network ID. -/
def Event.IsForeign (id : Int) : Event → Prop
  | .elsewhere _ data => ¬ Service.IsUpdateFor id data
  | .handled _ | .planted _ _ => False

instance (id : Int) : (e : Event) → Decidable (e.IsForeign id)
  | .elsewhere _ data => inferInstanceAs (Decidable (¬ Service.IsUpdateFor id data))
  | .handled _ | .planted _ _ => isFalse not_false

/-- Whether the server handles a packet once and its answer arrives at once. -/
def Fate.IsFaithful (id : Int) (f : Fate) : Prop :=
  ∃ before after, f.events = before ++ .handled (some 0) :: after ∧
    ∀ e ∈ before ++ after, e.IsForeign id

theorem Fate.isFaithful_delivered (id : Int) : delivered.IsFaithful id := ⟨[], [], rfl, by simp⟩

/-- What comes of one packet: the service handles it between what others send, and the client
receives the answer unless it never waits. -/
def Service.Round (id : Int) (p : Patience) (packet : Bytes) (a : Address) (s : Service)
    (received : Option Bytes) (s' : Service) : Prop :=
  ∃ before after, (∀ e ∈ before ++ after, e.IsForeign id) ∧
    received = (if p = .none then none
      else ((s.undergo packet a before).respond packet a).1.packet?) ∧
    s' = s.undergo packet a (before ++ .handled (some 0) :: after)

/-- A client's end of a network that loses, repeats and delays nothing, when the client is about to
send. -/
structure Net.Lossless (id : Int) (p : Patience) (n : Net) : Prop where
  rounded : Binary64.nearest n.now = n.now
  rests : n.link.transit.Rests p
  script : ∀ f ∈ n.link.script, f.IsFaithful id

namespace Net

variable {id : Int} {p : Patience} {n : Net} {s : Service} {packet : Bytes}

theorem foldl_foreign (hservice : n.service = some s) {F : List Event}
    (hF : ∀ e ∈ F, e.IsForeign id) :
    F.foldl (happen packet) n = { n with service := some (s.undergo packet n.link.address F) } := by
  induction F generalizing n s with
  | nil =>
    rw [List.foldl_nil, show s.undergo packet n.link.address [] = s from rfl, ← hservice]
  | cons e rest ih =>
    have hrest : ∀ e ∈ rest, e.IsForeign id := fun e he => hF e (List.mem_cons_of_mem _ he)
    have he := hF e List.mem_cons_self
    cases e with
    | handled delay => cases he
    | planted data delay => cases he
    | elsewhere sender data =>
      have hhappen : n.happen packet (.elsewhere sender data) =
          { n with service := some (s.respond data sender).2 } := by rw [happen, serve_eq hservice]
      rw [List.foldl_cons, hhappen, ih rfl hrest]
      rfl

theorem happen_handled (hopen : n.link.isOpen = true) (hservice : n.service = some s)
    (hnow : Binary64.nearest n.now = n.now) :
    n.happen packet (.handled (some 0)) =
      { n with
        service := some (s.respond packet n.link.address).2
        link := { n.link with
          transit := n.link.transit.sent n.now (s.respond packet n.link.address).1.packet? } } := by
  simp only [happen, serve_eq hservice]
  cases (s.respond packet n.link.address).1.packet? with
  | none => rfl
  | some reply =>
    simp only [expect, Link.expect, hopen, if_true, Clock.after_zero hnow, Transit.sent]

namespace Lossless

theorem attempt (h : n.Lossless id p) (hopen : n.link.isOpen = true)
    (hservice : n.service = some s) (packet : Bytes) :
    ((n.send packet).2.wait p).2.Lossless id p ∧
      ((n.send packet).2.wait p).2.link.isOpen = true ∧
      ((n.send packet).2.wait p).2.link.address = n.link.address ∧
      ∃ s', ((n.send packet).2.wait p).2.service = some s' ∧
        s.Round id p packet n.link.address ((n.send packet).2.wait p).1 s' := by
  have hdrop : n.link.script = n.link.script.drop 0 := rfl
  have hfate := Net.nextFate_eq hdrop
  obtain ⟨before, after, hevents, hforeign⟩ :=
    Fate.getD_of_forall h.script (Fate.isFaithful_delivered id) 0
  have hbefore : ∀ e ∈ before, e.IsForeign id := fun e he =>
    hforeign e (List.mem_append_left _ he)
  have hafter : ∀ e ∈ after, e.IsForeign id := fun e he =>
    hforeign e (List.mem_append_right _ he)
  have hscript : ∀ f ∈ n.link.script.drop 1, f.IsFaithful id := fun f hf =>
    h.script f (List.mem_of_mem_drop hf)
  generalize hs' : s.undergo packet n.link.address (before ++ .handled (some 0) :: after) = s'
  generalize hanswer :
    ((s.undergo packet n.link.address before).respond packet n.link.address).1.packet? = answer
  have hsent : (n.send packet).2 =
      { n with
        service := some s'
        link := { n.link with
          script := n.link.script.drop 1, transit := n.link.transit.sent n.now answer } } := by
    rw [send, hfate]
    generalize hm : { n with link := { n.link with script := n.link.script.drop 1 } } = m at *
    have hmservice : m.service = some s := hm ▸ hservice
    rw [hevents, List.foldl_append, List.foldl_cons, foldl_foreign hmservice hbefore,
      happen_handled (hm ▸ hopen) rfl (hm ▸ h.rounded), foldl_foreign rfl hafter, ← hs', ← hanswer,
      Service.undergo_append, ← hm]
    rfl
  obtain ⟨hreceived, hnow, hrests⟩ := h.rests.wait_sent h.rounded answer
  rw [hsent]
  refine ⟨⟨hnow, hrests, hscript⟩, hopen, rfl, s', rfl, before, after, hforeign, ?_, hs'.symm⟩
  rw [hanswer]
  exact hreceived

/-! ### A whole request -/

theorem pursue {J : Service → Prop} {Q : Service → Except Fault Reply → Prop} {ask : Ask}
    {a : Address} (m : Manner)
    (hround : ∀ {s s' : Service} {received : Option Bytes}, J s →
      s.Round id m.timeout.patience packet a received s' →
      match (Verdict.of ask.expected received).outcome? ask.giveUp with
      | none => J s'
      | some outcome => Q s' outcome)
    (hspent : ∀ {s : Service} (f : Fault), J s → Q s (.error f)) (made budget : Nat)
    (h : n.Lossless id m.timeout.patience) (hopen : n.link.isOpen = true)
    (ha : n.link.address = a) (hservice : n.service = some s) (hJ : J s) :
    (m.pursue ask packet made budget n).net.Lossless id m.timeout.patience ∧
      ∃ s', (m.pursue ask packet made budget n).net.service = some s' ∧
        Q s' (m.pursue ask packet made budget n).outcome := by
  induction budget generalizing made n s with
  | zero =>
    rw [Manner.pursue]
    exact ⟨⟨h.rounded, h.rests, h.script⟩, s, hservice, hspent _ hJ⟩
  | succ budget ih =>
    rw [Manner.pursue]
    split
    · exact ⟨⟨h.rounded, h.rests, h.script⟩, s, hservice, hspent _ hJ⟩
    · obtain ⟨hnext, hstill, hsame, s', hservice', hrounded⟩ := h.attempt hopen hservice packet
      have hkept := hround hJ (ha ▸ hrounded)
      dsimp only
      cases houtcome : (Verdict.of ask.expected
          ((n.send packet).2.wait m.timeout.patience).1).outcome? ask.giveUp with
      | some outcome =>
        rw [houtcome] at hkept
        exact ⟨⟨hnext.rounded, hnext.rests, hnext.script⟩, s', hservice', hkept⟩
      | none =>
        rw [houtcome] at hkept
        exact ih (made + 1) hnext hstill (hsame.trans ha) hservice' hkept

end Lossless

end Net

/-- **What each round of a request keeps holds after it**, whether it is made or not. -/
theorem Session.request_lossless {id : Int} {n : Net} {sv : Service} {J : Service → Prop}
    {Q : Service → Except Fault Reply → Prop} (s : Session) (ask : Ask)
    (hround : ∀ {packet : Bytes}, s.packet ask = .ok packet →
      ∀ {t t' : Service} {received : Option Bytes}, J t →
      t.Round id s.manner.timeout.patience packet n.link.address received t' →
      match (Verdict.of ask.expected received).outcome? ask.giveUp with
      | none => J t'
      | some outcome => Q t' outcome)
    (hspent : ∀ {t : Service} (f : Fault), J t → Q t (.error f))
    (h : n.Lossless id s.manner.timeout.patience) (hservice : n.service = some sv) (hJ : J sv) :
    (s.request ask n).net.Lossless id s.manner.timeout.patience ∧
      ∃ sv', (s.request ask n).net.service = some sv' ∧ Q sv' (s.request ask n).result := by
  rw [request]
  by_cases hopen : n.link.isOpen = true
  · rw [if_neg (by simp [hopen])]
    cases hpacket : s.packet ask with
    | error f => exact ⟨h, sv, hservice, hspent f hJ⟩
    | ok packet =>
      have hdiscarded : n.discard.Lossless id s.manner.timeout.patience :=
        ⟨h.rounded, h.rests.discard, h.script⟩
      exact hdiscarded.pursue s.manner (hround hpacket) hspent 0 n.budget hopen rfl hservice hJ
  · rw [if_pos (by simp [hopen])]
    exact ⟨h, sv, hservice, hspent _ hJ⟩

end TeamPresence
