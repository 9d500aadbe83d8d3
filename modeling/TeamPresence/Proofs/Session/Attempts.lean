import TeamPresence.Proofs.Session.Settling
import TeamPresence.Proofs.Session.Timing

/-!
# The attempts of a request

A request makes one attempt after another: it sends its packet and waits for one datagram. What the
attempts receive is up to the network (`Net.attempt`), and that settles how many are made and how
the request ends (`Ask.Settles`). `Session.request_attempts` says that this is all that a request
does, and how long it takes, when the timeout is finite.
-/

namespace TeamPresence

/-! ### The attempts -/

namespace Net

/-- The network after one attempt. -/
def attempted (packet : Bytes) (p : Patience) (n : Net) : Net := ((n.send packet).2.wait p).2

/-- The network after `k` attempts, whatever they receive. -/
def afterAttempts (packet : Bytes) (p : Patience) (n : Net) (k : Nat) : Net :=
  (attempted packet p)^[k] n

/-- What the attempt after `k` others comes to. -/
def attempt (packet : Bytes) (p : Patience) (n : Net) (k : Nat) : Attempt :=
  let sent := (afterAttempts packet p n k).send packet
  ⟨sent.1, (sent.2.wait p).1⟩

variable {packet : Bytes} {p : Patience} {n : Net}

theorem afterAttempts_succ (packet : Bytes) (p : Patience) (n : Net) (k : Nat) :
    afterAttempts packet p n (k + 1) = (((afterAttempts packet p n k).send packet).2.wait p).2 :=
  Function.iterate_succ_apply' _ k n

theorem Timely.afterAttempts (h : n.Timely) (packet : Bytes) (p : Patience) (k : Nat) :
    (n.afterAttempts packet p k).Timely := by
  induction k with
  | zero => exact h
  | succ k ih =>
    rw [afterAttempts_succ]
    exact (ih.send packet).wait p

theorem course_afterAttempts (packet : Bytes) (p : Patience) (n : Net) (k : Nat) :
    (n.afterAttempts packet p k).course = (n.sendAll (List.replicate k packet)).course := by
  induction k with
  | zero => rfl
  | succ k ih =>
    rw [afterAttempts_succ, List.replicate_succ', sendAll_append]
    exact course_send ih packet

theorem Timely.now_afterAttempts_le (h : n.Timely) (packet : Bytes) {seconds : Rat}
    (hseconds : 0 ≤ seconds) (k : Nat) :
    (n.afterAttempts packet (.upTo seconds) k).now ≤ (Clock.after seconds)^[k] n.now := by
  induction k with
  | zero => exact le_rfl
  | succ k ih =>
    have hsent := (h.afterAttempts packet (.upTo seconds) k).send packet
    rw [afterAttempts_succ, Function.iterate_succ_apply']
    calc _ ≤ Clock.after seconds ((n.afterAttempts packet (.upTo seconds) k).send packet).2.now :=
          hsent.now_wait_le hseconds
      _ = Clock.after seconds (n.afterAttempts packet (.upTo seconds) k).now := by rw [send_now]
      _ ≤ Clock.after seconds ((Clock.after seconds)^[k] n.now) := Clock.after_mono seconds ih

end Net

/-! ### The exchange -/

/-- What a pursuit is that begins when `k` attempts have failed and ends when `n` were made. As many
as `budget` may be made. -/
structure Pursuit.Makes (x : Pursuit) (m : Manner) (a : Ask) (packet : Bytes) (start : Net)
    (budget k n : Nat) : Prop where
  since : k ≤ n
  attempts : x.attempts = (List.range' k (n - k)).map (start.attempt packet m.timeout.patience)
  net : x.net = { start.afterAttempts packet m.timeout.patience n with budget := budget - n }
  settles : a.Settles m.maxAttempts budget
    (fun j => (start.attempt packet m.timeout.patience j).received) n x.outcome

theorem Manner.isSpent_iff {m : Manner} {made : Nat} :
    m.isSpent made = true ↔ ∃ limit, m.maxAttempts = some limit ∧ limit ≤ made := by
  rw [isSpent]
  cases m.maxAttempts <;> simp

theorem Manner.lt_of_not_isSpent {m : Manner} {made : Nat} (h : ¬ m.isSpent made = true) :
    ∀ limit ∈ m.maxAttempts, (made : Int) < limit := by
  intro limit hsome
  by_contra hge
  exact h (isSpent_iff.mpr ⟨limit, hsome, by omega⟩)

theorem Ask.Settles.of_isSpent {m : Manner} {a : Ask} {budget k : Nat}
    {received : Nat → Option Bytes} (h : m.isSpent k = true) (hbudget : k ≤ budget)
    (hlimit : ∀ limit ∈ m.maxAttempts, k ≤ limit.toNat) (hfailed : ∀ j < k, a.Fails (received j)) :
    a.Settles m.maxAttempts budget received k (.error (.unanswered a.expected k)) := by
  obtain ⟨limit, hsome, hle⟩ := Manner.isSpent_iff.mp h
  have hge := hlimit limit hsome
  obtain rfl : k = limit.toNat := by omega
  exact unanswered hsome hbudget hfailed

/-- A pursuit makes attempts as long as they fail. -/
theorem Manner.pursue_makes (m : Manner) (a : Ask) (packet : Bytes) (start : Net)
    {budget left k : Nat} (hbudget : k + left = budget)
    (hlimit : ∀ limit ∈ m.maxAttempts, k ≤ limit.toNat)
    (hfailed : ∀ j < k, a.Fails (start.attempt packet m.timeout.patience j).received) :
    ∃ n, (m.pursue a packet k left (start.afterAttempts packet m.timeout.patience k)).Makes m a
      packet start budget k n := by
  -- by the budget left: all attempts so far have failed, and they are within the limit
  induction left generalizing k with
  | zero =>
    obtain rfl : k = budget := by omega
    refine ⟨k, le_rfl, by simp [pursue], by simp [pursue], ?_⟩
    rw [pursue]
    by_cases hspent : m.isSpent k = true
    · simp only [hspent, if_true]
      exact Ask.Settles.of_isSpent hspent le_rfl hlimit hfailed
    · simp only [hspent]
      exact Ask.Settles.cut (lt_of_not_isSpent hspent) hfailed
  | succ left ih =>
    rw [pursue]
    by_cases hspent : m.isSpent k = true
    · rw [if_pos hspent]
      exact ⟨k, le_rfl, by simp, by simp [← hbudget],
        Ask.Settles.of_isSpent hspent (by omega) hlimit hfailed⟩
    rw [if_neg hspent]
    have hmay : Ask.MayFollow m.maxAttempts budget k := ⟨by omega, lt_of_not_isSpent hspent⟩
    have hnext := Net.afterAttempts_succ packet m.timeout.patience start k
    dsimp only
    rw [← hnext]
    cases houtcome : (Verdict.of a.expected
        (start.attempt packet m.timeout.patience k).received).outcome? a.giveUp with
    | some outcome =>
      have hlast : a.Settles m.maxAttempts budget
          (fun j => (start.attempt packet m.timeout.patience j).received) (k + 1) outcome := by
        rcases Ask.outcome?_eq_some_iff.mp houtcome with
          ⟨r, hreply, rfl⟩ | ⟨hgiveUp, text, herror, rfl⟩
        · exact Ask.Settles.answered hmay hfailed hreply
        · exact Ask.Settles.rejected hmay hfailed hgiveUp herror
      rw [Net.attempt] at houtcome
      simp only [houtcome]
      have hleft : budget - (k + 1) = left := by omega
      refine ⟨k + 1, by omega, ?_, ?_, hlast⟩
      · simp [Net.attempt]
      · simp [hleft]
    | none =>
      have hfailed' : ∀ j < k + 1,
          a.Fails (start.attempt packet m.timeout.patience j).received := by
        intro j hj
        rcases Nat.lt_succ_iff_lt_or_eq.mp hj with hlt | rfl
        · exact hfailed j hlt
        · exact Ask.outcome?_eq_none_iff.mp houtcome
      have hlimit' : ∀ limit ∈ m.maxAttempts, k + 1 ≤ limit.toNat := by
        intro limit hsome
        have hlt := hmay.2 limit hsome
        omega
      obtain ⟨n, hmakes⟩ := ih (by omega) hlimit' hfailed'
      rw [Net.attempt] at houtcome
      simp only [houtcome]
      have hsince := hmakes.since
      refine ⟨n, by omega, ?_, hmakes.net, hmakes.settles⟩
      rw [hmakes.attempts, show n - k = n - (k + 1) + 1 by omega, List.range'_succ, List.map_cons]
      rfl

/-! ### The request -/

theorem Binary64.patience_ne_none {timeout : Binary64} (hpositive : timeout.isNonpositive = false) :
    timeout.patience ≠ .none := by
  rw [patience, hpositive]
  cases timeout.toRat? <;> simp

theorem Binary64.patience_of_toRat? {timeout : Binary64} {seconds : Rat}
    (h : timeout.toRat? = some seconds) (hseconds : 0 < seconds) :
    timeout.patience = .upTo seconds := by
  have hpositive : timeout.isNonpositive = false := by
    cases timeout with
    | nan => cases h
    | infinite negative => cases h
    | finite negative m e =>
      obtain rfl := Option.some.inj h
      have hvalue : 0 ≤ (m : Rat) * (2 : Rat) ^ e := by positivity
      cases negative with
      | true => exact absurd hseconds (not_lt.mpr (neg_nonpos.mpr hvalue))
      | false =>
        have hm : m ≠ 0 := by
          rintro rfl
          simp at hseconds
        simpa [isNonpositive] using hm
  simp [patience, hpositive, h]

namespace Session

/-- The network after `k` attempts at a request, whatever they receive. -/
def afterAttempts (s : Session) (packet : Bytes) (net : Net) (k : Nat) : Net :=
  net.discard.afterAttempts packet s.manner.timeout.patience k

/-- What the attempt after `k` others comes to. -/
def attempt (s : Session) (packet : Bytes) (net : Net) (k : Nat) : Attempt :=
  net.discard.attempt packet s.manner.timeout.patience k

/-- What a request is that makes `n` attempts, and waits for some seconds in each. -/
structure Retries (s : Session) (a : Ask) (packet : Bytes) (net : Net) (seconds : Rat)
    (r : Run Reply) (n : Nat) : Prop where
  session : r.session = s
  /-- What has come is discarded first. -/
  discards : ∃ arrivals, net.link.transit = .ordered arrivals ∧
    net.discard = { net with link := { net.link with
      transit := .ordered (arrivals.filter fun b => !Clock.hasCome b.due net.now) } }
  /-- Each attempt sends, which takes no time, and waits. The next one begins where it ends. -/
  waits : ∀ k, ∃ sent, ((s.afterAttempts packet net k).send packet).2 = sent ∧
    sent.now = (s.afterAttempts packet net k).now ∧
    sent.Waits seconds ((s.attempt packet net k).received, s.afterAttempts packet net (k + 1))
  sends : r.sent = List.replicate n packet
  attempts : r.exchange.map Exchange.attempts = some ((List.range n).map (s.attempt packet net))
  leaves : r.net = { s.afterAttempts packet net n with budget := net.budget - n }
  /-- What the attempts would receive tells how many are made, and how the request ends. -/
  settles_iff : ∀ made outcome, a.Settles s.manner.maxAttempts net.budget
    (fun k => (s.attempt packet net k).received) made outcome ↔ made = n ∧ outcome = r.result
  refusals : r.refusals =
    (List.range n).filterMap fun k => a.errorText? (s.attempt packet net k).received
  atMost : ∀ limit ∈ s.manner.maxAttempts, n ≤ limit.toNat
  unanswered_iff : (∃ kind made, r.result = .error (.unanswered kind made)) ↔
    ∃ limit, s.manner.maxAttempts = some limit ∧ limit.toNat ≤ net.budget ∧
      ∀ k < limit.toNat, a.Fails (s.attempt packet net k).received
  /-- The clock adds up the timeouts, and rounds each sum. -/
  lasts : r.net.now ≤ (Clock.after seconds)^[n] net.now ∧
    ∀ limit ∈ s.manner.maxAttempts, r.net.now ≤ (Clock.after seconds)^[limit.toNat] net.now ∧
      ((∀ k ≤ limit.toNat, Binary64.nearest (net.now + k * seconds) = net.now + k * seconds) →
        r.net.now ≤ net.now + limit.toNat * seconds)

variable {s : Session} {a : Ask} {net : Net} {packet : Bytes}

theorem exchange_makes (s : Session) (a : Ask) (packet : Bytes) (net : Net) :
    ∃ n, (s.manner.pursue a packet 0 net.budget net.discard).Makes s.manner a packet net.discard
      net.budget 0 n := by
  apply s.manner.pursue_makes a packet net.discard (Nat.zero_add net.budget)
  · intro limit _
    exact Nat.zero_le _
  · intro j hj
    exact absurd hj (Nat.not_lt_zero j)

theorem sent_of_makes {n : Nat} (h : (s.manner.pursue a packet 0 net.budget net.discard).Makes
    s.manner a packet net.discard net.budget 0 n) :
    (s.manner.exchange a packet net).1.sent = List.replicate n packet := by
  show List.map _ (s.manner.pursue a packet 0 net.budget net.discard).attempts = _
  rw [h.attempts, List.map_map]
  simp [Function.comp_def, Manner.exchange]

theorem course_request (s : Session) (a : Ask) (net : Net) :
    (s.request a net).net.course = (net.sendAll (s.request a net).sent).course := by
  rcases s.request_cases a net with ⟨f, hrequest, -⟩ | ⟨packet, -, hrequest⟩
  · rw [hrequest]
    rfl
  · obtain ⟨n, hmakes⟩ := s.exchange_makes a packet net
    have hnet : (s.manner.exchange a packet net).2.course =
        (net.discard.afterAttempts packet s.manner.timeout.patience n).course := by
      show (s.manner.pursue a packet 0 net.budget net.discard).net.course = _
      rw [hmakes.net]
      rfl
    have hdiscard : net.discard.course = net.course := rfl
    rw [hrequest]
    show (s.manner.exchange a packet net).2.course =
      (net.sendAll (s.manner.exchange a packet net).1.sent).course
    rw [hnet, Net.course_afterAttempts, sent_of_makes hmakes]
    exact Net.course_sendAll hdiscard _

theorem now_afterAttempts_le (h : net.Timely) {seconds : Rat} (hseconds : 0 ≤ seconds)
    (hpatience : s.manner.timeout.patience = .upTo seconds) (packet : Bytes) {n m : Nat}
    (hle : n ≤ m) : (s.afterAttempts packet net n).now ≤ (Clock.after seconds)^[m] net.now := by
  rw [afterAttempts, hpatience]
  calc _ ≤ (Clock.after seconds)^[n] net.now := h.discard.now_afterAttempts_le packet hseconds n
    _ ≤ (Clock.after seconds)^[m] net.now := Clock.after_iterate_le hseconds h.rounded hle

/-- **A request makes one attempt after another** over an open endpoint, until an attempt settles it
or there may be no more. The datagrams are what they may, and so are the failures to send. The
timeout is finite: with an infinite one an attempt to which nothing comes would never end. -/
theorem request_attempts (hopen : net.link.isOpen = true) {seconds : Rat}
    (htimeout : s.manner.timeout.toRat? = some seconds) (hseconds : 0 < seconds)
    (hpacket : s.packet a = .ok packet) (h : net.Timely) :
    ∃ n, s.Retries a packet net seconds (s.request a net) n := by
  have hpatience := Binary64.patience_of_toRat? htimeout hseconds
  obtain ⟨n, hmakes⟩ := s.exchange_makes a packet net
  have hattempts := hmakes.attempts
  rw [Nat.sub_zero, ← List.range_eq_range'] at hattempts
  have hrequest : s.request a net =
      { result := (s.manner.exchange a packet net).1.outcome, session := s
        net := (s.manner.exchange a packet net).2
        exchange := some (s.manner.exchange a packet net).1 } := by
    simp [request, hopen, hpacket]
  rw [hrequest]
  refine ⟨n, ?_⟩
  constructor
  case session => rfl
  case discards =>
    obtain ⟨arrivals, htransit, hschedule⟩ := h.ordered
    refine ⟨arrivals, htransit, ?_⟩
    rw [← Net.Timely.transit_discard htransit hschedule]
    rfl
  case waits =>
    intro k
    refine ⟨_, rfl, Net.send_now _ _, ?_⟩
    rw [afterAttempts, afterAttempts, Net.afterAttempts_succ, attempt, Net.attempt, hpatience]
    exact ((h.discard.afterAttempts packet _ k).send packet).waits seconds
  case sends => exact sent_of_makes hmakes
  case attempts => exact congrArg some hattempts
  case leaves => exact hmakes.net
  case settles_iff =>
    intro made outcome
    constructor
    · intro h'
      exact hmakes.settles.unique h'
    · rintro ⟨rfl, rfl⟩
      exact hmakes.settles
  case refusals =>
    show List.filterMap _ (s.manner.pursue a packet 0 net.budget net.discard).attempts = _
    rw [hattempts, List.filterMap_map]
    refine List.filterMap_congr ?_
    intro k _
    exact a.refusal_text_eq _
  case atMost => exact hmakes.settles.atMost
  case unanswered_iff => exact hmakes.settles.unanswered_iff
  case lasts =>
    have hnow : (s.manner.exchange a packet net).2.now = (s.afterAttempts packet net n).now := by
      show (s.manner.pursue a packet 0 net.budget net.discard).net.now = _
      rw [hmakes.net]
      rfl
    rw [hnow]
    refine ⟨now_afterAttempts_le h hseconds.le hpatience packet le_rfl, ?_⟩
    intro limit hlimit
    have hle := hmakes.settles.atMost limit hlimit
    have hwithin := now_afterAttempts_le h hseconds.le hpatience packet hle
    refine ⟨hwithin, ?_⟩
    intro hexact
    rwa [Clock.after_iterate_of_exact hexact] at hwithin

/-- A network where a datagram is left over, a packet cannot be sent, the next one is refused after
a quarter of a second and the last one is answered. -/
def roughNet : Net := {
  link := {
    address := ⟨"127.0.0.1", 40000⟩, isOpen := true, transit := .ordered [⟨0, [3, 0x26]⟩]
    script := [{ failure := some "unreachable", events := [] },
      { events := [.planted [1, 0x66, 0x75, 0x6c, 0x6c] (1 / 4)] },
      { events := [.planted [3, 0x26] 0] }] } }

theorem request_attempts_rough :
    ∃ (s : Session) (packet : Bytes), roughNet.link.isOpen = true ∧
      s.manner.timeout.toRat? = some 1 ∧ (0 : Rat) < 1 ∧ s.packet inquiry = .ok packet ∧
      roughNet.Timely ∧
      (s.request inquiry roughNet).refusals = ["full"] ∧
      (s.request inquiry roughNet).sent = [packet, packet, packet] ∧
      (s.request inquiry roughNet).net.now = 5 / 4 ∧
      ∃ n, s.Retries inquiry packet roughNet 1 (s.request inquiry roughNet) n := by
  let s : Session := { manner := ⟨.one, some 3⟩ }
  have hpacket : s.packet inquiry = .ok [4, 0xff, 0xff, 0xff, 0xff, 0xff, 0x26] := by decide +kernel
  have htimely : roughNet.Timely := by
    refine ⟨by decide +kernel, _, rfl, by simp, ?_⟩
    intro a ha
    obtain rfl := List.mem_singleton.mp ha
    decide +kernel
  have htimeout : s.manner.timeout.toRat? = some 1 := by decide +kernel
  exact ⟨s, _, rfl, htimeout, one_pos, hpacket, htimely, by decide +kernel, by decide +kernel,
    by decide +kernel, request_attempts rfl htimeout one_pos hpacket htimely⟩

/-- Seven timeouts may last longer than seven times the timeout. Here no answer comes to any of
seven packets, and the clock rounds up. -/
theorem seven_timeouts_overrun :
    ∃ (s : Session) (net : Net) (seconds : Rat), s.manner.maxAttempts = some 7 ∧
      s.manner.timeout.toRat? = some seconds ∧ 0 < seconds ∧ net.link.isOpen = true ∧
      net.link.transit = .ordered [] ∧ (s.packet inquiry).toOption.isSome ∧
      net.now + 7 * seconds < (s.request inquiry net).net.now := by
  let timeout : Binary64 := .ofDecimal false 915 (-4)
  let net : Net := { link := { address := ⟨"127.0.0.1", 40000⟩, isOpen := true, script := [] } }
  refine ⟨{ manner := ⟨timeout, some 7⟩ }, net, timeout.toRat?.getD 0, ?_⟩
  decide +kernel

end Session

end TeamPresence
