import TeamPresence.Proofs.Service.Reasons
import TeamPresence.Proofs.Session.Attempts
import TeamPresence.Proofs.Session.Pursuit

/-!
# What a client hears of a refusal

A session tells the text of each ERROR reply that comes in place of its answer, and if it gives up
on errors, the first one ends its request (`Session.request_hears`).

**`Session.reasons_heard`** puts both ends together: any reason can be sent, and is read back as
`carried` says; and the reason for which a service rejects a datagram is what each client is told
that receives the reply, up to the cut of its length. An ERROR reply to a packet of a session always
gives such a reason.
-/

namespace TeamPresence

/-! ### One exchange -/

/-- The texts that attempts tell, in their order. -/
def Ask.heard (a : Ask) (attempts : List Attempt) : List String :=
  attempts.filterMap fun t => a.errorText? t.received

theorem Ask.heard_append_cons {a : Ask} {t : Attempt} {text : String}
    (h : a.errorText? t.received = some text) (before after : List Attempt) :
    a.heard (before ++ t :: after) = a.heard before ++ text :: a.heard after := by
  simp [heard, h]

theorem Exchange.refusals_eq (x : Exchange) : x.refusals = x.ask.heard x.attempts :=
  List.filterMap_congr fun t _ => x.ask.refusal_text_eq t.received

theorem Ask.errorText?_serialize {a : Ask} {r : Reply} (hcode : r.code = ReplyKind.error.code)
    (hexpected : a.expected ≠ ReplyKind.error.code.toNat) :
    a.errorText? (some r.serialize) = some r.text := by
  have hreceived : Reply.received? (some r.serialize) = some r := by
    rw [Reply.received?, Option.bind_some, Reply.parse_serialize]
    rfl
  rw [errorText?, hreceived, Option.filter_some, if_pos (by simp [hcode, hexpected.symm])]
  rfl

theorem Ask.Settles.of_errorText? {a : Ask} {limit : Option Int} {budget n k : Nat}
    {received : Nat → Option Bytes} {outcome : Except Fault Reply} {text : String}
    (h : a.Settles limit budget received n outcome) (hgiveUp : a.giveUp = true) (hk : k < n)
    (herror : a.errorText? (received k) = some text) :
    n = k + 1 ∧ outcome = .error (.rejected text) := by
  have hnot : ¬ a.Fails (received k) := by
    rintro ⟨-, hnone⟩
    rw [hnone hgiveUp] at herror
    cases herror
  cases h with
  | @answered m r _ hfailed hreply =>
    obtain rfl : k = m := by
      by_contra hne
      exact hnot (hfailed k (by omega))
    rcases a.verdict_cases (received k) with ⟨_, -, hnone, -⟩ | ⟨_, hnone, -⟩ | ⟨hnone, -⟩
    · rw [hnone] at herror
      cases herror
    all_goals
      rw [hnone] at hreply
      cases hreply
  | @rejected m text' _ hfailed _ herror' =>
    obtain rfl : k = m := by
      by_contra hne
      exact hnot (hfailed k (by omega))
    obtain rfl := Option.some.inj (herror.symm.trans herror')
    exact ⟨rfl, rfl⟩
  | unanswered _ _ hfailed => exact absurd (hfailed k hk) hnot
  | cut _ hfailed => exact absurd (hfailed k hk) hnot

namespace Session

/-- A datagram tells a text to whoever makes a request: each attempt that receives it does, and it
ends the request if this gives up on errors. -/
def Tells (s : Session) (a : Ask) (net : Net) (data : Bytes) (text : String) : Prop :=
  ∀ (x : Exchange) (before after : List Attempt) (t : Attempt),
    (s.request a net).exchange = some x → x.attempts = before ++ t :: after →
    t.received = some data →
    (s.request a net).refusals = a.heard before ++ text :: a.heard after ∧
    (a.giveUp = true → after = [] ∧ (s.request a net).result = .error (.rejected text))

theorem request_hears (s : Session) {a : Ask} (net : Net) {r : Reply}
    (hcode : r.code = ReplyKind.error.code)
    (hexpected : a.expected ≠ ReplyKind.error.code.toNat) :
    s.Tells a net r.serialize r.text := by
  intro x before after t hx hsplit hreceived
  have htext : a.errorText? t.received = some r.text :=
    hreceived ▸ Ask.errorText?_serialize hcode hexpected
  rcases s.request_cases a net with ⟨f, hrequest, -⟩ | ⟨packet, -, hrequest⟩
  · rw [hrequest] at hx
    cases hx
  · rw [hrequest] at hx ⊢
    obtain rfl := Option.some.inj hx
    obtain ⟨n, hmakes⟩ := s.exchange_makes a packet net
    have hattempts := hmakes.attempts
    rw [Nat.sub_zero, ← List.range_eq_range'] at hattempts
    constructor
    · show (s.manner.exchange a packet net).1.refusals = _
      rw [Exchange.refusals_eq, hsplit]
      exact Ask.heard_append_cons htext before after
    · intro hgiveUp
      have hmade := hattempts.symm.trans hsplit
      have hlength : n = before.length + (after.length + 1) := by
        simpa using congrArg List.length hmade
      have hat : net.discard.attempt packet s.manner.timeout.patience before.length = t := by
        have hget := congrArg (fun l => l[before.length]?) hmade
        have hlt : before.length < n := by omega
        simpa [hlt] using hget
      obtain ⟨hlast, hresult⟩ := hmakes.settles.of_errorText? hgiveUp (by omega) (hat ▸ htext)
      refine ⟨?_, hresult⟩
      rw [← List.length_eq_zero_iff]
      omega

/-- **What becomes of the reason of a refusal.** Any reason makes a packet of 2 to 1024 bytes that
is parsed as an ERROR with the text that it carries. A datagram that a service rejects is answered
with such a packet, of which the text is the words of the fault, cut to 1023 characters and without
null characters at the end. This is what a client is told that receives the packet while it waits
for an answer of another kind, and what its request ends with if it gives up on errors. A malformed
datagram counts as no rejection: the fixed text that answers it gives no reason. The packets of a
session are never malformed, so an ERROR reply to one of them is always the answer to a rejection. -/
theorem reasons_heard :
    (∀ reason : String, ∃ r : Reply,
      Reply.make ReplyKind.error.code.toNat (Reply.reasonBody reason) = .ok r ∧
      r = Reply.refusal reason ∧ 2 ≤ r.serialize.length ∧ r.serialize.length ≤ 1024 ∧
      ∃ back, Reply.parse r.serialize = .ok back ∧ back.code = ReplyKind.error.code ∧
        back.text = carried reason) ∧
    ∀ {teams statuses : List String} {size limit memory : Int} {dedupe : Bool} {service : Service},
      Service.Reachable teams statuses size limit dedupe memory service →
      (∀ {data : Bytes} {sender : Option Address} {f : Fault}, service.Rejects data sender f →
        ∃ reply, (service.handle data sender).1 = .ok reply ∧ reply = Reply.refusal f.message ∧
          ∀ (s : Session) (a : Ask) (net : Net), a.expected ≠ ReplyKind.error.code.toNat →
            s.Tells a net reply.serialize (cut f.message)) ∧
      ∀ {s : Session} {a : Ask} {packet : Bytes} {sender : Option Address} {reply : Reply},
        s.packet a = .ok packet → (service.handle packet sender).1 = .ok reply →
        reply.code = ReplyKind.error.code →
        ∃ f, service.Rejects packet sender f ∧ reply = Reply.refusal f.message := by
  refine ⟨?_, ?_⟩
  · intro reason
    obtain ⟨hlower, hupper⟩ := (Reply.refusal reason).length_serialize
    exact ⟨_, Reply.make_reasonBody reason, rfl, hlower, hupper, _, Reply.parse_serialize _, rfl,
      Reply.text_refusal reason⟩
  · intro teams statuses size limit memory dedupe service hreach
    have hsound := hreach.sound
    constructor
    · intro data sender f hrejects
      refine ⟨_, hrejects.handle_eq, rfl, ?_⟩
      intro s a net hexpected
      rw [← (hsound.isSpoken_of_rejects hrejects).carried_eq, ← Reply.text_refusal]
      exact s.request_hears net rfl hexpected
    · intro s a packet sender reply hpacket hreply hcode
      rcases hsound.error_cases hreply hcode with hrejects | ⟨⟨g, hmalformed⟩, -⟩
      · exact hrejects
      · -- what a session sends is a request
        obtain ⟨r, hparse, -⟩ := parse_of_packet hpacket
        rw [hparse] at hmalformed
        cases hmalformed

/-- Two attempts to register a name with an exclamation mark are rejected, and the client is told so
twice. If it gives up on errors, the first one ends the request. -/
theorem reasons_heard_twice :
    ∃ (service : Service) (s : Session) (a : Ask) (net : Net) (packet : Bytes) (text : String),
      Service.host ["Red"] ["Busy"] 2 100 true 4 = .ok service ∧ net.service = some service ∧
      s.packet a = .ok packet ∧ service.Rejects packet none (.name (.user "B!")) ∧
      text = "Usernames must be between 1 and 16 letters, numbers and spaces. " ++
        "\"B!\" is not a valid username." ∧
      (s.request a net).refusals = [text, text] ∧
      (s.request { a with giveUp := true } net).sent = [packet] ∧
      (s.request { a with giveUp := true } net).result = .error (.rejected text) := by
  let s : Session := { manner := ⟨.one, some 2⟩ }
  let a : Ask := registration [0x42, 0x21]
  let packet : Bytes := [1, 0xff, 0xff, 0xff, 0xff, 0xff, 0x42, 0x21]
  let f : Fault := .name (.user "B!")
  let t : Attempt := ⟨none, some (Reply.refusal f.message).serialize⟩
  let net (service : Service) : Net :=
    { service, link := { address := ⟨"127.0.0.1", 40000⟩, isOpen := true, script := [] } }
  obtain ⟨service, hhost, hanswer, htwice, honce, hsent⟩ :
      ∃ service, Service.host ["Red"] ["Busy"] 2 100 true 4 = .ok service ∧
        (Request.parse packet >>= fun r => (service.answer r none).1) = .error f ∧
        (s.request a (net service)).exchange.map Exchange.attempts = some [t, t] ∧
        (s.request { a with giveUp := true } (net service)).exchange.map Exchange.attempts =
          some [t] ∧
        (s.request { a with giveUp := true } (net service)).sent = [packet] := by
    refine ⟨_, rfl, ?_⟩
    decide +kernel
  have hpacket : s.packet a = .ok packet := by decide +kernel
  obtain ⟨r, hparse, -⟩ := parse_of_packet hpacket
  rw [hparse, ok_bind] at hanswer
  have hrejects : service.Rejects packet none f := ⟨rfl, r, hparse, hanswer⟩
  obtain ⟨reply, -, hreply, htells⟩ := (reasons_heard.2 (.hosted hhost)).1 hrejects
  have hcut : cut f.message = f.message := by decide +kernel
  have hreceived : t.received = some reply.serialize := by rw [hreply]
  obtain ⟨x, hx, hattempts⟩ := Option.map_eq_some_iff.mp htwice
  obtain ⟨y, hy, hattempt⟩ := Option.map_eq_some_iff.mp honce
  have htold := (htells s a (net service) (by decide) x [t] [] t hx hattempts hreceived).1
  have hended := (htells s { a with giveUp := true } (net service) (by decide) y [] [] t hy hattempt
    hreceived).2 rfl
  have hheard : a.heard [t] = [f.message] := by decide +kernel
  rw [hcut] at htold hended
  rw [hheard] at htold
  exact ⟨service, s, a, net service, packet, f.message, hhost, rfl, hpacket, hrejects,
    by decide +kernel, htold, hsent, hended.2⟩

end Session

end TeamPresence
