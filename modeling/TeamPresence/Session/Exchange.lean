import TeamPresence.Session.Net

/-!
# Exchanges

An exchange sends one packet again and again until a reply of the expected kind arrives. Each
attempt takes at most one datagram. What comes instead of the reply (nothing, bytes that are no
message, a message of another kind) ends the attempt; a refusal ends the exchange if the client
gives up on it.
-/

namespace TeamPresence

/-- One packet sent, and what came of it. -/
structure Attempt where
  /-- Why sending failed, if it did. -/
  failure : Option String
  /-- The datagram that was taken, if one came in time. -/
  received : Option Bytes
deriving Repr, DecidableEq

/-- What a client asks for, and what it takes for an answer. -/
structure Ask where
  code : Int
  body : Bytes := emptyBody
  /-- The kind of reply that is the answer. -/
  expected : Int
  /-- The team to name, if it is not the session's. -/
  team : Option Int := none
  status : Option Int := none
  /-- Whether a refusal ends the exchange. -/
  giveUp : Bool := false
deriving Repr, DecidableEq

/-- What a received datagram means. -/
inductive Verdict
  | silence
  | garbage (why : Fault)
  | reply (r : Reply)
  | refusal (r : Reply)
  | stray (r : Reply)
deriving DecidableEq

/-- The meaning of what was received, when a kind of reply is expected. -/
def Verdict.of (expected : Int) : Option Bytes → Verdict
  | none => .silence
  | some data =>
    match Reply.parse data with
    | .error f => .garbage f
    | .ok r =>
      if (r.code.toNat : Int) = expected then .reply r
      else if r.code = ReplyKind.error.code then .refusal r
      else .stray r

/-- The outcome that a verdict settles; none asks for another attempt. -/
def Verdict.outcome? (giveUp : Bool) : Verdict → Option (Except Fault Reply)
  | reply r => some (.ok r)
  | refusal r => if giveUp then some (.error (.rejected r.text)) else none
  | silence | garbage _ | stray _ => none

/-- What happened in an exchange. -/
structure Exchange where
  ask : Ask
  packet : Bytes
  attempts : List Attempt
  outcome : Except Fault Reply

namespace Exchange

def sent (x : Exchange) : List Bytes := x.attempts.map fun _ => x.packet

def verdict (x : Exchange) (a : Attempt) : Verdict := Verdict.of x.ask.expected a.received

/-- The texts of the refusals that came in place of the answer. -/
def refusals (x : Exchange) : List String :=
  x.attempts.filterMap fun a =>
    match x.verdict a with
    | .refusal r => some r.text
    | _ => none

end Exchange

/-- How a client goes about an exchange. -/
structure Manner where
  /-- How long it waits in each attempt, in seconds. -/
  timeout : Binary64
  maxAttempts : Option Int
deriving Repr, DecidableEq

/-- Whether no further attempt may be made. -/
def Manner.isSpent (m : Manner) (made : Nat) : Bool := m.maxAttempts.any fun (n : Int) => n ≤ made

/-- A stretch of attempts: what they were, how they ended, and the network afterwards. -/
structure Pursuit where
  attempts : List Attempt
  outcome : Except Fault Reply
  net : Net

/-- Makes attempts until one settles the outcome, after `made` others. When the budget of packets is
used up, the attempts are cut off, unless no more may be made anyway. -/
def Manner.pursue (m : Manner) (ask : Ask) (packet : Bytes) (made : Nat) :
    (budget : Nat) → Net → Pursuit
  | 0, net =>
    ⟨[], .error (if m.isSpent made then .unanswered ask.expected made else .sendLimit),
      { net with budget := 0 }⟩
  | budget + 1, net =>
    if m.isSpent made then
      ⟨[], .error (.unanswered ask.expected made), { net with budget := budget + 1 }⟩
    else
      let sent := net.send packet
      let waited := sent.2.wait m.timeout.patience
      match (Verdict.of ask.expected waited.1).outcome? ask.giveUp with
      | some outcome => ⟨[⟨sent.1, waited.1⟩], outcome, { waited.2 with budget }⟩
      | none =>
        let rest := m.pursue ask packet (made + 1) budget waited.2
        { rest with attempts := ⟨sent.1, waited.1⟩ :: rest.attempts }

/-- Sends a packet until the exchange is settled, and tells the network afterwards. What arrived
earlier is discarded first. -/
def Manner.exchange (m : Manner) (ask : Ask) (packet : Bytes) (net : Net) : Exchange × Net :=
  let p := m.pursue ask packet 0 net.budget net.discard
  ({ ask, packet, attempts := p.attempts, outcome := p.outcome }, p.net)

end TeamPresence
