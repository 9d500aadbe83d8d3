import TeamPresence.Wire.Request
import TeamPresence.Wire.TeamStatus

/-!
# Replies

A reply is one byte for its kind and a body of at least one byte. What a body holds is read through
accessors, each of which refuses a reply of another kind. Reading and writing undo each other:
`parse_serialize` and `serialize_of_parse`.
-/

namespace TeamPresence

/-- A message from the server. -/
structure Reply where
  code : UInt8
  body : Bytes
  body_pos : 1 ≤ body.length
  body_le : body.length ≤ maxReplyBody

namespace Reply

instance : DecidableEq Reply
  | ⟨c, b, _, _⟩, ⟨c', b', _, _⟩ =>
    if h : c = c' ∧ b = b' then .isTrue (by cases h.1; cases h.2; rfl)
    else .isFalse fun e => by cases e; exact h ⟨rfl, rfl⟩

def make (code : Int) (body : Bytes) : Except Fault Reply := do
  let code ← byteField .messageType code
  if h : 1 ≤ body.length ∧ body.length ≤ maxReplyBody then return ⟨code, body, h.1, h.2⟩
  else throw (.body maxReplyBody)

def parse (data : Bytes) : Except Fault Reply :=
  match data with
  | code :: body =>
    if h : 1 ≤ body.length ∧ body.length ≤ maxReplyBody then .ok ⟨code, body, h.1, h.2⟩
    else .error (.malformed (.datagramSize data.length))
  | [] => .error (.malformed (.datagramSize 0))

def serialize (r : Reply) : Bytes := r.code :: r.body

/-- The body that carries a reason: what fits of it, and something in place of nothing. -/
def reasonBody (reason : String) : Bytes :=
  match (Latin1.encodeLossy reason).take maxReplyBody with
  | [] => emptyBody
  | body => body

theorem reasonBody_pos (reason : String) : 1 ≤ (reasonBody reason).length := by
  unfold reasonBody
  split
  · decide
  · next h => exact List.length_pos_iff.2 h

theorem reasonBody_le (reason : String) : (reasonBody reason).length ≤ maxReplyBody := by
  unfold reasonBody
  split
  · decide
  · simp only [List.length_take]
    omega

/-- The reply that refuses a request for a reason. -/
def refusal (reason : String) : Reply :=
  ⟨ReplyKind.error.code, reasonBody reason, reasonBody_pos reason, reasonBody_le reason⟩

def updated : Reply := ⟨ReplyKind.updated.code, emptyBody, by decide, by decide⟩

def label (r : Reply) : String := ReplyKind.labelOf r.code.toNat

def text (r : Reply) : String := Wire.textOf r.body

/-- Refuses a reply of another kind. -/
def expect (r : Reply) (kind : ReplyKind) : Except Fault Unit :=
  if r.code = kind.code then .ok () else .error (.unexpectedKind r.code kind.code)

/-- The network ID in the answer to a registration. -/
def networkId (r : Reply) : Except Fault Int := do
  r.expect .registered
  match Numeral.integer r.text with
  | .ok n => return n
  | .error _ => throw (.malformed (.networkIdText r.text))

def teamNames (r : Reply) : Except Fault (List String) := do
  r.expect .description
  Wire.unpack r.body Wire.teamsDelimiter

def statusNames (r : Reply) : Except Fault (List String) := do
  r.expect .description
  Wire.unpack r.body Wire.statusesDelimiter

/-- The name in each slot of a team status, empty where a slot is vacant. -/
def userNames (r : Reply) : Except Fault (List String) := do
  r.expect .teamStatus
  return (← Wire.unpackTeamStatus r.body).1

/-- The status in each slot of a team status. -/
def statusVector (r : Reply) : Except Fault (List UInt8) := do
  r.expect .teamStatus
  return (← Wire.unpackTeamStatus r.body).2

@[simp] theorem parse_serialize (r : Reply) : parse r.serialize = .ok r := by
  simp only [serialize, parse]
  rw [dif_pos ⟨r.body_pos, r.body_le⟩]

theorem serialize_of_parse {data : Bytes} {r : Reply} (h : parse data = .ok r) :
    r.serialize = data := by
  unfold parse at h
  split at h
  · split at h
    · cases h
      rfl
    · cases h
  · cases h

end Reply

end TeamPresence
