import TeamPresence.Wire.Slot

/-!
# Requests

A request is a header of six bytes (kind, three bytes of network ID, team, status) and a body of at
least one byte. `Request.make` builds one from numbers of any size, `parse` reads one from a
datagram, and `serialize` writes one. Reading and writing undo each other: `parse_serialize` and
`serialize_of_parse`.
-/

namespace TeamPresence

/-- The byte that fills a body with no content. -/
def emptyBody : Bytes := [0x26]

/-- A message from a client. -/
structure Request where
  /-- The kind, or a byte that names none. -/
  code : UInt8
  networkId : Nat
  /-- The team asked about or moved to. -/
  team : UInt8
  status : UInt8
  body : Bytes
  networkId_le : networkId ≤ noNetworkId
  body_pos : 1 ≤ body.length
  body_le : body.length ≤ maxRequestBody
deriving DecidableEq

/-- The value of a header field as a byte. -/
def byteField (field : HeaderField) (value : Int) : Except Fault UInt8 :=
  if 0 ≤ value ∧ value ≤ 255 then .ok (UInt8.ofNat value.toNat)
  else .error (.header (.byteField field value))

namespace Request

/-- The request with the given content. The header is checked before the body. -/
def make (code networkId team status : Int) (body : Bytes) : Except Fault Request := do
  let code ← byteField .messageType code
  let team ← byteField .teamId team
  let status ← byteField .status status
  if hid : 0 ≤ networkId ∧ networkId ≤ noNetworkId then
    if hbody : 1 ≤ body.length ∧ body.length ≤ maxRequestBody then
      return ⟨code, networkId.toNat, team, status, body, by omega, hbody.1, hbody.2⟩
    else throw (.body maxRequestBody)
  else throw (.header (.networkId networkId))

/-- The number that three bytes stand for, the highest first. -/
def idOfBytes (a b c : UInt8) : Nat := a.toNat * 65536 + b.toNat * 256 + c.toNat

theorem idOfBytes_le (a b c : UInt8) : idOfBytes a b c ≤ noNetworkId := by
  have ha := a.toNat_lt
  have hb := b.toNat_lt
  have hc := c.toNat_lt
  simp only [idOfBytes, noNetworkId]
  omega

def idBytes (n : Nat) : Bytes :=
  [UInt8.ofNat (n / 65536), UInt8.ofNat (n / 256), UInt8.ofNat n]

def parse (data : Bytes) : Except Fault Request :=
  match data with
  | code :: a :: b :: c :: team :: status :: body =>
    if h : 1 ≤ body.length ∧ body.length ≤ maxRequestBody then
      .ok ⟨code, idOfBytes a b c, team, status, body, idOfBytes_le a b c, h.1, h.2⟩
    else .error (.malformed (.datagramSize data.length))
  | _ => .error (.malformed (.datagramSize data.length))

def serialize (r : Request) : Bytes :=
  r.code :: (idBytes r.networkId ++ r.team :: r.status :: r.body)

def kind? (r : Request) : Option RequestKind := RequestKind.ofCode? r.code.toNat

def label (r : Request) : String := RequestKind.labelOf r.code.toNat

def text (r : Request) : String := Wire.textOf r.body

def displayName (r : Request) : Except Fault String :=
  if r.code = RequestKind.register.code then .ok r.text
  else .error (.unexpectedKind r.code RequestKind.register.code)

theorem idOfBytes_idBytes {n : Nat} (h : n ≤ noNetworkId) :
    idOfBytes (UInt8.ofNat (n / 65536)) (UInt8.ofNat (n / 256)) (UInt8.ofNat n) = n := by
  simp only [noNetworkId] at h
  simp only [idOfBytes, UInt8.toNat_ofNat']
  omega

theorem idBytes_idOfBytes (a b c : UInt8) : idBytes (idOfBytes a b c) = [a, b, c] := by
  have ha := a.toNat_lt
  have hb := b.toNat_lt
  have hc := c.toNat_lt
  simp only [idBytes, idOfBytes, List.cons.injEq, and_true]
  refine ⟨?_, ?_, ?_⟩ <;> apply UInt8.toNat.inj <;> rw [UInt8.toNat_ofNat'] <;> omega

@[simp] theorem parse_serialize (r : Request) : parse r.serialize = .ok r := by
  have hid := idOfBytes_idBytes r.networkId_le
  simp only [serialize, idBytes, parse, List.cons_append, List.nil_append]
  rw [dif_pos ⟨r.body_pos, r.body_le⟩]
  simp only [hid]

theorem serialize_of_parse {data : Bytes} {r : Request} (h : parse data = .ok r) :
    r.serialize = data := by
  unfold parse at h
  split at h
  · split at h
    · cases h
      rw [serialize, idBytes_idOfBytes]
      rfl
    · cases h
  · cases h

end Request

end TeamPresence
