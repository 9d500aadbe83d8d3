import TeamPresence.Wire.SlotList

/-!
# Team status bodies

A roster is sent as the list of the names in its slots, followed directly by one status byte for
each slot. Nothing else frames the two parts: the length of the body tells the size of the roster.
-/

namespace TeamPresence.Wire

def statusBytes : List Int → Except Fault Bytes
  | [] => .ok []
  | s :: rest => do
    if s < 0 ∨ 255 < s then throw .byteRange
    let bytes ← statusBytes rest
    return UInt8.ofNat s.toNat :: bytes

/-- The body for the names and statuses of a roster's slots. -/
def packTeamStatus (names : List String) (statuses : List Int) : Except Fault Bytes := do
  if names.length ≠ statuses.length then throw (.uneven names.length statuses.length)
  let slots ← pack [⟨usersDelimiter, names⟩] false
  let bytes ← statusBytes statuses
  return slots ++ bytes

/-- The names and statuses of a roster's slots. -/
def unpackTeamStatus (body : Bytes) : Except Fault (List String × List UInt8) := do
  let size := (body.length - slotSize) / (slotSize + 1)
  if body.length < slotSize ∨ (body.length - slotSize) % (slotSize + 1) ≠ 0 then
    throw (.malformed (.teamStatusSize body.length))
  let slots := slotSize * (size + 1)
  let names ← unpack (body.take slots) usersDelimiter
  if names.length ≠ size then throw (.malformed (.teamStatusNames names.length size))
  return (names, body.drop slots)

end TeamPresence.Wire
