import TeamPresence.Fault

/-!
# Slots

A list of names is written as slots of sixteen bytes. A slot holds one entry in Latin-1, padded with
zero bytes on the right, so the entry is read back without the zero bytes at its end. An entry whose
text starts with the mark `#` is a delimiter.
-/

namespace TeamPresence.Wire

/-- The character that a delimiter starts with. -/
def mark : Char := '#'

def isMarked (s : String) : Bool := s.toList.head? == some mark

/-- Bytes filled up to a slot. -/
def padSlot (raw : Bytes) : Bytes := raw ++ List.replicate (slotSize - raw.length) 0

/-- The slot of an entry. -/
def slotOf (entry : String) : Except Fault Bytes :=
  match Latin1.encode entry with
  | .error gap => .error (.unencodable gap)
  | .ok raw =>
    if slotSize < raw.length then .error (.name (.slotOverflow entry)) else .ok (padSlot raw)

/-- The text of bytes, without the zero bytes at the end. -/
def textOf (b : Bytes) : String := Latin1.decode (trimZeros b)

def slotText (body : Bytes) : String := textOf (body.take slotSize)

def slotCount (body : Bytes) : Nat := body.length / slotSize

theorem length_padSlot {raw : Bytes} (h : raw.length ≤ slotSize) :
    (padSlot raw).length = slotSize := by
  simp only [padSlot, List.length_append, List.length_replicate]
  omega

@[simp] theorem textOf_padSlot (raw : Bytes) : textOf (padSlot raw) = textOf raw := by
  simp only [textOf, padSlot, trimZeros_append_replicate_zero]

end TeamPresence.Wire
