import TeamPresence.Bytes

/-!
# Latin-1 text

One byte stands for each of the first 256 characters. Encoding is refused with the first run of
characters that have no byte, or puts a question mark in the place of each of them. Decoding always
succeeds, and takes back an encoding (`decode_of_encode`).
-/

namespace TeamPresence.Latin1

/-- A character that has a byte. -/
def isEncodable (c : Char) : Bool := c.toNat < 256

/-- A run of characters that have no byte. -/
structure Gap where
  first : Char
  /-- Where the run starts, counted in characters. -/
  start : Nat
  length : Nat
deriving Repr, DecidableEq

/-- The first run of characters that have no byte, where `start` characters went before. -/
def gap? (start : Nat) : List Char → Option Gap
  | [] => none
  | c :: rest =>
    if isEncodable c then gap? (start + 1) rest
    else some ⟨c, start, 1 + (rest.takeWhile fun d => !isEncodable d).length⟩

/-- The byte of each character. -/
def byteOf (c : Char) : UInt8 := UInt8.ofNat c.toNat

/-- The bytes of a text, one for each character. -/
def encode (s : String) : Except Gap Bytes :=
  match gap? 0 s.toList with
  | some g => .error g
  | none => .ok (s.toList.map byteOf)

/-- The bytes of a text, with a question mark for each character that has none. -/
def encodeLossy (s : String) : Bytes :=
  s.toList.map fun c => if isEncodable c then byteOf c else byteOf '?'

def charOf (b : UInt8) : Char := Char.ofNat b.toNat

def decode (b : Bytes) : String := String.ofList (b.map charOf)

theorem gap?_eq_none_iff {n : Nat} {cs : List Char} :
    gap? n cs = none ↔ ∀ c ∈ cs, isEncodable c = true := by
  induction cs generalizing n with
  | nil => simp [gap?]
  | cons c rest ih => by_cases h : isEncodable c <;> simp [gap?, h, ih]

theorem encode_eq_ok_iff {s : String} {b : Bytes} :
    encode s = .ok b ↔ (∀ c ∈ s.toList, isEncodable c = true) ∧ b = s.toList.map byteOf := by
  unfold encode
  split
  · next g h =>
    simp only [reduceCtorEq, false_iff, not_and]
    intro hall
    rw [gap?_eq_none_iff.2 hall] at h
    cases h
  · next h =>
    rw [Except.ok.injEq]
    exact ⟨fun e => ⟨gap?_eq_none_iff.1 h, e.symm⟩, fun e => e.2.symm⟩

theorem charOf_byteOf {c : Char} (h : isEncodable c = true) : charOf (byteOf c) = c := by
  have hc : c.toNat < 256 := by simpa [isEncodable] using h
  simp only [charOf, byteOf, UInt8.toNat_ofNat']
  rw [Nat.mod_eq_of_lt (by omega)]
  exact Char.ofNat_toNat c

theorem decode_of_encode {s : String} {b : Bytes} (h : encode s = .ok b) : decode b = s := by
  obtain ⟨hall, rfl⟩ := encode_eq_ok_iff.1 h
  have hmap : (s.toList.map byteOf).map charOf = s.toList := by
    rw [List.map_map]
    exact (List.map_congr_left fun c hc => charOf_byteOf (hall c hc)).trans (List.map_id _)
  rw [decode, hmap, String.ofList_toList]

end TeamPresence.Latin1
