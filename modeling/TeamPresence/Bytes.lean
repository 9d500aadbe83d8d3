/-!
# Bytes

Datagrams and message bodies are lists of bytes. Text in a fixed-width field is padded with zero
bytes on the right; `trimZeros` takes the padding off again.
-/

namespace TeamPresence

/-- The content of a datagram, or a part of it. -/
abbrev Bytes := List UInt8

/-- The bytes up to the last one that is not zero. -/
def trimZeros : Bytes → Bytes
  | [] => []
  | b :: rest =>
    match trimZeros rest with
    | [] => if b = 0 then [] else [b]
    | kept => b :: kept

@[simp] theorem trimZeros_nil : trimZeros [] = [] := rfl

@[simp] theorem trimZeros_replicate_zero (n : Nat) : trimZeros (List.replicate n 0) = [] := by
  induction n with
  | zero => rfl
  | succ n ih => simp [List.replicate_succ, trimZeros, ih]

@[simp] theorem trimZeros_append_replicate_zero (b : Bytes) (n : Nat) :
    trimZeros (b ++ List.replicate n 0) = trimZeros b := by
  induction b with
  | nil => simp
  | cons x rest ih => simp only [List.cons_append, trimZeros, ih]

@[simp] theorem trimZeros_trimZeros (b : Bytes) : trimZeros (trimZeros b) = trimZeros b := by
  induction b with
  | nil => rfl
  | cons x rest ih =>
    simp only [trimZeros]
    cases hk : trimZeros rest with
    | nil => by_cases hx : x = 0 <;> simp [trimZeros, hx]
    | cons y ys =>
      rw [hk] at ih
      simp only [trimZeros] at ih ⊢
      rw [ih]

end TeamPresence
