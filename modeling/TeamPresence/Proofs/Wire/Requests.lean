import TeamPresence.Proofs.Outcome
import TeamPresence.Wire.Request

/-!
# Requests that can be made

A request is made of numbers exactly when it holds them (`make_eq_ok_iff`); otherwise the fault lies
in the header or the body (`make_eq_error`).
-/

namespace TeamPresence

theorem byteField_eq_ok_iff {field : HeaderField} {value : Int} {b : UInt8} :
    byteField field value = .ok b ↔ (b.toNat : Int) = value := by
  rw [byteField]
  by_cases hvalue : 0 ≤ value ∧ value ≤ 255
  · rw [if_pos hvalue, Except.ok.injEq]
    constructor
    · rintro rfl
      rw [UInt8.toNat_ofNat']
      omega
    · rintro rfl
      rw [Int.toNat_natCast, UInt8.ofNat_toNat]
  · rw [if_neg hvalue]
    simp only [reduceCtorEq, false_iff]
    rintro rfl
    have hlt := b.toNat_lt
    omega

theorem byteField_eq_error {field : HeaderField} {value : Int} {f : Fault}
    (h : byteField field value = .error f) : f = .header (.byteField field value) := by
  rw [byteField] at h
  split at h
  · cases h
  · cases h
    rfl

namespace Request

variable {code id team status : Int} {body : Bytes}

/-- **A request is made of numbers exactly when it holds them.** -/
theorem make_eq_ok_iff {r : Request} :
    make code id team status body = .ok r ↔
      (r.code.toNat : Int) = code ∧ (r.networkId : Int) = id ∧ (r.team.toNat : Int) = team ∧
        (r.status.toNat : Int) = status ∧ r.body = body := by
  obtain ⟨rcode, rid, rteam, rstatus, rbody, hid, hpos, hle⟩ := r
  simp only [make, bind_eq_ok_iff, byteField_eq_ok_iff]
  constructor
  · rintro ⟨c, hc, t, ht, s, hs, h⟩
    split at h
    · split at h
      · cases h
        exact ⟨hc, by omega, ht, hs, rfl⟩
      · cases h
    · cases h
  · rintro ⟨hc, rfl, ht, hs, rfl⟩
    refine ⟨rcode, hc, rteam, ht, rstatus, hs, ?_⟩
    rw [dif_pos (by omega), dif_pos ⟨hpos, hle⟩]
    simp

theorem make_eq_error {f : Fault} (h : make code id team status body = .error f) :
    (∃ cause, f = .header cause) ∨ f = .body maxRequestBody := by
  rw [make] at h
  rcases bind_eq_error_iff.mp h with h | ⟨c, -, h⟩
  · exact Or.inl ⟨_, byteField_eq_error h⟩
  rcases bind_eq_error_iff.mp h with h | ⟨t, -, h⟩
  · exact Or.inl ⟨_, byteField_eq_error h⟩
  rcases bind_eq_error_iff.mp h with h | ⟨s, -, h⟩
  · exact Or.inl ⟨_, byteField_eq_error h⟩
  · split at h
    · split at h
      · cases h
      · cases h
        exact Or.inr rfl
    · cases h
      exact Or.inl ⟨_, rfl⟩

theorem code_of_kind? {r : Request} {kind : RequestKind} (h : r.kind? = some kind) :
    (r.code.toNat : Int) = kind.code.toNat := by
  rw [kind?, RequestKind.ofCode?] at h
  split at h
  · next hcode => cases h; exact hcode
  · split at h
    · next hcode => cases h; exact hcode
    · split at h
      · next hcode => cases h; exact hcode
      · split at h
        · next hcode => cases h; exact hcode
        · cases h

end Request

end TeamPresence
