import Mathlib.Data.Set.Function
import TeamPresence.Proofs.Wire.Requests
import TeamPresence.Wire.Reply

/-!
# Framings

A framing pairs messages with the datagrams of certain lengths (`Framed`). Reading checks the length
of a datagram only, making a message checks each number and then the body, and the two accept the
same: `framings_bijective` states for both kinds of messages that each datagram of a fitting length
is one message written, each message is one that can be made, and what is refused is refused for the
length, the header or the body, in that order.
-/

namespace TeamPresence

variable {μ : Type}

/-- Reading and writing pair the messages with the datagrams of `least` to `most` bytes, and reading
refuses a datagram only for its length. -/
structure Framed (parse : Bytes → Except Fault μ) (serialize : μ → Bytes) (least most : Nat) :
    Prop where
  parse_isOk_iff : ∀ data, (∃ m, parse data = .ok m) ↔ least ≤ data.length ∧ data.length ≤ most
  parse_error : ∀ data f, parse data = .error f → f = .malformed (.datagramSize data.length)
  serialize_parsed : ∀ data m, parse data = .ok m → serialize m = data
  parse_serialized : ∀ m, parse (serialize m) = .ok m

/-- What is read are the datagrams of fitting lengths, if each of them is and they are what is
written. -/
theorem parse_isOk_iff_fits {parse : Bytes → Except Fault μ} {serialize : μ → Bytes}
    {least most : Nat}
    (hfits : ∀ {data : Bytes}, least ≤ data.length ∧ data.length ≤ most → ∃ m, parse data = .ok m)
    (hlength : ∀ m, least ≤ (serialize m).length ∧ (serialize m).length ≤ most)
    (hserialize : ∀ {data : Bytes} {m : μ}, parse data = .ok m → serialize m = data) (data : Bytes) :
    (∃ m, parse data = .ok m) ↔ least ≤ data.length ∧ data.length ≤ most := by
  constructor
  · rintro ⟨m, hm⟩
    rw [← hserialize hm]
    exact hlength m
  · exact hfits

/-- A framing is a bijection from the messages to the datagrams that fit. -/
theorem Framed.bijOn {parse : Bytes → Except Fault μ} {serialize : μ → Bytes} {least most : Nat}
    (h : Framed parse serialize least most) :
    Set.BijOn serialize Set.univ {data | least ≤ data.length ∧ data.length ≤ most} := by
  refine ⟨?_, ?_, ?_⟩
  · intro m _
    exact (h.parse_isOk_iff _).mp ⟨m, h.parse_serialized m⟩
  · intro m _ m' _ hsame
    have hparse := h.parse_serialized m
    rw [hsame, h.parse_serialized m'] at hparse
    exact (Except.ok.inj hparse).symm
  · intro data hfits
    obtain ⟨m, hm⟩ := (h.parse_isOk_iff data).mpr hfits
    exact ⟨m, Set.mem_univ m, h.serialize_parsed data m hm⟩

/-- A number that one byte holds. -/
def FitsByte (value : Int) : Prop := 0 ≤ value ∧ value ≤ 255

/-- A body that is not empty and has at most `most` bytes. -/
def BodyFits (most : Nat) (body : Bytes) : Prop := 1 ≤ body.length ∧ body.length ≤ most

/-- What is made of a header and a body: the message that `holds` them, if both fit. A header that
does not fit is refused before the body is looked at. -/
structure Makes (made : Except Fault μ) (headerFits : Prop) (most : Nat) (body : Bytes)
    (holds : μ → Prop) : Prop where
  isOk_iff : (∃ m, made = .ok m) ↔ headerFits ∧ BodyFits most body
  eq_ok_iff : ∀ m, made = .ok m ↔ holds m
  header_refused : ¬ headerFits → ∃ cause, made = .error (.header cause)
  body_refused : headerFits → ¬ BodyFits most body → made = .error (.body most)

theorem byteField_of_fits {field : HeaderField} {value : Int} (h : FitsByte value) :
    byteField field value = .ok (UInt8.ofNat value.toNat) := if_pos h

theorem byteField_of_not_fits {field : HeaderField} {value : Int} (h : ¬ FitsByte value) :
    byteField field value = .error (.header (.byteField field value)) := if_neg h

theorem fitsByte_toNat (b : UInt8) : FitsByte b.toNat := by
  have hlt := b.toNat_lt
  unfold FitsByte
  omega

namespace Request

/-- The numbers that the header of a request holds. -/
def HeaderFits (code id team status : Int) : Prop :=
  FitsByte code ∧ (0 ≤ id ∧ id ≤ noNetworkId) ∧ FitsByte team ∧ FitsByte status

variable {code id team status : Int} {body : Bytes}

theorem make_of_not_headerFits (h : ¬ HeaderFits code id team status) :
    ∃ cause, make code id team status body = .error (.header cause) := by
  rw [make]
  by_cases hcode : FitsByte code
  · rw [byteField_of_fits hcode, ok_bind]
    by_cases hteam : FitsByte team
    · rw [byteField_of_fits hteam, ok_bind]
      by_cases hstatus : FitsByte status
      · rw [byteField_of_fits hstatus, ok_bind, dif_neg]
        · exact ⟨_, rfl⟩
        · intro hid
          exact h ⟨hcode, hid, hteam, hstatus⟩
      · exact ⟨_, by rw [byteField_of_not_fits hstatus, error_bind]⟩
    · exact ⟨_, by rw [byteField_of_not_fits hteam, error_bind]⟩
  · exact ⟨_, by rw [byteField_of_not_fits hcode, error_bind]⟩

theorem make_of_headerFits (h : HeaderFits code id team status) :
    (BodyFits maxRequestBody body → ∃ r, make code id team status body = .ok r) ∧
      (¬ BodyFits maxRequestBody body →
        make code id team status body = .error (.body maxRequestBody)) := by
  obtain ⟨hcode, hid, hteam, hstatus⟩ := h
  rw [make, byteField_of_fits hcode, ok_bind, byteField_of_fits hteam, ok_bind,
    byteField_of_fits hstatus, ok_bind]
  simp only [dif_pos hid]
  constructor
  · intro hbody
    exact ⟨_, dif_pos hbody⟩
  · intro hbody
    exact dif_neg hbody

theorem makes (code id team status : Int) (body : Bytes) :
    Makes (make code id team status body) (HeaderFits code id team status) maxRequestBody body
      fun r => (r.code.toNat : Int) = code ∧ (r.networkId : Int) = id ∧
        (r.team.toNat : Int) = team ∧ (r.status.toNat : Int) = status ∧ r.body = body where
  isOk_iff := by
    constructor
    · rintro ⟨r, hr⟩
      obtain ⟨rfl, rfl, rfl, rfl, rfl⟩ := make_eq_ok_iff.mp hr
      have hid := r.networkId_le
      exact ⟨⟨fitsByte_toNat r.code, by omega, fitsByte_toNat r.team, fitsByte_toNat r.status⟩,
        r.body_pos, r.body_le⟩
    · rintro ⟨hheader, hbody⟩
      exact (make_of_headerFits hheader).1 hbody
  eq_ok_iff _ := make_eq_ok_iff
  header_refused := make_of_not_headerFits
  body_refused h := (make_of_headerFits h).2

theorem header_cases (data : Bytes) :
    (∃ code a b c team status body, data = code :: a :: b :: c :: team :: status :: body) ∨
      data.length < requestHeaderSize := by
  rcases data with _ | ⟨code, _ | ⟨a, _ | ⟨b, _ | ⟨c, _ | ⟨team, _ | ⟨status, body⟩⟩⟩⟩⟩⟩
  case cons.cons.cons.cons.cons.cons => exact .inl ⟨_, _, _, _, _, _, _, rfl⟩
  all_goals exact .inr (by simp [requestHeaderSize])

theorem parse_of_fits {data : Bytes} (h : 7 ≤ data.length ∧ data.length ≤ maxDatagram) :
    ∃ r, parse data = .ok r := by
  rcases header_cases data with ⟨code, a, b, c, team, status, body, rfl⟩ | hshort
  · simp only [List.length_cons, maxDatagram] at h
    refine ⟨_, dif_pos ⟨?_, ?_⟩⟩
    · omega
    · simp only [maxRequestBody, maxDatagram, requestHeaderSize]
      omega
  · simp only [requestHeaderSize] at hshort
    omega

theorem length_serialize (r : Request) :
    7 ≤ r.serialize.length ∧ r.serialize.length ≤ maxDatagram := by
  have hpos := r.body_pos
  have hle := r.body_le
  simp only [maxRequestBody, maxDatagram, requestHeaderSize] at hle
  simp only [serialize, idBytes, List.length_cons, List.length_append, List.length_nil, maxDatagram]
  omega

theorem parse_eq_error {data : Bytes} {f : Fault} (h : parse data = .error f) :
    f = .malformed (.datagramSize data.length) := by
  unfold parse at h
  split at h
  · split at h
    · cases h
    · exact (Except.error.inj h).symm
  · exact (Except.error.inj h).symm

theorem framed : Framed parse serialize 7 maxDatagram where
  parse_isOk_iff := parse_isOk_iff_fits parse_of_fits length_serialize serialize_of_parse
  parse_error _ _ := parse_eq_error
  serialize_parsed _ _ := serialize_of_parse
  parse_serialized := parse_serialize

end Request

namespace Reply

variable {code : Int} {body : Bytes}

theorem make_eq_ok_iff_holds {r : Reply} :
    make code body = .ok r ↔ (r.code.toNat : Int) = code ∧ r.body = body := by
  obtain ⟨rcode, rbody, hpos, hle⟩ := r
  simp only [make, bind_eq_ok_iff, byteField_eq_ok_iff]
  constructor
  · rintro ⟨c, hc, h⟩
    split at h
    · cases h
      exact ⟨hc, rfl⟩
    · cases h
  · rintro ⟨hc, rfl⟩
    exact ⟨rcode, hc, dif_pos ⟨hpos, hle⟩⟩

theorem make_of_fitsByte (h : FitsByte code) :
    (BodyFits maxReplyBody body → ∃ r, make code body = .ok r) ∧
      (¬ BodyFits maxReplyBody body → make code body = .error (.body maxReplyBody)) := by
  rw [make, byteField_of_fits h, ok_bind]
  constructor
  · intro hbody
    exact ⟨_, dif_pos hbody⟩
  · intro hbody
    exact dif_neg hbody

theorem makes (code : Int) (body : Bytes) :
    Makes (make code body) (FitsByte code) maxReplyBody body
      fun r => (r.code.toNat : Int) = code ∧ r.body = body where
  isOk_iff := by
    constructor
    · rintro ⟨r, hr⟩
      obtain ⟨rfl, rfl⟩ := make_eq_ok_iff_holds.mp hr
      exact ⟨fitsByte_toNat r.code, r.body_pos, r.body_le⟩
    · rintro ⟨hcode, hbody⟩
      exact (make_of_fitsByte hcode).1 hbody
  eq_ok_iff _ := make_eq_ok_iff_holds
  header_refused h := ⟨_, by rw [make, byteField_of_not_fits h, error_bind]⟩
  body_refused h := (make_of_fitsByte h).2

theorem parse_of_fits {data : Bytes} (h : 2 ≤ data.length ∧ data.length ≤ maxDatagram) :
    ∃ r, parse data = .ok r := by
  cases data with
  | nil => simp at h
  | cons code body =>
    simp only [List.length_cons, maxDatagram] at h
    refine ⟨_, dif_pos ⟨?_, ?_⟩⟩
    · omega
    · simp only [maxReplyBody, maxDatagram, replyHeaderSize]
      omega

theorem length_serialize (r : Reply) :
    2 ≤ r.serialize.length ∧ r.serialize.length ≤ maxDatagram := by
  have hpos := r.body_pos
  have hle := r.body_le
  simp only [maxReplyBody, maxDatagram, replyHeaderSize] at hle
  simp only [serialize, List.length_cons, maxDatagram]
  omega

theorem parse_eq_error {data : Bytes} {f : Fault} (h : parse data = .error f) :
    f = .malformed (.datagramSize data.length) := by
  unfold parse at h
  split at h
  · split at h
    · cases h
    · exact (Except.error.inj h).symm
  · exact (Except.error.inj h).symm

theorem framed : Framed parse serialize 2 maxDatagram where
  parse_isOk_iff := parse_isOk_iff_fits parse_of_fits length_serialize serialize_of_parse
  parse_error _ _ := parse_eq_error
  serialize_parsed _ _ := serialize_of_parse
  parse_serialized := parse_serialize

end Reply

/-- **Requests and replies are the datagrams of 7 and of 2 to 1024 bytes**, and they are what can be
made of numbers and bodies that fit. -/
theorem framings_bijective :
    (Framed Request.parse Request.serialize 7 1024 ∧
      Set.BijOn Request.serialize Set.univ {data | 7 ≤ data.length ∧ data.length ≤ 1024}) ∧
    (Framed Reply.parse Reply.serialize 2 1024 ∧
      Set.BijOn Reply.serialize Set.univ {data | 2 ≤ data.length ∧ data.length ≤ 1024}) ∧
    (∀ (code id team status : Int) (body : Bytes),
      Makes (Request.make code id team status body) (Request.HeaderFits code id team status) 1018
        body fun r => (r.code.toNat : Int) = code ∧ (r.networkId : Int) = id ∧
          (r.team.toNat : Int) = team ∧ (r.status.toNat : Int) = status ∧ r.body = body) ∧
    (∀ (code : Int) (body : Bytes),
      Makes (Reply.make code body) (FitsByte code) 1023 body
        fun r => (r.code.toNat : Int) = code ∧ r.body = body) :=
  ⟨⟨Request.framed, Request.framed.bijOn⟩, ⟨Reply.framed, Reply.framed.bijOn⟩, Request.makes,
    Reply.makes⟩

end TeamPresence
