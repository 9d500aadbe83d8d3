import TeamPresence.Proofs.Service.Totality
import TeamPresence.Proofs.Wire.Rosters

/-!
# The words of a refusal

A reason is put into a reply that always fits: what is too long is cut off, what has no byte becomes
a question mark, and nothing at all becomes the placeholder body. `Reply.text_refusal` says what is
read back of it, `carried`.

The reasons that a service gives are its own words and the name that a request carries, so that they
have a byte for each character (`Sound.isSpoken_of_rejects`), and are only cut: `cut`. Each ERROR
reply gives one, or answers a malformed datagram (`Sound.error_cases`).
-/

namespace TeamPresence

namespace Latin1

/-- A text with a byte for each character. -/
def IsEncodable (s : String) : Prop := ∀ c ∈ s.toList, isEncodable c = true

instance (s : String) : Decidable (IsEncodable s) :=
  List.decidableBAll (fun c => isEncodable c = true) s.toList

theorem IsEncodable.append {s t : String} (hs : IsEncodable s) (ht : IsEncodable t) :
    IsEncodable (s ++ t) := by
  intro c hc
  rw [String.toList_append, List.mem_append] at hc
  exact hc.elim (hs c) (ht c)

theorem isEncodable_toString_nat (n : Nat) : IsEncodable (toString n) := by
  obtain ⟨body, hbody, -⟩ := Service.encode_toString n
  exact (encode_eq_ok_iff.mp hbody).1

theorem isEncodable_toString_int (n : Int) : IsEncodable (toString n) := by
  cases n with
  | ofNat m => exact isEncodable_toString_nat m
  | negSucc m => exact IsEncodable.append (s := "-") (by decide) (isEncodable_toString_nat (m + 1))

theorem isEncodable_decode (b : Bytes) : IsEncodable (decode b) :=
  (encode_eq_ok_iff.mp (encode_decode b)).1

/-- A character as it is read back if it was encoded in any case. -/
def kept (c : Char) : Char := if c.toNat < 256 then c else '?'

theorem kept_eq_self {c : Char} (h : isEncodable c = true) : kept c = c :=
  if_pos (by simpa [isEncodable] using h)

theorem isEncodable_kept (c : Char) : isEncodable (kept c) = true := by
  unfold kept
  split
  · simpa [isEncodable]
  · decide

theorem byteOf_kept (c : Char) :
    byteOf (kept c) = if isEncodable c then byteOf c else byteOf '?' := by
  by_cases hc : c.toNat < 256 <;> simp [kept, isEncodable, hc]

end Latin1

/-! ### Reasons that are read back -/

/-- What a packet carries of a reason: at most 1023 characters of it, without null characters at the
end, each a question mark if it is beyond Latin-1; and a mark in place of no reason. -/
def carried (reason : String) : String :=
  if reason = "" then "&"
  else trimNulls (String.ofList ((reason.toList.take 1023).map Latin1.kept))

/-- A text of at most 1023 characters, without null characters at the end. -/
def cut (text : String) : String := trimNulls (String.ofList (text.toList.take 1023))

namespace Reply

theorem reasonBody_eq {reason : String} (h : reason ≠ "") :
    reasonBody reason = ((reason.toList.take 1023).map Latin1.kept).map Latin1.byteOf := by
  have hbytes : (Latin1.encodeLossy reason).take maxReplyBody =
      ((reason.toList.take 1023).map Latin1.kept).map Latin1.byteOf := by
    rw [Latin1.encodeLossy, ← List.map_take, List.map_map]
    exact List.map_congr_left fun c _ => (Latin1.byteOf_kept c).symm
  unfold reasonBody
  rw [hbytes]
  split
  · next hnil =>
    simp only [List.map_eq_nil_iff, List.take_eq_nil_iff, String.toList_eq_nil_iff] at hnil
    exact absurd (hnil.resolve_left (by decide)) h
  · rfl

theorem text_refusal (reason : String) : (refusal reason).text = carried reason := by
  unfold carried
  by_cases hempty : reason = ""
  · subst hempty
    decide +kernel
  · have hbody : (refusal reason).body = _ := reasonBody_eq hempty
    rw [if_neg hempty, text, hbody]
    apply textOf_of_encode
    rw [Latin1.encode_eq_ok_iff, String.toList_ofList]
    refine ⟨?_, rfl⟩
    intro c hc
    obtain ⟨d, -, rfl⟩ := List.mem_map.mp hc
    exact Latin1.isEncodable_kept d

example : (refusal "5 \u20ac\x00\x00").text = "5 ?" := by decide +kernel

theorem make_reasonBody (reason : String) :
    make ReplyKind.error.code.toNat (reasonBody reason) = .ok (refusal reason) :=
  make_eq_ok_iff.mpr ⟨⟨reasonBody_pos reason, reasonBody_le reason⟩, rfl, rfl⟩

end Reply

/-! ### Reasons that are given -/

/-- A reason of which nothing is lost but what is cut off. -/
structure IsSpoken (reason : String) : Prop where
  ne_empty : reason ≠ ""
  isEncodable : Latin1.IsEncodable reason

theorem IsSpoken.append {s t : String} (hs : IsSpoken s) (ht : Latin1.IsEncodable t) :
    IsSpoken (s ++ t) := by
  refine ⟨?_, hs.isEncodable.append ht⟩
  intro hempty
  exact hs.ne_empty (String.append_eq_empty_iff.mp hempty).1

theorem IsSpoken.carried_eq {reason : String} (h : IsSpoken reason) :
    carried reason = cut reason := by
  rw [carried, if_neg h.ne_empty, cut]
  have hkept : (reason.toList.take 1023).map Latin1.kept = reason.toList.take 1023 := by
    refine (List.map_congr_left fun c hc => ?_).trans (List.map_id _)
    exact Latin1.kept_eq_self (h.isEncodable c (List.mem_of_mem_take hc))
  rw [hkept]

/-- The faults for which a service refuses a request. -/
inductive Fault.Refuses : Fault → Prop
  | usersFull : Refuses .usersFull
  | name {name : String} (h : Latin1.IsEncodable name) : Refuses (.name (.user name))
  | unknownUser (id : Nat) : Refuses (.unknownUser id)
  | status (value : Int) : Refuses (.status value)
  | updateTeam (id : Int) : Refuses (.team (.update id))
  | viewTeam (id : Int) : Refuses (.team (.view id))
  | teamFull (id : Int) : Refuses (.teamFull id)
  | body (limit : Nat) : Refuses (.body limit)
  | unknownKind : Refuses .unknownKind

theorem Fault.Refuses.isSpoken {f : Fault} (h : f.Refuses) : IsSpoken f.message := by
  have hliteral : ∀ {s : String}, s ≠ "" ∧ Latin1.IsEncodable s → IsSpoken s := fun h => ⟨h.1, h.2⟩
  cases h with
  | usersFull | unknownKind => exact hliteral (by decide +kernel)
  | name hname =>
    exact ((hliteral (by decide +kernel)).append hname).append (by decide +kernel)
  | unknownUser id =>
    exact (hliteral (by decide +kernel)).append (Latin1.isEncodable_toString_nat id)
  | status value | updateTeam value | viewTeam value =>
    exact (hliteral (by decide +kernel)).append (Latin1.isEncodable_toString_int value)
  | teamFull id =>
    exact ((hliteral (by decide +kernel)).append (Latin1.isEncodable_toString_int id)).append
      (by decide +kernel)
  | body limit =>
    exact ((hliteral (by decide +kernel)).append (Latin1.isEncodable_toString_nat limit)).append
      (by decide +kernel)

namespace Service

/-- A datagram is a request, and it is refused for a fault. A datagram that is no request is not
rejected: it is answered with a fixed text (`malformedReason`), whatever is wrong with it. -/
def Rejects (s : Service) (data : Bytes) (sender : Option Address) (f : Fault) : Prop :=
  f.isRefusal = true ∧ ∃ r, Request.parse data = .ok r ∧ (s.answer r sender).1 = .error f

variable {s : Service} {data : Bytes} {sender : Option Address} {f : Fault}

theorem Rejects.handle_eq (h : s.Rejects data sender f) :
    (s.handle data sender).1 = .ok (Reply.refusal f.message) := by
  obtain ⟨hrefusal, r, hparse, hanswer⟩ := h
  rw [handle, hparse]
  show replyTo (s.answer r sender).1 = _
  rw [hanswer, replyTo, if_pos hrefusal]

/-! ### One request -/

/-- What a service may answer: no ERROR reply, and no other faults than those that refuse. -/
structure Answers (outcome : Except Fault Reply) : Prop where
  code : ∀ reply, outcome = .ok reply → reply.code ≠ ReplyKind.error.code
  refuses : ∀ f, outcome = .error f → f.isRefusal = true → f.Refuses

theorem answers_error {f : Fault} (h : f.isRefusal = true → f.Refuses) : Answers (.error f) := by
  constructor
  · intro reply hreply
    cases hreply
  · intro g hg hrefusal
    obtain rfl := Except.error.inj hg
    exact h hrefusal

theorem answers_acknowledge (id : Nat) : Answers (acknowledge id) := by
  constructor
  · intro reply hreply
    rw [(networkId_of_acknowledge hreply).1]
    decide
  · intro f hf _
    rw [acknowledge_eq_error hf]
    exact .body _

theorem answers_confirm (s : Service) (sender : Option Address) (name : String) (id : Nat) :
    Answers (s.confirm sender name id).1 := by
  have hremember : ∀ f, (s.remember sender name id).1 = .error f → f = .memoExhausted := by
    intro f hf
    unfold remember Memo.remember at hf
    grind
  show Answers ((s.remember sender name id).1.bind fun _ => acknowledge id)
  cases hremembered : (s.remember sender name id).1 with
  | ok _ => exact answers_acknowledge id
  | error f =>
    obtain rfl := hremember f hremembered
    apply answers_error
    intro hrefusal
    cases hrefusal

theorem answers_register (s : Service) {name : String} (hname : Latin1.IsEncodable name)
    (sender : Option Address) : Answers (s.register name sender).1 := by
  unfold register
  cases s.repeated? sender name with
  | some r => exact answers_confirm _ _ _ _
  | none =>
    cases hregister : s.directory.register name with
    | ok grown => exact answers_confirm _ _ _ _
    | error f =>
      refine answers_error fun _ => ?_
      rw [Directory.register] at hregister
      split_ifs at hregister
      · obtain rfl := Except.error.inj hregister
        exact .usersFull
      · obtain rfl := Except.error.inj hregister
        exact .name hname

namespace Sound

theorem answers_updateStatus (hs : s.Sound) (r : Request) : Answers (s.updateStatus r).1 := by
  rw [updateStatus_eq hs.seated]
  cases s.directory.users[r.networkId]? with
  | none => exact answers_error fun _ => .unknownUser _
  | some u =>
    cases hrefusal : s.directory.refusal? r.networkId u.team r.status.toNat r.team.toNat with
    | none =>
      simp only [hrefusal]
      constructor
      · rintro reply ⟨⟩
        decide
      · intro f hf
        cases hf
    | some f =>
      simp only [hrefusal]
      refine answers_error fun _ => ?_
      rw [Directory.refusal?] at hrefusal
      split_ifs at hrefusal
      · obtain rfl := Option.some.inj hrefusal
        exact .status _
      · obtain rfl := Option.some.inj hrefusal
        exact .updateTeam _
      · obtain rfl := Option.some.inj hrefusal
        exact .teamFull _

theorem answers_teamStatus (hs : s.Sound) (r : Request) : Answers (s.teamStatus r) := by
  constructor
  · intro reply hreply
    obtain ⟨team, -, hcode, -⟩ := hs.slots_of_teamStatus hreply
    rw [hcode]
    decide
  · intro f hf _
    rcases hs.teamStatus_eq_error hf with rfl | rfl
    · exact .viewTeam _
    · exact .body _

theorem answers_answer (hs : s.Sound) (r : Request) (sender : Option Address) :
    Answers (s.answer r sender).1 := by
  unfold answer
  split
  · exact answers_register s (Latin1.isEncodable_decode _) sender
  · exact hs.answers_updateStatus r
  · exact hs.answers_teamStatus r
  · constructor
    · rintro reply ⟨⟩
      rw [hs.names_of_description.1]
      decide
    · intro f hf
      cases hf
  · exact answers_error fun _ => .unknownKind

theorem isSpoken_of_rejects (hs : s.Sound) (h : s.Rejects data sender f) : IsSpoken f.message := by
  obtain ⟨hrefusal, r, -, hanswer⟩ := h
  exact ((hs.answers_answer r sender).refuses f hanswer hrefusal).isSpoken

/-- **An ERROR reply gives the reason of a rejection, or answers what is no request.** -/
theorem error_cases (hs : s.Sound) {reply : Reply} (h : (s.handle data sender).1 = .ok reply)
    (hcode : reply.code = ReplyKind.error.code) :
    (∃ f, s.Rejects data sender f ∧ reply = Reply.refusal f.message) ∨
      (∃ g, Request.parse data = .error g) ∧ reply = Reply.refusal malformedReason := by
  cases hparse : Request.parse data with
  | error g =>
    rw [handle, hparse] at h
    exact Or.inr ⟨⟨g, rfl⟩, (Except.ok.inj h).symm⟩
  | ok r =>
    left
    rw [handle, hparse] at h
    change replyTo (s.answer r sender).1 = .ok reply at h
    cases hanswer : (s.answer r sender).1 with
    | ok answered =>
      rw [hanswer] at h
      obtain rfl := Except.ok.inj h
      exact absurd hcode ((hs.answers_answer r sender).code _ hanswer)
    | error f =>
      rw [hanswer, replyTo] at h
      split at h
      · next hrefusal => exact ⟨f, ⟨hrefusal, r, hparse, hanswer⟩, (Except.ok.inj h).symm⟩
      · cases h

end Sound

end Service

end TeamPresence
