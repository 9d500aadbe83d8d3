import TeamPresence.Proofs.Session.Readings
import TeamPresence.Proofs.Wire.Slots

/-!
# Taking on a description

A session takes on the teams and the statuses of a server from one reply. A reply may tell the teams
and no statuses, and the teams are taken on before the statuses are read.

**`takesWhole_iff`**: so a session takes on both lists or none exactly unless it is answered by a
reply of which the slots tell other teams than the session has, and no slot opens a list of
statuses. Then the teams are taken on, and nothing else (`fetchDescription_describes`).
-/

namespace TeamPresence

/-! ### Reading the lists -/

namespace Wire

theorem namesAfter?_isSome_iff {delimiter : String} {texts : List String} :
    (namesAfter? delimiter texts).isSome = true ↔ delimiter ∈ texts := by
  induction texts with
  | nil => simp [namesAfter?]
  | cons t rest ih =>
    rw [namesAfter?, List.dropWhile_cons]
    by_cases hfirst : t = delimiter
    · simp [hfirst]
    · rw [if_pos (by simpa using hfirst), List.mem_cons, or_iff_right (Ne.symm hfirst), ← ih,
        namesAfter?]

theorem unpack_isOk_iff {body : Bytes} {delimiter : String} :
    (∃ names, unpack body delimiter = .ok names) ↔
      delimiter ∈ slotTexts (slotCount body) body := by
  rw [unpack_eq, ← namesAfter?_isSome_iff]
  cases namesAfter? delimiter (slotTexts (slotCount body) body) <;> simp

end Wire

/-- The texts of the whole slots of a reply. -/
def Reply.slots (r : Reply) : List String := Wire.slotTexts (Wire.slotCount r.body) r.body

theorem Reply.statusNames_isOk_iff {r : Reply}
    (hcode : (r.code.toNat : Int) = ReplyKind.description.code.toNat) :
    (∃ names, r.statusNames = .ok names) ↔ Wire.statusesDelimiter ∈ r.slots := by
  have hkind : r.code = ReplyKind.description.code := UInt8.toNat_inj.mp (Int.ofNat_inj.mp hcode)
  rw [statusNames, expect_eq_ok hkind, ok_bind, slots, Wire.unpack_isOk_iff]

/-! ### Taking them on -/

/-- What a fetch comes to: no list is read of the answer, or only the teams, or both. -/
inductive Run.Describes (s : Session) (r : Run (List String × List String)) : Prop
  | nothing {f : Fault}
      (hunread : ∀ reply ∈ r.answer?, ∀ teamNames, reply.teamNames ≠ .ok teamNames)
      (hresult : r.result = .error f) (hsession : r.session = s)
  | half {reply : Reply} {teamNames : List String} {f : Fault} (hanswer : r.answer? = some reply)
      (hteams : reply.teamNames = .ok teamNames) (hslot : Wire.statusesDelimiter ∉ reply.slots)
      (hresult : r.result = .error f) (hsession : r.session = { s with teamNames })
  | whole {reply : Reply} {teamNames statusNames : List String}
      (hanswer : r.answer? = some reply) (hreceives : r.Receives reply)
      (hteams : reply.teamNames = .ok teamNames) (hstatuses : reply.statusNames = .ok statusNames)
      (hslot : Wire.statusesDelimiter ∈ reply.slots)
      (hresult : r.result = .ok (teamNames, statusNames))
      (hsession : r.session = { s with teamNames, statusNames })

/-- Whether a run took on the names of one reply that it received, or failed and left both lists as
they were. -/
structure Run.TakesWhole (s : Session) (r : Run (List String × List String)) : Prop where
  returned : ∀ {names : List String × List String}, r.result = .ok names →
    ∃ reply, r.Receives reply ∧ reply.teamNames = .ok r.session.teamNames ∧
      reply.statusNames = .ok r.session.statusNames ∧
      names = (r.session.teamNames, r.session.statusNames)
  failed : ∀ {f : Fault}, r.result = .error f →
    r.session.teamNames = s.teamNames ∧ r.session.statusNames = s.statusNames

namespace Session

/-- What a fetch takes on is up to the slots of the reply that answers it. -/
theorem fetchDescription_describes (s : Session) (net : Net) :
    (s.fetchDescription net).Describes s := by
  cases s.request_reads inquiry net s.adoptNames with
  | unanswered hanswer hresult hsession =>
    refine .nothing (fun reply hreply => ?_) hresult hsession
    cases hanswer.symm.trans hreply
  | @answered _ reply _ hanswer hreceives hcode hresult hsession =>
    have hread := Reply.statusNames_isOk_iff hcode
    rw [adoptNames] at hresult hsession
    cases hteams : reply.teamNames with
    | error f =>
      rw [hteams] at hresult hsession
      refine .nothing (fun reply' hreply' teamNames => ?_) hresult hsession
      rw [← Option.some.inj (hanswer.symm.trans hreply'), hteams]
      simp
    | ok teamNames =>
      cases hstatuses : reply.statusNames with
      | error f =>
        rw [hteams, hstatuses] at hresult hsession
        have hslot : Wire.statusesDelimiter ∉ reply.slots := by
          rw [← hread, hstatuses]
          simp
        exact .half hanswer hteams hslot hresult hsession
      | ok statusNames =>
        rw [hteams, hstatuses] at hresult hsession
        exact .whole hanswer hreceives hteams hstatuses (hread.mp ⟨_, hstatuses⟩) hresult hsession

/-- **A session takes on both lists or none**, unless it is answered by a reply that tells other
teams and no statuses. -/
theorem takesWhole_iff (s : Session) (net : Net) :
    (s.fetchDescription net).TakesWhole s ↔
      ∀ reply ∈ (s.fetchDescription net).answer?, ∀ teamNames,
        reply.teamNames = .ok teamNames → teamNames ≠ s.teamNames →
          Wire.statusesDelimiter ∈ reply.slots := by
  cases s.fetchDescription_describes net with
  | nothing hunread hresult hsession =>
    refine iff_of_true ⟨fun hok => ?_, fun _ => ?_⟩ fun reply hreply teamNames hteams => ?_
    · cases hresult.symm.trans hok
    · rw [hsession]
      exact ⟨rfl, rfl⟩
    · exact absurd hteams (hunread reply hreply teamNames)
  | @half reply teamNames f hanswer hteams hslot hresult hsession =>
    -- both sides say that the teams are those that the session has
    constructor
    · intro hwhole reply' hreply' teamNames' hteams' hother
      obtain rfl := Option.some.inj (hanswer.symm.trans hreply')
      obtain rfl := Except.ok.inj (hteams.symm.trans hteams')
      have hkept := (hwhole.failed hresult).1
      rw [hsession] at hkept
      exact absurd hkept hother
    · intro htold
      refine ⟨fun hok => ?_, fun _ => ?_⟩
      · cases hresult.symm.trans hok
      · rw [hsession]
        by_contra hother
        exact hslot (htold reply hanswer teamNames hteams fun e => hother ⟨e, rfl⟩)
  | @whole reply teamNames statusNames hanswer hreceives hteams hstatuses hslot hresult hsession =>
    refine iff_of_true ⟨fun {names} hok => ?_, fun hfailed => ?_⟩ fun reply' hreply' _ _ _ => ?_
    · rw [hsession]
      exact ⟨reply, hreceives, hteams, hstatuses, Except.ok.inj (hok.symm.trans hresult)⟩
    · cases hresult.symm.trans hfailed
    · rwa [← Option.some.inj (hanswer.symm.trans hreply')]

/-- A reply that tells a team and no statuses. -/
def halfDescription : Bytes :=
  [3, 0x23, 0x54, 0x45, 0x41, 0x4d, 0x53] ++ List.replicate 10 0 ++
    [0x52, 0x65, 0x64] ++ List.replicate 13 0

/-- A session fails to fetch a description, and takes on a team. -/
theorem half_description_taken :
    ∃ s : Session, s.teamNames = [] ∧
      (s.fetchDescription (.bringing halfDescription)).result =
        .error (.malformed (.listMissing "#STATUSES")) ∧
      (s.fetchDescription (.bringing halfDescription)).session = { s with teamNames := ["Red"] } ∧
      ¬ (s.fetchDescription (.bringing halfDescription)).TakesWhole s := by
  let s : Session := { manner := ⟨.one, none⟩ }
  have hresult : (s.fetchDescription (.bringing halfDescription)).result =
      .error (.malformed (.listMissing "#STATUSES")) := by decide +kernel
  have hsession : (s.fetchDescription (.bringing halfDescription)).session =
      { s with teamNames := ["Red"] } := by decide +kernel
  refine ⟨s, rfl, hresult, hsession, fun hwhole => ?_⟩
  have hkept := (hwhole.failed hresult).1
  rw [hsession] at hkept
  cases hkept

end Session

end TeamPresence
