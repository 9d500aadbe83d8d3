import TeamPresence.Proofs.Program.Conversation
import TeamPresence.Proofs.Session.Failures
import TeamPresence.Proofs.Session.Holdings

/-!
# Places in the lists of a client

The client program looks up the names of its user's team and status in lists that a server told it,
whatever that server is. A reply has room for few names (`Reply.length_lt_of_teamNames`), so no place
in a list is the sign for no team or no status.

**`inPlace_after`**: whatever is typed and whatever arrives, the team and the status that the session
holds have a place in its lists or are the sign for none. So the header can always be shown, no list
is read at a place that it does not have, and what an answer asks for is never the sign.

A turn keeps this (`Turn.inPlace`), since an answer that chooses is a place in the list asked about.
-/

namespace TeamPresence

/-! ### How many names a reply has room for -/

theorem Wire.length_lt_of_namesAfter? {delimiter : String} {texts names : List String}
    (h : Wire.namesAfter? delimiter texts = some names) : names.length < texts.length := by
  unfold namesAfter? at h
  split at h
  · cases h
  · next first rest hfound =>
    obtain rfl := Option.some.inj h
    have hsuffix : first :: rest <:+ texts := hfound ▸ List.dropWhile_suffix _
    have hlength := hsuffix.length_le
    have hnames := (List.takeWhile_prefix (fun t => !isMarked t) (l := rest)).length_le
    rw [List.length_cons] at hlength
    omega

theorem Wire.length_lt_of_unpack {body : Bytes} {delimiter : String} {names : List String}
    (h : Wire.unpack body delimiter = .ok names) : names.length < slotCount body := by
  rw [unpack_eq] at h
  split at h
  · next found hfound =>
    obtain rfl := Except.ok.inj h
    have hlength := length_lt_of_namesAfter? hfound
    rwa [length_slotTexts] at hlength
  · cases h

/-- The slots that a reply has room for. -/
def Reply.room : Nat := maxReplyBody / slotSize

namespace Reply

variable {r : Reply} {names : List String}

theorem slotCount_le (r : Reply) : Wire.slotCount r.body ≤ room :=
  Nat.div_le_div_right r.body_le

theorem length_lt_of_teamNames (h : r.teamNames = .ok names) : names.length < room := by
  obtain ⟨-, -, hunpack⟩ := bind_eq_ok_iff.mp h
  exact Nat.lt_of_lt_of_le (Wire.length_lt_of_unpack hunpack) r.slotCount_le

theorem length_lt_of_statusNames (h : r.statusNames = .ok names) : names.length < room := by
  obtain ⟨-, -, hunpack⟩ := bind_eq_ok_iff.mp h
  exact Nat.lt_of_lt_of_le (Wire.length_lt_of_unpack hunpack) r.slotCount_le

end Reply

/-! ### What a session holds -/

/-- A number that is a place in a list, or the sign for none. -/
def IsPlaceIn (names : List String) (sign place : Int) : Prop :=
  place = sign ∨ 0 ≤ place ∧ place < names.length

/-- The team and status of a session have a place in its lists, and the lists are short. -/
structure Session.Placed (s : Session) : Prop where
  team : IsPlaceIn s.teamNames noTeam s.team
  status : IsPlaceIn s.statusNames noStatus s.status
  teamsFew : s.teamNames.length < Reply.room
  statusesFew : s.statusNames.length < Reply.room

theorem entryAt_isOk {names : List String} {sign place : Int} (h : IsPlaceIn names sign place)
    (hsign : place ≠ sign) : ∃ name, Screen.entryAt names place = .ok name := by
  obtain ⟨hnonneg, hlt⟩ := h.resolve_left hsign
  have hplace : place.toNat < names.length := by omega
  refine ⟨names[place.toNat], ?_⟩
  unfold Screen.entryAt
  rw [if_pos hnonneg, List.getElem?_eq_getElem hplace]

namespace Session

variable {s : Session}

theorem Placed.header_isOk (h : s.Placed) : ∃ header, Screen.header s = .ok header := by
  have hteam : ∃ team, Screen.teamLabel s = .ok team := by
    unfold Screen.teamLabel
    split
    · exact ⟨_, rfl⟩
    · next hne => exact entryAt_isOk h.team hne
  have hstatus : ∃ status, Screen.statusLabel s = .ok status := by
    unfold Screen.statusLabel
    split
    · exact ⟨_, rfl⟩
    · next hne => exact entryAt_isOk h.status hne
  obtain ⟨team, hteam⟩ := hteam
  obtain ⟨status, hstatus⟩ := hstatus
  unfold Screen.header
  rw [hteam, hstatus]
  exact ⟨_, rfl⟩

/-- A session that has no team, no status, and no names to choose them by. -/
structure IsNew (s : Session) : Prop where
  team : s.team = noTeam
  status : s.status = noStatus
  teamNames : s.teamNames = []
  statusNames : s.statusNames = []

theorem IsNew.placed (h : s.IsNew) : s.Placed := by
  have hroom : ([] : List String).length < Reply.room := by decide
  refine ⟨Or.inl h.team, Or.inl h.status, ?_, ?_⟩
  · rw [h.teamNames]
    exact hroom
  · rw [h.statusNames]
    exact hroom

/-- Names are taken on from a reply, which has room for few. -/
theorem IsNew.placed_fetchDescription (h : s.IsNew) (net : Net) :
    (s.fetchDescription net).session.Placed := by
  have hs := h.placed
  cases s.fetchDescription_describes net with
  | nothing _ _ hsession =>
    rw [hsession]
    exact hs
  | half _ hnames _ _ hsession =>
    rw [hsession]
    exact ⟨Or.inl h.team, Or.inl h.status, Reply.length_lt_of_teamNames hnames, hs.statusesFew⟩
  | whole _ _ hnames hstatusNames _ _ hsession =>
    rw [hsession]
    exact ⟨Or.inl h.team, Or.inl h.status, Reply.length_lt_of_teamNames hnames,
      Reply.length_lt_of_statusNames hstatusNames⟩

theorem IsNew.register (h : s.IsNew) (name : String) (net : Net) :
    ((Action.register name).run s net).session.IsNew := by
  have hregisters : (Action.register name).registers = some name := rfl
  cases Action.run_of_registers hregisters s net with
  | failed _ _ hsession => rwa [hsession]
  | told _ _ _ hsession =>
    rw [hsession]
    exact ⟨h.team, h.status, h.teamNames, h.statusNames⟩

end Session

theorem Question.Allows.session_cases {s : Session} {q : Question} {action : Action}
    (h : q.Allows s action) (net : Net) :
    (action.run s net).session = s ∨ ∃ team status, action.pushes s = some (team, status) ∧
      (action.run s net).session = { s with team, status } := by
  have hpush : ∀ team status giveUp, (s.push team status giveUp net).session = s ∨
      (s.push team status giveUp net).session = { s with team, status } := by
    intro team status giveUp
    rcases s.push_session team status giveUp net with ⟨-, hsession⟩ | ⟨f, -, hsession⟩
    · exact Or.inr hsession
    · exact Or.inl hsession
  cases h with
  | showTeam _ => exact Or.inl (s.teamStatus_session none net)
  | quit => exact (hpush _ _ _).imp_right fun hsession => ⟨_, _, rfl, hsession⟩
  | setStatus _ => exact (hpush _ _ _).imp_right fun hsession => ⟨_, _, rfl, hsession⟩
  | setTeam _ => exact (hpush _ _ _).imp_right fun hsession => ⟨_, _, rfl, hsession⟩

theorem Question.Allows.placed {s : Session} {q : Question} {action : Action}
    (h : q.Allows s action) (hs : s.Placed) (net : Net) : (action.run s net).session.Placed := by
  rcases h.session_cases net with hsession | ⟨team, status, hpushes, hsession⟩
  · rwa [hsession]
  · rw [hsession]
    cases h with
    | showTeam _ => cases hpushes
    | quit =>
      cases hpushes
      exact ⟨Or.inl rfl, Or.inl rfl, hs.teamsFew, hs.statusesFew⟩
    | setStatus hi =>
      cases hpushes
      exact ⟨hs.team, Or.inr ⟨Int.natCast_nonneg _, Int.ofNat_lt.mpr hi⟩, hs.teamsFew,
        hs.statusesFew⟩
    | setTeam hi =>
      cases hpushes
      exact ⟨Or.inr ⟨Int.natCast_nonneg _, Int.ofNat_lt.mpr hi⟩, hs.status, hs.teamsFew,
        hs.statusesFew⟩

/-! ### What an answer asks for -/

/-- What is said by a packet that the program sends when a line answers a question. An answer that
chooses is a place in the list that it was asked about, which is not the sign for none. -/
inductive Question.Sends (s : Session) (packet : Bytes) : Question → Prop
  | shows {r : Request} (hparse : Request.parse packet = .ok r)
      (hkind : r.kind? = some .teamStatus) (hteam : (r.team.toNat : Int) = s.team) :
      Sends s packet .option
  | leaves {r : Request} (hparse : Request.parse packet = .ok r)
      (hkind : r.kind? = some .updateStatus) (hteam : (r.team.toNat : Int) = noTeam)
      (hstatus : (r.status.toNat : Int) = noStatus) : Sends s packet .option
  | chooses {r : Request} (hparse : Request.parse packet = .ok r)
      (hkind : r.kind? = some .updateStatus) (hteam : (r.team.toNat : Int) = s.team)
      (hplace : r.status.toNat < s.statusNames.length) (hsign : (r.status.toNat : Int) ≠ noStatus) :
      Sends s packet .status
  | moves {r : Request} (hparse : Request.parse packet = .ok r)
      (hkind : r.kind? = some .updateStatus) (hplace : r.team.toNat < s.teamNames.length)
      (hsign : (r.team.toNat : Int) ≠ noTeam) (hstatus : (r.status.toNat : Int) = s.status) :
      Sends s packet .team

theorem ne_sign_of_lt {place count : Nat} {sign : Int} (hsign : sign = 0xff)
    (hplace : place < count) (hcount : count < Reply.room) : (place : Int) ≠ sign := by
  have hroom : Reply.room = 63 := rfl
  omega

theorem Question.Allows.sends {s : Session} {q : Question} {action : Action}
    (h : q.Allows s action) (hs : s.Placed) {net : Net} {packet : Bytes}
    (hsent : packet ∈ (action.run s net).sent) : q.Sends s packet := by
  obtain ⟨a, hask, hpacket⟩ := Action.packet_of_sent hsent
  cases h with
  | showTeam _ =>
    cases hask
    obtain ⟨r, hparse, hkind, -, hteam, -, -⟩ := Session.parse_packet .teamStatus hpacket rfl
    exact .shows hparse hkind hteam
  | quit =>
    cases hask
    obtain ⟨r, hparse, hkind, -, hteam, hstatus, -⟩ := Session.parse_packet .updateStatus hpacket rfl
    exact .leaves hparse hkind hteam hstatus
  | @setStatus i hi =>
    cases hask
    obtain ⟨r, hparse, hkind, -, hteam, hstatus, -⟩ := Session.parse_packet .updateStatus hpacket rfl
    have hplace : r.status.toNat = i := Int.ofNat_inj.mp hstatus
    refine .chooses hparse hkind hteam (hplace ▸ hi) ?_
    rw [hplace]
    exact ne_sign_of_lt rfl hi hs.statusesFew
  | @setTeam i hi =>
    cases hask
    obtain ⟨r, hparse, hkind, -, hteam, hstatus, -⟩ := Session.parse_packet .updateStatus hpacket rfl
    have hplace : r.team.toNat = i := Int.ofNat_inj.mp hteam
    refine .moves hparse hkind (hplace ▸ hi) ?_ hstatus
    rw [hplace]
    exact ne_sign_of_lt rfl hi hs.teamsFew

/-! ### What is told of a place that a list does not have -/

/-- A text begins with another character. -/
def BeginsApart (c : Char) (s : String) : Prop := ∃ d, s.toList.head? = some d ∧ d ≠ c

theorem HeaderFault.beginsApart (why : HeaderFault) : BeginsApart 'l' why.message := by
  cases why <;> unfold message <;> simp [BeginsApart]

theorem Malformed.beginsApart (why : Malformed) : BeginsApart 'l' why.message := by
  cases why <;> unfold message <;> simp [BeginsApart]

theorem beginsApart_gapMessage (gap : Latin1.Gap) : BeginsApart 'l' (gapMessage gap) := by
  unfold gapMessage
  split <;> simp [BeginsApart]

theorem beginsApart_choiceMessage (text : String) (why : Numeral.Refusal) :
    BeginsApart 'l' (choiceMessage text why) := by
  cases why <;> unfold choiceMessage <;> simp [BeginsApart]

theorem Fault.beginsApart {f : Fault} (h : f.IsOfSession false) (hsent : f ≠ .sendLimit) :
    BeginsApart 'l' f.message := by
  cases f with
  | header why => exact why.beginsApart
  | malformed why => exact why.beginsApart
  | unencodable gap => exact beginsApart_gapMessage gap
  | closed => exact ⟨_, rfl, by decide⟩
  | body limit =>
    unfold message
    simp [BeginsApart]
  | unanswered expected attempts =>
    unfold message
    simp [BeginsApart]
  | unexpectedKind actual expected =>
    unfold message
    simp [BeginsApart]
  | sendLimit => exact absurd rfl hsent
  | rejected text => cases h
  | _ => exact h.elim

theorem BeginsApart.ne {c : Char} {s t : String} (h : BeginsApart c s)
    (ht : t.toList.head? = some c) : s ≠ t := by
  rintro rfl
  obtain ⟨d, hd, hne⟩ := h
  exact hne (Option.some.inj (hd.symm.trans ht))

/-- No fault at which the program ends is told in the words for a missing place, if it is the
session's own or about an answer. -/
theorem Fault.message_ne {f : Fault} (h : f.IsOfSession false ∨ ∃ text why, f = .choice text why) :
    f.message ≠ Fault.noSuchEntry.message := by
  rcases h with h | ⟨text, why, rfl⟩
  · by_cases hlimit : f = .sendLimit
    · rw [hlimit]
      decide
    · exact (beginsApart h hlimit).ne rfl
  · exact (beginsApart_choiceMessage text why).ne rfl

theorem Fault.IsOfSession.of_not_isTolerated {f : Fault} {givesUp : Bool}
    (h : f.IsOfSession givesUp) (hends : ¬ f.IsTolerated) : f.IsOfSession false := by
  cases f with
  | rejected text => exact absurd trivial hends
  | _ => exact h

namespace Menu

/-- What the program tells of a place that a list does not have. -/
def missing : Record := record .error ("Unexpected error: " ++ Fault.noSuchEntry.message)

theorem beginsApart_refused (f : Fault) :
    ∀ r ∈ refusedSettingsRecords record f, BeginsApart 'U' r.message := by
  intro r hr
  rcases List.mem_cons.mp hr with rfl | hr
  · simp [BeginsApart, record]
  · rw [List.mem_singleton.mp hr]
    simp [BeginsApart, record]

theorem fail_records (m : Menu) (f : Fault) :
    ∃ told, (m.fail f).records = m.records ++ told ∧ ∀ r ∈ told, r.source = "client.session" ∨
      r.message = "Unexpected error: " ++ f.message ∨ BeginsApart 'U' r.message := by
  have hclose : ∀ r ∈ Session.closeRecords, r.source = "client.session" := by
    intro r hr
    rw [List.mem_singleton.mp hr]
    rfl
  have htell : ∀ told : List Record, (∀ r ∈ told, r.message = "Unexpected error: " ++ f.message ∨
      BeginsApart 'U' r.message) → ∃ all, (m.close.tell told).records = m.records ++ all ∧
        ∀ r ∈ all, r.source = "client.session" ∨
          r.message = "Unexpected error: " ++ f.message ∨ BeginsApart 'U' r.message := by
    intro told htold
    refine ⟨Session.closeRecords ++ told, List.append_assoc _ _ _, fun r hr => ?_⟩
    rcases List.mem_append.mp hr with hr | hr
    · exact Or.inl (hclose r hr)
    · exact Or.inr (htold r hr)
  cases f with
  | sendLimit => exact ⟨_, rfl, fun r hr => Or.inl (hclose r hr)⟩
  | unanswered expected made =>
    apply htell
    intro r hr
    rw [List.mem_singleton.mp hr]
    exact Or.inr (by simp [BeginsApart, record])
  | settings why =>
    apply htell
    intro r hr
    exact Or.inr (beginsApart_refused _ r hr)
  | _ =>
    apply htell
    intro r hr
    rw [List.mem_singleton.mp hr]
    exact Or.inl rfl

theorem missing_not_mem_fail {m : Menu} {f : Fault} (h : missing ∉ m.records)
    (hf : f.message ≠ Fault.noSuchEntry.message) : missing ∉ (m.fail f).records := by
  obtain ⟨told, hrecords, htold⟩ := m.fail_records f
  rw [hrecords, List.mem_append]
  rintro (hmem | hmem)
  · exact h hmem
  · rcases htold _ hmem with hsource | hmessage | hapart
    · exact absurd hsource (by decide)
    · exact hf (String.append_right_inj _ |>.mp hmessage).symm
    · exact hapart.ne rfl rfl

/-! ### The course of the program -/

/-- The session of a menu is in place, and no place was missed. Where an option is asked for, the
header was shown. -/
structure InPlace (m : Menu) : Prop where
  placed : m.session.Placed
  found : missing ∉ m.records
  shown : m.stage = .asking .option → ∃ before header, Screen.header m.session = .ok header ∧
    m.shown = before ++ header ++ Screen.menu

variable {m m' : Menu}

theorem inPlace_offer (hplaced : m.session.Placed) (hfound : missing ∉ m.records) :
    m.offer.InPlace := by
  obtain ⟨header, hheader⟩ := hplaced.header_isOk
  rw [offer_of_header hheader]
  exact ⟨hplaced, hfound, fun _ => ⟨m.shown, header, hheader, rfl⟩⟩

theorem inPlace_fail {f : Fault} (hplaced : m.session.Placed) (hfound : missing ∉ m.records)
    (hf : f.IsOfSession false ∨ ∃ text why, f = .choice text why) : (m.fail f).InPlace := by
  refine ⟨by rwa [fail_session], missing_not_mem_fail hfound (Fault.message_ne hf), ?_⟩
  obtain ⟨e, hstage, -⟩ := m.fail_stage f
  rw [hstage]
  exact nofun

theorem Acts.found {action : Action} {result : Except Fault Answer} (h : m.Acts action result m')
    (hfound : missing ∉ m.records) : missing ∉ m'.records := by
  obtain ⟨told, hrecords, hsource⟩ := h.records
  rw [hrecords, List.mem_append]
  rintro (hmem | hmem)
  · exact hfound hmem
  · exact absurd (hsource _ hmem) (by decide)

theorem Acts.isOfSession {q : Question} {action : Action} {f : Fault}
    (h : m.Acts action (.error f) m') (hallows : q.Allows m.session action)
    (hbreaks : q = .team → ¬ f.IsTolerated) : f.IsOfSession false := by
  have hfault := Action.isOfSession_of_error h.result
  cases hallows with
  | showTeam _ | quit | setStatus _ => exact hfault
  | setTeam _ => exact hfault.of_not_isTolerated (hbreaks rfl)

theorem Turn.inPlace {q : Question} (h : m.Turn q m') (hplaced : m.session.Placed)
    (hfound : missing ∉ m.records) : m'.InPlace := by
  have hact : ∀ {action : Action} {result : Except Fault Answer} {acted : Menu} (spoken : Menu),
      q.Allows m.session action → spoken.session = m.session → spoken.records = m.records →
        spoken.Acts action result acted → acted.session.Placed ∧ missing ∉ acted.records := by
    intro action result acted spoken hallows hsession hrecords hacts
    rw [hacts.session]
    rw [← hsession] at hallows hplaced
    rw [← hrecords] at hfound
    exact ⟨hallows.placed hplaced _, hacts.found hfound⟩
  cases h with
  | asks text hnext =>
    refine ⟨hplaced, hfound, ?_⟩
    intro hasking
    exact absurd (Stage.asking.inj hasking) hnext
  | offers text => exact inPlace_offer hplaced hfound
  | misreads text why => exact inPlace_fail hplaced hfound (Or.inr ⟨text, why, rfl⟩)
  | goesOn text hallows hstays hacts =>
    obtain ⟨hplaced', hfound'⟩ := hact m hallows rfl rfl hacts
    exact inPlace_offer hplaced' hfound'
  | stays text hallows hacts htolerated =>
    obtain ⟨hplaced', hfound'⟩ := hact m hallows rfl rfl hacts
    exact inPlace_offer hplaced' hfound'
  | breaks text hallows hacts hbreaks =>
    obtain ⟨hplaced', hfound'⟩ := hact (m.print text) hallows rfl rfl hacts
    exact inPlace_fail hplaced' hfound' (Or.inl (Acts.isOfSession hacts hallows hbreaks))
  | @leaves _ acted text hacts =>
    obtain ⟨hplaced', hfound'⟩ := hact (m.print text) .quit rfl rfl hacts
    refine ⟨hplaced', ?_, nofun⟩
    show missing ∉ acted.records ++ Session.closeRecords
    rw [List.mem_append]
    rintro (hmem | hmem)
    · exact hfound' hmem
    · exact absurd (List.mem_singleton.mp hmem) (by decide)

theorem inPlace_describe (hnew : m.session.IsNew) (hfound : missing ∉ m.records) :
    m.describe.InPlace := by
  obtain ⟨acted, ⟨answer, text, hacts, hdescribe⟩ | ⟨f, hacts, hdescribe⟩⟩ := m.describe_cases
  · rw [hdescribe]
    apply inPlace_offer
    · show acted.session.Placed
      rw [hacts.session]
      exact hnew.placed_fetchDescription _
    · show missing ∉ acted.records ++ [record .info text]
      rw [List.mem_append]
      rintro (hmem | hmem)
      · exact hacts.found hfound hmem
      · cases congrArg Record.severity (List.mem_singleton.mp hmem)
  · rw [hdescribe]
    apply inPlace_fail
    · rw [hacts.session]
      exact hnew.placed_fetchDescription _
    · exact hacts.found hfound
    · exact Or.inl (Action.isOfSession_of_error hacts.result)

theorem inPlace_register (hnew : m.session.IsNew) (hfound : missing ∉ m.records) (name : String) :
    (m.register name).InPlace := by
  obtain ⟨acted, ⟨id, hacts, hregister⟩ | ⟨f, hacts, hregister⟩⟩ := m.register_cases name
  · rw [hregister]
    apply inPlace_describe
    · rw [hacts.session]
      exact hnew.register name _
    · exact hacts.found hfound
  · rw [hregister]
    apply inPlace_fail
    · rw [hacts.session]
      exact (hnew.register name _).placed
    · exact hacts.found hfound
    · exact Or.inl (Action.isOfSession_of_error hacts.result)

theorem inPlace_start (env : Environment) (net : Net) : (start env net).InPlace := by
  rcases start_cases env net with ⟨c, -, hstart⟩ | ⟨f, -, hstart⟩
  · have hfound : missing ∉ (opened c net).records := by
      simp [opened, missing, record, Session.openRecords, sessionRecord]
    rw [hstart, connect_eq]
    split
    · exact inPlace_describe ⟨rfl, rfl, rfl, rfl⟩ hfound
    · exact inPlace_register ⟨rfl, rfl, rfl, rfl⟩ hfound _
  · rw [hstart]
    refine ⟨Session.IsNew.placed ⟨rfl, rfl, rfl, rfl⟩, ?_, nofun⟩
    intro hmem
    exact (beginsApart_refused f _ hmem).ne rfl rfl

theorem Turn.sends {q : Question} (h : m.Turn q m') (hplaced : m.session.Placed) :
    ∃ packets, m'.sent = m.sent ++ packets ∧ ∀ packet ∈ packets, q.Sends m.session packet := by
  have hnone : m.sent = m.sent ++ [] ∧ ∀ packet ∈ ([] : List Bytes), q.Sends m.session packet :=
    ⟨(List.append_nil _).symm, by simp⟩
  cases h with
  | asks text hnext => exact ⟨[], hnone⟩
  | offers text => exact ⟨[], by rw [offer_sent]; exact hnone⟩
  | misreads text why => exact ⟨[], by rw [fail_sent]; exact hnone⟩
  | goesOn text hallows hstays hacts =>
    rw [offer_sent]
    exact ⟨_, hacts.sent, fun _ => hallows.sends hplaced⟩
  | stays text hallows hacts htolerated =>
    rw [offer_sent]
    exact ⟨_, hacts.sent, fun _ => hallows.sends hplaced⟩
  | breaks text hallows hacts hbreaks =>
    rw [fail_sent]
    exact ⟨_, hacts.sent, fun _ => hallows.sends hplaced⟩
  | leaves text hacts => exact ⟨_, hacts.sent, fun _ => Question.Allows.quit.sends hplaced⟩

/-- **Whatever is typed and whatever arrives, the session is in place.** The team and the status that
it holds have a place in its lists or are the sign for none, and the lists are too short for the sign
to be a place. The header that is shown names what is at these places, no place is ever missed, and
what is sent for an answer names a place in the list that the question was about. -/
theorem inPlace_after (env : Environment) (net : Net) (lines : List (String × Nat)) :
    ((start env net).after lines).InPlace ∧
      ∀ q, ((start env net).after lines).stage = .asking q → ∀ (line : String) (budget : Nat),
        ∃ packets, ((start env net).after (lines ++ [(line, budget)])).sent =
            ((start env net).after lines).sent ++ packets ∧
          ∀ packet ∈ packets, q.Sends ((start env net).after lines).session packet := by
  have hplace : ((start env net).after lines).InPlace := by
    apply after_induction lines _ (inPlace_start env net)
    intro m m' q budget _ hm hturn
    exact hturn.inPlace hm.placed hm.found
  refine ⟨hplace, ?_⟩
  intro q hasking line budget
  rw [after_concat]
  exact (feedWithin_turn _ hasking budget line).sends hplace.placed

end Menu

end TeamPresence
