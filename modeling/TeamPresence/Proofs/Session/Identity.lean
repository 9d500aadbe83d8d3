import TeamPresence.Proofs.Session.Description
import TeamPresence.Proofs.Session.Runs
import TeamPresence.Proofs.Settings.Usability
import TeamPresence.Proofs.Wire.Framing

/-!
# The network ID that a session holds

A session takes on the whole number that an acknowledgement of its registration tells, whichever
that is: the text of the acknowledgement may read as a negative number, as one that no header holds,
or as the sign for no network ID.

**`keepsIdentity_iff`**: a session can make requests throughout a run of calls, and is registered
whenever a registration returned, exactly if each number that it was told is one that a server may
assign. Nothing else that arrives matters, and neither does anything that fails.
-/

namespace TeamPresence

/-! ### What a session can ask -/

/-- A network ID that a server may assign. -/
def IsAssignable (id : Int) : Prop := 0 ≤ id ∧ id < noNetworkId

instance (id : Int) : Decidable (IsAssignable id) := inferInstanceAs (Decidable (_ ∧ _))

namespace Session

/-- What a session puts into the header of its requests fits there. -/
structure Encodable (s : Session) : Prop where
  networkId : 0 ≤ s.networkId ∧ s.networkId ≤ noNetworkId
  team : FitsByte s.team
  status : FitsByte s.status

/-- Whether a session can make each request of which the arguments can be encoded. -/
def CanAsk (s : Session) : Prop :=
  ∀ a : Ask, FitsByte a.code → (∀ team ∈ a.team, FitsByte team) →
    (∀ status ∈ a.status, FitsByte status) → BodyFits maxRequestBody a.body →
      ∃ packet, s.packet a = .ok packet

theorem packet_isOk_iff {s : Session} {a : Ask} :
    (∃ packet, s.packet a = .ok packet) ↔
      Request.HeaderFits a.code s.networkId (a.team.getD s.team) (a.status.getD s.status) ∧
        BodyFits maxRequestBody a.body := by
  have hmakes := (Request.makes a.code s.networkId (a.team.getD s.team) (a.status.getD s.status)
    a.body).isOk_iff
  rw [← hmakes]
  constructor
  · rintro ⟨packet, hpacket⟩
    obtain ⟨r, hr, -⟩ := bind_eq_ok_iff.mp hpacket
    exact ⟨r, hr⟩
  · rintro ⟨r, hr⟩
    exact ⟨r.serialize, bind_eq_ok_iff.mpr ⟨r, hr, rfl⟩⟩

theorem fits_getD {o : Option Int} {value : Int} (ho : ∀ v ∈ o, FitsByte v)
    (hvalue : FitsByte value) : FitsByte (o.getD value) := by
  cases o with
  | none => exact hvalue
  | some v => exact ho v rfl

theorem canAsk_iff {s : Session} : s.CanAsk ↔ s.Encodable := by
  constructor
  · intro h
    have hcode : FitsByte inquiry.code := fitsByte_toNat RequestKind.description.code
    have hbody : BodyFits maxRequestBody inquiry.body := ⟨by decide, by decide⟩
    obtain ⟨⟨-, hid, hteam, hstatus⟩, -⟩ := packet_isOk_iff.mp
      (h inquiry hcode (fun _ hnone => by cases hnone) (fun _ hnone => by cases hnone) hbody)
    exact ⟨hid, hteam, hstatus⟩
  · intro h a hcode hteam hstatus hbody
    exact packet_isOk_iff.mpr
      ⟨⟨hcode, h.networkId, fits_getD hteam h.team, fits_getD hstatus h.status⟩, hbody⟩

theorem encodable_ofSettings {c : ClientSettings} (h : c.check = .ok ()) :
    (ofSettings c).Encodable := by
  have hid : 0 ≤ c.networkId.getD noNetworkId ∧ c.networkId.getD noNetworkId ≤ noNetworkId := by
    cases hnetworkId : c.networkId with
    | none => exact ⟨Int.natCast_nonneg _, le_rfl⟩
    | some n =>
      obtain ⟨hnonneg, hle⟩ := (ClientSettings.check_eq_ok_iff.mp h).1.networkId n hnetworkId
      exact ⟨hnonneg, hle.trans (by decide)⟩
  have hnone : FitsByte 0xff := fitsByte_toNat 0xff
  exact ⟨hid, hnone, hnone⟩

theorem Encodable.push {s : Session} (hs : s.Encodable) (team status : Int) (giveUp : Bool)
    (net : Net) : (s.push team status giveUp net).session.Encodable := by
  cases s.request_reads (stateUpdate team status giveUp) net
    (fun _ => (.ok (), { s with team, status })) with
  | unanswered _ _ hsession => rwa [Session.push, hsession]
  | answered hpacket _ _ _ _ hsession =>
    obtain ⟨⟨-, -, hteam, hstatus⟩, -⟩ := packet_isOk_iff.mp ⟨_, hpacket⟩
    rw [Session.push, hsession]
    exact ⟨hs.networkId, hteam, hstatus⟩

end Session

/-! ### Registrations -/

/-- The whole number that the text of a reply reads as. -/
def Reply.number? (r : Reply) : Option Int := (Numeral.integer r.text).toOption

/-- What a registration comes to: the session holds the number that it was told, or is as it was. -/
inductive Run.Registers (s : Session) (name : String) (r : Run Answer) : Prop
  | failed {f : Fault} (htold : ∀ reply ∈ r.answer?, reply.number? = none)
      (hresult : r.result = .error f) (hsession : r.session = s)
  | told {reply : Reply} {id : Int} (hanswer : r.answer? = some reply)
      (htold : reply.number? = some id) (hresult : r.result = .ok (.networkId id))
      (hsession : r.session = { s with networkId := id, displayName := some name })

namespace Session

theorem adoptId_cases (s : Session) (name : String) {reply : Reply}
    (hcode : (reply.code.toNat : Int) = ReplyKind.registered.code.toNat) :
    (∃ f, reply.number? = none ∧ s.adoptId name reply = (.error f, s)) ∨
      ∃ id, reply.number? = some id ∧
        s.adoptId name reply = (.ok id, { s with networkId := id, displayName := some name }) := by
  have hkind : reply.code = ReplyKind.registered.code :=
    UInt8.toNat_inj.mp (Int.ofNat_inj.mp hcode)
  rw [adoptId, Reply.networkId, Reply.expect_eq_ok hkind, ok_bind, Reply.number?]
  cases Numeral.integer reply.text with
  | error f => exact Or.inl ⟨_, rfl, rfl⟩
  | ok id => exact Or.inr ⟨id, rfl, rfl⟩

theorem register_registers (s : Session) (name : String) (net : Net) :
    ((s.register name net).map .networkId).Registers s name := by
  rw [register]
  cases Latin1.encode name with
  | error gap =>
    have hnone : ∀ reply ∈ (none : Option Reply), reply.number? = none := by simp
    exact .failed hnone rfl rfl
  | ok body =>
    cases s.request_reads (registration body) net (s.adoptId name) with
    | unanswered hanswer hresult hsession =>
      refine .failed (fun reply hreply => ?_) (congrArg (Except.map _) hresult) hsession
      cases hanswer.symm.trans hreply
    | @answered _ reply _ hanswer _ hcode hresult hsession =>
      rcases s.adoptId_cases name hcode with ⟨f, htold, hadopt⟩ | ⟨id, htold, hadopt⟩
      · rw [hadopt] at hresult hsession
        refine .failed (fun reply' hreply' => ?_) (congrArg (Except.map _) hresult) hsession
        rw [← Option.some.inj (hanswer.symm.trans hreply')]
        exact htold
      · rw [hadopt] at hresult hsession
        exact .told hanswer htold (congrArg (Except.map _) hresult) hsession

end Session

namespace Action

variable {s : Session} {net : Net} {action : Action} {name : String}

theorem run_of_registers (h : action.registers = some name) (s : Session) (net : Net) :
    (action.run s net).Registers s name := by
  cases action <;> cases h
  case register => exact s.register_registers name net
  case registerOnce =>
    -- the endpoint of its own changes nothing but the network
    cases s.register_registers name { net with link := net.link.reopen s.manner.timeout } with
    | failed htold hresult hsession => exact .failed htold hresult hsession
    | told hanswer htold hresult hsession => exact .told hanswer htold hresult hsession

theorem encodable_of_not_registers (h : action.registers = none) (hs : s.Encodable) :
    (action.run s net).session.Encodable := by
  cases action with
  | register name => cases h
  | registerOnce name => cases h
  | openEndpoint | closeEndpoint | takeIn _ => exact hs
  | updateStatus status giveUp => exact hs.push _ _ _ _
  | changeTeam team giveUp => exact hs.push _ _ _ _
  | leave => exact hs.push _ _ _ _
  | fetchDescription =>
    have hkept : (s.fetchDescription net).session.Encodable := by
      cases s.fetchDescription_describes net with
      | nothing _ _ hsession => rwa [hsession]
      | half _ _ _ _ hsession | whole _ _ _ _ _ _ hsession =>
        rw [hsession]
        exact ⟨hs.networkId, hs.team, hs.status⟩
    exact hkept
  | teamStatus team =>
    have hsession : (run s net (teamStatus team)).session = s := s.teamStatus_session team net
    rwa [hsession]
  | request a =>
    have hsession : (run s net (request a)).session = s := s.request_session a net
    rwa [hsession]

end Action

/-! ### Runs of calls -/

/-- An action, and the network that it meets. -/
structure Call where
  action : Action
  net : Net

def Call.run (c : Call) (s : Session) : Run Answer := c.action.run s c.net

/-- The calls of a session one after the other, each with the session that makes it. -/
def Session.course (s : Session) : List Call → List (Session × Call)
  | [] => []
  | c :: rest => (s, c) :: (c.run s).session.course rest

/-- What is expected of the session after a call: it can make requests, and is registered if the
call is a registration that returned. -/
structure Call.KeepsIdentity (c : Call) (s : Session) : Prop where
  networkId : 0 ≤ (c.run s).session.networkId ∧ (c.run s).session.networkId ≤ noNetworkId
  asks : (c.run s).session.CanAsk
  registered : ∀ {name : String} {answer : Answer}, c.action.registers = some name →
    (c.run s).result = .ok answer →
      (c.run s).session.isRegistered = true ∧ IsAssignable (c.run s).session.networkId

/-- Whether the number that a registration is told, if there is one, is assignable. -/
def Call.ToldAssignable (c : Call) (s : Session) : Prop :=
  c.action.registers.isSome = true → ∀ reply ∈ (c.run s).answer?, ∀ id ∈ reply.number?,
    IsAssignable id

instance (c : Call) (s : Session) : Decidable (c.ToldAssignable s) :=
  inferInstanceAs (Decidable (_ → _))

namespace Call

variable {c : Call} {s : Session}

/-- A number that is not assignable is taken on and returned all the same. -/
theorem KeepsIdentity.toldAssignable (h : c.KeepsIdentity s) : c.ToldAssignable s := by
  intro hsome reply hreply id hid
  obtain ⟨name, hregisters⟩ := Option.isSome_iff_exists.mp hsome
  rw [run] at hreply
  cases Action.run_of_registers hregisters s c.net with
  | failed hnone => cases (hnone reply hreply).symm.trans hid
  | @told reply' id' hreply' hid' hresult hsession =>
    obtain rfl := Option.some.inj (hreply'.symm.trans hreply)
    obtain rfl := Option.some.inj (hid'.symm.trans hid)
    have hassignable := (h.registered hregisters hresult).2
    rw [run, hsession] at hassignable
    exact hassignable

theorem ToldAssignable.encodable (h : c.ToldAssignable s) (hs : s.Encodable) :
    (c.run s).session.Encodable := by
  cases hregisters : c.action.registers with
  | none => exact Action.encodable_of_not_registers hregisters hs
  | some name =>
    rw [run]
    cases Action.run_of_registers hregisters s c.net with
    | failed _ _ hsession => rwa [hsession]
    | told hanswer hid _ hsession =>
      obtain ⟨hnonneg, hlt⟩ := h (by rw [hregisters]; rfl) _ hanswer _ hid
      rw [hsession]
      exact ⟨⟨hnonneg, hlt.le⟩, hs.team, hs.status⟩

theorem ToldAssignable.keepsIdentity (h : c.ToldAssignable s) (hs : s.Encodable) :
    c.KeepsIdentity s := by
  have hkept := h.encodable hs
  refine ⟨hkept.networkId, Session.canAsk_iff.mpr hkept, fun {name answer} hregisters hok => ?_⟩
  rw [run] at hok ⊢
  cases Action.run_of_registers hregisters s c.net with
  | failed _ hresult => cases hresult.symm.trans hok
  | told hanswer hid _ hsession =>
    have hassignable := h (by rw [hregisters]; rfl) _ hanswer _ hid
    rw [hsession]
    exact ⟨bne_iff_ne.mpr hassignable.2.ne, hassignable⟩

end Call

namespace Session

/-- **A session keeps its identity throughout a run of calls exactly if every number that it is told
is assignable.** -/
theorem keepsIdentity_iff {s : Session} (hs : s.Encodable) (calls : List Call) :
    (∀ p ∈ s.course calls, p.2.KeepsIdentity p.1) ↔
      ∀ p ∈ s.course calls, p.2.ToldAssignable p.1 := by
  refine ⟨fun h p hp => (h p hp).toldAssignable, fun h => ?_⟩
  induction calls generalizing s with
  | nil => exact fun p hp => absurd hp List.not_mem_nil
  | cons c rest ih =>
    rw [course, List.forall_mem_cons] at h ⊢
    exact ⟨h.1.keepsIdentity hs, ih (h.1.encodable hs) h.2⟩

/-- A session that is told a number with a sign and a blank before it registers under it, and then
changes its team. -/
theorem keepsIdentity_iff_blank :
    ∃ s : Session, s.Encodable ∧ s.isRegistered = false ∧
      (∀ p ∈ s.course [⟨.register "Ann", .bringing [2, 0x20, 0x2b, 0x37]⟩,
        ⟨.changeTeam 1 false, .bringing [5, 0x26]⟩], p.2.KeepsIdentity p.1) ∧
      (s.course [⟨.register "Ann", .bringing [2, 0x20, 0x2b, 0x37]⟩,
        ⟨.changeTeam 1 false, .bringing [5, 0x26]⟩]).map (fun p => (p.2.run p.1).result) =
          [.ok (.networkId 7), .ok .done] := by
  let s := Session.ofSettings { displayName := "Ann" }
  have hs : s.Encodable := encodable_ofSettings (by decide +kernel)
  exact ⟨s, hs, rfl, (keepsIdentity_iff hs _).mpr (by decide +kernel), by decide +kernel⟩

/-- A session that is told a negative number takes it on, and can ask for nothing then. One that is
told the sign for no network ID is not registered, though its registration returned. -/
theorem misread_identity_taken :
    ∃ (s : Session) (negative sign : Call), s.Encodable ∧ s.isRegistered = false ∧
      (negative.run s).result = .ok (.networkId (-1)) ∧
      (negative.run s).session.networkId = -1 ∧ ¬ (negative.run s).session.CanAsk ∧
      (sign.run s).result = .ok (.networkId 16777215) ∧
      (sign.run s).session.isRegistered = false ∧
      ¬ ∀ p ∈ s.course [negative], p.2.KeepsIdentity p.1 := by
  let s := Session.ofSettings { displayName := "Ann" }
  let negative : Call := ⟨.register "Ann", .bringing [2, 0x2d, 0x31]⟩
  let sign : Call :=
    ⟨.register "Ann", .bringing [2, 0x31, 0x36, 0x37, 0x37, 0x37, 0x32, 0x31, 0x35]⟩
  have hs : s.Encodable := encodable_ofSettings (by decide +kernel)
  have hid : (negative.run s).session.networkId = -1 := by decide +kernel
  have hasks : ¬ (negative.run s).session.CanAsk := by
    intro h
    have hnonneg := (canAsk_iff.mp h).networkId.1
    rw [hid] at hnonneg
    exact absurd hnonneg (by decide)
  exact ⟨s, negative, sign, hs, rfl, by decide +kernel, hid, hasks, by decide +kernel,
    by decide +kernel, fun h => hasks (h _ List.mem_cons_self).asks⟩

end Session

end TeamPresence
