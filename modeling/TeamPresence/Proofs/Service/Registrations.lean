import TeamPresence.Proofs.Service.Grants

/-!
# Registrations by their history

**`registers_by_history`**: a service that knows repeated registrations answers one with a network
ID that is granted already exactly if the sender's last grant was for the same name, and fewer
others have been granted one since than the memo has room for. Any other registration creates a user
or is refused.
-/

namespace TeamPresence.Service

variable {s : Service} {teams statuses : List String} {size limit memory : Int}

/-- The service acknowledges a registration with this network ID. -/
def Assigns (s : Service) (data : Bytes) (sender : Option Address) (id : Nat) : Prop :=
  ∃ reply, (s.handle data sender).1 = .ok reply ∧ reply.networkId = .ok id

/-- The service answers a registration with a network ID that is granted already, and registers
nobody. -/
def Reissues (s : Service) (data : Bytes) (sender : Option Address) (id : Nat) : Prop :=
  s.Assigns data sender id ∧ id < s.directory.users.size ∧
    (s.handle data sender).2.directory = s.directory

/-- The service registers a new user, under the next network ID. -/
def Creates (s : Service) (data : Bytes) (sender : Option Address) (name : String) : Prop :=
  s.Assigns data sender s.directory.users.size ∧
    (s.handle data sender).2.directory.users =
      s.directory.users.push { networkId := s.directory.users.size, name }

def Refuses (s : Service) (data : Bytes) (sender : Option Address) : Prop :=
  (∃ reply, (s.handle data sender).1 = .ok reply ∧ reply.code = ReplyKind.error.code) ∧
    (s.handle data sender).2 = s

namespace Sound

variable (hs : s.Sound) (hmemory : 0 ≤ s.memory)
  (hids : s.directory.users.size < 10 ^ maxReplyBody) {data : Bytes} {r : Request}
  (hparse : Request.parse data = .ok r) (hkind : r.kind? = some .register)
  (sender : Option Address)

include hs hmemory hids hparse hkind

theorem creates_or_refuses (hr : s.repeated? sender r.text = none) :
    s.Creates data sender r.text ∨ s.Refuses data sender := by
  have hcases := hs.registering hmemory hids r.text sender
  rw [Creates, Refuses, Assigns, handle_registration hparse hkind]
  generalize s.register r.text sender = out at hcases
  cases hcases with
  | repeated hr' => exact absurd (hr.symm.trans hr') (by simp)
  | @refused f _ h =>
    exact Or.inr ⟨⟨Reply.refusal f.message, if_pos (isRefusal_of_register h), rfl⟩, rfl⟩
  | @created directory user reply _ h hreply =>
    refine Or.inl ⟨⟨reply, rfl, (networkId_of_acknowledge hreply).2⟩, ?_⟩
    rw [remember_directory]
    obtain ⟨-, -, rfl, rfl⟩ := Directory.register_eq_ok_iff.mp h
    rfl

theorem reissues_iff {id : Nat} :
    s.Reissues data sender id ↔ ∃ e, s.repeated? sender r.text = some e ∧ e.networkId = id := by
  have hcases := hs.registering hmemory hids r.text sender
  rw [Reissues, Assigns, handle_registration hparse hkind]
  generalize s.register r.text sender = out at hcases
  cases hcases with
  | @repeated e reply hr hreply =>
    simp only [hr, Option.some.injEq, exists_eq_left', remember_directory, and_true]
    obtain ⟨u, hu, -⟩ := hs.remembered (mem_of_repeated? hr).1
    have hid := (networkId_of_acknowledge hreply).2
    constructor
    · rintro ⟨⟨_, ⟨⟩, hread⟩, -⟩
      exact Int.ofNat_inj.mp (Except.ok.inj (hid.symm.trans hread))
    · rintro rfl
      exact ⟨⟨reply, rfl, hid⟩, (Array.getElem?_eq_some_iff.mp hu).1⟩
  | @refused f hr h =>
    simp only [hr, reduceCtorEq, false_and, exists_false, iff_false]
    rintro ⟨⟨reply, hreply, hread⟩, -⟩
    rw [networkId_of_code_ne (code_ne_of_replyTo_error hreply)] at hread
    cases hread
  | @created directory user reply hr h hreply =>
    simp only [hr, reduceCtorEq, false_and, exists_false, iff_false]
    rintro ⟨⟨_, ⟨⟩, hread⟩, hlt, -⟩
    rw [(networkId_of_acknowledge hreply).2] at hread
    exact hlt.ne (Int.ofNat_inj.mp (Except.ok.inj hread)).symm

end Sound

namespace Assigns

variable {data : Bytes} {sender : Option Address} {id id' : Nat}

theorem unique (h : s.Assigns data sender id) (h' : s.Assigns data sender id') : id = id' := by
  obtain ⟨reply, hreply, hid⟩ := h
  obtain ⟨reply', hreply', hid'⟩ := h'
  obtain rfl := Except.ok.inj (hreply.symm.trans hreply')
  exact Int.ofNat_inj.mp (Except.ok.inj (hid.symm.trans hid'))

theorem isRegistration (hs : s.Sound) (h : s.Assigns data sender id) : IsRegistration data := by
  by_contra hregistration
  obtain ⟨reply, hreply, hid⟩ := h
  have hcode := (hs.handle_of_not_registration hregistration sender).2 reply hreply
  rw [networkId_of_code_ne hcode] at hid
  cases hid

end Assigns

theorem grant?_eq_some_iff {d : Datagram} {g : Grant} :
    grant? d (s.handle d.data d.sender).1 = some g ↔
      ∃ r, Request.parse d.data = .ok r ∧ g.sender = d.sender ∧ g.name = r.text ∧
        s.Assigns d.data d.sender g.networkId := by
  have hassigns : ∀ id : Nat, s.Assigns d.data d.sender id ↔
      ((s.handle d.data d.sender).1 >>= Reply.networkId) = .ok (id : Int) :=
    fun id => bind_eq_ok_iff.symm
  obtain ⟨sender, name, id⟩ := g
  simp only [grant?, hassigns]
  cases hparse : Request.parse d.data with
  | error f => simp
  | ok r =>
    cases (s.handle d.data d.sender).1 >>= Reply.networkId with
    | error f => simp
    | ok n =>
      cases n with
      | ofNat k =>
        constructor
        · rintro ⟨⟩
          exact ⟨r, rfl, rfl, rfl, rfl⟩
        · rintro ⟨_, ⟨⟩, rfl, rfl, hid⟩
          obtain rfl := Int.ofNat_inj.mp (Except.ok.inj hid)
          rfl
      | negSucc k => simp

/-! ### Repeated registrations -/

section Repeated

variable (h : host teams statuses size limit true memory = .ok s) (hmemory : 0 ≤ memory)

include h hmemory

theorem reissues_after_iff {l : List Datagram}
    (hids : (s.after l).directory.users.size < 10 ^ maxReplyBody) {data : Bytes} {r : Request}
    (hparse : Request.parse data = .ok r) (hkind : r.kind? = some .register)
    (sender : Option Address) (id : Nat) :
    (s.after l).Reissues data sender id ↔
      ∃ a, sender = some a ∧
        Memo.Recalls memory (registrations (s.grants l)) ⟨a, r.text, id⟩ := by
  have hreach := (Reachable.hosted h).after l
  have hremembers := Reachable.remembers h hmemory l hids
  rw [hreach.sound.reissues_iff (hreach.fixed.2 ▸ hmemory) hids hparse hkind]
  simp only [repeated?_eq_some_iff hreach.fixed.1, hremembers.find?_iff,
    (Reachable.hosted h).fixed.2]
  constructor
  · rintro ⟨e, ⟨hsender, hname, -, hrecalls⟩, rfl⟩
    exact ⟨e.sender, hsender, hname ▸ hrecalls⟩
  · rintro ⟨a, hsender, hrecalls⟩
    exact ⟨⟨a, r.text, id⟩, ⟨hsender, rfl, trivial, hrecalls⟩, rfl⟩

omit h hmemory in
theorem registrations_grants_singleton (s : Service) (d : Datagram) :
    registrations (s.grants [d]) =
      ((grant? d (s.handle d.data d.sender).1).bind Grant.registration?).toList := by
  rw [grants_singleton]
  cases grant? d (s.handle d.data d.sender).1 with
  | none => rfl
  | some g => exact registrations_singleton g

theorem grant_again {l : List Datagram} {e e' : Registration} {d : Datagram}
    (hids : (s.after l).directory.users.size < 10 ^ maxReplyBody)
    (hrecalls : Memo.Recalls memory (registrations (s.grants l)) e)
    (hname : ∀ {q : Request}, Request.parse d.data = .ok q → q.kind? = some .register →
      q.text = e.name)
    (hgrant : grant? d ((s.after l).handle d.data d.sender).1 = some e'.grant)
    (hsender : e'.sender = e.sender) : e' = e := by
  obtain ⟨q, hparse, hfrom, hq, hassigns⟩ := grant?_eq_some_iff.mp hgrant
  obtain ⟨q', hparse', hkind⟩ := hassigns.isRegistration ((Reachable.hosted h).after l).sound
  obtain rfl := Except.ok.inj (hparse.symm.trans hparse')
  have hsame : e'.name = e.name := hq.trans (hname hparse hkind)
  have hreissues := (reissues_after_iff h hmemory hids hparse hkind d.sender e.networkId).mpr
    ⟨e.sender, hfrom.symm.trans (congrArg some hsender), hname hparse hkind ▸ hrecalls⟩
  have hid : e'.networkId = e.networkId := hassigns.unique hreissues.1
  cases e
  cases e'
  simp_all

/-- A sender's last registration stays its last, as long as it repeats that and no other, and
fewer others than there is room for register in between. -/
theorem last_of_granted {l m : List Datagram} {e : Registration} {before : List Registration}
    (hids : (s.after (l ++ m)).directory.users.size < 10 ^ maxReplyBody)
    (hgranted : registrations (s.grants l) = before ++ [e])
    (hroom : (Memo.others e.sender (registrations ((s.after l).grants m))).card < memory)
    (hname : ∀ d ∈ m, d.sender = some e.sender → ∀ {q : Request}, Request.parse d.data = .ok q →
      q.kind? = some .register → q.text = e.name) :
    Memo.Last (Memo.others e.sender (registrations ((s.after l).grants m)))
      (registrations (s.grants (l ++ m))) e := by
  induction m using List.reverseRecOn with
  | nil =>
    rw [List.append_nil, hgranted]
    exact Memo.Last.concat_self _ _ _
  | append_singleton m d ih =>
    have hsound := ((Reachable.hosted h).after (l ++ m)).sound
    rw [← List.append_assoc, after_append, after_singleton] at hids
    have hids := ((handle_effect _ d.data d.sender).size_le hsound).trans_lt hids
    rw [grants_append, registrations_append, ← after_append,
      registrations_grants_singleton] at hroom ⊢
    rw [← List.append_assoc, grants_append, registrations_append, registrations_grants_singleton]
    have hcard := (Int.ofNat_le.mpr (Finset.card_le_card
      (Memo.others_subset_append e.sender _ _))).trans_lt hroom
    have hlast := ih hids hcard fun c hc => hname c (List.mem_append_left _ hc)
    refine hlast.append fun e' he' hsender => ?_
    obtain ⟨g, hg, hregistration⟩ := Option.bind_eq_some_iff.mp he'
    obtain rfl := Grant.registration?_eq_some_iff.mp hregistration
    obtain ⟨-, -, hfrom, -⟩ := grant?_eq_some_iff.mp hg
    exact grant_again h hmemory hids (hlast.recalls hcard)
      (hname d (by simp) (hfrom.symm.trans (congrArg some hsender))) hg hsender

theorem reissues_of_granted {l m : List Datagram} {e : Registration} {before : List Registration}
    (hids : (s.after (l ++ m)).directory.users.size < 10 ^ maxReplyBody)
    (hgranted : registrations (s.grants l) = before ++ [e])
    (hroom : (Memo.others e.sender (registrations ((s.after l).grants m))).card < memory)
    (hname : ∀ d ∈ m, d.sender = some e.sender → ∀ {q : Request}, Request.parse d.data = .ok q →
      q.kind? = some .register → q.text = e.name) {data : Bytes} {r : Request}
    (hparse : Request.parse data = .ok r) (hkind : r.kind? = some .register)
    (htext : r.text = e.name) :
    (s.after (l ++ m)).Reissues data (some e.sender) e.networkId :=
  (reissues_after_iff h hmemory hids hparse hkind _ _).mpr
    ⟨e.sender, rfl, htext ▸
      (last_of_granted h hmemory hids hgranted hroom hname).recalls hroom⟩

end Repeated

/-- What registrations get after a history, as the history tells it. -/
structure RegistersByHistory (s : Service) (l : List Datagram) : Prop where
  reissues_iff : ∀ {data : Bytes} {r : Request}, Request.parse data = .ok r →
    r.kind? = some .register → ∀ (sender : Option Address) (id : Nat),
      (s.after l).Reissues data sender id ↔
        ∃ a, sender = some a ∧ Memo.Recalls s.memory (registrations (s.grants l)) ⟨a, r.text, id⟩
  /-- What is no repetition creates a user or is refused. -/
  otherwise : ∀ {data : Bytes} {r : Request}, Request.parse data = .ok r →
    r.kind? = some .register → ∀ sender : Option Address,
      (∀ id : Nat, ¬ (s.after l).Reissues data sender id) →
        (s.after l).Creates data sender r.text ∨ (s.after l).Refuses data sender
  bounded : (s.after l).memo.entries.length ≤ s.memory
  oneEach : ((s.after l).memo.entries.map Registration.sender).Nodup
  named : ∀ e ∈ (s.after l).memo.entries,
    ∃ u, (s.after l).directory.users[e.networkId]? = some u ∧ u.name = e.name
  /-- Each acknowledgement of a registration is among the grants. -/
  acknowledged : ∀ x ∈ s.dialogue l, ∀ reply, x.2 = .ok reply →
    reply.code = ReplyKind.registered.code →
      ∃ g ∈ grant? x.1 x.2, reply.networkId = .ok g.networkId
  /-- A network ID is granted again only to the same sender for the same name. -/
  unique : (s.grants l).Pairwise fun g g' => g.networkId = g'.networkId → g.Agrees g'

/-- **A service that knows repeated registrations treats them by their history.** The bound on the
number of users is the one on network IDs that a reply has room for, which have more than a thousand
digits. -/
theorem registers_by_history (h : host teams statuses size limit true memory = .ok s)
    (hmemory : 0 ≤ memory) (l : List Datagram)
    (hids : (s.after l).directory.users.size < 10 ^ maxReplyBody) : s.RegistersByHistory l := by
  have hremembers := Reachable.remembers h hmemory l hids
  have hreach := (Reachable.hosted h).after l
  have hs := hreach.sound
  have hroom : 0 ≤ (s.after l).memory := hreach.fixed.2 ▸ hmemory
  have hsize : s.memory = memory := (Reachable.hosted h).fixed.2
  constructor
  case reissues_iff =>
    intro data r hparse hkind sender id
    rw [hsize]
    exact reissues_after_iff h hmemory hids hparse hkind sender id
  case otherwise =>
    intro data r hparse hkind sender hnone
    refine hs.creates_or_refuses hroom hids hparse hkind sender ?_
    refine Option.eq_none_iff_forall_ne_some.mpr fun e he => hnone e.networkId ?_
    exact (hs.reissues_iff hroom hids hparse hkind sender).mpr ⟨e, he, rfl⟩
  case bounded =>
    rw [hremembers.memo]
    exact Memo.length_bound_le _ (hsize ▸ hmemory)
  case oneEach =>
    rw [hremembers.memo]
    exact (Memo.nodup_latest _).sublist ((List.drop_sublist _ _).map _)
  case named => exact fun e he => hs.remembered he
  case acknowledged => exact hremembers.complete
  case unique => exact hremembers.unique

/-- The last of the two users that register in `crowding` is known when it registers again. -/
theorem registers_by_history_crowding :
    ∃ s, host ["Red", "Blue"] ["Busy"] 1 2 true 1 = .ok s ∧
      (s.after crowding).Reissues [1, 0xff, 0xff, 0xff, 0xff, 0xff, 0x42]
        (some ⟨"127.0.0.1", 5000⟩) 1 := by
  obtain ⟨s, h⟩ : ∃ s, host ["Red", "Blue"] ["Busy"] 1 2 true 1 = .ok s := ⟨_, rfl⟩
  let sender : Address := ⟨"127.0.0.1", 5000⟩
  have hrun : ∀ s ∈ (host ["Red", "Blue"] ["Busy"] 1 2 true 1).toOption, s.memory = 1 ∧
      s.grants crowding = [⟨some sender, "A", 0⟩, ⟨some sender, "B", 1⟩] := by
    decide +kernel
  obtain ⟨hmemory, hgrants⟩ := hrun s (by rw [h]; rfl)
  have hhistory := registers_by_history h (by decide) crowding
    (((Reachable.hosted h).after crowding).size_lt (by decide))
  obtain ⟨r, hparse, hkind, hname⟩ : ∃ r,
      Request.parse [1, 0xff, 0xff, 0xff, 0xff, 0xff, 0x42] = .ok r ∧
        r.kind? = some .register ∧ r.text = "B" := ⟨_, rfl, rfl, by decide⟩
  refine ⟨s, h, (hhistory.reissues_iff hparse hkind _ 1).mpr ⟨sender, rfl, ?_⟩⟩
  rw [hgrants, hname, hmemory]
  exact ⟨[⟨sender, "A", 0⟩], [], rfl, Finset.notMem_empty _, by decide⟩

end TeamPresence.Service
