import Mathlib.Data.List.Pairwise
import TeamPresence.Proofs.Service.Recency
import TeamPresence.Proofs.Service.Repetition
import TeamPresence.Proofs.Service.Totality

/-!
# Network IDs that are granted

A history and the replies to it tell which network ID was granted to whom, for which name
(`grants`). A datagram that is no registration grants nothing; a registration grants the next
network ID, or the one that the memo has for its sender, and the memo takes down what is granted
(`Sound.grant_handle`). So the memo holds what there is to recall of the grants, and a network ID is
granted again only to the same sender for the same name (`Remembers`).
-/

namespace TeamPresence

/-- The network ID that a sender was granted for a name. -/
structure Grant where
  sender : Option Address
  name : String
  networkId : Nat
deriving DecidableEq

def Registration.grant (r : Registration) : Grant := ⟨some r.sender, r.name, r.networkId⟩

/-- A grant to a sender that is known is a registration that can be repeated. -/
def Grant.registration? (g : Grant) : Option Registration :=
  g.sender.map fun a => ⟨a, g.name, g.networkId⟩

/-- Two grants to one sender for one name. -/
def Grant.Agrees (g g' : Grant) : Prop :=
  ∃ a, g.sender = some a ∧ g'.sender = some a ∧ g.name = g'.name

/-- The registrations among grants. -/
def registrations (gs : List Grant) : List Registration := gs.filterMap Grant.registration?

theorem Grant.registration?_eq_some_iff {g : Grant} {r : Registration} :
    g.registration? = some r ↔ g = r.grant := by
  obtain ⟨sender, name, id⟩ := g
  obtain ⟨a, name', id'⟩ := r
  simp [registration?, Registration.grant]

theorem mem_registrations {gs : List Grant} {r : Registration} :
    r ∈ registrations gs ↔ r.grant ∈ gs := by
  simp only [registrations, List.mem_filterMap, Grant.registration?_eq_some_iff, exists_eq_right]

theorem registrations_append (gs gs' : List Grant) :
    registrations (gs ++ gs') = registrations gs ++ registrations gs' := List.filterMap_append

theorem registrations_singleton (g : Grant) : registrations [g] = g.registration?.toList := by
  rw [registrations, List.filterMap_cons]
  cases g.registration? <;> rfl

theorem Grant.Agrees.symm {g g' : Grant} (h : g.Agrees g') : g'.Agrees g := by
  obtain ⟨a, hg, hg', hname⟩ := h
  exact ⟨a, hg', hg, hname.symm⟩

namespace Service

/-- The grant that the outcome of a datagram tells of, if it is an acknowledgement. -/
def grant? (d : Datagram) (outcome : Except Fault Reply) : Option Grant :=
  match Request.parse d.data, outcome >>= Reply.networkId with
  | .ok r, .ok (.ofNat id) => some ⟨d.sender, r.text, id⟩
  | _, _ => none

theorem sender_of_grant? {d : Datagram} {outcome : Except Fault Reply} {g : Grant}
    (h : grant? d outcome = some g) : g.sender = d.sender := by
  rw [grant?] at h
  split at h
  · cases h
    rfl
  · cases h

/-- Datagrams and what comes of them. -/
def dialogue (s : Service) (l : List Datagram) : List (Datagram × Except Fault Reply) :=
  l.zip (s.replies l)

def grants (s : Service) (l : List Datagram) : List Grant :=
  (s.dialogue l).filterMap fun x => grant? x.1 x.2

/-! ### Longer histories -/

section Append

variable (s : Service) (l m : List Datagram) (d : Datagram)

theorem after_append : s.after (l ++ m) = (s.after l).after m := List.foldl_append

theorem after_singleton : s.after [d] = (s.handle d.data d.sender).2 := rfl

theorem length_replies : (s.replies l).length = l.length := by
  induction l generalizing s with
  | nil => rfl
  | cons d rest ih => rw [replies, List.length_cons, List.length_cons, ih]

theorem replies_append : s.replies (l ++ m) = s.replies l ++ (s.after l).replies m := by
  induction l generalizing s with
  | nil => rfl
  | cons d rest ih => exact congrArg ((s.handle d.data d.sender).1 :: ·) (ih _)

theorem dialogue_append : s.dialogue (l ++ m) = s.dialogue l ++ (s.after l).dialogue m := by
  rw [dialogue, replies_append, List.zip_append (s.length_replies l).symm, dialogue, dialogue]

theorem dialogue_singleton : s.dialogue [d] = [(d, (s.handle d.data d.sender).1)] := rfl

theorem grants_append : s.grants (l ++ m) = s.grants l ++ (s.after l).grants m := by
  rw [grants, dialogue_append, List.filterMap_append, grants, grants]

theorem grants_singleton : s.grants [d] = (grant? d (s.handle d.data d.sender).1).toList := by
  rw [grants, dialogue_singleton, List.filterMap_cons]
  cases grant? d (s.handle d.data d.sender).1 <;> rfl

end Append

/-! ### What one datagram grants -/

variable {s : Service}

theorem remember_some (hdedupe : s.dedupe = true) (a : Address) (name : String) (id : Nat) :
    (s.remember (some a) name id).2 =
      { s with memo := (s.memo.push ⟨a, name, id⟩).bound s.memory } := by
  rw [remember, if_pos hdedupe]
  rfl

theorem grant?_of_acknowledge {d : Datagram} {r : Request} (hparse : Request.parse d.data = .ok r)
    {id : Nat} {reply : Reply} (hreply : acknowledge id = .ok reply) :
    grant? d (.ok reply) = some ⟨d.sender, r.text, id⟩ := by
  rw [grant?, hparse, ok_bind, (networkId_of_acknowledge hreply).2]

theorem networkId_of_code_ne {reply : Reply} (h : reply.code ≠ ReplyKind.registered.code) :
    reply.networkId = .error (.unexpectedKind reply.code ReplyKind.registered.code) := by
  rw [Reply.networkId, Reply.expect, if_neg h]
  rfl

theorem grant?_eq_none {d : Datagram} {outcome : Except Fault Reply}
    (h : ∀ reply, outcome = .ok reply → reply.code ≠ ReplyKind.registered.code) :
    grant? d outcome = none := by
  have hnone : ∃ f, (outcome >>= Reply.networkId) = .error f := by
    cases outcome with
    | error f => exact ⟨f, rfl⟩
    | ok reply => exact ⟨_, networkId_of_code_ne (h reply rfl)⟩
  obtain ⟨f, hf⟩ := hnone
  rw [grant?, hf]
  cases Request.parse d.data <;> rfl

theorem code_ne_of_replyTo_error {f : Fault} {reply : Reply}
    (h : replyTo (.error f) = .ok reply) : reply.code ≠ ReplyKind.registered.code := fun hcode =>
  absurd ((code_of_replyTo_error h).symm.trans hcode) (by decide)

theorem repeated?_eq_some_iff (hdedupe : s.dedupe = true) {sender : Option Address}
    {name : String} {r : Registration} :
    s.repeated? sender name = some r ↔
      sender = some r.sender ∧ r.name = name ∧ s.memo.find? r.sender = some r := by
  rw [repeated?, if_pos hdedupe, Option.filter_eq_some_iff, Option.bind_eq_some_iff, beq_iff_eq]
  constructor
  · rintro ⟨⟨a, ha, hfind⟩, hname⟩
    obtain rfl := Memo.sender_of_find? hfind
    exact ⟨ha, hname, hfind⟩
  · rintro ⟨ha, hname, hfind⟩
    exact ⟨⟨r.sender, ha, hfind⟩, hname⟩

theorem handle_registration {data : Bytes} {r : Request} (hparse : Request.parse data = .ok r)
    (hkind : r.kind? = some .register) (sender : Option Address) :
    s.handle data sender =
      (replyTo (s.register r.text sender).1, (s.register r.text sender).2) := by
  simp only [handle, hparse, answer, hkind]

theorem Sound.handle_of_not_registration (hs : s.Sound) {data : Bytes}
    (h : ¬ IsRegistration data) (sender : Option Address) :
    (s.handle data sender).2.memo = s.memo ∧
      ∀ reply, (s.handle data sender).1 = .ok reply →
        reply.code ≠ ReplyKind.registered.code := by
  rw [handle]
  cases hparse : Request.parse data with
  | error f =>
    refine ⟨rfl, ?_⟩
    rintro _ ⟨⟩
    decide
  | ok r =>
    simp only [answer]
    split
    · next hkind => exact absurd ⟨r, hparse, hkind⟩ h
    · refine ⟨?_, fun reply hreply => ?_⟩
      · rw [updateStatus]
        split
        · rfl
        · split <;> rfl
      · cases houtcome : (s.updateStatus r).1 with
        | error f => exact code_ne_of_replyTo_error (houtcome ▸ hreply)
        | ok taken =>
          rw [houtcome, updated_of_updateStatus houtcome] at hreply
          cases hreply
          decide
    · refine ⟨rfl, fun reply hreply => ?_⟩
      cases houtcome : s.teamStatus r with
      | error f => exact code_ne_of_replyTo_error (houtcome ▸ hreply)
      | ok shown =>
        rw [houtcome] at hreply
        cases hreply
        obtain ⟨-, -, hcode, -⟩ := hs.slots_of_teamStatus houtcome
        rw [hcode]
        decide
    · refine ⟨rfl, ?_⟩
      rintro _ ⟨⟩
      rw [hs.names_of_description.1]
      decide
    · exact ⟨rfl, fun _ => code_ne_of_replyTo_error⟩

/-- What the service has remembered after a grant, or after none. -/
def noted (s : Service) (g : Option Grant) : Memo :=
  match g.bind Grant.registration? with
  | some r => (s.memo.push r).bound s.memory
  | none => s.memo

theorem remember_directory (s : Service) (sender : Option Address) (name : String) (id : Nat) :
    (s.remember sender name id).2.directory = s.directory := by
  obtain ⟨memo, hs, -⟩ := s.remember_eq sender name id
  rw [hs]

theorem memo_remember (hdedupe : s.dedupe = true) (sender : Option Address) (name : String)
    (id : Nat) : (s.remember sender name id).2.memo = s.noted (some ⟨sender, name, id⟩) := by
  cases sender with
  | none => rfl
  | some a => rw [remember_some hdedupe]; rfl

/-- **What a datagram grants is what the service remembers of it**, and it is the next network ID or
the one that is remembered. -/
theorem Sound.grant_handle (hs : s.Sound) (hdedupe : s.dedupe = true) (hmemory : 0 ≤ s.memory)
    (hids : s.directory.users.size < 10 ^ maxReplyBody) (d : Datagram) :
    (s.handle d.data d.sender).2.memo = s.noted (grant? d (s.handle d.data d.sender).1) ∧
    ∀ g ∈ grant? d (s.handle d.data d.sender).1,
      (g.networkId = s.directory.users.size ∧
        s.directory.users.size < (s.handle d.data d.sender).2.directory.users.size) ∨
      ∃ r : Registration, g = r.grant ∧ s.memo.find? r.sender = some r := by
  by_cases hregistration : IsRegistration d.data
  · obtain ⟨r, hparse, hkind⟩ := hregistration
    have hcases := hs.registering hmemory hids r.text d.sender
    rw [handle_registration hparse hkind]
    generalize s.register r.text d.sender = out at hcases
    cases hcases with
    | @repeated e reply hr hreply =>
      simp only [replyTo, grant?_of_acknowledge hparse hreply]
      refine ⟨memo_remember hdedupe _ _ _, ?_⟩
      rintro _ ⟨⟩
      obtain ⟨hsender, hname, hfind⟩ := (repeated?_eq_some_iff hdedupe).mp hr
      exact Or.inr ⟨e, by rw [hsender, ← hname]; rfl, hfind⟩
    | @refused f hr h =>
      rw [grant?_eq_none fun reply hreply => code_ne_of_replyTo_error hreply]
      exact ⟨rfl, by simp⟩
    | @created directory user reply hr h hreply =>
      simp only [replyTo, grant?_of_acknowledge hparse hreply]
      refine ⟨memo_remember (s := { s with directory }) hdedupe _ _ _, ?_⟩
      rintro _ ⟨⟩
      refine Or.inl ⟨rfl, ?_⟩
      rw [remember_directory]
      obtain ⟨-, -, -, rfl⟩ := Directory.register_eq_ok_iff.mp h
      exact (Nat.lt_succ_self _).trans_eq (Array.size_push user).symm
  · obtain ⟨hmemo, hcode⟩ := hs.handle_of_not_registration hregistration d.sender
    rw [hmemo, grant?_eq_none hcode]
    exact ⟨rfl, by simp⟩

/-! ### What a history grants -/

theorem Effect.size_le {s' : Service} (h : Effect s s') (hs : s.Sound) :
    s.directory.users.size ≤ s'.directory.users.size := by
  rcases h.directory with e | hstep
  · rw [e]
  · by_contra hlt
    obtain ⟨u, hu, -⟩ :=
      hstep.named hs.seated (Array.getElem?_eq_getElem (Nat.lt_of_not_le hlt))
    exact absurd (Array.getElem?_eq_some_iff.mp hu).1 (Nat.lt_irrefl _)

theorem Sound.grant?_of_registered (hs : s.Sound) (hmemory : 0 ≤ s.memory)
    (hids : s.directory.users.size < 10 ^ maxReplyBody) {d : Datagram} {reply : Reply}
    (h : (s.handle d.data d.sender).1 = .ok reply)
    (hcode : reply.code = ReplyKind.registered.code) :
    ∃ g ∈ grant? d (.ok reply), reply.networkId = .ok g.networkId := by
  by_cases hregistration : IsRegistration d.data
  · obtain ⟨r, hparse, hkind⟩ := hregistration
    have hcases := hs.registering hmemory hids r.text d.sender
    rw [handle_registration hparse hkind] at h
    generalize s.register r.text d.sender = out at h hcases
    cases hcases with
    | refused => exact absurd hcode (code_ne_of_replyTo_error h)
    | repeated hr hreply | created hr hregister hreply =>
      cases h
      exact ⟨_, grant?_of_acknowledge hparse hreply, (networkId_of_acknowledge hreply).2⟩
  · exact absurd hcode ((hs.handle_of_not_registration hregistration d.sender).2 reply h)

/-- What there is left of a history in the service that has handled it. -/
structure Remembers (s : Service) (l : List Datagram) : Prop where
  memo : (s.after l).memo = Memo.bound ⟨Memo.latest (registrations (s.grants l))⟩ s.memory
  assigned : ∀ g ∈ s.grants l, g.networkId < (s.after l).directory.users.size
  unique : (s.grants l).Pairwise fun g g' => g.networkId = g'.networkId → g.Agrees g'
  complete : ∀ x ∈ s.dialogue l, ∀ reply, x.2 = .ok reply →
    reply.code = ReplyKind.registered.code →
      ∃ g ∈ grant? x.1 x.2, reply.networkId = .ok g.networkId

namespace Remembers

variable {l : List Datagram}

theorem find?_iff (h : s.Remembers l) {a : Address} {r : Registration} :
    (s.after l).memo.find? a = some r ↔
      r.sender = a ∧ Memo.Recalls s.memory (registrations (s.grants l)) r := by
  rw [h.memo]
  exact Memo.find?_bound_latest

theorem grant_mem (h : s.Remembers l) {a : Address} {r : Registration}
    (hfind : (s.after l).memo.find? a = some r) : r.grant ∈ s.grants l :=
  mem_registrations.mp (h.find?_iff.mp hfind).2.mem

theorem agrees (h : s.Remembers l) {r : Registration} (hr : r.grant ∈ s.grants l) {g : Grant}
    (hg : g ∈ s.grants l) (hid : g.networkId = r.networkId) : g.Agrees r.grant := by
  have : Std.Symm fun g g' : Grant => g.networkId = g'.networkId → g.Agrees g' :=
    ⟨fun _ _ h e => (h e.symm).symm⟩
  by_cases hsame : g = r.grant
  · rw [hsame]
    exact ⟨r.sender, rfl, rfl, rfl⟩
  · exact h.unique.forall hg hr hsame hid

theorem concat (h : s.Remembers l) (hs : (s.after l).Sound) (hdedupe : (s.after l).dedupe = true)
    (hmemory : (s.after l).memory = s.memory) (hroom : 0 ≤ s.memory) (d : Datagram)
    (hids : (s.after l).directory.users.size < 10 ^ maxReplyBody) : s.Remembers (l ++ [d]) := by
  have hsize := (handle_effect (s.after l) d.data d.sender).size_le hs
  obtain ⟨hmemo, hid⟩ := hs.grant_handle hdedupe (hmemory ▸ hroom) hids d
  constructor
  case memo =>
    rw [after_append, after_singleton, hmemo, grants_append, grants_singleton,
      registrations_append, noted, hmemory, h.memo]
    cases grant? d ((s.after l).handle d.data d.sender).1 with
    | none => simp [registrations]
    | some g =>
      rw [Option.toList_some, registrations_singleton, Option.bind_some]
      cases g.registration? with
      | none => simp
      | some r =>
        dsimp only
        rw [Memo.bound_push_bound (Memo.nodup_latest _), Memo.push_latest]
        rfl
  case assigned =>
    intro g hg
    rw [grants_append, grants_singleton, List.mem_append, Option.mem_toList] at hg
    rw [after_append, after_singleton]
    rcases hg with hg | hg
    · exact (h.assigned g hg).trans_le hsize
    · rcases hid g hg with ⟨hnext, hgrown⟩ | ⟨r, rfl, hfind⟩
      · rw [hnext]
        exact hgrown
      · exact (h.assigned _ (h.grant_mem hfind)).trans_le hsize
  case unique =>
    rw [grants_append, grants_singleton, List.pairwise_append]
    refine ⟨h.unique, by cases grant? d _ <;> simp, fun g hg g' hg' hsame => ?_⟩
    rcases hid g' (Option.mem_toList.mp hg') with ⟨hnext, -⟩ | ⟨r, rfl, hfind⟩
    · exact absurd (hsame.trans hnext) (h.assigned g hg).ne
    · exact h.agrees (h.grant_mem hfind) hg hsame
  case complete =>
    intro x hx reply hreply hcode
    rw [dialogue_append, dialogue_singleton, List.mem_append, List.mem_singleton] at hx
    rcases hx with hx | rfl
    · exact h.complete x hx reply hreply hcode
    · dsimp only at hreply ⊢
      rw [hreply]
      exact hs.grant?_of_registered (hmemory ▸ hroom) hids hreply hcode

end Remembers

variable {teams statuses : List String} {size limit memory : Int}

theorem Reachable.remembers (h : host teams statuses size limit true memory = .ok s)
    (hmemory : 0 ≤ memory) (l : List Datagram)
    (hids : (s.after l).directory.users.size < 10 ^ maxReplyBody) : s.Remembers l := by
  induction l using List.reverseRecOn with
  | nil =>
    obtain ⟨directory, description, -, -, rfl⟩ := host_eq_ok_iff.mp h
    constructor
    case memo => exact (Memo.bound_of_length_le (Nat.zero_le _)).symm
    case assigned => exact fun g hg => absurd hg List.not_mem_nil
    case unique => exact .nil
    case complete => exact fun x hx => absurd hx List.not_mem_nil
  | append_singleton l d ih =>
    have hreach := (Reachable.hosted h).after l
    have hfixed := (Reachable.hosted h).fixed
    rw [after_append, after_singleton] at hids
    have hids := ((handle_effect (s.after l) d.data d.sender).size_le hreach.sound).trans_lt hids
    exact (ih hids).concat hreach.sound hreach.fixed.1 (hreach.fixed.2.trans hfixed.2.symm)
      (hfixed.2 ▸ hmemory) d hids

end Service

end TeamPresence
