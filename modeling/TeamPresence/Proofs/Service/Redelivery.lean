import TeamPresence.Proofs.Service.Grants

/-!
# Datagrams that are delivered again

A network may deliver a datagram more than once. A service that knows repeated registrations takes
this as one delivery (`Reachable.redelivered`). The reason is another for each kind of request: an
update that was taken finds its user in the team already, what was refused left nothing behind
(`Sound.handle_again`), and a registration is in the memo the second time, as its most recent entry
(`register_of_remembered`). That holds for the first delivery whatever it did: it may have created
the user that reached the limit, or have pushed another sender out of the memo.
-/

namespace TeamPresence

namespace Memo

variable (m : Memo) (r : Registration) {size : Int}

theorem entries_bound_push (h : 1 ≤ size) :
    ∃ older, ((m.push r).bound size).entries = older ++ [r] ∧
      (∀ e ∈ older, e.sender ≠ r.sender) ∧ (older ++ [r]).length ≤ size.toNat := by
  generalize hothers : m.entries.filter (fun e => e.sender != r.sender) = others
  have hother : ∀ e ∈ others, e.sender ≠ r.sender := by
    intro e he
    rw [← hothers, List.mem_filter, bne_iff_ne] at he
    exact he.2
  have hpush : m.push r = ⟨others ++ [r]⟩ := by rw [push, hothers]
  -- the bound cuts off some of the others only
  have hcut : (others ++ [r]).length - size.toNat ≤ others.length := by
    rw [List.length_append, List.length_singleton]
    omega
  refine ⟨others.drop ((others ++ [r]).length - size.toNat), ?_,
    fun e he => hother e (List.mem_of_mem_drop he), ?_⟩
  · rw [hpush, bound, List.drop_append_of_le_length hcut]
  · rw [← List.drop_append_of_le_length hcut, List.length_drop]
    omega

theorem find?_bound_push (h : 1 ≤ size) : ((m.push r).bound size).find? r.sender = some r := by
  obtain ⟨older, hentries, hother, -⟩ := m.entries_bound_push r h
  rw [find?, hentries, List.find?_append, List.find?_eq_none.mpr]
  · simp
  · intro e he
    simpa using hother e he

theorem bound_push_again (h : 1 ≤ size) :
    (((m.push r).bound size).push r).bound size = (m.push r).bound size := by
  obtain ⟨older, hentries, hother, hlength⟩ := m.entries_bound_push r h
  have hmemo : (m.push r).bound size = ⟨older ++ [r]⟩ := by rw [← hentries]
  have hkept : (older ++ [r]).filter (fun e => e.sender != r.sender) = older := by
    rw [List.filter_append, List.filter_eq_self.mpr fun e he => bne_iff_ne.mpr (hother e he)]
    simp
  rw [hmemo, push, hkept, bound_of_length_le hlength]

end Memo

namespace Service

variable {s : Service}

theorem register_of_remembered (hdedupe : s.dedupe = true) (hmemory : 1 ≤ s.memory)
    (name : String) (a : Address) (id : Nat) :
    (s.remember (some a) name id).2.register name (some a) =
      (acknowledge id, (s.remember (some a) name id).2) := by
  rw [remember_some hdedupe]
  generalize hafter : { s with memo := (s.memo.push ⟨a, name, id⟩).bound s.memory } = t
  have htdedupe : t.dedupe = true := hafter ▸ hdedupe
  have htmemory : t.memory = s.memory := hafter ▸ rfl
  have htmemo : t.memo = (s.memo.push ⟨a, name, id⟩).bound s.memory := hafter ▸ rfl
  have hrepeated : t.repeated? (some a) name = some ⟨a, name, id⟩ := by
    refine (repeated?_eq_some_iff htdedupe).mpr ⟨rfl, rfl, ?_⟩
    rw [htmemo]
    exact s.memo.find?_bound_push ⟨a, name, id⟩ hmemory
  have hpushed : (t.memo.push ⟨a, name, id⟩).bound t.memory = t.memo := by
    rw [htmemory, htmemo]
    exact s.memo.bound_push_again ⟨a, name, id⟩ hmemory
  have hsame : (t.remember (some a) name id).2 = t := by rw [remember_some htdedupe, hpushed]
  rw [register_eq (by omega), hrepeated]
  simp only [hsame]

theorem register_again (hdedupe : s.dedupe = true) (hmemory : 1 ≤ s.memory) (name : String)
    (a : Address) :
    (s.register name (some a)).2.register name (some a) = s.register name (some a) := by
  have hregister := register_eq (s := s) (by omega) name (some a)
  cases hrepeated : s.repeated? (some a) name with
  | some r =>
    rw [hrepeated] at hregister
    rw [hregister]
    exact register_of_remembered hdedupe hmemory name a r.networkId
  | none =>
    rw [hrepeated] at hregister
    cases hgrown : s.directory.register name with
    | error f =>
      have hrefused : s.register name (some a) = (.error f, s) := by rw [hregister, hgrown]
      rw [hrefused, hrefused]
    | ok grown =>
      rw [hgrown] at hregister
      rw [hregister]
      exact register_of_remembered (s := { s with directory := grown.1 }) hdedupe hmemory name a _

/-- A service that knows repeated registrations handles any datagram again as it did before, and
stays as it is. -/
theorem Sound.handle_twice (hs : s.Sound) (hdedupe : s.dedupe = true) (hmemory : 1 ≤ s.memory)
    (data : Bytes) (a : Address) :
    (s.handle data (some a)).2.handle data (some a) = s.handle data (some a) := by
  by_cases hregistration : IsRegistration data
  · obtain ⟨r, hparse, hkind⟩ := hregistration
    have hagain := register_again hdedupe hmemory r.text a
    rw [handle_registration hparse hkind, handle_registration hparse hkind, hagain]
  · exact hs.handle_again hregistration (some a)

theorem replicate_of_handle {d : Datagram}
    (h : (s.handle d.data d.sender).2.handle d.data d.sender = s.handle d.data d.sender) (n : Nat) :
    s.replies (List.replicate (n + 1) d) = List.replicate (n + 1) (s.handle d.data d.sender).1 ∧
      s.after (List.replicate (n + 1) d) = (s.handle d.data d.sender).2 := by
  induction n generalizing s with
  | zero => exact ⟨rfl, rfl⟩
  | succ n ih =>
    obtain ⟨hreplies, hafter⟩ := ih (s := (s.handle d.data d.sender).2) (by rw [h, h])
    rw [h] at hreplies hafter
    constructor
    · rw [List.replicate_succ, replies, hreplies, ← List.replicate_succ]
    · rw [List.replicate_succ, after, List.foldl_cons]
      exact hafter

variable {teams statuses : List String} {size limit memory : Int}

/-- **However often a datagram is delivered in a row, it gets the same reply and has the effect of
one delivery**: on the records, the rosters, the room for users and the next network ID, and on the
memo with its order. -/
theorem Reachable.redelivered (h : Reachable teams statuses size limit true memory s)
    (hmemory : 1 ≤ memory) {d : Datagram} (hsender : d.sender ≠ none) (n : Nat) :
    ∃ reply, (s.handle d.data d.sender).1 = .ok reply ∧
      s.replies (List.replicate (n + 1) d) = List.replicate (n + 1) (.ok reply) ∧
      s.after (List.replicate (n + 1) d) = (s.handle d.data d.sender).2 := by
  obtain ⟨hdedupe, hsize⟩ := h.fixed
  have hroom : 1 ≤ s.memory := hsize ▸ hmemory
  obtain ⟨a, ha⟩ := Option.ne_none_iff_exists'.mp hsender
  have hagain := h.sound.handle_twice hdedupe hroom d.data a
  rw [← ha] at hagain
  obtain ⟨reply, hreply⟩ := h.sound.handle_isOk (by omega) d.data d.sender
  obtain ⟨hreplies, hafter⟩ := replicate_of_handle hagain n
  exact ⟨reply, hreply, hreply ▸ hreplies, hafter⟩

/-- A third user registers, from another port than those in `crowding`. -/
def latecomer : Datagram := ⟨[1, 0xff, 0xff, 0xff, 0xff, 0xff, 0x43], some ⟨"127.0.0.1", 5001⟩⟩

/-- The latecomer takes up the last network ID and the only place in the memo, and comes three
times. -/
theorem redelivered_latecomer :
    ∃ s, host ["Red", "Blue"] ["Busy"] 1 3 true 1 = .ok s ∧
      ∃ reply, (s.after crowding).replies (List.replicate 3 latecomer) =
          List.replicate 3 (.ok reply) ∧
        reply.networkId = .ok 2 ∧
        ((s.after crowding).after (List.replicate 3 latecomer)).directory.users.size = 3 ∧
        ((s.after crowding).after (List.replicate 3 latecomer)).memo.entries =
          [⟨⟨"127.0.0.1", 5001⟩, "C", 2⟩] := by
  obtain ⟨s, h⟩ : ∃ s, host ["Red", "Blue"] ["Busy"] 1 3 true 1 = .ok s := ⟨_, rfl⟩
  have hrun : ∀ s ∈ (host ["Red", "Blue"] ["Busy"] 1 3 true 1).toOption,
      ((s.after crowding).handle latecomer.data latecomer.sender).1 >>= Reply.networkId = .ok 2 ∧
      ((s.after crowding).handle latecomer.data latecomer.sender).2.directory.users.size = 3 ∧
      ((s.after crowding).handle latecomer.data latecomer.sender).2.memo.entries =
        [⟨⟨"127.0.0.1", 5001⟩, "C", 2⟩] := by
    decide +kernel
  obtain ⟨hid, hsize, hentries⟩ := hrun s (by rw [h]; rfl)
  obtain ⟨reply, hreply, hreplies, hafter⟩ :=
    Reachable.redelivered ((Reachable.hosted h).after crowding) (by decide) (d := latecomer)
      (by decide) 2
  rw [hreply, ok_bind] at hid
  refine ⟨s, h, reply, hreplies, hid, ?_, ?_⟩
  · rw [hafter, hsize]
  · rw [hafter, hentries]

end Service

end TeamPresence
