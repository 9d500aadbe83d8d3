import TeamPresence.Session.Exchange

/-!
# How an exchange is settled

An exchange looks at one datagram at a time, and only an attempt that fails is followed by another.
So what the attempts would receive, if each of them was made, tells how many are made and how the
exchange ends: `Ask.Settles` says this in terms of replies and errors, and holds of one count and
one outcome only (`Settles.unique`).
-/

namespace TeamPresence

/-! ### What is received -/

/-- Whether a verdict only asks for another attempt. -/
def Verdict.IsIdle : Verdict → Prop
  | silence | garbage _ | stray _ => True
  | reply _ | refusal _ => False

theorem Verdict.IsIdle.outcome?_eq {v : Verdict} (h : v.IsIdle) (giveUp : Bool) :
    v.outcome? giveUp = none := by
  cases v with
  | silence | garbage _ | stray _ => rfl
  | reply _ | refusal _ => exact h.elim

/-- The message that was received, if one was. -/
def Reply.received? (received : Option Bytes) : Option Reply :=
  received.bind fun data => (Reply.parse data).toOption

namespace Ask

/-- The reply that was asked for, if that is what was received. -/
def reply? (a : Ask) (received : Option Bytes) : Option Reply :=
  (Reply.received? received).filter fun r => r.code.toNat = a.expected

/-- The text of an error that was received and not asked for. -/
def errorText? (a : Ask) (received : Option Bytes) : Option String :=
  ((Reply.received? received).filter fun r =>
    r.code = ReplyKind.error.code ∧ (r.code.toNat : Int) ≠ a.expected).map Reply.text

/-- Whether an attempt that received this is followed by another one. -/
def Fails (a : Ask) (received : Option Bytes) : Prop :=
  a.reply? received = none ∧ (a.giveUp = true → a.errorText? received = none)

/-- Whether there may be another attempt after `k`, by the limit and by the budget of packets. -/
def MayFollow (limit : Option Int) (budget k : Nat) : Prop :=
  k < budget ∧ ∀ m ∈ limit, (k : Int) < m

/-- How an exchange ends after `n` attempts, from what each attempt would receive. -/
inductive Settles (a : Ask) (limit : Option Int) (budget : Nat) (received : Nat → Option Bytes) :
    Nat → Except Fault Reply → Prop
  /-- The first attempt that does not fail receives the reply. -/
  | answered {n : Nat} {r : Reply} (hmay : MayFollow limit budget n)
      (hfailed : ∀ k < n, a.Fails (received k)) (hreply : a.reply? (received n) = some r) :
      Settles a limit budget received (n + 1) (.ok r)
  /-- The first attempt that does not fail receives an error, and the client gives up on it. -/
  | rejected {n : Nat} {text : String} (hmay : MayFollow limit budget n)
      (hfailed : ∀ k < n, a.Fails (received k)) (hgiveUp : a.giveUp = true)
      (herror : a.errorText? (received n) = some text) :
      Settles a limit budget received (n + 1) (.error (.rejected text))
  /-- As many attempts as there may be have failed. -/
  | unanswered {m : Int} (hlimit : limit = some m) (hbudget : m.toNat ≤ budget)
      (hfailed : ∀ k < m.toNat, a.Fails (received k)) :
      Settles a limit budget received m.toNat (.error (.unanswered a.expected m.toNat))
  /-- As many packets as may be sent in one step were sent, and the limit is not reached. -/
  | cut (hlimit : ∀ m ∈ limit, (budget : Int) < m) (hfailed : ∀ k < budget, a.Fails (received k)) :
      Settles a limit budget received budget (.error .sendLimit)

variable {a : Ask} {received : Option Bytes}

theorem verdict_cases (a : Ask) (received : Option Bytes) :
    (∃ r, a.reply? received = some r ∧ a.errorText? received = none ∧
      Verdict.of a.expected received = .reply r) ∨
    (∃ r, a.reply? received = none ∧ a.errorText? received = some r.text ∧
      Verdict.of a.expected received = .refusal r) ∨
    (a.reply? received = none ∧ a.errorText? received = none ∧
      (Verdict.of a.expected received).IsIdle) := by
  cases received with
  | none => exact Or.inr (Or.inr ⟨rfl, rfl, trivial⟩)
  | some data =>
    rw [reply?, errorText?, Reply.received?, Option.bind_some, Verdict.of]
    cases Reply.parse data with
    | error f => exact Or.inr (Or.inr ⟨rfl, rfl, trivial⟩)
    | ok r =>
      simp only [Except.toOption, Option.filter]
      by_cases hexpected : (r.code.toNat : Int) = a.expected
      · exact Or.inl ⟨r, by simp [hexpected]⟩
      · by_cases herror : r.code = ReplyKind.error.code
        · have hcode : (ReplyKind.error.code.toNat : Int) ≠ a.expected := herror ▸ hexpected
          refine Or.inr (Or.inl ⟨r, ?_⟩)
          rw [if_neg hexpected, if_pos herror]
          simp [herror, hcode]
        · refine Or.inr (Or.inr ?_)
          rw [if_neg hexpected, if_neg herror]
          simp [hexpected, herror, Verdict.IsIdle]

theorem outcome?_eq_some_iff {outcome : Except Fault Reply} :
    (Verdict.of a.expected received).outcome? a.giveUp = some outcome ↔
      (∃ r, a.reply? received = some r ∧ outcome = .ok r) ∨
        a.giveUp = true ∧ ∃ text, a.errorText? received = some text ∧
          outcome = .error (.rejected text) := by
  rcases a.verdict_cases received with ⟨r, hreply, herror, hverdict⟩ |
    ⟨r, hreply, herror, hverdict⟩ | ⟨hreply, herror, hidle⟩
  · simp [hreply, herror, hverdict, Verdict.outcome?, @eq_comm _ outcome]
  · simp [hreply, herror, hverdict, Verdict.outcome?, @eq_comm _ outcome]
  · simp [hreply, herror, hidle.outcome?_eq]

theorem outcome?_eq_none_iff :
    (Verdict.of a.expected received).outcome? a.giveUp = none ↔ a.Fails received := by
  rw [Fails]
  rcases a.verdict_cases received with ⟨r, hreply, -, hverdict⟩ | ⟨r, hreply, herror, hverdict⟩ |
    ⟨hreply, herror, hidle⟩
  · simp [hreply, hverdict, Verdict.outcome?]
  · simp [hreply, herror, hverdict, Verdict.outcome?]
  · simp [hreply, herror, hidle.outcome?_eq]

theorem outcome?_of_reply {r : Reply} (h : a.reply? received = some r) :
    (Verdict.of a.expected received).outcome? a.giveUp = some (.ok r) :=
  outcome?_eq_some_iff.mpr (Or.inl ⟨r, h, rfl⟩)

theorem outcome?_of_error {text : String} (hgiveUp : a.giveUp = true)
    (h : a.errorText? received = some text) :
    (Verdict.of a.expected received).outcome? a.giveUp = some (.error (.rejected text)) :=
  outcome?_eq_some_iff.mpr (Or.inr ⟨hgiveUp, text, h, rfl⟩)

theorem not_fails_of_outcome? {outcome : Except Fault Reply}
    (h : (Verdict.of a.expected received).outcome? a.giveUp = some outcome) :
    ¬ a.Fails received := by
  rw [← outcome?_eq_none_iff, h]
  simp

theorem refusal_text_eq (a : Ask) (received : Option Bytes) :
    (match Verdict.of a.expected received with
      | .refusal r => some r.text
      | _ => none) = a.errorText? received := by
  rcases a.verdict_cases received with ⟨r, -, herror, hverdict⟩ | ⟨r, -, herror, hverdict⟩ |
    ⟨-, herror, hidle⟩
  · rw [hverdict, herror]
  · rw [hverdict, herror]
  · rw [herror]
    revert hidle
    cases Verdict.of a.expected received <;> simp [Verdict.IsIdle]

/-- How an exchange ends when no attempt settles it. -/
def giveUpAfter (a : Ask) (limit : Option Int) (n : Nat) : Except Fault Reply :=
  .error (if limit.any fun (m : Int) => m ≤ n then .unanswered a.expected n else .sendLimit)

/-- How an exchange of `n` attempts ends: as the last one settles, if it does. -/
def outcomeAfter (a : Ask) (limit : Option Int) (received : Nat → Option Bytes) :
    Nat → Except Fault Reply
  | 0 => a.giveUpAfter limit 0
  | k + 1 =>
    ((Verdict.of a.expected (received k)).outcome? a.giveUp).getD (a.giveUpAfter limit (k + 1))

theorem outcomeAfter_of_fails {limit : Option Int} {received : Nat → Option Bytes} {n : Nat}
    (hfailed : ∀ k < n, a.Fails (received k)) :
    a.outcomeAfter limit received n = a.giveUpAfter limit n := by
  cases n with
  | zero => rfl
  | succ k =>
    rw [outcomeAfter, outcome?_eq_none_iff.mpr (hfailed k (Nat.lt_succ_self k)), Option.getD_none]

namespace Settles

variable {limit : Option Int} {budget n : Nat} {received : Nat → Option Bytes}
  {outcome : Except Fault Reply}

theorem mayFollow (h : a.Settles limit budget received n outcome) {k : Nat} (hk : k < n) :
    MayFollow limit budget k := by
  cases h with
  | answered hmay | rejected hmay =>
    refine ⟨by have := hmay.1; omega, ?_⟩
    intro m hm
    have := hmay.2 m hm
    omega
  | @unanswered m hlimit hbudget =>
    refine ⟨by omega, ?_⟩
    intro m' hm
    obtain rfl := Option.some.inj (hlimit.symm.trans hm)
    omega
  | cut hlimit =>
    refine ⟨hk, ?_⟩
    intro m hm
    have := hlimit m hm
    omega

theorem atMost (h : a.Settles limit budget received n outcome) : ∀ m ∈ limit, n ≤ m.toNat := by
  intro m hm
  cases n with
  | zero => exact Nat.zero_le _
  | succ k =>
    have hlt := (h.mayFollow (Nat.lt_succ_self k)).2 m hm
    omega

theorem fails (h : a.Settles limit budget received n outcome) {k : Nat} (hk : k + 1 < n) :
    a.Fails (received k) := by
  cases h with
  | answered _ hfailed | rejected _ hfailed => exact hfailed k (by omega)
  | unanswered _ _ hfailed => exact hfailed k (by omega)
  | cut _ hfailed => exact hfailed k (by omega)

theorem ends (h : a.Settles limit budget received n outcome) :
    (∃ k, n = k + 1 ∧ ¬ a.Fails (received k)) ∨ ¬ MayFollow limit budget n := by
  cases h with
  | @answered k _ _ _ hreply =>
    exact Or.inl ⟨k, rfl, not_fails_of_outcome? (outcome?_of_reply hreply)⟩
  | @rejected k _ _ _ hgiveUp herror =>
    exact Or.inl ⟨k, rfl, not_fails_of_outcome? (outcome?_of_error hgiveUp herror)⟩
  | @unanswered m hlimit =>
    right
    rintro ⟨-, hmay⟩
    have hlt := hmay m hlimit
    omega
  | cut =>
    right
    rintro ⟨hlt, -⟩
    omega

theorem le_of_settles {n' : Nat} {outcome' : Except Fault Reply}
    (h : a.Settles limit budget received n outcome)
    (h' : a.Settles limit budget received n' outcome') : n' ≤ n := by
  apply Nat.le_of_not_lt
  intro hlt
  rcases h.ends with ⟨k, rfl, hnot⟩ | hnot
  · exact hnot (h'.fails hlt)
  · exact hnot (h'.mayFollow hlt)

theorem outcome_eq (h : a.Settles limit budget received n outcome) :
    outcome = a.outcomeAfter limit received n := by
  cases h with
  | answered _ _ hreply => rw [outcomeAfter, outcome?_of_reply hreply, Option.getD_some]
  | rejected _ _ hgiveUp herror =>
    rw [outcomeAfter, outcome?_of_error hgiveUp herror, Option.getD_some]
  | @unanswered m hlimit _ hfailed =>
    rw [outcomeAfter_of_fails hfailed, giveUpAfter, hlimit, if_pos]
    exact decide_eq_true (Int.self_le_toNat m)
  | cut hlimit hfailed =>
    rw [outcomeAfter_of_fails hfailed, giveUpAfter, if_neg]
    cases limit with
    | none => simp
    | some m => simpa using hlimit m rfl

/-- **What the attempts would receive settles how many are made, and how the exchange ends.** -/
theorem unique {n' : Nat} {outcome' : Except Fault Reply}
    (h : a.Settles limit budget received n outcome)
    (h' : a.Settles limit budget received n' outcome') : n' = n ∧ outcome' = outcome := by
  obtain rfl : n' = n := Nat.le_antisymm (h.le_of_settles h') (h'.le_of_settles h)
  exact ⟨rfl, h'.outcome_eq.trans h.outcome_eq.symm⟩

theorem unanswered_iff (h : a.Settles limit budget received n outcome) :
    (∃ kind made, outcome = .error (.unanswered kind made)) ↔
      ∃ m, limit = some m ∧ m.toNat ≤ budget ∧ ∀ k < m.toNat, a.Fails (received k) := by
  constructor
  · rintro ⟨kind, made, rfl⟩
    cases h with
    | @unanswered m hlimit hbudget hfailed => exact ⟨m, hlimit, hbudget, hfailed⟩
  · rintro ⟨m, hlimit, hbudget, hfailed⟩
    exact ⟨_, _, (h.unique (unanswered hlimit hbudget hfailed)).2.symm⟩

end Settles

end Ask

end TeamPresence
