import TeamPresence.Program.Menu
import TeamPresence.Proofs.Number.Numeral
import TeamPresence.Proofs.Service.History

/-!
# Choosing one of the options

An answer chooses the option of which it is the number, in decimal digits of any script
(`Chooses`). A prompt settles every answer that can be read: it goes on with the option chosen, or
reports that the answer is none. An answer that passes for a number and cannot be read as one
(`Text.Unreadable`) ends the program, which leaves its user where the server has it.

* `Numeral.integer_of_isAllDigits`: which texts of digits are read, and as what.
* `answer_settles_iff`: a prompt settles an answer exactly when it can be read.
* `superscript_ends_program`: a program that ends at an answer.
-/

namespace TeamPresence

namespace Text

/-- A text is a number, in decimal digits with the most significant first. -/
def IsDecimal (s : String) (n : Nat) : Prop :=
  s ≠ "" ∧ (∀ c ∈ s.toList, (digitValue? c).isSome = true) ∧
    Nat.ofDigits 10 (s.toList.filterMap digitValue?).reverse = n

/-- A text passes for a number, and is none: a character has only the shape of a digit, or there are
more digits than are read. -/
def Unreadable (s : String) : Prop :=
  isAllDigits s = true ∧
    ((∃ c ∈ s.toList, digitValue? c = none) ∨ Numeral.maxDigits < s.toList.length)

theorem IsDecimal.unique {s : String} {n k : Nat} (hn : IsDecimal s n) (hk : IsDecimal s k) :
    n = k :=
  hn.2.2.symm.trans hk.2.2

theorem isAllDigits_iff {s : String} :
    isAllDigits s = true ↔ s ≠ "" ∧ ∀ c ∈ s.toList, isDigitLike c = true := by
  unfold isAllDigits
  simp

theorem IsDecimal.isAllDigits {s : String} {n : Nat} (h : IsDecimal s n) : isAllDigits s = true := by
  rw [isAllDigits_iff]
  refine ⟨h.1, fun c hc => ?_⟩
  rw [isDigitLike, h.2.1 c hc, Bool.true_or]

end Text

namespace Numeral

open Text

/-- A text of digits is read as the number that it is, and one that cannot be read is refused. -/
theorem integer_of_isAllDigits {s : String} (h : isAllDigits s = true) :
    (Unreadable s ∧ ∃ why, integer s = .error why) ∨
      (¬ Unreadable s ∧ ∃ n : Nat, IsDecimal s n ∧ integer s = .ok n) := by
  obtain ⟨hne, hlike⟩ := isAllDigits_iff.mp h
  have hread := integer_of_isPlain (s := s) fun c hc => by
    obtain ⟨d, hd, rfl⟩ := List.mem_map.mp hc
    exact isPlain_fold (hlike d hd)
  by_cases hshape : ∃ c ∈ s.toList, digitValue? c = none
  · -- The digits end before the shape, so that something is left after them.
    refine .inl ⟨⟨h, .inl hshape⟩, ?_⟩
    obtain ⟨c, hc, hnone⟩ := hshape
    have hrest : ((s.toList.map fold).dropWhile Char.isDigit).isEmpty = false := by
      rw [List.isEmpty_eq_false_iff]
      intro hnil
      have hdigit := List.dropWhile_eq_nil_iff.mp hnil _ (List.mem_map_of_mem hc)
      rw [isDigit_fold_iff (hlike c hc), hnone] at hdigit
      cases hdigit
    rw [hread, hrest]
    dsimp only
    split
    · exact ⟨_, rfl⟩
    · split
      · exact ⟨_, rfl⟩
      · exact ⟨_, rfl⟩
  · have hall : ∀ c ∈ s.toList, (digitValue? c).isSome = true := fun c hc =>
      Option.isSome_iff_ne_none.mpr fun hnone => hshape ⟨c, hc, hnone⟩
    have hdigits : ∀ f ∈ s.toList.map fold, f.isDigit = true := by
      intro f hf
      obtain ⟨c, hc, rfl⟩ := List.mem_map.mp hf
      exact (isDigit_fold_iff (hlike c hc)).mpr (hall c hc)
    rw [List.takeWhile_eq_self_iff.mpr hdigits, List.dropWhile_eq_nil_iff.mpr hdigits] at hread
    have hsome : (s.toList.map fold).isEmpty = false := by simpa using hne
    dsimp only at hread
    rw [hsome, if_neg Bool.false_ne_true, List.length_map] at hread
    by_cases hlong : maxDigits < s.toList.length
    · rw [if_pos hlong] at hread
      exact .inl ⟨⟨h, .inr hlong⟩, _, hread⟩
    · rw [if_neg hlong, value_map_fold hall] at hread
      exact .inr ⟨fun hun => hun.2.elim hshape hlong, _, ⟨hne, hall, rfl⟩, hread⟩

end Numeral

open Text

/-- An answer chooses the option of which it is the number, counted from one. Every other answer
chooses none. -/
def Chooses (count : Nat) (answer : String) (choice : Option Nat) : Prop :=
  ∀ i, choice = some i ↔ i < count ∧ IsDecimal answer (i + 1)

theorem chooses_none {count : Nat} {answer : String}
    (h : ∀ n, IsDecimal answer n → n = 0 ∨ count < n) : Chooses count answer none := by
  intro i
  refine ⟨nofun, fun ⟨hi, hdecimal⟩ => ?_⟩
  have := h _ hdecimal
  omega

theorem chooseOption_cases (count : Nat) (line : String) :
    (Unreadable (strip line) ∧ ∃ why, chooseOption count line = .error (.choice (strip line) why)) ∨
      (¬ Unreadable (strip line) ∧
        ∃ choice, chooseOption count line = .ok choice ∧ Chooses count (strip line) choice) := by
  unfold chooseOption
  by_cases hdigits : isAllDigits (strip line) = true
  · simp only [hdigits, Bool.not_true, Bool.false_eq_true, if_false]
    obtain ⟨hun, why, hwhy⟩ | ⟨hread, n, hdecimal, hn⟩ := Numeral.integer_of_isAllDigits hdigits
    · exact .inl ⟨hun, why, by rw [hwhy]⟩
    · refine .inr ⟨hread, _, by rw [hn], ?_⟩
      by_cases hrange : 1 ≤ (n : Int) ∧ (n : Int) ≤ count
      · rw [if_pos hrange]
        intro i
        rw [Option.some.injEq]
        constructor
        · intro hi
          have hsucc : n = i + 1 := by omega
          exact ⟨by omega, hsucc ▸ hdecimal⟩
        · intro ⟨hi, hother⟩
          have := hdecimal.unique hother
          omega
      · rw [if_neg hrange]
        refine chooses_none fun k hk => ?_
        have := hdecimal.unique hk
        omega
  · simp only [hdigits, Bool.not_false, if_true]
    exact .inr ⟨fun hun => hdigits hun.1, none, rfl,
      chooses_none fun n hn => absurd hn.isAllDigits hdigits⟩

namespace Menu

/-- What a prompt does with an answer that chooses an option, or none. -/
def settle (m : Menu) (line : String) (next : Menu → Nat → Menu) : Option Nat → Menu
  | some i => next m i
  | none => (m.printLine ("Invalid selection: " ++ strip line)).offer

theorem answer_of_ok {m : Menu} {options : List String} {line : String} {next : Menu → Nat → Menu}
    {choice : Option Nat} (h : chooseOption options.length line = .ok choice) :
    m.answer options line next = m.settle line next choice := by
  unfold answer
  rw [h]
  cases choice <;> rfl

/-- **A prompt settles an answer exactly when it can be read.** It then goes on with the option of
which the answer is the number, or reports an invalid selection. Any other answer ends the program
with nothing more sent. -/
theorem answer_settles_iff (m : Menu) (options : List String) (line : String)
    (next : Menu → Nat → Menu) :
    ((∃ choice, chooseOption options.length line = .ok choice ∧
        Chooses options.length (strip line) choice ∧
        m.answer options line next = m.settle line next choice) ↔ ¬ Unreadable (strip line)) ∧
      (Unreadable (strip line) → ∃ why, m.answer options line next =
          m.fail (.choice (strip line) why) ∧
        (m.answer options line next).stage = .ended (.exited 1) ∧
        (m.answer options line next).sent = m.sent ∧
        (m.answer options line next).net.service = m.net.service) := by
  obtain ⟨hun, why, herror⟩ | ⟨hread, choice, hok, hchooses⟩ :=
    chooseOption_cases options.length line
  · have hfail : m.answer options line next = m.fail (.choice (strip line) why) := by
      unfold answer
      rw [herror]
    refine ⟨⟨?_, fun hread => absurd hun hread⟩, fun _ => ⟨why, hfail, ?_⟩⟩
    · rintro ⟨choice, hok, -⟩
      rw [herror] at hok
      cases hok
    · rw [hfail]
      exact ⟨rfl, rfl, rfl⟩
  · exact ⟨⟨fun _ => hread, fun _ => ⟨choice, hok, hchooses, answer_of_ok hok⟩⟩,
      fun hun => absurd hun hread⟩

/-- A program and its server, over a network that loses nothing. Its user joins the only team, asks
for another status, and answers with the line given before quitting. -/
def answering (line : String) : Menu :=
  run ⟨[("CLIENT_DISPLAY_NAME", "Ann")]⟩
    { service := (Service.host ["Red"] ["Busy"] 1 100 true 4).toOption
      link := { address := ⟨"127.0.0.1", 40000⟩, script := [] } }
    ["2", "1", "1", line, "4"]

/-- The team on record of the first user, if the program has a server that knows one. -/
def firstTeam? (m : Menu) : Option Int :=
  (m.net.service.bind fun s => s.directory.users[0]?).map User.team

/-- An answer with a letter is reported, and the program goes on and leaves. An answer with a
superscript ends the program, and its user stays on the team. -/
theorem superscript_ends_program :
    (answering "x").stage = .ended .returned ∧ (answering "x").firstTeam? = some noTeam ∧
      chooseOption 1 "²" = .error (.choice "²" .malformed) ∧
      (answering "²").stage = .ended (.exited 1) ∧ (answering "²").firstTeam? = some 0 := by
  decide +kernel

end Menu

end TeamPresence
