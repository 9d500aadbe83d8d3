import Mathlib.Tactic.Positivity
import TeamPresence.Proofs.Number.Decimal
import TeamPresence.Proofs.Wire.Bodies
import TeamPresence.Settings.Basic

/-!
# What the settings of a client are good for

A client is set up from texts that can be anything. **`Settings.loadsUsable_iff`**: whatever they
are, loading either refuses them with a fault of the settings and changes nothing, or takes settings
of which the name, the host, the port, the network ID and the attempts are in range. The timeout is
above zero as well, unless its text spells not-a-number: the check refuses what is zero or less, and
not-a-number is neither that nor above zero (`nan_timeout_taken`).

The checks are read off once (`ClientSettings.check_eq_ok_iff`), the faults of the readers and the
checks once (`ClientSettings.isOfSettings_of_load`).
-/

namespace TeamPresence

/-! ### Timeouts -/

namespace Binary64

/-- A number above zero, or the infinity above all numbers. -/
def IsPositive (x : Binary64) : Prop := x = .infinite false ∨ ∃ v, x.toRat? = some v ∧ 0 < v

theorem isPositive_finite_iff {negative : Bool} {m : Nat} {e : Int} :
    (finite negative m e).IsPositive ↔ negative = false ∧ m ≠ 0 := by
  simp only [IsPositive, toRat?, reduceCtorEq, Option.some.injEq, false_or, exists_eq_left']
  have hpower : (0 : Rat) < (2 : Rat) ^ e := zpow_pos (by norm_num) e
  cases negative with
  | false => simp [hpower, Nat.pos_iff_ne_zero]
  | true =>
    have hvalue : (0 : Rat) ≤ (m : Rat) * (2 : Rat) ^ e := by positivity
    simpa using hvalue

/-- What is not refused as zero or less is positive, or is no number at all. -/
theorem isNonpositive_eq_false_iff {x : Binary64} :
    x.isNonpositive = false ↔ x.IsPositive ∨ x = .nan := by
  cases x with
  | finite negative m e => simp [isPositive_finite_iff, isNonpositive]
  | infinite negative => simp [IsPositive, isNonpositive, toRat?]
  | nan => simp [isNonpositive]

theorem not_isPositive_nan : ¬ nan.IsPositive := by simp [IsPositive, toRat?]

end Binary64

/-! ### What a check lets through -/

/-- Client settings in range, but for the timeout. -/
structure ClientSettings.IsInRange (c : ClientSettings) : Prop where
  displayName : isIdentifier c.displayName = true
  host : c.host ≠ ""
  port : 1 ≤ c.port ∧ c.port ≤ 65535
  networkId : ∀ n ∈ c.networkId, 0 ≤ n ∧ n ≤ 0xfffffe
  maxAttempts : ∀ n ∈ c.maxAttempts, 1 ≤ n

/-- Client settings that a client can work with. -/
structure ClientSettings.IsUsable (c : ClientSettings) : Prop extends c.IsInRange where
  timeout : c.timeout.IsPositive

theorem checkHost_eq_ok_iff {host : String} : checkHost host = .ok () ↔ host ≠ "" := by
  unfold checkHost
  split <;> simp_all

theorem checkPort_eq_ok_iff {port : Int} : checkPort port = .ok () ↔ 1 ≤ port ∧ port ≤ 65535 := by
  unfold checkPort
  split <;> simp_all

theorem checkAssigned_eq_ok_iff {id : Option Int} :
    checkAssigned id = .ok () ↔ ∀ n ∈ id, 0 ≤ n ∧ n ≤ 0xfffffe := by
  cases id with
  | none => simp [checkAssigned]
  | some n =>
    have hbound : n < (noNetworkId : Nat) ↔ n ≤ 0xfffffe := by
      unfold noNetworkId
      omega
    simp only [checkAssigned, hbound, Option.mem_some_iff, forall_eq']
    split <;> simp_all

/-- A test that lets through or refuses with a fault of the settings. -/
def pass (test : Bool) (why : SettingsFault) : Except Fault Unit :=
  if test then .ok () else .error (.settings why)

theorem pass_eq_ok_iff {test : Bool} {why : SettingsFault} :
    pass test why = .ok () ↔ test = true := by
  cases test <;> simp [pass]

theorem then_eq_ok_iff {x : Except Fault Unit} {f : Unit → Except Fault Unit} :
    (x >>= f) = .ok () ↔ x = .ok () ∧ f () = .ok () := by
  cases x <;> simp

theorem ClientSettings.check_eq (c : ClientSettings) :
    c.check = (do
      pass (isIdentifier c.displayName) (.displayName c.displayName)
      checkHost c.host
      checkPort c.port
      checkAssigned c.networkId
      pass (!c.timeout.isNonpositive) .timeout
      pass (!c.maxAttempts.any (· < 1)) .attempts) := by
  unfold check pass
  cases isIdentifier c.displayName <;> cases c.timeout.isNonpositive <;>
    cases c.maxAttempts.any (· < 1) <;> rfl

theorem ClientSettings.check_eq_ok_iff {c : ClientSettings} :
    c.check = .ok () ↔ c.IsInRange ∧ c.timeout.isNonpositive = false := by
  have hattempts : (!c.maxAttempts.any (· < 1)) = true ↔ ∀ n ∈ c.maxAttempts, 1 ≤ n := by
    cases c.maxAttempts <;> simp
  have htimeout : (!c.timeout.isNonpositive) = true ↔ c.timeout.isNonpositive = false := by
    cases c.timeout.isNonpositive <;> simp
  simp only [check_eq, then_eq_ok_iff, pass_eq_ok_iff, checkHost_eq_ok_iff, checkPort_eq_ok_iff,
    checkAssigned_eq_ok_iff, htimeout, hattempts]
  constructor
  · rintro ⟨hname, hhost, hport, hid, htimeout, hmax⟩
    exact ⟨⟨hname, hhost, hport, hid, hmax⟩, htimeout⟩
  · rintro ⟨⟨hname, hhost, hport, hid, hmax⟩, htimeout⟩
    exact ⟨hname, hhost, hport, hid, htimeout, hmax⟩

/-! ### What is refused -/

/-- An outcome that fails with faults of the settings only. -/
def FailsBySettings {α : Type} (x : Except Fault α) : Prop :=
  ∀ f, x = .error f → ∃ why, f = .settings why

namespace FailsBySettings

variable {α β : Type}

theorem ok (a : α) : FailsBySettings (.ok a) := by
  intro f hf
  cases hf

theorem error (why : SettingsFault) :
    FailsBySettings (.error (.settings why) : Except Fault α) := by
  intro f hf
  exact ⟨why, (Except.error.inj hf).symm⟩

theorem ite {p : Prop} [Decidable p] {x y : Except Fault α} (hx : FailsBySettings x)
    (hy : FailsBySettings y) : FailsBySettings (if p then x else y) := by
  split
  · exact hx
  · exact hy

theorem bind {x : Except Fault α} {f : α → Except Fault β} (hx : FailsBySettings x)
    (hf : ∀ a, FailsBySettings (f a)) : FailsBySettings (x >>= f) := by
  intro e he
  rcases bind_eq_error_iff.mp he with herror | ⟨a, -, herror⟩
  · exact hx e herror
  · exact hf a e herror

end FailsBySettings

open FailsBySettings

theorem readInteger_fails (key text : String) : FailsBySettings (readInteger key text) := by
  unfold readInteger
  cases Numeral.integer text with
  | ok n => exact ok n
  | error _ => exact error _

theorem readNumber_fails (key text : String) : FailsBySettings (readNumber key text) := by
  unfold readNumber
  cases Decimal.read? text with
  | some x => exact ok x
  | none => exact error _

theorem Environment.integer?_fails (env : Environment) (key : String) :
    FailsBySettings (env.integer? key) := by
  unfold integer?
  cases env.nonempty? key with
  | none => exact ok none
  | some text => exact (readInteger_fails key text).bind fun n => ok (some n)

theorem checkAssigned_fails (id : Option Int) : FailsBySettings (checkAssigned id) := by
  cases id with
  | none => exact ok ()
  | some n => exact ite (ok ()) (error _)

theorem ClientSettings.check_fails (c : ClientSettings) : FailsBySettings c.check := by
  rw [check_eq]
  refine (ite (ok ()) (error _)).bind fun _ => ?_
  refine (ite (error _) (ok ())).bind fun _ => ?_
  refine (ite (ok ()) (error _)).bind fun _ => ?_
  refine (checkAssigned_fails _).bind fun _ => ?_
  refine (ite (ok ()) (error _)).bind fun _ => ?_
  exact ite (ok ()) (error _)

theorem ClientSettings.load_fails (env : Environment) : FailsBySettings (load env) := by
  unfold load
  cases env.nonempty? "CLIENT_DISPLAY_NAME" with
  | none => exact error _
  | some displayName =>
    refine (readNumber_fails _ _).bind fun timeout => ?_
    refine (readInteger_fails _ _).bind fun port => ?_
    refine (env.integer?_fails _).bind fun networkId => ?_
    refine (env.integer?_fails _).bind fun maxAttempts => ?_
    exact (check_fails _).bind fun _ => ok _

/-! ### What is loaded -/

/-- The text of the timeout, if there is none the text of the default. -/
def Environment.timeoutText (env : Environment) : String := env.getOr "CLIENT_TIMEOUT" "1.0"

theorem readNumber_eq_ok_iff {key text : String} {x : Binary64} :
    readNumber key text = .ok x ↔ Decimal.read? text = some x := by
  unfold readNumber
  cases Decimal.read? text <;> simp

theorem ClientSettings.load_eq_ok {env : Environment} {c : ClientSettings} (h : load env = .ok c) :
    Decimal.read? env.timeoutText = some c.timeout ∧
      env.integer? "CLIENT_NETWORK_ID" = .ok c.networkId ∧
      env.integer? "CLIENT_MAX_ATTEMPTS" = .ok c.maxAttempts ∧ c.check = .ok () := by
  unfold load at h
  cases hname : env.nonempty? "CLIENT_DISPLAY_NAME" with
  | none =>
    rw [hname] at h
    cases h
  | some displayName =>
    simp only [hname, bind_eq_ok_iff] at h
    obtain ⟨timeout, hread, port, -, networkId, hid, maxAttempts, hattempts, _, hcheck, hc⟩ := h
    obtain rfl := Except.ok.inj hc
    exact ⟨readNumber_eq_ok_iff.mp hread, hid, hattempts, hcheck⟩

theorem ClientSettings.isUsable_iff_of_load {env : Environment} {c : ClientSettings}
    (h : load env = .ok c) :
    c.IsInRange ∧ (c.IsUsable ↔ ¬ Decimal.SpellsNan env.timeoutText) := by
  obtain ⟨hread, -, -, hcheck⟩ := load_eq_ok h
  obtain ⟨hrange, htimeout⟩ := check_eq_ok_iff.mp hcheck
  have hnan : Decimal.SpellsNan env.timeoutText ↔ c.timeout = .nan := by
    rw [← Decimal.read?_eq_nan_iff, hread, Option.some.injEq]
  refine ⟨hrange, ?_⟩
  rw [hnan]
  constructor
  · intro husable hc
    exact Binary64.not_isPositive_nan (hc ▸ husable.timeout)
  · intro hc
    exact ⟨hrange, (Binary64.isNonpositive_eq_false_iff.mp htimeout).resolve_right hc⟩

/-- Loading the settings of a client refuses them with a fault of the settings and changes nothing,
or takes settings that a client can work with. -/
def Settings.LoadsUsable (s : Settings) (env : Environment) : Prop :=
  (∃ why, s.loadClient env = (.error (.settings why), s)) ∨
    ∃ c, s.loadClient env = (.ok c, { s with client := some c }) ∧ c.IsUsable

/-- **What loading the settings of a client gives, whatever the texts are.** It refuses them with a
fault of the settings and changes nothing, or takes settings in range; these are usable exactly if
the text of the timeout does not spell not-a-number. So the settings are refused or usable unless
that text spells it and nothing else is wrong. -/
theorem Settings.loadsUsable_iff (s : Settings) (env : Environment) :
    ((∃ why, s.loadClient env = (.error (.settings why), s)) ∨
      ∃ c, s.loadClient env = (.ok c, { s with client := some c }) ∧ c.IsInRange ∧
        (c.IsUsable ↔ ¬ Decimal.SpellsNan env.timeoutText)) ∧
    (s.LoadsUsable env ↔
      ∀ c, (s.loadClient env).1 = .ok c → ¬ Decimal.SpellsNan env.timeoutText) := by
  unfold LoadsUsable loadClient
  cases hload : ClientSettings.load env with
  | error f =>
    obtain ⟨why, rfl⟩ := ClientSettings.load_fails env f hload
    simp
  | ok c =>
    obtain ⟨hrange, husable⟩ := ClientSettings.isUsable_iff_of_load hload
    simp [hrange, husable]

/-- A name and not-a-number for the timeout are all that it takes. -/
theorem nan_timeout_taken :
    ∃ (env : Environment) (c : ClientSettings),
      env = ⟨[("CLIENT_DISPLAY_NAME", "JohnnyCash"), ("CLIENT_TIMEOUT", "nan")]⟩ ∧
      Settings.loadClient {} env = (.ok c, { client := some c }) ∧ c.timeout = .nan ∧
      ¬ c.timeout.IsPositive ∧ ¬ Settings.LoadsUsable {} env := by
  let env : Environment := ⟨[("CLIENT_DISPLAY_NAME", "JohnnyCash"), ("CLIENT_TIMEOUT", "nan")]⟩
  let c : ClientSettings := { displayName := "JohnnyCash", timeout := .nan }
  have hload : Settings.loadClient {} env = (.ok c, { client := some c }) := by decide +kernel
  refine ⟨env, c, rfl, hload, rfl, Binary64.not_isPositive_nan, ?_⟩
  rintro (⟨why, herror⟩ | ⟨c', hok, husable⟩)
  · rw [hload] at herror
    cases herror
  · rw [hload] at hok
    obtain rfl : c = c' := Except.ok.inj (congrArg Prod.fst hok)
    exact Binary64.not_isPositive_nan husable.timeout

end TeamPresence
