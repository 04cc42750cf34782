/-
What the numeric options come to.

A raw value is read without the blanks around it, and of that every
character counts: it is a number of the option, or the option objects for
the one reason that reading from left to right meets first (`Objects`).
Port, ceilings and lifetime differ in their width and in the least number
they take, so one reading is stated for all (`IsRead`): what is accepted,
what is rejected and as what, which numerals read back, and that no value
on the way passes the width.

The width is that of the number that the option is read into, sixteen
bits for a port, thirty-two or sixty-four for the rest, and reading
stops at the digit that goes past it. So an overflow is a fault with a
text of its own and never a number that has wrapped.
-/
import PairingHarness.Proofs.Decimal
import PairingHarness.Proofs.Text.Blank
import PairingHarness.Settings.Limits

namespace PairingHarness.Settings

open Text (IsCore isBlank)
open Decimal (Writes Meets behindSign)

variable {option : OptionName} {least bound n : Nat} {raw : String}
  {failure : Failure} {result : Except Failure Nat}

-- ========================================================= the reading

/-- Why characters are no number from `least` to `bound`: reading them
meets a fault, or they are a number below the least. -/
inductive Objects (least bound : Nat) (core : List Char) : String → Prop where
  | fault {fault : Decimal.Fault} (h : Meets bound core fault) :
      Objects least bound core fault.message
  | least {n : Nat} (h : Writes core n) (hn : n < least) (hle : n ≤ bound) :
      Objects least bound core "must be greater than zero"

/-- The result is that of reading the raw value of the option as a number
from `least` to `bound`. -/
structure IsRead (option : OptionName) (least bound : Nat) (raw : String)
    (result : Except Failure Nat) : Prop where
  /-- Without the blanks around it, it writes a number in range. -/
  accepted : ∀ n, result = .ok n ↔
    ∃ core, IsCore core raw.toList ∧ Writes core n ∧ least ≤ n ∧ n ≤ bound
  /-- Or there is an objection to it, and the failure shows it as given. -/
  rejected : ∀ failure, result = .error failure ↔
    ∃ core, IsCore core raw.toList ∧ ∃ reason, Objects least bound core reason
      ∧ failure = .invalidOption option.name raw reason
  /-- A minus sign is an invalid digit, alone as before a number. -/
  minus : ∀ rest, IsCore ('-' :: rest) raw.toList →
    result = .error (.invalidOption option.name raw
      Decimal.Fault.invalidDigit.message)
  /-- Numerals in range read back, zeros and blanks before them and blanks
  behind them included. -/
  numeral : ∀ n zeros left right, least ≤ n → n ≤ bound →
    (∀ c ∈ left, isBlank c = true) → (∀ c ∈ right, isBlank c = true) →
    raw.toList = left ++ (List.replicate zeros '0' ++ Nat.toDigits 10 n) ++ right →
    result = .ok n
  /-- While an accepted number is read, no value passes the bound. -/
  within : ∀ n core before after, result = .ok n → IsCore core raw.toList →
    behindSign core = before ++ after → Nat.ofDigitChars 10 before 0 ≤ bound

/-- What is accepted and what is rejected decide the rest. -/
theorem isRead_of
    (accepted : ∀ n, result = .ok n ↔
      ∃ core, IsCore core raw.toList ∧ Writes core n ∧ least ≤ n ∧ n ≤ bound)
    (rejected : ∀ failure, result = .error failure ↔
      ∃ core, IsCore core raw.toList ∧ ∃ reason, Objects least bound core reason
        ∧ failure = .invalidOption option.name raw reason) :
    IsRead option least bound raw result where
  accepted := accepted
  rejected := rejected
  minus rest hcore := by
    have hcomes : Decimal.Comes bound ('-' :: rest) [] '-' :=
      ⟨⟨rest, Decimal.behindSign_of_ne (by decide) rest⟩, by simp,
        Nat.zero_le bound⟩
    have hmeets : Meets bound ('-' :: rest) .invalidDigit :=
      .invalidDigit hcomes (by decide)
    exact (rejected _).2 ⟨_, hcore, _, .fault hmeets, rfl⟩
  numeral n zeros left right hleast hbound hleft hright hraw := by
    have hdigits : ∀ c ∈ List.replicate zeros '0' ++ Nat.toDigits 10 n,
        isBlank c = false := fun c hc =>
      Text.isBlank_of_isDigit (Decimal.isDigit_of_mem_zeros_toDigits hc)
    have hcore := Text.isCore_of_noBlank hdigits hleft hright
    rw [← hraw] at hcore
    exact (accepted n).2
      ⟨_, hcore, Decimal.writes_zeros_toDigits zeros n, hleast, hbound⟩
  within n core before after hok hcore hsplit := by
    obtain ⟨core', hcore', hwrites, -, hbound⟩ := (accepted n).1 hok
    obtain rfl := (Text.trimmed_of_isCore hcore).symm.trans
      (Text.trimmed_of_isCore hcore')
    obtain ⟨-, -, rfl⟩ := Decimal.writes_iff.1 hwrites
    -- a value is never above the one it is a beginning of
    calc Nat.ofDigitChars 10 before 0
        ≤ Nat.ofDigitChars 10 after (Nat.ofDigitChars 10 before 0) :=
          Decimal.le_ofDigitChars _ _
      _ = Nat.ofDigitChars 10 (behindSign core) 0 := by
          rw [hsplit, Nat.ofDigitChars_append]
      _ ≤ bound := hbound

-- ========================================================= the numbers

/-- An option is read as a number exactly where its value, without blanks,
is a numeral within the width. -/
theorem number_eq_ok_iff :
    number option bound raw = .ok n ↔
      Writes (Text.trimmed raw.toList) n ∧ n ≤ bound := by
  rw [← Decimal.read_eq_ok_iff]
  unfold number
  cases Decimal.read bound (Text.trimmed raw.toList) <;> simp

/-- Otherwise it is refused for the fault that comes first, with the raw
value in the message. -/
theorem number_eq_error_iff :
    number option bound raw = .error failure ↔
      ∃ fault, Meets bound (Text.trimmed raw.toList) fault
        ∧ failure = .invalidOption option.name raw fault.message := by
  simp only [← Decimal.read_eq_error_iff]
  unfold number
  cases Decimal.read bound (Text.trimmed raw.toList) <;> simp [eq_comm]

theorem isRead_number (option : OptionName) (bound : Nat) (raw : String) :
    IsRead option 0 bound raw (number option bound raw) := by
  refine isRead_of (fun n => ?_) fun failure => ?_
  · rw [Text.exists_isCore_iff, number_eq_ok_iff]
    simp
  · rw [Text.exists_isCore_iff, number_eq_error_iff]
    constructor
    · rintro ⟨fault, hmeets, rfl⟩
      exact ⟨_, .fault hmeets, rfl⟩
    · rintro ⟨_, hobjects, rfl⟩
      cases hobjects with
      | fault hmeets => exact ⟨_, hmeets, rfl⟩
      | least _ hn _ => exact absurd hn (Nat.not_lt_zero _)

-- The fault that comes first is reported: the digit that passes the width,
-- or the letter before it.
example : number .port Decimal.maxWord16 "65536x"
    = .error (.invalidOption "port" "65536x"
        Decimal.Fault.tooLarge.message) := by rfl

example : number .port Decimal.maxWord16 "6553x6"
    = .error (.invalidOption "port" "6553x6"
        Decimal.Fault.invalidDigit.message) := by rfl

/-- An option that must be positive is read as one that need not be, and not
zero. -/
theorem positive_eq_ok_iff :
    positive option bound raw = .ok n ↔
      number option bound raw = .ok n ∧ 1 ≤ n := by
  unfold positive
  split
  · next hzero =>
    rw [hzero]
    constructor
    · simp
    · rintro ⟨hn, hpos⟩
      cases hn
      omega
  · next hother =>
    refine ⟨fun h => ⟨h, Nat.pos_of_ne_zero ?_⟩, And.left⟩
    rintro rfl
    exact hother h

theorem positive_eq_error_iff :
    positive option bound raw = .error failure ↔
      number option bound raw = .error failure
        ∨ number option bound raw = .ok 0
          ∧ failure = .invalidOption option.name raw "must be greater than zero" := by
  unfold positive
  split
  · next hzero => simp [hzero, eq_comm]
  · next hother =>
    exact ⟨.inl, fun h => h.elim id fun hzero => absurd hzero.1 hother⟩

theorem isRead_positive (option : OptionName) (bound : Nat) (raw : String) :
    IsRead option 1 bound raw (positive option bound raw) := by
  refine isRead_of (fun n => ?_) fun failure => ?_
  · rw [Text.exists_isCore_iff, positive_eq_ok_iff, number_eq_ok_iff,
      and_assoc, @and_comm (n ≤ bound)]
  · rw [Text.exists_isCore_iff, positive_eq_error_iff, number_eq_error_iff,
      number_eq_ok_iff]
    constructor
    · rintro (⟨fault, hmeets, rfl⟩ | ⟨⟨hwrites, hle⟩, rfl⟩)
      · exact ⟨_, .fault hmeets, rfl⟩
      · exact ⟨_, .least hwrites Nat.zero_lt_one hle, rfl⟩
    · rintro ⟨_, hobjects, rfl⟩
      cases hobjects with
      | fault hmeets => exact .inl ⟨_, hmeets, rfl⟩
      | least hwrites hn hle =>
          obtain rfl := Nat.lt_one_iff.1 hn
          exact .inr ⟨⟨hwrites, hle⟩, rfl⟩

-- ========================================================= the options

/-- Each numeric option is read as a number of its width, and those that
limit a channel as one above zero. A lifetime that is not set is none. -/
theorem limits_read (s : Settings) :
    IsRead .port 0 Decimal.maxWord16 s.port s.portNumber
      ∧ IsRead .maxExchanges 1 Decimal.maxWord32 s.maxExchanges s.exchangeLimit
      ∧ IsRead .maxData 1 Decimal.maxWord64 s.maxData s.dataLimit
      ∧ match s.timeout with
        | none => s.lifetime = .ok none
        | some raw => ∃ result,
            IsRead .timeout 1 Decimal.maxWord64 raw result
              ∧ s.lifetime = result.map some := by
  refine ⟨isRead_number _ _ _, isRead_positive _ _ _, isRead_positive _ _ _, ?_⟩
  unfold lifetime
  cases s.timeout with
  | none => rfl
  | some raw => exact ⟨_, isRead_positive _ _ _, rfl⟩

/-- A port at its bound, signed, with zeros and with blanks that are not
ASCII around it; a ceiling that is zero; a lifetime with a minus sign. -/
theorem limits_read_atBounds :
    portNumber { defaults with port := "\u00a0+0065535\u3000" } = .ok 65535
      ∧ dataLimit { defaults with maxData := "00" }
        = .error (.invalidOption "max_data" "00" "must be greater than zero")
      ∧ lifetime { defaults with timeout := some " -1" }
        = .error (.invalidOption "timeout" " -1"
          "invalid digit found in string") := by
  refine ⟨((limits_read _).1.accepted _).2 ?_,
    ((limits_read _).2.2.1.rejected _).2 ?_, ?_⟩
  · exact ⟨"+0065535".toList, Text.trimmed_eq_iff.1 rfl,
      ⟨['+'], "0065535".toList, rfl, .inr rfl, by decide,
        List.all_eq_true.1 rfl, rfl⟩, by decide, by decide⟩
  · have hzero : Writes "00".toList 0 :=
      ⟨[], "00".toList, rfl, .inl rfl, by decide, List.all_eq_true.1 rfl, rfl⟩
    exact ⟨"00".toList, Text.trimmed_eq_iff.1 rfl, _,
      .least hzero (by decide) (by decide), rfl⟩
  · obtain ⟨result, htimeout, hlifetime⟩ :=
      (limits_read { defaults with timeout := some " -1" }).2.2.2
    rw [hlifetime, htimeout.minus ['1'] (Text.trimmed_eq_iff.1 rfl)]
    rfl

end PairingHarness.Settings
