/-
What the reader of values accepts.

The reader is given a depth. What it reads writes the value that it
gives, with no more arrays and objects inside each other than that
(`readValue_sound`), and whatever writes a value within that depth is
read as that value (`readValue_complete`). The first goes by induction
on the depth, the second by induction on how the value is written; the
arrays and objects in either are those of the readers of brackets, whose
items the induction hypothesis covers.

Both proofs go through the kinds of values in the order in which the
reader tries them, by the first character. That character decides, which
is why the grammar needs no look ahead and why the cases of the second
proof are settled by what `ValueForm.starts` says of each of them.
-/
import PairingHarness.Proofs.Json.Bracket

namespace PairingHarness.Json

variable {s r e t : List Char}

-- ========================================================= first characters

/-- A digit is none of the characters that open anything else. -/
theorem digit_ne {c d : Char} (hc : isDigit c = true)
    (hd : isDigit d = false) : c ≠ d := by
  rintro rfl
  rw [hc] at hd
  cases hd

/-- And no blank. -/
theorem not_space_of_digit {c : Char} (hc : isDigit c = true) :
    isSpace c = false := by
  simp only [isSpace, Bool.or_eq_false_iff, decide_eq_false_iff_not]
  exact ⟨⟨⟨digit_ne hc rfl, digit_ne hc rfl⟩, digit_ne hc rfl⟩,
    digit_ne hc rfl⟩

/-- A numeral without its sign begins with a digit. -/
theorem Numeral.exists_digit (n : Numeral) :
    ∃ c cs, n.unsigned = c :: cs ∧ isDigit c = true := by
  obtain ⟨c, cs, h, hc⟩ := n.whole.exists_cons
  exact ⟨c, _, by rw [unsigned, h]; rfl, hc⟩

/-- A value begins with neither a blank nor a closing bracket. -/
theorem ValueForm.starts (h : ValueForm e) : Starts e := by
  cases h with
  | null => exact ⟨'n', _, rfl, by decide⟩
  | yes => exact ⟨'t', _, rfl, by decide⟩
  | no => exact ⟨'f', _, rfl, by decide⟩
  | number n =>
      obtain ⟨c, cs, hn, hc⟩ := n.exists_digit
      unfold Numeral.chars
      cases n.negative with
      | true => exact ⟨'-', _, rfl, by decide⟩
      | false =>
          exact ⟨c, cs, hn, not_space_of_digit hc, digit_ne hc rfl,
            digit_ne hc rfl⟩
  | text _ => exact ⟨'"', _, rfl, by decide⟩
  | array _ _ => exact ⟨'[', _, rfl, by decide⟩
  | object _ _ _ => exact ⟨'\x7b', _, rfl, by decide⟩

/-- No value begins with a blank, so no blank before it is part of it. -/
theorem ValueForm.solid (h : ValueForm e) (r : List Char) : Solid (e ++ r) :=
  (h.starts.append r).solid

-- ================================================================ soundness

/-- What is read as a value writes it. -/
theorem readValue_sound (depth : Nat) :
    Sound (Writes depth) (readValue depth) := by
  -- on the depth, which falls with each bracket; what stands inside is the
  -- business of the list readers
  induction depth using Nat.strongRecOn with
  | ind depth ih =>
      intro s r v h
      obtain ⟨g, hg⟩ := exists_gap s
      refine ⟨g, ?_⟩
      suffices ∃ e, skipSpace s = e ++ r ∧ Writes depth e v by
        obtain ⟨e, he, hv⟩ := this
        exact ⟨e, he ▸ hg, hv⟩
      unfold readValue at h
      cases hs : skipSpace s with
      | nil =>
          rw [hs] at h
          cases h
      | cons c rest =>
      rw [hs] at h
      simp only [] at h
      -- by the first character, in the order in which the reader asks
      by_cases hnull : c = 'n'
      · rw [if_pos hnull] at h
        obtain ⟨_, hword, heq⟩ := map_eq_ok h
        cases heq
        rw [hnull, readWord_eq_ok_iff.1 hword]
        exact ⟨_, rfl, .null depth⟩
      rw [if_neg hnull] at h
      by_cases hyes : c = 't'
      · rw [if_pos hyes] at h
        obtain ⟨_, hword, heq⟩ := map_eq_ok h
        cases heq
        rw [hyes, readWord_eq_ok_iff.1 hword]
        exact ⟨_, rfl, .yes depth⟩
      rw [if_neg hyes] at h
      by_cases hno : c = 'f'
      · rw [if_pos hno] at h
        obtain ⟨_, hword, heq⟩ := map_eq_ok h
        cases heq
        rw [hno, readWord_eq_ok_iff.1 hword]
        exact ⟨_, rfl, .no depth⟩
      rw [if_neg hno] at h
      by_cases hminus : c = '-'
      · rw [if_pos hminus] at h
        obtain ⟨_, hnumber, heq⟩ := map_eq_ok h
        cases heq
        obtain ⟨n, hn, hvalue⟩ := signed_of_readNumber hnumber
        exact ⟨n.chars, hminus ▸ hn, .number depth hvalue⟩
      rw [if_neg hminus] at h
      by_cases hdigit : isDigit c = true
      · rw [if_pos hdigit] at h
        obtain ⟨_, hnumber, heq⟩ := map_eq_ok h
        cases heq
        obtain ⟨n, hn, hvalue⟩ := signed_of_readNumber hnumber
        exact ⟨n.chars, hn, .number depth hvalue⟩
      rw [if_neg hdigit] at h
      by_cases htext : c = '"'
      · rw [if_pos htext] at h
        obtain ⟨_, hread, heq⟩ := map_eq_ok h
        cases heq
        obtain ⟨source, hspells, hrest⟩ := readText_eq_ok_iff.1 hread
        refine ⟨quote source, ?_, .text depth (by
          rw [String.toList_ofList]
          exact hspells)⟩
        rw [htext, hrest, quote_append]
      rw [if_neg htext] at h
      by_cases harray : c = '['
      · rw [if_pos harray] at h
        -- with no depth left a bracket is refused
        cases depth with
        | zero => cases h
        | succ depth =>
            obtain ⟨⟨vs, rest'⟩, hitems, heq⟩ := map_eq_ok h
            cases heq
            obtain ⟨items, t, hrest, ht, hwrites, rfl⟩ :=
              readItems_sound (ih depth (Nat.lt_succ_self _)) hitems
            rw [harray, hrest]
            exact ⟨'[' :: t, rfl, .array ht hwrites⟩
      rw [if_neg harray] at h
      by_cases hobject : c = '\x7b'
      · rw [if_pos hobject] at h
        cases depth with
        | zero => cases h
        | succ depth =>
            obtain ⟨⟨vs, rest'⟩, hmembers, heq⟩ := map_eq_ok h
            cases heq
            obtain ⟨ms, t, hrest, ht, hwrites, rfl⟩ :=
              readMembers_sound (ih depth (Nat.lt_succ_self _)) hmembers
            rw [hobject, hrest]
            exact ⟨'\x7b' :: t, rfl, .object ht hwrites⟩
      rw [if_neg hobject] at h
      cases h

-- ============================================================ completeness

/-- What writes a value is read as that value. -/
theorem readValue_complete (depth : Nat) :
    Complete (Writes depth) (readValue depth) := by
  intro e v h
  -- on the way the value is written, which carries its depth along
  induction h with
  | null depth =>
      intro g r _
      unfold readValue
      rw [skipSpace_gap g (ValueForm.null.solid r)]
      rfl
  | yes depth =>
      intro g r _
      unfold readValue
      rw [skipSpace_gap g (ValueForm.yes.solid r)]
      rfl
  | no depth =>
      intro g r _
      unfold readValue
      rw [skipSpace_gap g (ValueForm.no.solid r)]
      rfl
  | @number depth n v hvalue =>
      intro g r hr
      unfold readValue
      rw [skipSpace_gap g ((ValueForm.number n).solid r)]
      have hread : readNumber n.negative (n.unsigned ++ r) = .ok (v, r) :=
        readNumber_eq_ok_iff.2 ⟨n, rfl, rfl, hr.ends n, hvalue⟩
      unfold Numeral.chars
      cases hneg : n.negative with
      | true =>
          rw [hneg] at hread
          show (readNumber true (n.unsigned ++ r)).map _ = _
          rw [hread]
          rfl
      | false =>
          -- no other value starts with a digit
          obtain ⟨c, cs, hn, hc⟩ := n.exists_digit
          rw [hneg, hn] at hread
          simp only [Bool.false_eq_true, if_false, hn, List.cons_append,
            if_neg (digit_ne hc rfl : c ≠ 'n'),
            if_neg (digit_ne hc rfl : c ≠ 't'),
            if_neg (digit_ne hc rfl : c ≠ 'f'),
            if_neg (digit_ne hc rfl : c ≠ '-'), if_pos hc]
          rw [← List.cons_append, hread]
          rfl
  | text depth hspells =>
      intro g r _
      unfold readValue
      rw [quote_append, skipSpace_gap g (solid_cons rfl)]
      show (readText .plain _).map _ = _
      rw [readText_eq_ok_iff.2 ⟨_, hspells, rfl⟩]
      show Except.ok (Value.text (String.ofList _), r) = _
      rw [String.ofList_toList]
  | @array depth items t ht hitems ih =>
      intro g r _
      unfold readValue
      rw [List.cons_append, skipSpace_gap g (solid_cons rfl)]
      show (readItems (readValue depth) _ true (t ++ r)).map _ = _
      have hlength := ht.length_le
      rw [readItems_accepts ih (fun i hi => (hitems i hi).form.starts)
        (by simp at hlength ⊢; omega) ht r]
      rfl
  | @object depth ms t ht hvalues ih =>
      intro g r _
      unfold readValue
      rw [List.cons_append, skipSpace_gap g (solid_cons rfl)]
      show (readMembers (readValue depth) _ true (t ++ r)).map _ = _
      have hlength := ht.length_le
      rw [readMembers_accepts ih (by simp at hlength ⊢; omega) ht r]
      rfl

end PairingHarness.Json
