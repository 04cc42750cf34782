/-
What the message of a failure tells.

A raw value stands in a message between quotes, so that the message of an
option that cannot be used tells the value and the reason apart and tells
both completely (`invalidOption_quotes`).

Failures are wrapped when scenarios fail. A wrap puts the scenario's name
in front of the message, gives the hint of what it wraps and is no close
signal; and what stands behind it is the failure that it wraps. So of
several wraps each is told, in the message and in the chain of causes,
and nothing below them is lost (`wrapped_tells`).

Wraps are folded over a list of names, the innermost first, so that one
induction on the last name carries all the statements about messages,
hints and causes. In the chain of causes only an error of the connection
has a link of its own below it, since it is the one that hands the error
of the system on.
-/
import Mathlib.Data.List.Induction
import PairingHarness.Failure
import PairingHarness.Proofs.Text.Quoted

namespace PairingHarness.Failure

open Text.Quoted (IsForm isForm_quoted toList_quoted)

variable {f : Failure} {cs : List Cause} {names : List String}

-- ======================================================== quoted values

/-- The message of a value that an option cannot use, around the quotes
of the value. -/
theorem toList_message_invalidOption (name value reason : String) :
    (invalidOption name value reason).message.toList
      = ("invalid value for option '" ++ name ++ "': ").toList
        ++ '"' :: (value.toList.flatMap Text.quotedChar
        ++ '"' :: (" (" ++ reason ++ ")").toList) := by
  have hmessage : (invalidOption name value reason).message
      = "invalid value for option '" ++ name ++ "': " ++ Text.quoted value
        ++ " (" ++ reason ++ ")" := rfl
  have hparts : (invalidOption name value reason).message
      = ("invalid value for option '" ++ name ++ "': ")
        ++ (Text.quoted value ++ (" (" ++ reason ++ ")")) := by
    simp only [hmessage, String.append_assoc]
  rw [hparts, String.toList_append, String.toList_append (s := Text.quoted _),
    toList_quoted, List.cons_append, List.append_assoc,
    List.singleton_append]

/-- In the message the value stands between double quotes on one line,
with no control character and no quote that could end it, and undoing the
escapes gives it back. So for one option the message is another one
whenever the value or the reason is another. -/
theorem invalidOption_quotes (name value reason : String) :
    (∃ form, IsForm form value.toList
      ∧ (invalidOption name value reason).message.toList
        = ("invalid value for option '" ++ name ++ "': ").toList
          ++ '"' :: (form ++ '"' :: (" (" ++ reason ++ ")").toList))
    ∧ ∀ value' reason', (invalidOption name value' reason').message
        = (invalidOption name value reason).message
      ↔ value' = value ∧ reason' = reason := by
  have hform := isForm_quoted value.toList
  refine ⟨⟨_, hform, toList_message_invalidOption name value reason⟩,
    fun value' reason' => ?_⟩
  constructor
  · intro h
    rw [← String.toList_inj, toList_message_invalidOption,
      toList_message_invalidOption] at h
    have hsource := (List.cons.inj (List.append_cancel_left h)).2
    -- both are read in the same way behind the opening quote
    have hundone := ((isForm_quoted value'.toList).undoes_iff
      (" (" ++ reason' ++ ")").toList _ _).2 ⟨rfl, rfl⟩
    rw [hsource, hform.undoes_iff] at hundone
    obtain ⟨hvalue, hrest⟩ := hundone
    rw [String.toList_inj, String.append_left_inj,
      String.append_right_inj] at hrest
    exact ⟨String.toList_inj.1 hvalue, hrest⟩
  · rintro ⟨rfl, rfl⟩
    rfl

-- ================================================================ wraps

/-- A failure that failed one scenario after another. -/
def wrapped (names : List String) (f : Failure) : Failure :=
  names.foldl (fun cause name => .scenarioFailed name cause) f

/-- What a wrap puts in front of a message. -/
def opening (name : String) : String :=
  "scenario '" ++ name ++ "' failed: "

/-- The failures inside of the wraps, from outside in. -/
def inner (names : List String) (f : Failure) : List Failure :=
  (List.range names.length).reverse.map fun k => wrapped (names.take k) f

/-- The error of the system behind a failure, if there is one. -/
def systemCause : Failure → List Cause
  | io reason => [.system reason]
  | _ => []

/-- The causes found by asking for what stands behind, again and again,
until nothing does. -/
inductive Leads : Option Cause → List Cause → Prop where
  | nothing : Leads none []
  | cause {c : Cause} {cs : List Cause} :
      Leads c.source? cs → Leads (some c) (c :: cs)

/-- The text goes on with the other behind a start of its own. -/
def EndsIn (text tail : String) : Prop :=
  ∃ start, start ≠ "" ∧ text = start ++ tail

/-- The last of several wraps is the outermost one. -/
theorem wrapped_concat (names : List String) (name : String) (f : Failure) :
    wrapped (names ++ [name]) f = .scenarioFailed name (wrapped names f) :=
  List.foldl_append

/-- What the outermost wrap adds to what stands inside is the failure that
it wraps. -/
theorem inner_concat (names : List String) (name : String) (f : Failure) :
    inner (names ++ [name]) f = wrapped names f :: inner names f := by
  have htake : ∀ k ∈ (List.range names.length).reverse,
      wrapped ((names ++ [name]).take k) f = wrapped (names.take k) f := by
    intro k hk
    rw [List.mem_reverse, List.mem_range] at hk
    rw [List.take_append_of_le_length (Nat.le_of_lt hk)]
  unfold inner
  rw [List.length_append, List.length_singleton, List.range_succ,
    List.reverse_append, List.reverse_singleton, List.singleton_append,
    List.map_cons, List.take_left, List.map_congr_left htake]

-- ========================================================== what is told

/-- Each wrap puts its opening in front, the outermost one first, and the
message of what is wrapped stays whole at the end. -/
theorem message_wrapped (names : List String) (f : Failure) :
    (wrapped names f).message
      = String.join (names.reverse.map opening) ++ f.message := by
  induction names using List.reverseRecOn with
  | nil => exact String.empty_append.symm
  | append_singleton names name ih =>
      rw [wrapped_concat, List.reverse_append, List.reverse_singleton,
        List.singleton_append, List.map_cons, String.join_cons,
        String.append_assoc, ← ih]
      rfl

/-- A wrap has no hint of its own: it gives that of what it wraps (`hint`).
-/
theorem hint_wrapped (names : List String) (f : Failure) :
    (wrapped names f).hint = f.hint := by
  induction names using List.reverseRecOn with
  | nil => rfl
  | append_singleton names name ih =>
      rw [wrapped_concat]
      exact ih

/-- A failure is a close signal where it says that the service closed the
session, and in no other case (`is_close_error`). -/
theorem isCloseSignal_iff :
    f.isCloseSignal = true ↔ ∃ reason, f = .closed reason := by
  cases f <;> simp [isCloseSignal]

/-- Behind a wrap a close signal is none any more, so a failed scenario is
never taken for a session that was closed. -/
theorem isCloseSignal_wrapped_iff : (wrapped names f).isCloseSignal = true
    ↔ names = [] ∧ ∃ reason, f = .closed reason := by
  rw [← isCloseSignal_iff]
  cases names using List.reverseRecOn with
  | nil => simp [wrapped]
  | append_singleton names name => simp [wrapped_concat, isCloseSignal]

-- ============================================================== causes

theorem Leads.unique {c : Option Cause} {cs' : List Cause} (h : Leads c cs)
    (h' : Leads c cs') : cs = cs' := by
  induction h generalizing cs' with
  | nothing =>
      cases h'
      rfl
  | cause _ ih =>
      cases h' with
      | cause h' => rw [ih h']

/-- The causes of a failure are told, all of them in their order. -/
theorem Leads.causes_eq (h : Leads f.source? cs) :
    f.causes = cs.map Cause.message := by
  induction f generalizing cs with
  | scenarioFailed name cause ih =>
      cases h with
      | cause h => rw [causes, List.map_cons, ih h]; rfl
  | io reason =>
      cases h with
      | cause h =>
          cases h
          rfl
  | _ =>
      cases h
      rfl

/-- A wrap always adds something to the message. -/
theorem opening_ne_empty (name : String) : opening name ≠ "" := by
  simp [opening]

/-- Every message ends in that of its cause. -/
theorem isChain_causes (f : Failure) :
    List.IsChain EndsIn (f.message :: f.causes) := by
  induction f with
  | scenarioFailed name cause ih =>
      refine List.isChain_cons_cons.2 ⟨?_, ih⟩
      exact ⟨opening name, opening_ne_empty name, rfl⟩
  | io reason =>
      refine List.isChain_cons_cons.2 ⟨?_, List.IsChain.singleton reason⟩
      exact ⟨"I/O error: ", by decide, rfl⟩
  | _ => exact List.IsChain.singleton _

/-- What stands behind a wrapped failure are the failures inside, from
outside in, and the error of the system that the innermost one tells. -/
theorem leads_wrapped (hf : ∀ name cause, f ≠ .scenarioFailed name cause)
    (names : List String) : Leads (wrapped names f).source?
      ((inner names f).map Cause.failure ++ systemCause f) := by
  induction names using List.reverseRecOn with
  | nil =>
      cases f with
      | scenarioFailed name cause => exact absurd rfl (hf name cause)
      | io => exact .cause .nothing
      | _ => exact .nothing
  | append_singleton names name ih =>
      rw [wrapped_concat, inner_concat]
      exact .cause ih

/-- A failure that is no wrap itself, wrapped any number of times: the
message is the names from outside in and then its own, the hint is its
own, and it is a close signal only without a wrap. The causes are exactly
the failures inside, then the error of the system if it tells one, and
each of the messages ends in the next one, which is shorter. -/
theorem wrapped_tells (names : List String) (f : Failure)
    (hf : ∀ name cause, f ≠ .scenarioFailed name cause) :
    (wrapped names f).message
        = String.join (names.reverse.map opening) ++ f.message
    ∧ (wrapped names f).hint = f.hint
    ∧ ((wrapped names f).isCloseSignal = true
        ↔ names = [] ∧ ∃ reason, f = .closed reason)
    ∧ (∀ cs, Leads (wrapped names f).source? cs
        ↔ cs = (inner names f).map Cause.failure ++ systemCause f)
    ∧ (wrapped names f).causes
        = ((inner names f).map Cause.failure ++ systemCause f).map Cause.message
    ∧ List.IsChain EndsIn
        ((wrapped names f).message :: (wrapped names f).causes) := by
  have hleads := leads_wrapped hf names
  refine ⟨message_wrapped names f, hint_wrapped names f,
    isCloseSignal_wrapped_iff, fun cs => ?_, hleads.causes_eq,
    isChain_causes _⟩
  constructor
  · exact fun h => h.unique hleads
  · rintro rfl
    exact hleads

/-- An error of the connection behind two wraps: both names stand in the
message, and the chain of causes goes down to what the system said. -/
theorem wrapped_tells_io :
    (∀ name cause, io "broken pipe" ≠ .scenarioFailed name cause)
      ∧ (wrapped ["max_data", "all"] (io "broken pipe")).message
        = "scenario 'all' failed: scenario 'max_data' failed: "
          ++ "I/O error: broken pipe"
      ∧ (wrapped ["max_data", "all"] (io "broken pipe")).causes
        = ["scenario 'max_data' failed: I/O error: broken pipe",
          "I/O error: broken pipe", "broken pipe"] := by
  have hf : ∀ name cause, io "broken pipe" ≠ .scenarioFailed name cause := by
    intro name cause h
    cases h
  have htells := wrapped_tells ["max_data", "all"] (io "broken pipe") hf
  exact ⟨hf, htells.1.trans (by decide),
    htells.2.2.2.2.1.trans (by decide)⟩

end PairingHarness.Failure
