/-
What the report of a run says.

A report is made of lines (`Line`), each of one print. What is printed
along the way and at the end of a run is put together from what an
observer was told and from what came of the run (`runReport_ok`,
`runReport_error`); `Reports` says which lines there are for each way in
which a run that was accepted can end, and `makeRun_reports` that the run
ends in one of these ways with these lines, or waits for ever.

A line can hold a line break of its own, from an address or from what the
service gave as a reason. Where none does, the lines are what the output
is parted into by its line breaks (`rows_shown`).

`Agrees` is the tie between the text and the run: the exit is success
exactly where all scenarios pass, and then the last line says so and no
line tells an error, and otherwise there is such a line. The proof goes
through what an observer is told, in the order in which it is told, so
the order of the lines is the order of the events.
-/
import PairingHarness.Proofs.CommandLine.Checking
import PairingHarness.Proofs.Conformance

namespace PairingHarness.CommandLine

open Conformance Host Network

variable {s : Settings} {a : RunArguments} {c : Checked}
  {chances : Nat → Chance} {w w' : World} {m m' : Machine}
  {lines : List Line}

-- ======================================================= the statement

/-- A line of a report. -/
inductive Line where
  /-- Where the run is made. -/
  | opening (s : Settings)
  /-- A scenario passed. -/
  | passed (kind : ScenarioKind) (elapsed : Nat)
  /-- A scenario failed, and what ended it. -/
  | failed (kind : ScenarioKind) (cause : Failure)
  | blank
  /-- The failure of the run. -/
  | error (e : Failure)
  /-- The advice that goes with it. -/
  | hint (advice : String)
  /-- All scenarios passed. -/
  | allPassed (count elapsed : Nat)

/-- The text of a line, without the line break behind it. -/
def Line.text : Line → String
  | opening s =>
      if s.launchesService then
        "Launching " ++ s.appPath ++ " on " ++ s.baseUrl
      else "Testing running service at " ++ s.baseUrl
  | passed kind elapsed =>
      "  ✓ " ++ padded kind.name ++ " " ++ Decimal.seconds elapsed ++ "s"
  | failed kind cause => "  × " ++ padded kind.name ++ " " ++ cause.message
  | blank => ""
  | error e => "ERR:: " ++ e.message
  | hint advice => "  → " ++ advice
  | allPassed count elapsed =>
      "✓ All scenarios passed (" ++ toString count ++ " scenarios in "
        ++ Decimal.seconds elapsed ++ "s)"

@[simp]
theorem Line.text_opening (s : Settings) : (Line.opening s).text
    = if s.launchesService then
        "Launching " ++ s.appPath ++ " on " ++ s.baseUrl
      else "Testing running service at " ++ s.baseUrl := rfl

@[simp]
theorem Line.text_passed (kind : ScenarioKind) (elapsed : Nat) :
    (Line.passed kind elapsed).text
      = "  ✓ " ++ padded kind.name ++ " " ++ Decimal.seconds elapsed
        ++ "s" := rfl

@[simp]
theorem Line.text_failed (kind : ScenarioKind) (cause : Failure) :
    (Line.failed kind cause).text
      = "  × " ++ padded kind.name ++ " " ++ cause.message := rfl

@[simp]
theorem Line.text_blank : Line.blank.text = "" := rfl

@[simp]
theorem Line.text_error (e : Failure) :
    (Line.error e).text = "ERR:: " ++ e.message := rfl

@[simp]
theorem Line.text_hint (advice : String) :
    (Line.hint advice).text = "  → " ++ advice := rfl

@[simp]
theorem Line.text_allPassed (count elapsed : Nat) :
    (Line.allPassed count elapsed).text
      = "✓ All scenarios passed (" ++ toString count ++ " scenarios in "
        ++ Decimal.seconds elapsed ++ "s)" := rfl

/-- Lines as they are printed. -/
def shown (lines : List Line) : String :=
  String.join (lines.map fun line => line.text ++ "\n")

/-- The lines of scenarios that passed. -/
def passLines (passed : List (ScenarioKind × Nat)) : List Line :=
  passed.map fun x => .passed x.1 x.2

/-- The lines at the end of a run that failed. -/
def errorLines (e : Failure) : List Line :=
  .blank :: .error e :: (e.hint.map Line.hint).toList

/-- The service is there and every scenario passes. -/
def AllPass (c : Checked) (chances : Nat → Chance) (w : World)
    (m : Machine) : Prop :=
  ∃ service m' passed w', Serves c.plan m c.effective service m'
    ∧ Passes c.effective c.plan.timing chances w passed w'
    ∧ passed.map Prod.fst = c.kinds

/-- The service is there, some scenarios pass, and the next one waits for
what never comes. -/
def Waits (c : Checked) (chances : Nat → Chance) (w : World)
    (m : Machine) : Prop :=
  ∃ service m' passed kind later w₁ w',
    Serves c.plan m c.effective service m'
      ∧ c.kinds = passed.map Prod.fst ++ kind :: later
      ∧ Passes c.effective c.plan.timing chances w passed w₁
      ∧ Scenario.run ⟨c.effective, c.plan.timing, chances passed.length⟩
          kind w₁ = (.stalled, w')

/-- The lines of the report of a run, by how the run went. -/
inductive Reports (c : Checked) (chances : Nat → Chance) (w : World)
    (m : Machine) : List Line → Prop where
  /-- Every scenario passed. -/
  | passed {service : Option Pid} {m' : Machine} {w' : World}
      {passed : List (ScenarioKind × Nat)}
      (hserves : Serves c.plan m c.effective service m')
      (hpasses : Passes c.effective c.plan.timing chances w passed w')
      (hkinds : c.kinds = passed.map Prod.fst) (elapsed : Nat) :
      Reports c chances w m (.opening c.effective :: passLines passed
        ++ [.blank, .allPassed c.kinds.length elapsed])
  /-- Some passed and the next one failed. -/
  | failed {service : Option Pid} {m' : Machine} {w₁ w' : World}
      {passed : List (ScenarioKind × Nat)} {kind : ScenarioKind}
      {cause : Failure} {later : List ScenarioKind}
      (hserves : Serves c.plan m c.effective service m')
      (hpasses : Passes c.effective c.plan.timing chances w passed w₁)
      (hrun : Scenario.run
          ⟨c.effective, c.plan.timing, chances passed.length⟩ kind w₁
        = (.failed (.scenarioFailed kind.name cause), w'))
      (hkinds : c.kinds = passed.map Prod.fst ++ kind :: later) :
      Reports c chances w m (.opening c.effective :: passLines passed
        ++ .failed kind cause
          :: errorLines (.scenarioFailed kind.name cause))
  /-- The service could not be started. -/
  | unstarted {e : Failure} {m' : Machine}
      (hunstarted : Unstarted c.plan m c.effective e m') :
      Reports c chances w m (.opening c.effective :: errorLines e)

/-- The output agrees with how the run went. -/
structure Agrees (c : Checked) (chances : Nat → Chance) (w : World)
    (m : Machine) (lines : List Line) (out : Output) : Prop where
  stdout : out.stdout = shown lines
  /-- Where no line has a line break in it, the rows are the lines. -/
  rows : (∀ line ∈ lines, '\n' ∉ line.text.toList) →
    out.stdout.toList.splitOn '\n'
      = lines.map (fun line => line.text.toList) ++ [[]]
  exit : out.exit = 0 ↔ AllPass c chances w m
  error : (∃ e, .error e ∈ lines) ↔ out.exit ≠ 0
  allPassed : (∃ count elapsed, .allPassed count elapsed ∈ lines)
    ↔ out.exit = 0

-- ========================================================= the printing

theorem shown_nil : shown [] = "" := by
  simp [shown]

theorem shown_singleton (line : Line) :
    shown [line] = line.text ++ "\n" := by
  simp [shown]

theorem shown_append (lines lines' : List Line) :
    shown (lines ++ lines') = shown lines ++ shown lines' := by
  simp [shown]

theorem shown_cons (line : Line) (lines : List Line) :
    shown (line :: lines) = line.text ++ "\n" ++ shown lines := by
  simp [shown]

/-- Where no line has a line break in it, the line breaks part the output
into the lines. -/
theorem rows_shown (h : ∀ line ∈ lines, '\n' ∉ line.text.toList) :
    (shown lines).toList.splitOn '\n'
      = lines.map (fun line => line.text.toList) ++ [[]] := by
  have hlist : (shown lines).toList = ['\n'].intercalate
      (lines.map (fun line => line.text.toList) ++ [[]]) := by
    induction lines with
    | nil => rfl
    | cons line lines ih =>
        rw [shown_cons, String.toList_append, String.toList_append,
          ih fun x hx => h x (List.mem_cons_of_mem _ hx)]
        cases lines <;> simp [List.intercalate]
  rw [hlist]
  refine List.splitOn_intercalate '\n' ?_ (by simp)
  intro row hrow
  rcases List.mem_append.1 hrow with hrow | hrow
  · obtain ⟨line, hline, rfl⟩ := List.mem_map.1 hrow
    exact h line hline
  · simp at hrow
    simp [hrow]

/-- The line of what an observer is told, if there is one. -/
def lineOf : Progress → List Line
  | .started _ => []
  | .passed kind elapsed => [.passed kind elapsed]
  | .failed kind e => [.failed kind (innermost e)]

/-- What is printed for a piece of progress is the line of it, or nothing.
-/
theorem shown_lineOf (p : Progress) :
    shown (lineOf p) = progressLine p := by
  cases p with
  | started kind => exact shown_nil
  | passed kind elapsed =>
      have hend : "s\n" = "s" ++ "\n" := by simp
      show shown [.passed kind elapsed]
        = "  ✓ " ++ padded kind.name ++ " " ++ Decimal.seconds elapsed
          ++ "s\n"
      rw [shown_singleton, Line.text_passed, hend]
      simp only [String.append_assoc]
  | failed kind e =>
      rw [lineOf, shown_singleton, Line.text_failed]
      rfl

theorem shown_progress (progress : List Progress) :
    shown (progress.flatMap lineOf)
      = String.join (progress.map progressLine) := by
  induction progress with
  | nil => rfl
  | cons p progress ih =>
      rw [List.flatMap_cons, shown_append, shown_lineOf, ih]
      simp

/-- Scenarios that passed are one line each. -/
theorem lineOf_told (passed : List (ScenarioKind × Nat)) :
    (told passed).flatMap lineOf = passLines passed := by
  induction passed with
  | nil => rfl
  | cons x passed ih =>
      show _ :: (told passed).flatMap lineOf = _
      rw [ih]
      rfl

theorem opening_eq_shown (s : Settings) :
    opening s = shown [.opening s] := by
  rw [shown_singleton, Line.text_opening]
  unfold opening
  by_cases hcommand : s.launchesService = true
  · rw [if_pos hcommand, if_pos hcommand]
  · rw [if_neg hcommand, if_neg hcommand]

theorem closing_eq_shown (summary : Summary) :
    closing summary
      = shown [.blank, .allPassed summary.passed.length summary.elapsed] := by
  have hstart : "\n✓ All scenarios passed ("
      = "\n" ++ "✓ All scenarios passed (" := by simp
  have hend : "s)\n" = "s)" ++ "\n" := by simp
  unfold closing
  rw [shown_cons, shown_singleton, Line.text_blank, Line.text_allPassed,
    hstart, hend]
  simp only [String.append_assoc, String.empty_append]

/-- A failure is told in one line, and its hint in another where it has one.
-/
theorem failureLines_eq_shown (e : Failure) :
    failureLines e = shown (errorLines e) := by
  have hstart : "\nERR:: " = "\n" ++ "ERR:: " := by simp
  unfold failureLines errorLines
  rw [shown_cons, shown_cons, Line.text_blank, Line.text_error, hstart]
  cases e.hint with
  | none =>
      rw [Option.map_none, Option.toList_none, shown_nil]
      simp only [String.append_assoc, String.empty_append]
  | some advice =>
      rw [Option.map_some, Option.toList_some, shown_singleton,
        Line.text_hint]
      simp only [String.append_assoc, String.empty_append]

/-- The report of a run in which all scenarios passed. -/
theorem runReport_ok (s : Settings) (progress : List Progress)
    (summary : Summary) :
    runReport s ⟨progress, .ok summary⟩
      = .success (shown (.opening s :: progress.flatMap lineOf
          ++ [.blank, .allPassed summary.passed.length
              summary.elapsed])) := by
  simp only [runReport]
  rw [opening_eq_shown, closing_eq_shown, ← shown_progress, ← shown_append,
    ← shown_append]
  rfl

/-- The report of one that failed. -/
theorem runReport_error (s : Settings) (progress : List Progress)
    (e : Failure) :
    runReport s ⟨progress, .error e⟩
      = .failure (shown (.opening s :: progress.flatMap lineOf
          ++ errorLines e)) "conformance run failed" := by
  simp only [runReport]
  rw [opening_eq_shown, failureLines_eq_shown, ← shown_progress,
    ← shown_append, ← shown_append]
  rfl

/-- The report of a run in which all scenarios passed. -/
theorem runReport_passed (s : Settings) (service : Option Pid)
    (elapsed : Nat) (passed : List (ScenarioKind × Nat)) :
    runReport s (summarized service elapsed ⟨told passed, .ok passed⟩)
      = .success (shown (.opening s :: passLines passed
          ++ [.blank, .allPassed passed.length elapsed])) := by
  rw [← lineOf_told]
  exact runReport_ok s (told passed) ⟨passed, service, elapsed⟩

/-- The report of a run in which a scenario failed. -/
theorem runReport_failed (s : Settings) (service : Option Pid)
    (elapsed : Nat) (passed : List (ScenarioKind × Nat))
    (kind : ScenarioKind) (cause : Failure) :
    runReport s (summarized service elapsed
        ⟨told passed ++ [.started kind,
            .failed kind (.scenarioFailed kind.name cause)],
          .error (.scenarioFailed kind.name cause)⟩)
      = .failure (shown (.opening s :: passLines passed
          ++ .failed kind cause
            :: errorLines (.scenarioFailed kind.name cause)))
          "conformance run failed" := by
  have hlines : (told passed ++ [Progress.started kind,
        .failed kind (.scenarioFailed kind.name cause)]).flatMap lineOf
      = passLines passed ++ [.failed kind cause] := by
    rw [List.flatMap_append, lineOf_told]
    rfl
  have hreport := runReport_error s
    (told passed ++ [.started kind,
      .failed kind (.scenarioFailed kind.name cause)])
    (.scenarioFailed kind.name cause)
  rw [hlines, List.cons_append, List.append_assoc, List.singleton_append]
    at hreport
  exact hreport

-- ============================================================= the run

/-- The settings that the report names are those that the run is made with.
-/
theorem effective_of_check (hcheck : check s a = .ok c) :
    c.plan.effective = .ok c.effective := by
  by_cases h : Faultless a
  · obtain ⟨kinds, overrides, effective, -, -, hwith, hok⟩ :=
      check_of_faultless h s
    rw [hok] at hcheck
    cases hcheck
    exact hwith
  · obtain ⟨r, hr⟩ := exists_firstFault h
    rw [check_of_firstFault hr s] at hcheck
    cases hcheck

/-- A run that ends leaves its report. -/
theorem makeRun_of_done {account : Account Summary} {out : Output}
    (hcheck : check s a = .ok c)
    (hrun : run c.plan chances c.kinds w m = (.done account, w', m'))
    (hreport : runReport c.effective account = out) :
    makeRun s a chances w m = (some out, w', m') := by
  rw [makeRun_of_accepted hcheck hrun, ← hreport]
  rfl

theorem agrees_success (hall : AllPass c chances w m)
    (herror : ∀ e, Line.error e ∉ lines) (count elapsed : Nat)
    (hlast : Line.allPassed count elapsed ∈ lines) :
    Agrees c chances w m lines (.success (shown lines)) where
  stdout := rfl
  rows := rows_shown
  exit := iff_of_true rfl hall
  error := by
    refine iff_of_false ?_ (fun hne => hne rfl)
    rintro ⟨e, he⟩
    exact herror e he
  allPassed := iff_of_true ⟨count, elapsed, hlast⟩ rfl

theorem agrees_failure (hall : ¬AllPass c chances w m) (e : Failure)
    (herror : Line.error e ∈ lines)
    (hlast : ∀ count elapsed, Line.allPassed count elapsed ∉ lines)
    (reason : String) :
    Agrees c chances w m lines (.failure (shown lines) reason) where
  stdout := rfl
  rows := rows_shown
  exit := iff_of_false Nat.one_ne_zero hall
  error := iff_of_true ⟨e, herror⟩ Nat.one_ne_zero
  allPassed := by
    refine iff_of_false ?_ Nat.one_ne_zero
    rintro ⟨count, elapsed, hmem⟩
    exact hlast count elapsed hmem

/-- An accepted run ends with a report or waits for ever. Where it ends,
its lines are as the run went: a line for each scenario that passed, in
their order, then one for a scenario that failed, with its cause, then
the failure of the run and its advice, or that all have passed. The run
succeeds exactly when every scenario that was selected passes. -/
theorem makeRun_reports (hcheck : check s a = .ok c)
    (chances : Nat → Chance) (w : World) (m : Machine) :
    (∃ lines out w' m', makeRun s a chances w m = (some out, w', m')
        ∧ Reports c chances w m lines ∧ Agrees c chances w m lines out)
      ∨ (Waits c chances w m
        ∧ ∃ w' m', makeRun s a chances w m = (none, w', m')) := by
  have heffective := effective_of_check hcheck
  rcases serves_or_unstarted heffective m with
    ⟨service, m', hserves⟩ | ⟨e, m', hunstarted⟩
  -- the service is there: the list of scenarios ends in one of three ways,
  -- each with its own report
  · obtain ⟨passed, o, w', hgoes⟩ :=
      exists_goes c.effective c.plan.timing chances c.kinds w
    obtain ⟨elapsed, hrun⟩ :=
      run_of_serves hserves (runScenarios_of_goes hgoes)
    -- stated before the split, where the list is still the whole plan
    have hall : AllPass c chances w m → passed.map Prod.fst = c.kinds := by
      rintro ⟨_, _, other, w₂, -, hother, hkinds⟩
      exact hgoes.all_of_passes hother hkinds
    generalize hkinds : c.kinds = kinds at hgoes hall
    cases hgoes with
    | ends hpasses =>
        have hcount : passed.length = c.kinds.length := by simp [hkinds]
        have hreport :=
          runReport_passed c.effective service elapsed passed
        rw [hcount] at hreport
        refine .inl ⟨_, _, w', m', makeRun_of_done hcheck hrun hreport,
          .passed hserves hpasses hkinds elapsed, ?_⟩
        exact agrees_success
          ⟨service, m', passed, w', hserves, hpasses, hkinds.symm⟩
          (by simp [passLines]) c.kinds.length elapsed (by simp)
    | @fails _ kind cause w₁ _ hpasses hnext later =>
        have hreport :=
          runReport_failed c.effective service elapsed passed kind cause
        refine .inl ⟨_, _, w', m', makeRun_of_done hcheck hrun hreport,
          .failed hserves hpasses hnext hkinds, ?_⟩
        refine agrees_failure (fun h => ?_)
          (.scenarioFailed kind.name cause) (by simp [errorLines])
          (by simp [passLines, errorLines]) _
        simpa using hall h
    | waits hpasses hnext later =>
        exact .inr ⟨⟨service, m', passed, _, later, _, w', hserves, hkinds,
          hpasses, hnext⟩, w', m', makeRun_of_accepted hcheck hrun⟩
  -- no service: no scenario has begun, and the report is the error alone
  · have hrun := run_of_unstarted heffective hunstarted chances c.kinds w
    have hreport := runReport_error c.effective [] e
    refine .inl ⟨_, _, w, m', makeRun_of_done hcheck hrun hreport,
      .unstarted hunstarted, ?_⟩
    refine agrees_failure ?_ e (by simp [errorLines])
      (by simp [errorLines]) _
    rintro ⟨_, _, _, _, hserves, -⟩
    exact hserves.not_unstarted hunstarted

/-- What is asked of a run of three scenarios against a service that
relays once. -/
def onceArguments : RunArguments :=
  ⟨["max_exchange", "simple-relay", "bad_channel"], [], .defaults,
    Supervisor.defaultStartupGrace⟩

/-- What that run leaves where the service takes no third connection. -/
def onceOutput : Output :=
  .failure
    ("Launching ../target/debug/channelserver on ws://localhost:8000\n"
      ++ "  ✓ max_exchange   0.0s\n"
      ++ "  × simple_relay   connection refused by service: HTTP 503\n"
      ++ "\n"
      ++ "ERR:: scenario 'simple_relay' failed: "
      ++ "connection refused by service: HTTP 503\n"
      ++ "  → Is the service listening on the configured TEST_HOST "
      ++ "and TEST_PORT?\n")
    "conformance run failed"

/-- The first scenario passes, the second is refused its connection, and
the third is not run. -/
theorem makeRun_reports_refused :
    ∃ c lines w' m', check oncePlan.settings onceArguments = .ok c
      ∧ c.kinds = [.maxExchange, .simpleRelay, .badChannel]
      ∧ makeRun oncePlan.settings onceArguments
          (fun _ => Scenario.oneExchange.chance)
          (World.start relayingOncePair) (Machine.start idling)
        = (some onceOutput, w', m')
      ∧ Reports c (fun _ => Scenario.oneExchange.chance)
          (World.start relayingOncePair) (Machine.start idling) lines
      ∧ onceOutput.stdout = shown lines
      ∧ ¬AllPass c (fun _ => Scenario.oneExchange.chance)
          (World.start relayingOncePair) (Machine.start idling) := by
  have hcheck : check oncePlan.settings onceArguments
      = .ok ⟨oncePlan, oncePlan.settings,
        [.maxExchange, .simpleRelay, .badChannel]⟩ := rfl
  have hout : (makeRun oncePlan.settings onceArguments
      (fun _ => Scenario.oneExchange.chance)
      (World.start relayingOncePair) (Machine.start idling)).1
        = some onceOutput := by
    decide +kernel
  rcases makeRun_reports hcheck (fun _ => Scenario.oneExchange.chance)
    (World.start relayingOncePair) (Machine.start idling) with
    ⟨lines, out, w', m', hmake, hreports, hagrees⟩ | ⟨-, w', m', hmake⟩
  · rw [hmake] at hout
    obtain rfl : out = onceOutput := Option.some.inj hout
    exact ⟨_, lines, w', m', hcheck, rfl, hmake, hreports, hagrees.stdout,
      mt hagrees.exit.2 Nat.one_ne_zero⟩
  · rw [hmake] at hout
    cases hout

end PairingHarness.CommandLine
