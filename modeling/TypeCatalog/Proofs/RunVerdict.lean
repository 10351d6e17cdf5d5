import TypeCatalog.Proofs.BatchDump
import TypeCatalog.Proofs.RefusalSchedule
import TypeCatalog.Run

/-!
# The exit code is a verdict on the document

A run that asks for no report exits with 0 if it has found its settings, has
opened its destination, has come to the end of its sources and no call of its
stream was refused; then the destination holds the whole document.  In every
other case it exits with 1.
-/

namespace TypeCatalog

open Document
open Text (CodeText)

/-! ## Settings -/

namespace Settings

def fileEntries (files : FileTree) (environment : Environment) (request : Request) :
    Except Fault Entries :=
  match Text.proper? request.file with
  | some path => (load files (request.strict.getD (isStrict environment false)) path).result
  | none => .ok []

variable {files : FileTree} {environment : Environment} {request : Request}

theorem build_fst : (build files environment request).1 =
    (fileEntries files environment request).bind (combine request environment) := by
  unfold build fileEntries
  cases Text.proper? request.file with
  | none =>
      dsimp only
      cases (Except.ok [] : Except Fault Entries).bind (combine request environment) <;> rfl
  | some path =>
      dsimp only
      cases (load files (request.strict.getD (isStrict environment false)) path).result.bind
        (combine request environment) <;> rfl

theorem destination_several {requested : List CodeText} {fromFile : Option CodeText}
    (several : 1 < (requested ++ fromFile.toList).length) :
    destination requested fromFile = .error (.severalOutputs (requested ++ fromFile.toList)) := by
  unfold destination
  split
  · rename_i none
    simp [none] at several
  · rename_i single
    simp [single] at several
  · rfl

theorem build_several {entries : Entries}
    (loaded : fileEntries files environment request = .ok entries)
    (several : 1 < (request.outputs ++ (entries.text? .output).toList).length) :
    (build files environment request).1 =
      .error (.severalOutputs (request.outputs ++ (entries.text? .output).toList)) := by
  rw [build_fst, loaded]
  simp only [Except.bind, combine, destination_several several]
  rfl

end Settings

/-! ## Runs under a schedule -/

noncomputable def RunContext.under (context : RunContext) (schedule : Schedule) : RunContext :=
  { context with standardOutput := schedule.plan, outputFile := schedule.plan }

structure RunContext.Opening (context : RunContext) (arguments : Arguments) where
  settings : Settings
  destination : Destination
  notes : List Diagnostic
  built : (Settings.build context.files context.environment arguments.request).1 = .ok settings
  opened : context.openDestination settings.output = .ok (destination, notes)

namespace RunContext.Opening

variable {context : RunContext} {arguments : Arguments}

def dump (opening : context.Opening arguments) : DumpOutcome :=
  catalogSources opening.destination.files
    { opening.settings.options with output := opening.destination.place } arguments.sources

def events (opening : context.Opening arguments) : List Event :=
  opening.dump.segments.flatMap (·.events)

def closed (opening : context.Opening arguments) (schedule : Schedule) : Outlet :=
  schedule.conduct opening.destination.outlet opening.events

/-- The destination has the whole document, and its stream has taken every call. -/
structure Delivered (opening : context.Opening arguments) (schedule : Schedule)
    (outcome : RunOutcome) : Prop where
  ended : ∃ counts, opening.dump.result = .ok counts
  accepted : ¬ schedule.Refuses (opening.closed schedule).stream
  holds : (opening.closed schedule).stream.Holds (opening.events ++ [.flush])
  closes_eq : (opening.closed schedule).stream.closes = opening.destination.place.isSome.toNat
  output_eq : outcome.output =
    if opening.destination.place.isNone then Event.document opening.events else ""
  files_eq : outcome.files = match opening.destination.place with
    | some place => opening.destination.files.put place
        (Text.Utf8.encode (Event.document opening.events).toList)
    | none => context.files

end RunContext.Opening

/-- The ways in which a run fails. -/
inductive RunContext.Fails (context : RunContext) (schedule : Schedule) (arguments : Arguments) :
    Prop
  | settings {fault : Settings.Fault}
      (invalid : (Settings.build context.files context.environment arguments.request).1 =
        .error fault)
  | output {settings : Settings} {fault : AccessFault}
      (built : (Settings.build context.files context.environment arguments.request).1 =
        .ok settings)
      (unopened : context.openDestination settings.output = .error fault)
  | dump (opening : context.Opening arguments) {fault : DumpFault}
      (ended : opening.dump.result = .error fault)
  | refusal (opening : context.Opening arguments)
      (refused : schedule.Refuses (opening.closed schedule).stream)

/-! ## Attempts -/

theorem Document.Outlet.deliver_fst (outlet : Outlet) (segments : List Segment) :
    (outlet.deliver segments).1 = (outlet.acceptAll (segments.flatMap (·.events))).1 := by
  induction segments generalizing outlet with
  | nil => rfl
  | cons segment rest ih =>
      rw [List.flatMap_cons, Outlet.acceptAll_append, Outlet.deliver]
      exact ih _

@[simp]
theorem Document.Outlet.failed_withPlan (outlet : Outlet) (plan : FailurePlan) :
    (outlet.withPlan plan).failed = outlet.failed :=
  rfl

@[simp]
theorem Document.Outlet.content_withPlan (outlet : Outlet) (plan : FailurePlan) :
    (outlet.withPlan plan).stream.content = outlet.stream.content :=
  rfl

theorem Destination.attempt_eq {destination : Destination} {settings : Settings}
    {sources : List CodeText} {dump : DumpOutcome}
    (dumped : catalogSources destination.files
      { settings.options with output := destination.place } sources = dump) :
    ∃ reports, destination.attempt settings sources =
      { settings
        destination := some { destination with
          outlet := (destination.outlet.acceptAll (dump.segments.flatMap (·.events))).1.close.1 }
        result := dump.result.mapError .dump
        reports } := by
  simp only [Destination.attempt, dumped, ← Outlet.deliver_fst]
  exact ⟨_, rfl⟩

namespace RunContext

variable {context : RunContext} {arguments : Arguments} {schedule : Schedule}

theorem openDestination_under (name : Option CodeText) :
    (context.under schedule).openDestination name =
      (context.openDestination name).map fun opened =>
        ({ opened.1 with outlet := opened.1.outlet.withPlan schedule.plan }, opened.2) := by
  unfold openDestination
  cases name.filter (· != ("-" : CodeText)) with
  | none => rfl
  | some path =>
      dsimp only [under]
      cases context.files.create path <;> rfl

theorem openDestination_fresh {name : Option CodeText} {destination : Destination}
    {notes : List Diagnostic} (opened : context.openDestination name = .ok (destination, notes))
    (plan : FailurePlan) :
    (destination.outlet.withPlan plan).Received [] ∧
      destination.outlet.owned = destination.place.isSome ∧
      (destination.place = none → destination.files = context.files) := by
  unfold openDestination at opened
  split at opened
  · cases opened
    exact ⟨.fresh plan _ _, rfl, fun _ => rfl⟩
  · split at opened
    · cases opened
    · cases opened
      exact ⟨.fresh plan _ _, rfl, nofun⟩

theorem openDestination_file {name : Option CodeText} {path : CodeText} {destination : Destination}
    {notes : List Diagnostic} (named : name.filter (· != ("-" : CodeText)) = some path)
    (opened : context.openDestination name = .ok (destination, notes)) :
    destination.place.isSome = true := by
  unfold openDestination at opened
  rw [named] at opened
  dsimp only at opened
  split at opened
  · cases opened
  · cases opened
    rfl

theorem attempt_invalid {fault : Settings.Fault}
    (invalid : (Settings.build context.files context.environment arguments.request).1 =
      .error fault) : ∃ reports, context.attempt arguments =
        { result := .error (.settings fault), reports } := by
  unfold attempt
  generalize Settings.build context.files context.environment arguments.request = found
    at invalid ⊢
  rcases found with ⟨result, notes⟩
  cases invalid
  exact ⟨notes, rfl⟩

theorem attempt_unopened {settings : Settings} {fault : AccessFault}
    (built : (Settings.build context.files context.environment arguments.request).1 = .ok settings)
    (unopened : context.openDestination settings.output = .error fault) :
    ∃ reports, context.attempt arguments =
      { settings := some settings, result := .error (.output fault), reports } := by
  unfold attempt
  generalize Settings.build context.files context.environment arguments.request = found
    at built ⊢
  rcases found with ⟨result, notes⟩
  cases built
  simp only [unopened]
  exact ⟨notes, rfl⟩

theorem attempt_opened {settings : Settings} {destination : Destination} {notes : List Diagnostic}
    (built : (Settings.build context.files context.environment arguments.request).1 = .ok settings)
    (opened : context.openDestination settings.output = .ok (destination, notes)) :
    ∃ reports, context.attempt arguments =
      { destination.attempt settings arguments.sources with reports } := by
  unfold attempt
  generalize Settings.build context.files context.environment arguments.request = found
    at built ⊢
  rcases found with ⟨result, early⟩
  cases built
  simp only [opened]
  exact ⟨_, rfl⟩

theorem Opening.attempt_eq (opening : context.Opening arguments) (schedule : Schedule) :
    ∃ reports, (context.under schedule).attempt arguments =
      { settings := opening.settings
        destination := some { opening.destination with
          outlet := (opening.closed schedule).withPlan schedule.plan }
        result := opening.dump.result.mapError .dump
        reports } := by
  obtain ⟨fresh, -, -⟩ := openDestination_fresh opening.opened schedule.plan
  have opened : (context.under schedule).openDestination opening.settings.output = .ok
      ({ opening.destination with outlet := opening.destination.outlet.withPlan schedule.plan },
        opening.notes) := by
    rw [openDestination_under, opening.opened]
    rfl
  obtain ⟨reports, attempted⟩ := @attempt_opened (context.under schedule) arguments _ _ _
    opening.built opened
  obtain ⟨early, ended⟩ := @Destination.attempt_eq { opening.destination with
    outlet := opening.destination.outlet.withPlan schedule.plan } _ _ opening.dump rfl
  rw [ended] at attempted
  refine ⟨reports, attempted.trans ?_⟩
  rw [closed, Schedule.conduct_eq fresh]
  rfl

/-! ## Verdicts -/

theorem run_fails {fault : RunFault} {attempt : Attempt}
    (attempted : context.attempt arguments = attempt) (failed : attempt.result = .error fault)
    (unreported : arguments.reportDir = none) : (context.run arguments).exitCode = 1 := by
  unfold run
  rw [attempted]
  cases reported : fault.isReported with
  | true =>
      simp [Attempt.escaped?, Attempt.failure?, failed, reported, RunOutcome.withReport, unreported]
  | false => simp [Attempt.escaped?, failed, reported]

theorem run_ends {counts : WalkCounts × SourceCounts} {destination : Destination}
    {attempt : Attempt} (attempted : context.attempt arguments = attempt)
    (ended : attempt.result = .ok counts) (opened : attempt.destination = some destination)
    (unreported : arguments.reportDir = none) :
    (context.run arguments).exitCode = (if destination.outlet.failed then 1 else 0) ∧
      (context.run arguments).output = destination.standardOutput ∧
      (context.run arguments).files = destination.finalFiles := by
  unfold run
  rw [attempted]
  cases failed : destination.outlet.failed <;>
    simp [Attempt.escaped?, Attempt.failure?, ended, opened, failed, RunOutcome.withReport,
      unreported]

theorem Opening.unique (opening other : context.Opening arguments) : opening = other := by
  obtain ⟨settings, destination, notes, built, opened⟩ := opening
  obtain ⟨settings', destination', notes', built', opened'⟩ := other
  cases built.symm.trans built'
  cases opened.symm.trans opened'
  rfl

theorem Opening.closed_spec (opening : context.Opening arguments) (schedule : Schedule) :
    ((opening.closed schedule).failed = true ↔
        schedule.Refuses (opening.closed schedule).stream) ∧
      (opening.closed schedule).stream.closes = opening.destination.place.isSome.toNat ∧
      ((opening.closed schedule).failed = false →
        (opening.closed schedule).stream.Holds (opening.events ++ [.flush])) := by
  obtain ⟨fresh, owned, -⟩ := openDestination_fresh opening.opened schedule.plan
  rw [← owned, closed]
  exact Schedule.conduct_spec fresh opening.events

theorem Opening.delivered (opening : context.Opening arguments) {schedule : Schedule}
    {counts : WalkCounts × SourceCounts} (ended : opening.dump.result = .ok counts)
    (whole : (opening.closed schedule).failed = false) {outcome : RunOutcome}
    (output_eq : outcome.output = { opening.destination with
      outlet := (opening.closed schedule).withPlan schedule.plan }.standardOutput)
    (files_eq : outcome.files = { opening.destination with
      outlet := (opening.closed schedule).withPlan schedule.plan }.finalFiles) :
    opening.Delivered schedule outcome := by
  obtain ⟨failed_iff, closes_eq, holds⟩ := opening.closed_spec schedule
  obtain ⟨-, -, same_files⟩ := openDestination_fresh opening.opened schedule.plan
  have taken := holds whole
  have content_eq : (opening.closed schedule).stream.content = Event.document opening.events := by
    have silent : [Event.flush].filterMap Event.text? = [] := rfl
    rw [taken.content_eq, Event.document, List.filterMap_append, silent, List.append_nil,
      Event.document]
  refine ⟨⟨counts, ended⟩, ?_, taken, closes_eq, ?_, ?_⟩
  · intro refused
    rw [failed_iff.mpr refused] at whole
    cases whole
  · simp only [output_eq, Destination.standardOutput, Outlet.content_withPlan, content_eq]
  · cases place : opening.destination.place with
    | none => simp [files_eq, Destination.finalFiles, place, same_files place]
    | some place' => simp [files_eq, Destination.finalFiles, place, content_eq]

theorem Opening.verdict (opening : context.Opening arguments) (schedule : Schedule)
    (unreported : arguments.reportDir = none) :
    ((context.under schedule).run arguments).exitCode = 1 ∧ context.Fails schedule arguments ∨
      ((context.under schedule).run arguments).exitCode = 0 ∧
        opening.Delivered schedule ((context.under schedule).run arguments) := by
  obtain ⟨reports, attempted⟩ := opening.attempt_eq schedule
  cases ended : opening.dump.result with
  | error fault =>
      have failed : opening.dump.result.mapError RunFault.dump = .error (.dump fault) := by
        rw [ended]
        rfl
      exact .inl ⟨run_fails attempted failed unreported, .dump opening ended⟩
  | ok counts =>
      have succeeded : opening.dump.result.mapError RunFault.dump = .ok counts := by
        rw [ended]
        rfl
      obtain ⟨exit_eq, output_eq, files_eq⟩ := run_ends attempted succeeded rfl unreported
      rw [Outlet.failed_withPlan] at exit_eq
      cases failed : (opening.closed schedule).failed with
      | true =>
          have refused := (opening.closed_spec schedule).1.mp failed
          exact .inl ⟨exit_eq.trans (if_pos failed), .refusal opening refused⟩
      | false =>
          exact .inr ⟨exit_eq.trans (if_neg (ne_true_of_eq_false failed)),
            opening.delivered ended failed output_eq files_eq⟩

theorem Opening.Delivered.not_fails {opening : context.Opening arguments} {outcome : RunOutcome}
    (delivered : opening.Delivered schedule outcome) : ¬ context.Fails schedule arguments := by
  intro fails
  cases fails with
  | settings invalid => cases opening.built.symm.trans invalid
  | output built unopened =>
      cases opening.built.symm.trans built
      cases opening.opened.symm.trans unopened
  | dump other ended =>
      obtain ⟨counts, whole⟩ := delivered.ended
      rw [other.unique opening, whole] at ended
      cases ended
  | refusal other refused =>
      rw [other.unique opening] at refused
      exact delivered.accepted refused

theorem run_verdict (context : RunContext) (schedule : Schedule) (arguments : Arguments)
    (unreported : arguments.reportDir = none) :
    ((context.under schedule).run arguments).exitCode = 1 ∧ context.Fails schedule arguments ∨
      ((context.under schedule).run arguments).exitCode = 0 ∧
        ∃ opening : context.Opening arguments,
          opening.Delivered schedule ((context.under schedule).run arguments) := by
  cases built : (Settings.build context.files context.environment arguments.request).1 with
  | error fault =>
      obtain ⟨reports, attempted⟩ := @attempt_invalid (context.under schedule) arguments fault built
      exact .inl ⟨run_fails attempted rfl unreported, .settings built⟩
  | ok settings =>
      cases opened : context.openDestination settings.output with
      | error fault =>
          have unopened : (context.under schedule).openDestination settings.output =
              .error fault := by
            rw [openDestination_under, opened]
            rfl
          obtain ⟨reports, attempted⟩ := @attempt_unopened (context.under schedule) arguments _ _
            built unopened
          exact .inl ⟨run_fails attempted rfl unreported, .output built opened⟩
      | ok found =>
          obtain ⟨destination, notes⟩ := found
          have opening : context.Opening arguments := ⟨settings, destination, notes, built, opened⟩
          exact (opening.verdict schedule unreported).imp_right fun ⟨exit_eq, delivered⟩ =>
            ⟨exit_eq, opening, delivered⟩

/-- The exit code is 0 or 1.  It is 1 exactly if the run fails in one of the ways there are, and if
it is 0 the destination has the whole document.  A run with several destinations fails. -/
theorem exit_code_is_verdict (context : RunContext) (schedule : Schedule) (arguments : Arguments)
    (unreported : arguments.reportDir = none) :
    let outcome := (context.under schedule).run arguments
    (outcome.exitCode = 0 ∨ outcome.exitCode = 1) ∧
      (outcome.exitCode = 1 ↔ context.Fails schedule arguments) ∧
      (outcome.exitCode = 0 →
        ∃ opening : context.Opening arguments, opening.Delivered schedule outcome) ∧
      ∀ entries,
        Settings.fileEntries context.files context.environment arguments.request = .ok entries →
        1 < (arguments.outputs ++ (entries.text? .output).toList).length →
        outcome.exitCode = 1 := by
  intro outcome
  have several (entries : Settings.Entries) (loaded : Settings.fileEntries context.files
      context.environment arguments.request = .ok entries)
      (twice : 1 < (arguments.outputs ++ (entries.text? .output).toList).length) :
      context.Fails schedule arguments := .settings (Settings.build_several loaded twice)
  rcases context.run_verdict schedule arguments unreported with
    ⟨failed, fails⟩ | ⟨ended, opening, delivered⟩
  · have not_zero : outcome.exitCode ≠ 0 := by
      rw [show outcome.exitCode = 1 from failed]
      decide
    exact ⟨.inr failed, iff_of_true failed fails, fun zero => absurd zero not_zero,
      fun _ _ _ => failed⟩
  · have not_one : outcome.exitCode ≠ 1 := by
      rw [show outcome.exitCode = 0 from ended]
      decide
    exact ⟨.inl ended, iff_of_false not_one delivered.not_fails, fun _ => ⟨opening, delivered⟩,
      fun entries loaded twice => absurd (several entries loaded twice) delivered.not_fails⟩

def oneFunction : RunContext where
  files := singleSource (taggedFunction "number_literal" 55)
  runId := "r"

def ontoFile : Arguments :=
  { sources := ["a.h"], outputs := ["o.yml"], dumpAll := true }

def allAccepted : Schedule :=
  ⟨fun _ => false, fun _ => false, fun _ => false⟩

def closeRefused : Schedule :=
  ⟨fun _ => false, fun _ => false, fun _ => true⟩

theorem first_never : Schedule.first (fun _ => false) = none := by
  simp [Schedule.first]

theorem under_allAccepted : oneFunction.under allAccepted = oneFunction := by
  simp [under, Schedule.plan, allAccepted, first_never]
  rfl

/-- A run onto a file succeeds with a stream that takes everything, and fails if only the close is
refused, or with a second destination. -/
theorem oneFunction_verdicts :
    ontoFile.reportDir = none ∧
      (∃ opening : oneFunction.Opening ontoFile,
        opening.Delivered allAccepted ((oneFunction.under allAccepted).run ontoFile)) ∧
      ((oneFunction.under closeRefused).run ontoFile).exitCode = 1 ∧
      ((oneFunction.under allAccepted).run { ontoFile with outputs := ["o.yml", "-"] }).exitCode =
        1 := by
  have zero : ((oneFunction.under allAccepted).run ontoFile).exitCode = 0 := by
    rw [under_allAccepted]
    decide +kernel
  obtain ⟨-, -, delivered, -⟩ := exit_code_is_verdict oneFunction allAccepted ontoFile rfl
  obtain ⟨-, fails, -, -⟩ := exit_code_is_verdict oneFunction closeRefused ontoFile rfl
  obtain ⟨-, -, -, several⟩ := exit_code_is_verdict oneFunction allAccepted
    { ontoFile with outputs := ["o.yml", "-"] } rfl
  obtain ⟨opening, held⟩ := delivered zero
  have named : opening.settings.output = some "o.yml" := by
    have built := opening.built
    rw [Settings.build_fst] at built
    exact (congrArg Settings.output (Except.ok.inj built)).symm
  have placed : opening.destination.place.isSome = true := by
    refine @openDestination_file _ _ "o.yml" _ _ ?_ opening.opened
    rw [named]
    decide
  have closes_eq : (opening.closed closeRefused).stream.closes = 1 := by
    rw [(opening.closed_spec closeRefused).2.1, placed]
    rfl
  have refused : closeRefused.Refuses (opening.closed closeRefused).stream := by
    refine .inr (.inr ?_)
    rw [closes_eq]
    exact (refusedWithin_one _).mpr rfl
  refine ⟨rfl, ⟨opening, held⟩, fails.mpr (.refusal opening refused), several [] rfl (by decide)⟩

end RunContext

end TypeCatalog
