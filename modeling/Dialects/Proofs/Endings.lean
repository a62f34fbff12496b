import Mathlib.Logic.ExistsUnique
import Dialects.CommandLine.Run
import Dialects.Proofs.Attempts

/-!
# How a run ends

A run gets through its arguments, its settings, its document and the place for its result, in this
order, and each of them can end it (`run_cases`, `Options.perform_cases`). Whatever ends it, nothing
has been written before: a run prints or writes its result as the last thing it can fail at, and
all of it at once (`Job.outcome`). The one thing that is not foreseen is a name that no file can
have.
-/

namespace Dialects

/-- The exit status of a run that its arguments end. -/
def Halt.status : Halt → Nat
  | .help => 0
  | .misuse _ => 2

theorem Outcome.files_of_written_eq_none {o : Outcome} (h : o.written = none) (host : Host) :
    o.files host = host.files := by
  rw [Outcome.files, h]

theorem LogRecord.shown_append (threshold : LogLevel) (records more : List LogRecord) :
    shown threshold (records ++ more) = shown threshold records ++ shown threshold more := by
  simp only [shown, List.filter_append, List.flatMap_append]

namespace Host

variable (host : Host) {name : Text}

theorem document_eq_nullName_iff :
    host.document name = .error .nullName ↔ isNullName name = true := by
  unfold document
  split
  · rename_i hstandard
    simp [isNullName, hstandard]
  split
  · rename_i hnull
    simp [hnull]
  · rename_i hnull
    rw [mapError_eq_error_iff]
    simp [hnull]

theorem readDocument_of_isNullName (h : isNullName name = true) :
    host.readDocument name = .error ⟨name, .nullName⟩ := by
  rw [readDocument, (document_eq_nullName_iff host).2 h]
  rfl

variable {host}

theorem foreseen_of_readDocument {e : ReadError} (h : host.readDocument name = .error e) :
    e.foreseen = false ↔ isNullName name = true := by
  rw [← document_eq_nullName_iff host]
  rcases bind_eq_error_iff.1 h with h | ⟨bytes, hbytes, h⟩
  · obtain ⟨fault, hfault, rfl⟩ := mapError_eq_error_iff.1 h
    simp [ReadError.foreseen, hfault]
  · obtain ⟨fault, -, rfl⟩ := mapError_eq_error_iff.1 h
    simp [ReadError.foreseen, mapError_eq_ok_iff.1 hbytes]

end Host

/-- A document with the options and settings to convert it by, and the place for the result, which
is standard output if it is no file. -/
structure Job where
  options : Options
  settings : Settings
  name : Text
  text : Text
  target : Option Location

namespace Job

def direction (j : Job) : Direction := j.options.directionWith j.settings

def result (j : Job) : Converted :=
  convertDocument j.direction j.settings.codeLanguage j.options.swap j.text

def records (j : Job) : List LogRecord :=
  documentRecords j.direction j.settings.codeLanguage j.options.swap j.text

/-- What is done for the job: the whole result goes to its place, and the status says whether it is
without warnings, if that is asked for. -/
def outcome (j : Job) : Outcome where
  exit := .status (if j.options.strict && j.result.warnings ≠ [] then 1 else 0)
  output := if j.target = none then j.result.text ++ ['\n'] else []
  errors := LogRecord.shown j.settings.logLevel
    (j.records ++ [summary j.name j.direction j.result.warnings])
  written := j.target.map (·, Utf8.encode j.result.text)

/-- The document and the place are those that the options name, on this host. -/
structure IsFor (j : Job) (host : Host) : Prop where
  source : j.options.source host = .ok (j.name, j.text)
  target : ∃ name, j.options.outputName? = some name ∧ isNullName name = false
    ∧ host.target name = .ok j.target

theorem IsFor.perform_eq {j : Job} {host : Host} (h : j.IsFor host) :
    j.options.perform j.settings host = j.outcome := by
  obtain ⟨output, houtput, hnull, htarget⟩ := h.target
  simp only [Options.perform, h.source, houtput, hnull, htarget, outcome,
    LogRecord.shown_append]
  rfl

/-- The result is all that is written, and all of a file if it goes to one. -/
theorem get?_files_outcome (j : Job) (host : Host) (location : Location) :
    (j.outcome.files host).get? location
      = if j.target = some location then some (.file (Utf8.encode j.result.text))
        else host.files.get? location := by
  cases htarget : j.target with
  | none => simp [Outcome.files, outcome, htarget]
  | some l =>
    by_cases h : l = location
    · subst h
      simp [Outcome.files, outcome, htarget]
    · simp [Outcome.files, outcome, htarget, h, Files.get?_put_of_ne _ _ (Ne.symm h)]

theorem exit_outcome_eq_iff (j : Job) :
    j.outcome.exit = .status 1 ↔ j.options.strict = true ∧ j.result.warnings ≠ [] := by
  simp [outcome]

/-- A job leaves a trace, be it on standard output or in a file. -/
theorem output_or_written_outcome (j : Job) :
    ¬ (j.outcome.output = [] ∧ j.outcome.written = none) := by
  rintro ⟨houtput, hwritten⟩
  have htarget : j.target = none := by simpa [outcome] using hwritten
  simp [outcome, htarget] at houtput

end Job

namespace Options

/-- These are the settings of a run with these options. -/
def Loads (o : Options) (host : Host) (settings : Settings) : Prop :=
  Settings.load host.loader host.environment host.variableFile host.files o.configPath?
      = .ok settings
    ∧ o.config ≠ .nothing

/-- This error ends a run with these options while it loads its settings, and is not reported. -/
inductive LoadBreaks (o : Options) (host : Host) : Unforeseen → Prop
  | config {e : ConfigError}
    (h : Settings.load host.loader host.environment host.variableFile host.files o.configPath?
      = .error e)
    (hunforeseen : e.foreseen = false) : LoadBreaks o host (.config e)
  | noConfigName {settings : Settings}
    (h : Settings.load host.loader host.environment host.variableFile host.files o.configPath?
      = .ok settings)
    (hnothing : o.config = .nothing) : LoadBreaks o host .noConfigName

/-- A run with these options is kept from its result by an error that it reports in these words: in
its settings, in the reading of its document, or in the place for its result. -/
inductive Obstacle (o : Options) (host : Host) : Text → Prop
  | settings {e : ConfigError}
    (h : Settings.load host.loader host.environment host.variableFile host.files o.configPath?
      = .error e)
    (hforeseen : e.foreseen = true) : Obstacle o host e.message
  | document {settings : Settings} {e : ReadError} (hload : o.Loads host settings)
    (h : o.source host = .error e) (hforeseen : e.foreseen = true) : Obstacle o host e.message
  | place {settings : Settings} {found : Text × Text} {name : Text} {e : PathError}
    (hload : o.Loads host settings) (hsource : o.source host = .ok found)
    (hname : o.outputName? = some name) (h : host.target name = .error e) :
    Obstacle o host e.message

/-- A run with these options comes to a name that is none: that of the document, or, with the
document at hand, that of the output. -/
def HasUnusableName (o : Options) (host : Host) : Prop :=
  (o.sample = false ∧ isNullName o.input = true)
    ∨ (∃ found, o.source host = .ok found)
      ∧ ∀ name, o.outputName? = some name → isNullName name = true

/-- The one error of a document that is not reported is that its name is none. -/
theorem foreseen_of_source {o : Options} {host : Host} {e : ReadError}
    (h : o.source host = .error e) :
    e.foreseen = false ↔ o.sample = false ∧ isNullName o.input = true := by
  unfold source at h
  split at h
  · cases h
  rename_i hsample
  have hread := map_eq_error_iff.1 h
  rw [Host.foreseen_of_readDocument hread]
  simp [hsample]

theorem isNullName_of_source {o : Options} {host : Host} {found : Text × Text}
    (h : o.source host = .ok found) : ¬ (o.sample = false ∧ isNullName o.input = true) := by
  rintro ⟨hsample, hnull⟩
  simp [source, hsample, Host.readDocument_of_isNullName host hnull, Except.map] at h

/-- All that a run can do once its settings are loaded. -/
theorem perform_cases {o : Options} {host : Host} {settings : Settings}
    (hload : o.Loads host settings) :
    (o.HasUnusableName host ∧ ∃ log e, (e = .nullInPath ∨ e = .noOutputName)
        ∧ o.perform settings host = aborted log e)
      ∨ (¬ o.HasUnusableName host ∧ ∃ records message, o.Obstacle host message
        ∧ o.perform settings host = failed (LogRecord.shown settings.logLevel records) message)
      ∨ (¬ o.HasUnusableName host ∧ ∃ j : Job, j.options = o ∧ j.settings = settings
        ∧ j.IsFor host ∧ o.perform settings host = j.outcome) := by
  cases hsource : o.source host with
  | error e =>
    cases hforeseen : e.foreseen with
    | false =>
      refine .inl ⟨.inl ((foreseen_of_source hsource).1 hforeseen), [], .nullInPath, .inl rfl, ?_⟩
      simp [perform, hsource, hforeseen]
    | true =>
      refine .inr (.inl ⟨?_, [], e.message, .document hload hsource hforeseen, ?_⟩)
      · rintro (h | ⟨⟨found, h⟩, -⟩)
        · rw [← foreseen_of_source hsource, hforeseen] at h
          cases h
        · rw [hsource] at h
          cases h
      · simp [perform, hsource, hforeseen, LogRecord.shown]
  | ok found =>
    obtain ⟨name, text⟩ := found
    let records := documentRecords (o.directionWith settings) settings.codeLanguage o.swap text
    cases houtput : o.outputName? with
    | none =>
      refine .inl ⟨.inr ⟨⟨_, hsource⟩, by simp [houtput]⟩,
        LogRecord.shown settings.logLevel records, .noOutputName, .inr rfl, ?_⟩
      simp only [perform, hsource, houtput]
      rfl
    | some output =>
      cases hnull : isNullName output with
      | true =>
        refine .inl ⟨.inr ⟨⟨_, hsource⟩, by simp [houtput, hnull]⟩,
          LogRecord.shown settings.logLevel records, .nullInPath, .inl rfl, ?_⟩
        simp only [perform, hsource, houtput, hnull]
        rfl
      | false =>
        have hnames : ¬ o.HasUnusableName host := by
          rintro (h | ⟨-, h⟩)
          · exact isNullName_of_source hsource h
          · rw [h output houtput] at hnull
            cases hnull
        cases htarget : host.target output with
        | error e =>
          refine .inr (.inl ⟨hnames, records, e.message,
            .place hload hsource houtput htarget, ?_⟩)
          simp only [perform, hsource, houtput, hnull, htarget]
          rfl
        | ok target =>
          have hj : Job.IsFor ⟨o, settings, name, text, target⟩ host :=
            ⟨hsource, output, houtput, hnull, htarget⟩
          exact .inr (.inr ⟨hnames, _, rfl, rfl, hj, hj.perform_eq⟩)

end Options

/-- All that a run can do. -/
theorem run_cases (host : Host) (arguments : List Text) :
    (∃ halt, Options.ofArguments arguments = .error halt
        ∧ (run host arguments).exit = .status halt.status ∧ (run host arguments).written = none)
      ∨ ∃ o, Options.ofArguments arguments = .ok o
        ∧ ((∃ e,
            Settings.load host.loader host.environment host.variableFile host.files o.configPath?
                = .error e
              ∧ e.foreseen = true ∧ run host arguments = failed [] e.message)
          ∨ (∃ e, o.LoadBreaks host e ∧ run host arguments = aborted [] e)
          ∨ ∃ settings, o.Loads host settings
              ∧ run host arguments = o.perform settings host) := by
  cases harguments : Options.ofArguments arguments with
  | error halt =>
    refine .inl ⟨halt, rfl, ?_⟩
    cases halt <;> simp [run, harguments, Halt.status]
  | ok o =>
    refine .inr ⟨o, rfl, ?_⟩
    cases hload : Settings.load host.loader host.environment host.variableFile host.files
      o.configPath? with
    | error e =>
      cases hforeseen : e.foreseen with
      | true => exact .inl ⟨e, rfl, hforeseen, by simp [run, harguments, hload, hforeseen]⟩
      | false =>
        exact .inr (.inl ⟨.config e, .config hload hforeseen,
          by simp [run, harguments, hload, hforeseen]⟩)
    | ok settings =>
      by_cases hnothing : o.config = .nothing
      · exact .inr (.inl ⟨.noConfigName, .noConfigName hload hnothing,
          by simp [run, harguments, hload, hnothing]⟩)
      · exact .inr (.inr ⟨settings, ⟨hload, hnothing⟩, by simp [run, harguments, hload, hnothing]⟩)

/-- The job is what these arguments ask for on this host. -/
structure Job.IsOf (j : Job) (host : Host) (arguments : List Text) : Prop where
  options : Options.ofArguments arguments = .ok j.options
  loads : j.options.Loads host j.settings
  isFor : j.IsFor host

theorem Job.IsOf.run_eq {j : Job} {host : Host} {arguments : List Text}
    (h : j.IsOf host arguments) : run host arguments = j.outcome := by
  rw [← h.isFor.perform_eq]
  simp [run, h.options, h.loads.1, h.loads.2]

/-- A run that has written a file has done a job. -/
theorem exists_job_of_written {host : Host} {arguments : List Text}
    (h : (run host arguments).written ≠ none) : ∃ j : Job, j.IsOf host arguments := by
  rcases run_cases host arguments with ⟨-, -, -, hnone⟩ | ⟨o, hargs, ⟨e, -, -, hrun⟩ | ⟨e, -, hrun⟩
    | ⟨settings, hload, hrun⟩⟩
  · exact absurd hnone h
  · exact absurd (by rw [hrun]; rfl) h
  · exact absurd (by rw [hrun]; rfl) h
  rcases Options.perform_cases hload with ⟨-, log, e, -, hperform⟩
    | ⟨-, records, message, -, hperform⟩ | ⟨-, j, rfl, rfl, hj, -⟩
  · exact absurd (by rw [hrun, hperform]; rfl) h
  · exact absurd (by rw [hrun, hperform]; rfl) h
  · exact ⟨j, hargs, hload, hj⟩

/-- The ways in which a run is meant to end. -/
inductive Ending
  /-- The arguments ask for help or make no sense, and that is all the run is about. -/
  | explained
  | reported
  /-- The settings cannot be loaded, for a reason that is not reported. -/
  | unloaded
  /-- The document is converted, and the result is where it belongs. -/
  | converted

namespace Ending

variable (host : Host) (arguments : List Text)

/-- A run with these arguments ends in this way. -/
def IsOf : Ending → Prop
  | .explained => ∃ halt, Options.ofArguments arguments = .error halt
    ∧ (run host arguments).exit = .status halt.status ∧ (run host arguments).written = none
    ∧ (run host arguments).files host = host.files
  | .reported => ∃ o message, Options.ofArguments arguments = .ok o ∧ o.Obstacle host message
    ∧ (∃ level records, run host arguments = failed (LogRecord.shown level records) message)
    ∧ (run host arguments).files host = host.files
  | .unloaded => ∃ o e, Options.ofArguments arguments = .ok o ∧ o.LoadBreaks host e
    ∧ run host arguments = aborted [] e ∧ (run host arguments).files host = host.files
  | .converted => ∃ j : Job, Options.ofArguments arguments = .ok j.options
    ∧ j.options.Loads host j.settings ∧ j.IsFor host ∧ run host arguments = j.outcome
    ∧ ∀ location, ((run host arguments).files host).get? location
      = if j.target = some location then some (.file (Utf8.encode j.result.text))
        else host.files.get? location

/-- The only way in which a run can end, as its arguments and its outcome show. -/
def only : Ending :=
  match Options.ofArguments arguments, (run host arguments).exit with
  | .error _, _ => .explained
  | .ok _, .unforeseen _ => .unloaded
  | .ok _, .status _ =>
    if (run host arguments).output = [] ∧ (run host arguments).written = none then .reported
    else .converted

variable {host arguments}

theorem IsOf.eq_only : ∀ {e : Ending}, e.IsOf host arguments → e = only host arguments
  | .explained, ⟨halt, hargs, _⟩ => by simp only [only, hargs]
  | .reported, ⟨o, message, hargs, _, ⟨level, records, hrun⟩, _⟩ => by
    simp [only, hargs, hrun, failed]
  | .unloaded, ⟨o, e, hargs, _, hrun, _⟩ => by simp only [only, hargs, hrun, aborted]
  | .converted, ⟨j, hargs, _, _, hrun, _⟩ => by
    simp only [only, hargs, hrun, if_neg j.output_or_written_outcome]
    rfl

end Ending

/-- A run with these arguments comes to a name that is none, after it has loaded its settings. -/
def MeetsUnusableName (host : Host) (arguments : List Text) : Prop :=
  ∃ o settings, Options.ofArguments arguments = .ok o ∧ o.Loads host settings
    ∧ o.HasUnusableName host

theorem exists_aborted_of_meetsUnusableName {host : Host} {arguments : List Text}
    (h : MeetsUnusableName host arguments) :
    ∃ log e, (e = .nullInPath ∨ e = .noOutputName) ∧ run host arguments = aborted log e := by
  obtain ⟨o, settings, hargs, hload, hname⟩ := h
  have hrun : run host arguments = o.perform settings host := by
    simp [run, hargs, hload.1, hload.2]
  rcases Options.perform_cases hload with ⟨-, log, e, he, hperform⟩ | ⟨hnone, -⟩ | ⟨hnone, -⟩
  · exact ⟨log, e, he, hrun.trans hperform⟩
  · exact absurd hname hnone
  · exact absurd hname hnone

theorem not_isOf_of_meetsUnusableName {host : Host} {arguments : List Text}
    (h : MeetsUnusableName host arguments) (e : Ending) : ¬ e.IsOf host arguments := by
  obtain ⟨log, u, hu, hrun⟩ := exists_aborted_of_meetsUnusableName h
  obtain ⟨o, settings, hargs, hload, -⟩ := h
  cases e with
  | explained =>
    rintro ⟨halt, hhalt, -⟩
    rw [hargs] at hhalt
    cases hhalt
  | reported =>
    rintro ⟨-, message, -, -, ⟨level, records, hfailed⟩, -⟩
    rw [hrun] at hfailed
    cases congrArg Outcome.exit hfailed
  | unloaded =>
    rintro ⟨o', u', -, hbreaks, haborted, -⟩
    rw [hrun] at haborted
    obtain rfl : u = u' := by
      injection congrArg Outcome.exit haborted
    rcases hu with rfl | rfl <;> cases hbreaks
  | converted =>
    rintro ⟨j, -, -, -, houtcome, -⟩
    rw [hrun] at houtcome
    cases congrArg Outcome.exit houtcome

theorem exists_isOf {host : Host} {arguments : List Text}
    (h : ¬ MeetsUnusableName host arguments) : ∃ e : Ending, e.IsOf host arguments := by
  rcases run_cases host arguments with ⟨halt, hargs, hexit, hnone⟩
    | ⟨o, hargs, ⟨e, hload, hforeseen, hrun⟩ | ⟨e, hbreaks, hrun⟩ | ⟨settings, hload, hrun⟩⟩
  · exact ⟨.explained, halt, hargs, hexit, hnone, Outcome.files_of_written_eq_none hnone host⟩
  · refine ⟨.reported, o, e.message, hargs, .settings hload hforeseen, ⟨.debug, [], hrun⟩, ?_⟩
    exact Outcome.files_of_written_eq_none (by rw [hrun]; rfl) host
  · refine ⟨.unloaded, o, e, hargs, hbreaks, hrun, ?_⟩
    exact Outcome.files_of_written_eq_none (by rw [hrun]; rfl) host
  rcases Options.perform_cases hload with ⟨hname, -⟩
    | ⟨-, records, message, hobstacle, hperform⟩ | ⟨-, j, rfl, rfl, hj, hperform⟩
  · exact absurd ⟨o, settings, hargs, hload, hname⟩ h
  · refine ⟨.reported, o, message, hargs, hobstacle, ⟨_, records, hrun.trans hperform⟩, ?_⟩
    exact Outcome.files_of_written_eq_none (by rw [hrun, hperform]; rfl) host
  · refine ⟨.converted, j, hargs, hload, hj, hrun.trans hperform, fun location => ?_⟩
    rw [hrun, hperform, j.get?_files_outcome]

/-- A run ends in exactly one of the ways it is meant to, unless it comes to a name that no file can
have, or to an output without a name. Then it breaks off unforeseen, although its settings are
loaded, and it still prints and writes nothing. The direction is always one that has a name. -/
theorem existsUnique_isOf_iff (host : Host) (arguments : List Text) :
    ((∃! e : Ending, e.IsOf host arguments) ↔ ¬ MeetsUnusableName host arguments)
      ∧ (MeetsUnusableName host arguments →
        ∃ log e, (e = .nullInPath ∨ e = .noOutputName) ∧ run host arguments = aborted log e
          ∧ (run host arguments).files host = host.files)
      ∧ ∀ (o : Options) (settings : Settings),
        Direction.parse (o.directionWith settings).name = .ok (o.directionWith settings) := by
  refine ⟨⟨fun ⟨e, he, _⟩ h => not_isOf_of_meetsUnusableName h e he, fun h => ?_⟩, fun h => ?_,
    fun o settings => ?_⟩
  · obtain ⟨e, he⟩ := exists_isOf h
    exact ⟨e, he, fun e' he' => he'.eq_only.trans he.eq_only.symm⟩
  · obtain ⟨log, e, he, hrun⟩ := exists_aborted_of_meetsUnusableName h
    exact ⟨log, e, he, hrun, Outcome.files_of_written_eq_none (by rw [hrun]; rfl) host⟩
  · rw [Direction.parse, Direction.ofName?_name]

/-- A host with no files and nothing on standard input. -/
def Host.empty : Host := { files := Files.ofList [] [] }

theorem Options.loads_empty {o : Options} (h : o.config = .missing) : o.Loads Host.empty {} := by
  refine ⟨?_, by simp [h]⟩
  rw [configPath?, h]
  rfl

/-- A name with a null character for the document, hyphens in the place of a name for the output,
and a name that there is no file of. -/
theorem existsUnique_isOf_iff_names :
    (MeetsUnusableName .empty [['a', '\x00']]
        ∧ (run .empty [['a', '\x00']]).exit = .unforeseen .nullInPath
        ∧ ¬ ∃! e : Ending, e.IsOf .empty [['a', '\x00']])
      ∧ (MeetsUnusableName .empty ["--sample".toList, "-o--".toList]
        ∧ ¬ ∃! e : Ending, e.IsOf .empty ["--sample".toList, "-o--".toList])
      ∧ ∃! e : Ending, e.IsOf .empty [['a']] := by
  have hnull : MeetsUnusableName .empty [['a', '\x00']] :=
    ⟨{ input := ['a', '\x00'] }, {}, rfl, Options.loads_empty rfl, .inl ⟨rfl, by decide +kernel⟩⟩
  have hnothing : MeetsUnusableName .empty ["--sample".toList, "-o--".toList] :=
    ⟨{ output := .nothing, sample := true }, {}, rfl, Options.loads_empty rfl,
      .inr ⟨⟨("sample".toList, sampleMarkdown), rfl⟩, nofun⟩⟩
  have hmissing : ¬ MeetsUnusableName .empty [['a']] := by
    rintro ⟨o, settings, hargs, -, hname⟩
    obtain rfl : { input := ['a'] } = o := Except.ok.inj hargs
    rcases hname with ⟨-, hname⟩ | ⟨-, hname⟩
    · exact absurd hname (by decide +kernel)
    · exact absurd (hname standard rfl) (by decide +kernel)
  exact ⟨⟨hnull, rfl, fun h => (existsUnique_isOf_iff .empty _).1.1 h hnull⟩,
    ⟨hnothing, fun h => (existsUnique_isOf_iff .empty _).1.1 h hnothing⟩,
    (existsUnique_isOf_iff .empty _).1.2 hmissing⟩

end Dialects
