import Dialects.Proofs.Characters
import Dialects.Proofs.FileFrame

/-!
# There and back through a file

A run that converts a document there and back does what two runs do, of which the first writes the
converted document to a file and the second converts that file back (`run_swap`). The second reads
what the first has written, as no conversion brings a carriage return into a text
(`Direction.return_notMem_convert`), and the place for its result is the same as before the first,
as a write stands in no way (`Files.target_put_eq_ok_iff`).
-/

namespace Dialects

theorem convertDocument_swap (d : Direction) (default s : Text) :
    convertDocument d default true s
      = ⟨(convertDocument d.reversed default false (convertDocument d default false s).text).text,
        (convertDocument d default false s).warnings
          ++ (convertDocument d.reversed default false
            (convertDocument d default false s).text).warnings⟩ :=
  rfl

theorem documentRecords_swap (d : Direction) (default s : Text) :
    documentRecords d default true s
      = documentRecords d default false s
        ++ documentRecords d.reversed default false (convertDocument d default false s).text := by
  simp [documentRecords, convertDocument]

/-- What the arguments of a run ask for: a document, a direction, and a file for the result. The
configuration is that in a file, if one is named. -/
structure Request where
  input : Text
  direction : Direction
  swap : Bool
  output : Text
  strict : Bool
  config? : Option Text

namespace Request

def arguments (r : Request) : List Text :=
  [r.input, ['-', 'd'], r.direction.name] ++ (if r.swap then ["--swap".toList] else [])
    ++ [['-', 'o'], r.output] ++ (if r.strict then ["--strict".toList] else [])
    ++ r.config?.elim [] fun name => [['-', 'c'], name]

def words (r : Request) : List Word :=
  [.plain r.input, .option .direction false none, .plain r.direction.name]
    ++ (if r.swap then [.option .swap true none] else [])
    ++ [.option .output false none, .plain r.output]
    ++ (if r.strict then [.option .strict true none] else [])
    ++ r.config?.elim [] fun name => [.option .config false none, .plain name]

def configPath? (r : Request) : Option Path := r.config?.map Path.ofText

def options (r : Request) : Options where
  input := r.input
  output := .value r.output
  direction := .value r.direction
  config := r.config?.elim .missing fun name => .value (Path.ofText name)
  swap := r.swap
  strict := r.strict

/-- No name in the arguments could be taken for an option. -/
structure HasPlainNames (r : Request) : Prop where
  input : Word.ofArgument r.input = .ok (.plain r.input)
  output : Word.ofArgument r.output = .ok (.plain r.output)
  config : ∀ name ∈ r.config?, Word.ofArgument name = .ok (.plain name)

/-- The request for the way there alone, to the file in between. -/
def there (r : Request) (between : Text) : Request := { r with swap := false, output := between }

/-- The request for the way back alone, from the file in between. -/
def back (r : Request) (between : Text) : Request :=
  { r with swap := false, input := between, direction := r.direction.reversed }

end Request

theorem Word.ofArguments_of_forall₂ {arguments : List Text} {words : List Word}
    (h : List.Forall₂ (fun argument word => ofArgument argument = .ok word) arguments words) :
    ofArguments arguments = .ok words := by
  induction h with
  | nil => rfl
  | @cons argument word arguments words hword _ ih =>
    have hseparator : argument ≠ ['-', '-'] := by
      rintro rfl
      cases hword
    rw [ofArguments, if_neg hseparator, hword, ih]
    rfl

namespace Request

variable {r : Request}

theorem HasPlainNames.ofArguments (h : r.HasPlainNames) :
    Options.ofArguments r.arguments = .ok r.options := by
  have hwords : Word.ofArguments r.arguments = .ok r.words := by
    have hdirection : Word.ofArgument r.direction.name = .ok (.plain r.direction.name) := by
      cases r.direction <;> rfl
    refine Word.ofArguments_of_forall₂ (List.rel_append (List.rel_append (List.rel_append
      (List.rel_append ?_ ?_) ?_) ?_) ?_)
    · exact .cons h.input (.cons rfl (.cons hdirection .nil))
    · cases r.swap with
      | false => exact .nil
      | true => exact .cons rfl .nil
    · exact .cons rfl (.cons h.output .nil)
    · cases r.strict with
      | false => exact .nil
      | true => exact .cons rfl .nil
    · cases hconfig : r.config? with
      | none => exact .nil
      | some name => exact .cons rfl (.cons (h.config name hconfig) .nil)
  have htake : Options.Progress.take {} r.words = .ok ⟨r.options, false, []⟩ := by
    obtain ⟨input, d, swap, output, strict, config?⟩ := r
    cases d <;> cases swap <;> cases strict <;> cases config? <;> rfl
  rw [Options.ofArguments, hwords]
  change Options.Progress.take {} r.words >>= _ = _
  rw [htake]
  rfl

/-- The job that is asked for, with these settings, if this is the document and this the place for
the result. -/
def job (r : Request) (settings : Settings) (text : Text) (target : Option Location) : Job :=
  ⟨r.options, settings, r.input, text, target⟩

variable {host : Host} {settings : Settings}

theorem result_job (text : Text) (target : Option Location) :
    (r.job settings text target).result
      = convertDocument r.direction settings.codeLanguage r.swap text :=
  rfl

theorem records_job (text : Text) (target : Option Location) :
    (r.job settings text target).records
      = documentRecords r.direction settings.codeLanguage r.swap text :=
  rfl

theorem configPath?_options : r.options.configPath? = r.configPath? := by
  obtain ⟨input, d, swap, output, strict, config?⟩ := r
  cases config? <;> rfl

theorem source_options_eq_ok_iff {name text : Text} :
    r.options.source host = .ok (name, text)
      ↔ r.input = name ∧ host.readDocument r.input = .ok text := by
  change (host.readDocument r.input).map (r.input, ·) = _ ↔ _
  simp [map_eq_ok_iff, and_comm]

section Loaded

variable (hnames : r.HasPlainNames) (hload : Settings.load host.loader host.environment
  host.variableFile host.files r.configPath? = .ok settings)
include hnames hload

theorem isOf_job_iff (text : Text) (target : Option Location) :
    (r.job settings text target).IsOf host r.arguments
      ↔ host.readDocument r.input = .ok text
        ∧ isNullName r.output = false ∧ host.target r.output = .ok target := by
  constructor
  · rintro ⟨-, -, hsource, output, houtput, hnull, htarget⟩
    obtain rfl : r.output = output := Option.some.inj houtput
    exact ⟨(source_options_eq_ok_iff.1 hsource).2, hnull, htarget⟩
  · rintro ⟨hread, hnull, htarget⟩
    have hconfig : r.options.config ≠ .nothing := by
      obtain ⟨input, d, swap, output, strict, config?⟩ := r
      cases config? <;> nofun
    refine ⟨hnames.ofArguments, ⟨?_, hconfig⟩,
      source_options_eq_ok_iff.2 ⟨rfl, hread⟩, r.output, rfl, hnull, htarget⟩
    change Settings.load _ _ _ _ r.options.configPath? = _
    rw [configPath?_options, hload]
    rfl

/-- A run that writes a file does the job that is asked for. -/
theorem exists_job (h : (run host r.arguments).written ≠ none) :
    ∃ text location, (r.job settings text (some location)).IsOf host r.arguments := by
  obtain ⟨⟨o, settings', name, text, target⟩, hj⟩ := exists_job_of_written h
  obtain rfl : r.options = o := Except.ok.inj (hnames.ofArguments.symm.trans hj.options)
  have hloads := hj.loads.1
  rw [configPath?_options, hload] at hloads
  obtain rfl : settings = settings' := Except.ok.inj hloads
  obtain rfl : r.input = name := (source_options_eq_ok_iff.1 hj.isFor.source).1
  rw [hj.run_eq] at h
  cases target with
  | none => exact absurd rfl h
  | some location => exact ⟨text, location, hj⟩

theorem written_eq_some_iff {text : Text} (hread : host.readDocument r.input = .ok text)
    {written : Location × List UInt8} :
    (run host r.arguments).written = some written
      ↔ ∃ location, (r.job settings text (some location)).IsOf host r.arguments
        ∧ written = (location, Utf8.encode
          (convertDocument r.direction settings.codeLanguage r.swap text).text) := by
  constructor
  · intro h
    obtain ⟨text', location, hj⟩ := exists_job hnames hload (by rw [h]; exact nofun)
    have hread' := ((isOf_job_iff hnames hload text' _).1 hj).1
    obtain rfl : text = text' := Except.ok.inj (hread.symm.trans hread')
    rw [hj.run_eq] at h
    exact ⟨location, hj, (Option.some.inj h).symm⟩
  · rintro ⟨location, hj, rfl⟩
    rw [hj.run_eq]
    rfl

end Loaded

end Request

/-- The host after a run. -/
def Host.after (host : Host) (arguments : List Text) : Host :=
  { host with files := (run host arguments).files host }

section There

variable {host : Host} {r : Request} {between : Text} {settings : Settings} {text : Text}
  {location : Location}

def Request.textBetween (r : Request) (settings : Settings) (text : Text) : Text :=
  (r.direction.convert settings.codeLanguage text).text

section Between

variable (hj : ((r.there between).job settings text (some location)).IsOf host
    (r.there between).arguments)
include hj

theorem after_there : host.after (r.there between).arguments
    = host.put location (Utf8.encode (r.textBetween settings text)) := by
  rw [Host.after, hj.run_eq]
  rfl

variable (hnames : r.HasPlainNames)
  (hbetween : Word.ofArgument between = .ok (.plain between))
  (hload : Settings.load host.loader host.environment host.variableFile host.files
    r.configPath? = .ok settings)
include hnames hbetween hload

theorem source_and_target_there :
    host.readDocument r.input = .ok text
      ∧ isNullName between = false ∧ host.target between = .ok (some location) := by
  have hthere : (r.there between).HasPlainNames := ⟨hnames.input, hbetween, hnames.config⟩
  exact (Request.isOf_job_iff hthere hload text (some location)).1 hj

theorem locate_between :
    host.files.locate (Path.ofText between) = .ok location
      ∧ host.files.get? location ≠ some .directory := by
  obtain ⟨-, -, htarget⟩ := source_and_target_there hj hnames hbetween hload
  exact Files.target_eq_ok_iff.1 (Host.target_eq_some_iff.1 htarget).2

theorem readDocument_after_there (hlanguage : '\r' ∉ settings.codeLanguage) :
    (host.after (r.there between).arguments).readDocument between
      = .ok (r.textBetween settings text) := by
  obtain ⟨hread, hnull, htarget⟩ := source_and_target_there hj hnames hbetween hload
  rw [after_there hj]
  exact Host.readDocument_put hnull htarget
    (r.direction.return_notMem_convert hlanguage (Host.return_notMem_of_readDocument hread))

theorem load_after_there (hconfig : ∀ path ∈ r.configPath?,
      host.files.locate path ≠ host.files.locate (Path.ofText between)) :
    Settings.load (host.after (r.there between).arguments).loader
      (host.after (r.there between).arguments).environment
      (host.after (r.there between).arguments).variableFile
      (host.after (r.there between).arguments).files (r.back between).configPath?
        = .ok settings := by
  obtain ⟨hlocate, hfile⟩ := locate_between hj hnames hbetween hload
  rw [after_there hj]
  exact Settings.load_put hfile _ (fun path hpath => hlocate ▸ hconfig path hpath) hload

/-- The way back is open to just the places that are open to the way there and back. -/
theorem isOf_job_back_iff (hlanguage : '\r' ∉ settings.codeLanguage)
    (hconfig : ∀ path ∈ r.configPath?,
      host.files.locate path ≠ host.files.locate (Path.ofText between))
    (target : Option Location) :
    ((r.back between).job settings (r.textBetween settings text) target).IsOf
        (host.after (r.there between).arguments) (r.back between).arguments
      ↔ (r.job settings text target).IsOf host r.arguments := by
  obtain ⟨hinput, -⟩ := source_and_target_there hj hnames hbetween hload
  obtain ⟨-, hfile⟩ := locate_between hj hnames hbetween hload
  have hback : (r.back between).HasPlainNames := ⟨hbetween, hnames.output, hnames.config⟩
  have hread := readDocument_after_there hj hnames hbetween hload hlanguage
  rw [Request.isOf_job_iff hnames hload,
    Request.isOf_job_iff hback (load_after_there hj hnames hbetween hload hconfig)]
  rw [after_there hj] at hread ⊢
  rw [Host.target_put_eq_ok_iff hfile]
  exact and_congr ⟨fun _ => hinput, fun _ => hread⟩ Iff.rfl

end Between

/-- A run that converts there and back writes what two runs write that go through a file in between,
if that is written and is not the configuration file. Its warnings and its log are those of the two,
and so is its complaint about warnings. -/
theorem run_swap (hswap : r.swap = true) (hnames : r.HasPlainNames)
    (hbetween : Word.ofArgument between = .ok (.plain between))
    (hload : Settings.load host.loader host.environment host.variableFile host.files
      r.configPath? = .ok settings)
    (hlanguage : '\r' ∉ settings.codeLanguage)
    (hconfig : ∀ path ∈ r.configPath?,
      host.files.locate path ≠ host.files.locate (Path.ofText between))
    (hthere : (run host (r.there between).arguments).written ≠ none) :
    (run host r.arguments).written
        = (run (host.after (r.there between).arguments) (r.back between).arguments).written
      ∧ ((run host r.arguments).written ≠ none →
        (∃ j j₁ j₂ : Job, j.IsOf host r.arguments ∧ j₁.IsOf host (r.there between).arguments
            ∧ j₂.IsOf (host.after (r.there between).arguments) (r.back between).arguments
            ∧ j.result.warnings = j₁.result.warnings ++ j₂.result.warnings
            ∧ j.records = j₁.records ++ j₂.records)
          ∧ ((run host r.arguments).exit = .status 1
            ↔ (run host (r.there between).arguments).exit = .status 1
              ∨ (run (host.after (r.there between).arguments) (r.back between).arguments).exit
                = .status 1)) := by
  have hnames₁ : (r.there between).HasPlainNames := ⟨hnames.input, hbetween, hnames.config⟩
  have hnames₂ : (r.back between).HasPlainNames := ⟨hbetween, hnames.output, hnames.config⟩
  obtain ⟨text, location, hj₁⟩ := Request.exists_job hnames₁ hload hthere
  obtain ⟨hread, -⟩ := source_and_target_there hj₁ hnames hbetween hload
  have hread₂ := readDocument_after_there hj₁ hnames hbetween hload hlanguage
  have hload₂ := load_after_there hj₁ hnames hbetween hload hconfig
  have hback := isOf_job_back_iff hj₁ hnames hbetween hload hlanguage hconfig
  refine ⟨Option.ext fun written => ?_, fun hwritten => ?_⟩
  · rw [Request.written_eq_some_iff hnames hload hread,
      Request.written_eq_some_iff hnames₂ hload₂ hread₂, hswap]
    exact exists_congr fun target => and_congr (hback (some target)).symm Iff.rfl
  · obtain ⟨text', target, hj⟩ := Request.exists_job hnames hload hwritten
    have hread' := ((Request.isOf_job_iff hnames hload text' _).1 hj).1
    obtain rfl : text = text' := Except.ok.inj (hread.symm.trans hread')
    have hj₂ := (hback (some target)).2 hj
    have hwarnings : (r.job settings text (some target)).result.warnings
        = ((r.there between).job settings text (some location)).result.warnings
          ++ ((r.back between).job settings (r.textBetween settings text)
            (some target)).result.warnings := by
      rw [Request.result_job, hswap, convertDocument_swap]
      rfl
    have hrecords : (r.job settings text (some target)).records
        = ((r.there between).job settings text (some location)).records
          ++ ((r.back between).job settings (r.textBetween settings text)
            (some target)).records := by
      rw [Request.records_job, hswap, documentRecords_swap]
      rfl
    refine ⟨⟨_, _, _, hj, hj₁, hj₂, hwarnings, hrecords⟩, ?_⟩
    rw [hj.run_eq, hj₁.run_eq, hj₂.run_eq, Job.exit_outcome_eq_iff, Job.exit_outcome_eq_iff,
      Job.exit_outcome_eq_iff, hwarnings, ne_eq, List.append_eq_nil_iff, not_and_or]
    exact and_or_left

/-- A document with an empty block and line ends of two characters, and a configuration file. -/
theorem run_swap_empty_block :
    let host : Host := {
      files := Files.ofList []
        [(["a".toList], Utf8.encode "code:\r\n \r\n[x]".toList),
          (["c.yaml".toList], Utf8.encode "default_code_language: js".toList)] }
    let r : Request :=
      ⟨"a".toList, .scrapboxToMarkdown, true, "b".toList, true, some "c.yaml".toList⟩
    r.arguments = ["a".toList, "-d".toList, "sb2md".toList, "--swap".toList, "-o".toList,
        "b".toList, "--strict".toList, "-c".toList, "c.yaml".toList]
      ∧ (run host r.arguments).written = some (["b".toList], Utf8.encode "```js\n```\n[x]".toList)
      ∧ (run host r.arguments).written
        = (run (host.after (r.there "m".toList).arguments) (r.back "m".toList).arguments).written
      ∧ ((run host r.arguments).exit = .status 1
        ↔ (run host (r.there "m".toList).arguments).exit = .status 1
          ∨ (run (host.after (r.there "m".toList).arguments) (r.back "m".toList).arguments).exit
            = .status 1) := by
  intro host r
  have hload : Settings.load host.loader host.environment host.variableFile host.files
      r.configPath? = .ok ⟨.info, .markdownToScrapbox, "js".toList⟩ :=
    eq_ok_of_toOption (by decide +kernel)
  have hconfig : ∀ path ∈ r.configPath?,
      host.files.locate path ≠ host.files.locate (Path.ofText "m".toList) := by
    rintro path hpath
    obtain rfl : Path.ofText "c.yaml".toList = path := Option.some.inj hpath
    intro h
    exact absurd (congrArg Except.toOption h) (by decide +kernel)
  have hnames : r.HasPlainNames := by
    refine ⟨rfl, rfl, fun name hname => ?_⟩
    obtain rfl : "c.yaml".toList = name := Option.some.inj hname
    rfl
  have hwritten : (run host r.arguments).written
      = some (["b".toList], Utf8.encode "```js\n```\n[x]".toList) := by
    decide +kernel
  have hswap := run_swap rfl hnames rfl hload (by decide) hconfig (by decide +kernel)
  exact ⟨rfl, hwritten, hswap.1, (hswap.2 (by rw [hwritten]; exact nofun)).2⟩

end There

end Dialects
