import Dialects.Proofs.Checks
import Dialects.Proofs.Endings

/-!
# What is wrong with a configuration file

A file that is there is found and read, so what becomes of it depends on its bytes alone
(`FileSettings.load_of_read`). They can break the format, hold no mapping, or give fields that are
wrong, and all of this is reported. What is not is a key that is no text
(`Yaml.Root.keywords_eq_error_iff`), whatever the reader of YAML makes of the bytes, as long as it
fails with nothing but errors that are reported, and whatever the validator makes of the fields.
-/

namespace Dialects

/-- The error tells what is wrong with the content of a file: it is reported, and it is not that
there is no file. -/
def ConfigError.isOfContent : ConfigError → Bool
  | .notFound _ => false
  | e => e.foreseen

/-- The document is a mapping with a key that is no text. -/
def Yaml.Root.HasOtherKey (root : Yaml.Root) : Prop :=
  root.value = .mapping ∧ ∃ entry ∈ root.entries, ∀ t, entry.1 ≠ .text t

/-- The bytes are read as a document with a key that is no text. -/
def Loader.ReadsOtherKey (l : Loader) (bytes : List UInt8) : Prop :=
  ∃ root, l.readYaml bytes = .ok root ∧ root.HasOtherKey

/-! ## The keywords of a document -/

/-- The first key that is no text breaks the reading of a mapping off, and nothing else does. -/
theorem Keywords.foldlM_addEntry_eq_error_iff {e : ConfigError} :
    ∀ {entries : List (Yaml.Value × Yaml.Value)} {kws : Keywords},
      entries.foldlM addEntry kws = .error e
        ↔ e = .keyNotText ∧ ∃ entry ∈ entries, ∀ t, entry.1 ≠ .text t
  | [], _ => by simp [pure, Except.pure]
  | (key, value) :: entries, kws => by
    rw [List.foldlM_cons]
    by_cases hkey : ∃ name, key = .text name
    · obtain ⟨name, rfl⟩ := hkey
      change entries.foldlM addEntry (kws.set name value) = .error e ↔ _
      rw [foldlM_addEntry_eq_error_iff]
      simp
    · have hadd : kws.addEntry (key, value) = .error .keyNotText := by
        cases key with
        | text name => exact absurd ⟨name, rfl⟩ hkey
        | _ => rfl
      rw [hadd]
      change Except.error ConfigError.keyNotText = Except.error e ↔ _
      rw [Except.error.injEq]
      refine ⟨fun h => ⟨h.symm, (key, value), List.mem_cons_self, fun t ht => hkey ⟨t, ht⟩⟩,
        fun h => h.1.symm⟩

/-- A document gives no keywords if it is no mapping, or a mapping with a key that is no text. -/
theorem Yaml.Root.keywords_eq_error_iff {root : Yaml.Root} {e : ConfigError} :
    root.keywords = .error e
      ↔ e = .keyNotText ∧ root.HasOtherKey
        ∨ e = .notMapping root.value.typeName ∧ root.value ≠ .null ∧ root.value ≠ .mapping := by
  obtain ⟨value, entries⟩ := root
  unfold keywords HasOtherKey
  cases value with
  | mapping => simp [Keywords.foldlM_addEntry_eq_error_iff]
  | _ => simp [eq_comm]

/-! ## The bytes of a file -/

namespace FileSettings

variable {l : Loader} {bytes : List UInt8}

theorem ofBytes_eq_error_iff {e : ConfigError} :
    ofBytes l bytes = .error e
      ↔ (∃ fault, l.readYaml bytes = .error fault ∧ .yaml fault = e)
        ∨ ∃ root, l.readYaml bytes = .ok root
          ∧ (root.keywords = .error e
            ∨ ∃ kws, root.keywords = .ok kws
              ∧ ∃ v, l.validate .file kws = .error v ∧ .invalid v = e) := by
  have hpure : ∀ s : Settings, (pure s.fileSettings : Except ConfigError FileSettings) ≠ .error e :=
    fun _ => nofun
  simp only [ofBytes, bind_eq_error_iff, mapError_eq_error_iff, mapError_eq_ok_iff, hpure,
    and_false, exists_false, or_false]

/-- If reading fails only with errors that are reported, nothing but a key that is no text goes
without a report. -/
theorem exists_ofBytes_eq_error_iff
    (hyaml : ∀ e, l.readYaml bytes = .error e → e.foreseen = true) :
    (∃ e, ofBytes l bytes = .error e ∧ e.isOfContent = false) ↔ l.ReadsOtherKey bytes := by
  constructor
  · rintro ⟨e, h, he⟩
    rcases ofBytes_eq_error_iff.1 h with ⟨fault, hroot, rfl⟩
      | ⟨root, hroot, hkeywords | ⟨kws, -, v, -, rfl⟩⟩
    · change fault.foreseen = false at he
      rw [hyaml fault hroot] at he
      cases he
    · rcases Yaml.Root.keywords_eq_error_iff.1 hkeywords with ⟨-, hkey⟩ | ⟨rfl, -⟩
      · exact ⟨root, hroot, hkey⟩
      · cases he
    · cases he
  · rintro ⟨root, hroot, hkey⟩
    have hkeywords := Yaml.Root.keywords_eq_error_iff.2 (.inl ⟨rfl, hkey⟩)
    exact ⟨.keyNotText, ofBytes_eq_error_iff.2 (.inr ⟨root, hroot, .inl hkeywords⟩), rfl⟩

theorem ofBytes_ne_notFound (bytes : List UInt8) (path : Path) :
    ofBytes l bytes ≠ .error (.notFound path) := by
  intro h
  rcases ofBytes_eq_error_iff.1 h with ⟨fault, -, hfault⟩
    | ⟨root, -, hkeywords | ⟨kws, -, v, -, hv⟩⟩
  · cases hfault
  · rcases Yaml.Root.keywords_eq_error_iff.1 hkeywords with ⟨hkey, -⟩ | ⟨hmapping, -⟩
    · cases hkey
    · cases hmapping
  · cases hv

theorem load_of_read {files : Files} {path : Path} (hname : path.hasNull = false)
    (hread : files.read path = .ok bytes) : load l files path = ofBytes l bytes := by
  have hhas : files.has path = .ok true := by
    unfold Files.read at hread
    unfold Files.has
    split at hread
    · cases hread
    · rename_i location hlocate
      split at hread
      · cases hread
      · cases hread
      · rename_i hget
        simp [hname, hlocate, hget]
  rw [load, hhas, hread]
  rfl

end FileSettings

/-- There is no file and no directory at the path. -/
def Files.HasNothingAt (files : Files) (path : Path) : Prop :=
  path.hasNull = true ∨ ∀ location, files.locate path = .ok location → files.get? location = none

theorem FileSettings.hasNothingAt_of_load {l : Loader} {files : Files} {path missing : Path}
    (h : load l files path = .error (.notFound missing)) :
    missing = path ∧ files.HasNothingAt path := by
  rcases bind_eq_error_iff.1 h with h | ⟨found, hhas, h⟩
  · obtain ⟨e, -, he⟩ := mapError_eq_error_iff.1 h
    cases he
  cases found with
  | true =>
    rcases bind_eq_error_iff.1 h with h | ⟨bytes, -, h⟩
    · obtain ⟨e, -, he⟩ := mapError_eq_error_iff.1 h
      cases he
    · exact absurd h (ofBytes_ne_notFound bytes missing)
  | false =>
    rw [mapError_eq_ok_iff] at hhas
    cases h
    refine ⟨rfl, ?_⟩
    rw [Files.HasNothingAt, Classical.or_iff_not_imp_left]
    intro hname location hlocate
    simpa [Files.has, hname, hlocate] using hhas

/-! ## The run that names the file -/

theorem ConfigError.foreseen_eq_isOfContent {e : ConfigError} (h : ∀ path, e ≠ .notFound path) :
    e.foreseen = e.isOfContent := by
  cases e with
  | notFound path => exact absurd rfl (h path)
  | _ => rfl

/-- The variables of the host can be read, and they give this level. -/
def Host.HasLevel (host : Host) (level : LogLevel) : Prop :=
  ∃ env, host.loader.loadVariables host.environment host.variableFile = .ok env
    ∧ env.settings host.loader.validate = .ok ⟨level⟩

/-- With a valid environment, an error of the configuration file is one of all settings, and there
is no other that is not reported. -/
theorem Options.load_cases {host : Host} {o : Options} {path : Path}
    (hconfig : o.config = .value path) {level : LogLevel} (henv : host.HasLevel level) :
    (∃ e, FileSettings.load host.loader host.files path = .error e
        ∧ Settings.load host.loader host.environment host.variableFile host.files o.configPath?
          = .error e)
      ∨ (∃ settings, FileSettings.load host.loader host.files path = .ok settings)
        ∧ ∀ e, Settings.load host.loader host.environment host.variableFile host.files
          o.configPath? = .error e → e.foreseen = true := by
  obtain ⟨env, hload, hsettings⟩ := henv
  rw [configPath?, hconfig]
  simp only [Settings.load_eq_bind hload hsettings, Option.elim_some]
  cases hfile : FileSettings.load host.loader host.files path with
  | error e => exact .inl ⟨e, rfl, rfl⟩
  | ok settings =>
    -- only the last check can still fail, and its errors are reported
    refine .inr ⟨⟨settings, rfl⟩, fun e he => ?_⟩
    obtain ⟨v, -, rfl⟩ := mapError_eq_error_iff.1 he
    rfl

section Named

variable {host : Host} {arguments : List Text} {o : Options} {path : Path} {bytes : List UInt8}
  (hargs : Options.ofArguments arguments = .ok o) (hconfig : o.config = .value path)
  {level : LogLevel} (henv : host.HasLevel level) (hname : path.hasNull = false)
  (hread : host.files.read path = .ok bytes)
  (hyaml : ∀ e, host.loader.readYaml bytes = .error e → e.foreseen = true)

include hargs hconfig henv hname hread hyaml

theorem run_of_readsOtherKey (h : host.loader.ReadsOtherKey bytes) :
    ∃ e, FileSettings.load host.loader host.files path = .error e
      ∧ Settings.load host.loader host.environment host.variableFile host.files o.configPath?
        = .error e
      ∧ run host arguments = aborted [] (.config e) := by
  obtain ⟨e, hbytes, hcontent⟩ := (FileSettings.exists_ofBytes_eq_error_iff hyaml).2 h
  have hfile : FileSettings.load host.loader host.files path = .error e := by
    rw [FileSettings.load_of_read hname hread, hbytes]
  have hforeseen : e.foreseen = false := by
    rw [ConfigError.foreseen_eq_isOfContent, hcontent]
    rintro missing rfl
    exact FileSettings.ofBytes_ne_notFound bytes missing hbytes
  rcases Options.load_cases hconfig henv with ⟨e', hfile', hload⟩ | ⟨⟨settings, hfile'⟩, -⟩
  · obtain rfl : e = e' := Except.error.inj (hfile.symm.trans hfile')
    exact ⟨e, hfile, hload, by simp [run, hargs, hload, hforeseen]⟩
  · rw [hfile] at hfile'
    cases hfile'

theorem run_of_not_readsOtherKey (h : ¬ host.loader.ReadsOtherKey bytes) :
    (∃ settings, o.Loads host settings ∧ run host arguments = o.perform settings host)
      ∨ ∃ e : ConfigError, run host arguments = failed [] e.message := by
  have hnamed : o.config ≠ .nothing := by simp [hconfig]
  cases hload : Settings.load host.loader host.environment host.variableFile host.files
    o.configPath? with
  | ok settings => exact .inl ⟨settings, ⟨hload, hnamed⟩, by simp [run, hargs, hload, hnamed]⟩
  | error e =>
    have hforeseen : e.foreseen = true := by
      rcases Options.load_cases hconfig henv with ⟨e', hfile, hload'⟩ | ⟨-, hforeseen⟩
      · obtain rfl : e = e' := Except.error.inj (hload.symm.trans hload')
        rw [FileSettings.load_of_read hname hread] at hfile
        rw [ConfigError.foreseen_eq_isOfContent]
        · cases hcontent : e.isOfContent with
          | true => rfl
          | false =>
            exact absurd ((FileSettings.exists_ofBytes_eq_error_iff hyaml).1 ⟨e, hfile, hcontent⟩) h
        · rintro missing rfl
          exact FileSettings.ofBytes_ne_notFound bytes missing hfile
      · exact hforeseen e hload
    exact .inr ⟨e, by simp [run, hargs, hload, hforeseen]⟩

/-- The content of a configuration file is loaded or the error tells what is wrong with it, and a
run that names the file goes on or reports, exactly if the content is not read as a mapping with a
key that is no text. If it is, the error ends the run. That there is no file is said only where
there is nothing. -/
theorem run_config_iff_not_readsOtherKey :
    ((∃ settings, FileSettings.load host.loader host.files path = .ok settings)
          ∨ (∃ e, FileSettings.load host.loader host.files path = .error e
            ∧ e.isOfContent = true)
        ↔ ¬ host.loader.ReadsOtherKey bytes)
      ∧ ((∃ settings, o.Loads host settings ∧ run host arguments = o.perform settings host)
          ∨ (∃ e : ConfigError, run host arguments = failed [] e.message)
        ↔ ¬ host.loader.ReadsOtherKey bytes)
      ∧ (host.loader.ReadsOtherKey bytes →
        ∃ e, FileSettings.load host.loader host.files path = .error e
          ∧ run host arguments = aborted [] (.config e))
      ∧ ∀ (files : Files) (other missing : Path),
        FileSettings.load host.loader files other = .error (.notFound missing) →
          missing = other ∧ files.HasNothingAt other := by
  have hother := run_of_readsOtherKey hargs hconfig henv hname hread hyaml
  have hcontent := FileSettings.exists_ofBytes_eq_error_iff hyaml
  rw [← FileSettings.load_of_read hname hread] at hcontent
  refine ⟨?_, ⟨?_, run_of_not_readsOtherKey hargs hconfig henv hname hread hyaml⟩, fun h => ?_,
    fun files other missing => FileSettings.hasNothingAt_of_load⟩
  · rw [← hcontent]
    cases FileSettings.load host.loader host.files path <;> simp
  · intro hrun h
    obtain ⟨e, -, hload, haborted⟩ := hother h
    rcases hrun with ⟨settings, hloads, -⟩ | ⟨e', hfailed⟩
    · rw [hloads.1] at hload
      cases hload
    · rw [haborted] at hfailed
      cases congrArg Outcome.exit hfailed
  · obtain ⟨e, hfile, -, haborted⟩ := hother h
    exact ⟨e, hfile, haborted⟩

end Named

/-- A file whose document is a mapping with a number for its only key, named by a run without any
variables. -/
theorem run_config_iff_not_readsOtherKey_number :
    let host : Host := { files := Files.ofList [] [(["c.yaml".toList], Utf8.encode "1: 1".toList)] }
    host.loader.ReadsOtherKey (Utf8.encode "1: 1".toList)
      ∧ ¬ ((∃ settings,
          FileSettings.load host.loader host.files (.ofText "c.yaml".toList) = .ok settings)
        ∨ ∃ e, FileSettings.load host.loader host.files (.ofText "c.yaml".toList) = .error e
          ∧ e.isOfContent = true)
      ∧ ∃ e, FileSettings.load host.loader host.files (.ofText "c.yaml".toList) = .error e
        ∧ run host ["-c".toList, "c.yaml".toList] = aborted [] (.config e) := by
  intro host
  have hroot : host.loader.readYaml (Utf8.encode "1: 1".toList)
      = .ok ⟨.mapping, [(.int, .int)]⟩ :=
    eq_ok_of_toOption (by decide +kernel)
  have hother : host.loader.ReadsOtherKey (Utf8.encode "1: 1".toList) :=
    ⟨_, hroot, rfl, (.int, .int), List.mem_singleton_self _, nofun⟩
  have hyaml : ∀ e, host.loader.readYaml (Utf8.encode "1: 1".toList) = .error e →
      e.foreseen = true := by
    intro e he
    rw [hroot] at he
    cases he
  have hrun := @run_config_iff_not_readsOtherKey host ["-c".toList, "c.yaml".toList]
    { config := .value (.ofText "c.yaml".toList) } (.ofText "c.yaml".toList)
    (Utf8.encode "1: 1".toList) rfl rfl .info ⟨[], rfl, rfl⟩ rfl rfl hyaml
  exact ⟨hother, fun h => hrun.1.1 h hother, hrun.2.2.1 hother⟩

end Dialects
