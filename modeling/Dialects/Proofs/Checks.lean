import Mathlib.Data.List.Nodup
import Mathlib.Tactic.SplitIfs
import Dialects.Config.Load
import Dialects.Proofs.Attempts

/-!
# What the checks of settings accept

The standard validator goes by what the models declare (`Validator.checksDeclarations_standard`),
and no more of it is used. The model of all settings declares what those of the environment and of
the configuration file declare (`Model.declarations_whole`), so settings that have passed these are
accepted together, and with a valid level loading is reading the configuration file
(`Settings.load_of_level`).
-/

namespace Dialects

theorem LogLevel.ofName?_eq_some_iff {s : Text} {level : LogLevel} :
    ofName? s = some level ↔ level.name = s := by
  constructor
  · intro h
    simpa using List.find?_some h
  · rintro rfl
    exact ofName?_name level

theorem Direction.ofName?_eq_some_iff {s : Text} {d : Direction} :
    ofName? s = some d ↔ d.name = s := by
  constructor
  · intro h
    simpa using List.find?_some h
  · rintro rfl
    exact ofName?_name d

theorem Field.name_raw_inj {f g : Field} : f.name.raw = g.name.raw ↔ f = g := by
  cases f <;> cases g <;> decide

theorem Settings.ext_text {s s' : Settings} (h : ∀ f, s.text f = s'.text f) : s = s' := by
  obtain ⟨level, direction, language⟩ := s
  obtain ⟨level', direction', language'⟩ := s'
  have hlevel : level'.name = level.name := (h .logLevel).symm
  have hdirection : direction'.name = direction.name := (h .direction).symm
  obtain rfl : language = language' := h .codeLanguage
  rw [← LogLevel.ofName?_eq_some_iff, LogLevel.ofName?_name] at hlevel
  rw [← Direction.ofName?_eq_some_iff, Direction.ofName?_name] at hdirection
  rw [Option.some.inj hlevel, Option.some.inj hdirection]

/-! ## The declarations -/

namespace Declaration

theorem fault?_eq_none_iff {d : Declaration} {value : GivenValue} :
    d.fault? value = none ↔ ∃ t, value = .text t ∧ d.admits t = true := by
  cases value with
  | text t => by_cases h : d.admits t = true <;> cases d <;> simp [fault?, GivenValue.text?, h]
  | _ => cases d <;> simp [fault?, GivenValue.text?]

/-- What a setting is put to reads back as the text given, if the field takes it. -/
theorem text_put_self {d : Declaration} {given : Option Text} (s : Settings)
    (h : ∀ t ∈ given, d.admits t = true) :
    (d.put given s).text d.field = given.getD d.usualText := by
  cases given with
  | none => cases d <;> rfl
  | some t =>
    have ht := h t rfl
    cases d with
    | logLevel usual =>
      obtain ⟨level, hlevel⟩ := Option.isSome_iff_exists.1 ht
      simp [put, field, Settings.text, hlevel, LogLevel.ofName?_eq_some_iff.1 hlevel]
    | direction usual =>
      obtain ⟨direction, hdirection⟩ := Option.isSome_iff_exists.1 ht
      simp [put, field, Settings.text, hdirection, Direction.ofName?_eq_some_iff.1 hdirection]
    | codeLanguage least usual => rfl

theorem text_put_of_ne {d : Declaration} {f : Field} (h : f ≠ d.field) (given : Option Text)
    (s : Settings) : (d.put given s).text f = s.text f := by
  cases d <;> cases f <;> first | rfl | exact absurd rfl h

end Declaration

namespace Model

/-- No model declares a field twice. -/
theorem nodup_declarations (m : Model) : (m.declarations.map Declaration.field).Nodup := by
  cases m <;> decide

/-- The usual settings pass the checks of their own fields. -/
theorem admits_usualText (m : Model) : ∀ d ∈ m.declarations, d.admits d.usualText = true := by
  cases m <;> decide

/-- The models of the environment and of the configuration file are in step with that of all
settings. -/
theorem declarations_whole :
    whole.declarations = environment.declarations ++ file.declarations :=
  rfl

theorem exists_mem_declarations_whole (f : Field) : ∃ d ∈ whole.declarations, d.field = f := by
  cases f <;> decide

end Model

/-! ## The standard validator -/

namespace Model

variable {m : Model} {kws : Keywords}

/-- Keywords are without faults if the model has their fields and each is right for its field. -/
theorem faults_eq_nil_iff :
    m.faults kws = []
      ↔ (∀ d ∈ m.declarations, ∀ value, kws.get? d.field.name.raw = some value →
          d.fault? value.given = none)
        ∧ ∀ entry ∈ kws.entries, ∃ d ∈ m.declarations, d.field.name.raw = entry.1 := by
  unfold faults
  split
  · rename_i hname
    obtain ⟨entry, hmem, hname⟩ := List.any_eq_true.1 hname
    refine ⟨nofun, fun h => ?_⟩
    obtain ⟨d, -, hd⟩ := h.2 entry hmem
    simp [← hd] at hname
  rw [List.append_eq_nil_iff, List.filterMap_eq_nil_iff, List.map_eq_nil_iff,
    List.filter_eq_nil_iff]
  refine and_congr (forall₂_congr fun d _ => ?_) (forall₂_congr fun entry _ => ?_)
  · cases kws.get? d.field.name.raw with
    | none => simp
    | some value => cases hfault : d.fault? value.given <;> simp [hfault]
  · simp

theorem text_foldl_put_of_notMem {f : Field} : ∀ {ds : List Declaration} (s : Settings),
    f ∉ ds.map Declaration.field →
      (ds.foldl (fun s d => d.put (kws.text? d.field) s) s).text f = s.text f
  | [], _, _ => rfl
  | d :: ds, s, h => by
    rw [List.map_cons, List.mem_cons, not_or] at h
    rw [List.foldl_cons, text_foldl_put_of_notMem _ h.2, Declaration.text_put_of_ne h.1]

theorem text_foldl_put {d : Declaration} (hd : ∀ t ∈ kws.text? d.field, d.admits t = true) :
    ∀ {ds : List Declaration} (s : Settings), (ds.map Declaration.field).Nodup →
      d ∈ ds → (ds.foldl (fun s d => d.put (kws.text? d.field) s) s).text d.field
        = (kws.text? d.field).getD d.usualText
  | e :: ds, s, hnodup, hmem => by
    rw [List.map_cons, List.nodup_cons] at hnodup
    rw [List.foldl_cons]
    rcases List.mem_cons.1 hmem with rfl | hmem
    -- no later declaration has the field, so what is put here stays
    · rw [text_foldl_put_of_notMem _ hnodup.1, Declaration.text_put_self s hd]
    · exact text_foldl_put hd _ hnodup.2 hmem

end Model

namespace Validator

variable {m : Model} {kws : Keywords} {s : Settings}

theorem standard_eq_ok_iff :
    standard m kws = .ok s ↔ m.faults kws = [] ∧ m.settings kws = s := by
  unfold standard
  split
  · simp [*]
  · rename_i hfaults
    simpa using fun h => absurd h hfaults

/-- What the standard validator accepts has for each field the text given, which the field takes, or
the usual one. -/
theorem text_of_standard (h : standard m kws = .ok s) {d : Declaration}
    (hd : d ∈ m.declarations) :
    (∀ t ∈ kws.text? d.field, d.admits t = true)
      ∧ s.text d.field = (kws.text? d.field).getD d.usualText := by
  obtain ⟨hfaults, rfl⟩ := standard_eq_ok_iff.1 h
  have hadmits : ∀ t ∈ kws.text? d.field, d.admits t = true := by
    intro t ht
    obtain ⟨value, hvalue, hgiven⟩ := Option.bind_eq_some_iff.1 ht
    obtain ⟨t', ht', hadmits⟩ := Declaration.fault?_eq_none_iff.1
      ((Model.faults_eq_nil_iff.1 hfaults).1 d hd value hvalue)
    rw [ht'] at hgiven
    exact Option.some.inj hgiven ▸ hadmits
  exact ⟨hadmits, Model.text_foldl_put hadmits _ m.nodup_declarations hd⟩

theorem checksDeclarations_standard : standard.ChecksDeclarations where
  admits := by
    intro m kws s h d hd
    obtain ⟨hadmits, htext⟩ := text_of_standard h hd
    rw [htext]
    cases hgiven : kws.text? d.field with
    | none => exact m.admits_usualText d hd
    | some t => exact hadmits t hgiven
  keeps := by
    intro m kws s h d hd t hgiven
    have htext : kws.text? d.field = some t := by
      simp [Keywords.text?, hgiven, Yaml.Value.given, GivenValue.text?]
    rw [(text_of_standard h hd).2, htext, Option.getD_some]
  usual := by
    intro m kws s h d hd hgiven
    have htext : kws.text? d.field = none := by simp [Keywords.text?, hgiven]
    rw [(text_of_standard h hd).2, htext, Option.getD_none]
  accepts := by
    intro m kws h
    refine ⟨m.settings kws, standard_eq_ok_iff.2 ⟨Model.faults_eq_nil_iff.2 ⟨?_, ?_⟩, rfl⟩⟩
    · intro d hd value hvalue
      obtain ⟨e, he, hname, t, rfl, hadmits⟩ := h _ value hvalue
      obtain rfl : e = d :=
        List.inj_on_of_nodup_map m.nodup_declarations he hd (Field.name_raw_inj.1 hname)
      exact Declaration.fault?_eq_none_iff.2 ⟨t, by simp [Yaml.Value.given], hadmits⟩
    · intro entry hentry
      obtain ⟨d, hd, hname, -⟩ := h entry.1 entry.2 (Keywords.get?_of_mem hentry)
      exact ⟨d, hd, hname⟩

end Validator

/-! ## Settings that have been accepted -/

namespace Settings

theorem get?_keywords (s : Settings) (f : Field) :
    s.keywords.get? f.name.raw = some (.text (s.text f).raw) := by
  cases f <;> simp [keywords, Field.name_raw_inj, text]

theorem exists_of_get?_keywords {s : Settings} {name : RawText} {value : Yaml.Value}
    (h : s.keywords.get? name = some value) :
    ∃ f : Field, f.name.raw = name ∧ value = .text (s.text f).raw := by
  simp only [keywords, Keywords.get?_give, Keywords.get?_empty] at h
  split_ifs at h with h₁ h₂ h₃
  · exact ⟨.codeLanguage, h₁.symm, (Option.some.inj h).symm⟩
  · exact ⟨.direction, h₂.symm, (Option.some.inj h).symm⟩
  · exact ⟨.logLevel, h₃.symm, (Option.some.inj h).symm⟩

end Settings

namespace Validator.ChecksDeclarations

variable {validate : Validator} (hcheck : validate.ChecksDeclarations)
include hcheck

/-- Settings of which each is one that its field takes are accepted together, and kept. -/
theorem validate_keywords {s : Settings}
    (h : ∀ d ∈ Model.whole.declarations, d.admits (s.text d.field) = true) :
    validate .whole s.keywords = .ok s := by
  obtain ⟨s', hs'⟩ : ∃ s', validate .whole s.keywords = .ok s' := by
    refine hcheck.accepts fun name value hvalue => ?_
    obtain ⟨f, hname, hvalue⟩ := Settings.exists_of_get?_keywords hvalue
    obtain ⟨d, hd, rfl⟩ := Model.exists_mem_declarations_whole f
    exact ⟨d, hd, hname, s.text d.field, hvalue, h d hd⟩
  obtain rfl : s' = s := by
    refine Settings.ext_text fun f => ?_
    obtain ⟨d, hd, rfl⟩ := Model.exists_mem_declarations_whole f
    exact hcheck.keeps hs' d hd _ (s.get?_keywords d.field)
  exact hs'

theorem settings_of_level {env : Variables} {level : LogLevel} (h : level.name = env.levelName) :
    env.settings validate = .ok ⟨level⟩ := by
  obtain ⟨s, hs⟩ : ∃ s,
      validate .environment (Keywords.empty.give .logLevel env.levelName) = .ok s := by
    refine hcheck.accepts fun name value hvalue => ?_
    simp only [Keywords.get?_give, Keywords.get?_empty] at hvalue
    split_ifs at hvalue with hname
    refine ⟨.logLevel .info, List.mem_singleton_self _, hname.symm, env.levelName,
      (Option.some.inj hvalue).symm, ?_⟩
    simp [← h, Declaration.admits]
  have hname := hcheck.keeps hs (.logLevel .info) (List.mem_singleton_self _) env.levelName
    (by simp [Declaration.field])
  rw [Declaration.field, Settings.text, ← h, ← LogLevel.ofName?_eq_some_iff,
    LogLevel.ofName?_name] at hname
  rw [Variables.settings, hs]
  simp [Except.map, Settings.environmentSettings, Option.some.inj hname]

theorem exists_settings_eq_error {env : Variables}
    (h : ∀ level : LogLevel, level.name ≠ env.levelName) :
    ∃ e, validate .environment (Keywords.empty.give .logLevel env.levelName) = .error e
      ∧ env.settings validate = .error e := by
  cases hvalidate : validate .environment (Keywords.empty.give .logLevel env.levelName) with
  | error e => exact ⟨e, rfl, by rw [Variables.settings, hvalidate]; rfl⟩
  | ok s =>
    have hname := hcheck.keeps hvalidate (.logLevel .info) (List.mem_singleton_self _)
      env.levelName (by simp [Declaration.field])
    exact absurd hname (h s.logLevel)

/-- A configuration file that gives nothing gives the usual settings. -/
theorem validate_empty :
    ∃ s, validate .file .empty = .ok s ∧ s.fileSettings = {}
      ∧ ∀ d ∈ Model.file.declarations, d.admits (s.text d.field) = true := by
  obtain ⟨s, hs⟩ : ∃ s, validate .file .empty = .ok s := hcheck.accepts nofun
  refine ⟨s, hs, ?_, hcheck.admits hs⟩
  have hdirection : s.direction.name = Direction.markdownToScrapbox.name :=
    hcheck.usual hs (.direction .markdownToScrapbox) (by decide) rfl
  have hlanguage : s.codeLanguage = CodeBlock.usualLanguage :=
    hcheck.usual hs (.codeLanguage 1 CodeBlock.usualLanguage) (by decide) rfl
  rw [← Direction.ofName?_eq_some_iff, Direction.ofName?_name] at hdirection
  rw [Settings.fileSettings, ← Option.some.inj hdirection, hlanguage]

end Validator.ChecksDeclarations

theorem FileSettings.exists_of_ofBytes {l : Loader} {bytes : List UInt8}
    {settings : FileSettings} (h : ofBytes l bytes = .ok settings) :
    ∃ kws s, l.validate .file kws = .ok s ∧ s.fileSettings = settings := by
  obtain ⟨root, -, h⟩ := bind_eq_ok_iff.1 h
  obtain ⟨kws, -, h⟩ := bind_eq_ok_iff.1 h
  obtain ⟨s, hs, h⟩ := bind_eq_ok_iff.1 h
  exact ⟨kws, s, mapError_eq_ok_iff.1 hs, Except.ok.inj h⟩

theorem FileSettings.exists_of_load {l : Loader} {files : Files} {path : Path}
    {settings : FileSettings} (h : load l files path = .ok settings) :
    ∃ kws s, l.validate .file kws = .ok s ∧ s.fileSettings = settings := by
  obtain ⟨found, -, h⟩ := bind_eq_ok_iff.1 h
  cases found with
  | false => cases h
  | true =>
    obtain ⟨bytes, -, h⟩ := bind_eq_ok_iff.1 h
    exact exists_of_ofBytes h

namespace Settings

variable {l : Loader} {env env' : Variables} {file : Option (List UInt8)}
  (hload : l.loadVariables env file = .ok env')
include hload

/-- With valid settings of the environment, the configuration file is loaded and all settings are
checked once more. -/
theorem load_eq_bind {level : LogLevel} (h : env'.settings l.validate = .ok ⟨level⟩)
    (files : Files) (path? : Option Path) :
    load l env file files path?
      = path?.elim (FileSettings.usual l) (FileSettings.load l files) >>= fun fromFile =>
        (l.validate .whole
          (Settings.keywords ⟨level, fromFile.direction, fromFile.codeLanguage⟩)).mapError
            .refused := by
  rw [load, hload]
  change (env'.settings l.validate).mapError ConfigError.environment >>= _ = _
  rw [h]
  cases path? <;> rfl

variable (hcheck : l.validate.ChecksDeclarations)
include hcheck

/-- The last check lets through whatever a configuration file gives, so only that file can still
fail. -/
theorem load_of_level {level : LogLevel} (h : level.name = env'.levelName) (files : Files)
    (path? : Option Path) :
    load l env file files path? =
      (path?.elim (.ok {}) (FileSettings.load l files)).map fun fromFile =>
        ⟨level, fromFile.direction, fromFile.codeLanguage⟩ := by
  -- the level is one of the four, and what the file gave has passed the checks of the same fields
  have hwhole : ∀ s : Settings,
      (∀ d ∈ Model.file.declarations, d.admits (s.text d.field) = true) →
      l.validate .whole (Settings.keywords ⟨level, s.direction, s.codeLanguage⟩)
        = .ok ⟨level, s.direction, s.codeLanguage⟩ := by
    intro s hs
    refine hcheck.validate_keywords fun d hd => ?_
    rw [Model.declarations_whole, List.mem_append] at hd
    rcases hd with hd | hd
    · obtain rfl := List.mem_singleton.1 hd
      simp [Declaration.admits, Declaration.field, text]
    · have hfield : d.field ≠ .logLevel :=
        (by decide : ∀ d ∈ Model.file.declarations, d.field ≠ .logLevel) d hd
      have htext : text ⟨level, s.direction, s.codeLanguage⟩ d.field = s.text d.field :=
        Declaration.text_put_of_ne (d := .logLevel level) hfield none s
      rw [htext]
      exact hs d hd
  rw [load_eq_bind hload (hcheck.settings_of_level h)]
  cases path? with
  | none =>
    obtain ⟨s, hs, hfile, hadmits⟩ := hcheck.validate_empty
    have husual : FileSettings.usual l = .ok {} := by
      rw [FileSettings.usual, hs, ← hfile]
      rfl
    obtain ⟨level', direction, language⟩ := s
    obtain ⟨rfl, rfl⟩ := FileSettings.mk.inj hfile
    rw [Option.elim_none, husual]
    exact congrArg (Except.mapError _) (hwhole _ hadmits)
  | some path =>
    change FileSettings.load l files path >>= _ = (FileSettings.load l files path).map _
    cases hfile : FileSettings.load l files path with
    | error e => rfl
    | ok fromFile =>
      obtain ⟨kws, s, hs, rfl⟩ := FileSettings.exists_of_load hfile
      exact congrArg (Except.mapError _) (hwhole s (hcheck.admits hs))

end Settings

end Dialects
