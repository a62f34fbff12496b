import Dialects.Proofs.Checks

/-!
# Which setting counts

A variable that is set counts before the file of variables, and the usual level stands in for both
(`Variables.effectiveLevel`). All that this takes is a loader that changes no variable that is set,
as the standard one does not (`Loader.setsOnlyUnset_standard`). Loading fails where the file of
variables, the level or the configuration file is at fault, in this order, and nowhere else.
-/

namespace Dialects

namespace Variables

/-- The level that counts, in upper case: that of the environment, else the one that the file of
variables has set, else the usual one. -/
def effectiveLevel (env loaded : Variables) : Text :=
  (((env.lookup levelVariable).or (loaded.lookup levelVariable)).getD LogLevel.info.name).upper

/-! ## The standard loader -/

theorem lookup_of_setNew {env env' : Variables} {b : VariableFile.Binding}
    (h : env.setNew b = .ok env') {name value : Text} (hset : env.lookup name = some value) :
    env'.lookup name = some value := by
  unfold setNew at h
  split at h
  · exact Except.ok.inj h ▸ hset
  split at h
  · exact Except.ok.inj h ▸ hset
  split at h
  · cases h
  split at h
  · cases h
  · obtain rfl := Except.ok.inj h
    rw [List.lookup_append, hset, Option.some_or]

theorem lookup_of_foldlM_setNew {name value : Text} : ∀ {bs : List VariableFile.Binding}
    {env env' : Variables}, bs.foldlM setNew env = .ok env' →
      env.lookup name = some value → env'.lookup name = some value
  | [], env, env', h, hset => Except.ok.inj h ▸ hset
  | b :: bs, env, env', h, hset => by
    rw [List.foldlM_cons, bind_eq_ok_iff] at h
    obtain ⟨next, hnext, hrest⟩ := h
    exact lookup_of_foldlM_setNew hrest (lookup_of_setNew hnext hset)

end Variables

theorem Loader.setsOnlyUnset_standard : standard.SetsOnlyUnset := by
  intro env env' file h name value hset
  cases file with
  | none => exact Except.ok.inj h ▸ hset
  | some bytes =>
    obtain ⟨s, -, h⟩ := bind_eq_ok_iff.1 h
    exact Variables.lookup_of_foldlM_setNew (mapError_eq_ok_iff.1 h) hset

theorem Loader.SetsOnlyUnset.levelName_eq {l : Loader} (hset : l.SetsOnlyUnset)
    {env env' : Variables} {file : Option (List UInt8)}
    (h : l.loadVariables env file = .ok env') : env'.levelName = env.effectiveLevel env' := by
  rw [Variables.levelName, Variables.effectiveLevel]
  cases hlevel : env.lookup levelVariable with
  | none => rw [Option.none_or]
  | some value => rw [hset h levelVariable value hlevel, Option.some_or]

namespace Settings

/-- Loading reports the first of three faults: that of the file of variables, that of the level that
counts, and that of the configuration file. Without them it keeps what the sources give, the usual
settings where there is no configuration file. -/
theorem load_precedence (l : Loader) (hset : l.SetsOnlyUnset)
    (hcheck : l.validate.ChecksDeclarations) (env : Variables) (file : Option (List UInt8))
    (files : Files) (path? : Option Path) :
    (∀ e, l.loadVariables env file = .error e → load l env file files path? = .error e)
      ∧ ∀ env', l.loadVariables env file = .ok env' →
        ((∀ level : LogLevel, level.name ≠ env.effectiveLevel env') →
          ∃ e, l.validate .environment
              (Keywords.empty.give .logLevel (env.effectiveLevel env')) = .error e
            ∧ load l env file files path? = .error (.environment e))
        ∧ ∀ level : LogLevel, level.name = env.effectiveLevel env' →
          load l env file files path? =
            (path?.elim (.ok {}) (FileSettings.load l files)).map fun fromFile =>
              ⟨level, fromFile.direction, fromFile.codeLanguage⟩ := by
  refine ⟨fun e he => ?_, fun env' hload => ?_⟩
  · rw [load, he]
    rfl
  rw [← hset.levelName_eq hload]
  refine ⟨fun hnone => ?_, fun level hlevel => load_of_level hload hcheck hlevel files path?⟩
  obtain ⟨e, hvalidate, hsettings⟩ := hcheck.exists_settings_eq_error hnone
  refine ⟨e, hvalidate, ?_⟩
  rw [load, hload]
  change (env'.settings l.validate).mapError ConfigError.environment >>= _ = _
  rw [hsettings]
  rfl

/-- A level in lower case counts before the one of the file of variables. -/
theorem load_precedence_debug :
    let env : Variables := [(levelVariable, "debug".toList)]
    let file := Utf8.encode "MD_SCRAPBOX_LOG_LEVEL=error\n".toList
    let content := Utf8.encode "default_direction: sb2md".toList
    let files := Files.ofList [] [(["c.yaml".toList], content)]
    Loader.standard.SetsOnlyUnset ∧ Loader.standard.validate.ChecksDeclarations
      ∧ Loader.standard.loadVariables env (some file) = .ok env
      ∧ LogLevel.debug.name = env.effectiveLevel env
      ∧ load .standard env (some file) files (some (.ofText "c.yaml".toList))
        = .ok ⟨.debug, .scrapboxToMarkdown, CodeBlock.usualLanguage⟩ := by
  intro env file content files
  have hvariables : Loader.standard.loadVariables env (some file) = .ok env :=
    eq_ok_of_toOption (by decide +kernel)
  have hlevel : LogLevel.debug.name = env.effectiveLevel env := by decide +kernel
  have hfile : FileSettings.load .standard files (.ofText "c.yaml".toList)
      = .ok { direction := .scrapboxToMarkdown } := eq_ok_of_toOption (by decide +kernel)
  have hload := ((load_precedence .standard Loader.setsOnlyUnset_standard
    Validator.checksDeclarations_standard env (some file) files
    (some (.ofText "c.yaml".toList))).2 env hvariables).2 .debug hlevel
  rw [Option.elim_some, hfile] at hload
  exact ⟨Loader.setsOnlyUnset_standard, Validator.checksDeclarations_standard, hvariables, hlevel,
    hload⟩

/-- A file of variables that binds nothing but a name with an equals sign in it breaks the loading
off, though the usual level counts then and there is no configuration file. -/
theorem load_ne_of_equalsSign :
    let file := "'A=B'=1\n".toList
    Loader.standard.SetsOnlyUnset ∧ Loader.standard.validate.ChecksDeclarations
      ∧ VariableFile.resolved [] file = [("A=B".toList, some "1".toList)]
      ∧ load .standard [] (some (Utf8.encode file)) (Files.ofList [] []) none
        = .error (.unsettable .equalsSign)
      ∧ load .standard [] (some (Utf8.encode file)) (Files.ofList [] []) none ≠ .ok {} := by
  intro file
  have hdecode : decodeFile (Utf8.encode file) = .ok file :=
    eq_ok_of_toOption (by decide +kernel)
  have hresolved : VariableFile.resolved [] file = [("A=B".toList, some "1".toList)] := by
    decide +kernel
  have hvariables : Loader.standard.loadVariables [] (some (Utf8.encode file))
      = .error (.unsettable .equalsSign) := by
    change Variables.load [] (some (Utf8.encode file)) = _
    rw [Variables.load, hdecode]
    change (Variables.setFrom [] file).mapError ConfigError.unsettable = _
    rw [Variables.setFrom, hresolved]
    rfl
  have hfails : load .standard [] (some (Utf8.encode file)) (Files.ofList [] []) none
      = .error (.unsettable .equalsSign) := by
    rw [load, hvariables]
    rfl
  refine ⟨Loader.setsOnlyUnset_standard, Validator.checksDeclarations_standard, hresolved, hfails,
    fun h => ?_⟩
  rw [hfails] at h
  cases h

end Settings

end Dialects
