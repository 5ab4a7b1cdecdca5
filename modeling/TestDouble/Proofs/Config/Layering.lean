import Mathlib
import TestDouble.Proofs.Config.Sources

/-!
# Configurations from two sources

A field of a configuration has the value that the environment gives it, or else the file, or else
its default. For any library that hears variables, wherever it lays the environment over the file by
name, this is all there is to loading (`layering_decides`): what has been laid over what comes down
to one value for each field (`Config.lookup_layers`), and nothing else is ever read.
-/

namespace TestDouble

namespace Config

/-! ### What counts for a field -/

/-- What counts for a field: what the variable for it gives, or else what the file says. -/
def chosen {V : Type} (given : String → V) (e : Environment) (file : List (String × V))
    (field : String) : Option V :=
  match e.value? field with
  | some value => some (given value)
  | none => file.lookup field

variable {L : SettingsLibrary} {given : String → L.Value} {file file' : L.Settings}
  {e e' : Environment}

/-- **Of both sources together** there is for each field what counts for it. -/
theorem lookup_layers (hears : L.Hears given) (he : e.Flat) (hlayered : L.Layered file e)
    {field : String} (hfield : field ∈ fieldNames) :
    (layers L file e).lookup field = chosen given e file field := by
  rw [layers, hlayered.cover field hfield, hlayered.ground field hfield,
    hears e he.unnested field (he.once field hfield), List.lookup_nil, Option.or_none, chosen]
  cases e.value? field <;> rfl

/-- Variables that do not count do not matter for a field. -/
theorem chosen_congr_heard (h : e'.heard = e.heard) (field : String) :
    chosen given e' file field = chosen given e file field := by
  rw [chosen, chosen, ← e'.value?_heard, h, e.value?_heard]

/-! ### Reading the fields -/

/-- The value of a field: what the setting that counts is read as, or else the default. -/
def Gives {V α : Type} (setting : Option V) (read : V → Except ConfigError α) (default value : α) :
    Prop :=
  match setting with
  | some v => read v = .ok value
  | none => value = default

/-- Every field has the value that the setting for it gives. -/
structure Follows (L : SettingsLibrary) (c : Config) (setting : String → Option L.Value) : Prop where
  mode : Gives (setting "mode") (L.choiceOf "VerificationMode" Mode.names) .strict c.mode
  saturateExpectations :
    Gives (setting "saturate_expectations") (L.boolOf "saturate_expectations") true
      c.saturateExpectations
  verifyOnDrop : Gives (setting "verify_on_drop") (L.boolOf "verify_on_drop") true c.verifyOnDrop
  verifyNoOtherCalls :
    Gives (setting "verify_no_other_calls") (L.boolOf "verify_no_other_calls") true
      c.verifyNoOtherCalls
  captureLevel :
    Gives (setting "capture_level") (L.choiceOf "LogLevel" LogLevel.names) .information
      c.captureLevel
  logLevel : Gives (setting "log_level") (L.choiceOf "LogLevel" LogLevel.names) .debug c.logLevel
  surfaceSeparator :
    Gives (setting "surface_separator") (L.textOf "surface_separator") "::" c.surfaceSeparator

variable {s s' : L.Settings} {c : Config}

/-- Only the settings for the fields matter. -/
theorem Follows.congr {setting setting' : String → Option L.Value} (h : Follows L c setting)
    (heq : ∀ field ∈ fieldNames, setting field = setting' field) : Follows L c setting' := by
  simp only [fieldNames, List.forall_mem_cons] at heq
  obtain ⟨hmode, hsaturate, honDrop, hnoOther, hcapture, hlog, hseparator, -⟩ := heq
  exact ⟨hmode ▸ h.mode, hsaturate ▸ h.saturateExpectations, honDrop ▸ h.verifyOnDrop,
    hnoOther ▸ h.verifyNoOtherCalls, hcapture ▸ h.captureLevel, hlog ▸ h.logLevel,
    hseparator ▸ h.surfaceSeparator⟩

theorem bind_eq_ok {ε α β : Type} {x : Except ε α} {f : α → Except ε β} {b : β} :
    (x >>= f) = .ok b ↔ ∃ a, x = .ok a ∧ f a = .ok b := by
  cases x <;> simp [bind, Except.bind]

theorem fieldOf_eq_ok_iff {V α : Type} {s : List (String × V)} {name : String}
    {read : V → Except ConfigError α} {default value : α} :
    fieldOf s name read default = .ok value ↔ Gives (s.lookup name) read default value := by
  rw [fieldOf]
  unfold Gives
  cases s.lookup name with
  | some found => rfl
  | none => exact ⟨fun h => (Except.ok.inj h).symm, fun h => congrArg Except.ok h.symm⟩

/-- **Settings describe a configuration** when every one that counts can be read. -/
theorem ofSettings_eq_ok_iff :
    ofSettings L s = .ok c ↔ Follows L c fun field => s.lookup field := by
  simp only [ofSettings, bind_eq_ok, fieldOf_eq_ok_iff]
  constructor
  · rintro ⟨mode, hmode, saturate, hsaturate, onDrop, honDrop, noOther, hnoOther, capture, hcapture,
      log, hlog, separator, hseparator, hpure⟩
    cases hpure
    exact ⟨hmode, hsaturate, honDrop, hnoOther, hcapture, hlog, hseparator⟩
  · rintro ⟨hmode, hsaturate, honDrop, hnoOther, hcapture, hlog, hseparator⟩
    exact ⟨_, hmode, _, hsaturate, _, honDrop, _, hnoOther, _, hcapture, _, hlog, _, hseparator,
      rfl⟩

/-- What no field is named after does not matter, nor for what a configuration is refused. -/
theorem ofSettings_congr (h : ∀ field ∈ fieldNames, s.lookup field = s'.lookup field) :
    ofSettings L s = ofSettings L s' := by
  simp only [fieldNames, List.forall_mem_cons] at h
  simp only [ofSettings, fieldOf, h]

/-! ### Validation -/

/-- A configuration can be used when its separator is not empty and has no white space. -/
theorem validate_eq_ok_iff : c.validate = .ok () ↔
    c.surfaceSeparator ≠ "" ∧ ∀ ch ∈ c.surfaceSeparator.toList, Text.isBlank ch = false := by
  rw [validate, checkSeparator]
  split_ifs with hempty hblank
  · simp_all
  · simp_all [Text.hasBlank]
  · simp_all [Text.hasBlank]

/-- What is built is what the settings describe, if that can be used. -/
theorem build_eq_ok_iff :
    build L file e = .ok c ↔ ofSettings L (layers L file e) = .ok c ∧ c.validate = .ok () := by
  rw [build, bind_eq_ok]
  constructor
  · rintro ⟨built, hbuilt, hrest⟩
    obtain ⟨_, hvalid, hpure⟩ := bind_eq_ok.mp hrest
    cases hpure
    exact ⟨hbuilt, hvalid⟩
  · rintro ⟨hbuilt, hvalid⟩
    exact ⟨c, hbuilt, bind_eq_ok.mpr ⟨(), hvalid, rfl⟩⟩

theorem buildFrom_eq_ok_iff {file : Except LoadError L.Settings} :
    buildFrom L file e = .ok c ↔ ∃ settings, file = .ok settings ∧ build L settings e = .ok c := by
  rw [buildFrom, bind_eq_ok]
  refine exists_congr fun settings => and_congr_right fun _ => ?_
  cases build L settings e <;> simp [pure, Except.pure]

/-- Everything that is built can be used. -/
theorem validate_of_buildFrom {file : Except LoadError L.Settings}
    (h : buildFrom L file e = .ok c) : c.validate = .ok () := by
  obtain ⟨_, -, hbuild⟩ := buildFrom_eq_ok_iff.mp h
  exact (build_eq_ok_iff.mp hbuild).2

/-- What flat layers build is what counts for each field, if that can be used. -/
theorem build_eq_ok_iff_follows (hears : L.Hears given) (he : e.Flat)
    (hlayered : L.Layered file e) :
    build L file e = .ok c ↔ Follows L c (chosen given e file) ∧ c.validate = .ok () := by
  have hlookup : ∀ field ∈ fieldNames, _ = chosen given e file field :=
    fun _ hfield => lookup_layers hears he hlayered hfield
  rw [build_eq_ok_iff, ofSettings_eq_ok_iff]
  refine and_congr_left fun _ => ⟨fun h => h.congr hlookup, fun h => h.congr ?_⟩
  exact fun field hfield => (hlookup field hfield).symm

/-- **Nothing else is read** than the settings that count for the fields. -/
theorem build_congr (hears : L.Hears given) (he : e.Flat) (hlayered : L.Layered file e)
    (he' : e'.Flat) (hlayered' : L.Layered file' e')
    (h : ∀ field ∈ fieldNames, chosen given e' file' field = chosen given e file field) :
    build L file' e' = build L file e := by
  have hsettings : ofSettings L (layers L file' e') = ofSettings L (layers L file e) := by
    refine ofSettings_congr fun field hfield => ?_
    rw [lookup_layers hears he' hlayered' hfield, lookup_layers hears he hlayered hfield,
      h field hfield]
  rw [build, build, hsettings]

end Config

/-! ### Loading -/

/-- **Sources are laid over one another field by field.** Take any library that hears variables. From
a file that it can read and variables without nested names, no two of them for the same field, a
configuration is loaded, if the library lays these sources by name, exactly when for each field the
variable for it, or else the entry of the file, can be read, and the separator can be used; it then
has just what was read, and the defaults. Nothing else of the file and the environment matters,
whatever comes out: neither an entry that a variable stands before, nor what no field is named after,
nor variables with another beginning. Whatever is loaded, by any library and from whatever sources,
passes its validation. -/
theorem layering_decides (L : SettingsLibrary) (d : Directory) (e : Environment) (path : String) :
    (∀ given, L.Hears given → ∀ file, L.file true d path = .ok file → e.Flat → L.Layered file e →
      (∀ c, L.loadFile d e path = .ok c ↔
        Config.Follows L c (Config.chosen given e file) ∧ c.surfaceSeparator ≠ "" ∧
          ∀ ch ∈ c.surfaceSeparator.toList, Text.isBlank ch = false) ∧
      (∀ (d' : Directory) (e' : Environment) (path' : String) (file' : L.Settings),
        L.file true d' path' = .ok file' → e'.Flat → L.Layered file' e' →
        (∀ field ∈ Config.fieldNames,
          Config.chosen given e' file' field = Config.chosen given e file field) →
        L.loadFile d' e' path' = L.loadFile d e path) ∧
      ∀ e' : Environment, e'.Flat → L.Layered file e' → e'.heard = e.heard →
        L.loadFile d e' path = L.loadFile d e path) ∧
    ∀ c, L.loadFile d e path = .ok c ∨ L.load d e = .ok c → c.validate = .ok () := by
  refine ⟨fun given hears file hfile he hlayered => ?_, ?_⟩
  · have hsame : ∀ (d' : Directory) (e' : Environment) (path' : String) (file' : L.Settings),
        L.file true d' path' = .ok file' → e'.Flat → L.Layered file' e' →
        (∀ field ∈ Config.fieldNames,
          Config.chosen given e' file' field = Config.chosen given e file field) →
        L.loadFile d' e' path' = L.loadFile d e path := by
      intro d' e' path' file' hfile' he' hlayered' hchosen
      have hbuild := Config.build_congr hears he hlayered he' hlayered' hchosen
      simp only [SettingsLibrary.loadFile, Config.buildFrom, hfile, hfile', bind, Except.bind,
        hbuild]
    refine ⟨fun c => ?_, hsame, fun e' he' hlayered' hheard => ?_⟩
    · have hload : L.loadFile d e path = .ok c ↔ Config.build L file e = .ok c := by
        simp [SettingsLibrary.loadFile, Config.buildFrom_eq_ok_iff, hfile]
      rw [hload, Config.build_eq_ok_iff_follows hears he hlayered, Config.validate_eq_ok_iff]
    · exact hsame d e' path file hfile he' hlayered' fun field _ =>
        Config.chosen_congr_heard hheard field
  · rintro c (h | h)
    · exact Config.validate_of_buildFrom h
    · exact Config.validate_of_buildFrom h

/-- A mode that cannot be read and an entry for no field are as good as missing where a variable
gives the mode. -/
theorem layering_decides_overridden :
    let L := Setting.library
    let d : Directory := [("c.toml", "mode = true\nlog_level = \"warn\"\nowner = true\n")]
    let d' : Directory := [("c.toml", "log_level = \"warn\"\n")]
    let e : Environment := [("CALL_HARNESS_MODE", "Lenient"), ("HOME", "/")]
    let e' : Environment := [("CALL_HARNESS_MODE", "Lenient")]
    let c : Config := { Config.lenient with logLevel := .warning }
    L.loadFile d e "c" = .ok c ∧ L.loadFile d' e "c.toml" = L.loadFile d e "c" ∧
      L.loadFile d e' "c" = L.loadFile d e "c" ∧ c.validate = .ok () := by
  intro L d d' e e' c
  have hread : FileKind.read .toml "mode = true\nlog_level = \"warn\"\nowner = true\n" =
      .ok [("mode", .scalar (.bool true)), ("log_level", .scalar (.text "warn")),
        ("owner", .scalar (.bool true))] := by
    cbv
  have hread' : FileKind.read .toml "log_level = \"warn\"\n" =
      .ok [("log_level", .scalar (.text "warn"))] := by
    cbv
  let file : Settings := [("mode", .value (some "c.toml") (.bool true)),
    ("log_level", .value (some "c.toml") (.text "warn")),
    ("owner", .value (some "c.toml") (.bool true))]
  let file' : Settings := [("log_level", .value (some "c.toml") (.text "warn"))]
  have hfind : d.find? "c" = some ("c.toml", .toml) := rfl
  have hfind' : d'.find? "c.toml" = some ("c.toml", .toml) := rfl
  have hfile : L.file true d "c" = .ok file := Setting.library_file_of_read hfind hread
  have hfile' : L.file true d' "c.toml" = .ok file' := Setting.library_file_of_read hfind' hread'
  have hflat : Settings.Flat file := ⟨by decide, by decide, by decide⟩
  have hflat' : Settings.Flat file' := ⟨by decide, by decide, by decide⟩
  -- of the variables only the one for the mode counts
  have hrest : ∀ p ∈ e, ∀ rest, (Text.lower p.1).toList = Environment.start.toList ++ rest →
      rest = "mode".toList := by
    have hmode : (Text.lower "CALL_HARNESS_MODE").toList =
        Environment.start.toList ++ "mode".toList := by
      decide +kernel
    have hhome : ¬ Environment.start.toList <+: (Text.lower "HOME").toList := by decide +kernel
    refine List.forall_mem_cons.mpr ⟨fun rest h => ?_, List.forall_mem_singleton.mpr ?_⟩
    · exact ((List.append_right_inj _).mp (hmode.symm.trans h)).symm
    · exact fun rest h => absurd ⟨rest, h.symm⟩ hhome
  have hsub : ∀ p ∈ e', p ∈ e := fun p hp => List.mem_cons.mpr (.inl (List.mem_singleton.mp hp))
  have hunnested : e.Unnested := by
    intro p hp rest h
    rw [hrest p hp rest h]
    decide
  have hdirect : ∀ p ∈ e, ∀ rest, (Text.lower p.1).toList = Environment.start.toList ++ rest →
      ∀ field ∈ Config.fieldNames, ∀ step steps,
        PathStep.path (String.ofList rest) ≠ .entry field :: step :: steps := by
    intro p hp rest h field _ step steps hpath
    have hmode : Identifier "mode" := by decide
    rw [hrest p hp rest h, String.ofList_toList, hmode.path] at hpath
    cases hpath
  have he : e.Flat := ⟨hunnested, by decide +kernel⟩
  have he' : e'.Flat := ⟨fun p hp => hunnested p (hsub p hp), by decide +kernel⟩
  have hlayered : L.Layered file e := Setting.library_layered hflat he hdirect
  have hlayered' : L.Layered file' e := Setting.library_layered hflat' he hdirect
  have hfewer : L.Layered file e' :=
    Setting.library_layered hflat he' fun p hp => hdirect p (hsub p hp)
  obtain ⟨hall, hvalid⟩ := layering_decides L d e "c"
  obtain ⟨hloads, hsame, hheard⟩ :=
    hall Environment.given Setting.library_hears file hfile he hlayered
  have hfollows : Config.Follows L c (Config.chosen Environment.given e file) :=
    ⟨rfl, rfl, rfl, rfl, rfl, rfl, rfl⟩
  have hloaded : L.loadFile d e "c" = .ok c :=
    (hloads c).mpr ⟨hfollows, Config.validate_eq_ok_iff.mp (by decide)⟩
  refine ⟨hloaded, hsame d' e "c.toml" file' hfile' he hlayered' ?_,
    hheard e' he' hfewer (by decide +kernel), hvalid c (.inl hloaded)⟩
  simp only [Config.fieldNames, List.forall_mem_cons]
  exact ⟨rfl, rfl, rfl, rfl, rfl, rfl, rfl, by simp⟩

/-- A variable whose name begins in small letters counts, though no documented name begins so. Without
it the defaults are loaded. -/
theorem variables_heard_in_any_case :
    let L := Setting.library
    let d : Directory := [("c.json", "\x7b\x7d")]
    let e : Environment := [("call_harness_mode", "lenient")]
    L.file true d "c.json" = .ok [] ∧ L.Layered [] e ∧
      (∀ p ∈ e, ¬ Text.startsWith p.1 "CALL_HARNESS_") ∧
      L.loadFile d e "c.json" = .ok Config.lenient ∧ L.loadFile d [] "c.json" = .ok Config.strict ∧
      Config.lenient ≠ Config.strict := by
  refine ⟨rfl, ⟨?_, ?_⟩, by decide +kernel, rfl, rfl, by decide⟩
  · simp only [SettingsLibrary.LaysByName, Config.fieldNames, List.forall_mem_cons]
    exact ⟨rfl, rfl, rfl, rfl, rfl, rfl, rfl, by simp⟩
  · simp only [SettingsLibrary.LaysByName, Config.fieldNames, List.forall_mem_cons]
    exact ⟨rfl, rfl, rfl, rfl, rfl, rfl, rfl, by simp⟩

end TestDouble
