import Mathlib.Data.List.Infix
import TestDouble.Proofs.Config.Names
import TestDouble.Proofs.Table

/-!
# What a library makes of its sources

Two things are relied on of a library that collects settings. It *hears* the variables whose names
begin as those that count, in whatever case, and takes each of them for what its name goes on with
(`SettingsLibrary.Hears`). And it lays a source over others name by name, so that later sources win
(`SettingsLibrary.LaysByName`). The first is so for all variables without nested names. The second is
asked of the sources at hand only: the name of a setting may also be a path that leads into another
one.

The library that runs hears variables (`Setting.library_hears`), and it lays a flat file and variables
that lead into no field by name (`Setting.library_layered`).
-/

namespace TestDouble

/-! ### Variables and fields -/

/-- The names of the fields of a configuration. -/
def Config.fieldNames : List String :=
  ["mode", "saturate_expectations", "verify_on_drop", "verify_no_other_calls", "capture_level",
    "log_level", "surface_separator"]

theorem Config.identifier_of_mem_fieldNames : ∀ field ∈ fieldNames, Identifier field := by
  decide

namespace Environment

/-- What the names of the variables that count begin with, in small letters. -/
def start : String := "call_harness_"

/-- The variables whose names begin as those that count, in whatever case. -/
def heard (e : Environment) : Environment :=
  e.filter fun p => Text.startsWith (Text.lower p.1) start

/-- The value of the first variable for a name. -/
def value? (e : Environment) (name : String) : Option String :=
  (e.map fun p => (Text.lower p.1, p.2)).lookup (start ++ name)

/-- At most one variable is for a name. -/
def Once (e : Environment) (name : String) : Prop :=
  (e.map fun p => Text.lower p.1).count (start ++ name) ≤ 1

instance (e : Environment) (name : String) : Decidable (e.Once name) :=
  inferInstanceAs (Decidable (_ ≤ _))

/-- No variable that counts has a nested name: behind the beginning no two underscores stand
together. -/
def Unnested (e : Environment) : Prop :=
  ∀ p ∈ e, ∀ rest, (Text.lower p.1).toList = start.toList ++ rest → ¬ ['_', '_'] <:+: rest

/-- Variables without nested names, no two of them for the same field. -/
structure Flat (e : Environment) : Prop where
  unnested : e.Unnested
  once : ∀ field ∈ Config.fieldNames, e.Once field

theorem value?_cons (p : String × String) (e : Environment) (name : String) :
    value? (p :: e) name = if start ++ name = Text.lower p.1 then some p.2 else value? e name := by
  rw [value?, List.map_cons, Entries.lookup_cons, value?]

/-- Variables that do not count are not for a name. -/
theorem value?_heard (e : Environment) (name : String) :
    value? e.heard name = e.value? name := by
  induction e with
  | nil => rfl
  | cons p e ih =>
    rw [value?_cons, ← ih]
    by_cases hheard : Text.startsWith (Text.lower p.1) start = true
    · have hcons : heard (p :: e) = p :: heard e := List.filter_cons_of_pos hheard
      rw [hcons, value?_cons]
    · have hname : start ++ name ≠ Text.lower p.1 := by
        intro heq
        refine hheard (Text.startsWith_iff.mpr ?_)
        rw [← heq, String.toList_append]
        exact List.prefix_append _ _
      have hcons : heard (p :: e) = heard e := List.filter_cons_of_neg hheard
      rw [hcons, if_neg hname]

end Environment

/-! ### What is relied on -/

namespace SettingsLibrary

/-- Variables are heard for what their names say, each for the value that is `given` by it. -/
def Hears (L : SettingsLibrary) (given : String → L.Value) : Prop :=
  ∀ e : Environment, e.Unnested → ∀ name, e.Once name →
    (L.environment Config.variableNames e).lookup name = (e.value? name).map given

/-- A source is laid over another one name by name, and wins, as far as fields are concerned. -/
def LaysByName (L : SettingsLibrary) (target source : L.Settings) : Prop :=
  ∀ field ∈ Config.fieldNames,
    (L.overlay target source).lookup field = (source.lookup field).or (target.lookup field)

/-- A file and the environment are laid over one another name by name. -/
structure Layered (L : SettingsLibrary) (file : L.Settings) (e : Environment) : Prop where
  ground : L.LaysByName [] file
  cover : L.LaysByName (L.overlay [] file) (L.environment Config.variableNames e)

end SettingsLibrary

/-! ### One setting laid over others -/

/-- A table of settings. -/
def Setting.isTable : Setting → Bool
  | table _ => true
  | _ => false

/-- What is no table takes the place of what was there. -/
theorem Setting.merge_of_not_isTable {s : Setting} (h : s.isTable = false) (old : Option Setting) :
    merge old s = s := by
  cases s with
  | value _ _ => rw [merge]
  | list _ _ => rw [merge]
  | table _ => cases h

/-- A named setting that cannot change a part of a field: it is no table, and its name, which is in
lower case, does not lead into the field. -/
structure Setting.Outright (field : String) (p : String × Setting) : Prop where
  settled : ∀ c ∈ p.1.toList, Text.Settled c
  direct : ∀ step steps, PathStep.path p.1 ≠ .entry field :: step :: steps
  plain : p.2.isTable = false

namespace Setting

variable {field : String}

/-- **Laid over others** such a setting replaces the field of its name, and no other. -/
theorem Outright.lookup {p : String × Setting} (h : Outright field p) (hfield : Identifier field)
    (target : Settings) :
    (entries (mergeAlong (PathStep.path p.1) p.2 (some (.table target)))).lookup field =
      if field = p.1 then some p.2 else target.lookup field := by
  obtain ⟨first, steps, hpath, hmem, hwhole⟩ := PathStep.exists_path p.1
  have hfirst : Text.lower first = field ↔ first = field := by
    have := hfield.lower_eq_iff fun c hc => h.settled c (hmem c hc)
    rwa [String.ofList_toList] at this
  have hlay : entries (mergeAlong (PathStep.path p.1) p.2 (some (.table target))) =
      Entries.put (Text.lower first) (mergeAlong steps p.2 (target.lookup (Text.lower first)))
        target := by
    rw [hpath, mergeAlong]
    rfl
  rw [hlay, Entries.lookup_put]
  by_cases hsame : first = field
  · -- a path that begins with the field is the field
    have hsteps : steps = [] := by
      cases steps with
      | nil => rfl
      | cons step steps => exact absurd (hsame ▸ hpath) (h.direct step steps)
    rw [if_pos (hfirst.mpr hsame).symm, if_pos (hsame.symm.trans (hwhole hsteps)), hsteps,
      mergeAlong, merge_of_not_isTable h.plain]
  · have hname : field ≠ p.1 := by
      intro heq
      rw [← heq, hfield.path] at hpath
      exact hsame (PathStep.entry.inj (List.cons.inj hpath).1).symm
    rw [if_neg fun heq => hsame (hfirst.mp heq.symm), if_neg hname]

/-- **Of the settings of one source** the last one of a name counts. -/
theorem lookup_overlay {source : Settings} (h : ∀ p ∈ source, Outright field p)
    (hfield : Identifier field) (target : Settings) :
    (overlay target source).lookup field =
      (source.reverse.lookup field).or (target.lookup field) := by
  induction source generalizing target with
  | nil => rfl
  | cons p source ih =>
    obtain ⟨hp, hrest⟩ := List.forall_mem_cons.mp h
    have hcons : overlay target (p :: source) =
        overlay (entries (mergeAlong (PathStep.path p.1) p.2 (some (.table target)))) source := rfl
    rw [hcons, ih hrest, hp.lookup hfield, List.reverse_cons, List.lookup_append, Option.or_assoc,
      show [p] = [(p.1, p.2)] from rfl, Entries.lookup_cons]
    split <;> rfl

end Setting

/-! ### The variables of the library that runs -/

namespace Environment

variable {e : Environment} {name value field : String}

theorem beginning_variableNames : beginning Config.variableNames = start.toList := by
  decide +kernel

/-- Only what separates nested names becomes a dot. -/
theorem dotted_of_unnested {nesting rest : List Char} (h : ¬ nesting <:+: rest) :
    dotted nesting 0 rest = rest := by
  induction rest with
  | nil => rfl
  | cons c rest ih =>
    have hfirst : nesting.isPrefixOf (c :: rest) = false := by
      rw [← Bool.not_eq_true, List.isPrefixOf_iff_prefix]
      exact fun hpre => h hpre.isInfix
    rw [dotted, hfirst, Bool.and_false, if_neg Bool.false_ne_true,
      ih fun hin => h (hin.trans (List.suffix_cons c rest).isInfix)]

/-- **What a variable says**: nothing, or its value for what its name goes on with. -/
theorem setting?_cases (name value : String) :
    (∃ rest, (Text.lower name).toList = start.toList ++ rest ∧
      setting? Config.variableNames name value =
        some (String.ofList (dotted ['_', '_'] 0 rest), given value)) ∨
    ((∀ rest, (Text.lower name).toList ≠ start.toList ++ rest) ∧
      setting? Config.variableNames name value = none) := by
  rw [setting?, beginning_variableNames]
  by_cases hstart : start.toList <+: (Text.lower name).toList
  · obtain ⟨rest, hrest⟩ := hstart
    refine .inl ⟨rest, hrest.symm, ?_⟩
    simp [← hrest, Config.variableNames]
  · refine .inr ⟨fun rest hrest => hstart ⟨rest, hrest.symm⟩, ?_⟩
    simp [hstart]

theorem settings_cons_some {s : String × Setting}
    (h : setting? Config.variableNames name value = some s) :
    settings Config.variableNames ((name, value) :: e) = s :: e.settings Config.variableNames :=
  List.filterMap_cons_some h

theorem settings_cons_none (h : setting? Config.variableNames name value = none) :
    settings Config.variableNames ((name, value) :: e) = e.settings Config.variableNames :=
  List.filterMap_cons_none h

/-- The name of the variable for a field. -/
theorem lower_eq_iff {rest : List Char} (h : (Text.lower name).toList = start.toList ++ rest) :
    start ++ field = Text.lower name ↔ field = String.ofList rest := by
  have hrest : (String.ofList rest).toList = rest := String.toList_ofList
  rw [← String.toList_inj, h, String.toList_append, ← String.toList_inj, hrest]
  exact List.append_right_inj start.toList

/-- **The environment's settings** hold for each name what the variable for it says. -/
theorem lookup_settings (h : e.Unnested) (name : String) :
    (e.settings Config.variableNames).lookup name = (e.value? name).map given := by
  induction e with
  | nil => rfl
  | cons p e ih =>
    obtain ⟨variableName, value⟩ := p
    obtain ⟨hp, hrest⟩ := List.forall_mem_cons.mp h
    have ih := ih hrest
    rw [value?_cons]
    obtain ⟨rest, hname, hset⟩ | ⟨hname, hset⟩ := setting?_cases variableName value
    · rw [settings_cons_some hset, Entries.lookup_cons, dotted_of_unnested (hp rest hname), ih]
      simp only [lower_eq_iff hname]
      split <;> rfl
    · rw [settings_cons_none hset, ih, if_neg]
      intro heq
      exact hname name.toList (by rw [← heq, String.toList_append])

/-- Of one variable the order of the variables does not matter. -/
theorem Once.value?_reverse (h : e.Once name) : value? e.reverse name = e.value? name := by
  rw [value?, value?, List.map_reverse]
  refine Entries.lookup_reverse ?_
  rw [List.map_map]
  exact h

/-- The settings of variables that lead into no field replace it or leave it alone. -/
theorem settings_outright (h : e.Unnested)
    (hdirect : ∀ p ∈ e, ∀ rest, (Text.lower p.1).toList = start.toList ++ rest →
      ∀ step steps, PathStep.path (String.ofList rest) ≠ .entry field :: step :: steps) :
    ∀ p ∈ e.settings Config.variableNames, Setting.Outright field p := by
  intro p hp
  obtain ⟨⟨name, value⟩, hmem, hset⟩ := List.mem_filterMap.mp hp
  obtain ⟨rest, hname, hsome⟩ | ⟨_, hnone⟩ := setting?_cases name value
  · rw [dotted_of_unnested (h _ hmem rest hname)] at hsome
    cases hset.symm.trans hsome
    refine ⟨fun c hc => ?_, hdirect _ hmem rest hname, rfl⟩
    refine Text.settled_lowerChars [] name.toList c ?_
    have hlower : Text.lowerChars [] name.toList = start.toList ++ rest := by
      rw [← hname, Text.lower, String.toList_ofList]
    rw [String.toList_ofList] at hc
    rw [hlower]
    exact List.mem_append_right _ hc
  · cases hset.symm.trans hnone

end Environment

/-! ### The library that runs -/

/-- Settings whose names are identifiers, no two of them the same, with no table among them. -/
structure Settings.Flat (file : Settings) : Prop where
  named : ∀ p ∈ file, Identifier p.1
  nodup : (file.map Prod.fst).Nodup
  plain : ∀ p ∈ file, p.2.isTable = false

theorem Settings.Flat.outright {file : Settings} (h : file.Flat) (field : String) :
    ∀ p ∈ file, Setting.Outright field p := by
  refine fun p hp => ⟨(h.named p hp).settled, fun step steps hpath => ?_, h.plain p hp⟩
  rw [(h.named p hp).path] at hpath
  cases hpath

namespace Setting

theorem library_hears : library.Hears Environment.given :=
  fun _ hunnested name _ => Environment.lookup_settings hunnested name

/-- **A flat file and flat variables** that lead into no field are laid by name. -/
theorem library_layered {file : Settings} {e : Environment} (hfile : file.Flat) (he : e.Flat)
    (hdirect : ∀ p ∈ e, ∀ rest, (Text.lower p.1).toList = Environment.start.toList ++ rest →
      ∀ field ∈ Config.fieldNames, ∀ step steps,
        PathStep.path (String.ofList rest) ≠ .entry field :: step :: steps) :
    library.Layered file e := by
  refine ⟨fun field hfield => ?_, fun field hfield => ?_⟩
  · have hid := Config.identifier_of_mem_fieldNames field hfield
    have hunique : (file.map Prod.fst).count field ≤ 1 :=
      List.nodup_iff_count_le_one.mp hfile.nodup _
    have hlay := lookup_overlay (hfile.outright field) hid []
    rw [Entries.lookup_reverse hunique] at hlay
    exact hlay
  · have hid := Config.identifier_of_mem_fieldNames field hfield
    have hreverse : (e.settings Config.variableNames).reverse =
        Environment.settings Config.variableNames e.reverse := (List.filterMap_reverse ..).symm
    have hlast : (e.settings Config.variableNames).reverse.lookup field =
        (e.settings Config.variableNames).lookup field := by
      rw [hreverse, Environment.lookup_settings fun p hp => he.unnested p (List.mem_reverse.mp hp),
        Environment.lookup_settings he.unnested, (he.once field hfield).value?_reverse]
    have hlay := lookup_overlay
      (Environment.settings_outright he.unnested fun p hp rest h => hdirect p hp rest h field hfield)
      hid (overlay [] file)
    rw [hlast] at hlay
    exact hlay

/-- The settings of a file that can be found and read. -/
theorem library_file_of_read {required : Bool} {d : Directory} {path name : String}
    {kind : FileKind} {es : List (String × Content)} (hfind : d.find? path = some (name, kind))
    (hread : kind.read ((d.lookup name).getD "") = .ok es) :
    library.file required d path = .ok (ofEntries name es) := by
  show d.settings required path = _
  rw [Directory.settings, hfind]
  simp only [hread]
  rfl

end Setting
end TestDouble
