import DanalockBle.KeyManager.Schedule

/-!
# The refresh options

The options flow of `config_flow.py` and what saving its form does to the background cycle. The
library that checks a form's input is not part of the repository: it is a function of the fields
and the input, of which `Validates` states what the flow relies on.
-/

namespace DanalockBle

def maxRefreshPeriodHours : Int := 720
def maxRefreshJitterHours : Int := 24

/-! ## The stored options -/

/-- A setting of the refresh: the keys it is stored under, its default and its hour range. -/
structure RefreshSetting where
  hoursKey : String
  defaultHours : Int
  legacyMinutesKey : String
  maxHours : Int

def periodSetting : RefreshSetting :=
  ⟨confRefreshPeriodHours, defaultRefreshPeriodHours, legacyRefreshPeriodMin, maxRefreshPeriodHours⟩

def jitterSetting : RefreshSetting :=
  ⟨confRefreshJitterHours, defaultRefreshJitterHours, legacyRefreshJitterMin, maxRefreshJitterHours⟩

namespace RefreshSetting

/-- The effective hours. -/
def read (setting : RefreshSetting) (options : Options) : Int :=
  optionRefreshHours options setting.hoursKey setting.defaultHours setting.legacyMinutesKey

/-- The stored value that counts, in its own unit. -/
def governing (setting : RefreshSetting) (options : Options) : Option Int :=
  (options setting.hoursKey).or (options setting.legacyMinutesKey)

/-- What the forms have stored for the setting is in their ranges: hours up to the bound, minutes
up to as many hours. -/
def Stored (setting : RefreshSetting) (options : Options) : Prop :=
  (∀ hours ∈ options setting.hoursKey, 0 ≤ hours ∧ hours ≤ setting.maxHours) ∧
    ∀ minutes ∈ options setting.legacyMinutesKey, 0 ≤ minutes ∧ minutes ≤ setting.maxHours * 60

variable {setting : RefreshSetting} {options : Options}

theorem read_of_hours {hours : Int} (h : options setting.hoursKey = some hours) :
    setting.read options = hours := by
  simp [read, optionRefreshHours, h]

theorem read_of_minutes (h : options setting.hoursKey = none) {minutes : Int}
    (hm : options setting.legacyMinutesKey = some minutes) :
    setting.read options = minutes / 60 := by
  simp [read, optionRefreshHours, h, hm]

theorem read_of_nothing (h : options setting.hoursKey = none)
    (hm : options setting.legacyMinutesKey = none) :
    setting.read options = setting.defaultHours := by
  simp [read, optionRefreshHours, h, hm]

/-- The effective hours of stored options are hours that the form accepts. -/
theorem Stored.read_inRange (h : setting.Stored options)
    (hdefault : 0 ≤ setting.defaultHours ∧ setting.defaultHours ≤ setting.maxHours) :
    0 ≤ setting.read options ∧ setting.read options ≤ setting.maxHours := by
  cases hhours : options setting.hoursKey with
  | some hours =>
    rw [read_of_hours hhours]
    exact h.1 hours hhours
  | none =>
    cases hminutes : options setting.legacyMinutesKey with
    | some minutes =>
      rw [read_of_minutes hhours hminutes]
      obtain ⟨hlo, hhi⟩ := h.2 minutes hminutes
      exact ⟨Int.ediv_nonneg hlo (by decide), by omega⟩
    | none =>
      rw [read_of_nothing hhours hminutes]
      exact hdefault

/-- The effective hours are none exactly for no hours, or for minutes below one hour. -/
theorem Stored.read_nonpos_iff (h : setting.Stored options) (hdefault : 0 < setting.defaultHours) :
    setting.read options ≤ 0 ↔ options setting.hoursKey = some 0 ∨
      options setting.hoursKey = none ∧ ∃ minutes < 60,
        options setting.legacyMinutesKey = some minutes := by
  cases hhours : options setting.hoursKey with
  | some hours =>
    rw [read_of_hours hhours]
    have hlo := (h.1 hours hhours).1
    constructor
    · intro hle
      exact .inl (congrArg some (le_antisymm hle hlo))
    · rintro (hzero | ⟨hnone, -⟩)
      · exact (Option.some.inj hzero).le
      · cases hnone
  | none =>
    cases hminutes : options setting.legacyMinutesKey with
    | some minutes =>
      rw [read_of_minutes hhours hminutes]
      constructor
      · intro hle
        exact .inr ⟨rfl, minutes, by omega, rfl⟩
      · rintro (hzero | ⟨-, minutes', hlt, heq⟩)
        · cases hzero
        · cases heq
          omega
    | none =>
      rw [read_of_nothing hhours hminutes]
      constructor
      · intro hle
        omega
      · rintro (hzero | ⟨-, minutes, -, heq⟩)
        · cases hzero
        · cases heq

end RefreshSetting

theorem refreshPeriod_eq (options : Options) :
    refreshPeriod options = Timedelta.hours (periodSetting.read options) := rfl

theorem refreshJitter_eq (options : Options) :
    refreshJitter options = Timedelta.hours (jitterSetting.read options) := rfl

/-- Both settings hold what a form has stored, or nothing. -/
def StoredOptions (options : Options) : Prop :=
  periodSetting.Stored options ∧ jitterSetting.Stored options

/-! ## The options flow -/

/-- `vol.Required(key, default=…): vol.All(vol.Coerce(int), vol.Range(min=…, max=…))` -/
structure FormField where
  key : String
  default : Int
  min : Int
  max : Int

/-- The result of a step of the flow. -/
inductive FlowStep where
  /-- `async_show_form(step_id="init", data_schema=schema)` -/
  | showForm (schema : List FormField)
  /-- `async_create_entry(title="", data=user_input)` -/
  | createEntry (data : Options)

namespace DanalockOptionsFlow

/-- `async_step_init`: manage the key refresh options. -/
def asyncStepInit (options : Options) : Option Options → FlowStep
  | some userInput => .createEntry userInput
  | none => .showForm
    [⟨confRefreshPeriodHours, optionRefreshHours options confRefreshPeriodHours
        defaultRefreshPeriodHours legacyRefreshPeriodMin, 0, maxRefreshPeriodHours⟩,
      ⟨confRefreshJitterHours, optionRefreshHours options confRefreshJitterHours
        defaultRefreshJitterHours legacyRefreshJitterMin, 0, maxRefreshJitterHours⟩]

end DanalockOptionsFlow

/-- The check of a form's input: the values it accepts, or a rejection. -/
abbrev FormCheck := List FormField → Options → Option Options

/-- The input holds a number in range for every field, and nothing else. -/
def Fits (schema : List FormField) (input : Options) : Prop :=
  (∀ field ∈ schema, ∃ value ∈ input field.key, field.min ≤ value ∧ value ≤ field.max) ∧
    ∀ key, (∀ field ∈ schema, field.key ≠ key) → input key = none

/-- An input that fits is accepted as it is. -/
def FormCheck.Validates (check : FormCheck) : Prop :=
  ∀ schema input, Fits schema input → check schema input = some input

/-- The input of a form that is submitted as it was shown. -/
def untouched (schema : List FormField) : Options :=
  fun key => (schema.find? (·.key = key)).map (·.default)

/-- The flow's form is filled in and submitted: the options that the entry stores after it. -/
def submit (check : FormCheck) (options : Options) (fill : List FormField → Options) :
    Option Options :=
  match DanalockOptionsFlow.asyncStepInit options none with
  | .createEntry data => some data
  | .showForm schema =>
    match check schema (fill schema) with
    | none => none
    | some userInput =>
      match DanalockOptionsFlow.asyncStepInit options (some userInput) with
      | .createEntry data => some data
      | .showForm _ => none

/-- The fields of the form the flow shows. -/
def refreshForm (options : Options) : List FormField :=
  [⟨periodSetting.hoursKey, periodSetting.read options, 0, periodSetting.maxHours⟩,
    ⟨jitterSetting.hoursKey, jitterSetting.read options, 0, jitterSetting.maxHours⟩]

section
variable {options : Options}

theorem asyncStepInit_form :
    DanalockOptionsFlow.asyncStepInit options none = .showForm (refreshForm options) := rfl

theorem StoredOptions.prefilled (h : StoredOptions options) :
    ∀ field ∈ refreshForm options, field.min ≤ field.default ∧ field.default ≤ field.max := by
  intro field hfield
  simp only [refreshForm, List.mem_cons, List.not_mem_nil, or_false] at hfield
  rcases hfield with rfl | rfl
  · exact h.1.read_inRange (by decide)
  · exact h.2.read_inRange (by decide)

/-- A form with one field for each key fits its own prefilled values when they are in range. -/
theorem fits_untouched {schema : List FormField} (hkeys : (schema.map (·.key)).Nodup)
    (hrange : ∀ field ∈ schema, field.min ≤ field.default ∧ field.default ≤ field.max) :
    Fits schema (untouched schema) := by
  refine ⟨fun field hfield => ⟨field.default, ?_, hrange field hfield⟩, fun key hkey => ?_⟩
  · have hfind : schema.find? (·.key = field.key) = some field := by
      induction schema with
      | nil => cases hfield
      | cons head rest ih =>
        obtain ⟨hhead, hrest⟩ := List.nodup_cons.mp hkeys
        rcases List.mem_cons.mp hfield with rfl | hmem
        · simp
        · have hne : head.key ≠ field.key := fun heq =>
            hhead (List.mem_map.mpr ⟨field, hmem, heq.symm⟩)
          rw [List.find?_cons_of_neg (by simpa using hne)]
          exact ih hrest (fun f hf => hrange f (List.mem_cons_of_mem _ hf)) hmem
    simp [untouched, hfind]
  · have hfind : schema.find? (·.key = key) = none :=
      List.find?_eq_none.mpr fun field hfield => by simpa using hkey field hfield
    simp [untouched, hfind]

/-- What the entry stores after the untouched form: the hours of both settings, no minutes. -/
theorem StoredOptions.submit_untouched (h : StoredOptions options) {check : FormCheck}
    (hcheck : check.Validates) :
    submit check options untouched = some (untouched (refreshForm options)) := by
  have hfits : Fits (refreshForm options) (untouched (refreshForm options)) :=
    fits_untouched (by simp [refreshForm, periodSetting, jitterSetting, confRefreshPeriodHours,
      confRefreshJitterHours]) h.prefilled
  simp only [submit, asyncStepInit_form, hcheck _ _ hfits]
  rfl

end

/-! ## The background cycle -/

/-- Under the options a started manager arms no timer and begins no cycle. -/
def BackgroundDisabled (zone : TimeZone) (rng : Rng) (options : Options) : Prop :=
  ∀ (clock : Int) (ls : List (BackgroundLabel zone rng)), ls.all (!·.isStart) = true →
    let c := BackgroundConfig.run zone rng options clock ls
    c.state.timers.armed = 0 ∧ c.state.cycles = 0

theorem refreshPeriod_nonpos_iff (options : Options) :
    ¬ 0 < refreshPeriod options ↔ periodSetting.read options ≤ 0 := by
  have hhours : ∀ hours : Int, ¬ 0 < hours * 3600000000 ↔ hours ≤ 0 := by omega
  rw [refreshPeriod_eq]
  exact hhours (periodSetting.read options)

section
variable (zone : TimeZone) (rng : Rng) {options : Options} (clock : Int)

theorem init_state : (BackgroundConfig.init zone rng options clock).state =
    ((backgroundMachine zone rng).advance 0 DanalockKeyManager.start
      (BackgroundConfig.empty zone rng options clock).state).2 := rfl

theorem init_armed (hperiod : 0 < refreshPeriod options) :
    (BackgroundConfig.init zone rng options clock).state.timers.armed = 1 := by
  have hpositive : ¬ refreshPeriod (BackgroundConfig.empty zone rng options clock).state.options ≤
      0 := not_le.mpr hperiod
  rw [init_state, Background.advance_start, if_neg hpositive]
  rfl

theorem init_cycles : (BackgroundConfig.init zone rng options clock).state.cycles = 0 := by
  rw [init_state, Background.advance_start]
  split <;> rfl

end

/-- The cycle is disabled exactly by a period of no hours. -/
theorem backgroundDisabled_iff {zone : TimeZone} {rng : Rng} (hrng : rng.InRange)
    (options : Options) :
    BackgroundDisabled zone rng options ↔ periodSetting.read options ≤ 0 := by
  rw [← refreshPeriod_nonpos_iff]
  constructor
  · intro hdisabled hperiod
    have harmed := (hdisabled 0 [] rfl).1
    have hone := init_armed zone rng 0 hperiod
    exact absurd (hone.symm.trans harmed) (by decide)
  · intro hperiod clock ls hls
    obtain ⟨p, hp, -, hzero⟩ := BackgroundConfig.follows_init zone rng options clock
    obtain ⟨rfl, harmed⟩ := hzero hperiod
    obtain ⟨-, harmed', hcycles'⟩ :=
      BackgroundConfig.quiet_exec hrng hp (by rintro _ _ ⟨⟩) (.inl hperiod) hls
    exact ⟨harmed'.trans harmed, hcycles'.trans (init_cycles zone rng clock)⟩

/-- **Migrating the refresh options.** The prefilled values of the form are in its ranges; the
untouched form stores options under which the key manager computes the same period and jitter; and
the stored options disable the background cycle exactly when the period's hours are 0 or, without
hours, its minutes are below one hour. -/
theorem options_migration {check : FormCheck} (hcheck : check.Validates) {zone : TimeZone}
    {rng : Rng} (hrng : rng.InRange) {options : Options} (hstored : StoredOptions options) :
    (∃ schema, DanalockOptionsFlow.asyncStepInit options none = .showForm schema ∧
      ∀ field ∈ schema, field.min ≤ field.default ∧ field.default ≤ field.max) ∧
    (∃ saved, submit check options untouched = some saved ∧
      refreshPeriod saved = refreshPeriod options ∧ refreshJitter saved = refreshJitter options) ∧
    (BackgroundDisabled zone rng options ↔ options confRefreshPeriodHours = some 0 ∨
      options confRefreshPeriodHours = none ∧ ∃ minutes < 60,
        options legacyRefreshPeriodMin = some minutes) := by
  refine ⟨⟨_, asyncStepInit_form, hstored.prefilled⟩,
    ⟨_, hstored.submit_untouched hcheck, ?_, ?_⟩,
    (backgroundDisabled_iff hrng options).trans (hstored.1.read_nonpos_iff (by decide))⟩
  · rw [refreshPeriod_eq, refreshPeriod_eq]
    rfl
  · rw [refreshJitter_eq, refreshJitter_eq]
    rfl

/-- A check that coerces nothing: every value, or the default in its place, has to be in range. -/
def rangeCheck : FormCheck := fun schema input =>
  if schema.all (fun field => let value := (input field.key).getD field.default
      decide (field.min ≤ value ∧ value ≤ field.max)) then
    some fun key => (schema.find? (·.key = key)).map fun field => (input key).getD field.default
  else none

theorem rangeCheck_validates : rangeCheck.Validates := by
  rintro schema input ⟨hvalues, hothers⟩
  have hall : schema.all (fun field => decide (field.min ≤ (input field.key).getD field.default ∧
      (input field.key).getD field.default ≤ field.max)) = true := by
    refine List.all_eq_true.mpr fun field hfield => decide_eq_true ?_
    obtain ⟨value, hvalue, hrange⟩ := hvalues field hfield
    rw [Option.mem_def.mp hvalue]
    exact hrange
  unfold rangeCheck
  rw [if_pos hall]
  refine congrArg some (funext fun key => ?_)
  cases hfind : schema.find? (·.key = key) with
  | none =>
    have hnone := List.find?_eq_none.mp hfind
    exact (hothers key fun field hfield => by simpa using hnone field hfield).symm
  | some field =>
    have hkey : field.key = key := by simpa using List.find?_some hfind
    obtain ⟨value, hvalue, -⟩ := hvalues field (List.mem_of_find?_eq_some hfind)
    rw [hkey] at hvalue
    rw [Option.mem_def.mp hvalue]
    rfl

/-- An older version's options: a period of 125 minutes, and a jitter in both units. -/
def olderOptions : Options
  | "refresh_period_minutes" => some 125
  | "refresh_jitter_hours" => some 3
  | "refresh_jitter_minutes" => some 90
  | _ => none

theorem options_migration_olderOptions :
    (∃ schema, DanalockOptionsFlow.asyncStepInit olderOptions none = .showForm schema ∧
      ∀ field ∈ schema, field.min ≤ field.default ∧ field.default ≤ field.max) ∧
    (∃ saved, submit rangeCheck olderOptions untouched = some saved ∧
      refreshPeriod saved = refreshPeriod olderOptions ∧
      refreshJitter saved = refreshJitter olderOptions) ∧
    (BackgroundDisabled exampleZone alternatingRng olderOptions ↔
      olderOptions confRefreshPeriodHours = some 0 ∨
        olderOptions confRefreshPeriodHours = none ∧ ∃ minutes < 60,
          olderOptions legacyRefreshPeriodMin = some minutes) :=
  options_migration rangeCheck_validates alternatingRng_inRange
    (by unfold StoredOptions RefreshSetting.Stored; decide)

/-- A period of 30 minutes. -/
def halfHour : Options
  | "refresh_period_minutes" => some 30
  | _ => none

/-- A stored period of 30 minutes is positive and turns the background cycle off. -/
theorem halfHour_disabled :
    ¬ ∀ (check : FormCheck) (zone : TimeZone) (rng : Rng) (options : Options),
      check.Validates → rng.InRange → StoredOptions options →
      (∃ schema, DanalockOptionsFlow.asyncStepInit options none = .showForm schema ∧
        ∀ field ∈ schema, field.min ≤ field.default ∧ field.default ≤ field.max) ∧
      (∃ saved, submit check options untouched = some saved ∧
        refreshPeriod saved = refreshPeriod options ∧
        refreshJitter saved = refreshJitter options) ∧
      (BackgroundDisabled zone rng options ↔ periodSetting.governing options = some 0) := by
  intro h
  obtain ⟨-, -, hiff⟩ := h rangeCheck exampleZone alternatingRng halfHour rangeCheck_validates
    alternatingRng_inRange (by unfold StoredOptions RefreshSetting.Stored; decide)
  have hdisabled : BackgroundDisabled exampleZone alternatingRng halfHour :=
    (backgroundDisabled_iff alternatingRng_inRange halfHour).mpr (by decide)
  exact absurd (hiff.mp hdisabled) (by decide)

end DanalockBle
