import BrowserWait.Setup.Config
import BrowserWait.Proofs.Text.ByteOrder
import BrowserWait.Proofs.Text.Spelling

/-!
# Overrides

What a set of overrides makes of a configuration. Every field has a key and texts that are read as its values; an
entry that does not fit any field is wrong in one way only. The entries apply in the order of their keys, so of several
spellings of one key the last in that order decides, and of several wrong entries the first is the failure
(`overrides_by_key`).
-/

namespace BrowserWait

theorem Backend.ofName?_eq_some_iff {name : String} {backend : Backend} :
    ofName? name = some backend ↔ name = backend.name := by
  constructor
  · intro found
    rw [ofName?] at found
    have same := List.find?_some found
    exact (beq_iff_eq.mp same).symm
  · rintro rfl
    cases backend <;> decide

theorem AjaxFlavor.ofName?_eq_some_iff {name : String} {flavor : AjaxFlavor} :
    ofName? name = some flavor ↔ name = flavor.name := by
  constructor
  · intro found
    rw [ofName?] at found
    have same := List.find?_some found
    exact (beq_iff_eq.mp same).symm
  · rintro rfl
    exact ofName?_name flavor

theorem Backend.isLower_of_mem_name (backend : Backend) : ∀ c ∈ backend.name.toList, c.isLower = true := by
  cases backend <;> simp [name]

theorem AjaxFlavor.isLower_of_mem_name (flavor : AjaxFlavor) : ∀ c ∈ flavor.name.toList, c.isLower = true := by
  cases flavor <;> simp [name]

namespace Config

/-! ## Fields -/

/-- The fields an override can change. -/
inductive Field where
  | backend
  | serverUrl
  | baseUrl
  | seleniumServer
  | browser
  | defaultTimeout
  | pollFrequency
  | flavor
deriving DecidableEq, Repr

namespace Field

/-- The key of a field. -/
def key : Field → String
  | backend => "backend"
  | serverUrl => "server_url"
  | baseUrl => "base_url"
  | seleniumServer => "selenium_server"
  | browser => "browser"
  | defaultTimeout => "default_timeout_ms"
  | pollFrequency => "poll_frequency_ms"
  | flavor => "ajax_flavor"

/-- What a field holds. -/
def Value : Field → Type
  | backend => Backend
  | serverUrl | baseUrl => Option String
  | seleniumServer | browser => String
  | defaultTimeout | pollFrequency => Nat
  | flavor => AjaxFlavor

/-- The value of a field. -/
def get : (field : Field) → Config → field.Value
  | backend, config => config.backend
  | serverUrl, config => config.serverUrl
  | baseUrl, config => config.baseUrl
  | seleniumServer, config => config.seleniumServer
  | browser, config => config.browser
  | defaultTimeout, config => config.defaultTimeout
  | pollFrequency, config => config.pollFrequency
  | flavor, config => config.flavor

/-- The configuration with another value of one field. -/
def put : (field : Field) → Config → field.Value → Config
  | backend, config, value => { config with backend := value }
  | serverUrl, config, value => { config with serverUrl := value }
  | baseUrl, config, value => { config with baseUrl := value }
  | seleniumServer, config, value => { config with seleniumServer := value }
  | browser, config, value => { config with browser := value }
  | defaultTimeout, config, value => { config with defaultTimeout := value }
  | pollFrequency, config, value => { config with pollFrequency := value }
  | flavor, config, value => { config with flavor := value }

/-- A key names a field: each of its characters is that of the field's key there, or a dash where that has an
underscore. -/
def Named (field : Field) (key : String) : Prop :=
  List.Forall₂ (fun letter c => c = letter ∨ letter = '_' ∧ c = '-') field.key.toList key.toList

/-- The texts of a field's values: names in any ASCII case, numerals, and any text where the field is a text. -/
def Reads : (field : Field) → String → field.Value → Prop
  | backend, text, (value : Backend) => Text.Spells value.name text
  | serverUrl, text, value | baseUrl, text, value => value = some text
  | seleniumServer, text, value | browser, text, value => value = text
  | defaultTimeout, text, value | pollFrequency, text, value => Text.Denotes text.toList value
  | flavor, text, (value : AjaxFlavor) => Text.Spells value.name text

/-- What is said of a text that no value of the field has. -/
def complaint : Field → (key text : String) → String
  | backend, _, text => "unknown backend '" ++ text.map Char.toLower ++ "'"
  | flavor, _, text => "unknown ajax flavor '" ++ text.map Char.toLower ++ "'"
  | _, key, text => "'" ++ key ++ "' expects milliseconds, got '" ++ text ++ "'"

/-- The value a text is read as. -/
def value? : (field : Field) → String → Option field.Value
  | backend, text => Backend.ofName? (text.map Char.toLower)
  | serverUrl, text | baseUrl, text => some (some text)
  | seleniumServer, text | browser, text => some text
  | defaultTimeout, text | pollFrequency, text => Text.readUnsigned? text.toList
  | flavor, text => AjaxFlavor.ofName? (text.map Char.toLower)

theorem key_injective : Function.Injective key := by
  intro first second same
  cases first <;> cases second <;> first | rfl | exact absurd same (by decide)

/-- A key has no dash of its own. -/
theorem dash_notMem_key (field : Field) : '-' ∉ field.key.toList := by
  cases field <;> decide

theorem withUnderscores_eq_key_iff {field : Field} {key : String} :
    withUnderscores key = field.key ↔ field.Named key := by
  refine Text.map_eq_iff fun letter member c => ?_
  have dashless : letter ≠ '-' := ne_of_mem_of_not_mem member field.dash_notMem_key
  by_cases dash : c = '-'
  · rw [if_pos dash]
    subst dash
    simp [dashless.symm, eq_comm]
  · rw [if_neg dash]
    simp [dash]

theorem Named.unique {first second : Field} {key : String} (named : first.Named key) (also : second.Named key) :
    first = second :=
  key_injective ((withUnderscores_eq_key_iff.mpr named).symm.trans (withUnderscores_eq_key_iff.mpr also))

@[simp] theorem get_put_self (field : Field) (config : Config) (value : field.Value) :
    field.get (field.put config value) = value := by
  cases field <;> rfl

theorem get_put_of_ne {field other : Field} (differ : other ≠ field) (config : Config) (value : field.Value) :
    other.get (field.put config value) = other.get config := by
  cases field <;> cases other <;> first | rfl | exact absurd rfl differ

@[simp] theorem diagnostics_put (field : Field) (config : Config) (value : field.Value) :
    (field.put config value).diagnostics = config.diagnostics := by
  cases field <;> rfl

@[simp] theorem capabilities_put (field : Field) (config : Config) (value : field.Value) :
    (field.put config value).capabilities = config.capabilities := by
  cases field <;> rfl

/-- The fields, the switches and the capabilities are all there is to a configuration. -/
theorem config_ext {first second : Config} (fields : ∀ field : Field, field.get first = field.get second)
    (diagnostics : first.diagnostics = second.diagnostics)
    (capabilities : first.capabilities = second.capabilities) : first = second := by
  cases first
  cases second
  have sameBackend := fields backend
  have sameServerUrl := fields serverUrl
  have sameBaseUrl := fields baseUrl
  have sameServer := fields seleniumServer
  have sameBrowser := fields browser
  have sameTimeout := fields defaultTimeout
  have sameFrequency := fields pollFrequency
  have sameFlavor := fields flavor
  simp only [get] at *
  simp_all

theorem value?_eq_some_iff {field : Field} {text : String} {value : field.Value} :
    field.value? text = some value ↔ field.Reads text value := by
  cases field with
  | backend => exact Backend.ofName?_eq_some_iff.trans (Text.map_toLower_eq_iff (Backend.isLower_of_mem_name value))
  | flavor =>
    exact AjaxFlavor.ofName?_eq_some_iff.trans (Text.map_toLower_eq_iff (AjaxFlavor.isLower_of_mem_name value))
  | defaultTimeout | pollFrequency => exact Text.readUnsigned?_eq_some_iff
  | serverUrl | baseUrl | seleniumServer | browser => exact Option.some_inj.trans eq_comm

theorem Reads.unique {field : Field} {text : String} {first second : field.Value} (reads : field.Reads text first)
    (also : field.Reads text second) : first = second :=
  Option.some.inj ((value?_eq_some_iff.mpr reads).symm.trans (value?_eq_some_iff.mpr also))

end Field

/-! ## One override -/

theorem override_of_named {field : Field} {key : String} (named : field.Named key) (config : Config) (text : String) :
    config.override key text =
      match field.value? text with
      | some value => .ok (field.put config value)
      | none => .error (.config (field.complaint key text)) := by
  have name := Field.withUnderscores_eq_key_iff.mpr named
  cases field <;> simp only [override, name, Field.key, String.reduceEq, if_true, if_false, Field.value?]
  case backend =>
    rw [Backend.ofText]
    cases Backend.ofName? (text.map Char.toLower) <;> rfl
  case flavor =>
    rw [AjaxFlavor.ofText]
    cases AjaxFlavor.ofName? (text.map Char.toLower) <;> rfl
  case defaultTimeout | pollFrequency =>
    rw [milliseconds]
    cases Text.readUnsigned? text.toList <;> rfl
  all_goals rfl

theorem override_of_unnamed {key : String} (unnamed : ∀ field : Field, ¬ field.Named key) (config : Config)
    (text : String) :
    config.override key text = .error (.config ("unknown configuration key '" ++ key ++ "'")) := by
  have other (field : Field) : withUnderscores key ≠ field.key :=
    mt Field.withUnderscores_eq_key_iff.mp (unnamed field)
  have backend : withUnderscores key ≠ "backend" := other .backend
  have serverUrl : withUnderscores key ≠ "server_url" := other .serverUrl
  have baseUrl : withUnderscores key ≠ "base_url" := other .baseUrl
  have seleniumServer : withUnderscores key ≠ "selenium_server" := other .seleniumServer
  have browser : withUnderscores key ≠ "browser" := other .browser
  have defaultTimeout : withUnderscores key ≠ "default_timeout_ms" := other .defaultTimeout
  have pollFrequency : withUnderscores key ≠ "poll_frequency_ms" := other .pollFrequency
  have flavor : withUnderscores key ≠ "ajax_flavor" := other .flavor
  simp [override, *]

/-- An entry fits: its key names a field, and its text is that of a value there. -/
def Fits (key text : String) : Prop := ∃ field : Field, field.Named key ∧ ∃ value, field.Reads text value

/-- What is wrong with an entry that does not fit. -/
inductive Wrong (key text : String) : Failure → Prop
  /-- No field has the key. -/
  | unknown (unnamed : ∀ field : Field, ¬ field.Named key) :
      Wrong key text (.config ("unknown configuration key '" ++ key ++ "'"))
  /-- The field of the key has no value with the text. -/
  | unread {field : Field} (named : field.Named key) (unread : ∀ value, ¬ field.Reads text value) :
      Wrong key text (.config (field.complaint key text))

theorem fits_or_wrong (key text : String) : Fits key text ∨ ∃ failure, Wrong key text failure := by
  by_cases known : ∃ field : Field, field.Named key
  · obtain ⟨field, named⟩ := known
    by_cases read : ∃ value, field.Reads text value
    · exact .inl ⟨field, named, read⟩
    · exact .inr ⟨_, .unread named (not_exists.mp read)⟩
  · exact .inr ⟨_, .unknown (not_exists.mp known)⟩

theorem override_of_reads {field : Field} {key text : String} {value : field.Value} (named : field.Named key)
    (reads : field.Reads text value) (config : Config) : config.override key text = .ok (field.put config value) := by
  rw [override_of_named named, Field.value?_eq_some_iff.mpr reads]

theorem override_of_wrong {key text : String} {failure : Failure} (wrong : Wrong key text failure) (config : Config) :
    config.override key text = .error failure := by
  cases wrong with
  | unknown unnamed => exact override_of_unnamed unnamed config text
  | @unread field named unread =>
    have nothing : field.value? text = none :=
      Option.eq_none_iff_forall_not_mem.mpr fun value read => unread value (Field.value?_eq_some_iff.mp read)
    rw [override_of_named named, nothing]

theorem override_eq_ok_iff {config changed : Config} {key text : String} :
    config.override key text = .ok changed ↔
      ∃ (field : Field) (value : field.Value), field.Named key ∧ field.Reads text value ∧
        changed = field.put config value := by
  constructor
  · intro ok
    rcases fits_or_wrong key text with ⟨field, named, value, reads⟩ | ⟨failure, wrong⟩
    · rw [override_of_reads named reads] at ok
      exact ⟨field, value, named, reads, (Except.ok.inj ok).symm⟩
    · rw [override_of_wrong wrong] at ok
      cases ok
  · rintro ⟨field, value, named, reads, rfl⟩
    exact override_of_reads named reads config

/-! ## Overrides one after another -/

theorem overrideAll_skip (config : Config) (key : String) (more : List (String × String)) :
    config.overrideAll ((key, "") :: more) = config.overrideAll more := by
  rw [overrideAll, if_pos rfl]

theorem overrideAll_cons {text : String} (filled : text ≠ "") (config : Config) (key : String)
    (more : List (String × String)) :
    config.overrideAll ((key, text) :: more) = (config.override key text).bind (·.overrideAll more) := by
  rw [overrideAll, if_neg filled]
  rfl

theorem overrideAll_append (config : Config) (before after : List (String × String)) :
    config.overrideAll (before ++ after) = (config.overrideAll before).bind (·.overrideAll after) := by
  induction before generalizing config with
  | nil => rfl
  | cons entry more ih =>
    obtain ⟨key, text⟩ := entry
    by_cases empty : text = ""
    · subst empty
      rw [List.cons_append, overrideAll_skip, overrideAll_skip, ih]
    · rw [List.cons_append, overrideAll_cons empty, overrideAll_cons empty]
      cases config.override key text with
      | error failure => rfl
      | ok changed => exact ih changed

/-- What the first of several entries does where all of them apply. -/
theorem overrideAll_cons_ok {config changed : Config} {key text : String} {more : List (String × String)}
    (ok : config.overrideAll ((key, text) :: more) = .ok changed) :
    (text = "" ∧ config.overrideAll more = .ok changed) ∨
      (text ≠ "" ∧ ∃ (field : Field) (value : field.Value), field.Named key ∧ field.Reads text value ∧
        (field.put config value).overrideAll more = .ok changed) := by
  by_cases empty : text = ""
  · subst empty
    exact .inl ⟨rfl, by rwa [overrideAll_skip] at ok⟩
  · rw [overrideAll_cons empty] at ok
    cases first : config.override key text with
    | error failure =>
      rw [first] at ok
      cases ok
    | ok between =>
      obtain ⟨field, value, named, reads, rfl⟩ := override_eq_ok_iff.mp first
      rw [first] at ok
      exact .inr ⟨empty, field, value, named, reads, ok⟩

/-- Entries with a property wherever the value counts. -/
def Each (holds : String → String → Prop) (entries : List (String × String)) : Prop :=
  ∀ entry ∈ entries, entry.2 ≠ "" → holds entry.1 entry.2

/-- Either all entries fit, or there is a first one that does not. -/
theorem fit_or_first (entries : List (String × String)) :
    Each Fits entries ∨ ∃ before key text after failure, entries = before ++ (key, text) :: after ∧ Each Fits before ∧
      text ≠ "" ∧ Wrong key text failure := by
  induction entries with
  | nil => exact .inl (List.forall_mem_nil _)
  | cons entry more ih =>
    obtain ⟨key, text⟩ := entry
    by_cases good : text ≠ "" → Fits key text
    · rcases ih with fit | ⟨before, other, spelled, after, failure, rfl, fit, wrong⟩
      · exact .inl (List.forall_mem_cons.mpr ⟨good, fit⟩)
      · have longer : Each Fits ((key, text) :: before) := List.forall_mem_cons.mpr ⟨good, fit⟩
        exact .inr ⟨(key, text) :: before, other, spelled, after, failure, rfl, longer, wrong⟩
    · obtain ⟨filled, unfit⟩ := Classical.not_imp.mp good
      obtain ⟨failure, wrong⟩ := (fits_or_wrong key text).resolve_left unfit
      exact .inr ⟨[], key, text, more, failure, rfl, List.forall_mem_nil _, filled, wrong⟩

theorem overrideAll_of_fit {entries : List (String × String)} (fit : Each Fits entries) (config : Config) :
    ∃ changed, config.overrideAll entries = .ok changed := by
  induction entries generalizing config with
  | nil => exact ⟨config, rfl⟩
  | cons entry more ih =>
    obtain ⟨key, text⟩ := entry
    obtain ⟨first, rest⟩ := List.forall_mem_cons.mp fit
    by_cases empty : text = ""
    · subst empty
      rw [overrideAll_skip]
      exact ih rest config
    · obtain ⟨field, named, value, reads⟩ := first empty
      rw [overrideAll_cons empty, override_of_reads named reads]
      exact ih rest (field.put config value)

theorem overrideAll_of_first {before after : List (String × String)} {key text : String} {failure : Failure}
    (fit : Each Fits before) (filled : text ≠ "") (wrong : Wrong key text failure) (config : Config) :
    config.overrideAll (before ++ (key, text) :: after) = .error failure := by
  obtain ⟨between, ok⟩ := overrideAll_of_fit fit config
  rw [overrideAll_append, ok]
  change between.overrideAll ((key, text) :: after) = .error failure
  rw [overrideAll_cons filled, override_of_wrong wrong]
  rfl

theorem exists_overrideAll_iff {config : Config} {entries : List (String × String)} :
    (∃ changed, config.overrideAll entries = .ok changed) ↔ Each Fits entries := by
  refine ⟨fun ⟨changed, ok⟩ => ?_, fun fit => overrideAll_of_fit fit config⟩
  rcases fit_or_first entries with fit | ⟨before, key, text, after, failure, rfl, fit, filled, wrong⟩
  · exact fit
  · rw [overrideAll_of_first fit filled wrong] at ok
    cases ok

/-- Entries fail as the first of them does that does not fit. -/
theorem overrideAll_eq_error_iff {config : Config} {entries : List (String × String)} {failure : Failure} :
    config.overrideAll entries = .error failure ↔
      ∃ before key text after, entries = before ++ (key, text) :: after ∧ Each Fits before ∧ text ≠ "" ∧
        Wrong key text failure := by
  constructor
  · intro error
    rcases fit_or_first entries with fit | ⟨before, key, text, after, reason, rfl, fit, filled, wrong⟩
    · obtain ⟨changed, ok⟩ := overrideAll_of_fit fit config
      rw [ok] at error
      cases error
    · rw [overrideAll_of_first fit filled wrong] at error
      exact ⟨before, key, text, after, rfl, fit, filled, Except.error.inj error ▸ wrong⟩
  · rintro ⟨before, key, text, after, rfl, fit, filled, wrong⟩
    exact overrideAll_of_first fit filled wrong config

/-- A field takes the value of the last entry that names it. -/
theorem overrideAll_field (field : Field) {config changed : Config} {entries : List (String × String)}
    (ok : config.overrideAll entries = .ok changed) :
    (∃ before key text after, entries = before ++ (key, text) :: after ∧ text ≠ "" ∧ field.Named key ∧
        field.Reads text (field.get changed) ∧ Each (fun other _ => ¬ field.Named other) after) ∨
      (field.get changed = field.get config ∧ Each (fun other _ => ¬ field.Named other) entries) := by
  induction entries generalizing config with
  | nil =>
    cases ok
    exact .inr ⟨rfl, List.forall_mem_nil _⟩
  | cons entry more ih =>
    obtain ⟨key, text⟩ := entry
    rcases overrideAll_cons_ok ok with ⟨empty, rest⟩ | ⟨filled, other, value, named, reads, rest⟩
    · rcases ih rest with ⟨before, last, spelled, after, rfl, decided⟩ | ⟨same, unnamed⟩
      · exact .inl ⟨(key, text) :: before, last, spelled, after, rfl, decided⟩
      · exact .inr ⟨same, List.forall_mem_cons.mpr ⟨fun filled => absurd empty filled, unnamed⟩⟩
    · rcases ih rest with ⟨before, last, spelled, after, rfl, decided⟩ | ⟨same, unnamed⟩
      · exact .inl ⟨(key, text) :: before, last, spelled, after, rfl, decided⟩
      · by_cases this : field = other
        · subst this
          rw [Field.get_put_self] at same
          exact .inl ⟨[], key, text, more, rfl, filled, named, same ▸ reads, unnamed⟩
        · rw [Field.get_put_of_ne this] at same
          exact .inr ⟨same, List.forall_mem_cons.mpr ⟨fun _ also => this (also.unique named), unnamed⟩⟩

theorem overrideAll_diagnostics {config changed : Config} {entries : List (String × String)}
    (ok : config.overrideAll entries = .ok changed) :
    changed.diagnostics = config.diagnostics ∧ changed.capabilities = config.capabilities := by
  induction entries generalizing config with
  | nil =>
    cases ok
    exact ⟨rfl, rfl⟩
  | cons entry more ih =>
    rcases overrideAll_cons_ok ok with ⟨_, rest⟩ | ⟨_, field, value, _, _, rest⟩
    · exact ih rest
    · simpa using ih rest

/-! ## Overrides by key -/

/-- The last value given for a key, where it counts. -/
def Counts (overrides : List (String × String)) (key text : String) : Prop :=
  overrides.reverse.lookup key = some text ∧ text ≠ ""

theorem mem_ofEntries_iff_counts {overrides : List (String × String)} {key text : String} :
    (key, text) ∈ Keyed.ofEntries overrides ∧ text ≠ "" ↔ Counts overrides key text := by
  rw [Keyed.mem_ofEntries_iff, Counts]

theorem each_ofEntries_iff {holds : String → String → Prop} {overrides : List (String × String)} :
    Each holds (Keyed.ofEntries overrides) ↔ ∀ key text, Counts overrides key text → holds key text := by
  constructor
  · intro each key text counts
    obtain ⟨member, filled⟩ := mem_ofEntries_iff_counts.mpr counts
    exact each (key, text) member filled
  · intro each entry member filled
    exact each entry.1 entry.2 (mem_ofEntries_iff_counts.mp ⟨member, filled⟩)

/-- Of the entries that count and name a field, the one whose key has the greatest bytes. -/
structure Decides (overrides : List (String × String)) (field : Field) (key text : String) : Prop where
  counts : Counts overrides key text
  named : field.Named key
  greatest : ∀ other spelled, Counts overrides other spelled → field.Named other → Text.utf8 other ≤ Text.utf8 key

theorem Decides.unique {overrides : List (String × String)} {field : Field} {key text other spelled : String}
    (decides : Decides overrides field key text) (also : Decides overrides field other spelled) : text = spelled := by
  have notAbove : ¬ key < other := mt Text.utf8_lt_iff.mpr (decides.greatest other spelled also.counts also.named)
  have notBelow : ¬ other < key := mt Text.utf8_lt_iff.mpr (also.greatest key text decides.counts decides.named)
  obtain rfl : key = other := String.le_antisymm notBelow notAbove
  exact Option.some.inj (decides.counts.1.symm.trans also.counts.1)

theorem decides_of_split {overrides before after : List (String × String)} {field : Field} {key text : String}
    (split : Keyed.ofEntries overrides = before ++ (key, text) :: after) (filled : text ≠ "") (named : field.Named key)
    (unnamed : Each (fun other _ => ¬ field.Named other) after) : Decides overrides field key text := by
  have sorted := Keyed.sorted_ofEntries overrides
  rw [split] at sorted
  refine ⟨mem_ofEntries_iff_counts.mp ⟨by simp [split], filled⟩, named, fun other spelled counts also => ?_⟩
  obtain ⟨member, spelledFilled⟩ := mem_ofEntries_iff_counts.mpr counts
  rw [split] at member
  intro above
  rw [Text.utf8_lt_iff] at above
  rcases List.mem_append.mp member with earlier | later
  · have below : other < key := (List.pairwise_append.mp sorted).2.2 _ earlier _ List.mem_cons_self
    exact String.lt_irrefl _ (String.lt_trans below above)
  · rcases List.mem_cons.mp later with same | later
    · cases same
      exact String.lt_irrefl _ above
    · exact unnamed _ later spelledFilled also

theorem withOverrides_field (field : Field) {config changed : Config} {overrides : List (String × String)}
    (ok : config.withOverrides overrides = .ok changed) :
    (∃ key text, Decides overrides field key text ∧ field.Reads text (field.get changed)) ∨
      ((∀ key text, Counts overrides key text → ¬ field.Named key) ∧ field.get changed = field.get config) := by
  rcases overrideAll_field field ok with
    ⟨before, key, text, after, split, filled, named, reads, unnamed⟩ | ⟨same, unnamed⟩
  · exact .inl ⟨key, text, decides_of_split split filled named unnamed, reads⟩
  · exact .inr ⟨each_ofEntries_iff.mp unnamed, same⟩

/-- A second application finds every field as the first has left it. -/
theorem withOverrides_again {config changed : Config} {overrides : List (String × String)}
    (ok : config.withOverrides overrides = .ok changed) : changed.withOverrides overrides = .ok changed := by
  obtain ⟨again, onceMore⟩ := overrideAll_of_fit (exists_overrideAll_iff.mp ⟨changed, ok⟩) changed
  have others := overrideAll_diagnostics onceMore
  have same : again = changed := by
    refine Field.config_ext (fun field => ?_) others.1 others.2
    rcases withOverrides_field field onceMore with ⟨key, text, decides, reads⟩ | ⟨_, kept⟩
    · rcases withOverrides_field field ok with ⟨other, spelled, also, first⟩ | ⟨unnamed, _⟩
      · obtain rfl := decides.unique also
        exact reads.unique first
      · exact absurd decides.named (unnamed key text decides.counts)
    · exact kept
  rwa [same] at onceMore

/-- The failure of overrides is that of the entry with the least bytes for a key that does not fit. -/
theorem withOverrides_eq_error_iff {config : Config} {overrides : List (String × String)} {failure : Failure} :
    config.withOverrides overrides = .error failure ↔
      ∃ key text, Counts overrides key text ∧ Wrong key text failure ∧
        ∀ other spelled, Counts overrides other spelled → Text.utf8 other < Text.utf8 key → Fits other spelled := by
  have sorted := Keyed.sorted_ofEntries overrides
  rw [withOverrides, overrideAll_eq_error_iff]
  constructor
  · rintro ⟨before, key, text, after, split, fit, filled, wrong⟩
    have counts : Counts overrides key text := mem_ofEntries_iff_counts.mp ⟨by simp [split], filled⟩
    refine ⟨key, text, counts, wrong, fun other spelled counts below => ?_⟩
    obtain ⟨member, spelledFilled⟩ := mem_ofEntries_iff_counts.mpr counts
    rw [split] at member sorted
    rw [Text.utf8_lt_iff] at below
    rcases List.mem_append.mp member with earlier | later
    · exact fit _ earlier spelledFilled
    · rcases List.mem_cons.mp later with same | later
      · cases same
        exact absurd below (String.lt_irrefl _)
      · have above : key < other :=
          (List.pairwise_cons.mp (List.pairwise_append.mp sorted).2.1).1 _ later
        exact absurd (String.lt_trans below above) (String.lt_irrefl _)
  · rintro ⟨key, text, counts, wrong, fit⟩
    obtain ⟨member, filled⟩ := mem_ofEntries_iff_counts.mpr counts
    obtain ⟨before, after, split⟩ := List.append_of_mem member
    rw [split] at sorted
    refine ⟨before, key, text, after, split, fun entry earlier entryFilled => ?_, filled, wrong⟩
    have below : entry.1 < key := (List.pairwise_append.mp sorted).2.2 _ earlier _ List.mem_cons_self
    refine fit entry.1 entry.2 (mem_ofEntries_iff_counts.mp ⟨?_, entryFilled⟩) (Text.utf8_lt_iff.mpr below)
    rw [split]
    exact List.mem_append_left _ earlier

/-- What overrides make of a configuration: they apply exactly when every entry that counts fits; each field is then
what the deciding entry says, and all else is as before, also the second time; otherwise the first wrong key in the
order of its bytes is the failure. -/
theorem overrides_by_key (config : Config) (overrides : List (String × String)) :
    ((∃ changed, config.withOverrides overrides = .ok changed) ↔
        ∀ key text, Counts overrides key text → Fits key text) ∧
      (∀ changed, config.withOverrides overrides = .ok changed →
        (∀ field : Field,
          (∃ key text, Decides overrides field key text ∧ field.Reads text (field.get changed)) ∨
            ((∀ key text, Counts overrides key text → ¬ field.Named key) ∧ field.get changed = field.get config)) ∧
        changed.diagnostics = config.diagnostics ∧ changed.capabilities = config.capabilities ∧
        changed.withOverrides overrides = .ok changed) ∧
      ∀ failure, config.withOverrides overrides = .error failure ↔
        ∃ key text, Counts overrides key text ∧ Wrong key text failure ∧
          ∀ other spelled, Counts overrides other spelled → Text.utf8 other < Text.utf8 key → Fits other spelled := by
  refine ⟨exists_overrideAll_iff.trans each_ofEntries_iff, fun changed ok => ?_, fun _ => withOverrides_eq_error_iff⟩
  obtain ⟨diagnostics, capabilities⟩ := overrideAll_diagnostics ok
  exact ⟨fun field => withOverrides_field field ok, diagnostics, capabilities, withOverrides_again ok⟩

/-- An underscore comes behind a dash, whichever of two spellings is given last. -/
theorem overrides_by_key_two_spellings :
    let overrides := [("server_url", "http://a.test"), ("server-url", "http://b.test"), ("colour", "")]
    let changed : Config := { serverUrl := some "http://a.test" }
    ({} : Config).withOverrides overrides = .ok changed ∧ changed.withOverrides overrides = .ok changed := by
  intro overrides changed
  have applied : ({} : Config).withOverrides overrides = .ok changed := by cbv
  exact ⟨applied, ((overrides_by_key {} overrides).2.1 changed applied).2.2.2⟩

end Config

end BrowserWait
