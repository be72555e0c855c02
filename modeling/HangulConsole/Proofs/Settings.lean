import HangulConsole.Settings.Basic

/-!
# Settings under an environment

Two variables override one choice each.  The origin of the keyword script is overridden first, and
that stays when the language turns out to be unknown.
-/

namespace HangulConsole
namespace Settings

/-- An environment gives a variable a value that is not blank. -/
def Gives (lookup : String -> Option String) (name value : String) : Prop :=
  lookup name = some value ∧ ∃ c ∈ value.toList, Text.isBlank c = false

variable {settings : Settings} {lookup : String -> Option String} {name value : String}

theorem override?_eq_some_iff : override? lookup name = some value ↔ Gives lookup name value := by
  rw [override?, Option.filter_eq_some_iff, Gives, Text.isBlankText]
  simp

theorem override?_eq_none_iff :
    override? lookup name = none ↔ ∀ value, ¬Gives lookup name value := by
  rw [Option.eq_none_iff_forall_ne_some]
  exact forall_congr' fun value => not_congr override?_eq_some_iff

/-!
# The keyword script
-/

theorem withKeywords_of_gives (given : Gives lookup keywordsVariable value) :
    settings.withKeywords lookup = { settings with keywords? := some value } := by
  rw [withKeywords, override?_eq_some_iff.2 given]

theorem withKeywords_of_none (missing : ∀ value, ¬Gives lookup keywordsVariable value) :
    settings.withKeywords lookup = settings := by
  rw [withKeywords, override?_eq_none_iff.2 missing]

theorem withKeywords_eq (settings : Settings) (lookup : String -> Option String) :
    settings.withKeywords lookup =
      { settings with keywords? := (settings.withKeywords lookup).keywords? } := by
  rw [withKeywords]
  split
  · rfl
  · rfl

theorem withKeywords_withKeywords (settings : Settings) (lookup : String -> Option String)
    (language : Language) :
    { settings.withKeywords lookup with language }.withKeywords lookup =
      { settings.withKeywords lookup with language } := by
  rw [withKeywords, withKeywords]
  cases override? lookup keywordsVariable with
  | none => rfl
  | some keywords => rfl

theorem withKeywords_eq_self_iff :
    settings.withKeywords lookup = settings ↔
      ∀ value, Gives lookup keywordsVariable value -> settings.keywords? = some value := by
  constructor
  · intro same value given
    rw [withKeywords_of_gives given] at same
    exact (congrArg keywords? same).symm
  · intro already
    by_cases given : ∃ value, Gives lookup keywordsVariable value
    · rcases given with ⟨value, given⟩
      rw [withKeywords_of_gives given, ← already value given]
    · exact withKeywords_of_none (not_exists.1 given)

/-!
# The language
-/

theorem withEnvironment_of_none (missing : ∀ value, ¬Gives lookup languageVariable value) :
    settings.withEnvironment lookup = (settings.withKeywords lookup, .ok ()) := by
  rw [withEnvironment, override?_eq_none_iff.2 missing]

theorem withEnvironment_of_ok {language : Language} (given : Gives lookup languageVariable value)
    (known : Language.parse value = .ok language) :
    settings.withEnvironment lookup =
      ({ settings.withKeywords lookup with language }, .ok ()) := by
  rw [withEnvironment, override?_eq_some_iff.2 given]
  dsimp only
  rw [known]

theorem withEnvironment_of_error {failure : Failure} (given : Gives lookup languageVariable value)
    (unknown : Language.parse value = .error failure) :
    settings.withEnvironment lookup = (settings.withKeywords lookup, .error failure) := by
  rw [withEnvironment, override?_eq_some_iff.2 given]
  dsimp only
  rw [unknown]

inductive LanguageGiven (lookup : String -> Option String) : Prop where
  | none (missing : ∀ value, ¬Gives lookup languageVariable value)
  | known (value : String) (language : Language) (given : Gives lookup languageVariable value)
      (parsed : Language.parse value = .ok language)
  | unknown (value : String) (failure : Failure) (given : Gives lookup languageVariable value)
      (parsed : Language.parse value = .error failure)

theorem languageGiven (lookup : String -> Option String) : LanguageGiven lookup := by
  by_cases given : ∃ value, Gives lookup languageVariable value
  · rcases given with ⟨value, given⟩
    cases parsed : Language.parse value with
    | ok language => exact .known value language given parsed
    | error failure => exact .unknown value failure given parsed
  · exact .none (not_exists.1 given)

theorem gives_unique {other : String} (first : Gives lookup name value)
    (second : Gives lookup name other) : value = other :=
  Option.some.inj (first.1.symm.trans second.1)

/-!
# Both
-/

/-- What an environment makes of settings. -/
structure Overridden (lookup : String -> Option String) (settings after : Settings)
    (result : Except Failure Unit) : Prop where
  /-- Nothing fails but a language that is not known. -/
  fails_iff : ∀ failure, result = .error failure ↔
    ∃ value, Gives lookup languageVariable value ∧ Language.parse value = .error failure
  /-- A failure leaves the settings as they were, unless there is another keyword script. -/
  kept_iff : ∀ failure, result = .error failure -> (after = settings ↔
    ∀ value, Gives lookup keywordsVariable value -> settings.keywords? = some value)
  keywords : ∀ value, Gives lookup keywordsVariable value -> after.keywords? = some value
  keywords_kept : (∀ value, ¬Gives lookup keywordsVariable value) ->
    after.keywords? = settings.keywords?
  language : result = .ok () -> ∀ value, Gives lookup languageVariable value ->
    Language.parse value = .ok after.language
  language_kept : result ≠ .ok () ∨ (∀ value, ¬Gives lookup languageVariable value) ->
    after.language = settings.language
  others : after = { settings with keywords? := after.keywords?, language := after.language }
  /-- The same environment changes nothing the second time. -/
  again : after.withEnvironment lookup = (after, result)

/-- What comes of the keyword script does not depend on what comes of the language. -/
theorem Overridden.of_language {after : Settings} {result : Except Failure Unit}
    (shape : after = { settings.withKeywords lookup with language := after.language })
    (fails_iff : ∀ failure, result = .error failure ↔
      ∃ value, Gives lookup languageVariable value ∧ Language.parse value = .error failure)
    (parsed : result = .ok () -> ∀ value, Gives lookup languageVariable value ->
      Language.parse value = .ok after.language)
    (kept : result ≠ .ok () ∨ (∀ value, ¬Gives lookup languageVariable value) ->
      after.language = settings.language)
    (again : after.withEnvironment lookup = (after, result)) :
    Overridden lookup settings after result where
  fails_iff := fails_iff
  kept_iff := by
    intro failure failed
    have not_ok : result ≠ .ok () := by
      rw [failed]
      nofun
    have same : after = settings.withKeywords lookup := by
      rw [shape, kept (.inl not_ok), withKeywords_eq]
    rw [same, withKeywords_eq_self_iff]
  keywords := by
    intro value given
    rw [shape, withKeywords_of_gives given]
  keywords_kept := by
    intro missing
    rw [shape, withKeywords_of_none missing]
  language := parsed
  language_kept := kept
  others := by
    rw [withKeywords_eq] at shape
    rw [shape]
  again := again

/-- An environment overrides what it gives a value and nothing else, and one time is enough.  If it
fails, the settings are as they were if and only if it names no other keyword script. -/
theorem overridden (settings : Settings) (lookup : String -> Option String) :
    Overridden lookup settings (settings.withEnvironment lookup).1
      (settings.withEnvironment lookup).2 := by
  have untouched : settings.withKeywords lookup =
      { settings.withKeywords lookup with language := settings.language } := by
    rw [withKeywords_eq]
  have twice (language : Language) := withKeywords_withKeywords settings lookup language
  cases languageGiven lookup with
  | none missing =>
      rw [withEnvironment_of_none missing, untouched]
      refine .of_language rfl (fun failure => ?_)
        (fun _ value given => absurd given (missing value))
        (fun _ => rfl) ?_
      · refine ⟨nofun, ?_⟩
        rintro ⟨value, given, -⟩
        exact absurd given (missing value)
      · rw [withEnvironment_of_none missing, twice]
  | known value language given parsed =>
      rw [withEnvironment_of_ok given parsed]
      refine .of_language rfl (fun failure => ?_) (fun _ other also => ?_) (fun kept => ?_) ?_
      · refine ⟨nofun, ?_⟩
        rintro ⟨other, also, unknown⟩
        rw [← gives_unique given also, parsed] at unknown
        cases unknown
      · rw [← gives_unique given also, parsed]
      · rcases kept with failed | missing
        · exact absurd rfl failed
        · exact absurd given (missing value)
      · rw [withEnvironment_of_ok given parsed, twice]
  | unknown value failure given parsed =>
      rw [withEnvironment_of_error given parsed, untouched]
      refine .of_language rfl (fun other => ?_) nofun (fun _ => rfl) ?_
      · constructor
        · intro same
          cases same
          exact ⟨value, given, parsed⟩
        · rintro ⟨other_value, also, unknown⟩
          rw [← gives_unique given also, parsed] at unknown
          cases unknown
          rfl
      · rw [withEnvironment_of_error given parsed, twice]

def frenchEnvironment (name : String) : Option String :=
  if name = keywordsVariable then some "k.py"
  else if name = languageVariable then some "fr"
  else none

/-- The script is another one although the environment was refused. -/
theorem withEnvironment_ne_of_french :
    (standard.withEnvironment frenchEnvironment).2 =
        .error (.settings "unknown language: fr") ∧
      (standard.withEnvironment frenchEnvironment).1 =
        { standard with keywords? := some "k.py" } ∧
      (standard.withEnvironment frenchEnvironment).1 ≠ standard := by
  have script : Gives frenchEnvironment keywordsVariable "k.py" := ⟨rfl, 'k', by decide, rfl⟩
  have language : Gives frenchEnvironment languageVariable "fr" := ⟨rfl, 'f', by decide, rfl⟩
  have unknown : Language.parse "fr" = .error (.settings "unknown language: fr") := by rfl
  rw [withEnvironment_of_error language unknown, withKeywords_of_gives script]
  exact ⟨rfl, rfl, by decide⟩

end Settings
end HangulConsole
