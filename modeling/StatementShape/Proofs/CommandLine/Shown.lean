import StatementShape.Proofs.CommandLine.Classify
import StatementShape.Proofs.Config.Spelling

/-!
# Settings as they are shown

Of each setting the name and the text of its value are shown, line by line. Such a text is read back
as the setting that it is of, unless that is a dialect that is not chosen or empty. The number of
days is read from any spelling of it. But a file can hold a number with more decimal digits than a
text may have, since there it can be written in hexadecimal digits. Showing such a number breaks the
run off behind the other lines, and its text is refused.

## Main definitions

* `shownText`, `shownLine`: the text of a setting, and its line

## Main results

* `parse_of_spells`, `parse_of_not_spells`: texts for the number of days
* `parse_shownText`: the text of a setting is read back
* `parse_spelled_and_shown`: both at once
* `exists_shown_refused`: a number of days whose text is refused
-/

namespace StatementShape.CommandLine

open Config (IsNumeral IsWhite Key Setting Settings Spells digitCount integerOf?_eq_some_iff
  integerOf?_toString isNumeral_singleton numeralValue whiteSpace)
open Config.Setting (integerOf? ofDays)
open Number (mostDigits)

/-! ### Texts for the number of days -/

section Days

variable {text : List Char} {n : Int}

theorem parse_retentionDays (text : List Char) :
    Setting.parse Key.retentionDays.name.toList text =
      match integerOf? text with
      | some days => ofDays days
      | none => .error (.notInteger .retentionDays text) := by
  rw [Setting.parse, Key.ofName?_name]
  rfl

/-- **A spelling of a whole number** is taken for it, if it is in range. -/
theorem parse_of_spells (h : Spells text n) (hlimit : digitCount text ≤ mostDigits) :
    Setting.parse Key.retentionDays.name.toList text = ofDays n := by
  rw [parse_retentionDays, integerOf?_eq_some_iff.mpr ⟨h, hlimit⟩]

/-- **No other text** is taken for a whole number. -/
theorem parse_of_not_spells (h : ∀ n, Spells text n → mostDigits < digitCount text) :
    Setting.parse Key.retentionDays.name.toList text =
      .error (.notInteger .retentionDays text) := by
  have hnone : integerOf? text = none := by
    refine Option.eq_none_iff_forall_ne_some.mpr fun n hn => ?_
    obtain ⟨hspells, hlimit⟩ := integerOf?_eq_some_iff.mp hn
    exact absurd hlimit (Nat.not_le.mpr (h n hspells))
  rw [parse_retentionDays, hnone]

theorem parse_eq_ok_iff (hlimit : digitCount text ≤ mostDigits) :
    Setting.parse Key.retentionDays.name.toList text = .ok (.retentionDays n) ↔
      Spells text n ∧ 1 ≤ n := by
  constructor
  · intro h
    rw [parse_retentionDays] at h
    split at h
    · next days hdays =>
      unfold ofDays at h
      split at h
      · cases h
      · next hrange =>
        cases h
        exact ⟨(integerOf?_eq_some_iff.mp hdays).1, Int.not_lt.mp hrange⟩
    · cases h
  · rintro ⟨hspells, hrange⟩
    rw [parse_of_spells hspells hlimit, ofDays, if_neg (Int.not_lt.mpr hrange)]

end Days

/-! ### Texts of settings -/

/-- The text of a setting as it is shown. -/
def shownText (settings : Settings) : Key → String
  | .dialect =>
    match settings.dialect with
    | some (c :: cs) => String.ofList (c :: cs)
    | _ => "(sqlglot default)"
  | .format => settings.format.name
  | .log => Report.boolText settings.log
  | .retentionDays => toString settings.retentionDays

/-- The line of a setting: its name and its text. -/
def shownLine (settings : Settings) (k : Key) : String := k.name ++ " = " ++ shownText settings k

theorem settingsText_eq (settings : Settings) :
    settingsText settings = Command.joinLines (Key.all.map (shownLine settings)) := rfl

/-- A number of days without a numeral breaks the run off behind the lines of the other settings. -/
theorem showSettings_of_le {settings : Settings} (h : 10 ^ mostDigits ≤ settings.retentionDays) :
    showSettings settings =
      .broken .wrongLength (Command.joinLines (Key.all.dropLast.map (shownLine settings))) := by
  have hpos : 0 ≤ settings.retentionDays := Int.le_trans (Int.pow_nonneg (by decide)) h
  rw [showSettings, if_neg ((Number.hasNumeral_iff_of_nonneg hpos).not.mpr (Int.not_lt.mpr h))]
  rfl

section Texts

variable {settings : Settings} {k : Key} {t : Setting}

/-- **The text of a setting** is read back, unless it is a number with too many digits. -/
theorem parse_shownText (hrange : 1 ≤ settings.retentionDays) (hget : settings.get? k = some t)
    (hdialect : t ≠ .dialect [])
    (hlimit : k = .retentionDays → settings.retentionDays < 10 ^ mostDigits) :
    Setting.parse k.name.toList (shownText settings k).toList = .ok t := by
  obtain ⟨dialect, format, log, days⟩ := settings
  cases k with
  | dialect =>
    obtain ⟨name, rfl, rfl⟩ := Option.map_eq_some_iff.mp hget
    cases name with
    | nil => exact absurd rfl hdialect
    | cons c cs =>
      have htext : (shownText ⟨some (c :: cs), format, log, days⟩ .dialect).toList = c :: cs :=
        String.toList_ofList
      rw [htext]
      rfl
  | format =>
    cases hget
    rw [Setting.parse, Key.ofName?_name]
    exact @Setting.ofValue_value (.format format) trivial
  | log =>
    cases hget
    have hbool : ∀ on, Setting.booleanOf? (Report.boolText on).toList = some on := by decide
    have hparse := hbool log
    rw [Setting.parse, Key.ofName?_name]
    simp only [Setting.ofText, shownText, hparse]
  | retentionDays =>
    cases hget
    have hread := (integerOf?_toString (Int.le_trans (by decide) hrange)).mpr (hlimit rfl)
    rw [parse_retentionDays, shownText, hread]
    exact if_neg (Int.not_lt.mpr hrange)

/-- A number with too many digits is refused as a text. -/
theorem parse_shownText_of_le (h : 10 ^ mostDigits ≤ settings.retentionDays) :
    Setting.parse Key.retentionDays.name.toList (shownText settings .retentionDays).toList =
      .error (.notInteger .retentionDays (shownText settings .retentionDays).toList) := by
  have hpos : 0 ≤ settings.retentionDays := Int.le_trans (Int.pow_nonneg (by decide)) h
  refine parse_of_not_spells fun n hn => Nat.lt_of_not_le fun hlimit => ?_
  -- the text spells the number that it is of, and no other one
  have hread := integerOf?_eq_some_iff.mpr ⟨Config.spells_toString settings.retentionDays, hlimit⟩
  exact absurd h (Int.not_le.mpr ((integerOf?_toString hpos).mp hread))

end Texts

/-! ### Both -/

/-- **What is spelled and what is shown.** A text for the number of days is taken for a number if it
spells that one and it is above zero; a number that is not is out of range, and a text that spells
none, or has more digits than a numeral may have, is no number. If a file is loaded whose number of
days has no more digits than that, then its settings are shown line by line. The text of each is
taken for the setting that is loaded, unless this is a dialect that is empty. If the number has more
digits, then the run breaks off behind the lines of the other settings, and its text is refused. -/
theorem parse_spelled_and_shown (text : List Char) (s : Surroundings) (h : Home)
    (settings : Settings) :
    ((mostDigits < digitCount text → Setting.parse Key.retentionDays.name.toList text =
        .error (.notInteger .retentionDays text)) ∧
      (digitCount text ≤ mostDigits →
        (∀ n, Setting.parse Key.retentionDays.name.toList text = .ok (.retentionDays n) ↔
          Spells text n ∧ 1 ≤ n) ∧
        (∀ n, Spells text n → n < 1 →
          Setting.parse Key.retentionDays.name.toList text = .error .tooFewDays) ∧
        ((∀ n, ¬ Spells text n) → Setting.parse Key.retentionDays.name.toList text =
          .error (.notInteger .retentionDays text)))) ∧
    (Config.load h.config = .ok settings →
      (settings.retentionDays < 10 ^ mostDigits → perform s .show_ h =
        (h, { output := Command.joinLines (Key.all.map (shownLine settings)) })) ∧
      (∀ k t, settings.get? k = some t → t ≠ .dialect [] →
        (k = .retentionDays → settings.retentionDays < 10 ^ mostDigits) →
        Setting.parse k.name.toList (shownText settings k).toList = .ok t) ∧
      (10 ^ mostDigits ≤ settings.retentionDays →
        perform s .show_ h = (h, .broken .wrongLength
          (Command.joinLines (Key.all.dropLast.map (shownLine settings)))) ∧
        Setting.parse Key.retentionDays.name.toList (shownText settings .retentionDays).toList =
          .error (.notInteger .retentionDays (shownText settings .retentionDays).toList))) := by
  refine ⟨⟨fun hlimit => parse_of_not_spells fun _ _ => hlimit, fun hlimit =>
    ⟨fun n => parse_eq_ok_iff hlimit, fun n hspells hn => ?_, fun hnone => ?_⟩⟩,
    fun hload => ⟨fun hbound => ?_, fun k t hget hdialect => ?_,
      fun hlong => ⟨?_, parse_shownText_of_le hlong⟩⟩⟩
  · rw [parse_of_spells hspells hlimit, ofDays, if_pos hn]
  · exact parse_of_not_spells fun n hn => absurd hn (hnone n)
  · have hpos : 0 ≤ settings.retentionDays :=
      Int.le_trans (by decide) (Config.one_le_retentionDays_of_load hload)
    simp only [perform, hload, showSettings, (Number.hasNumeral_iff_of_nonneg hpos).mpr hbound,
      if_true, settingsText_eq]
  · exact parse_shownText (Config.one_le_retentionDays_of_load hload) hget hdialect
  · simp only [perform, hload, showSettings_of_le hlong]

/-- A number of days with a sign, an underscore, digits of two scripts and a zero in front. -/
def sampleDays : List Char := " +0_\u0667\n".toList

theorem spells_sampleDays : Spells sampleDays 7 := by
  have hseven : Text.isDecimal '\u0667' = true := by decide
  have hnumeral : IsNumeral ['0', '_', '\u0667'] :=
    (isNumeral_singleton.mpr hseven).cons_underscore (by decide)
  have hvalue : (numeralValue ['0', '_', '\u0667'] : Int) = 7 := by decide
  exact ⟨[' '], ['+', '0', '_', '\u0667'], ['\n'], rfl, by simp [IsWhite, whiteSpace],
    by simp [IsWhite, whiteSpace], hvalue ▸ .plus hnumeral⟩

/-- A home with a dialect and a number of days in its file. -/
def dialectHome : Home where
  config := some "[defaults]\nretention_days = 0x1E\ndialect = 'hive'\n".toList

/-- The sample text is taken for seven days, and the settings of the home are shown and read
back. -/
theorem parse_spelled_and_shown_sample :
    Setting.parse "retention_days".toList sampleDays = .ok (.retentionDays 7) ∧
      (perform sampleSurroundings .show_ dialectHome).2.output =
        "dialect = hive\nformat = text\nlog = true\nretention_days = 30\n" ∧
      Setting.parse "dialect".toList "hive".toList = .ok (.dialect "hive".toList) ∧
      Setting.parse "retention_days".toList "30".toList = .ok (.retentionDays 30) := by
  have hload : Config.load dialectHome.config =
      .ok { dialect := some "hive".toList, retentionDays := 30 } :=
    toOption_eq_some.mp (by decide +kernel)
  have hbound : (30 : Int) < 10 ^ mostDigits :=
    lt_of_lt_of_le (by decide : (30 : Int) < 10 ^ 2) (pow_le_pow_right₀ (by decide) (by decide))
  obtain ⟨⟨-, hspelled⟩, hshown⟩ :=
    parse_spelled_and_shown sampleDays sampleSurroundings dialectHome _
  obtain ⟨hshow, hback, -⟩ := hshown hload
  refine ⟨((hspelled (by decide)).1 7).mpr ⟨spells_sampleDays, by decide⟩, ?_,
    hback .dialect _ rfl (by decide) fun hkey => absurd hkey (by decide),
    hback .retentionDays _ rfl (by decide) fun _ => hbound⟩
  rw [hshow hbound]
  rfl

/-- A file with a number of days in hexadecimal digits, a one and thousands of zeros. -/
def longFile : List Char :=
  "[defaults]\nretention_days = 0x1".toList ++ (List.replicate 3600 '0' ++ ['\n'])

/-- The settings of that file. -/
def longSettings : Settings := { retentionDays := 16 ^ 3600 }

theorem load_longFile : Config.load (some longFile) = .ok longSettings :=
  toOption_eq_some.mp (by decide +kernel)

/-- **A number of days whose text is refused**: the file is loaded, but the decimal text of the
number in it has more digits than a text may have. -/
theorem exists_shown_refused :
    Config.load (some longFile) = .ok longSettings ∧
      longSettings.get? .retentionDays = some (.retentionDays longSettings.retentionDays) ∧
      Setting.parse Key.retentionDays.name.toList (shownText longSettings .retentionDays).toList ≠
        .ok (.retentionDays longSettings.retentionDays) := by
  have hlong : 10 ^ mostDigits ≤ longSettings.retentionDays := Number.ten_pow_mostDigits_le
  refine ⟨load_longFile, rfl, ?_⟩
  rw [parse_shownText_of_le hlong]
  nofun

end StatementShape.CommandLine
