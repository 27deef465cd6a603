import StatementShape.Json.Escape

/-!
# Escaped strings are read back

A character is written as itself or as an escape, and is read back from either. A character beyond
the first plane is written as two units, a high and a low surrogate, and read back from the pair; no
character is a surrogate itself, so that a single unit never stands for half of a pair. What is
written of a character does not begin with a quote, so that the first quote that stands alone closes
the string.

## Main definitions

* `Visible`: the printable characters of ASCII

## Main results

* `unescape_escape`: a character is read back from its written form
* `decodeString_flatMap_escape`: a string is read back up to its closing quote
* `visible_of_mem_encodeString`: a written string is visible throughout
-/

namespace StatementShape.Json

/-! ### Units -/

section Units

variable {n : Nat} {rest : List Char}

theorem hexValue?_hexDigit : ∀ n < 16, hexValue? (hexDigit n) = some n := by decide

/-- Four digits of a unit are read back. -/
theorem unit?_append (hn : n < 0x10000) (rest : List Char) :
    unit? (hexDigit (n / 4096 % 16) :: hexDigit (n / 256 % 16) :: hexDigit (n / 16 % 16) ::
      hexDigit (n % 16) :: rest) = some (n, rest) := by
  have hdigit : ∀ k, hexValue? (hexDigit (k % 16)) = some (k % 16) := fun k =>
    hexValue?_hexDigit _ (Nat.mod_lt k (by decide))
  have hvalue : (n / 4096 % 16 * 16 + n / 256 % 16) * 256 + n / 16 % 16 * 16 + n % 16 = n := by
    omega
  simp [unit?, hdigit, hvalue]

/-- The unit of a character is no surrogate, and is read back. -/
theorem unescape_unit (hn : n < 0x10000) (hchar : n < 0xD800 ∨ 0xDFFF < n) :
    unescape (unitEscape n ++ rest) = some (Char.ofNat n, rest) := by
  have hhigh : ¬ (0xD800 ≤ n ∧ n < 0xDC00) := by omega
  have hlow : ¬ (0xDC00 ≤ n ∧ n < 0xE000) := by omega
  have hunit := unit?_append hn rest
  simp [unitEscape, unescape, unicodeEscape?, hunit, hhigh, hlow]

/-- A pair of surrogates is read back as one character. -/
theorem unescape_pair (hn : n < 0x100000) :
    unescape (unitEscape (0xD800 + n / 0x400) ++ unitEscape (0xDC00 + n % 0x400) ++ rest) =
      some (Char.ofNat (0x10000 + n), rest) := by
  have hhigh : 0xD800 + n / 0x400 < 0xDC00 := by omega
  have hlow : 0xDC00 + n % 0x400 < 0xE000 := by omega
  have hfirst := unit?_append (show 0xD800 + n / 0x400 < 0x10000 by omega)
    (unitEscape (0xDC00 + n % 0x400) ++ rest)
  have hsecond := unit?_append (show 0xDC00 + n % 0x400 < 0x10000 by omega) rest
  have hvalue : 0x10000 + (0xD800 + n / 0x400 - 0xD800) * 0x400 + (0xDC00 + n % 0x400 - 0xDC00) =
      0x10000 + n := by omega
  rw [List.append_assoc, unitEscape]
  simp only [List.cons_append, List.nil_append, unescape, unicodeEscape?, hfirst,
    Option.bind_eq_bind, Option.bind_some]
  rw [if_pos ⟨Nat.le_add_right _ _, hhigh⟩, unitEscape]
  simp only [List.cons_append, List.nil_append, hsecond, Option.bind_some]
  rw [if_pos ⟨Nat.le_add_right _ _, hlow⟩, hvalue]

end Units

/-! ### Characters -/

/-- Visible characters: those of ASCII that are printed, the space among them. -/
def Visible (c : Char) : Prop := ' ' ≤ c ∧ c ≤ '~'

instance : DecidablePred Visible := fun c => inferInstanceAs (Decidable (' ' ≤ c ∧ c ≤ '~'))

theorem visible_of_all {cs : List Char} (h : cs.all (fun c => decide (Visible c)) = true) :
    ∀ c ∈ cs, Visible c := fun c hc => of_decide_eq_true (List.all_eq_true.mp h c hc)

/-- The forms of a written character: a backslash and a letter, the character itself, its unit,
or its pair of surrogates. -/
inductive Form (c : Char) : List Char → Prop
  | letter {d : Char} (letter : escapedChar? d = some c) (notUnit : d ≠ 'u') (visible : Visible d) :
    Form c ['\\', d]
  | itself (visible : Visible c) (notQuote : c ≠ '"') (notBackslash : c ≠ '\\') : Form c [c]
  | unit (small : c.toNat < 0x10000) : Form c (unitEscape c.toNat)
  | pair (large : 0x10000 ≤ c.toNat) : Form c
    (unitEscape (0xD800 + (c.toNat - 0x10000) / 0x400) ++
      unitEscape (0xDC00 + (c.toNat - 0x10000) % 0x400))

theorem form_escape (c : Char) : Form c (escape c) := by
  unfold escape
  iterate 7
    split
    · next h => exact .letter (by subst h; rfl) (by decide) (by decide)
  split
  · next hquote hbackslash _ _ _ _ _ hvisible => exact .itself hvisible hquote hbackslash
  split
  · next hsmall => exact .unit hsmall
  · next hlarge => exact .pair (Nat.le_of_not_lt hlarge)

/-- **A character is read back** from its written form. -/
theorem unescape_escape (c : Char) (rest : List Char) :
    unescape (escape c ++ rest) = some (c, rest) := by
  have hform := form_escape c
  generalize escape c = written at hform ⊢
  cases hform with
  | letter hletter hnot hvisible =>
    rw [List.cons_append, List.singleton_append, unescape]
    · simp [hletter]
    · exact fun h => hnot h
  | itself hvisible hquote hbackslash =>
    have hcontrol : ¬ c < ' ' := Char.not_lt.mpr hvisible.1
    rw [List.singleton_append, unescape]
    · simp [hbackslash, hcontrol]
    · exact fun _ h => absurd h hbackslash
    · exact fun _ _ h => absurd h hbackslash
  | unit hsmall =>
    rw [unescape_unit hsmall (c.valid.imp_right And.left), Char.ofNat_toNat]
  | pair hlarge =>
    have hrange : c.toNat < 0x110000 := by
      rcases c.valid with h | h
      · exact Nat.lt_trans h (by decide)
      · exact h.2
    rw [unescape_pair (by omega), Nat.add_sub_cancel' hlarge, Char.ofNat_toNat]

theorem visible_of_mem_unitEscape {n : Nat} : ∀ d ∈ unitEscape n, Visible d := by
  have hdigit : ∀ k < 16, Visible (hexDigit k) := by decide
  have hmod : ∀ k, Visible (hexDigit (k % 16)) := fun k => hdigit _ (Nat.mod_lt k (by decide))
  simp only [unitEscape, List.mem_cons, List.not_mem_nil, or_false]
  rintro d (rfl | rfl | rfl | rfl | rfl | rfl)
  · decide
  · decide
  all_goals exact hmod _

/-- What is written of a character is visible. -/
theorem visible_of_mem_escape {c : Char} : ∀ d ∈ escape c, Visible d := by
  have hform := form_escape c
  generalize escape c = written at hform ⊢
  cases hform with
  | letter hletter hnot hvisible =>
    exact List.forall_mem_cons.mpr ⟨by decide, List.forall_mem_singleton.mpr hvisible⟩
  | itself hvisible hquote hbackslash => exact List.forall_mem_singleton.mpr hvisible
  | unit hsmall => exact visible_of_mem_unitEscape
  | pair hlarge =>
    exact List.forall_mem_append.mpr ⟨visible_of_mem_unitEscape, visible_of_mem_unitEscape⟩

/-- What is written of a character does not begin with a quote. -/
theorem exists_cons_escape (c : Char) : ∃ d ds, escape c = d :: ds ∧ d ≠ '"' := by
  have hform := form_escape c
  generalize escape c = written at hform ⊢
  cases hform with
  | letter hletter hnot hvisible => exact ⟨'\\', _, rfl, by decide⟩
  | itself hvisible hquote hbackslash => exact ⟨c, [], rfl, hquote⟩
  | unit hsmall => exact ⟨'\\', _, rfl, by decide⟩
  | pair hlarge => exact ⟨'\\', _, rfl, by decide⟩

/-! ### Strings -/

/-- **A string is read back** up to its closing quote. -/
theorem decodeString_flatMap_escape (s : List Char) (rest : List Char) {fuel : Nat}
    (hfuel : (s.flatMap escape).length < fuel) :
    decodeString fuel (s.flatMap escape ++ '"' :: rest) = some (s, rest) := by
  -- one turn reads what is written of one character, which is one character at least
  induction s generalizing fuel with
  | nil =>
    obtain ⟨fuel, rfl⟩ := Nat.exists_eq_add_one_of_ne_zero (Nat.ne_zero_of_lt hfuel)
    rfl
  | cons c s ih =>
    obtain ⟨fuel, rfl⟩ := Nat.exists_eq_add_one_of_ne_zero (Nat.ne_zero_of_lt hfuel)
    have hread := unescape_escape c (s.flatMap escape ++ '"' :: rest)
    obtain ⟨d, ds, hescape, hquote⟩ := exists_cons_escape c
    rw [List.flatMap_cons, hescape, List.length_append, List.length_cons] at hfuel
    rw [List.flatMap_cons, List.append_assoc]
    rw [hescape, List.cons_append] at hread ⊢
    rw [decodeString]
    · simp [hread, ih (show (s.flatMap escape).length < fuel by omega)]
    · exact fun _ h => absurd (List.cons.inj h).1 hquote

/-- **A written string** is visible throughout. -/
theorem visible_of_mem_encodeString {s : List Char} : ∀ d ∈ encodeString s, Visible d := by
  intro d hd
  simp only [encodeString, List.mem_cons, List.mem_append, List.mem_flatMap, List.not_mem_nil,
    or_false] at hd
  rcases hd with rfl | ⟨c, -, hd⟩ | rfl
  · decide
  · exact visible_of_mem_escape d hd
  · decide

end StatementShape.Json
