/-!
# Letter case

Keywords are recognised in any letter case. Beyond ASCII a few characters have capitals that are
ASCII letters: the long s, the dotless i, the sharp s and the Latin ligatures. A word written with
them is the same word.

## Main definitions

* `capital`: the capitals of one character
* `capitalize`, `upper`: the capitals of a text
* `lower`: ASCII letters in lower case
-/

namespace StatementShape.Text

/-- Characters with ASCII capitals beyond ASCII itself, with those capitals. -/
def asciiCapitals : List (Char × List Char) := [
  ('ß', ['S', 'S']), ('ı', ['I']), ('ſ', ['S']), ('ﬀ', ['F', 'F']), ('ﬁ', ['F', 'I']),
  ('ﬂ', ['F', 'L']), ('ﬃ', ['F', 'F', 'I']), ('ﬄ', ['F', 'F', 'L']), ('ﬅ', ['S', 'T']),
  ('ﬆ', ['S', 'T'])]

/-- The capitals of a character, in ASCII where it has such; any other character stands for
itself. -/
def capital (c : Char) : List Char :=
  if c.toNat < 0x80 then [c.toUpper] else (asciiCapitals.lookup c).getD [c]

/-- The capitals of a text. -/
def capitalize (cs : List Char) : List Char := cs.flatMap capital

/-- The capitals of a text, as a string. -/
def upper (cs : List Char) : String := String.ofList (capitalize cs)

/-- ASCII small letters for ASCII capitals. -/
def lower (s : String) : String := String.ofList (s.toList.map Char.toLower)

@[simp] theorem capitalize_nil : capitalize [] = [] := rfl

@[simp] theorem capitalize_append (a b : List Char) :
    capitalize (a ++ b) = capitalize a ++ capitalize b := List.flatMap_append

end StatementShape.Text
