import StatementShape.Proofs.Result
import StatementShape.Toml.Document

/-!
# Names of a document

No table of a document has two entries of one name, however deep it lies and in however many pieces
it was written. Every line changes the tables in one way: along a path, an entry is put in its place
or behind the others. That keeps names distinct, and from it every line does.

## Main definitions

* `Entries.Distinct`: entries without a name that two of them have
* `Sound`: values in which all tables have distinct names

## Main results

* `Sound.update`: a change at the end of a path
* `Sound.lineIn`: a line
* `sound_read`: a document
-/

namespace StatementShape.Config.Entries

variable {entries : Entries} {name : List Char} {v : Value} {e : List Char × Value}

/-- Entries with distinct names. -/
def Distinct (entries : Entries) : Prop := (entries.map Prod.fst).Nodup

instance : DecidablePred Distinct := fun entries =>
  inferInstanceAs (Decidable (entries.map Prod.fst).Nodup)

/-- An entry that is put adds its name, if it is new. -/
theorem map_fst_put (name : List Char) (v : Value) (entries : Entries) :
    (entries.put name v).map Prod.fst =
      if name ∈ entries.map Prod.fst then entries.map Prod.fst
      else entries.map Prod.fst ++ [name] := by
  induction entries with
  | nil => rfl
  | cons e entries ih =>
    obtain ⟨n, w⟩ := e
    rw [put]
    by_cases hn : n = name
    · rw [if_pos hn]
      simp [hn]
    · rw [if_neg hn, List.map_cons, List.map_cons, ih]
      simp only [List.mem_cons, Ne.symm hn, false_or]
      split <;> rfl

theorem Distinct.put (h : entries.Distinct) (name : List Char) (v : Value) :
    (entries.put name v).Distinct := by
  rw [Distinct, map_fst_put]
  split
  · exact h
  · next hnew =>
    refine List.nodup_append.mpr ⟨h, List.pairwise_singleton _ _, ?_⟩
    rintro n hn other hother rfl
    exact hnew (List.mem_singleton.mp hother ▸ hn)

theorem mem_of_mem_put (h : e ∈ entries.put name v) : e = (name, v) ∨ e ∈ entries := by
  induction entries with
  | nil => exact .inl (List.mem_singleton.mp h)
  | cons e' entries ih =>
    obtain ⟨n, w⟩ := e'
    rw [Entries.put] at h
    split at h
    · next hn =>
      subst hn
      exact (List.mem_cons.mp h).imp_right (List.mem_cons_of_mem _)
    · rcases List.mem_cons.mp h with rfl | h
      · exact .inr List.mem_cons_self
      · exact (ih h).imp_right (List.mem_cons_of_mem _)

theorem mem_of_lookup (h : entries.lookup name = some v) : (name, v) ∈ entries := by
  obtain ⟨before, after, rfl, -⟩ := List.lookup_eq_some_iff.mp h
  exact List.mem_append_right before List.mem_cons_self

end StatementShape.Config.Entries

namespace StatementShape.Toml

open Config (Entries Value)

/-! ### Values -/

/-- Values in which all tables have distinct names. -/
inductive Sound : Value → Prop
  | table {entries : Entries} (distinct : entries.Distinct) (values : ∀ e ∈ entries, Sound e.2) :
      Sound (.table entries)
  | array {items : List Value} (values : ∀ v ∈ items, Sound v) : Sound (.array items)
  | single {v : Value} (h : isWhole v = false) : Sound v

section Values

variable {v : Value} {entries entries' : Entries} {items : List Value} {name : List Char}
  {path : Path} {cs rest : List Char}

theorem Sound.distinct (h : Sound (.table entries)) : entries.Distinct := by
  cases h with
  | table distinct => exact distinct
  | single h => cases h

theorem Sound.of_mem (h : Sound (.table entries)) {e : List Char × Value} (he : e ∈ entries) :
    Sound e.2 := by
  cases h with
  | table _ values => exact values e he
  | single h => cases h

theorem Sound.of_mem_items (h : Sound (.array items)) (hv : v ∈ items) : Sound v := by
  cases h with
  | array values => exact values v hv
  | single h => cases h

theorem sound_nil : Sound (.table []) := .table List.nodup_nil fun _ h => nomatch h

/-- A table in which a value is put. -/
theorem Sound.put (h : Sound (.table entries)) (hv : Sound v) (name : List Char) :
    Sound (.table (entries.put name v)) := by
  refine .table (h.distinct.put name v) fun e he => ?_
  rcases Entries.mem_of_mem_put he with rfl | he
  · exact hv
  · exact h.of_mem he

theorem Sound.lookup (h : Sound (.table entries)) (hv : entries.lookup name = some v) : Sound v :=
  h.of_mem (Entries.mem_of_lookup hv)

theorem Sound.dropLast (h : Sound (.array items)) (hv : Sound v) :
    Sound (.array (items.dropLast ++ [v])) := by
  refine .array fun w hw => ?_
  rcases List.mem_append.mp hw with hw | hw
  · exact h.of_mem_items (List.dropLast_subset items hw)
  · exact List.mem_singleton.mp hw ▸ hv

/-! ### Changes -/

/-- **A change at the end of a path** keeps names distinct if it does so by itself: the tables on
the way are put in their places again. -/
theorem Sound.update {intoArrays : Bool} {change : Entries → Option Entries}
    (hchange : ∀ {t t'}, Sound (.table t) → change t = some t' → Sound (.table t'))
    (h : Sound (.table entries)) (hup : entries.update intoArrays change path = some entries') :
    Sound (.table entries') := by
  -- on the path; each table on it is entered, changed at the rest of the path and put back
  induction path generalizing entries entries' with
  | nil => exact hchange h hup
  | cons name path ih =>
    rw [Entries.update] at hup
    split at hup
    · -- a table that is not there yet is made
      obtain ⟨t, ht, rfl⟩ := Option.map_eq_some_iff.mp hup
      exact h.put (ih sound_nil ht) name
    · next inner hinner =>
      obtain ⟨t, ht, rfl⟩ := Option.map_eq_some_iff.mp hup
      exact h.put (ih (h.lookup hinner) ht) name
    · next items hitems =>
      -- of an array of tables, the last one is entered
      split at hup
      · next inner hlast =>
        obtain ⟨t, ht, rfl⟩ := Option.map_eq_some_iff.mp hup
        have harray : Sound (.array items) := h.lookup hitems
        have hinner := harray.of_mem_items (List.mem_of_getLast? hlast)
        exact h.put (harray.dropLast (ih hinner ht)) name
      · cases hup
    · cases hup

/-- An entry that is new at the end of a path. -/
theorem Sound.addEntry {intoArrays : Bool} (h : Sound (.table entries)) (hv : Sound v)
    (hadd : addEntry intoArrays path v entries = some entries') : Sound (.table entries') := by
  unfold Toml.addEntry at hadd
  split at hadd
  · cases hadd
  · next name _ =>
    refine Sound.update (fun ht hput => ?_) h hadd
    obtain ⟨-, hput⟩ := Option.ite_none_right_eq_some.mp hput
    exact Option.some.inj hput ▸ ht.put hv name

theorem Sound.appendItem (h : Sound (.table entries))
    (hitem : appendItem name entries = some entries') : Sound (.table entries') := by
  unfold Toml.appendItem at hitem
  split at hitem
  · cases hitem
    exact h.put (.array (by simp [sound_nil])) name
  · next items hitems =>
    cases hitem
    have harray : Sound (.array items) := h.lookup hitems
    refine h.put (.array fun v hv => ?_) name
    rcases List.mem_append.mp hv with hv | hv
    · exact harray.of_mem_items hv
    · exact List.mem_singleton.mp hv ▸ sound_nil
  · cases hitem

/-! ### Values that are read -/

theorem isWhole_of_decimalIn (h : decimalIn cs = some (v, rest)) : isWhole v = false := by
  simp only [decimalIn, Option.bind_eq_bind, Option.bind_eq_some_iff] at h
  obtain ⟨p, -, h⟩ := h
  -- a point may stand behind the whole part, and in either case an exponent
  split at h <;> split at h <;> cases h <;> rfl

theorem isWhole_of_specialIn (h : specialIn cs = some (v, rest)) : isWhole v = false := by
  unfold specialIn at h
  dsimp only at h
  split at h
  · cases h
    rfl
  · cases h
    rfl
  · cases h

/-- A number is no table, and has none in it. -/
theorem isWhole_of_numberIn (h : numberIn cs = .ok (v, rest)) : isWhole v = false := by
  unfold numberIn at h
  split at h
  · cases h
    rfl
  · split at h
    · next hdecimal =>
      split at h
      · cases h
        exact isWhole_of_decimalIn hdecimal
      · cases h
    · exact isWhole_of_specialIn (orMalformed_eq_ok.mp h)

/-- A date is no table, with or without a time. -/
theorem isWhole_of_dateTimeIn (h : dateTimeIn cs = some (some (v, rest))) : isWhole v = false := by
  simp only [dateTimeIn, Option.bind_eq_bind, Option.bind_eq_some_iff] at h
  obtain ⟨⟨date, cs'⟩, -, h⟩ := h
  dsimp only at h
  split at h
  · cases h
  · split at h
    · cases h
      rfl
    · split at h
      · cases h
        rfl
      · cases h
        rfl

/-- What is read with so much fuel has distinct names in all tables. -/
structure ReadsSound (fuel : Nat) : Prop where
  value {cs rest : List Char} {v : Value} : valueIn fuel cs = .ok (v, rest) → Sound v
  items {cs rest : List Char} {vs : List Value} :
    itemsIn fuel cs = .ok (vs, rest) → ∀ v ∈ vs, Sound v
  entries {es es' : Entries} {closed : List Path} {cs rest : List Char} :
    Sound (.table es) → entriesIn fuel es closed cs = .ok (es', rest) → Sound (.table es')

theorem ReadsSound.value_succ {fuel : Nat} (h : ReadsSound fuel)
    (hv : valueIn (fuel + 1) cs = .ok (v, rest)) : Sound v := by
  unfold valueIn at hv
  split at hv
  · cases hv
    exact .single rfl
  · cases hv
    exact .single rfl
  · -- only arrays, and tables on one line, have values in them
    obtain ⟨⟨items, rest'⟩, hitems, hv⟩ := bind_eq_ok.mp hv
    cases hv
    exact .array (h.items hitems)
  · split at hv
    · cases hv
      exact sound_nil
    · obtain ⟨⟨entries, rest'⟩, hentries, hv⟩ := bind_eq_ok.mp hv
      cases hv
      exact h.entries sound_nil hentries
  · split at hv
    · obtain ⟨⟨s, rest'⟩, -, hv⟩ := Option.map_eq_some_iff.mp (orMalformed_eq_ok.mp hv)
      cases hv
      exact .single rfl
    · split at hv
      · next hdate =>
        rw [orMalformed_eq_ok.mp hv] at hdate
        exact .single (isWhole_of_dateTimeIn hdate)
      · split at hv
        · cases hv
          exact .single rfl
        · exact .single (isWhole_of_numberIn hv)
  · cases hv

theorem ReadsSound.items_succ {fuel : Nat} (h : ReadsSound fuel)
    (hvs : itemsIn (fuel + 1) cs = .ok (items, rest)) : ∀ v ∈ items, Sound v := by
  rw [itemsIn] at hvs
  obtain ⟨cs', -, hvs⟩ := bind_eq_ok.mp hvs
  split at hvs
  · cases hvs
    exact fun _ hv => nomatch hv
  · obtain ⟨⟨v, cs''⟩, hv, hvs⟩ := bind_eq_ok.mp hvs
    obtain ⟨behind, -, hvs⟩ := bind_eq_ok.mp hvs
    have hv : Sound v := h.value hv
    dsimp only at hvs
    split at hvs
    · obtain ⟨⟨vs, rest'⟩, hitems, hvs⟩ := bind_eq_ok.mp hvs
      cases hvs
      exact List.forall_mem_cons.mpr ⟨hv, h.items hitems⟩
    · cases hvs
      exact List.forall_mem_singleton.mpr hv
    · cases hvs

theorem ReadsSound.entries_succ {fuel : Nat} (h : ReadsSound fuel) {closed : List Path}
    (hes : Sound (.table entries))
    (hread : entriesIn (fuel + 1) entries closed cs = .ok (entries', rest)) :
    Sound (.table entries') := by
  rw [entriesIn] at hread
  obtain ⟨⟨path, cs'⟩, -, hread⟩ := bind_eq_ok.mp hread
  dsimp only at hread
  split at hread
  · obtain ⟨⟨v, cs''⟩, hv, hread⟩ := bind_eq_ok.mp hread
    dsimp only at hread
    split at hread
    · cases hread
    · -- the table that is read has grown by an entry, whatever stands behind it
      obtain ⟨more, hadd, hread⟩ := bind_eq_ok.mp hread
      have hmore : Sound (.table more) := hes.addEntry (h.value hv) (orMalformed_eq_ok.mp hadd)
      split at hread
      · cases hread
        exact hmore
      · exact h.entries hmore hread
      · cases hread
  · cases hread

/-- Values, items and entries that are read have distinct names in all tables. -/
theorem readsSound (fuel : Nat) : ReadsSound fuel := by
  induction fuel with
  | zero =>
    refine ⟨fun h => ?_, fun h => ?_, fun _ h => ?_⟩
    · cases h
    · cases h
    · cases h
  | succ fuel ih => exact ⟨ih.value_succ, ih.items_succ, ih.entries_succ⟩

end Values

/-! ### Documents -/

section Documents

variable {s s' : State} {path : Path} {v : Value} {cs rest : List Char}

theorem Sound.openTable (h : Sound (.table s.entries)) (hopen : s.openTable path = some s') :
    Sound (.table s'.entries) := by
  unfold State.openTable at hopen
  dsimp only at hopen
  split at hopen
  · cases hopen
  · obtain ⟨entries, hup, hopen⟩ := Option.bind_eq_some_iff.mp hopen
    cases hopen
    exact h.update (fun ht hsame => Option.some.inj hsame ▸ ht) hup

theorem Sound.openItem (h : Sound (.table s.entries)) (hopen : s.openItem path = some s') :
    Sound (.table s'.entries) := by
  unfold State.openItem at hopen
  dsimp only at hopen
  split at hopen
  · cases hopen
  · obtain ⟨name, -, hopen⟩ := Option.bind_eq_some_iff.mp hopen
    obtain ⟨entries, hup, hopen⟩ := Option.bind_eq_some_iff.mp hopen
    cases hopen
    exact h.update (fun ht hitem => ht.appendItem hitem) hup

theorem Sound.assign (h : Sound (.table s.entries)) (hv : Sound v)
    (hassign : s.assign path v = some s') : Sound (.table s'.entries) := by
  unfold State.assign at hassign
  dsimp only at hassign
  split at hassign
  · cases hassign
  · obtain ⟨entries, hadd, hassign⟩ := Option.bind_eq_some_iff.mp hassign
    cases hassign
    exact h.addEntry hv hadd

/-- **A line** keeps names distinct. -/
theorem Sound.lineIn (h : Sound (.table s.entries)) (hline : lineIn s cs = .ok (s', rest)) :
    Sound (.table s'.entries) := by
  unfold Toml.lineIn at hline
  split at hline
  · obtain ⟨⟨path, cs'⟩, -, hline⟩ := bind_eq_ok.mp hline
    obtain ⟨t, hopen, hline⟩ := bind_eq_ok.mp hline
    split at hline
    · cases hline
      exact h.openItem (orMalformed_eq_ok.mp hopen)
    · cases hline
  · obtain ⟨⟨path, cs'⟩, -, hline⟩ := bind_eq_ok.mp hline
    obtain ⟨t, hopen, hline⟩ := bind_eq_ok.mp hline
    split at hline
    · cases hline
      exact h.openTable (orMalformed_eq_ok.mp hopen)
    · cases hline
  · obtain ⟨⟨path, cs'⟩, -, hline⟩ := bind_eq_ok.mp hline
    dsimp only at hline
    split at hline
    · obtain ⟨⟨v, cs''⟩, hv, hline⟩ := bind_eq_ok.mp hline
      obtain ⟨t, hassign, hline⟩ := bind_eq_ok.mp hline
      cases hline
      exact h.assign ((readsSound _).value hv) (orMalformed_eq_ok.mp hassign)
    · cases hline

/-- Behind a line the document ends, or further lines are read. -/
theorem eq_or_of_lineEnd {n : Nat}
    (h : (orMalformed (skipComment (skipBlanks cs)) >>= fun
      | [] => .ok s
      | '\n' :: rest => linesIn n s rest
      | _ => .error .malformed) = .ok s') : s = s' ∨ ∃ rest, linesIn n s rest = .ok s' := by
  obtain ⟨behind, -, h⟩ := bind_eq_ok.mp h
  split at h
  · exact .inl (Except.ok.inj h)
  · exact .inr ⟨_, h⟩
  · cases h

/-- One more line is read or has nothing but a comment, and further lines are read into the
state that it leaves. -/
theorem exists_of_linesIn {n : Nat} (h : linesIn (n + 1) s cs = .ok s') :
    ∃ t, (s = t ∨ ∃ cs' rest, lineIn s cs' = .ok (t, rest)) ∧
      (t = s' ∨ ∃ rest, linesIn n t rest = .ok s') := by
  rw [linesIn] at h
  split at h
  · exact ⟨s, .inl rfl, .inl (Except.ok.inj h)⟩
  · exact ⟨s, .inl rfl, .inr ⟨_, h⟩⟩
  · dsimp only at h
    split at h
    · exact ⟨s, .inl rfl, eq_or_of_lineEnd h⟩
    · obtain ⟨⟨t, rest⟩, hline, h⟩ := bind_eq_ok.mp h
      exact ⟨t, .inr ⟨_, rest, hline⟩, eq_or_of_lineEnd h⟩

/-- Lines, however many, keep names distinct. -/
theorem Sound.linesIn {n : Nat} (h : Sound (.table s.entries)) (hlines : linesIn n s cs = .ok s') :
    Sound (.table s'.entries) := by
  induction n generalizing s cs with
  | zero => exact Except.ok.inj hlines ▸ h
  | succ n ih =>
    obtain ⟨t, hline, hlines⟩ := exists_of_linesIn hlines
    have ht : Sound (.table t.entries) := by
      obtain rfl | ⟨cs', rest, hline⟩ := hline
      · exact h
      · exact h.lineIn hline
    obtain rfl | ⟨rest, hlines⟩ := hlines
    · exact ht
    · exact ih ht hlines

end Documents

/-- **A document that is read** has distinct names in all of its tables. -/
theorem sound_read {text : List Char} {tables : Entries} (h : read text = .ok tables) :
    Sound (.table tables) := by
  obtain ⟨s, hlines, rfl⟩ := map_eq_ok.mp h
  exact Sound.linesIn (s := {}) sound_nil hlines

end StatementShape.Toml
