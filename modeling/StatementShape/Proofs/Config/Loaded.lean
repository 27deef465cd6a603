import StatementShape.Proofs.Config.History
import StatementShape.Proofs.Result

/-!
# Entries that are loaded

Loading applies the entries of the table of defaults in order. Entries of different keys may be
applied in any order, and of two entries of one key the later counts; so an entry that is put in its
place among others is the setting of its key afterwards, and changes no other. A file that is loaded
keeps the log for a day at least.

## Main results

* `applyAll_put`: an entry that is put among others
* `one_le_retentionDays_of_load`: the log is kept for a day at least
-/

namespace StatementShape.Config

variable {entries : Entries} {settings settings' : Settings} {key : Key} {s t : Setting} {v : Value}
  {name : List Char}

/-! ### Settings -/

/-- Settings of different keys may be applied in any order. -/
theorem Settings.apply_comm (h : s.key ≠ t.key) (settings : Settings) :
    (settings.apply s).apply t = (settings.apply t).apply s := by
  cases s <;> cases t <;> first | rfl | exact absurd rfl h

/-- Of two settings of one key the later counts. -/
theorem Settings.apply_apply (h : s.key = t.key) (settings : Settings) :
    (settings.apply s).apply t = settings.apply t := by
  cases s <;> cases t <;> first | rfl | cases h

/-! ### Entries -/

/-- Applying entries, the first one first. -/
theorem applyAll_cons (settings : Settings) (e : List Char × Value) (entries : Entries) :
    applyAll settings (e :: entries) =
      applyEntry settings e >>= fun settings => applyAll settings entries := rfl

theorem applyAll_cons_eq_ok {e : List Char × Value} :
    applyAll settings (e :: entries) = .ok settings' ↔
      ∃ next, applyEntry settings e = .ok next ∧ applyAll next entries = .ok settings' := by
  rw [applyAll_cons, bind_eq_ok]

/-- An entry without a setting's name changes nothing. -/
theorem applyEntry_of_ofName?_eq_none (h : Key.ofName? name = none) (v : Value)
    (settings : Settings) : applyEntry settings (name, v) = .ok settings := by
  simp [applyEntry, h]

/-- An entry with a setting's name is applied as the setting that its value makes. -/
theorem applyEntry_of_ofValue (h : Setting.ofValue s.key v = .ok s) (settings : Settings) :
    applyEntry settings (s.key.name.toList, v) = .ok (settings.apply s) := by
  rw [applyEntry, Key.ofName?_name]
  exact map_eq_ok.mpr ⟨s, h, rfl⟩

/-- An entry that is applied either changes nothing, or applies one setting. -/
theorem applyEntry_eq_ok {e : List Char × Value} (h : applyEntry settings e = .ok settings') :
    (Key.ofName? e.1 = none ∧ settings' = settings) ∨
      ∃ s : Setting, s.key.name.toList = e.1 ∧ Setting.ofValue s.key e.2 = .ok s ∧
        settings' = settings.apply s := by
  unfold applyEntry at h
  split at h
  · next hname => exact .inl ⟨hname, (Except.ok.inj h).symm⟩
  · next key hkey =>
    obtain ⟨s, hs, rfl⟩ := map_eq_ok.mp h
    obtain ⟨-, rfl⟩ := Setting.inRange_of_ofValue hs
    exact .inr ⟨s, Key.name_of_ofName? hkey, hs, rfl⟩

/-- What every setting in range keeps is kept by entries that are applied. -/
theorem applyAll_induction {P : Settings → Prop}
    (hstep : ∀ settings s, Setting.InRange s → P settings → P (settings.apply s))
    (h : applyAll settings entries = .ok settings') (hP : P settings) : P settings' := by
  induction entries generalizing settings with
  | nil => exact Except.ok.inj h ▸ hP
  | cons e entries ih =>
    obtain ⟨next, hentry, h⟩ := applyAll_cons_eq_ok.mp h
    refine ih h ?_
    rcases applyEntry_eq_ok hentry with ⟨-, rfl⟩ | ⟨s, -, hs, rfl⟩
    · exact hP
    · exact hstep _ s (Setting.inRange_of_ofValue hs).1 hP

/-- A setting in front of entries without its key counts as one behind them. -/
theorem applyAll_apply (hkey : t.key.name.toList ∉ entries.map Prod.fst)
    (h : applyAll settings entries = .ok settings') :
    applyAll (settings.apply t) entries = .ok (settings'.apply t) := by
  -- the setting moves behind one entry after another, each of which has another key, or none
  induction entries generalizing settings with
  | nil => exact Except.ok.inj h ▸ rfl
  | cons e entries ih =>
    rw [List.map_cons, List.mem_cons, not_or] at hkey
    obtain ⟨next, hentry, h⟩ := applyAll_cons_eq_ok.mp h
    refine applyAll_cons_eq_ok.mpr ⟨next.apply t, ?_, ih hkey.2 h⟩
    obtain ⟨name, v⟩ := e
    rcases applyEntry_eq_ok hentry with ⟨hname, rfl⟩ | ⟨s, rfl, hs, rfl⟩
    · exact applyEntry_of_ofName?_eq_none hname v _
    · have hne : s.key ≠ t.key := fun heq => hkey.1 (by rw [heq])
      rw [applyEntry_of_ofValue hs, Settings.apply_comm hne]

/-- **An entry that is put among others** with distinct names is the setting of its key afterwards.
-/
theorem applyAll_put (hdistinct : (entries.map Prod.fst).Nodup)
    (h : applyAll settings entries = .ok settings') (ht : Setting.ofValue t.key v = .ok t) :
    applyAll settings (entries.put t.key.name.toList v) = .ok (settings'.apply t) := by
  induction entries generalizing settings with
  | nil =>
    rw [Entries.put, ← Except.ok.inj h]
    exact applyAll_cons_eq_ok.mpr ⟨_, applyEntry_of_ofValue ht _, rfl⟩
  | cons e entries ih =>
    obtain ⟨name, w⟩ := e
    rw [List.map_cons, List.nodup_cons] at hdistinct
    obtain ⟨next, hentry, hrest⟩ := applyAll_cons_eq_ok.mp h
    rw [Entries.put]
    split
    · next hname =>
      refine applyAll_cons_eq_ok.mpr ⟨settings.apply t, hname ▸ applyEntry_of_ofValue ht _, ?_⟩
      subst hname
      -- the entry that is replaced was of the same key, so that it does not count
      have hsame : settings.apply t = next.apply t := by
        rcases applyEntry_eq_ok hentry with ⟨hname, -⟩ | ⟨s, hname, -, rfl⟩
        · rw [Key.ofName?_name] at hname
          cases hname
        · rw [Settings.apply_apply (Key.name_injective hname)]
      rw [hsame]
      exact applyAll_apply hdistinct.1 hrest
    · exact applyAll_cons_eq_ok.mpr ⟨next, hentry, ih hdistinct.2 hrest⟩

/-! ### Files -/

/-- A file is loaded by applying its defaults to the settings that hold without one. -/
theorem load_eq_ok {file : Option (List Char)} :
    load file = .ok settings ↔
      ∃ entries, defaults file = .ok entries ∧ applyAll {} entries = .ok settings := by
  unfold load
  cases defaults file with
  | error e => simp
  | ok entries => simp [mapError_eq_ok]

/-- **A file that is loaded** keeps the log for a day at least. -/
theorem one_le_retentionDays_of_load {file : Option (List Char)} (h : load file = .ok settings) :
    1 ≤ settings.retentionDays := by
  obtain ⟨entries, -, happly⟩ := load_eq_ok.mp h
  refine applyAll_induction (P := fun s => 1 ≤ s.retentionDays) (fun settings s hs hP => ?_) happly
    (by decide)
  cases s with
  | retentionDays days => exact hs
  | dialect | format | log => exact hP

end StatementShape.Config
