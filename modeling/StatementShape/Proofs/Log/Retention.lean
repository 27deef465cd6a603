import StatementShape.Proofs.Log.History

/-!
# What a cleanup keeps

Entries have a time of day, but are removed by the day: the file of a day goes with all its entries
once the day began before the cutoff. So an entry is kept if its day began at the cutoff or later,
in particular if it is at least a day younger than the cutoff. An entry that is younger than the
cutoff, but was logged on the very day of the cutoff, goes with that day. The entries are logged in
any order, and behind whatever was there before.

## Main definitions

* `loggedOn`: the text of a day after some entries

## Main results

* `text?_records`: what is logged, day by day
* `kept_by_cleanup`: a cleanup keeps the entries whose days did not begin before its cutoff
* `exists_recent_entry_removed`: an entry of the last day that is removed
-/

namespace StatementShape.Log

open Calendar (Date Instant Time dayLength count_lt_midnight midnight_le_count)

variable {directory : List Char} {f : Files} {es : List Entry} {e : Entry} {now : Instant}
  {days : Int} {d : Date}

/-- The text of a day after some entries: what was there before, and a line for each entry that
is logged on it. -/
def loggedOn (directory : List Char) (f : Files) (es : List Entry) (d : Date) : List Char :=
  (f.text? (pathOf directory d)).getD [] ++ (es.filter fun e => e.at_.date = d).flatMap Entry.line

theorem line_infix_loggedOn (he : e ∈ es) : e.line <:+: loggedOn directory f es e.at_.date := by
  have hmem : e ∈ es.filter fun e' => e'.at_.date = e.at_.date :=
    List.mem_filter.mpr ⟨he, decide_eq_true rfl⟩
  obtain ⟨before, after, hes⟩ := List.append_of_mem hmem
  refine ⟨(f.text? (pathOf directory e.at_.date)).getD [] ++ before.flatMap Entry.line,
    after.flatMap Entry.line, ?_⟩
  simp [loggedOn, hes]

theorem loggedOn_concat (es : List Entry) (e : Entry) :
    loggedOn directory f (es ++ [e]) d =
      loggedOn directory f es d ++ if e.at_.date = d then e.line else [] := by
  by_cases h : e.at_.date = d <;> simp [loggedOn, h]

/-- Logging one more entry. -/
theorem applyCalls_concat (es : List Entry) (e : Entry) :
    applyCalls directory f ((es ++ [e]).map .record) =
      record directory e (applyCalls directory f (es.map .record)) := by
  rw [List.map_append, List.map_singleton, applyCalls, List.foldl_concat]
  rfl

/-- What is read of a day after some entries, also if none of them was logged on it. -/
theorem getD_text?_records (hes : ∀ e ∈ es, e.at_.IsReal) (hd : d.isReal = true) :
    ((applyCalls directory f (es.map .record)).text? (pathOf directory d)).getD [] =
      loggedOn directory f es d := by
  -- on the last entry, since the lines are appended in the order of the calls
  induction es using List.reverseRecOn with
  | nil => simp [applyCalls, loggedOn]
  | append_singleton es e ih =>
    obtain ⟨hes, he⟩ := List.forall_mem_append.mp hes
    have he := (List.forall_mem_singleton.mp he).date
    rw [applyCalls_concat, loggedOn_concat, ← ih hes]
    by_cases heq : e.at_.date = d
    · subst heq
      rw [text?_record, if_pos rfl, Option.getD_some]
    · rw [text?_record_of_ne he hd heq, if_neg heq, List.append_nil]

/-- **A day on which an entry was logged** has a file. -/
theorem text?_records (hes : ∀ e ∈ es, e.at_.IsReal) (he : e ∈ es) :
    (applyCalls directory f (es.map .record)).text? (pathOf directory e.at_.date) =
      some (loggedOn directory f es e.at_.date) := by
  induction es using List.reverseRecOn with
  | nil => cases he
  | append_singleton es e' ih =>
    have hd := (hes e he).date
    obtain ⟨hes, he'⟩ := List.forall_mem_append.mp hes
    have he' := (List.forall_mem_singleton.mp he').date
    rw [applyCalls_concat, loggedOn_concat]
    by_cases heq : e'.at_.date = e.at_.date
    · rw [← heq, text?_record, getD_text?_records hes he', if_pos rfl]
    · have hmem : e ∈ es := (List.mem_append.mp he).resolve_right fun h =>
        heq (List.mem_singleton.mp h ▸ rfl)
      rw [text?_record_of_ne he' hd heq, ih hes hmem, if_neg heq, List.append_nil]

theorem hasFolder_records (he : e ∈ es) :
    (applyCalls directory f (es.map .record)).hasFolder (folderOf directory) = true := by
  obtain ⟨before, last, rfl⟩ := (List.eq_nil_or_concat es).resolve_left (List.ne_nil_of_mem he)
  rw [List.concat_eq_append, applyCalls_concat]
  exact hasFolder_record _ _

/-- **A cleanup keeps the entries of days that began at its cutoff or later**, and none of an
earlier day. Entries are logged, and then days are cleaned up, with a cutoff that the calendar has.
An entry whose day began at the cutoff or later stands in the file of its day, with all others of
the day; so does any entry that is at least one day younger than the cutoff. A day that began before
the cutoff is gone, also if the entry itself is younger. Only days before the year 1000 are never
removed. -/
theorem kept_by_cleanup (directory : List Char) (f : Files) (days : Int)
    (hes : ∀ e ∈ es, e.at_.IsReal) (hnow : now.IsReal) (hcutoff : (now.cutoff? days).isSome)
    (he : e ∈ es) :
    ∃ g n, cleanup directory now days (applyCalls directory f (es.map .record)) = some (g, n) ∧
      e.line <:+: loggedOn directory f es e.at_.date ∧
      (now.count - days * dayLength ≤ e.at_.date.midnight →
        g.text? (pathOf directory e.at_.date) = some (loggedOn directory f es e.at_.date)) ∧
      (now.count - (days - 1) * dayLength ≤ e.at_.count →
        g.text? (pathOf directory e.at_.date) = some (loggedOn directory f es e.at_.date)) ∧
      (e.at_.date.midnight < now.count - days * dayLength → 1000 ≤ e.at_.date.year →
        g.text? (pathOf directory e.at_.date) = none) := by
  obtain ⟨m, hm⟩ := Option.isSome_iff_exists.mp hcutoff
  obtain ⟨⟨g, n⟩, hclean⟩ : ∃ p, cleanup directory now days
      (applyCalls directory f (es.map .record)) = some p :=
    ⟨_, by rw [cleanup, hm, Option.map_some]⟩
  have htext := text?_cleanup (fun _ => hasFolder_records he) hnow hclean (hes e he).date
  rw [text?_records hes he] at htext
  have hkept (h : now.count - days * dayLength ≤ e.at_.date.midnight) :
      g.text? (pathOf directory e.at_.date) = some (loggedOn directory f es e.at_.date) := by
    rw [htext, if_neg fun hold => Int.not_lt.mpr h hold.2]
  refine ⟨g, n, hclean, line_infix_loggedOn he, hkept, fun h => hkept ?_, fun hold hyear => ?_⟩
  · -- an entry lies less than a day behind the beginning of its day
    have hday := count_lt_midnight (hes e he)
    rw [Int.sub_mul, Int.one_mul] at h
    omega
  · rw [htext, if_pos ⟨hyear, hold⟩]

/-- An entry of the first of March, in the evening. -/
def eveningEntry : Entry where
  at_ := { date := { year := 2024, month := 3, day := 1 },
           time := { Time.midnight with hour := 18 } }
  sql := "SELECT 1".toList

/-- Noon of the next day. -/
def nextNoon : Instant where
  date := { year := 2024, month := 3, day := 2 }
  time := { Time.midnight with hour := 12 }

theorem isReal_eveningEntry : eveningEntry.at_.IsReal where
  date := by decide
  time := ⟨by decide, by decide, by decide, by decide⟩

theorem isReal_nextNoon : nextNoon.IsReal where
  date := by decide
  time := ⟨by decide, by decide, by decide, by decide⟩

/-- The entries of an evening are all kept by a cleanup that keeps two days. -/
theorem kept_by_cleanup_evening :
    ∃ g n, cleanup "/work".toList nextNoon 2
        (applyCalls "/work".toList {} ([eveningEntry, eveningEntry].map .record)) = some (g, n) ∧
      g.text? (pathOf "/work".toList eveningEntry.at_.date) =
        some (eveningEntry.line ++ eveningEntry.line) := by
  have hes : ∀ e ∈ [eveningEntry, eveningEntry], e.at_.IsReal := by simp [isReal_eveningEntry]
  obtain ⟨g, n, hclean, -, hkept, -⟩ := kept_by_cleanup "/work".toList {} 2 hes isReal_nextNoon
    (by decide) List.mem_cons_self
  refine ⟨g, n, hclean, (hkept (by decide)).trans ?_⟩
  simp [loggedOn, Files.text?]

/-- **An entry of the last day is removed**: it is eighteen hours old, the cleanup keeps one day,
and the day of the entry began before that. -/
theorem exists_recent_entry_removed :
    nextNoon.count - 1 * dayLength ≤ eveningEntry.at_.count ∧
      eveningEntry.at_.count ≤ nextNoon.count ∧
      ∃ g n, cleanup "/work".toList nextNoon 1
          (applyCalls "/work".toList {} [.record eveningEntry]) = some (g, n) ∧
        g.text? (pathOf "/work".toList eveningEntry.at_.date) = none := by
  refine ⟨by decide, by decide, ?_⟩
  cases hclean : cleanup "/work".toList nextNoon 1
      (applyCalls "/work".toList {} [.record eveningEntry]) with
  | none => cases hclean
  | some p =>
    refine ⟨p.1, p.2, rfl, ?_⟩
    rw [text?_cleanup (fun _ => hasFolder_record _ _) isReal_nextNoon hclean
      isReal_eveningEntry.date, if_pos (by decide)]

end StatementShape.Log
