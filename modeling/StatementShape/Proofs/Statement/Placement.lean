import StatementShape.Proofs.Sql.Order
import StatementShape.Proofs.Statement.Layout

/-!
# Nodes in their places

Every node of a tree names a stretch of the script and holds the text of it. The parts of a node lie
inside it, one behind another, and the parts of a query statement reach from its start to its end.
What stands inside an explanation is laid out in a text of its own, and its offsets are those of the
script all the same.

## Main definitions

* `WellPlaced`: a node in its place in a text
* `Everywhere`: what holds of every node of a tree
* `Pieces`: runs of tokens one behind another
* `Over`: a tree in its place over a run of tokens

## Main results

* `Pieces.of_flatten`, `Pieces.of_cut`: parts of statements, and statements, are pieces
* `over_of_layout`: what is laid out is in its place
* `wellPlaced_of_script`: every node of the tree of a script is in its place
-/

namespace StatementShape.Statement

open Sql (Token TokenKind Reader Expression ExpressionKind InOrder Shares)
open Text (Span)

/-! ### Places -/

/-- Productions whose parts reach from the start to the end. -/
def isTight : Production → Bool
  | .queryStatement | .fromStatement => true
  | _ => false

/-- A node in its place in a text: its text is what its span names, and its parts lie inside it
one behind another. -/
structure WellPlaced (text : List Char) (t : Tree) : Prop where
  start_nonneg : 0 ≤ t.span.start
  start_lt_stop : t.span.start < t.span.stop
  stop_le : t.span.stop ≤ text.length
  text_eq : t.text = t.span.slice text
  inside : ∀ c ∈ t.children, t.span.start ≤ c.span.start ∧ c.span.stop ≤ t.span.stop
  apart : t.children.Pairwise fun c d => c.span.stop ≤ d.span.start
  tight : isTight t.production = true →
    t.children.head?.map (·.span.start) = some t.span.start ∧
      t.children.getLast?.map (·.span.stop) = some t.span.stop

/-- What holds of every node of a tree. -/
def Everywhere (P : Tree → Prop) (t : Tree) : Prop :=
  ∀ p, ∀ n ∈ t.nodesOf p, P n

section Everywhere

variable {P : Tree → Prop} {p : Production} {n : Tree}

theorem mem_nodesIn {ts : List Tree} : n ∈ Tree.nodesIn p ts ↔ ∃ t ∈ ts, n ∈ t.nodesOf p := by
  induction ts with
  | nil => simp [Tree.nodesIn]
  | cons t ts ih => simp [Tree.nodesIn, ih]

/-- Every node of a tree is the root or a node of one of its parts. -/
theorem everywhere_node {span : Span} {text : List Char} {e : Option Expression}
    {children : List Tree} (hroot : P (.node p span text e children))
    (hchildren : ∀ c ∈ children, Everywhere P c) :
    Everywhere P (.node p span text e children) := by
  intro q n hn
  have later : n ∈ Tree.nodesIn q children → P n := by
    intro hn
    obtain ⟨c, hc, hn⟩ := mem_nodesIn.mp hn
    exact hchildren c hc q n hn
  unfold Tree.nodesOf at hn
  split at hn
  · rcases List.mem_cons.mp hn with rfl | hn
    · exact hroot
    · exact later hn
  · exact later hn

theorem Everywhere.root {t : Tree} (h : Everywhere P t) : P t := by
  obtain ⟨p, s, x, e, cs⟩ := t
  exact h p _ (by simp [Tree.nodesOf])

end Everywhere

/-! ### Behind more text -/

/-- A span behind more text names the same stretch. -/
theorem slice_shift {text : List Char} {stop k : Nat} {s : Span} (hstart : 0 ≤ s.start)
    (hlt : s.start < s.stop) (hle : s.stop ≤ ((text.take stop).drop k).length) :
    (s.shift k).slice text = s.slice ((text.take stop).drop k) := by
  obtain ⟨start, stop'⟩ := s
  dsimp only at hstart hlt hle
  obtain ⟨a, rfl⟩ := Int.eq_ofNat_of_zero_le hstart
  obtain ⟨b, rfl⟩ := Int.eq_ofNat_of_zero_le (a := stop') (by omega)
  -- a span that is not empty ends inside the rest, so no offset is cut off
  have hlen : k + b ≤ stop ∧ k + b ≤ text.length ∧ a < b := by
    simp only [List.length_drop, List.length_take] at hle hlt
    omega
  have hrest : b ≤ ((text.take stop).drop k).length := by
    simp only [List.length_drop, List.length_take]
    omega
  have hshift : Span.shift k { start := a, stop := b } =
      { start := ((a + k : Nat) : Int), stop := ((b + k : Nat) : Int) } := by
    simp [Span.shift]
  rw [hshift, Span.slice_ofNat (by omega) (by omega), Span.slice_ofNat (by omega) hrest,
    List.take_drop, List.take_take, List.drop_drop, Nat.min_eq_left hlen.1, Nat.add_comm b,
    Nat.add_comm a]

theorem WellPlaced.shift {text : List Char} {stop k : Nat} {t : Tree}
    (h : WellPlaced ((text.take stop).drop k) t) : WellPlaced text (t.shift k) where
  start_nonneg := by
    have := h.start_nonneg
    rw [Tree.span_shift, Span.shift_start]
    omega
  start_lt_stop := by
    have := h.start_lt_stop
    rw [Tree.span_shift, Span.shift_start, Span.shift_stop]
    omega
  stop_le := by
    have hlt := h.start_lt_stop
    have hnonneg := h.start_nonneg
    have hle := h.stop_le
    rw [Tree.span_shift, Span.shift_stop]
    simp only [List.length_drop, List.length_take] at hle
    omega
  text_eq := by
    rw [Tree.text_shift, Tree.span_shift,
      slice_shift h.start_nonneg h.start_lt_stop h.stop_le, h.text_eq]
  inside c hc := by
    rw [Tree.children_shift] at hc
    obtain ⟨d, hd, rfl⟩ := List.mem_map.mp hc
    have := h.inside d hd
    simp only [Tree.span_shift, Span.shift_start, Span.shift_stop]
    omega
  apart := by
    rw [Tree.children_shift, List.pairwise_map]
    apply h.apart.imp
    intro c d hle
    simp only [Tree.span_shift, Span.shift_start, Span.shift_stop]
    omega
  tight hp := by
    rw [Tree.production_shift] at hp
    obtain ⟨hfirst, hlast⟩ := h.tight hp
    obtain ⟨first, hfirst, hstart⟩ := Option.map_eq_some_iff.mp hfirst
    obtain ⟨last, hlast, hstop⟩ := Option.map_eq_some_iff.mp hlast
    simp [List.head?_map, List.getLast?_map, hfirst, hlast, hstart, hstop]

/-- A tree behind more text is in its place. -/
theorem everywhere_shift {text : List Char} {stop k : Nat} {t : Tree}
    (h : Everywhere (WellPlaced ((text.take stop).drop k)) t) :
    Everywhere (WellPlaced text) (t.shift k) := by
  intro p n hn
  rw [Tree.nodesOf_shift] at hn
  obtain ⟨m, hm, rfl⟩ := List.mem_map.mp hn
  exact (h p m hm).shift

/-! ### Runs of tokens -/

/-- The span of some tokens. -/
def spanOf (run : List Token) : Span :=
  { start := (extent run).1, stop := (extent run).2 }

/-- Runs of tokens between two offsets, one behind another. -/
structure Pieces (text : List Char) (lo hi : Nat) (runs : List (List Token)) : Prop where
  each : ∀ run ∈ runs, run ≠ [] ∧ InOrder text run
  within : ∀ run ∈ runs, lo ≤ (extent run).1 ∧ (extent run).2 ≤ hi
  apart : runs.Pairwise fun a b => (extent a).2 ≤ (extent b).1

section Runs

variable {text : List Char} {run front back : List Token} {runs : List (List Token)} {lo hi : Nat}

theorem extent_fst_append (some : front ≠ []) : (extent (front ++ back)).1 = (extent front).1 := by
  obtain ⟨t, ts, rfl⟩ := List.exists_cons_of_ne_nil some
  rfl

theorem extent_snd_append (some : back ≠ []) : (extent (front ++ back)).2 = (extent back).2 := by
  simp only [extent, List.getLast?_append_of_ne_nil _ some]

theorem extent_lt (h : InOrder text run) (some : run ≠ []) : (extent run).1 < (extent run).2 := by
  obtain ⟨t, ht⟩ := Option.isSome_iff_exists.mp (List.isSome_head?.mpr some)
  obtain ⟨u, hu⟩ := Option.isSome_iff_exists.mp (List.getLast?_isSome.mpr some)
  simpa [extent, ht, hu] using h.start_lt_stop ht hu

theorem extent_le (h : InOrder text run) : (extent run).2 ≤ text.length := by
  cases hu : run.getLast? with
  | none => simp [extent, hu]
  | some u => simpa [extent, hu] using h.inside u (List.mem_of_getLast? hu)

theorem Pieces.nil : Pieces text lo hi [] where
  each := by simp
  within := by simp
  apart := List.Pairwise.nil

/-- A run in front of others. -/
theorem Pieces.cons (some : run ≠ []) (h : InOrder text run) (hlo : lo ≤ (extent run).1)
    (hhi : (extent run).2 ≤ hi) (hruns : Pieces text (extent run).2 hi runs) :
    Pieces text lo hi (run :: runs) where
  each r hr := by
    rcases List.mem_cons.mp hr with rfl | hr
    · exact ⟨some, h⟩
    · exact hruns.each r hr
  within r hr := by
    rcases List.mem_cons.mp hr with rfl | hr
    · exact ⟨hlo, hhi⟩
    · have hlt := extent_lt h some
      have := hruns.within r hr
      omega
  apart := List.pairwise_cons.mpr ⟨fun r hr => (hruns.within r hr).1, hruns.apart⟩

theorem Pieces.mono {lo' : Nat} (h : Pieces text lo hi runs) (hle : lo' ≤ lo) :
    Pieces text lo' hi runs where
  each := h.each
  within r hr := ⟨hle.trans (h.within r hr).1, (h.within r hr).2⟩
  apart := h.apart

/-- The head of a query shares no text with what stands in front of it. -/
theorem not_shares_of_isQueryHead {t u : Token} (hu : isQueryHead u.kind = true) :
    ¬ Shares t u := by
  rintro ⟨-, hk | hk | hk⟩ <;> rw [hk] at hu <;> cases hu

theorem right_of_head (h : InOrder text (front ++ back)) (some : front ≠ [])
    (hback : BeginsWith (isQueryHead · = true) back) :
    InOrder text back ∧ (extent front).2 ≤ (extent back).1 := by
  obtain ⟨u, us, rfl, hu⟩ := hback
  obtain ⟨t, ht⟩ := Option.isSome_iff_exists.mp (List.getLast?_isSome.mpr some)
  refine ⟨h.right ht ?_, ?_⟩
  · intro v hv
    cases hv
    exact not_shares_of_isQueryHead hu
  · simpa [extent, ht] using (h.apart ht rfl (not_shares_of_isQueryHead hu)).1

/-- **Parts that each begin with the head of a query**, but for the first of them, are pieces. -/
theorem Pieces.of_flatten (h : InOrder text (run ++ runs.flatten)) (some : run ≠ [])
    (heads : ∀ r ∈ runs, BeginsWith (isQueryHead · = true) r) :
    Pieces text (extent run).1 (extent (run ++ runs.flatten)).2 (run :: runs) := by
  induction runs generalizing run with
  | nil =>
    rw [List.flatten_nil, List.append_nil] at h ⊢
    exact Pieces.cons some h (Nat.le_refl _) (Nat.le_refl _) Pieces.nil
  | cons next more ih =>
    have hnext := heads next List.mem_cons_self
    have hhead : BeginsWith (isQueryHead · = true) (next ++ more.flatten) := by
      obtain ⟨u, us, rfl, hu⟩ := hnext
      exact ⟨u, us ++ more.flatten, rfl, hu⟩
    rw [List.flatten_cons] at h ⊢
    -- the first part ends in front of the head that begins all the others together
    obtain ⟨hrest, hapart⟩ := right_of_head h some hhead
    have hpieces := ih hrest hnext.ne_nil fun r hr => heads r (List.mem_cons_of_mem next hr)
    rw [extent_snd_append hhead.ne_nil]
    rw [extent_fst_append hnext.ne_nil] at hapart
    have hlt := extent_lt hrest hhead.ne_nil
    rw [extent_fst_append hnext.ne_nil] at hlt
    exact Pieces.cons some h.left (Nat.le_refl _) (by omega) (hpieces.mono hapart)

/-- **The runs between semicolons** are pieces. -/
theorem Pieces.of_cut {tokens : List Token} (cut : Cut tokens runs) (h : InOrder text tokens)
    (hlo : ∀ t ∈ tokens.head?, lo ≤ t.start) : Pieces text lo text.length runs := by
  induction cut generalizing lo with
  | nil => exact Pieces.nil
  | @last run some =>
    have hstart : lo ≤ (extent run).1 := by
      obtain ⟨t, ts, rfl⟩ := List.exists_cons_of_ne_nil some
      exact hlo t rfl
    exact Pieces.cons some h hstart (extent_le h) Pieces.nil
  | @empty t rest runs ht cut ih =>
    obtain ⟨hrest, hbehind⟩ := InOrder.behind_semicolon (t := t) (by rwa [List.nil_append]) ht
    have hlt := h.head t rfl
    exact (ih hrest hbehind).mono ((hlo t rfl).trans hlt.le)
  | @more t run rest runs some inside ht cut ih =>
    obtain ⟨hrest, hbehind⟩ := h.behind_semicolon ht
    obtain ⟨v, hv⟩ := Option.isSome_iff_exists.mp (List.getLast?_isSome.mpr some)
    -- the next run starts behind the semicolon, and so behind this one
    have hstop : (extent run).2 ≤ t.stop := by
      simpa [extent, hv] using ((List.isChain_append.mp h.chain).2.2 v hv t rfl).1
    have hstart : lo ≤ (extent run).1 := by
      obtain ⟨u, us, rfl⟩ := List.exists_cons_of_ne_nil some
      exact hlo u rfl
    exact Pieces.cons some h.left hstart (extent_le h.left)
      (ih hrest fun u hu => hstop.trans (hbehind u hu))

/-- Parts reach to the end of what they are parts of. -/
theorem getLast?_stop_flatten (some : run ≠ []) (hsome : ∀ r ∈ runs, r ≠ []) :
    ((run :: runs).getLast?.map fun r => (extent r).2) =
      .some (extent (run ++ runs.flatten)).2 := by
  induction runs generalizing run with
  | nil => simp
  | cons next more ih =>
    have hnext := hsome next List.mem_cons_self
    rw [List.getLast?_cons_cons, ih hnext fun r hr => hsome r (List.mem_cons_of_mem next hr),
      List.flatten_cons, extent_snd_append (List.append_ne_nil_of_left_ne_nil hnext _)]

end Runs

/-! ### Trees over runs of tokens -/

/-- A tree in its place over a run of tokens. -/
structure Over (text : List Char) (run : List Token) (t : Tree) : Prop where
  span_eq : t.span = spanOf run
  everywhere : Everywhere (WellPlaced text) t

section Trees

variable {r : Reader} {text : List Char} {run tokens : List Token} {runs : List (List Token)}
  {t : Tree} {children : List Tree}

theorem map_span_of_over (h : List.Forall₂ (Over text) runs children) :
    children.map (·.span) = runs.map spanOf := by
  induction h with
  | nil => rfl
  | cons hover _ ih => rw [List.map_cons, List.map_cons, hover.span_eq, ih]

theorem start_head?_of_spans (h : children.map (·.span) = runs.map spanOf) :
    children.head?.map (·.span.start) = runs.head?.map fun r => ((extent r).1 : Int) := by
  have hheads := congrArg (fun spans => spans.head?.map (·.start)) h
  simpa [List.head?_map, Option.map_map, Function.comp_def, spanOf] using hheads

theorem stop_getLast?_of_spans (h : children.map (·.span) = runs.map spanOf) :
    children.getLast?.map (·.span.stop) = runs.getLast?.map fun r => ((extent r).2 : Int) := by
  have hends := congrArg (fun spans => spans.getLast?.map (·.stop)) h
  simpa [List.getLast?_map, Option.map_map, Function.comp_def, spanOf] using hends

/-- A node over pieces is in its place if its parts are. -/
theorem everywhere_of_pieces {p : Production} {e : Option Expression} {lo hi : Nat}
    (hlt : lo < hi) (hle : hi ≤ text.length) (hpieces : Pieces text lo hi runs)
    (hchildren : List.Forall₂ (Over text) runs children)
    (tight : isTight p = true → (runs.head?.map fun r => (extent r).1) = some lo ∧
      (runs.getLast?.map fun r => (extent r).2) = some hi) :
    Everywhere (WellPlaced text)
      (.node p { start := lo, stop := hi } ((text.take hi).drop lo) e children) := by
  -- the parts have the spans of their runs, so that they lie as those do
  have hspans := map_span_of_over hchildren
  apply everywhere_node
  · refine ⟨?_, ?_, ?_, ?_, ?_, ?_, ?_⟩
    · exact Int.natCast_nonneg lo
    · exact Int.ofNat_lt.mpr hlt
    · exact Int.ofNat_le.mpr hle
    · exact (Span.slice_ofNat (by omega) hle).symm
    · intro c hc
      obtain ⟨run, hrun, hover⟩ := exists_mem_of_forall₂ hchildren hc
      obtain ⟨hstart, hstop⟩ := hpieces.within run hrun
      rw [hover.span_eq]
      exact ⟨Int.ofNat_le.mpr hstart, Int.ofNat_le.mpr hstop⟩
    · have hpairs : (children.map (·.span)).Pairwise fun s s' => s.stop ≤ s'.start := by
        rw [hspans, List.pairwise_map]
        exact hpieces.apart.imp fun hle => Int.ofNat_le.mpr hle
      exact List.pairwise_map.mp hpairs
    · intro hp
      obtain ⟨hfirst, hlast⟩ := tight hp
      obtain ⟨first, hhead, rfl⟩ := Option.map_eq_some_iff.mp hfirst
      obtain ⟨last, hend, rfl⟩ := Option.map_eq_some_iff.mp hlast
      rw [Tree.children_node, start_head?_of_spans hspans, stop_getLast?_of_spans hspans, hhead,
        hend]
      exact ⟨rfl, rfl⟩
  · intro c hc
    obtain ⟨run, -, hover⟩ := exists_mem_of_forall₂ hchildren hc
    exact hover.everywhere

/-- A node over tokens is in its place if its parts are. -/
theorem over_nodeOver {p : Production} {e : Option Expression} (h : InOrder text run)
    (some : run ≠ []) (hpieces : Pieces text (extent run).1 (extent run).2 runs)
    (hchildren : List.Forall₂ (Over text) runs children)
    (tight : isTight p = true → (runs.head?.map fun r => (extent r).1) = .some (extent run).1 ∧
      (runs.getLast?.map fun r => (extent r).2) = .some (extent run).2) :
    Over text run (nodeOver p text run e children) :=
  ⟨rfl, everywhere_of_pieces (extent_lt h some) (extent_le h) hpieces hchildren tight⟩

/-- A leaf is in its place. -/
theorem over_leaf {p : Production} {e : Option Expression} (hp : isTight p = false)
    (h : InOrder text run) (some : run ≠ []) : Over text run (nodeOver p text run e []) :=
  over_nodeOver h some Pieces.nil List.Forall₂.nil fun htight => by
    rw [hp] at htight
    cases htight

theorem over_leafOver {p : Production} {wanted : ExpressionKind → Bool} (hp : isTight p = false)
    (h : InOrder text run ) (some : run ≠ []) (read : LeafOver r text p wanted run t) :
    Over text run t := by
  obtain ⟨e, -, rfl⟩ := read
  exact over_leaf hp h some

/-- A node whose parts cover all of it is in its place if they are. -/
theorem over_flatten {p : Production} {e : Option Expression} (h : InOrder text tokens)
    (hwhole : tokens = run ++ runs.flatten) (some : run ≠ [])
    (heads : ∀ r ∈ runs, BeginsWith (isQueryHead · = true) r)
    (hchildren : (∀ r ∈ run :: runs, r ≠ [] ∧ InOrder text r) →
      List.Forall₂ (Over text) (run :: runs) children) :
    Over text tokens (nodeOver p text tokens e children) := by
  subst hwhole
  have hstart : (extent (run ++ runs.flatten)).1 = (extent run).1 := extent_fst_append some
  have hpieces := Pieces.of_flatten h some heads
  rw [← hstart] at hpieces
  refine over_nodeOver h (List.append_ne_nil_of_left_ne_nil some _) hpieces
    (hchildren hpieces.each) fun _ => ⟨?_, ?_⟩
  · rw [List.head?_cons, Option.map_some, hstart]
  · exact getLast?_stop_flatten some fun r hr => (heads r hr).ne_nil

theorem heads_of_behind {parts : List Tree} (h : Behind r text runs parts) :
    ∀ run ∈ runs, BeginsWith (isQueryHead · = true) run := by
  cases h with
  | nothing => simp
  | rest head =>
    rintro run hrun
    obtain rfl := List.mem_singleton.mp hrun
    exact head.imp fun k hk => by rw [hk]; rfl
  | branches _ heads => exact fun run hrun => (heads run hrun).imp fun k hk => by rw [hk]; rfl

/-- What stands behind a source is in its place. -/
theorem over_behind {parts : List Tree} (h : Behind r text runs parts)
    (heach : ∀ r ∈ runs, r ≠ [] ∧ InOrder text r) : List.Forall₂ (Over text) runs parts := by
  cases h with
  | nothing => exact List.Forall₂.nil
  | @rest run t _ read =>
    obtain ⟨some, h⟩ := heach run (List.mem_singleton_self run)
    exact List.Forall₂.cons (over_leafOver rfl h some read) List.Forall₂.nil
  | branches _ _ read =>
    refine ((List.forall₂_and_left _ _).mpr ⟨heach, read⟩).imp ?_
    rintro run t ⟨⟨some, h⟩, leaf⟩
    exact over_leafOver rfl h some leaf

/-- A statement that begins with its source is in its place. -/
theorem over_fromLayout (h : InOrder text tokens) (layout : FromLayout r text tokens t) :
    Over text tokens t := by
  obtain @⟨source, runs, parts, e, head, read, behind⟩ := layout
  apply over_flatten h rfl head.ne_nil (heads_of_behind behind)
  intro heach
  obtain ⟨some, hsource⟩ := heach source List.mem_cons_self
  exact List.Forall₂.cons (over_leaf rfl hsource some)
    (over_behind behind fun r hr => heach r (List.mem_cons_of_mem source hr))

theorem head_of_main {whole body : List Token} (h : Main r text whole body t) :
    BeginsWith (isQueryHead · = true) body := by
  cases h with
  | from_ read =>
    obtain ⟨⟨u, us, rfl, hu⟩, -, -⟩ := read
    exact ⟨u, _, rfl, by rw [hu]; rfl⟩
  | insert head => exact head.imp fun k hk => by rw [hk]; rfl
  | select head => exact head.imp fun k hk => by rcases hk with rfl | rfl <;> rfl

theorem over_main {whole body : List Token} (h : InOrder text body)
    (layout : Main r text whole body t) : Over text body t := by
  have some := (head_of_main layout).ne_nil
  cases layout with
  | from_ read => exact over_fromLayout h read
  | insert => exact over_leaf rfl h some
  | select => exact over_leaf rfl h some

/-- An explanation is in its place if what it explains is in its place in the rest of the
text. -/
theorem over_explained {u : Token} {us : List Token} {inner : Tree} {k : Nat}
    (h : InOrder text (u :: us)) (hk : u.start ≤ k)
    (hinner : Everywhere (WellPlaced ((text.take (extent (u :: us)).2).drop k)) inner) :
    Over text (u :: us) (nodeOver .explainStatement text (u :: us) none [inner.shift k]) := by
  have hlt := extent_lt h (List.cons_ne_nil u us)
  have hle := extent_le h
  have hstart := hinner.root.start_nonneg
  have hstop := hinner.root.stop_le
  have hinside := hinner.root.start_lt_stop
  -- what is explained is not empty, so the place behind the options lies inside the explanation
  simp only [List.length_drop, List.length_take] at hstop
  refine ⟨rfl, everywhere_node ⟨?_, ?_, ?_, ?_, ?_, ?_, ?_⟩ ?_⟩
  · exact Int.natCast_nonneg _
  · exact Int.ofNat_lt.mpr hlt
  · exact Int.ofNat_le.mpr hle
  · exact (Span.slice_ofNat (by omega) hle).symm
  · intro c hc
    obtain rfl := List.mem_singleton.mp hc
    show ((extent (u :: us)).1 : Int) ≤ (inner.shift k).span.start ∧
      (inner.shift k).span.stop ≤ ((extent (u :: us)).2 : Int)
    have hu : (extent (u :: us)).1 = u.start := rfl
    rw [Tree.span_shift, Span.shift_start, Span.shift_stop, hu]
    omega
  · exact List.pairwise_singleton _ _
  · intro htight
    cases htight
  · intro c hc
    obtain rfl := List.mem_singleton.mp hc
    exact everywhere_shift hinner

/-- **What is laid out** is in its place. -/
theorem over_of_layout (hr : r.KeepsOrder) (layout : Layout r text tokens t)
    (h : InOrder text tokens) : Over text tokens t := by
  induction layout with
  | utility some _ _ read => exact over_leafOver rfl h some read
  | @query text front body clauses main _ _ readFront readMain =>
    have hhead := head_of_main readMain
    cases readFront with
    | nothing =>
      refine over_flatten h (by simp : _ = body ++ List.flatten []) hhead.ne_nil (by simp) ?_
      intro heach
      have hbody := (heach body (List.mem_singleton_self body)).2
      exact List.Forall₂.cons (over_main hbody readMain) List.Forall₂.nil
    | clause head =>
      refine over_flatten h (by simp : _ = front ++ List.flatten [body]) head.ne_nil ?_ ?_
      · intro run hrun
        exact List.mem_singleton.mp hrun ▸ hhead
      · intro heach
        have hfront := (heach front List.mem_cons_self).2
        have hbody := (heach body (List.mem_cons_of_mem front (List.mem_singleton_self body))).2
        exact List.Forall₂.cons (over_leaf rfl hfront head.ne_nil)
          (List.Forall₂.cons (over_main hbody readMain) List.Forall₂.nil)
  | @explain text rest u us body n inner _ cut _ _ ih =>
    -- the rest of the text is cut into tokens afresh, and begins behind the word and its options
    obtain ⟨rfl, hbody⟩ := behindOptions_eq_ok cut
    have hinner := (ih (hr _ body hbody)).everywhere
    rw [List.drop_drop] at hinner
    have hword := h.head u rfl
    exact over_explained h (by omega) hinner

/-- **Every node of the tree of a script** is in its place. -/
theorem wellPlaced_of_script {tree : Tree} (hr : r.KeepsOrder) (h : script r text = .ok tree) :
    ∀ p, ∀ n ∈ tree.nodesOf p, WellPlaced text n := by
  obtain ⟨tokens, parts, htokens, some, layouts, rfl⟩ := layouts_of_script h
  have hpieces : Pieces text 0 text.length (statements tokens) :=
    Pieces.of_cut (cut_statements tokens) (hr text tokens htokens) fun t _ => Nat.zero_le t.start
  have hparts : List.Forall₂ (Over text) (statements tokens) parts := by
    refine ((List.forall₂_and_left _ _).mpr ⟨hpieces.each, layouts⟩).imp ?_
    rintro group t ⟨⟨-, horder⟩, layout⟩
    exact over_of_layout hr layout horder
  have hlength : 0 < text.length := by
    obtain ⟨t, ht⟩ := List.exists_mem_of_ne_nil parts some
    obtain ⟨group, hgroup, -⟩ := exists_mem_of_forall₂ hparts ht
    obtain ⟨hsome, horder⟩ := hpieces.each group hgroup
    have := extent_lt horder hsome
    have := extent_le horder
    omega
  have hplaced := everywhere_of_pieces (p := .script) (e := none) hlength (Nat.le_refl _) hpieces
    hparts fun htight => by cases htight
  rw [List.take_length, List.drop_zero] at hplaced
  exact hplaced

end Trees

/-! ### The small language -/

/-- The small language keeps order. -/
theorem keepsOrder_smallReader : smallReader.KeepsOrder :=
  have hall : ∀ entry ∈ smallTokens, InOrder entry.1 entry.2 := by decide
  Sql.Reader.keepsOrder_of_lookup (fun _ => rfl) hall

/-- Every node of an explained source is in its place. -/
theorem wellPlaced_of_explained_source :
    smallReader.KeepsOrder ∧
      ∃ tree, script smallReader "EXPLAIN WITH c AS (SELECT 1) FROM c".toList = .ok tree ∧
        ∀ p, ∀ n ∈ tree.nodesOf p,
          WellPlaced "EXPLAIN WITH c AS (SELECT 1) FROM c".toList n := by
  obtain ⟨tree, h, -⟩ := exists_of_toOption_any
    (x := script smallReader "EXPLAIN WITH c AS (SELECT 1) FROM c".toList)
    (p := fun _ => true) (by decide +kernel)
  exact ⟨keepsOrder_smallReader, tree, h, wellPlaced_of_script keepsOrder_smallReader h⟩

end StatementShape.Statement
