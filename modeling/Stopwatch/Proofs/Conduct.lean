import Mathlib.Logic.Function.Basic
import Stopwatch.Proofs.Marking
import Stopwatch.Proofs.Rows
import Stopwatch.Proofs.Writing

/-!
# Every run is the run of a table of answers

`Session.Follows.exists_answers` is the theorem about runs: whatever the parties do, there is a
table of answers such that the run tells the events that the table tells and ends as the table says.
The recording of a completed run is thereby known cell by cell, and a failure is the first one of
the table.

What is known of the parties beforehand is carried along.  A `Conduct` says in which states they are
at certain points of the run and which answers they give from there; a session that `Follows` it
gets its answers from a table that the conduct allows.  Of an arbitrary session nothing is known
(`Conduct.arbitrary`).

The loops are proved from the inside out: the rows of an iteration (`tells_writeRows`), an iteration
(`tells_iterate`), all of them (`tells_measure`).  What the rows say of the frame and of the
recording is that the frame holds what was read in this iteration (`Turn.Framed`), and that every
row is written up to it (`Recording.Upto`).
-/

namespace Stopwatch

open Session (ask)

variable {σ : Type}

/-! ### Conduct -/

/-- What is known of the parties of a run: in which states they are, and what they answer. -/
structure Conduct (σ : Type) where
  /-- Before the run. -/
  fresh : σ → Prop
  /-- Before an iteration. -/
  ready : Nat → σ → Prop
  /-- Around the benchmark call of an iteration. -/
  half : Nat → σ → Prop
  /-- While the rows of an iteration are sampled. -/
  full : Nat → σ → Prop
  /-- How the backend begins. -/
  begun : Except BackendError Layout → Prop
  side : Nat → Slot → Side → Prop
  /-- What is handed out for a row in an iteration. -/
  reading : Nat → Slot → RowKey → Except BackendError Reading → Prop
  /-- How the backend ends. -/
  ended : Except BackendError Unit → Prop

/-- A turn with answers as in the conduct. -/
structure Conduct.Allows (c : Conduct σ) (i : Nat) (t : Turn) : Prop where
  side : ∀ slot, c.side i slot (t.side slot)
  reading : ∀ slot key, c.reading i slot key (t.reading slot key)

theorem Conduct.Allows.dealt {c : Conduct σ} {i : Nat} {t t' : Turn} {keys : List RowKey}
    (h : c.Allows i t) (hdealt : t.Dealt keys t')
    (hreading : ∀ slot key, c.reading i slot key (t'.reading slot key)) : c.Allows i t' := by
  refine ⟨fun slot => ?_, hreading⟩
  rw [hdealt.side]
  exact h.side slot

/-- The conduct of which nothing is known. -/
def Conduct.arbitrary : Conduct σ where
  fresh _ := True
  ready _ _ := True
  half _ _ := True
  full _ _ := True
  begun _ := True
  side _ _ _ := True
  reading _ _ _ _ := True
  ended _ := True

/-- The parties of the session behave as the conduct says. -/
structure Session.Follows (s : Session (StateM σ)) (c : Conduct σ) : Prop where
  begun : ∀ w, c.fresh w → c.begun (s.backend.init w).1
  runStart : ∀ w layout, c.fresh w → (s.backend.init w).1 = .ok layout →
    c.ready 0 (s.notify (.runStart s.config layout) (s.backend.init w).2).2
  iterationStart : ∀ i < s.total, ∀ w, c.ready i w →
    c.ready i (s.notify (.iterationStart i s.total) w).2
  before : ∀ i < s.total, ∀ f, Tells (c.ready i) (ask (s.backend.watched.mark .before f)).run
    (Marks s.backend.kind .before f (c.side i .before) (c.half i))
  benchmark : ∀ i < s.total, ∀ w, c.half i w → c.half i (s.benchmark s.config.param w).2
  after : ∀ i < s.total, ∀ f, Tells (c.half i) (ask (s.backend.watched.mark .after f)).run
    (Marks s.backend.kind .after f (c.side i .after) (c.full i))
  handsOut : ∀ i < s.total, s.backend.HandsOut (c.full i) (c.reading i)
  iterationEnd : ∀ i < s.total, ∀ w, c.full i w →
    c.ready (i + 1) (s.notify (.iterationEnd i s.total) w).2
  ended : ∀ w, c.ended (s.backend.shutdown w).1
  /-- There are answers that the conduct allows. -/
  allows : ∀ i < s.total, ∃ t, c.Allows i t

theorem Backend.handsOut_arbitrary (b : Backend (StateM σ)) :
    b.HandsOut (fun _ => True) fun _ _ _ => True := by
  cases b with
  | snapshot s => exact fun _ _ _ _ => ⟨trivial, trivial⟩
  | _ => exact trivial

/-- Every session follows the conduct of which nothing is known. -/
theorem Session.follows_arbitrary (s : Session (StateM σ)) : s.Follows .arbitrary where
  begun _ _ := trivial
  runStart _ _ _ _ := trivial
  iterationStart _ _ _ _ := trivial
  before _ _ f := tells_mark s.backend .before f
  benchmark _ _ _ _ := trivial
  after _ _ f := tells_mark s.backend .after f
  handsOut _ _ := s.backend.handsOut_arbitrary
  iterationEnd _ _ _ _ := trivial
  ended _ := trivial
  allows _ _ := ⟨.idle, fun _ => trivial, fun _ _ => trivial⟩

/-! ### One iteration -/

section Iteration

variable {s : Session (StateM σ)} {c : Conduct σ} {i : Nat} {layout : Layout}

/-- **Around the benchmark call** both sides are marked, and the frame then holds what was read. -/
theorem tells_bracket (hs : s.Follows c) (hi : i < s.total) {t : Turn} (ht : c.Allows i t)
    (f : Frame) :
    Tells (c.ready i) (s.watched.bracket i f).run fun es a w => ∃ t', c.Allows i t' ∧
      Performed (t'.bracketItems s.backend.kind s.config i) es a fun f' =>
        t'.Framed s.backend.kind f' ∧ c.full i w := by
  refine Tells.step_watch (fun _ => .progress _) (R := fun _ => c.ready i)
    (hs.iterationStart i hi) fun _ => ?_
  refine (hs.before i hi f).step (fun es f₁ => .from_each ?_) (fun es e w => ?_)
  · rintro w ⟨before, hbefore, hperformed⟩
    obtain ⟨hfiled, hhalf⟩ := hperformed.post
    refine ⟨c.half i, hhalf, Tells.step_watch (fun _ => .benchmark _) (R := fun _ => c.half i)
      (hs.benchmark i hi) fun _ => (hs.after i hi f₁).weaken ?_⟩
    rintro es' a w' ⟨after, hafter, hperformed'⟩
    refine ⟨⟨before, after, t.reading⟩, ⟨?_, ht.reading⟩, ?_⟩
    · rintro (_ | _)
      · exact hbefore
      · exact hafter
    · refine Performed.call rfl (hperformed.append_ok (Performed.call rfl (hperformed'.imp ?_)))
      rintro f₂ ⟨hfiled', hfull⟩
      refine ⟨?_, hfull⟩
      -- The second mark filed its own side and left alone what the first one had filed.
      rintro (_ | _) m hm
      · rw [hfiled'.kept .before nofun]
        exact hfiled.filed m hm
      · exact hfiled'.filed m hm
  · rintro ⟨before, hbefore, hperformed⟩
    refine ⟨⟨before, t.after, t.reading⟩, ⟨?_, ht.reading⟩, ?_⟩
    · rintro (_ | _)
      · exact hbefore
      · exact ht.side .after
    · exact Performed.call rfl (hperformed.append_error _)

/-- The given rows were written in iteration `i` with the deltas of a turn. -/
structure Recording.Wrote {n : Nat} (k : Kind) (t : Turn) (i : Nat)
    (rows : List (Fin layout.rowCount)) (r r' : Recording layout n) : Prop where
  advanced : ∀ row ∈ rows, ∃ d, t.delta k (layout.rowKey row) = .ok d ∧
    (r.rowAt row).Advanced i d (r'.rowAt row)
  kept : ∀ row ∉ rows, r'.rowAt row = r.rowAt row

/-- One row was written, and then others. -/
theorem Recording.Wrote.cons {n : Nat} {k : Kind} {t : Turn} {row : Fin layout.rowCount}
    {rows : List (Fin layout.rowCount)} {r r₁ r₂ : Recording layout n} {d : Double}
    (hd : t.delta k (layout.rowKey row) = .ok d)
    (hadvanced : (r.rowAt row).Advanced i d (r₁.rowAt row))
    (hothers : ∀ other, other ≠ row → r₁.rowAt other = r.rowAt other) (hrow : row ∉ rows)
    (h : r₁.Wrote k t i rows r₂) : r.Wrote k t i (row :: rows) r₂ := by
  refine ⟨fun other hother => ?_, fun other hother => ?_⟩
  · rcases List.mem_cons.1 hother with rfl | hmem
    · rw [h.kept other hrow]
      exact ⟨d, hd, hadvanced⟩
    · rw [← hothers other fun heq => hrow (heq ▸ hmem)]
      exact h.advanced other hmem
  · rw [List.mem_cons, not_or] at hother
    rw [h.kept other hother.2, hothers other hother.1]

/-- **The rows of an iteration** are sampled and written one by one. -/
theorem tells_writeRows (hs : s.Follows c) (hi : i < s.total) {f : Frame}
    (hlayout : ∀ row, s.backend.kind ≠ .snapshot → (layout.rowKey row).1 ∈ s.backend.kind.framed)
    {rows : List (Fin layout.rowCount)} (hrows : (rows.map layout.rowKey).Nodup) :
    ∀ {t : Turn}, t.Framed s.backend.kind f → c.Allows i t →
    ∀ {r : Recording layout s.total}, (∀ row ∈ rows, (r.rowAt row).cursor = i) →
    Tells (c.full i) (s.watched.writeRows f i rows r).run fun es a w => ∃ t', c.Allows i t' ∧
      t.Dealt (rows.map layout.rowKey) t' ∧
      Performed ((rows.map layout.rowKey).flatMap (t'.rowItems s.backend.kind)) es a fun r' =>
        r.Wrote s.backend.kind t' i rows r' ∧ c.full i w := by
  induction rows with
  | nil =>
    intro t hf ht r hr
    refine .of_pure fun w hw => ⟨t, ht, .refl _ t, .nil ⟨⟨?_, fun _ _ => rfl⟩, hw⟩⟩
    exact fun row hrow => absurd hrow List.not_mem_nil
  | cons row rows ih =>
    intro t hf ht r hr
    obtain ⟨hrow, hrows⟩ := List.nodup_cons.1 hrows
    have hsample := tells_sample s.backend (hs.handsOut i hi) ht.reading hf _ (hlayout row)
    refine hsample.step (fun es sample => .from_each ?_) (fun es e w => ?_)
    · rintro w ⟨t₁, hdealt, hreading, hsampled⟩
      obtain ⟨⟨start, stop, hstart, hstop, rfl⟩, hfull⟩ := hsampled.post
      have hdelta := Turn.delta_of_taken hstart hstop
      refine ⟨c.full i, hfull, ?_⟩
      cases hd : (Sample.mk (layout.rowKey row).1 (layout.rowKey row).2 start stop).delta.mapError
          RunError.measure with
      | error e =>
        rw [hd] at hdelta
        -- The delta is rejected, and the rows behind this one are not sampled.
        refine .of_failure rfl fun w hw =>
          ⟨t₁, ht.dealt hdealt hreading, hdealt.append_right _, ?_⟩
        rw [List.map_cons, List.flatMap_cons, Turn.rowItems, hdelta]
        exact (hsampled.append_ok (Performed.delta_error _ e)).append_error _
      | ok d =>
        rw [hd] at hdelta
        -- The row waits for this iteration, so the write is accepted; the others go on waiting.
        obtain ⟨r₁, hwrite⟩ := Recording.exists_write_eq_ok hi (hr row List.mem_cons_self) d
        obtain ⟨-, -, hadvanced, hothers⟩ := Recording.write_eq_ok hwrite
        have hr₁ : ∀ other ∈ rows, (r₁.rowAt other).cursor = i := by
          intro other hother
          rw [hothers other fun h => hrow (h ▸ List.mem_map_of_mem hother)]
          exact hr other (List.mem_cons_of_mem _ hother)
        refine .of_answer rfl (.of_answer (congrArg _ hwrite) ?_)
        refine (ih hrows (hdealt.framed hf) (ht.dealt hdealt hreading) hr₁).weaken ?_
        rintro es' a w' ⟨t', ht', hdealt', hperformed⟩
        refine ⟨t', ht', hdealt.trans hdealt', ?_⟩
        -- What the rows behind are dealt does not touch this one, whose key is not among theirs.
        have hd' : t'.delta s.backend.kind (layout.rowKey row) = .ok d := by
          rw [hdealt'.delta hrow, hdelta]
        rw [List.map_cons, List.flatMap_cons, hdealt'.rowItems hrow, Turn.rowItems, hdelta]
        have hhead := hsampled.append_ok (Performed.delta_ok (layout.rowKey row) d)
        rw [List.append_nil] at hhead
        refine (hhead.append_ok hperformed).imp ?_
        rintro r' ⟨hwrote, hfull'⟩
        have hrow' : row ∉ rows := fun hmem => hrow (List.mem_map_of_mem hmem)
        exact ⟨.cons hd' hadvanced hothers hrow' hwrote, hfull'⟩
    · rintro ⟨t₁, hdealt, hreading, hsampled⟩
      refine ⟨t₁, ht.dealt hdealt hreading, hdealt.append_right _, ?_⟩
      rw [List.map_cons, List.flatMap_cons, Turn.rowItems, List.append_assoc]
      exact hsampled.append_error _

/-- **An iteration** does what its turn lists, and writes every row. -/
theorem tells_iterate (hs : s.Follows c) (hi : i < s.total)
    (hlayout : ∀ row, s.backend.kind ≠ .snapshot → (layout.rowKey row).1 ∈ s.backend.kind.framed)
    {t : Turn} (ht : c.Allows i t) (f : Frame) {r : Recording layout s.total}
    (hr : ∀ row : Fin layout.rowCount, (r.rowAt row).cursor = i) :
    Tells (c.ready i) (s.watched.iterate i f r).run fun es a w => ∃ t', c.Allows i t' ∧
      Performed (t'.items s.backend.kind s.config layout i) es a fun v =>
        r.Wrote s.backend.kind t' i (List.finRange layout.rowCount) v.2 ∧ c.ready (i + 1) w := by
  have hkeys : ((List.finRange layout.rowCount).map layout.rowKey).Nodup :=
    layout.map_rowKey ▸ layout.nodup_rowKeys
  refine (tells_bracket hs hi ht f).step (fun es f₁ => .from_each ?_) (fun es e w => ?_)
  · rintro w ⟨t₁, ht₁, hbracket⟩
    obtain ⟨hframed, hfull⟩ := hbracket.post
    have hwriteRows := tells_writeRows hs hi hlayout hkeys hframed ht₁ fun row _ => hr row
    refine ⟨c.full i, hfull, hwriteRows.step
      (fun es' r' => .from_each ?_) (fun es' e w' => ?_)⟩
    · rintro w' ⟨t', ht', hdealt, hrows⟩
      obtain ⟨hwrote, hfull'⟩ := hrows.post
      refine ⟨c.full i, hfull', Tells.step_watch (fun _ => .progress _)
        (R := fun _ => c.ready (i + 1)) (hs.iterationEnd i hi)
        fun _ => .of_pure fun w'' hready => ⟨t', ht', ?_⟩⟩
      rw [Turn.items, hdealt.bracketItems, ← layout.map_rowKey, ← List.append_assoc]
      exact (hbracket.append_ok hrows).append_ok (Performed.call rfl (.nil ⟨hwrote, hready⟩))
    · rintro ⟨t', ht', hdealt, hrows⟩
      refine ⟨t', ht', ?_⟩
      rw [Turn.items, hdealt.bracketItems, ← layout.map_rowKey]
      exact (hbracket.append_ok hrows).append_error _
  · rintro ⟨t', ht', hbracket⟩
    refine ⟨t', ht', ?_⟩
    rw [Turn.items, List.append_assoc]
    exact hbracket.append_error _

end Iteration

/-! ### All iterations -/

section Iterations

variable {s : Session (StateM σ)} {c : Conduct σ} {layout : Layout} {n : Nat}

/-- Every row is written up to iteration `i`, with the deltas of the turns. -/
def Recording.Upto (k : Kind) (ts : Nat → Turn) (i : Nat) (r : Recording layout n) : Prop :=
  ∀ row : Fin layout.rowCount, (r.rowAt row).cursor = i ∧
    ∀ (j : Nat) (hj : j < n), j < i →
      (ts j).delta k (layout.rowKey row) = .ok (r.rowAt row).cells[j]

theorem Recording.upto_blank (k : Kind) (ts : Nat → Turn) :
    (Recording.blank layout n).Upto k ts 0 := by
  intro row
  rw [Recording.rowAt_blank]
  exact ⟨rfl, fun j _ hj => absurd hj (Nat.not_lt_zero j)⟩

/-- The answers that were not yet used do not matter. -/
theorem Recording.Upto.congr {k : Kind} {ts ts' : Nat → Turn} {i : Nat} {r : Recording layout n}
    (h : r.Upto k ts i) (hts : ∀ j < i, ts' j = ts j) : r.Upto k ts' i := by
  refine fun row => ⟨(h row).1, fun j hj hji => ?_⟩
  rw [hts j hji]
  exact (h row).2 j hj hji

theorem Recording.Upto.wrote {k : Kind} {ts : Nat → Turn} {i : Nat} {r r' : Recording layout n}
    (h : r.Upto k ts i) (hwrote : r.Wrote k (ts i) i (List.finRange layout.rowCount) r') :
    r'.Upto k ts (i + 1) := by
  intro row
  obtain ⟨d, hd, hadvanced⟩ := hwrote.advanced row (List.mem_finRange row)
  refine ⟨hadvanced.cursor, fun j hj hji => ?_⟩
  rw [hadvanced.cells j hj]
  by_cases hlast : j = i
  · rw [if_pos hlast, hlast]
    exact hd
  · rw [if_neg hlast]
    exact (h row).2 j hj (by omega)

/-- A recording that is written to the end is the one of the table. -/
theorem Recording.Upto.eq_recording {k : Kind} {h : Answers} {r : Recording layout n}
    (hr : r.Upto k h.turn n) : r = h.recording k layout n := by
  refine Recording.ext_rowAt fun row => ?_
  obtain ⟨hcursor, hcells⟩ := hr row
  rw [Answers.recording, Recording.rowAt_ofFn]
  refine congrArg₂ Row.mk (Vector.ext fun j hj => ?_) hcursor
  rw [Vector.getElem_ofFn, hcells j hj hj]
  rfl

/-- **The iterations** do what their turns list, one after the other, until something fails. -/
theorem tells_measure (hs : s.Follows c)
    (hlayout : ∀ row, s.backend.kind ≠ .snapshot → (layout.rowKey row).1 ∈ s.backend.kind.framed)
    (count : Nat) :
    ∀ {i : Nat}, i + count = s.total → ∀ {ts : Nat → Turn}, (∀ j < s.total, c.Allows j (ts j)) →
    ∀ (f : Frame) {r : Recording layout s.total}, r.Upto s.backend.kind ts i →
    Tells (c.ready i) (s.watched.measure count i f r).run fun es a _ => ∃ ts',
      (∀ j < i, ts' j = ts j) ∧ (∀ j < s.total, c.Allows j (ts' j)) ∧
      Performed ((List.range' i count).flatMap fun j =>
          (ts' j).items s.backend.kind s.config layout j) es a fun v =>
        v.2.Upto s.backend.kind ts' s.total := by
  induction count with
  | zero =>
    intro i hi ts hts f r hr
    obtain rfl : i = s.total := hi
    exact .of_pure fun w _ => ⟨ts, fun _ _ => rfl, hts, .nil hr⟩
  | succ count ih =>
    intro i hi ts hts f r hr
    have hlt : i < s.total := by omega
    have hiterate := tells_iterate hs hlt hlayout (hts i hlt) f fun row => (hr row).1
    -- The turn of this iteration takes its place in the table that the later ones are played from.
    have hupdate : ∀ t, c.Allows i t → ∀ j < s.total, c.Allows j (Function.update ts i t j) := by
      intro t ht j hj
      by_cases hji : j = i
      · rw [hji, Function.update_self]
        exact ht
      · rw [Function.update_of_ne hji]
        exact hts j hj
    have hkept : ∀ t, ∀ j < i, Function.update ts i t j = ts j := fun t j hj =>
      Function.update_of_ne (Nat.ne_of_lt hj) t ts
    refine hiterate.step (fun es v => .from_each ?_) (fun es e w => ?_)
    · rintro w ⟨t, ht, hitems⟩
      obtain ⟨hwrote, hready⟩ := hitems.post
      rw [← Function.update_self i t ts] at hwrote
      refine ⟨c.ready (i + 1), hready, (ih (by omega) (hupdate t ht) v.1
        ((hr.congr (hkept t)).wrote hwrote)).weaken ?_⟩
      rintro es' a w' ⟨ts', hts', hallows, hrest⟩
      have hthis : ts' i = t := by rw [hts' i (Nat.lt_succ_self i), Function.update_self]
      refine ⟨ts', fun j hj => ?_, hallows, ?_⟩
      · rw [hts' j (Nat.lt_succ_of_lt hj), hkept t j hj]
      · rw [List.range'_succ, List.flatMap_cons, hthis]
        exact hitems.append_ok hrest
    · rintro ⟨t, ht, hitems⟩
      refine ⟨Function.update ts i t, hkept t, hupdate t ht, ?_⟩
      rw [List.range'_succ, List.flatMap_cons, Function.update_self]
      exact hitems.append_error _

end Iterations

/-! ### The beginning, the end, and the whole -/

section Run

variable {s : Session (StateM σ)} {c : Conduct σ}

theorem tells_init (b : Backend (StateM σ)) (w : σ) :
    Tells (· = w) b.watched.init.run fun es a w' => a = (b.init w).1 ∧ w' = (b.init w).2 ∧
      ∃ init cores, es = b.kind.opening init ∧ a = b.kind.begun init cores := by
  cases b with
  | snapshot sn =>
    rintro ⟨state, events⟩ hstate
    obtain rfl : state = w := hstate
    refine ⟨[.init (sn.init state).1], ?_, ?_, ?_, (sn.init state).1,
      (sn.cores (sn.init state).2).1, rfl, ?_⟩
    all_goals
      simp only [Backend.watched, Backend.init, Snapshot.watched, Answer.watched, ExceptT.run,
        ExceptT.mk, Bind.bind, ExceptT.bind, StateT.bind, watch, ExceptT.bindCont]
      rcases sn.init state with ⟨e | u, w₁⟩ <;> rfl
  | _ => exact Tells.of_pure fun _ hw => ⟨rfl, hw, .ok (), 0, rfl, rfl⟩

theorem tells_shutdown (b : Backend (StateM σ)) (P : σ → Prop) :
    Tells P b.watched.shutdown.run fun es a _ => ∃ w, a = (b.shutdown w).1 ∧
      ∃ answer, es = b.kind.closing answer ∧ a = b.kind.ended answer := by
  cases b with
  | snapshot sn => exact Tells.of_watch fun w _ => ⟨w, rfl, _, rfl, rfl⟩
  | _ => exact Tells.of_pure fun w _ => ⟨w, rfl, .ok (), rfl, rfl⟩

/-- In the layout of a kind every metric is one that the kind files, unless it takes snapshots. -/
theorem Kind.mem_framed {k : Kind} {init : Except BackendError Unit} {cores : Nat}
    {layout : Layout} (h : k.begun init cores = .ok layout) (row : Fin layout.rowCount)
    (hk : k ≠ .snapshot) : (layout.rowKey row).1 ∈ k.framed := by
  cases k with
  | snapshot => exact absurd rfl hk
  | _ =>
    obtain rfl := Except.ok.inj h
    exact (Layout.mem_rowKeys_singleCore (Layout.rowKey_mem _ row)).1

/-- A conduct that allows answers in each iteration allows a table of them. -/
theorem Session.Follows.exists_turns (hs : s.Follows c) :
    ∃ ts : Nat → Turn, ∀ i < s.total, c.Allows i (ts i) := by
  classical
  refine ⟨fun i => if hi : i < s.total then (hs.allows i hi).choose else .idle, fun i hi => ?_⟩
  simp only [dif_pos hi]
  exact (hs.allows i hi).choose_spec

theorem Backend.ended_shutdown (b : Backend (StateM σ)) (w : σ) :
    b.kind.ended (b.shutdown w).1 = (b.shutdown w).1 := by
  cases b <;> rfl

/-- What comes of the iterations is known from the table. -/
theorem measured_eq {layout : Layout} {k : Kind} {h : Answers} {es : List Event}
    {measured : Except RunError (Frame × Recording layout s.total)}
    (hperformed : Performed (h.items k s.config layout) es measured fun v =>
      v.2.Upto k h.turn s.total) :
    measured.map (·.2) = h.measured k s.config layout := by
  cases measured with
  | error e =>
    rw [Answers.measured, hperformed.firstFailure_of_error]
    rfl
  | ok v =>
    rw [Answers.measured, hperformed.firstFailure_of_ok]
    exact congrArg Except.ok hperformed.post.eq_recording

/-- **The end** is the same whatever came of the iterations: the backend is shut down once. -/
theorem tells_close (hs : s.Follows c) {layout : Layout}
    (measured : Except RunError (Frame × Recording layout s.total)) (P : σ → Prop) :
    Tells P (s.watched.close measured) fun es o _ => ∃ answer,
      c.ended (s.backend.kind.ended answer) ∧
      es = s.backend.kind.closing answer ++
        epilogue (measured.map (·.2)) (s.backend.kind.ended answer) ∧
      o = conclusion (measured.map (·.2)) (s.backend.kind.ended answer) := by
  have hshutdown : Tells P s.watched.backend.shutdown.run fun es a _ => ∃ answer,
      c.ended (s.backend.kind.ended answer) ∧ es = s.backend.kind.closing answer ∧
        a = s.backend.kind.ended answer := by
    refine (tells_shutdown s.backend P).weaken ?_
    rintro es a _ ⟨w, rfl, answer, rfl, ha⟩
    exact ⟨answer, ha ▸ hs.ended w, rfl, ha⟩
  cases measured with
  | error e =>
    refine hshutdown.bind fun es a => .from_each ?_
    rintro w ⟨answer, hended, rfl, rfl⟩
    refine ⟨fun _ => True, trivial, ?_⟩
    cases he : s.backend.kind.ended answer with
    | ok _ => exact .of_pure fun w _ => ⟨answer, hended, by rw [he]; rfl, by rw [he]; rfl⟩
    | error e' => exact .of_pure fun w _ => ⟨answer, hended, by rw [he]; rfl, by rw [he]; rfl⟩
  | ok v =>
    refine hshutdown.bind fun es a => .from_each ?_
    rintro w ⟨answer, hended, rfl, rfl⟩
    refine ⟨fun _ => True, trivial, ?_⟩
    cases he : s.backend.kind.ended answer with
    -- Only here is there something to be told.
    | ok _ => exact fun w _ => ⟨_, rfl, answer, hended, by rw [he]; rfl, by rw [he]; rfl⟩
    | error e' => exact .of_pure fun w _ => ⟨answer, hended, by rw [he]; rfl, by rw [he]; rfl⟩

/-- A watched run tells the events of a table and ends as the table says. -/
theorem tells_run (hs : s.Follows c) {w : σ} (hw : c.fresh w) :
    Tells (· = w) s.watched.run fun es o _ => ∃ h : Answers,
      h.begun s.backend.kind = (s.backend.init w).1 ∧ (∀ i < s.total, c.Allows i (h.turn i)) ∧
      c.ended (h.ended s.backend.kind) ∧ es = h.trace s.backend.kind s.config ∧
      o = h.outcome s.backend.kind s.config := by
  obtain ⟨ts, hts⟩ := hs.exists_turns
  refine (tells_init s.backend w).bind fun es a => .from_each ?_
  rintro w₁ ⟨ha, rfl, init, cores, rfl, hbegun⟩
  refine ⟨(· = (s.backend.init w).2), rfl, ?_⟩
  cases a with
  | error e =>
    -- Nothing else is called, so any turns will do.
    refine .of_pure fun w₁ _ => ⟨⟨init, cores, ts, (s.backend.shutdown w).1⟩, ?_, hts, ?_, ?_, ?_⟩
    · rw [← ha, hbegun]
      rfl
    · rw [Answers.ended, s.backend.ended_shutdown]
      exact hs.ended w
    · rw [Answers.trace, Answers.begun, ← hbegun]
      rfl
    · rw [Answers.outcome, Answers.begun, ← hbegun]
      rfl
  | ok layout =>
    have hready : ∀ w₁, w₁ = (s.backend.init w).2 →
        c.ready 0 (s.notify (.runStart s.config layout) w₁).2 := by
      rintro _ rfl
      exact hs.runStart w layout hw ha.symm
    refine Tells.bind_watch (fun _ => .progress _) (R := fun _ => c.ready 0) hready fun _ => ?_
    -- The iterations settle the turns of the table, and the shutdown its end.
    refine (tells_measure hs (Kind.mem_framed hbegun.symm) s.total (Nat.zero_add _) hts {}
      (Recording.upto_blank _ ts)).bind fun es measured => .from_each ?_
    rintro w₃ ⟨ts', -, hts', hperformed⟩
    refine ⟨fun _ => True, trivial, (tells_close hs measured fun _ => True).weaken ?_⟩
    rintro es'' o w₄ ⟨answer, hended, rfl, rfl⟩
    rw [← List.range_eq_range'] at hperformed
    have hmeasured := measured_eq (h := ⟨init, cores, ts', answer⟩) hperformed
    refine ⟨⟨init, cores, ts', answer⟩, hbegun.symm.trans ha, hts', hended, ?_, ?_⟩
    · rw [hperformed.1, Answers.trace, Answers.begun, ← hbegun, hmeasured]
      rfl
    · rw [Answers.outcome, Answers.begun, ← hbegun, hmeasured]
      rfl

/-- **Every run is the run of a table of answers.**  The parties may do whatever they like, within
their conduct: there is an answer to every call, allowed by the conduct, such that the events of the
run and its outcome are those of the answers. -/
theorem Session.Follows.exists_answers (hs : s.Follows c) {w : σ} (hw : c.fresh w) :
    ∃ h : Answers, h.begun s.backend.kind = (s.backend.init w).1 ∧
      (∀ i < s.total, c.Allows i (h.turn i)) ∧ c.ended (h.ended s.backend.kind) ∧
      s.eventsFrom w = h.trace s.backend.kind s.config ∧
      (s.run w).1 = h.outcome s.backend.kind s.config := by
  obtain ⟨es, hes, h, hbegun, hallows, hended, htrace, houtcome⟩ := tells_run hs hw ⟨w, []⟩ rfl
  refine ⟨h, hbegun, hallows, hended, ?_, ?_⟩
  · rw [eventsFrom, hes, List.nil_append, htrace]
  · rw [← houtcome, (s.run_watched ⟨w, []⟩).1]

end Run

end Stopwatch
