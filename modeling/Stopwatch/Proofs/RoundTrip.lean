import Stopwatch.Document
import Stopwatch.Proofs.Json
import Stopwatch.Proofs.Requests

/-!
# The recording behind a document

A layout fits in a shape, or it does not (`Shape.Fits`), and the natural shape of a layout always
does.  What fits is given out: `Recording.Shown` says for each shape which value stands for a
recording, by the keys of its rows, and `Recording.ofRecording_of_fits` that the document is that
value.

The value tells the deltas of every metric, to the bit (`Recording.Shown.series?_eq`).  So what a
recording is rendered as can be read back (`Recording.read_render`), after any requests with finite
deltas, for every layout and any number of iterations, none included.
-/

namespace Stopwatch

/-! ### Shapes that fit -/

namespace Shape

/-- The layout can be shown in the shape: flat takes one flat metric, nested flat metrics only, and
keyed takes everything. -/
def Fits (l : Layout) : Shape → Prop
  | flat => l.perCore = [] ∧ l.flat.length = 1
  | nested => l.perCore = []
  | keyed => True

/-- The natural shape of a layout fits it. -/
theorem fits_natural (l : Layout) : (natural l).Fits l := by
  unfold natural
  by_cases hper : l.perCore = []
  · rw [hper, List.isEmpty_nil, Bool.not_true, if_neg Bool.false_ne_true]
    split
    next hlength => exact ⟨hper, hlength⟩
    next => exact hper
  · rw [List.isEmpty_eq_false_iff.2 hper, Bool.not_false, if_pos rfl]
    exact trivial

end Shape

theorem Metric.key_injective {m m' : Metric} (h : m.key = m'.key) : m = m' := by
  cases m <;> cases m' <;> first | rfl | exact absurd h (by decide)

theorem Metric.plain_key (m : Metric) : Json.Plain m.key := by
  unfold Json.Plain
  cases m <;> simp [Metric.key]

/-! ### The value of a recording -/

namespace Recording

variable {layout : Layout} {n : Nat}

/-- The value of a metric in a keyed document. -/
def entry (r : Recording layout n) (m : Metric) : Json :=
  if m ∈ layout.flat then .row (r.numbers (m, none))
  else .table ((List.range layout.cores).map fun core => r.numbers (m, some core))

/-- The value stands for the recording in the shape. -/
inductive Shown (r : Recording layout n) : Shape → Json → Prop
  /-- The list of the one metric. -/
  | flat {m : Metric} (hper : layout.perCore = []) (hflat : layout.flat = [m]) :
    Shown r .flat (.row (r.numbers (m, none)))
  /-- One list for each metric, in canonical order. -/
  | nested (hper : layout.perCore = []) :
    Shown r .nested (.table (layout.flat.map fun m => r.numbers (m, none)))
  /-- One entry for each metric, in canonical order: a list, or one list for each core. -/
  | keyed : Shown r .keyed (.object (layout.metrics.map fun m => (m.key, r.entry m)))

/-- Every cell is finite. -/
def IsFinite (r : Recording layout n) : Prop := ∀ row, ∀ x ∈ r.values row, x.isFinite = true

theorem IsFinite.numbers {r : Recording layout n} (h : r.IsFinite) (key : RowKey) :
    ∀ x ∈ r.numbers key, x.isFinite = true := by
  by_cases hkey : key ∈ layout.rowKeys
  · obtain ⟨row, rfl⟩ := layout.exists_rowKey hkey
    rw [r.numbers_rowKey]
    exact h row
  -- Under any other key there are no numbers at all.
  · have hnone : r.numbers key = [] := by
      rw [Recording.numbers, valuesOf?, layout.rowOf?_eq_none_iff.2 hkey]
      rfl
    rw [hnone]
    exact fun x hx => absurd hx List.not_mem_nil

/-- A row that is asked for has a number for each iteration. -/
theorem length_numbers (r : Recording layout n) {key : RowKey} (h : key ∈ layout.rowKeys) :
    (r.numbers key).length = n := by
  obtain ⟨row, rfl⟩ := layout.exists_rowKey h
  rw [r.numbers_rowKey]
  exact Vector.length_toList

theorem flatRows_eq (r : Recording layout n) (shape : Shape) :
    Document.flatRows r shape =
      if layout.perCore = [] then .ok (layout.flat.map fun m => r.numbers (m, none))
      else .error (.unrepresentable shape.name "per-core metrics need keyed output") := by
  unfold Document.flatRows
  by_cases hper : layout.perCore = []
  · rw [hper, List.isEmpty_nil, Bool.not_true, if_neg Bool.false_ne_true, if_pos rfl,
      ← List.filterMap_eq_map]
    refine congrArg Except.ok (List.filterMap_congr fun m hm => ?_)
    rw [r.series?_eq_flat hm]
    rfl
  · rw [List.isEmpty_eq_false_iff.2 hper, Bool.not_false, if_pos rfl, if_neg hper]

/-- A metric of the layout has a series, whose value is its entry in a keyed document and whose rows
are rows of the recording. -/
theorem series?_eq_of_mem_metrics (r : Recording layout n) {m : Metric} (h : m ∈ layout.metrics) :
    ∃ s, r.series? m = some s ∧ s.json = r.entry m ∧
      ∀ numbers ∈ s.rows, ∃ key, r.numbers key = numbers := by
  by_cases hflat : m ∈ layout.flat
  · refine ⟨_, r.series?_eq_flat hflat, (if_pos hflat).symm, fun numbers hnumbers => ?_⟩
    exact ⟨_, (List.mem_singleton.1 hnumbers).symm⟩
  · have hper : m ∈ layout.perCore := (Layout.mem_metrics.1 h).resolve_left hflat
    refine ⟨_, r.series?_eq_perCore hper, (if_neg hflat).symm, fun numbers hnumbers => ?_⟩
    obtain ⟨core, -, hcore⟩ := List.mem_map.1 hnumbers
    exact ⟨_, hcore⟩

/-- A document of a recording: it shows it, its rows are rows of the recording, and its keys need no
escapes. -/
structure Represents (r : Recording layout n) (shape : Shape) (d : Document) : Prop where
  shown : r.Shown shape d.json
  rows : ∀ numbers ∈ d.rows, ∃ key, r.numbers key = numbers
  keys : ∀ key ∈ d.keys, Json.Plain key

theorem represents_flat (r : Recording layout n) {m : Metric} (hper : layout.perCore = [])
    (hflat : layout.flat = [m]) : r.Represents .flat (.row (r.numbers (m, none))) where
  shown := .flat hper hflat
  rows _ hnumbers := ⟨_, (List.mem_singleton.1 hnumbers).symm⟩
  keys _ hkey := absurd hkey List.not_mem_nil

theorem represents_nested (r : Recording layout n) (hper : layout.perCore = []) :
    r.Represents .nested (.table (layout.flat.map fun m => r.numbers (m, none))) where
  shown := .nested hper
  rows numbers hnumbers := by
    obtain ⟨m, -, hm⟩ := List.mem_map.1 hnumbers
    exact ⟨_, hm⟩
  keys _ hkey := absurd hkey List.not_mem_nil

/-- The keyed document shows the series of each metric of the layout, in canonical order. -/
theorem represents_keyed (r : Recording layout n) :
    r.Represents .keyed
      (.keyed (layout.metrics.filterMap fun m => (r.series? m).map (m.key, ·))) where
  shown := by
    have hentries : (layout.metrics.filterMap fun m => (r.series? m).map (m.key, ·)).map
        (fun entry => (entry.1, entry.2.json)) =
          layout.metrics.map fun m => (m.key, r.entry m) := by
      rw [List.map_filterMap, ← List.filterMap_eq_map]
      -- Every metric of the layout has a series, so none is passed over.
      refine List.filterMap_congr fun m hm => ?_
      obtain ⟨s, hs, hjson, -⟩ := r.series?_eq_of_mem_metrics hm
      rw [hs, Function.comp_apply, ← hjson]
      rfl
    show r.Shown .keyed
      (.object (List.map (fun entry : String × Series => (entry.1, entry.2.json)) _))
    rw [hentries]
    exact .keyed
  rows numbers hnumbers := by
    obtain ⟨⟨key, s⟩, he, hrow⟩ := List.mem_flatMap.1 hnumbers
    obtain ⟨m, hm, hseries⟩ := List.mem_filterMap.1 he
    obtain ⟨s', hs', -, hrows⟩ := r.series?_eq_of_mem_metrics hm
    rw [hs'] at hseries
    obtain rfl : s' = s := congrArg Prod.snd (Option.some.inj hseries)
    exact hrows numbers hrow
  keys key hkey := by
    obtain ⟨⟨key', s⟩, he, rfl⟩ := List.mem_map.1 hkey
    obtain ⟨m, -, hseries⟩ := List.mem_filterMap.1 he
    obtain ⟨s', -, heq⟩ := Option.map_eq_some_iff.1 hseries
    obtain rfl : m.key = key' := congrArg Prod.fst heq
    exact m.plain_key

/-- **In a shape that fits** there is a document of the recording, and it represents it. -/
theorem ofRecording_of_fits (r : Recording layout n) {shape : Shape} (h : shape.Fits layout) :
    ∃ d, Document.ofRecording r shape = .ok d ∧ r.Represents shape d := by
  cases shape with
  | flat =>
    obtain ⟨hper, hlength⟩ := h
    obtain ⟨m, hm⟩ := List.length_eq_one_iff.1 hlength
    refine ⟨_, ?_, r.represents_flat hper hm⟩
    rw [Document.ofRecording, flatRows_eq, if_pos hper, hm]
    rfl
  | nested =>
    refine ⟨_, ?_, r.represents_nested h⟩
    rw [Document.ofRecording, flatRows_eq, if_pos (show layout.perCore = [] from h)]
  | keyed => exact ⟨_, rfl, r.represents_keyed⟩

/-- **In a shape that does not fit** there is none, and the refusal names the shape. -/
theorem ofRecording_of_not_fits (r : Recording layout n) {shape : Shape} (h : ¬ shape.Fits layout) :
    ∃ reason, Document.ofRecording r shape = .error (.unrepresentable shape.name reason) := by
  cases shape with
  | flat =>
    by_cases hper : layout.perCore = []
    · have hlength : layout.flat.length ≠ 1 := fun hlength => h ⟨hper, hlength⟩
      refine ⟨"flat output holds exactly one metric", ?_⟩
      rw [Document.ofRecording, flatRows_eq, if_pos hper]
      -- Only a list of exactly one row is given out as it is.
      split
      next heq => cases heq
      next values heq =>
        have hone := congrArg List.length (Except.ok.inj heq)
        rw [List.length_map] at hone
        exact absurd hone hlength
      next => rfl
    · rw [Document.ofRecording, flatRows_eq, if_neg hper]
      exact ⟨_, rfl⟩
  | nested =>
    rw [Document.ofRecording, flatRows_eq, if_neg (show ¬ layout.perCore = [] from h)]
    exact ⟨_, rfl⟩
  | keyed => exact absurd trivial h

/-- In a shape that fits a recording is rendered. -/
theorem exists_render_of_fits (r : Recording layout n) {shape : Shape} (h : shape.Fits layout)
    (s : Serializer) : ∃ text, r.render shape s = .ok text := by
  obtain ⟨d, hd, -⟩ := r.ofRecording_of_fits h
  exact ⟨s.text d ++ "\n", by rw [render, hd]; rfl⟩

/-- In a shape that does not fit `render` is refused, as the document is. -/
theorem render_of_not_fits (r : Recording layout n) {shape : Shape} (h : ¬ shape.Fits layout)
    (s : Serializer) :
    ∃ reason, r.render shape s = .error (.unrepresentable shape.name reason) := by
  obtain ⟨reason, hd⟩ := r.ofRecording_of_not_fits h
  exact ⟨reason, by rw [render, hd]; rfl⟩

theorem fits_of_render {r : Recording layout n} {shape : Shape} {s : Serializer} {text : String}
    (h : r.render shape s = .ok text) : shape.Fits layout := by
  by_contra hfits
  obtain ⟨reason, hrender⟩ := r.render_of_not_fits hfits s
  rw [h] at hrender
  cases hrender

/-! ### The recording of a value -/

/-- Two recordings of one layout with the same numbers under every key have the same series. -/
theorem series?_congr {n' : Nat} {r : Recording layout n} {r' : Recording layout n'}
    (hflat : ∀ m ∈ layout.flat, r.numbers (m, none) = r'.numbers (m, none))
    (hper : ∀ m ∈ layout.perCore,
      (List.range layout.cores).map (fun core => r.numbers (m, some core)) =
      (List.range layout.cores).map fun core => r'.numbers (m, some core)) (m : Metric) :
    r.series? m = r'.series? m := by
  by_cases hm : m ∈ layout.flat
  · rw [r.series?_eq_flat hm, r'.series?_eq_flat hm, hflat m hm]
  by_cases hm' : m ∈ layout.perCore
  · rw [r.series?_eq_perCore hm', r'.series?_eq_perCore hm', hper m hm']
  -- A metric that the layout has not has no series in either.
  · have hnone : ∀ {n : Nat} (r : Recording layout n), r.series? m = none := fun r => by
      rw [series?, if_neg (hm ∘ List.contains_iff_mem.1), if_neg (hm' ∘ List.contains_iff_mem.1)]
    rw [hnone r, hnone r']

/-- **The value tells every series**: two recordings of one layout that are `Shown` as one value
have the same series, whatever their numbers of iterations are. -/
theorem Shown.series?_eq {n' : Nat} {r : Recording layout n} {r' : Recording layout n'}
    {shape : Shape} {v : Json} (h : r.Shown shape v) (h' : r'.Shown shape v) :
    ∀ m, r.series? m = r'.series? m := by
  have hnone : layout.perCore = [] → ∀ m ∈ layout.perCore,
      (List.range layout.cores).map (fun core => r.numbers (m, some core)) =
        (List.range layout.cores).map fun core => r'.numbers (m, some core) := by
    intro hper m hm
    rw [hper] at hm
    exact absurd hm List.not_mem_nil
  -- The shape is the same for both, so each case meets only itself.
  generalize hv : v = v' at h'
  cases h with
  | @flat m hper hflat =>
    cases h' with
    | @flat m' _ hflat' =>
      refine series?_congr (fun m'' hm'' => ?_) (hnone hper)
      obtain rfl : m = m' := List.head_eq_of_cons_eq (hflat.symm.trans hflat')
      rw [hflat] at hm''
      rw [List.mem_singleton.1 hm'']
      exact Json.row_injective hv
  | nested hper =>
    cases h' with
    | nested =>
      exact series?_congr (List.map_inj_left.1 (Json.table_injective hv)) (hnone hper)
  | keyed =>
    cases h' with
    | keyed =>
      have hentries : ∀ m ∈ layout.metrics, r.entry m = r'.entry m := fun m hm =>
        congrArg Prod.snd (List.map_inj_left.1 (Json.object.inj hv) m hm)
      refine series?_congr (fun m hm => ?_) fun m hm => ?_
      · have hentry := hentries m (Layout.mem_metrics.2 (.inl hm))
        rw [entry, entry, if_pos hm, if_pos hm] at hentry
        exact Json.row_injective hentry
      · have hentry := hentries m (Layout.mem_metrics.2 (.inr hm))
        have hflat : m ∉ layout.flat := fun hflat => layout.disjoint m hflat hm
        rw [entry, entry, if_neg hflat, if_neg hflat] at hentry
        exact Json.table_injective hentry

/-! ### Reading what was rendered -/

/-- A finite recording is rendered, in a shape that fits and without loss, as a body and a newline,
and the body is read as a value that shows the recording. -/
theorem IsFinite.render_of_fits {r : Recording layout n} (h : r.IsFinite) {shape : Shape}
    (hfits : shape.Fits layout) {s : Serializer} (hs : Json.Lossless s.number) :
    ∃ body v, r.render shape s = .ok (body ++ "\n") ∧ Json.read body.toList = some v ∧
      r.Shown shape v := by
  obtain ⟨d, hd, hrepresents⟩ := r.ofRecording_of_fits hfits
  have hfinite : ∀ numbers ∈ d.rows, ∀ x ∈ numbers, x.isFinite = true := fun numbers hnumbers => by
    obtain ⟨key, rfl⟩ := hrepresents.rows numbers hnumbers
    exact h.numbers key
  exact ⟨s.text d, d.json, by rw [render, hd]; rfl,
    Document.read_text hs hfinite hrepresents.keys, hrepresents.shown⟩

/-- After requests with finite deltas a recording is finite: its cells hold some of these, and the
sentinel is finite as well. -/
theorem isFinite_after {qs : List Request} (h : ∀ q ∈ qs, q.delta.isFinite = true) :
    ((blank layout n).after qs).IsFinite := by
  intro row x hx
  rw [values, (filled_after qs row).cells] at hx
  rcases List.mem_append.1 hx with hx | hx
  · obtain ⟨q, hq, rfl⟩ := List.mem_map.1 hx
    exact h q ((accepted_sublist qs _).subset (List.mem_filter.1 hq).1)
  · rw [List.eq_of_mem_replicate hx]
    decide

/-- **What a recording is rendered as can be read back**, by whatever serializer that writes finite
numbers without loss, as `Serializer.compact` does (`Serializer.lossless_compact`).  Of the
recording after any requests with finite deltas,

* there is a text in a shape if and only if the layout fits in it, and in its natural shape it does;
* the text is one line without blanks, and is read as the value that stands for the recording
  (`Shown`);
* the metrics of a keyed document are those of the layout, in canonical order, and their keys are
  distinct;
* there is a number for each iteration, for a flat metric as for each core of the others, and these
  are the cells of the row;
* two recordings of one layout, whatever their numbers of iterations, that have one text in one
  shape have the same series, to the bit. -/
theorem read_render (s : Serializer) (hs : Json.Lossless s.number) (layout : Layout) (n : Nat)
    (qs : List Request) (hqs : ∀ q ∈ qs, q.delta.isFinite = true) (shape : Shape) :
    let r := (blank layout n).after qs
    ((∃ text, r.render shape s = .ok text) ↔ shape.Fits layout) ∧
    (Shape.natural layout).Fits layout ∧
    (∀ text, r.render shape s = .ok text → ∃ body v, text = body ++ "\n" ∧
      (∀ c ∈ body.toList, ' ' < c) ∧ Json.read body.toList = some v ∧ r.Shown shape v) ∧
    (layout.metrics.Sublist Metric.all ∧ (layout.metrics.map Metric.key).Nodup ∧
      ∀ m, m ∈ layout.metrics ↔ m ∈ layout.flat ∨ m ∈ layout.perCore) ∧
    ((∀ row, r.numbers (layout.rowKey row) = r.values row) ∧
      (∀ m ∈ layout.flat, (r.numbers (m, none)).length = n) ∧
      ∀ m ∈ layout.perCore, ∀ core < layout.cores, (r.numbers (m, some core)).length = n) ∧
    ∀ n' qs', (∀ q ∈ qs', q.delta.isFinite = true) → ∀ text, r.render shape s = .ok text →
      ((blank layout n').after qs').render shape s = .ok text →
        ∀ m, r.series? m = ((blank layout n').after qs').series? m := by
  intro r
  have hread : ∀ (n : Nat) (qs : List Request), (∀ q ∈ qs, q.delta.isFinite = true) → ∀ text,
      ((blank layout n).after qs).render shape s = .ok text → ∃ body v, text = body ++ "\n" ∧
        Json.read body.toList = some v ∧ ((blank layout n).after qs).Shown shape v := by
    intro n qs hqs text htext
    obtain ⟨body, v, hrender, hv, hshown⟩ :=
      (isFinite_after hqs).render_of_fits (fits_of_render htext) hs
    exact ⟨body, v, Except.ok.inj (htext.symm.trans hrender), hv, hshown⟩
  refine ⟨⟨fun ⟨text, htext⟩ => fits_of_render htext, fun hfits => ?_⟩, Shape.fits_natural layout,
    fun text htext => ?_, ⟨layout.metrics_sublist, ?_, fun m => Layout.mem_metrics⟩,
    ⟨r.numbers_rowKey, fun m hm => r.length_numbers (layout.mem_rowKeys_flat hm),
      fun m hm core hcore => r.length_numbers (layout.mem_rowKeys_perCore hm hcore)⟩,
    fun n' qs' hqs' text htext htext' => ?_⟩
  · exact r.exists_render_of_fits hfits s
  · obtain ⟨body, v, hbody, hv, hshown⟩ := hread n qs hqs text htext
    exact ⟨body, v, hbody, Json.read_compact hv, hv, hshown⟩
  · have hnodup : layout.metrics.Nodup := layout.metrics_sublist.nodup Metric.nodup_all
    exact List.pairwise_map.2 (hnodup.imp fun h e => h (Metric.key_injective e))
  -- Recordings with one text have one body, which is read as one value, and this tells the series.
  · obtain ⟨body, v, rfl, hv, hshown⟩ := hread n qs hqs text htext
    obtain ⟨body', v', hbody', hv', hshown'⟩ := hread n' qs' hqs' _ htext'
    obtain rfl : body = body' := (String.append_left_inj "\n").1 hbody'
    obtain rfl : v = v' := Option.some.inj (hv.symm.trans hv')
    exact hshown.series?_eq hshown'

/-- A recording that is half written: three halves and the sentinel. -/
theorem read_render_half_written :
    let qs : List Request := [⟨.wallclock, none, 0, ⟨0x3ff8000000000000⟩⟩]
    let r := (blank (.singleCore [.wallclock]) 2).after qs
    Json.Lossless Serializer.compact.number ∧ (∀ q ∈ qs, q.delta.isFinite = true) ∧
      r.render .flat = .ok "[1.5,-1.0]\n" ∧
      ∃ v, Json.read "[1.5,-1.0]".toList = some v ∧ r.Shown .flat v := by
  intro qs r
  have hqs : ∀ q ∈ qs, q.delta.isFinite = true := by decide
  have hrender : r.render .flat = .ok "[1.5,-1.0]\n" := by decide +kernel
  obtain ⟨-, -, hread, -⟩ :=
    read_render .compact Serializer.lossless_compact (.singleCore [.wallclock]) 2 qs hqs .flat
  obtain ⟨body, v, hbody, -, hv, hshown⟩ := hread _ hrender
  obtain rfl : body = "[1.5,-1.0]" := (String.append_left_inj "\n").1 hbody.symm
  exact ⟨Serializer.lossless_compact, hqs, hrender, v, hv, hshown⟩

end Recording

end Stopwatch
