import Mathlib.Data.List.Find
import Mathlib.Data.List.Nodup
import Stopwatch.Benchmark.CustomName

/-!
# Finding a benchmark by its name

A registered benchmark answers to two texts, its name and its name in full.  Where names are plain,
that is, hold no colon, the two cannot be mixed up: a plain text is only ever a name, and any other
text only ever a name in full.  A name in full is taken apart in one way, at its last two colons,
however the paths of modules are nested (`eq_of_append_colons`).

So a name in full leads to the benchmark of that very module (`Entry.eq_of_fullName`), and as long
as no module registers a name twice it does not matter in which order the benchmarks were
registered.  `Entry.find?_by_name` says all of this of a registry.
-/

namespace Stopwatch

/-! ### Names and paths -/

/-- A text without a colon. -/
def PlainName (text : String) : Prop := ':' ∉ text.toList

instance (text : String) : Decidable (PlainName text) :=
  inferInstanceAs (Decidable (':' ∉ text.toList))

/-- What reaches behind two colons up to two others ends in a colon. -/
theorem mem_of_append_colons {path path' excess : List Char} (hne : excess ≠ [])
    (h : path' ++ [':', ':'] = path ++ [':', ':'] ++ excess) : ':' ∈ excess := by
  have hlast : excess.getLast? = some ':' := by
    have hboth := congrArg List.getLast? h
    rw [List.getLast?_append, List.getLast?_append, List.getLast?_eq_some_getLast hne] at hboth
    rw [List.getLast?_eq_some_getLast hne]
    exact hboth.symm
  exact List.mem_of_getLast? hlast

/-- What stands in front of the last two colons, and what stands behind them, is seen from the
whole. -/
theorem eq_of_append_colons {path path' name name' : List Char} (hname : ':' ∉ name)
    (hname' : ':' ∉ name') (h : path ++ [':', ':'] ++ name = path' ++ [':', ':'] ++ name') :
    path = path' ∧ name = name' := by
  -- If one of the paths were longer, it would end among the characters of the other name.
  rcases List.append_eq_append_iff.1 h with ⟨excess, hpath, hexcess⟩ | ⟨excess, hpath, hexcess⟩
  · have hnil : excess = [] := by
      by_contra hne
      exact hname (hexcess ▸ List.mem_append_left _ (mem_of_append_colons hne hpath))
    subst hnil
    simp only [List.append_nil, List.append_left_inj, List.nil_append] at hpath hexcess
    exact ⟨hpath.symm, hexcess⟩
  · have hnil : excess = [] := by
      by_contra hne
      exact hname' (hexcess ▸ List.mem_append_left _ (mem_of_append_colons hne hpath))
    subst hnil
    simp only [List.append_nil, List.append_left_inj, List.nil_append] at hpath hexcess
    exact ⟨hpath, hexcess.symm⟩

namespace Entry

variable {m : Type → Type} {entries : List (Entry m)} {e e' : Entry m} {text : String}

/-- The name with the path of the module before it. -/
def fullName (e : Entry m) : String := e.modulePath ++ "::" ++ e.name

theorem toList_fullName (e : Entry m) :
    e.fullName.toList = e.modulePath.toList ++ [':', ':'] ++ e.name.toList := by
  rw [fullName, String.toList_append, String.toList_append]
  rfl

/-- Names in full are the same if the modules and the names are. -/
theorem eq_of_fullName {path name : String} (he : PlainName e.name) (hname : PlainName name)
    (h : e.fullName = path ++ "::" ++ name) : e.modulePath = path ∧ e.name = name := by
  have hlists : e.modulePath.toList ++ [':', ':'] ++ e.name.toList =
      path.toList ++ [':', ':'] ++ name.toList := by
    rw [← toList_fullName, h, String.toList_append, String.toList_append]
    rfl
  obtain ⟨hpath, hname⟩ := eq_of_append_colons he hname hlists
  exact ⟨String.toList_inj.1 hpath, String.toList_inj.1 hname⟩

theorem not_plainName_fullName (e : Entry m) : ¬ PlainName e.fullName := by
  intro h
  rw [PlainName, toList_fullName] at h
  simp at h

/-! ### Texts that mean a benchmark -/

/-- What `Entry.answersTo` strips from the left, the path and two colons, and what has to be left
then, the name, are `Entry.fullName`. -/
theorem answersTo_iff : e.answersTo text = true ↔ e.name = text ∨ e.fullName = text := by
  rw [answersTo, Bool.or_eq_true, beq_iff_eq, beq_iff_eq, ← @String.toList_inj e.fullName,
    toList_fullName, Option.bind_eq_some_iff]
  refine or_congr_right ⟨?_, fun hfull => ?_⟩
  · rintro ⟨rest, hpath, hcolons⟩
    rw [behind?_eq_some_iff.1 hpath, behind?_eq_some_iff.1 hcolons, List.append_assoc]
    rfl
  · refine ⟨[':', ':'] ++ e.name.toList, ?_, ?_⟩ <;> rw [behind?_eq_some_iff]
    · rw [← hfull, List.append_assoc]
    · rfl

/-- A plain text is a name. -/
theorem name_eq_of_answersTo (htext : PlainName text) (h : e.answersTo text = true) :
    e.name = text := by
  rcases answersTo_iff.1 h with hname | hfull
  · exact hname
  · exact absurd (hfull ▸ htext) e.not_plainName_fullName

/-- A text with a colon is a name in full. -/
theorem fullName_eq_of_answersTo (he : PlainName e.name) (htext : ¬ PlainName text)
    (h : e.answersTo text = true) : e.fullName = text := by
  rcases answersTo_iff.1 h with hname | hfull
  · exact absurd (hname ▸ he) htext
  · exact hfull

/-- Two benchmarks that answer to one text with a colon have the same module and the same name. -/
theorem key_eq_of_answersTo (he : PlainName e.name) (he' : PlainName e'.name)
    (htext : ¬ PlainName text) (h : e.answersTo text = true) (h' : e'.answersTo text = true) :
    (e.modulePath, e.name) = (e'.modulePath, e'.name) := by
  have hfull : e.fullName = e'.modulePath ++ "::" ++ e'.name := by
    rw [fullName_eq_of_answersTo he htext h, ← fullName_eq_of_answersTo he' htext h']
    rfl
  obtain ⟨hpath, hname⟩ := eq_of_fullName he he' hfull
  rw [hpath, hname]

/-! ### Looking up -/

/-- What is found is registered, and answers to the text. -/
theorem find?_eq_some (h : find? entries text = some e) :
    e ∈ entries ∧ e.answersTo text = true :=
  ⟨List.mem_of_find?_eq_some h, by simpa using List.find?_some h⟩

/-- A text means a benchmark if one of the registry answers to it. -/
theorem isSome_find? : (find? entries text).isSome ↔
    ∃ e ∈ entries, e.name = text ∨ e.fullName = text := by
  simp only [find?, List.find?_isSome, answersTo_iff]

/-- **The order of the registry does not matter** for a text with a colon, if no module registers a
name twice. -/
theorem find?_perm {entries' : List (Entry m)} (hplain : ∀ e ∈ entries, PlainName e.name)
    (hkeys : (entries.map fun e => (e.modulePath, e.name)).Nodup) (hperm : entries'.Perm entries)
    (htext : ¬ PlainName text) : find? entries' text = find? entries text := by
  refine List.find?_eq_find?_of_perm hperm ?_
  rintro e ⟨he, hanswers⟩ e' ⟨he', hanswers'⟩
  have hmem := hperm.mem_iff.1 he
  have hmem' := hperm.mem_iff.1 he'
  -- One text, one key; and one key, one benchmark.
  exact List.inj_on_of_nodup_map hkeys hmem hmem'
    (key_eq_of_answersTo (hplain e hmem) (hplain e' hmem') htext hanswers hanswers')

/-- The names are listed in the order of texts. -/
theorem pairwise_names (entries : List (Entry m)) : (names entries).Pairwise (· ≤ ·) := by
  have hsorted : ((entries.map (·.name)).mergeSort fun a b => decide (a ≤ b)).Pairwise
      fun a b => decide (a ≤ b) = true :=
    List.pairwise_mergeSort (by simpa using fun _ _ _ => String.le_trans)
      (by simpa using String.le_total) _
  simpa [names] using hsorted

/-- **Benchmarks are found by their names**, if these are plain.

* A text means a benchmark if and only if it is the name of one, or the name in full.
* A text without a colon leads to a benchmark of that name.
* A name in full leads to the benchmark of that name in that module.
* If no module registers a name twice, it leads there in whatever order they were registered.
* The list of names is sorted and holds each name as often as it was registered, and every name in
  it leads to a benchmark of that name. -/
theorem find?_by_name (entries : List (Entry m)) (hplain : ∀ e ∈ entries, PlainName e.name) :
    (∀ text, (find? entries text).isSome ↔
      ∃ e ∈ entries, e.name = text ∨ e.modulePath ++ "::" ++ e.name = text) ∧
    (∀ text e, PlainName text → find? entries text = some e → e ∈ entries ∧ e.name = text) ∧
    (∀ path name e, PlainName name → find? entries (path ++ "::" ++ name) = some e →
      e ∈ entries ∧ e.modulePath = path ∧ e.name = name) ∧
    ((entries.map fun e => (e.modulePath, e.name)).Nodup → ∀ entries', entries'.Perm entries →
      ∀ text, ¬ PlainName text → find? entries' text = find? entries text) ∧
    (names entries).Perm (entries.map (·.name)) ∧ (names entries).Pairwise (· ≤ ·) ∧
    ∀ name ∈ names entries, ∃ e ∈ entries, find? entries name = some e ∧ e.name = name := by
  have hfound : ∀ text e, PlainName text → find? entries text = some e →
      e ∈ entries ∧ e.name = text := by
    intro text e htext h
    obtain ⟨hmem, hanswers⟩ := find?_eq_some h
    exact ⟨hmem, name_eq_of_answersTo htext hanswers⟩
  have hperm : (names entries).Perm (entries.map (·.name)) := List.mergeSort_perm _ _
  refine ⟨fun text => isSome_find?, hfound, ?_, ?_, hperm, pairwise_names entries, ?_⟩
  · intro path name e hname h
    obtain ⟨hmem, hanswers⟩ := find?_eq_some h
    have hcolons : ¬ PlainName (path ++ "::" ++ name) := by
      simp [PlainName]
    have hfull := fullName_eq_of_answersTo (hplain e hmem) hcolons hanswers
    exact ⟨hmem, eq_of_fullName (hplain e hmem) hname hfull⟩
  · intro hkeys entries' hperm text htext
    exact find?_perm hplain hkeys hperm htext
  · intro name hname
    obtain ⟨e, he, rfl⟩ := List.mem_map.1 (hperm.mem_iff.1 hname)
    obtain ⟨e', he'⟩ := Option.isSome_iff_exists.1 (isSome_find?.2 ⟨e, he, .inl rfl⟩)
    obtain ⟨hmem, hsame⟩ := hfound e.name e' (hplain e he) he'
    exact ⟨e', hmem, he', hsame⟩

/-- Three benchmarks of one name, in a module, in a module inside it, and in one inside that. -/
def nested : List (Entry Id) :=
  [⟨"run", "bench", fun _ => pure ()⟩, ⟨"run", "bench::run", fun _ => pure ()⟩,
    ⟨"run", "bench::run::run", fun _ => pure ()⟩]

theorem find?_by_name_nested : (∀ e ∈ nested, PlainName e.name) ∧
    ∃ e, find? nested "bench::run::run" = some e ∧ e.modulePath = "bench::run" := by
  have hplain : ∀ e ∈ nested, PlainName e.name := by decide
  obtain ⟨hsome, -, hfull, -⟩ := find?_by_name nested hplain
  have hfound : (find? nested "bench::run::run").isSome :=
    (hsome "bench::run::run").2 ⟨_, List.mem_cons_of_mem _ List.mem_cons_self, .inr rfl⟩
  obtain ⟨e, he⟩ := Option.isSome_iff_exists.1 hfound
  obtain ⟨-, hpath, -⟩ := hfull "bench::run" "run" e (by decide) he
  exact ⟨hplain, e, he, hpath⟩

end Entry

end Stopwatch
