import Stopwatch.Proofs.Misuse

/-!
# The history of a script

A scripted snapshot backend stands in for a real one, so it may be used in any order: begun again,
marked before it was begun, read after it was shut down.  What it answers depends on what it was
asked before and on how that went, which is its `History`.

Two things are to be known of a history, whether it leaves the backend begun (`History.Begun`) and
how often a first side was marked in it (`History.firstMarks`).  The second is the iteration that
comes next, whatever was begun or shut down in between.  A use keeps both in step with the state
(`SnapshotReplay.Stands.serve`), so any number of uses does (`SnapshotReplay.Stands.serveAll`).

Marks are refused unless the backend is begun.  Readings are not: once a first side was marked they
are handed out for good (`SnapshotReplay.answers_by_history`), and a reading after the end gets an
answer (`SnapshotReplay.reading_behind_shutdown`).
-/

namespace Stopwatch

/-! ### Histories -/

/-- The uses of a snapshot backend so far, each with its reply. -/
abbrev History := List (Use × Reply)

/-- The history of the given uses. -/
def Snapshot.history {σ : Type} (s : Snapshot (StateM σ)) (us : List Use) (w : σ) : History :=
  us.zip (s.serveAll us w).1

namespace History

variable {h more : History} {x : Use × Reply}

/-- The backend was begun, and has not been shut down since. -/
def Begun (h : History) : Prop :=
  ∃ earlier later, h = earlier ++ (.init, .verb (.ok ())) :: later ∧ ∀ x ∈ later, x.1 ≠ .shutdown

/-- Whether a first side was marked. -/
def isFirstMark : Use × Reply → Bool
  | (.mark .before, .verb (.ok ())) => true
  | _ => false

/-- How many of the uses marked a first side. -/
def firstMarks (h : History) : Nat := h.countP isFirstMark

theorem firstMarks_append (h more : History) :
    firstMarks (h ++ more) = h.firstMarks + more.firstMarks :=
  List.countP_append

theorem firstMarks_singleton (x : Use × Reply) :
    firstMarks [x] = if isFirstMark x then 1 else 0 :=
  List.countP_singleton

theorem not_begun_nil : ¬ Begun [] := by
  rintro ⟨earlier, later, h, -⟩
  simp at h

/-- Behind one more use `x` the backend is begun if and only if `x` is a beginning that went well,
or it was begun before and `x` is no end. -/
theorem begun_concat : Begun (h ++ [x]) ↔
    x = (.init, .verb (.ok ())) ∨ x.1 ≠ .shutdown ∧ h.Begun := by
  constructor
  · rintro ⟨earlier, later, heq, hlater⟩
    rcases List.eq_nil_or_concat later with rfl | ⟨front, last, rfl⟩
    · exact .inl (List.append_inj_right' heq rfl |> List.singleton_inj.1)
    -- What comes last came after the beginning.
    · rw [List.concat_eq_append, ← List.cons_append, ← List.append_assoc] at heq
      obtain ⟨rfl, hlast⟩ := List.append_inj' heq rfl
      obtain rfl := List.singleton_inj.1 hlast
      refine .inr ⟨hlater x (by simp), earlier, front, rfl, fun y hy => hlater y (by simp [hy])⟩
  · rintro (rfl | ⟨hx, earlier, later, rfl, hlater⟩)
    · exact ⟨h, [], rfl, by simp⟩
    · refine ⟨earlier, later ++ [x], by simp, fun y hy => ?_⟩
      rcases List.mem_append.1 hy with hy | hy
      · exact hlater y hy
      · exact List.mem_singleton.1 hy ▸ hx

end History

/-! ### A script and its history -/

/-- What a script holds for a side of an iteration: a value of the clock, if there is one, or a
number of a counter, zero if the script does not mention it. -/
def SnapshotScript.value? (script : SnapshotScript) (i : Nat) (slot : Slot) (core : Nat) :
    Metric → Option Reading
  | .wallclock => script.wallclock[i]?.map fun pair => .seconds (slot.pick pair)
  | m => some (.count (((script.counter m)[i]?.bind (·[core]?)).elim 0 slot.pick))

namespace SnapshotReplay

variable {script : SnapshotScript} {h : History} {t : SnapshotReplay}

/-- The state `t` is that of a `script` with the history `h`. -/
structure Stands (script : SnapshotScript) (h : History) (t : SnapshotReplay) : Prop where
  script : t.script = script
  upcoming : t.upcoming = h.firstMarks
  initialised : t.initialised = true ↔ h.Begun

theorem stands_fresh (script : SnapshotScript) : Stands script [] { script } :=
  ⟨rfl, rfl, fun h => absurd h Bool.false_ne_true, fun h => absurd h History.not_begun_nil⟩

theorem Stands.not_initialised (hs : Stands script h t) (hbegun : ¬ h.Begun) :
    t.initialised = false :=
  Bool.eq_false_iff.2 fun hinit => hbegun (hs.initialised.1 hinit)

/-- Unless the script is begun, a mark is refused and changes nothing. -/
theorem mark_of_not_initialised (hinit : t.initialised = false) (slot : Slot) :
    mark slot t = (.error .notInitialised, t) := by
  unfold mark
  rw [hinit]
  rfl

/-- The next iteration is at most the number of entries of the clock. -/
theorem upcoming_le (t : SnapshotReplay) : t.upcoming ≤ t.script.wallclock.length := by
  unfold upcoming
  cases t.current with
  | none => exact Nat.zero_le _
  | some i => exact i.isLt

/-- `Stands` is kept by a use that leaves the iteration, marks no first side, and changes
`initialised` as it changes `History.Begun`. -/
theorem Stands.concat (hs : Stands script h t) {t' : SnapshotReplay} {x : Use × Reply}
    (hscript : t'.script = t.script) (hupcoming : t'.upcoming = t.upcoming)
    (hmark : History.isFirstMark x = false)
    (hinit : t'.initialised = true ↔ (x = (.init, .verb (.ok ())) ∨
      x.1 ≠ .shutdown ∧ t.initialised = true)) : Stands script (h ++ [x]) t' := by
  refine ⟨hscript.trans hs.script, ?_, ?_⟩
  · rw [hupcoming, hs.upcoming, History.firstMarks_append, History.firstMarks_singleton, hmark]
    rfl
  · rw [hinit, hs.initialised, History.begun_concat]

/-- **A use keeps a script in step with its history**: `serve u` leads from `Stands` behind `h` to
`Stands` behind `h` and the use with its reply. -/
theorem Stands.serve (hs : Stands script h t) (u : Use) :
    Stands script (h ++ [(u, (snapshot.serve u t).1)]) (snapshot.serve u t).2 := by
  cases u with
  | init =>
    have hserve : snapshot.serve .init t = (.verb (init t).1, (init t).2) := rfl
    rw [hserve, init]
    split
    · exact hs.concat rfl rfl rfl (by simp)
    · exact hs.concat rfl rfl rfl (by simp)
  | cores =>
    have hsame : (snapshot.serve .cores t).2 = t := rfl
    exact hs.concat rfl rfl rfl (by simp [hsame])
  | mark slot =>
    have hserve : snapshot.serve (.mark slot) t = (.verb (mark slot t).1, (mark slot t).2) := rfl
    rw [hserve]
    by_cases hbegun : h.Begun
    · rw [mark_of_initialised (hs.initialised.2 hbegun)]
      cases slot with
      | after => exact hs.concat rfl rfl rfl (by simp)
      | before =>
        dsimp only
        split
        -- This is the one use that moves on.
        · refine ⟨hs.script, ?_, ?_⟩
          · rw [History.firstMarks_append, ← hs.upcoming]
            rfl
          · rw [History.begun_concat]
            simp [hbegun, hs.initialised]
        · exact hs.concat rfl rfl rfl (by simp)
    · rw [mark_of_not_initialised (hs.not_initialised hbegun)]
      cases slot <;> exact hs.concat rfl rfl rfl (by simp)
  | reading slot core m =>
    have hsame : (snapshot.serve (.reading slot core m) t).2 = t := rfl
    exact hs.concat rfl rfl rfl (by simp [hsame])
  | shutdown =>
    have hended : (snapshot.serve .shutdown t).2.initialised = false := rfl
    exact hs.concat rfl rfl rfl (by simp [hended])

/-- **Any uses keep a script in step with its history**: `serveAll us` leads from `Stands` behind
`h` to `Stands` behind `h ++ snapshot.history us t`. -/
theorem Stands.serveAll (hs : Stands script h t) (us : List Use) :
    Stands script (h ++ snapshot.history us t) (snapshot.serveAll us t).2 := by
  induction us generalizing h t with
  | nil =>
    rw [Snapshot.history, List.zip_nil_left, List.append_nil]
    exact hs
  | cons u us ih =>
    have hrest := ih (hs.serve u)
    rw [List.append_assoc] at hrest
    exact hrest

/-- If the next iteration is the first one, none is at hand. -/
theorem current_eq_none (hupcoming : t.upcoming = 0) : t.current = none := by
  unfold SnapshotReplay.upcoming at hupcoming
  cases hcurrent : t.current with
  | none => rfl
  | some i => simp [hcurrent] at hupcoming

/-- If the next iteration is `n + 1`, iteration `n` is at hand. -/
theorem exists_current {n : Nat} (hupcoming : t.upcoming = n + 1) :
    ∃ i, t.current = some i ∧ i.val = n := by
  unfold SnapshotReplay.upcoming at hupcoming
  cases hcurrent : t.current with
  | none => simp [hcurrent] at hupcoming
  | some i => exact ⟨i, rfl, by simpa [hcurrent] using hupcoming⟩

/-- **What is read of the iteration at hand** stands in the script, unless it is a counter of a core
that there is not. -/
theorem look_of_current {i : Fin t.script.wallclock.length} (hcurrent : t.current = some i)
    (slot : Slot) (core : Nat) (m : Metric) :
    if m = .wallclock ∨ core < t.script.cores then
      ∃ r, t.look slot core m = .ok r ∧ t.script.value? i slot core m = some r
    else t.look slot core m = .error (.coreOutOfRange core t.script.cores) := by
  unfold look
  rw [hcurrent]
  by_cases hclock : m = .wallclock
  · subst hclock
    have hentry : t.script.wallclock[i.val]? = some (t.script.wallclock.get i) :=
      List.getElem?_eq_getElem i.isLt
    rw [if_pos (.inl rfl)]
    exact ⟨_, rfl, by rw [SnapshotScript.value?, hentry]; rfl⟩
  · by_cases hcore : core < t.script.cores
    · rw [if_pos (.inr hcore)]
      -- A number that the script does not mention is zero on both sides.
      have hpick : slot.pick (t.pair i core m) =
          ((t.script.counter m)[i.val]?.bind (·[core]?)).elim 0 slot.pick := by
        unfold pair
        cases (t.script.counter m)[i.val]?.bind (·[core]?) <;> cases slot <;> rfl
      refine ⟨.count (slot.pick (t.pair i core m)), ?_, ?_⟩
      · simp [hclock, hcore]
      · rw [hpick]
        cases m with
        | wallclock => exact absurd rfl hclock
        | _ => rfl
    · rw [if_neg (not_or.2 ⟨hclock, hcore⟩)]
      simp [hclock, Nat.not_lt.1 hcore]

/-- A reading that is handed out is what the script holds for the iteration at hand. -/
theorem value?_of_look {i : Fin t.script.wallclock.length} (hcurrent : t.current = some i)
    {slot : Slot} {core : Nat} {m : Metric} {r : Reading} (h : t.look slot core m = .ok r) :
    t.script.value? i slot core m = some r := by
  have hlook := look_of_current hcurrent slot core m
  split at hlook
  next =>
    obtain ⟨r', hr', hvalue⟩ := hlook
    rw [h] at hr'
    rw [hvalue, Except.ok.inj hr']
  next => rw [h] at hlook; cases hlook

/-- **What a script answers is settled by its history.**  After any uses of a fresh one,

* a side is marked only if the script was begun and has not been shut down since, and else the mark
  is refused as coming at the wrong time, and nothing is changed;
* a reading is refused so if and only if no first side was ever marked;
* if one was, a reading is handed out for the iteration marked last, whether the script is still
  begun or not: what the script holds for it, unless it is a counter of a core that there is not. -/
theorem answers_by_history (script : SnapshotScript) (us : List Use) :
    let h := snapshot.history us { script }
    let t := (snapshot.serveAll us { script }).2
    (∀ slot, (snapshot.mark slot t).1 = .ok () → h.Begun) ∧
    (¬ h.Begun → ∀ slot, snapshot.mark slot t = (.error .notInitialised, t)) ∧
    (∀ slot core m, (snapshot.reading slot core m t).1 = .error .notInitialised ↔
      h.firstMarks = 0) ∧
    (0 < h.firstMarks → ∀ slot core m, if m = .wallclock ∨ core < script.cores then
      ∃ r, snapshot.reading slot core m t = (.ok r, t) ∧
        script.value? (h.firstMarks - 1) slot core m = some r
      else snapshot.reading slot core m t = (.error (.coreOutOfRange core script.cores), t)) := by
  intro h t
  have hs : Stands script h t := (stands_fresh script).serveAll us
  have hrefused : ¬ h.Begun → ∀ slot, snapshot.mark slot t = (.error .notInitialised, t) :=
    fun hbegun slot => mark_of_not_initialised (hs.not_initialised hbegun) slot
  have hreading : ∀ slot core m, snapshot.reading slot core m t = (t.look slot core m, t) :=
    fun _ _ _ => rfl
  have hmarked : 0 < h.firstMarks → ∀ slot core m, if m = .wallclock ∨ core < script.cores then
      ∃ r, snapshot.reading slot core m t = (.ok r, t) ∧
        script.value? (h.firstMarks - 1) slot core m = some r
      else snapshot.reading slot core m t = (.error (.coreOutOfRange core script.cores), t) := by
    intro hpos slot core m
    have hupcoming : t.upcoming = h.firstMarks - 1 + 1 := by
      rw [hs.upcoming, Nat.sub_add_cancel hpos]
    obtain ⟨i, hcurrent, hi⟩ := exists_current hupcoming
    have hlook := look_of_current hcurrent slot core m
    rw [hi, hs.script] at hlook
    rw [hreading]
    split at hlook
    next hrow =>
      obtain ⟨r, hr, hvalue⟩ := hlook
      rw [if_pos hrow, hr]
      exact ⟨r, rfl, hvalue⟩
    next hrow => rw [if_neg hrow, hlook]
  refine ⟨fun slot hok => ?_, hrefused, fun slot core m => ⟨fun herror => ?_, fun hnone => ?_⟩,
    hmarked⟩
  · by_contra hbegun
    rw [hrefused hbegun] at hok
    cases hok
  · -- Once a first side was marked, there is another reply to every reading.
    by_contra hpos
    have hreply := hmarked (Nat.pos_of_ne_zero hpos) slot core m
    split at hreply
    next =>
      obtain ⟨r, hr, -⟩ := hreply
      rw [hr] at herror
      cases herror
    next =>
      rw [hreply] at herror
      cases herror
  · rw [hreading, look, current_eq_none (hs.upcoming.trans hnone)]

/-- A script of one core and one iteration of the clock. -/
def briefScript : SnapshotScript := { cores := 1, wallclock := [(.ofNat 0, .ofNat 1)] }

/-- **A reading is handed out behind the end**, where a mark is refused. -/
theorem reading_behind_shutdown :
    let us := [.init, .mark .before, .mark .after, .shutdown]
    let t := (snapshot.serveAll us { script := briefScript }).2
    ¬ (snapshot.history us { script := briefScript }).Begun ∧
      (snapshot.mark .after t).1 = .error .notInitialised ∧
      (snapshot.reading .after 0 .wallclock t).1 = .ok (.seconds (.ofNat 1)) := by
  intro us t
  have hs : Stands briefScript (snapshot.history us { script := briefScript }) t :=
    (stands_fresh briefScript).serveAll us
  exact ⟨fun hbegun => Bool.false_ne_true (hs.initialised.2 hbegun), rfl, rfl⟩

end SnapshotReplay

end Stopwatch
