import Mathlib.Tactic.Choose
import Stopwatch.Proofs.History

/-!
# Scripted snapshots in a run

A scripted snapshot backend gives out its script entry by entry: each first side that is marked goes
on to the next one, and the readings behind it are those of that entry.  In a run that begins at
some entry, iteration `i` reads the entry `i` behind it, as long as the clock has one
(`SnapshotReplay.conduct`, `SnapshotReplay.follows_conduct`).
-/

namespace Stopwatch

variable {ρ : Type}

/-- What marking a side of an entry is answered with. -/
def SnapshotScript.marked (script : SnapshotScript) (i : Nat) : Slot → Except BackendError Unit
  | .before => if i < script.wallclock.length then .ok () else .error (.exhausted i)
  | .after => .ok ()

/-- If the clock has entry `i`, the script holds a value of it for every metric and core. -/
theorem SnapshotScript.exists_value {script : SnapshotScript} {i : Nat}
    (hi : i < script.wallclock.length) (slot : Slot) (core : Nat) (m : Metric) :
    ∃ r, script.value? i slot core m = some r := by
  cases m with
  | wallclock => exact ⟨_, by rw [value?, List.getElem?_eq_getElem hi]; rfl⟩
  | _ => exact ⟨_, rfl⟩

namespace SnapshotReplay

variable {script : SnapshotScript} {entry : Nat}

/-- What a script does from a given entry on.  It has no more entries than its clock has. -/
def conduct (script : SnapshotScript) (entry : Nat) : Conduct (SnapshotReplay × ρ) where
  fresh w := w.1.script = script ∧ w.1.upcoming = entry
  ready i w := w.1.script = script ∧ w.1.initialised = true ∧ w.1.upcoming = entry + i
  half i w := w.1.script = script ∧ w.1.initialised = true ∧ w.1.upcoming = entry + i + 1
  full i w := w.1.script = script ∧ w.1.initialised = true ∧ w.1.upcoming = entry + i + 1
  begun _ := True
  side i slot t := t.mark = script.marked (entry + i) slot
  reading i slot key a := entry + i < script.wallclock.length →
    InRange script.cores (key.2.getD 0) key.1 →
      ∃ r, a = .ok r ∧ script.value? (entry + i) slot (key.2.getD 0) key.1 = some r
  ended a := a = .ok ()

/-- Once begun, a script answers a first side as `marked` says, and if it accepts it goes on by one
entry. -/
theorem mark_before {t : SnapshotReplay} (hinit : t.initialised = true) :
    (mark .before t).1 = t.script.marked t.upcoming .before ∧
      ((mark .before t).1 = .ok () → (mark .before t).2.script = t.script ∧
        (mark .before t).2.initialised = true ∧ (mark .before t).2.upcoming = t.upcoming + 1) := by
  have hmark := mark_of_initialised hinit .before
  dsimp only at hmark
  rw [SnapshotScript.marked]
  rcases Nat.lt_or_ge t.upcoming t.script.wallclock.length with hlt | hle
  · rw [hmark, dif_pos hlt, if_pos hlt]
    exact ⟨rfl, fun _ => ⟨rfl, hinit, rfl⟩⟩
  · rw [hmark, dif_neg (Nat.not_lt.2 hle), if_neg (Nat.not_lt.2 hle)]
    refine ⟨rfl, fun hok => ?_⟩
    cases hok

/-- If `init` succeeds, the script does not refuse it, and only `initialised` changes. -/
theorem init_eq_ok {t : SnapshotReplay} {u : Unit} (h : (init t).1 = .ok u) :
    t.script.refusesInit = false ∧ (init t).2 = { t with initialised := true } := by
  unfold init at h ⊢
  cases hrefuses : t.script.refusesInit with
  | true => simp [hrefuses] at h
  | false => exact ⟨rfl, rfl⟩

/-- **A script in a run** reads out its entries one after the other. -/
theorem follows_conduct (script : SnapshotScript) (entry : Nat) (config : Config)
    (benchmark : Int32 → StateM ρ Unit) (notify : Progress → StateM ρ Unit) :
    (inUse.session config benchmark notify).Follows (conduct script entry) where
  begun _ _ := trivial
  runStart := by
    rintro ⟨t, r⟩ layout ⟨rfl, rfl⟩ hbegun
    obtain ⟨⟨u, hu⟩, -, hleft⟩ := Snapshot.Keeps.init_eq_ok hbegun
    obtain ⟨-, hinit⟩ := init_eq_ok (t := t) hu
    have hstate : ((Backend.snapshot inUse).init (t, r)).2 = ((init t).2, r) := hleft
    rw [hinit] at hstate
    show (conduct _ _).ready 0 (((Backend.snapshot inUse).init (t, r)).2.1, _)
    rw [hstate]
    exact ⟨rfl, rfl, rfl⟩
  iterationStart _ _ _ hw := hw
  before i hi f := by
    refine tells_mark_snapshot_of (A := (· = script.marked (entry + i) .before)) ?_ f
    rintro ⟨t, r⟩ ⟨rfl, hinit, hupcoming⟩
    obtain ⟨hanswer, hgoes⟩ := mark_before hinit
    rw [inUse_mark, ← hupcoming]
    refine ⟨hanswer, fun hok => ?_⟩
    obtain ⟨hscript, hbegun, hnext⟩ := hgoes hok
    exact ⟨hscript, hbegun, hupcoming ▸ hnext⟩
  benchmark _ _ _ hw := hw
  after i hi f := by
    refine tells_mark_snapshot_of (A := (· = script.marked (entry + i) .after)) ?_ f
    rintro ⟨t, r⟩ ⟨rfl, hinit, hupcoming⟩
    rw [inUse_mark, mark_of_initialised hinit]
    exact ⟨rfl, fun _ => ⟨rfl, hinit, hupcoming⟩⟩
  handsOut i hi := by
    rintro slot key ⟨t, r⟩ ⟨rfl, hinit, hupcoming⟩
    refine ⟨fun _ hrange => ?_, rfl, hinit, hupcoming⟩
    -- The iteration at hand is the one whose first side was marked last.
    obtain ⟨j, hcurrent, hj⟩ := exists_current hupcoming
    have hlook := look_of_current hcurrent slot (key.2.getD 0) key.1
    rw [hj] at hlook
    split at hlook
    next => exact hlook
    next hrange' => exact absurd hrange hrange'
  iterationEnd _ _ _ hw := hw
  ended _ := rfl
  -- A turn that the conduct allows has to exist also behind the end of the script.
  allows i hi := by
    have hanswer : ∀ slot (key : RowKey), ∃ a : Except BackendError Reading,
        (conduct script entry : Conduct (SnapshotReplay × ρ)).reading i slot key a := by
      intro slot key
      rcases Nat.lt_or_ge (entry + i) script.wallclock.length with hlt | hle
      · obtain ⟨r, hr⟩ := SnapshotScript.exists_value hlt slot (key.2.getD 0) key.1
        exact ⟨.ok r, fun _ _ => ⟨r, rfl, hr⟩⟩
      · exact ⟨.ok (.count 0), fun hlt => absurd hlt (Nat.not_lt.2 hle)⟩
    choose reading hreading using hanswer
    refine ⟨⟨{ Side.idle with mark := script.marked (entry + i) .before },
      { Side.idle with mark := script.marked (entry + i) .after }, reading⟩, ?_, hreading⟩
    intro slot
    cases slot <;> rfl

/-- If the clock has entry `entry + i`, no call of an allowed turn `i` fails. -/
theorem calls_of_allows {i : Nat} {t : Turn}
    (ht : (conduct script entry : Conduct (SnapshotReplay × ρ)).Allows i t)
    (hlt : entry + i < script.wallclock.length) (slot : Slot) :
    ∀ e ∈ (t.side slot).calls .snapshot slot, e.failure = none := by
  have hmark : (t.side slot).mark = .ok () := by
    refine (ht.side slot).trans ?_
    cases slot with
    | before => exact if_pos hlt
    | after => rfl
  intro e he
  have hevent : e = .mark slot (.ok ()) := by
    rw [← hmark]
    cases slot <;> exact List.mem_singleton.1 he
  rw [hevent]
  rfl

end SnapshotReplay

end Stopwatch
