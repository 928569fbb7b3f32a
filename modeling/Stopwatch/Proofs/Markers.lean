import Stopwatch.Proofs.Completed
import Stopwatch.Proofs.Unwinding

/-!
# Marker lines on a sink that fails

A reporter of marker lines writes one line for each iteration that is reported done, and nothing
else (`heard_markers`).  Here it writes to a sink of limited appetite (`Channels.Limited`), which
takes so many octets in all, in whatever portions, and may refuse to be flushed.

A line is written in pieces, and the sink can fail within any of them.  What it has taken by then is
the front of the line, as far as there was room for it (`Channels.Limited.writeAll`, by induction on
what is left to write, and `Channels.Limited.mark`), and there is one warning if that was not the
whole line, or if the flush was refused (`Channels.Limited.markOrWarn`).  `Channels.Limited.markAll`
is the induction on the iterations: what was taken of all lines is the front of all of them.

`Session.marker_lines` says what follows for a run, by what is known of how far a run gets
(`Session.endsOf_eventsFrom`) and of its reporters (`Session.run_reported`).  The sinks of a stage
are such sinks (`Stage.limited_channels`).
-/

namespace Stopwatch

variable {σ τ : Type}

/-- The marker line of an iteration. -/
def markerLine (i : Nat) : List UInt8 := octets ("@@@ END_IN_PROC_ITER: " ++ toString i ++ "\n")

/-- The marker lines of the first `k` iterations. -/
def markerLines (k : Nat) : List UInt8 := (List.range k).flatMap markerLine

theorem markerLine_eq (i : Nat) : markerLine i = (Reporter.markerPieces i).flatMap octets := by
  rw [markerLine, Reporter.markerPieces, ← octets_join]
  simp [String.join_cons, String.append_assoc]

theorem markerLine_length_pos (i : Nat) : 0 < (markerLine i).length := by
  have hend : (octets "\n").length = 1 := by decide
  rw [markerLine, octets_append, List.length_append, hend]
  exact Nat.succ_pos _

theorem markerLines_succ (k : Nat) : markerLines (k + 1) = markerLines k ++ markerLine k := by
  rw [markerLines, List.range_succ, List.flatMap_append, List.flatMap_singleton]
  rfl

/-- What listeners hear of the events `es` makes a reporter of marker lines mark the iterations that
are reported done in `es`, and do nothing else. -/
theorem heard_markers (ch : Channels (StateM τ)) (target : MarkerTarget) (es : List Event) (t : τ) :
    heard ((Reporter.markers target).notify ch) (progressOf es) t =
      (endsOf es).foldl (fun t i => (Reporter.markOrWarn ch target i t).2) t := by
  induction es generalizing t with
  | nil => rfl
  | cons e es ih =>
    cases e with
    | progress p =>
      show heard _ (progressOf es) ((Reporter.markers target).notify ch p t).2 = _
      cases p with
      | iterationEnd i total =>
        rw [Reporter.notify]
        exact ih _
      | runStart | iterationStart | runEnd =>
        rw [Reporter.notify]
        · exact ih t
        · exact nofun
    | _ => exact ih t

/-! ### Sinks -/

/-- Whether a sink of this appetite fails a marker line, if it has been offered so many octets by
the end of the line. -/
def failsLine (limit : Nat) (refusesFlush : Bool) (offered : Nat) : Bool :=
  refusesFlush || decide (limit < offered)

theorem failsLine_eq_false {limit : Nat} {refusesFlush : Bool} {offered : Nat} :
    failsLine limit refusesFlush offered = false ↔ offered ≤ limit ∧ refusesFlush = false := by
  rw [failsLine, Bool.or_eq_false_iff, decide_eq_false_iff_not, Nat.not_lt, and_comm]

/-- Whether such a sink fails the marker line of an iteration, when those before it were offered as
well. -/
def failsMarker (limit : Nat) (refusesFlush : Bool) (i : Nat) : Bool :=
  failsLine limit refusesFlush (markerLines (i + 1)).length

/-- How a state shows what a sink has taken and which warnings there were. -/
structure Ledger (τ : Type) where
  /-- The sink is set up as it should be. -/
  kept : τ → Prop
  /-- The octets that the sink has taken. -/
  taken : τ → List UInt8
  /-- The warnings. -/
  warned : τ → List String

/-- The sink has taken these octets, and there were these warnings. -/
structure Ledger.Stands (v : Ledger τ) (bytes : List UInt8) (texts : List String) (t : τ) :
    Prop where
  kept : v.kept t
  taken : v.taken t = bytes
  warned : v.warned t = texts

/-- Marker lines go to a sink of limited appetite: it takes `limit` octets in all, of those offered
at a time at least one and otherwise as many as it likes, and then refuses whatever is written.  It
refuses every flush, or none. -/
structure Channels.Limited (ch : Channels (StateM τ)) (target : MarkerTarget) (v : Ledger τ)
    (limit : Nat) (refusesFlush : Bool) : Prop where
  takes {bytes texts t} (h : v.Stands bytes texts t) (hroom : bytes.length < limit) (b : UInt8)
    (offered : List UInt8) :
    ∃ k ≤ offered.length, bytes.length + (k + 1) ≤ limit ∧
      ((target.writer ch).write (b :: offered) t).1 = .ok (k + 1) ∧
      v.Stands (bytes ++ b :: offered.take k) texts ((target.writer ch).write (b :: offered) t).2
  refuses {bytes texts t} (h : v.Stands bytes texts t) (hfull : limit ≤ bytes.length) (b : UInt8)
    (offered : List UInt8) :
    ∃ e, ((target.writer ch).write (b :: offered) t).1 = .error e ∧
      v.Stands bytes texts ((target.writer ch).write (b :: offered) t).2
  flush {bytes texts t} (h : v.Stands bytes texts t) :
    (((target.writer ch).flush t).1 = .ok () ↔ refusesFlush = false) ∧
      v.Stands bytes texts ((target.writer ch).flush t).2
  warn {bytes texts t} (h : v.Stands bytes texts t) (text : String) :
    v.Stands bytes (texts ++ [text]) (ch.warn text t).2

namespace Channels.Limited

variable {ch : Channels (StateM τ)} {target : MarkerTarget} {v : Ledger τ} {limit : Nat}
  {refusesFlush : Bool} (h : ch.Limited target v limit refusesFlush) {bytes : List UInt8}
  {texts : List String} {t : τ}
include h

/-- **Octets are taken as far as there is room for them**: the sink takes the front of `offered`,
and the answer is `ok` if and only if that is all of it. -/
theorem writeAll (offered : List UInt8) (hstands : v.Stands bytes texts t)
    (hbytes : bytes.length ≤ limit) :
    (((target.writer ch).writeAll offered t).1 = .ok () ↔ bytes.length + offered.length ≤ limit) ∧
    v.Stands (bytes ++ offered.take (limit - bytes.length)) texts
      ((target.writer ch).writeAll offered t).2 := by
  -- Each write takes at least one octet, so less is left to write and less room for it.
  fun_induction Writer.writeAll (target.writer ch) offered generalizing bytes t with
  | case1 =>
    rw [List.take_nil, List.append_nil]
    exact ⟨iff_of_true rfl hbytes, hstands⟩
  | case2 b offered ih =>
    rcases Nat.lt_or_ge bytes.length limit with hroom | hfull
    · obtain ⟨k, hk, hlimit, hanswer, hstands'⟩ := h.takes hstands hroom b offered
      have hlength : (bytes ++ b :: offered.take k).length = bytes.length + (k + 1) := by
        rw [List.length_append, List.length_cons, List.length_take, Nat.min_eq_left hk]
      obtain ⟨hok, hrest⟩ := ih k hstands' (hlength ▸ hlimit)
      rw [hlength] at hok hrest
      -- What there is room for is what was taken just now, and what there is room for behind that.
      have hsplit : limit - bytes.length = k + 1 + (limit - (bytes.length + (k + 1))) := by omega
      rw [bind_of_answer hanswer, hsplit, List.take_add, ← List.append_assoc]
      refine ⟨hok.trans ?_, hrest⟩
      rw [List.length_drop, List.length_cons]
      omega
    · obtain ⟨e, hanswer, hstands'⟩ := h.refuses hstands hfull b offered
      rw [bind_of_answer hanswer, Nat.sub_eq_zero_of_le hfull, List.take_zero,
        List.append_nil]
      refine ⟨iff_of_false (fun hanswered => by cases hanswered) ?_, hstands'⟩
      simp only [List.length_cons]
      omega

/-- `Channels.Limited.writeAll` for texts, one after the other. -/
theorem writePieces (pieces : List String) (hstands : v.Stands bytes texts t)
    (hbytes : bytes.length ≤ limit) :
    (((target.writer ch).writePieces pieces t).1 = .ok () ↔
      bytes.length + (pieces.flatMap octets).length ≤ limit) ∧
    v.Stands (bytes ++ (pieces.flatMap octets).take (limit - bytes.length)) texts
      ((target.writer ch).writePieces pieces t).2 := by
  induction pieces generalizing bytes t with
  | nil =>
    rw [List.flatMap_nil, List.take_nil, List.append_nil]
    exact ⟨iff_of_true rfl hbytes, hstands⟩
  | cons s pieces ih =>
    obtain ⟨hok, hfirst⟩ := h.writeAll (octets s) hstands hbytes
    rw [Writer.writePieces, List.flatMap_cons, List.length_append]
    rcases hanswer : ((target.writer ch).writeAll (octets s) t).1 with e | ⟨⟩
    · -- There is no room for the first text, so there is none for what comes behind it.
      have hfull : ¬ bytes.length + (octets s).length ≤ limit := fun hroom => by
        cases hanswer.symm.trans (hok.2 hroom)
      rw [bind_of_answer hanswer, List.take_append_of_le_length (by omega)]
      exact ⟨iff_of_false (fun hanswered => by cases hanswered) (by omega), hfirst⟩
    · have hroom := hok.1 hanswer
      rw [List.take_of_length_le (by omega)] at hfirst
      obtain ⟨hok', hrest⟩ := ih hfirst (by rwa [List.length_append])
      rw [List.length_append, Nat.add_assoc] at hok'
      rw [List.length_append, List.append_assoc, Nat.sub_add_eq] at hrest
      rw [bind_of_answer hanswer, List.take_append, List.take_of_length_le (by omega)]
      exact ⟨hok', hrest⟩

/-- **A marker line is taken as far as there is room for it**, and then the sink is flushed.  This
fails as `failsLine` says. -/
theorem mark (i : Nat) (hstands : v.Stands bytes texts t) (hbytes : bytes.length ≤ limit) :
    ((Reporter.mark (target.writer ch) i t).1 = .ok () ↔
      failsLine limit refusesFlush (bytes.length + (markerLine i).length) = false) ∧
    v.Stands (bytes ++ (markerLine i).take (limit - bytes.length)) texts
      (Reporter.mark (target.writer ch) i t).2 := by
  obtain ⟨hok, hline⟩ := h.writePieces (Reporter.markerPieces i) hstands hbytes
  rw [← markerLine_eq] at hok hline
  rw [Reporter.mark, failsLine_eq_false]
  rcases hanswer : ((target.writer ch).writePieces (Reporter.markerPieces i) t).1 with e | ⟨⟩
  -- A line that is not taken in full is not flushed.
  · rw [bind_of_answer hanswer]
    refine ⟨iff_of_false (fun hanswered => by cases hanswered) fun hall => ?_, hline⟩
    cases hanswer.symm.trans (hok.2 hall.1)
  · rw [bind_of_answer hanswer, and_iff_right (hok.1 hanswer)]
    exact h.flush hline

/-- `Channels.Limited.mark` with one warning if it fails, and none otherwise. -/
theorem markOrWarn (i : Nat) (hstands : v.Stands bytes texts t) (hbytes : bytes.length ≤ limit) :
    ∃ e, v.Stands (bytes ++ (markerLine i).take (limit - bytes.length))
      (texts ++ if failsLine limit refusesFlush (bytes.length + (markerLine i).length) then
        [Reporter.markerWarning e] else [])
      (Reporter.markOrWarn ch target i t).2 := by
  obtain ⟨hok, hmarked⟩ := h.mark i hstands hbytes
  rw [Reporter.markOrWarn]
  rcases hanswer : (Reporter.mark (target.writer ch) i t).1 with e | ⟨⟩
  · have hfails := (Bool.not_eq_false _).mp fun hgoes => by
      cases hanswer.symm.trans (hok.2 hgoes)
    refine ⟨e, ?_⟩
    rw [bind_of_answer hanswer, if_pos hfails]
    exact h.warn hmarked _
  · refine ⟨"", ?_⟩
    rw [bind_of_answer hanswer, hok.1 hanswer, if_neg Bool.false_ne_true, List.append_nil]
    exact hmarked

/-- **The marker lines of the first `k` iterations** are taken up to `limit`, and there is a warning
for each of them that `failsMarker`. -/
theorem markAll (hstands : v.Stands [] texts t) (k : Nat) :
    ∃ errors : Nat → String, v.Stands ((markerLines k).take limit)
      (texts ++ ((List.range k).filter (failsMarker limit refusesFlush)).map fun j =>
        Reporter.markerWarning (errors j))
      ((List.range k).foldl (fun t i => (Reporter.markOrWarn ch target i t).2) t) := by
  induction k with
  | zero =>
    refine ⟨fun _ => "", ?_⟩
    rw [markerLines, List.range_zero, List.flatMap_nil, List.take_nil, List.filter_nil,
      List.map_nil, List.append_nil]
    exact hstands
  | succ k ih =>
    obtain ⟨errors, hbefore⟩ := ih
    obtain ⟨e, hmarked⟩ := h.markOrWarn k hbefore (List.length_take_le _ _)
    refine ⟨fun j => if j = k then e else errors j, ?_⟩
    -- The front of the earlier lines and the front of this one are the front of all of them.
    have htaken : (markerLines k).take limit ++
        (markerLine k).take (limit - ((markerLines k).take limit).length) =
          (markerLines (k + 1)).take limit := by
      rw [markerLines_succ, List.take_append, List.length_take]
      congr 2
      omega
    have hfails : failsLine limit refusesFlush
        (((markerLines k).take limit).length + (markerLine k).length) =
          failsMarker limit refusesFlush k := by
      have hline := markerLine_length_pos k
      rw [failsMarker, failsLine, failsLine, markerLines_succ, List.length_append, List.length_take]
      congr 2
      exact propext (by omega)
    rw [htaken, hfails] at hmarked
    -- The errors of the lines before this one are as they were.
    have herrors : ∀ j ∈ (List.range k).filter (failsMarker limit refusesFlush),
        Reporter.markerWarning (if j = k then e else errors j) =
          Reporter.markerWarning (errors j) := fun j hj => by
      rw [if_neg (Nat.ne_of_lt (List.mem_range.1 (List.mem_filter.1 hj).1))]
    have hlast : ([k].filter (failsMarker limit refusesFlush)).map
        (fun j => Reporter.markerWarning (if j = k then e else errors j)) =
          if failsMarker limit refusesFlush k then [Reporter.markerWarning e] else [] := by
      cases hk : failsMarker limit refusesFlush k <;> simp [hk]
    rw [List.range_succ, List.foldl_append, List.filter_append, List.map_append,
      List.map_congr_left herrors, hlast, ← List.append_assoc]
    exact hmarked

end Channels.Limited

/-! ### The sinks of a stage -/

namespace Sink

variable {s : Sink} (b : UInt8) (offered : List UInt8)

/-- While there is room, a sink takes at least one of the octets `b :: offered`, unless its portions
are empty. -/
theorem exists_write_of_room {room : Nat} (hlimit : s.limit = some room) (hroom : 0 < room)
    (hchunk : s.chunk ≠ some 0) :
    ∃ k ≤ offered.length, k + 1 ≤ room ∧
      write (b :: offered) s = (.ok (k + 1), s.accept (b :: offered.take k)) := by
  have hpositive : 0 < s.chunk.getD (b :: offered).length := by
    cases hc : s.chunk with
    | none => exact Nat.succ_pos _
    | some c => exact Nat.pos_of_ne_zero fun hc' => hchunk (hc.trans (congrArg some hc'))
  obtain ⟨k, hk⟩ : ∃ k, min (min (b :: offered).length room) (s.chunk.getD (b :: offered).length) =
      k + 1 :=
    Nat.exists_eq_add_one.2 (Nat.lt_min.2 ⟨Nat.lt_min.2 ⟨Nat.succ_pos _, hroom⟩, hpositive⟩)
  refine ⟨k, ?_, ?_, ?_⟩
  · simp only [List.length_cons] at hk
    omega
  · omega
  · rw [write, hlimit, Option.getD_some, if_neg fun hnone => absurd hnone.1 (Nat.ne_of_gt hroom),
      hk]
    rfl

theorem write_of_full (hlimit : s.limit = some 0) :
    write (b :: offered) s = (.error "sink full", s) := by
  rw [write, hlimit, Option.getD_some, if_pos ⟨rfl, List.cons_ne_nil _ _⟩]

end Sink

namespace Stage

/-- The ledger of a stage: what its sink for marker lines still takes is what is left of `limit`. -/
def markerLedger (limit : Nat) (refusesFlush : Bool) : Ledger (Stage σ) where
  kept t := t.markers.limit = some (limit - t.markers.received.length) ∧ t.markers.chunk ≠ some 0 ∧
    t.markers.refusesFlush = refusesFlush
  taken t := t.markers.received
  warned t := t.warnings.toList

/-- The channels of a stage are `Limited`, for every target of marker lines. -/
theorem limited_channels (limit : Nat) (refusesFlush : Bool) (number : Nat) :
    (channels : Channels (StateM (Stage σ))).Limited (.markers number)
      (markerLedger limit refusesFlush) limit refusesFlush where
  takes := by
    rintro _ _ t ⟨⟨hlimit, hchunk, hflush⟩, rfl, rfl⟩ hroom b offered
    have hroom : t.markers.received.length < limit := hroom
    obtain ⟨k, hk, hle, hwrite⟩ := Sink.exists_write_of_room b offered hlimit
      (Nat.sub_pos_of_lt hroom) hchunk
    have hstage : ((MarkerTarget.markers number).writer channels).write (b :: offered) t =
        (.ok (k + 1), { t with markers := t.markers.accept (b :: offered.take k) }) := by
      show ((Sink.write (b :: offered) t.markers).1,
        ({ t with markers := (Sink.write (b :: offered) t.markers).2 } : Stage σ)) = _
      rw [hwrite]
    have hreceived := t.markers.received_accept (b :: offered.take k)
    rw [hstage]
    refine ⟨k, hk, ?_, rfl, ⟨?_, hchunk, hflush⟩, hreceived, rfl⟩
    · show t.markers.received.length + (k + 1) ≤ limit
      omega
    · show t.markers.limit.map (· - (b :: offered.take k).length) =
        some (limit - (t.markers.accept (b :: offered.take k)).received.length)
      rw [hlimit, hreceived, List.length_append, Nat.sub_add_eq]
      rfl
  refuses := by
    rintro _ _ t ⟨hkept, rfl, rfl⟩ hfull b offered
    have hnone : t.markers.limit = some 0 :=
      hkept.1.trans (congrArg some (Nat.sub_eq_zero_of_le hfull))
    have hstage : ((MarkerTarget.markers number).writer channels).write (b :: offered) t =
        (.error "sink full", t) := by
      show ((Sink.write (b :: offered) t.markers).1,
        ({ t with markers := (Sink.write (b :: offered) t.markers).2 } : Stage σ)) = _
      rw [Sink.write_of_full b offered hnone]
    rw [hstage]
    exact ⟨_, rfl, hkept, rfl, rfl⟩
  flush := by
    rintro _ _ t ⟨⟨hlimit, hchunk, hflush⟩, rfl, rfl⟩
    refine ⟨?_, ⟨hlimit, hchunk, hflush⟩, rfl, rfl⟩
    show (if t.markers.refusesFlush then (.error "flush refused" : Except String Unit)
        else .ok ()) =
      .ok () ↔ refusesFlush = false
    rw [hflush]
    cases refusesFlush <;> simp
  warn := by
    rintro _ _ t ⟨hkept, rfl, rfl⟩ text
    exact ⟨hkept, rfl, Array.toList_push⟩

end Stage

/-! ### Runs -/

theorem endsOf_readdressed (config : Config) (es : List Event) :
    endsOf (es.map (·.readdressed config)) = endsOf es := by
  induction es with
  | nil => rfl
  | cons e es ih =>
    have hended : (e.readdressed config).ended? = e.ended? := by
      cases e with
      | progress p => cases p <;> rfl
      | _ => rfl
    rw [endsOf, List.map_cons, List.filterMap_cons, hended, ← endsOf, ih]
    rw [endsOf, endsOf, List.filterMap_cons]

/-- A reported run completes as many iterations as the silent run. -/
theorem Session.completed_reported (config : Config) (b : Backend (StateM σ))
    (work : Int32 → StateM σ Unit) (tell : Progress → StateM τ Unit) (w : σ) (t : τ) :
    (reported config b work tell).completed (w, t) = (silent config b work).completed w := by
  obtain ⟨-, -, hevents, -⟩ :=
    run_reported config config.debug config.instrumentation b work tell w t
  have hends := congrArg endsOf hevents
  rw [endsOf_readdressed, endsOf_eventsFrom, endsOf_eventsFrom] at hends
  have hlength := congrArg List.length hends
  rwa [List.length_range, List.length_range] at hlength

/-- **Marker lines are written as far as the sink goes, and only for completed iterations.**  Take a
run whose reporter writes marker lines to a sink of limited appetite that has taken nothing yet, and
let `k` be the number of iterations that are completed, which is how far the run gets.  Then

* the sink has taken the marker lines of the first `k` iterations, in their order, up to its limit;
* there is one warning for each of these iterations whose line was not taken in full, or for each of
  them if the sink refuses to be flushed, in their order, and no other;
* with any other sink the run has the same outcome and leaves backend and benchmark in the same
  state. -/
theorem Session.marker_lines (config : Config) (b : Backend (StateM σ))
    (work : Int32 → StateM σ Unit) (ch : Channels (StateM τ)) (target : MarkerTarget)
    (v : Ledger τ) (limit : Nat) (refusesFlush : Bool)
    (h : ch.Limited target v limit refusesFlush) (w : σ) (t : τ) (texts : List String)
    (hfresh : v.Stands [] texts t) :
    let s := reported config b work ((Reporter.markers target).notify ch)
    let k := s.completed (w, t)
    let t' := (s.run (w, t)).2.2
    s.Reaches (w, t) k ∧
    v.taken t' = (markerLines k).take limit ∧
    (∃ errors : Nat → String, v.warned t' = texts ++ ((List.range k).filter fun j =>
      refusesFlush || limit < (markerLines (j + 1)).length).map fun j =>
        "failed to write instrumentation marker error=" ++ errors j) ∧
    ∀ {τ' : Type} (ch' : Channels (StateM τ')) (target' : MarkerTarget) (t'' : τ'),
      let s' := reported config b work ((Reporter.markers target').notify ch')
      (s'.run (w, t'')).1 = (s.run (w, t)).1 ∧ (s'.run (w, t'')).2.1 = (s.run (w, t)).2.1 := by
  intro s k t'
  obtain ⟨houtcome, hstate, -, hheard⟩ := run_reported config config.debug config.instrumentation b
    work ((Reporter.markers target).notify ch) w t
  rw [heard_markers, endsOf_eventsFrom] at hheard
  obtain ⟨errors, hstands⟩ := h.markAll hfresh k
  have ht' : t' = _ := hheard
  rw [← ht'] at hstands
  refine ⟨s.reaches_completed (w, t), hstands.taken, ⟨errors, hstands.warned⟩, ?_⟩
  intro τ' ch' target' t''
  obtain ⟨houtcome', hstate', -⟩ := run_reported config config.debug config.instrumentation b
    work ((Reporter.markers target').notify ch') w t''
  exact ⟨houtcome'.trans houtcome.symm, hstate'.trans hstate.symm⟩

/-- A clock that stands still. -/
def Backend.still : Backend (StateM Unit) := .clock ⟨pure .zero⟩

/-- A stage whose sink for marker lines takes 40 octets, 7 at a time. -/
def Stage.narrow : Stage Unit := { state := (), markers := { limit := some 40, chunk := some 7 } }

/-- Of three marker lines the narrow sink takes the first in full, the second in part, and of the
third nothing. -/
theorem Session.marker_lines_cut_short :
    let s := reported { iterations := 3 } .still (fun _ => pure ())
      ((Reporter.markers .markers).notify Stage.channels)
    (s.run ((), Stage.narrow)).2.2.markers.received = (markerLines 3).take 40 ∧
    ∃ errors : Nat → String, (s.run ((), Stage.narrow)).2.2.warnings.toList =
      [1, 2].map fun j => "failed to write instrumentation marker error=" ++ errors j := by
  intro s
  have hfresh : (Stage.markerLedger 40 false).Stands [] [] Stage.narrow :=
    ⟨⟨rfl, nofun, rfl⟩, rfl, rfl⟩
  obtain ⟨-, htaken, ⟨errors, hwarned⟩, -⟩ := marker_lines { iterations := 3 } .still
    (fun _ => pure ()) Stage.channels .markers (Stage.markerLedger 40 false) 40 false
    (Stage.limited_channels 40 false 0) () .narrow [] hfresh
  have hcompleted : s.completed ((), .narrow) = 3 := by
    rw [completed_reported]
    decide +kernel
  have hfails :
      ((List.range 3).filter fun j => false || 40 < (markerLines (j + 1)).length) = [1, 2] := by
    decide +kernel
  rw [hcompleted] at htaken hwarned
  rw [hfails, List.nil_append] at hwarned
  simp only [Stage.markerLedger] at htaken hwarned
  dsimp only [s]
  refine ⟨?_, errors, ?_⟩
  · exact htaken
  · exact hwarned

end Stopwatch
