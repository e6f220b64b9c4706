import EgressWatch.Proofs.Store.Numbers
import Mathlib.Data.List.Basic

/-!
# The store as a log

To its users the store is a log: snapshots are saved one after another, pruning removes those from
before an instant, and a question is answered with the newest of what is left. `Change` is one step
of a run, `kept` the log that a run leaves behind, and `newest` the answer. `run_answers` says that
the database answers so after every run: no snapshot is lost, changed, put in another place or
brought back by the way in which rows, stamps and texts are kept.

The proof follows the run. `Change.applied` is the table after a step that finds a number after all
others, and `Roomy` says of a run that each of its saves does; then the run succeeds and comes to
what its steps make of the table (`run_eq`). `Holds` ties a table to a log: its rows are those of
the snapshots, in the order of saving. One step keeps this (`Change.applied_holds`), so a run does
(`run_holds`), and what a table answers that holds a log is `newest` of it (`Holds.answer`). Seen
step by step the log that a run leaves is not yet `kept`, which looks ahead to later prunings; that
the two agree is a fact about lists (`foldl_record`).

Numbers are words, so a run can save too much: 9223372036854775807 snapshots get numbers one after
the other, and what comes then is given any number that is free (`Roomy.of_le`).

Time counts to the microsecond here, for that is what stamps hold; the snapshots that come back are
exact to the nanosecond.
-/

namespace EgressWatch.Store

open Time

/-! ## Runs -/

/-- A change of the store. A save comes with the words that would be drawn for its number. -/
inductive Change where
  | save (s : Snapshot) (draws : Draws)
  | prune (bound : Instant)

namespace Change

/-- What a change makes of a database. -/
def perform (d : Database) : Change → Except Fault Database
  | save s draws => (d.save draws s).map (·.2)
  | prune bound => (d.pruneBefore bound).map (·.2)

/-- A snapshot that is there is removed by a change. -/
def removes (s : Snapshot) : Change → Bool
  | save _ _ => false
  | prune bound => decide (s.takenAt.cut < bound.cut)

/-- The change keeps to what stamps and texts can hold: snapshots of the years 0 to 9999 that lose
nothing when they are written, and bounds up to the year 9999. -/
def Fit : Change → Prop
  | save s _ => s.takenAt.PlainYear ∧ s.Faithful
  | prune bound => bound.date.year ≤ 9999

end Change

/-- The snapshots that a run saves and does not remove later on, in the order of saving. -/
def kept : List Change → List Snapshot
  | [] => []
  | .save s _ :: rest => if rest.any (·.removes s) then kept rest else s :: kept rest
  | .prune _ :: rest => kept rest

/-- What was made from an instant on, newest first and of equal times what was saved last, cut to a
number of entries. -/
def newest {α : Type} (limit : Nat) (time : α → Instant) (since : Instant)
    (log : List α) : List α :=
  ((log.filter fun a => !decide ((time a).cut < since.cut)).reverse.mergeSort
    fun a b => !decide ((time a).cut < (time b).cut)).take limit

/-! ## Steps -/

namespace Change

/-- What a change saves. -/
def saved : Change → List Snapshot
  | save s _ => [s]
  | prune _ => []

/-- The change removes rows with this stamp. -/
def clears (created : Cell) : Change → Bool
  | save _ _ => false
  | prune bound => created.before (stampCell bound)

/-- The table after a change, if there is a number after all in use: without the rows that it
removes and with one more for what it saves. -/
def applied (t : Table) (c : Change) : Table :=
  ⟨(t.rows.filter fun r => !c.clears r.created) ++ c.saved.map fun s => rowOf (t.nextId, s)⟩

theorem applied_save (t : Table) (s : Snapshot) (draws : Draws) :
    (save s draws).applied t = ⟨t.rows ++ [rowOf (t.nextId, s)]⟩ := by
  have hall : (t.rows.filter fun r => !(save s draws).clears r.created) = t.rows :=
    List.filter_eq_self.mpr fun _ _ => rfl
  rw [applied, hall]
  rfl

theorem applied_prune (t : Table) (bound : Instant) :
    (prune bound).applied t = (t.pruneBefore bound).2 := by
  rw [applied, saved, List.map_nil, List.append_nil]
  rfl

/-- A change of a database with a table succeeds, whatever the rows hold and whatever is drawn, if
there is a number for what it saves. -/
theorem perform_some {t : Table} (h : Numbered t.rows) {c : Change}
    (hroom : c.saved ≠ [] → t.HasRoom) : c.perform ⟨some t⟩ = .ok ⟨some (c.applied t)⟩ := by
  cases c with
  | save s draws =>
    rw [applied_save, perform, Database.save_some, t.save?_eq h (hroom (List.cons_ne_nil s []))]
    rfl
  | prune bound =>
    rw [applied_prune]
    rfl

end Change

/-- A step keeps the numbers in order. -/
theorem Numbered.applied {t : Table} (h : Numbered t.rows) (c : Change) :
    Numbered (c.applied t).rows := by
  refine List.pairwise_append.mpr ⟨h.filter _, ?_, fun a ha b hb => ?_⟩
  · cases c with
    | save s draws => exact List.pairwise_singleton _ _
    | prune bound => exact .nil
  · obtain ⟨s, -, rfl⟩ := List.mem_map.mp hb
    exact h.lt_nextId a (List.mem_filter.mp ha).1

/-- A step makes the largest number larger by as many as it saves at most. -/
theorem Change.id_le_of_applied {t : Table} {top : Int} (htop : 0 ≤ top)
    (h : ∀ r ∈ t.rows, r.id ≤ top) (c : Change) :
    ∀ r ∈ (c.applied t).rows, r.id ≤ top + c.saved.length := by
  intro r hr
  rcases List.mem_append.mp hr with hold | hnew
  · have hle := h r (List.mem_filter.mp hold).1
    omega
  · obtain ⟨s, hs, rfl⟩ := List.mem_map.mp hnew
    have hsome : 0 < c.saved.length := List.length_pos_of_mem hs
    have hle := nextId_le htop h
    show t.nextId ≤ _
    omega

/-- There is a number after all in use whenever the run comes to a save. -/
def Roomy : Table → List Change → Prop
  | _, [] => True
  | t, c :: cs => (c.saved ≠ [] → t.HasRoom) ∧ Roomy (c.applied t) cs

/-- A run finds numbers as long as it does not save more than there are above those in use. -/
theorem Roomy.of_le {t : Table} {top : Int} (htop : 0 ≤ top) (h : ∀ r ∈ t.rows, r.id ≤ top)
    {cs : List Change} (hcs : top + (cs.flatMap Change.saved).length ≤ maxId) : Roomy t cs := by
  induction cs generalizing t top with
  | nil => trivial
  | cons c cs ih =>
    rw [List.flatMap_cons, List.length_append] at hcs
    refine ⟨fun hsaves r hr => ?_, ih (by omega) (c.id_le_of_applied htop h) (by omega)⟩
    have hle := h r hr
    have hsome := List.length_pos_iff.mpr hsaves
    omega

/-- A run that finds numbers succeeds, whatever the rows hold. -/
theorem run_eq {t : Table} (h : Numbered t.rows) {cs : List Change} (hroom : Roomy t cs) :
    cs.foldlM (fun d c => c.perform d) ⟨some t⟩ = .ok ⟨some (cs.foldl Change.applied t)⟩ := by
  induction cs generalizing t with
  | nil => rfl
  | cons c cs ih =>
    rw [List.foldlM_cons, Change.perform_some h hroom.1]
    exact ih (h.applied c) hroom.2

/-! ## Rows -/

/-- The rows of a table are those of the snapshots of a log, in order and under rising numbers. -/
structure Lists (t : Table) (log : List Snapshot) : Prop where
  rows : ∃ es : List (Int × Snapshot), es.map (·.2) = log ∧ t.rows = es.map rowOf
  numbered : Numbered t.rows

theorem lists_empty : Lists {} [] := ⟨⟨[], rfl, rfl⟩, .nil⟩

theorem Lists.append {t : Table} {log : List Snapshot} (h : Lists t log) (s : Snapshot) :
    Lists ⟨t.rows ++ [rowOf (t.nextId, s)]⟩ (log ++ [s]) := by
  obtain ⟨es, hlog, hrows⟩ := h.rows
  refine ⟨⟨es ++ [(t.nextId, s)], by simp [hlog], by simp [hrows]⟩, ?_⟩
  refine List.pairwise_append.mpr ⟨h.numbered, List.pairwise_singleton _ _, fun a ha b hb => ?_⟩
  rw [List.mem_singleton.mp hb]
  exact h.numbered.lt_nextId a ha

/-- As long as there are numbers, what is to be kept comes last. -/
theorem Lists.keep {t : Table} {log : List Snapshot} (h : Lists t log) {top : Int} (htop : 0 ≤ top)
    (hids : ∀ r ∈ t.rows, r.id ≤ top) (hroom : top < maxId) (draws : Draws) (s : Snapshot) :
    ∃ left, Database.keep ⟨some t⟩ draws s = ⟨some left⟩ ∧ Lists left (log ++ [s]) ∧
      ∀ r ∈ left.rows, r.id ≤ top + 1 := by
  have hsave := t.save?_eq h.numbered (fun r hr => Int.lt_of_le_of_lt (hids r hr) hroom) draws s
  refine ⟨_, by rw [Database.keep_some, hsave]; rfl, h.append s, fun r hr => ?_⟩
  rcases List.mem_append.mp hr with hr | hr
  · have hle := hids r hr
    omega
  · rw [List.mem_singleton.mp hr]
    exact nextId_le htop hids

/-- The rows of a table hold the snapshots of a log: they are those of the snapshots, and lose
nothing of them. -/
structure Holds (t : Table) (log : List Snapshot) : Prop extends Lists t log where
  fit : ∀ s ∈ log, s.takenAt.PlainYear ∧ s.Faithful

theorem holds_empty : Holds {} [] := ⟨lists_empty, by simp⟩

theorem Holds.append {t : Table} {log : List Snapshot} (h : Holds t log) {s : Snapshot}
    (hs : s.takenAt.PlainYear ∧ s.Faithful) :
    Holds ⟨t.rows ++ [rowOf (t.nextId, s)]⟩ (log ++ [s]) := by
  refine ⟨h.toLists.append s, fun x hx => ?_⟩
  rcases List.mem_append.mp hx with hx | hx
  · exact h.fit x hx
  · rw [List.mem_singleton.mp hx]
    exact hs

theorem Holds.prune {t : Table} {log : List Snapshot} (h : Holds t log) {bound : Instant}
    (hb : bound.date.year ≤ 9999) :
    Holds (t.pruneBefore bound).2 (log.filter fun s => !decide (s.takenAt.cut < bound.cut)) := by
  obtain ⟨es, hlog, hrows⟩ := h.rows
  refine ⟨⟨⟨es.filter fun e => !decide (e.2.takenAt.cut < bound.cut), ?_, ?_⟩,
    h.numbered.filter _⟩, fun s hs => h.fit s (List.mem_filter.mp hs).1⟩
  · rw [← hlog, List.filter_map]
    rfl
  · show t.rows.filter _ = _
    rw [hrows, List.filter_map]
    refine congrArg (List.map rowOf) (List.filter_congr fun e he => ?_)
    have hfit := h.fit e.2 (hlog ▸ List.mem_map_of_mem he)
    have hbefore : (rowOf e).created.before (stampCell bound) =
        decide (e.2.takenAt.cut < bound.cut) := before_stampCell hfit.1 hb
    rw [Function.comp, hbefore]

/-! ## Runs and logs -/

namespace Change

/-- What a change makes of a log. -/
def record (log : List Snapshot) (c : Change) : List Snapshot :=
  (log.filter fun s => !c.removes s) ++ c.saved

/-- One step: the table goes on to hold the log. -/
theorem applied_holds {t : Table} {log : List Snapshot} (h : Holds t log) {c : Change}
    (hc : c.Fit) : Holds (c.applied t) (c.record log) := by
  cases c with
  | save s draws =>
    have hlog : record log (save s draws) = log ++ [s] := by simp [record, removes, saved]
    rw [hlog, applied_save]
    exact h.append hc
  | prune bound =>
    have hlog : record log (prune bound) =
        log.filter fun s => !decide (s.takenAt.cut < bound.cut) := by
      simp [record, removes, saved]
    rw [hlog, applied_prune]
    exact h.prune hc

end Change

/-- A run: the table holds what the changes make of the log one after another. -/
theorem run_holds {cs : List Change} (hcs : ∀ c ∈ cs, c.Fit) {t : Table} {log : List Snapshot}
    (h : Holds t log) : Holds (cs.foldl Change.applied t) (cs.foldl Change.record log) := by
  -- on the changes that are left, for every table and the log it holds
  induction cs generalizing t log with
  | nil => exact h
  | cons c cs ih =>
    exact ih (fun c hc => hcs c (List.mem_cons_of_mem _ hc))
      (Change.applied_holds h (hcs c List.mem_cons_self))

theorem kept_cons (c : Change) (cs : List Change) :
    kept (c :: cs) = (c.saved.filter fun s => !cs.any (·.removes s)) ++ kept cs := by
  cases c with
  | save s draws =>
    rw [kept, Change.saved]
    cases h : cs.any (·.removes s) <;> simp [h]
  | prune bound => rfl

/-- Step by step or seen from the end, a run leaves the same log. -/
theorem foldl_record (cs : List Change) (log : List Snapshot) :
    cs.foldl Change.record log = (log.filter fun s => !cs.any (·.removes s)) ++ kept cs := by
  induction cs generalizing log with
  | nil =>
    rw [kept, List.append_nil]
    exact (List.filter_eq_self.mpr fun _ _ => rfl).symm
  | cons c cs ih =>
    rw [List.foldl_cons, ih, kept_cons, Change.record, List.filter_append, List.filter_filter,
      List.append_assoc]
    refine congrArg (· ++ _) (List.filter_congr fun s _ => ?_)
    rw [List.any_cons, Bool.not_or, Bool.and_comm]

/-! ## Answers -/

theorem later_trans {α : Type} (time : α → Instant) (x y z : α)
    (hxy : !decide ((time x).cut < (time y).cut)) (hyz : !decide ((time y).cut < (time z).cut)) :
    !decide ((time x).cut < (time z).cut) := by
  simp only [Bool.not_eq_true', decide_eq_false_iff_not, Instant.lt_def] at *
  omega

theorem later_total {α : Type} (time : α → Instant) (x y : α) :
    (!decide ((time x).cut < (time y).cut) || !decide ((time y).cut < (time x).cut)) := by
  simp only [Bool.or_eq_true, Bool.not_eq_true', decide_eq_false_iff_not, Instant.lt_def]
  omega

theorem rowOf_kind (e : Int × Snapshot) (kind : Snapshot.Kind) :
    ((rowOf e).kind == .text kind.tag) = (e.2.kind == kind) := by
  rw [Bool.eq_iff_iff, beq_iff_eq, beq_iff_eq]
  exact ⟨fun h => Snapshot.Kind.tag_inj (Cell.text.inj h), fun h => by rw [← h]; rfl⟩

/-- Rows in a window are those of the snapshots in it. -/
theorem window_rows {t : Table} {es : List (Int × Snapshot)} (hrows : t.rows = es.map rowOf)
    (hplain : ∀ e ∈ es, e.2.takenAt.PlainYear) (kind : Snapshot.Kind) {since : Instant}
    (hsince : since.date.year ≤ 9999) : t.window kind since =
      (es.filter fun e => e.2.kind == kind && !decide (e.2.takenAt.cut < since.cut)).map rowOf := by
  rw [Table.window, hrows, List.filter_map]
  refine congrArg (List.map rowOf) (List.filter_congr fun e he => ?_)
  have hbefore : (rowOf e).created.before (stampCell since) =
      decide (e.2.takenAt.cut < since.cut) := before_stampCell (hplain e he) hsince
  rw [Function.comp, hbefore, rowOf_kind]

/-- A table that holds a log answers with the newest of what one view shows of it. -/
theorem Holds.answer {α : Type} {t : Table} {log : List Snapshot} (h : Holds t log)
    {view : Snapshot → Option α} {time : α → Instant} {kind : Snapshot.Kind}
    (hview : ∀ s, s.kind = kind ↔ (view s).isSome)
    (htime : ∀ s a, view s = some a → time a = s.takenAt) {since : Instant}
    (hsince : since.date.year ≤ 9999) (limit : Nat) :
    ((t.ranked kind since).take limit).filterMap (Row.shown? view) =
      newest limit time since (log.filterMap view) := by
  obtain ⟨es, hlog, hrows⟩ := h.rows
  have hfit : ∀ e ∈ es, e.2.takenAt.PlainYear ∧ e.2.Faithful := fun e he =>
    h.fit e.2 (hlog ▸ List.mem_map_of_mem he)
  have hwindow := window_rows hrows (fun e he => (hfit e he).1) kind hsince
  have hmem : ∀ r ∈ t.window kind since, ∃ e ∈ es, r = rowOf e ∧ e.2.kind = kind := by
    intro r hr
    rw [hwindow] at hr
    obtain ⟨e, he, rfl⟩ := List.mem_map.mp hr
    obtain ⟨he, hin⟩ := List.mem_filter.mp he
    exact ⟨e, he, rfl, eq_of_beq (Bool.and_eq_true_iff.mp hin).1⟩
  have hshown : ∀ r ∈ t.ranked kind since, (r.shown? view).isSome := by
    intro r hr
    obtain ⟨e, he, rfl, hkind⟩ := hmem r (Table.mem_ranked.mp hr)
    rw [shown?_rowOf view (hfit e he).1 (hfit e he).2]
    exact (hview e.2).mp hkind
  have hread : (t.window kind since).filterMap (Row.shown? view) =
      (log.filterMap view).filter fun a => !decide ((time a).cut < since.cut) := by
    rw [hwindow, ← hlog, List.filterMap_map, List.filterMap_map, List.filterMap_filter,
      List.filter_filterMap]
    refine List.filterMap_congr fun e he => ?_
    have hkind : (e.2.kind == kind) = (view e.2).isSome := by
      rw [Bool.eq_iff_iff, beq_iff_eq]
      exact hview e.2
    simp only [Function.comp]
    rw [shown?_rowOf view (hfit e he).1 (hfit e he).2, hkind]
    cases hv : view e.2 with
    | none => simp
    | some a =>
      rw [Option.isSome_some, Bool.true_and, Option.filter_some, htime e.2 a hv]
  -- nothing is passed over, so one may read first, then sort, and cut at the end
  rw [filterMap_take hshown, newest, ← hread, Table.ranked]
  refine congrArg (List.take limit) ?_
  refine Numbered.filterMap_mergeSort (h.numbered.filter _) (later_trans time) (later_total time) ?_
  intro a ha b hb x hx y hy
  obtain ⟨e, he, rfl, -⟩ := hmem a ha
  obtain ⟨e', he', rfl, -⟩ := hmem b hb
  rw [shown?_rowOf view (hfit e he).1 (hfit e he).2] at hx
  rw [shown?_rowOf view (hfit e' he').1 (hfit e' he').2] at hy
  rw [htime e.2 x hx, htime e'.2 y hy]
  exact congrArg (!·) (before_stampCell (hfit e he).1 (hfit e' he').1.2).symm

/-- Every run from an empty store succeeds that does not save more snapshots than there are numbers,
and what is asked afterwards from any instant on is answered from the log that the run leaves: the
newest 100 statuses and the newest 50 speed tests. -/
theorem run_answers {cs : List Change} (hcs : ∀ c ∈ cs, c.Fit)
    (hcount : ((cs.flatMap Change.saved).length : Int) ≤ maxId) :
    ∃ d, cs.foldlM (fun d c => c.perform d) Database.empty = .ok d ∧
      ∀ since : Instant, since.date.year ≤ 9999 →
        d.statusesSince since =
          .ok (newest 100 Status.checkedAt since ((kept cs).filterMap Snapshot.status?)) ∧
        d.speedTestsSince since =
          .ok (newest 50 SpeedTest.testedAt since ((kept cs).filterMap Snapshot.speedTest?)) := by
  have hroom : Roomy {} cs := .of_le (Int.le_refl 0) (by simp) (by omega)
  have hrun := run_eq (t := {}) .nil hroom
  have hholds := run_holds hcs holds_empty
  have hlog : cs.foldl Change.record [] = kept cs := foldl_record cs []
  rw [hlog] at hholds
  generalize cs.foldl Change.applied {} = t at hrun hholds
  refine ⟨⟨some t⟩, hrun, fun since hsince => ⟨?_, ?_⟩⟩
  · show Except.ok (t.statusesSince since) = _
    rw [Table.statusesSince_eq]
    refine congrArg Except.ok (hholds.answer kind_status_iff ?_ hsince 100)
    intro s a hs
    cases s with
    | status s => exact congrArg Status.checkedAt (Option.some.inj hs).symm
    | speedTest t => exact absurd hs (by simp [Snapshot.status?])
  · show Except.ok (t.speedTestsSince since) = _
    rw [Table.speedTestsSince_eq]
    refine congrArg Except.ok (hholds.answer kind_speedTest_iff ?_ hsince 50)
    intro s a hs
    cases s with
    | status s => exact absurd hs (by simp [Snapshot.speedTest?])
    | speedTest t => exact congrArg SpeedTest.testedAt (Option.some.inj hs).symm

/-- Two snapshots of one instant outlast a bound later in the same microsecond and one before the
common era, and the second status, saved later still, goes before the first. -/
theorem run_answers_same_microsecond :
    let noon : Instant := { day := 19723, second := 43200, nano := 1234567 }
    let later : Instant := { day := 19723, second := 43200, nano := 1234999 }
    let before : Instant := { day := -735587, second := 0, nano := 0 }
    let first : Status := ⟨"192.0.2.1", "", "", "", false, true, 7, none, some "timeout", noon⟩
    let second : Status := { first with lastError := none }
    let test : SpeedTest := ⟨some ⟨93.5, 12, 125000000, "192.0.2.1", none⟩, none, 12, noon, none⟩
    let draws : Draws := fun _ => 0
    let cs : List Change := [.save (.status first) draws, .save (.speedTest test) draws,
      .prune later, .prune before, .save (.status second) draws]
    (∀ c ∈ cs, c.Fit) ∧ ((cs.flatMap Change.saved).length : Int) ≤ maxId ∧
      kept cs = [.status first, .speedTest test, .status second] ∧
      ∃ d, cs.foldlM (fun d c => c.perform d) Database.empty = .ok d ∧
        d.statusesSince noon = .ok (newest 100 Status.checkedAt noon [first, second]) ∧
        d.speedTestsSince noon = .ok (newest 50 SpeedTest.testedAt noon [test]) := by
  intro noon later before first second test draws cs
  have hnoon : noon.PlainYear := by decide
  have htest : (Snapshot.speedTest test).Faithful := by
    intro s hs
    rw [List.mem_singleton.mp hs]
    decide +kernel
  have hcs : ∀ c ∈ cs, c.Fit := by
    simp only [cs, List.forall_mem_cons]
    have hlater : later.date.year ≤ 9999 := by decide
    have hbefore : before.date.year ≤ 9999 := by decide
    exact ⟨⟨hnoon, trivial⟩, ⟨hnoon, htest⟩, hlater, hbefore, ⟨hnoon, trivial⟩, by simp⟩
  have hcount : ((cs.flatMap Change.saved).length : Int) ≤ maxId := by decide
  obtain ⟨d, hrun, hanswer⟩ := run_answers hcs hcount
  have hnotLater : ¬ noon.cut < later.cut := by decide
  have hnotBefore : ¬ noon.cut < before.cut := by decide
  have hkept : kept cs = [.status first, .speedTest test, .status second] := by
    simp [cs, kept, Change.removes, Snapshot.takenAt, first, test, hnotLater, hnotBefore]
  have hanswer := hanswer noon hnoon.2
  rw [hkept] at hanswer
  exact ⟨hcs, hcount, hkept, d, hrun, hanswer⟩

end EgressWatch.Store
