import EgressWatch.Proofs.Command.Effect
import EgressWatch.Proofs.Time.Cutoff

/-!
# Retention in hours

A number of hours is a word, and as many seconds may be more than a word holds, more than instants
are shifted by, or lead out of the calendar. None of that matters to rows from the epoch on:

> `retention_exact`: with a retention in hours just those rows go that come before the bare
> difference between the reading of the clock and the hours, to the microsecond.

The bare difference is a number, not an instant (`Instant.hoursBefore`), so it can be taken without
bounds. `MadeAt` says which instants the rows of a table were made at; with it the rows that the
code cuts off by comparing stamps are those that lie before the difference (`MadeAt.before_iff`),
and what goes and what stays are lists that can be written down beforehand (`Table.outdated`,
`Table.current`). That one cannot always go back by so many hours is dealt with where times are
shifted: from the epoch on it makes no difference.

Removing by hand and opening the database both go by that, the one by the hours that are given, the
other by those of the configuration; `prune_left` and `openStore_opened` say what they do to the
disk.
-/

namespace EgressWatch

open Net Store Time

namespace Store.Table

variable {t : Table} {made : Row → Instant} {now : Instant}

/-- The rows bear the stamps of these instants, which lie between the epoch and the end of the year
9999. -/
structure MadeAt (t : Table) (made : Row → Instant) : Prop where
  sinceEpoch : ∀ r ∈ t.rows, (made r).SinceEpoch
  created : ∀ r ∈ t.rows, r.created = stampCell (made r)

/-- The rows that are cut off by some hours. -/
def outdated (t : Table) (made : Row → Instant) (now : Instant) (hours : UInt64) : List Row :=
  t.rows.filter fun r => (made r).CutBefore (now.hoursBefore hours)

/-- The table without them. -/
def current (t : Table) (made : Row → Instant) (now : Instant) (hours : UInt64) : Table :=
  ⟨t.rows.filter fun r => ¬ (made r).CutBefore (now.hoursBefore hours)⟩

theorem MadeAt.before_iff (h : t.MadeAt made) (hnow : now.Reading) (hours : UInt64) {r : Row}
    (hr : r ∈ t.rows) : r.created.before (stampCell (now.ago (hoursSpan hours))) ↔
      (made r).CutBefore (now.hoursBefore hours) := by
  have hmade := h.sinceEpoch r hr
  rw [h.created r hr, before_stampCell hmade.plainYear (hnow.year_ago_le _), decide_eq_true_eq,
    Instant.cut_lt_ago_iff hmade hnow, Instant.cutBefore_hoursSpan_iff]

theorem MadeAt.expired_eq (h : t.MadeAt made) (hnow : now.Reading) (hours : UInt64) :
    t.expired (now.ago (hoursSpan hours)) = t.outdated made now hours := by
  refine List.filter_congr fun r hr => ?_
  rw [Bool.eq_iff_iff, h.before_iff hnow hours hr, decide_eq_true_eq]

theorem MadeAt.unexpired_eq (h : t.MadeAt made) (hnow : now.Reading) (hours : UInt64) :
    t.unexpired (now.ago (hoursSpan hours)) = t.current made now hours := by
  refine congrArg Table.mk (List.filter_congr fun r hr => ?_)
  rw [Bool.eq_iff_iff, Bool.not_eq_true', ← Bool.not_eq_true, h.before_iff hnow hours hr,
    decide_eq_true_eq]

end Store.Table

namespace Command

variable {config : Config} {disk : Disk} {t : Table} {made : Row → Instant}

/-- Of the rows that were made since the epoch, removing by hand and opening the database remove
those that come before the hours, counted back without bounds and to the microsecond, and no
others. -/
theorem retention_exact (env : Environment) (trail : Trail)
    (hopen : disk.openDatabase config.server.dbPath = .ok ⟨some t⟩)
    (hnow : (env.clock trail.readings).Reading) (hmade : t.MadeAt made) :
    let now := env.clock trail.readings
    let path := config.server.dbPath
    let retention := config.retention.maxAgeHours
    (∀ given : Option UInt64,
      let hours := given.getD retention
      let ended := (runPrune config disk given env trail).1
      ended.1.exit =
          { code := 0, out := prunedText (t.outdated made now hours).length (hoursSpan hours) } ∧
        disk.Leaves path (t.current made now hours) ended.2) ∧
    (openStore config disk env trail).1 = .ok (⟨some (t.current made now retention)⟩,
      disk.keep path ⟨some (t.current made now retention)⟩) ∧
    ∀ r, (made r).nano < nanosPerSecond → ∀ hours,
      ((made r).CutBefore (now.hoursBefore hours) ↔
        (made r).epochNanos / 1000 < now.hoursBefore hours / 1000) := by
  intro now path retention
  refine ⟨fun given => ?_, ?_, fun r hnano hours => Instant.cutBefore_iff hnano _⟩
  · intro hours ended
    rw [← hmade.expired_eq hnow, ← hmade.unexpired_eq hnow]
    exact prune_left given hopen
  · rw [openStore_opened env trail hopen, RetentionConfig.maxAge, hmade.unexpired_eq hnow]

/-- Of three rows the oldest one is of the epoch, and the others were made an hour ago, to the
microsecond, and a microsecond earlier. A retention of as many hours as a word holds keeps them all,
and of one hour only the last. -/
theorem retention_exact_microsecond :
    let config : Config := { retention := { maxAgeHours := 18446744073709551615 } }
    let now : Instant := { day := 19730, second := 3600, nano := 1999 }
    let before : Instant := { day := 19730, second := 0, nano := 999 }
    let after : Instant := { day := 19730, second := 0, nano := 1000 }
    let t : Table := ⟨[⟨1, .text "other", .blob [0], stampCell .epoch⟩,
      ⟨2, .text "status", .text "\x7b", stampCell before⟩,
      ⟨3, .text "status", .text "\x7b", stampCell after⟩]⟩
    let disk : Disk := { entries := [(["data", "tunnelmon.db"], .database ⟨some t⟩)] }
    let env : Environment := { network := .unreachable, clock := fun _ => now }
    disk.openDatabase config.server.dbPath = .ok ⟨some t⟩ ∧ now.Reading ∧
      (runPrune config disk (some 1) env {}).1.2.find? config.server.dbPath =
        some (.database ⟨some ⟨t.rows.drop 2⟩⟩) ∧
      (runPrune config disk none env {}).1.2.find? config.server.dbPath =
        some (.database ⟨some t⟩) := by
  intro config now before after t disk env
  have hopen : disk.openDatabase config.server.dbPath = .ok ⟨some t⟩ :=
    eq_ok_of_toOption (by decide +kernel)
  have hnow : now.Reading := ⟨by decide, by decide⟩
  let made (r : Row) : Instant := if r.id = 1 then .epoch else if r.id = 2 then before else after
  have hmade : t.MadeAt made := by
    refine ⟨fun r hr => ?_, fun r hr => ?_⟩
    · simp only [t, List.mem_cons, List.not_mem_nil, or_false] at hr
      rcases hr with rfl | rfl | rfl
      · decide
      · decide
      · decide
    · simp only [t, List.mem_cons, List.not_mem_nil, or_false] at hr
      rcases hr with rfl | rfl | rfl
      · rfl
      · rfl
      · rfl
  obtain ⟨hpruned, -, -⟩ := retention_exact env {} hopen hnow hmade
  refine ⟨hopen, hnow, ?_, ?_⟩
  · have hcurrent : t.current made now 1 = ⟨t.rows.drop 2⟩ := by decide +kernel
    exact (hpruned (some 1)).2.table_of_eq hcurrent
  · have hcurrent : t.current made now 18446744073709551615 = t := by decide +kernel
    exact (hpruned none).2.table_of_eq hcurrent

end Command

end EgressWatch
