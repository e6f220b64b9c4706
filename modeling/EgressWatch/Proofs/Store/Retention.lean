import EgressWatch.Proofs.Store.Pruning

/-!
# Retention

Removing what is older than some age does not touch what a window within that age shows
(`recentStatuses_pruned`, `recentSpeedTests_pruned`). Of the two cutoffs, that of the removal never
falls after that of the window, for its clock was read earlier and its span is at least as long; and
where the way back leads out of the calendar it is the epoch, which nothing lies before. So a row
that was removed lies before the window (`before_of_pruned`), and the window holds the same rows
(`window_pruned`), damaged ones among them, of which the same ones are the newest.

Only the stamps matter: `Stamped` asks that they were written by the store, for instants since the
epoch, and says nothing about tags and texts.
-/

namespace EgressWatch.Store

open Time

/-- The stamps of the rows were written by the store, for instants since the epoch. Nothing is said
about the texts. -/
def Stamped (t : Table) : Prop :=
  ∀ r ∈ t.rows, ∃ u : Instant, u.SinceEpoch ∧ r.created = stampCell u

section Pruned

variable {t : Table} {now₁ now₂ : Instant} {age window : Span}

/-- What is removed lies before the window. -/
theorem before_of_pruned (h₁ : now₁.Reading) (h₂ : now₂.Reading) (hle : ¬ now₂ < now₁)
    (hw : window ≤ age) {u : Instant} (hu : u.SinceEpoch)
    (h : (stampCell u).before (stampCell (now₁.ago age)) = true) :
    (stampCell u).before (stampCell (now₂.ago window)) = true := by
  rw [before_stampCell hu.plainYear (h₁.year_ago_le age), decide_eq_true_eq] at h
  rw [before_stampCell hu.plainYear (h₂.year_ago_le window), decide_eq_true_eq]
  rcases Instant.ago_mono h₁ h₂ hle hw with hepoch | horder
  -- nothing that was stamped lies before the epoch, so nothing was removed
  · have hday : (0 : Int) ≤ u.day := hu.1
    rw [hepoch, Instant.cut_lt_cut] at h
    simp only [Instant.epoch] at h
    omega
  · have hcut := Instant.cut_le_cut horder
    rw [Instant.lt_def] at h hcut ⊢
    omega

theorem window_pruned (ht : Stamped t) (h₁ : now₁.Reading) (h₂ : now₂.Reading)
    (hle : ¬ now₂ < now₁) (hw : window ≤ age) (kind : Snapshot.Kind) :
    (t.pruneOlderThan now₁ age).2.window kind (now₂.ago window) =
      t.window kind (now₂.ago window) := by
  have hleft : (t.pruneOlderThan now₁ age).2 = t.unexpired (now₁.ago age) := by
    rw [Table.pruneOlderThan, Table.pruneBefore_eq]
  rw [hleft]
  refine Table.window_unexpired fun r hr hold => ?_
  obtain ⟨u, hu, hcreated⟩ := ht r hr
  rw [hcreated] at hold ⊢
  exact before_of_pruned h₁ h₂ hle hw hu hold

theorem recentStatuses_pruned (ht : Stamped t) (h₁ : now₁.Reading) (h₂ : now₂.Reading)
    (hle : ¬ now₂ < now₁) (hw : window ≤ age) :
    (t.pruneOlderThan now₁ age).2.recentStatuses now₂ window = t.recentStatuses now₂ window := by
  rw [Table.recentStatuses, Table.recentStatuses, Table.statusesSince_eq, Table.statusesSince_eq,
    Table.ranked, Table.ranked, window_pruned ht h₁ h₂ hle hw]

theorem recentSpeedTests_pruned (ht : Stamped t) (h₁ : now₁.Reading) (h₂ : now₂.Reading)
    (hle : ¬ now₂ < now₁) (hw : window ≤ age) :
    (t.pruneOlderThan now₁ age).2.recentSpeedTests now₂ window =
      t.recentSpeedTests now₂ window := by
  rw [Table.recentSpeedTests, Table.recentSpeedTests, Table.speedTestsSince_eq,
    Table.speedTestsSince_eq, Table.ranked, Table.ranked, window_pruned ht h₁ h₂ hle hw]

end Pruned

end EgressWatch.Store
