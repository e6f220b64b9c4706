import EgressWatch.Proofs.Json.Sorted
import EgressWatch.Proofs.Json.Written
import EgressWatch.Proofs.Snapshot.Listed

/-!
# Snapshots with their members rearranged

Where the members of a snapshot are in another order, those of its segments too, it is written with
other texts, without space or in lines. They all list the members of the snapshot, so they read as
the snapshot (`decode_rearranged`), and in particular what is printed does (`decode_pretty`).

`SpelledAnyhow` says of a value that every text for it is one of its spellings, however the members
in it are arranged and however it is written. Scalars are spelled in one way
(`Scalar.spelledAnyhow`), and an object in which each value is spelled anyhow is written as entries
that list its members (`Rearranged.lists`). A status has only scalars in it, a segment too, and a
speed test has segments (`Status.listed_of_written`, `Segment.spelledAnyhow`,
`SpeedTest.listed_of_written`).
-/

namespace EgressWatch

namespace Json

/-- However the members of objects in the value are arranged, and however it is written then, this
is a spelling of it. -/
def SpelledAnyhow (Spelled : Json → List Char → Prop) (v : Json) : Prop :=
  ∀ w cs, Rearranged v w → Written w cs → Spelled v cs

theorem Scalar.spelledAnyhow {v : Json} (h : v.Scalar) : SpelledAnyhow Spells v := by
  intro w cs hr hw
  cases hr with
  | scalar =>
    rw [h.written_iff.mp hw]
    exact .written v
  | list | object => exact h.elim

/-- An object with its members rearranged is written as entries that list its members. -/
theorem Rearranged.lists {declared : List String} {Spelled : Json → List Char → Prop}
    {ms : List (String × Json)} (hs : ∀ m ∈ ms, SpelledAnyhow Spelled m.2) {v : Json}
    (h : Rearranged (.object ms) v) {cs : List Char} (hw : Written v cs) :
    ∃ entries, Lists declared Spelled ms entries ∧ ObjectText entries cs := by
  cases h with
  | scalar h => exact h.elim
  | object f hf hp =>
    obtain ⟨write, hwrite, htext⟩ := hw.object
    refine ⟨_, ⟨ms.map fun m => (m.1, write (f m.2)), [], ?_, ?_, nofun⟩, htext⟩
    · rw [List.append_nil]
      have hperm := hp.map fun m => (m.1, write m.2)
      rwa [List.map_map] at hperm
    · rw [List.forall₂_map_right_iff, List.forall₂_same]
      exact fun m hm => ⟨rfl, Spaced.imp (fun cs => hs m hm _ cs (hf m hm)) (hwrite (f m.2))⟩

theorem SpelledAnyhow.mono {P Q : Json → List Char → Prop} (h : ∀ v cs, P v cs → Q v cs) {v : Json}
    (hv : SpelledAnyhow P v) : SpelledAnyhow Q v :=
  fun w cs hr hw => h v cs (hv w cs hr hw)

end Json

open Json

/-! ## What is written of each record -/

/-- A status with its members rearranged is written as entries that list them. -/
theorem Status.listed_of_written {s : Status} {v : Json} (hv : Rearranged s.toJson v)
    {cs : List Char} (hw : Written v cs) : ∃ entries, s.Listed entries ∧ ObjectText entries cs := by
  have hscalar {w : Json} (h : w.Scalar) : SpelledAnyhow Spells w := h.spelledAnyhow
  have hknown := knownAs_toJson (P := fun _ w => SpelledAnyhow Spells w) (s := s)
    (fun a => relates_of (hscalar trivial)) (fun b => relates_of (hscalar trivial))
    (fun n => relates_of (hscalar trivial)) (fun a => relates_of (hscalar trivial))
    (fun t => relates_of (hscalar trivial)) rfl
  obtain ⟨entries, hlists, htext⟩ := hv.lists (fun m hm => (hknown m hm).elim fun _ => And.right) hw
  exact ⟨entries, ⟨_, rfl, hlists⟩, htext⟩

/-- So is a segment. -/
theorem Segment.spelledAnyhow (s : Segment) : SpelledAnyhow Spelled s.toJson := by
  intro v cs hv hw
  have hscalar {w : Json} (h : w.Scalar) : SpelledAnyhow Spells w := h.spelledAnyhow
  have hknown := knownAs_toJson (P := fun _ w => SpelledAnyhow Spells w) (s := s)
    (relates_of (hscalar trivial)) (fun n => relates_of (hscalar trivial))
    (fun a => relates_of (hscalar trivial)) (fun a => relates_of (hscalar trivial)) rfl
  obtain ⟨entries, hlists, htext⟩ := hv.lists (fun m hm => (hknown m hm).elim fun _ => And.right) hw
  exact ⟨_, entries, rfl, hlists, htext⟩

/-- So is a speed test. -/
theorem SpeedTest.listed_of_written {t : SpeedTest} {v : Json} (hv : Rearranged t.toJson v)
    {cs : List Char} (hw : Written v cs) : ∃ entries, t.Listed entries ∧ ObjectText entries cs := by
  have hscalar {w : Json} (h : w.Scalar) : SpelledAnyhow Spelled w :=
    h.spelledAnyhow.mono fun _ _ => .inl
  have hknown := knownAs_toJson (P := fun _ w => SpelledAnyhow Spelled w) (t := t)
    (fun s _ => relates_of (s.spelledAnyhow.mono fun _ _ => .inr))
    (fun n => relates_of (hscalar trivial)) (fun i => relates_of (hscalar trivial))
    (fun a => relates_of (hscalar trivial)) rfl
  obtain ⟨entries, hlists, htext⟩ := hv.lists (fun m hm => (hknown m hm).elim fun _ => And.right) hw
  exact ⟨entries, ⟨_, rfl, hlists⟩, htext⟩

/-! ## Reading -/

theorem Snapshot.listed_of_written {s : Snapshot} {v : Json} (hv : Rearranged s.toJson v)
    {cs : List Char} (hw : Written v cs) : ∃ entries, s.Listed entries ∧ ObjectText entries cs := by
  cases s with
  | status s => exact s.listed_of_written hv hw
  | speedTest t => exact t.listed_of_written hv hw

/-- What is written of a snapshot with its members rearranged, be there space around it, reads as
the snapshot. -/
theorem Snapshot.decode_rearranged {s : Snapshot} (h : s.Faithful) {v : Json}
    (hv : Rearranged s.toJson v) {text : String} (htext : Spaced (Written v) text.toList) :
    decode s.kind text = .ok s := by
  obtain ⟨before, cs, after, hbefore, hw, hafter, heq⟩ := htext
  obtain ⟨entries, hlisted, hobject⟩ := listed_of_written hv hw
  exact decode_listed h hlisted ⟨before, cs, after, hbefore, hobject, hafter, heq⟩

/-- What is printed of a snapshot reads back as the snapshot. -/
theorem Snapshot.decode_pretty {s : Snapshot} (h : s.Faithful) :
    decode s.kind (s.toJson.pretty ++ "\n") = .ok s := by
  refine decode_rearranged h (.refl _) ⟨[], _, ['\n'], blank_nil, .pretty 0, ?_, ?_⟩
  · exact List.forall_mem_singleton.mpr (by decide)
  · rw [String.toList_append, pretty, String.toList_ofList]
    rfl

/-- What is printed of a status reads back as the status. -/
theorem Status.decode_pretty (s : Status) : decode (s.toJson.pretty ++ "\n") = .ok s := by
  have hread : (decode (s.toJson.pretty ++ "\n")).map Snapshot.status = .ok (.status s) :=
    Snapshot.decode_pretty (s := .status s) trivial
  obtain ⟨s', hread, heq⟩ := map_eq_ok hread
  rw [hread, Snapshot.status.inj heq]

end EgressWatch
