import EgressWatch.Proofs.Json.Listing
import EgressWatch.Proofs.Snapshot.RoundTrip

/-!
# Snapshots from any listing

A text that lists the members of a written snapshot reads as the snapshot (`decode_listed`), in
whatever order it has them, those of the segments of a speed test too, and whatever other members
are among them. One in which a declared key stands twice does not read (`decode_doubled`).

Both rest on what is true of any record, which asks for two things of its fields. They must be
orderly, each with a key of its own and no effect on the others (`Status.orderly`,
`Segment.orderly`, `SpeedTest.orderly`), and their readers must take values however these are
spelled: strings with other escapes (`respells_text`), instants, which are strings too
(`respells_instant`), and all else as it is written (`respells_other`). `Spells` is what may be done
to a value without members.

A segment has members of its own, so its text is a listing within a listing: `Segment.Spelled` is a
listing of a segment, which reads as the segment (`Segment.take_spelled`), and `SpeedTest.Spelled`
lets it stand where a value stands. A key that stands twice may do so in either
(`SpeedTest.Doubled`); if the text reads, so do its segments, and then no key stands twice in them
(`not_doubled`).

`Snapshot.Listed` and `Kind.Doubled` put the kinds side by side, each with its own fields, for all
that is said of snapshots from here on.
-/

namespace EgressWatch

namespace Json

/-! ## Spelled values -/

/-- How a value that holds no others may be spelled: as it is written, or, if it is a string, with
other escapes. -/
inductive Spells : Json → List Char → Prop
  | written (v : Json) : Spells v (compactText v)
  | text {s : String} {cs : List Char} (h : Denotes cs s.toList) :
      Spells (.text s) ('"' :: (cs ++ ['"']))

theorem Spells.valid {v : Json} {cs : List Char} (h : Spells v cs) : Valid .value cs := by
  cases h with
  | written => exact valid_compactText v
  | text h => exact .string h.chars

theorem respells_text (s : String) : Respells Spells takeString (.text s) := by
  intro cs h rest _
  cases h with
  | written => rfl
  | text h => rw [takeString_denotes h]; exact (takeString_quoted s rest).symm

theorem respells_instant (t : Time.Instant) : Respells Spells takeInstant (.instant t) := by
  intro cs h rest hr
  rw [takeInstant, takeInstant, respells_text _ cs h rest hr]
  rfl

/-- What is no string has one spelling. -/
theorem respells_other {α : Type} {take : List Char → Except Fault (α × List Char)} {v : Json}
    (hv : ∀ s, v ≠ .text s) : Respells Spells take v := by
  intro cs h rest _
  cases h with
  | written => rfl
  | text => exact absurd rfl (hv _)

theorem respells_optional_text (s : String) :
    Respells Spells (takeOptional takeString) (.text s) := by
  intro cs h rest hr
  have hsame := respells_text s cs h rest hr
  cases h with
  | written => rfl
  | text h =>
    have hstart : compactText (.text s) = '"' :: (escaped s.toList ++ ['"']) := rfl
    rw [hstart] at hsame ⊢
    exact (takeOptional_cons (by decide) (by decide)).trans
      ((congrArg _ hsame).trans (takeOptional_cons (by decide) (by decide)).symm)

theorem exact_instant : Exact takeInstant := by
  refine ⟨fun cs => by rw [takeInstant, takeInstant, exact_string.space], fun cs t rest h => ?_⟩
  obtain ⟨⟨s, r⟩, hs, h⟩ := bind_eq_ok h
  simp only at h
  split at h
  next =>
    rw [← (Prod.mk.inj (Except.ok.inj h)).2]
    exact exact_string.skips _ _ _ hs
  next => exact absurd h (by simp)

end Json

open Json

/-! ## The fields of each record -/

theorem Status.orderly : Orderly fields where
  found := by
    simp only [fields, List.forall_mem_cons, List.not_mem_nil, false_implies, implies_true,
      and_true]
    exact ⟨rfl, rfl, rfl, rfl, rfl, rfl, rfl, rfl, rfl, rfl⟩
  exact := by
    simp only [fields, List.forall_mem_cons, List.not_mem_nil, false_implies, implies_true,
      and_true]
    exact ⟨exact_string.member, exact_string.member, exact_string.member, exact_string.member,
      exact_flag.member, exact_flag.member, exact_word.member, exact_string.optional.member,
      exact_string.optional.member, exact_instant.member⟩
  sets := by
    intro f hf put hput s
    simp only [fields, List.mem_cons, List.not_mem_nil, or_false] at hf
    rcases hf with rfl | rfl | rfl | rfl | rfl | rfl | rfl | rfl | rfl | rfl <;>
      · obtain ⟨a, rfl⟩ := Member.puts_of hput
        rfl
  apart := by
    intro f hf g hg hne put hput
    simp only [fields, List.mem_cons, List.not_mem_nil, or_false] at hf hg
    rcases hf with rfl | rfl | rfl | rfl | rfl | rfl | rfl | rfl | rfl | rfl <;>
      obtain ⟨a, rfl⟩ := Member.puts_of hput <;>
      rcases hg with rfl | rfl | rfl | rfl | rfl | rfl | rfl | rfl | rfl | rfl <;>
      first
      | exact absurd rfl hne
      | refine ⟨fun _ => rfl, fun put' hput' _ => ?_⟩
        obtain ⟨b, rfl⟩ := Member.puts_of hput'
        rfl

theorem Segment.orderly : Orderly fields where
  found := by
    simp only [fields, List.forall_mem_cons, List.not_mem_nil, false_implies, implies_true,
      and_true]
    exact ⟨rfl, rfl, rfl, rfl, rfl⟩
  exact := by
    simp only [fields, List.forall_mem_cons, List.not_mem_nil, false_implies, implies_true,
      and_true]
    exact ⟨exact_float.member, exact_word.member, exact_word.member, exact_string.member,
      exact_string.optional.member⟩
  sets := by
    intro f hf put hput s
    simp only [fields, List.mem_cons, List.not_mem_nil, or_false] at hf
    rcases hf with rfl | rfl | rfl | rfl | rfl <;>
      · obtain ⟨a, rfl⟩ := Member.puts_of hput
        rfl
  apart := by
    intro f hf g hg hne put hput
    simp only [fields, List.mem_cons, List.not_mem_nil, or_false] at hf hg
    rcases hf with rfl | rfl | rfl | rfl | rfl <;>
      obtain ⟨a, rfl⟩ := Member.puts_of hput <;>
      rcases hg with rfl | rfl | rfl | rfl | rfl <;>
      first
      | exact absurd rfl hne
      | refine ⟨fun _ => rfl, fun put' hput' _ => ?_⟩
        obtain ⟨b, rfl⟩ := Member.puts_of hput'
        rfl

theorem Segment.exact_take : Exact take :=
  (exact_record orderly.exact {}).bind Draft.finish

theorem SpeedTest.orderly : Orderly fields where
  found := by
    simp only [fields, List.forall_mem_cons, List.not_mem_nil, false_implies, implies_true,
      and_true]
    exact ⟨rfl, rfl, rfl, rfl, rfl⟩
  exact := by
    simp only [fields, List.forall_mem_cons, List.not_mem_nil, false_implies, implies_true,
      and_true]
    exact ⟨Segment.exact_take.optional.member, Segment.exact_take.optional.member,
      exact_word.member, exact_instant.member, exact_string.optional.member⟩
  sets := by
    intro f hf put hput s
    simp only [fields, List.mem_cons, List.not_mem_nil, or_false] at hf
    rcases hf with rfl | rfl | rfl | rfl | rfl <;>
      · obtain ⟨a, rfl⟩ := Member.puts_of hput
        rfl
  apart := by
    intro f hf g hg hne put hput
    simp only [fields, List.mem_cons, List.not_mem_nil, or_false] at hf hg
    rcases hf with rfl | rfl | rfl | rfl | rfl <;>
      obtain ⟨a, rfl⟩ := Member.puts_of hput <;>
      rcases hg with rfl | rfl | rfl | rfl | rfl <;>
      first
      | exact absurd rfl hne
      | refine ⟨fun _ => rfl, fun put' hput' _ => ?_⟩
        obtain ⟨b, rfl⟩ := Member.puts_of hput'
        rfl

/-! ## Drafts -/

namespace Json

variable {σ α : Type} {fields : List (Member σ)} {ms : List (String × Json)} {empty d : σ}
  {finish : σ → Except Fault α} {a : α} {entries : List Entry} {cs : List Char}

/-- Entries that list the members of an object read as the object does. -/
theorem takeDraft_lists (ho : Orderly fields) (h : Reads fields ms empty d)
    (hd : (fields.any fun f => f.required && !f.isSet d) = false) (ha : finish d = .ok a)
    {Spelled : Json → List Char → Prop} (hre : ∀ m ∈ ms, RespelledMember Spelled fields m)
    (hl : Lists (declared fields) Spelled ms entries) (htext : ObjectText entries cs)
    (rest : List Char) : takeDraft fields empty finish (cs ++ rest) = .ok (a, rest) := by
  rw [takeDraft, takeRecord_entries (h.readsEntries ho hre hl) htext, closed, hd]
  show (do let a ← finish d; Except.ok (a, rest)) = _
  rw [ha]
  rfl

theorem exact_takeDraft (ho : Orderly fields) : Exact (takeDraft fields empty finish) :=
  (exact_record ho.exact empty).bind finish

/-- Entries that are read have no declared key twice. -/
theorem readable_of_takeDraft (ho : Orderly fields) (htext : ObjectText entries cs)
    (hvalid : ∀ e ∈ entries, Valid .element e.2) {rest : List Char} {taken : α × List Char}
    (h : takeDraft fields empty finish (cs ++ rest) = .ok taken) :
    Readable fields empty entries := by
  obtain ⟨⟨d, r⟩, hrecord, -⟩ := bind_eq_ok h
  exact readable_of_takeRecord ho htext hvalid hrecord

theorem take_spaced {take : List Char → Except Fault (α × List Char)} (h : Exact take)
    {s : List Char} (hs : Blank s) (rest : List Char) : take (s ++ rest) = take rest := by
  rw [← h.space, skipSpace_append hs, h.space]

/-- A whole text may have space around the value that it is read as. -/
theorem readAll_spaced {take : List Char → Except Fault (α × List Char)} (h : Exact take)
    {P : List Char → Prop} (hread : ∀ cs, P cs → ∀ rest, take (cs ++ rest) = .ok (a, rest))
    {text : String} (htext : Spaced P text.toList) : readAll take text = .ok a := by
  obtain ⟨s, cs, t, hs, hcs, ht, heq⟩ := htext
  have hend : skipSpace t = [] := by
    rw [← List.append_nil t, skipSpace_append ht]
    rfl
  rw [readAll, heq, take_spaced h hs, hread cs hcs]
  simp only [bind, Except.bind, hend]
  rfl

/-- Entries that are read, with space around them, have no declared key twice. -/
theorem readable_of_readAll (ho : Orderly fields) (hvalid : ∀ e ∈ entries, Valid .element e.2)
    {text : String} (htext : Spaced (ObjectText entries) text.toList)
    (h : readAll (takeDraft fields empty finish) text = .ok a) : Readable fields empty entries := by
  obtain ⟨s, cs, t, hs, hcs, -, heq⟩ := htext
  obtain ⟨taken, htake, -⟩ := bind_eq_ok h
  rw [heq, take_spaced (exact_takeDraft ho) hs] at htake
  exact readable_of_takeDraft ho hcs hvalid htake

end Json

/-! ## Listings -/

namespace Status

/-- The entries are the members of the status in any order, among others. -/
def Listed (s : Status) (entries : List Entry) : Prop :=
  ∃ ms, s.toJson = .object ms ∧ Lists (declared fields) Spells ms entries

theorem respelled_toJson {s : Status} {ms : List (String × Json)} (h : s.toJson = .object ms) :
    ∀ m ∈ ms, RespelledMember Spells fields m :=
  knownAs_toJson (fun a => (respells_text a).relates) (fun b => (respells_other (by simp)).relates)
    (fun n => (respells_other (by simp [word])).relates)
    (fun a => (respells_optional_text a).relates) (fun t => (respells_instant t).relates) h

/-- Entries that list the members of a status read as the status. -/
theorem take_listed {s : Status} {entries : List Entry} (hl : s.Listed entries) {cs : List Char}
    (htext : ObjectText entries cs) (rest : List Char) : take (cs ++ rest) = .ok (s, rest) := by
  obtain ⟨ms, hms, hlists⟩ := hl
  obtain ⟨ms', hms', hreads⟩ := s.reads_toJson
  cases hms.symm.trans hms'
  exact takeDraft_lists orderly hreads rfl s.finish_draft (respelled_toJson hms) hlists htext rest

end Status

namespace Segment

/-- The text has the members of a segment in any order, among others. -/
def Spelled (v : Json) (cs : List Char) : Prop :=
  ∃ ms entries, v = .object ms ∧ Lists (declared fields) Spells ms entries ∧ ObjectText entries cs

theorem take_spelled {s : Segment} (h : Faithful s.speed) {cs : List Char}
    (hs : Spelled s.toJson cs) (rest : List Char) : take (cs ++ rest) = .ok (s, rest) := by
  obtain ⟨ms, entries, hms, hlists, htext⟩ := hs
  obtain ⟨ms', hms', hreads⟩ := reads_toJson h
  cases hms.symm.trans hms'
  have hre : ∀ m ∈ ms, RespelledMember Spells fields m :=
    knownAs_toJson (respells_other (by simp)).relates
      (fun n => (respells_other (by simp [word])).relates) (fun a => (respells_text a).relates)
      (fun a => (respells_optional_text a).relates) hms
  exact takeDraft_lists orderly hreads rfl s.finish_draft hre hlists htext rest

theorem Spelled.valid {v : Json} {cs : List Char} (h : Spelled v cs) : Valid .value cs := by
  obtain ⟨ms, entries, -, hlists, htext⟩ := h
  exact htext.valid (hlists.valid fun _ _ => Spells.valid)

end Segment

namespace SpeedTest

/-- How the value of a member of a speed test may be spelled. -/
def Spelled (v : Json) (cs : List Char) : Prop := Spells v cs ∨ Segment.Spelled v cs

theorem Spelled.valid {v : Json} {cs : List Char} (h : Spelled v cs) : Valid .value cs :=
  h.elim Spells.valid Segment.Spelled.valid

/-- The entries are the members of the speed test in any order, among others. -/
def Listed (t : SpeedTest) (entries : List Entry) : Prop :=
  ∃ ms, t.toJson = .object ms ∧ Lists (declared fields) Spelled ms entries

/-- What holds no others is spelled as anywhere. -/
theorem respells_scalar {α : Type} {take : List Char → Except Fault (α × List Char)} {v : Json}
    (hv : ∀ ms, v ≠ .object ms) (h : Respells Spells take v) : Respells Spelled take v := by
  rintro cs (hs | ⟨ms, -, hms, -⟩) rest hr
  · exact h cs hs rest hr
  · exact absurd hms (hv ms)

theorem respells_segment {s : Segment} (h : Faithful s.speed) :
    Respells Spelled (takeOptional Segment.take) s.toJson := by
  rintro cs (hs | hs) rest hr
  · exact respells_other (by simp [Segment.toJson]) cs hs rest hr
  · have htake := Segment.take_spelled h hs rest
    obtain ⟨-, entries, -, -, inner, -, rfl⟩ := hs
    rw [Segment.readsAs_optional_toJson h rest hr, List.cons_append]
    rw [List.cons_append] at htake
    rw [takeOptional_cons (by decide) (by decide), htake]
    rfl

theorem respelled_toJson {t : SpeedTest} (h : ∀ s ∈ t.segments, Faithful s.speed)
    {ms : List (String × Json)} (hms : t.toJson = .object ms) :
    ∀ m ∈ ms, RespelledMember Spelled fields m :=
  knownAs_toJson (fun s hs => (respells_segment (h s hs)).relates)
    (fun n => (respells_scalar (by simp [word]) (respells_other (by simp [word]))).relates)
    (fun i => (respells_scalar (by simp [instant]) (respells_instant i)).relates)
    (fun a => (respells_scalar (by simp) (respells_optional_text a)).relates) hms

/-- Entries that list the members of a speed test read as the speed test. -/
theorem take_listed {t : SpeedTest} (h : ∀ s ∈ t.segments, Faithful s.speed)
    {entries : List Entry} (hl : t.Listed entries) {cs : List Char}
    (htext : ObjectText entries cs) (rest : List Char) : take (cs ++ rest) = .ok (t, rest) := by
  obtain ⟨ms, hms, hlists⟩ := hl
  obtain ⟨ms', hms', hreads⟩ := reads_toJson h
  cases hms.symm.trans hms'
  exact takeDraft_lists orderly hreads rfl t.finish_draft (respelled_toJson h hms) hlists htext rest

/-- A declared key stands twice, be it in the speed test or in one of its segments. -/
def Doubled (entries : List Entry) : Prop :=
  Twice (declared fields) entries ∨
    ∃ e ∈ entries, (e.1 = "local_egress" ∨ e.1 = "upstream") ∧
      ∃ inner, (∀ i ∈ inner, Valid .element i.2) ∧ Spaced (ObjectText inner) e.2 ∧
        Twice (declared Segment.fields) inner

/-- A segment that is read has no declared key twice. -/
theorem segment_not_twice {inner : List Entry} (hvalid : ∀ e ∈ inner, Valid .element e.2)
    {v : List Char} (htext : Spaced (ObjectText inner) v) {rest : List Char}
    {taken : Option Segment × List Char}
    (h : takeOptional Segment.take (v ++ rest) = .ok taken) :
    ¬ Twice (declared Segment.fields) inner := by
  obtain ⟨s, cs, t, hs, hcs, -, rfl⟩ := htext
  have hobject := hcs
  obtain ⟨text, -, rfl⟩ := hcs
  rw [List.append_assoc, take_spaced Segment.exact_take.optional hs, List.append_assoc,
    List.cons_append, takeOptional_cons (by decide) (by decide), ← List.cons_append] at h
  obtain ⟨segment, htake, -⟩ := map_eq_ok h
  exact (readable_of_takeDraft Segment.orderly hobject hvalid htake).not_twice

/-- Neither does the speed test, nor its segments. -/
theorem not_doubled {entries : List Entry} (h : Readable fields {} entries) :
    ¬ Doubled entries := by
  rintro (htwice | ⟨e, he, hkey, inner, hvalid, htext, htwice⟩)
  · exact h.not_twice htwice
  · have hread : ∃ rest taken, takeOptional Segment.take (e.2 ++ rest) = .ok taken := by
      rcases hkey with hkey | hkey <;>
        · obtain ⟨rest, taken, htake⟩ := h.taken e he _ (by rw [hkey]; rfl)
          obtain ⟨segment, hsegment, -⟩ := map_eq_ok htake
          exact ⟨rest, segment, hsegment⟩
    obtain ⟨rest, taken, htake⟩ := hread
    exact segment_not_twice hvalid htext htake htwice

end SpeedTest

namespace Snapshot

/-- The entries are the members of the written snapshot in any order, those of its segments too,
among others whose keys are not declared. -/
def Listed : Snapshot → List Entry → Prop
  | status s => s.Listed
  | speedTest t => t.Listed

/-- The keys that are declared for a kind. -/
def Kind.declared : Kind → List String
  | .status => Json.declared Status.fields
  | .speedTest => Json.declared SpeedTest.fields

/-- A declared key stands twice, be it in the object or in a segment. -/
def Kind.Doubled : Kind → List Entry → Prop
  | .status => Twice (Json.declared Status.fields)
  | .speedTest => SpeedTest.Doubled

theorem Kind.Doubled.of_twice {kind : Kind} {entries : List Entry}
    (h : Twice kind.declared entries) : kind.Doubled entries := by
  cases kind with
  | status => exact h
  | speedTest => exact .inl h

theorem Listed.valid {s : Snapshot} {entries : List Entry} (h : s.Listed entries) :
    ∀ e ∈ entries, Valid .element e.2 := by
  cases s with
  | status s =>
    obtain ⟨ms, -, hlists⟩ := h
    exact hlists.valid fun _ _ => Spells.valid
  | speedTest t =>
    obtain ⟨ms, -, hlists⟩ := h
    exact hlists.valid fun _ _ => SpeedTest.Spelled.valid

/-- A text that lists the members of a snapshot reads as the snapshot. -/
theorem decode_listed {s : Snapshot} (h : s.Faithful) {entries : List Entry}
    (hl : s.Listed entries) {text : String} (htext : Spaced (ObjectText entries) text.toList) :
    decode s.kind text = .ok s := by
  cases s with
  | status s =>
    show (readAll Status.take text).map status = _
    rw [Status.take_eq, readAll_spaced (exact_takeDraft Status.orderly)
      (fun cs hcs => Status.take_listed hl hcs) htext]
    rfl
  | speedTest t =>
    show (readAll SpeedTest.take text).map speedTest = _
    rw [SpeedTest.take_eq, readAll_spaced (exact_takeDraft SpeedTest.orderly)
      (fun cs hcs => SpeedTest.take_listed h hl hcs) htext]
    rfl

/-- A text in which a declared key stands twice does not read. -/
theorem decode_doubled {kind : Kind} {entries : List Entry} (hd : kind.Doubled entries)
    (hvalid : ∀ e ∈ entries, Valid .element e.2) {text : String}
    (htext : Spaced (ObjectText entries) text.toList) :
    ∃ fault, decode kind text = .error fault := by
  cases hdecode : decode kind text with
  | error fault => exact ⟨fault, rfl⟩
  | ok s =>
    exfalso
    cases kind with
    | status =>
      obtain ⟨s, hread, -⟩ := map_eq_ok hdecode
      exact (readable_of_readAll Status.orderly hvalid htext hread).not_twice hd
    | speedTest =>
      obtain ⟨t, hread, -⟩ := map_eq_ok hdecode
      exact SpeedTest.not_doubled (readable_of_readAll SpeedTest.orderly hvalid htext hread) hd

end Snapshot

end EgressWatch
