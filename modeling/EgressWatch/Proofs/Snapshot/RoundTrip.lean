import EgressWatch.Proofs.Json.Record
import EgressWatch.Proofs.Time.Stamp
import EgressWatch.Snapshot.Basic

/-!
# Snapshots read back

What is left out of a written snapshot is what reads as not known, so a snapshot reads back as it
was:

> `round_trip`: every status reads back, whatever it holds, and every speed test whose speeds do;
> under the tag of the other kind neither ever reads.

A record is read in two steps, its members into a draft and the draft into a value, and for each
kind there is the draft that its written members make (`Status.draft`, `Segment.draft`,
`SpeedTest.draft`). That reading makes this draft follows the fields one by one
(`Status.reads_toJson` and its siblings), and that it is finished to the value that was written is a
computation (`finish_draft`). An empty text that is left out and a missing text that is written as
one have the same draft, and so does a member that may be `null`.

Under the other tag none of the keys is known, so the draft stays empty and the members that a
snapshot of that kind cannot do without are missing (`readAll_object_mismatched`).

`Snapshot.Faithful` is what has to be asked of speeds: that they are finite and read back. What is
said here of members, once for each kind (`knownAs_toJson`), serves the modules on other texts as
well.
-/

namespace EgressWatch

open Json

namespace Json

theorem readsAs_instant (t : Time.Instant) : ReadsAs takeInstant (.instant t) t := by
  intro rest _
  have hs : takeString (compactText (.instant t) ++ rest) = .ok (String.ofList t.stamp, rest) :=
    takeString_quoted _ rest
  rw [takeInstant, hs]
  simp only [bind, Except.bind, String.toList_ofList, Time.Instant.ofLooseStamp?_stamp]

theorem readsAs_optional_text (s : String) : ReadsAs (takeOptional takeString) (.text s) (some s) :=
  (readsAs_text s).optional (by rw [compactText] <;> simp [scalarText, quoted])

theorem getD_nonempty? (s : String) : (nonempty? s).getD "" = s := by
  unfold nonempty?
  split
  next h => exact h.symm
  next => rfl

/-- A member that may be `null` is there or not, and if it is there it is not `null`. -/
theorem join_map_some {α : Type} (o : Option α) : (o.map some).join = o := by
  cases o <;> rfl

/-- The text of a value alone reads as the value. -/
theorem readAll_compact {α : Type} {take : List Char → Except Fault (α × List Char)} {v : Json}
    {a : α} (h : ReadsAs take v a) : readAll take v.compact = .ok a := by
  have htake := h [] numberEnd_nil
  rw [List.append_nil] at htake
  rw [readAll, compact, String.toList_ofList, htake]
  rfl

variable {σ α : Type} {fields : List (Member σ)} {ms : List (String × Json)} {empty d : σ}

/-- A reader of records that are made of a draft. -/
def takeDraft (fields : List (Member σ)) (empty : σ) (finish : σ → Except Fault α)
    (cs : List Char) : Except Fault (α × List Char) := do
  let (d, rest) ← takeRecord fields empty cs
  let a ← finish d
  .ok (a, rest)

/-- An object reads as what its draft is finished to, if the draft has the required members. What
follows its end is left alone, whatever it is. -/
theorem takeDraft_object {finish : σ → Except Fault α} {a : α} (h : Reads fields ms empty d)
    (hd : (fields.any fun f => f.required && !f.isSet d) = false) (ha : finish d = .ok a)
    (rest : List Char) :
    takeDraft fields empty finish (compactText (.object ms) ++ rest) = .ok (a, rest) := by
  rw [takeDraft, takeRecord_object h, closed, hd]
  show (do let a ← finish d; Except.ok (a, rest)) = _
  rw [ha]
  rfl

theorem readsAs_object {finish : σ → Except Fault α} {a : α} (h : Reads fields ms empty d)
    (hd : (fields.any fun f => f.required && !f.isSet d) = false) (ha : finish d = .ok a) :
    ReadsAs (takeDraft fields empty finish) (.object ms) a :=
  fun rest _ => takeDraft_object h hd ha rest

/-- An object does not read where its members leave a required one out. -/
theorem readAll_object_mismatched {finish : σ → Except Fault α} (h : Reads fields ms empty d)
    (hd : (fields.any fun f => f.required && !f.isSet d) = true) :
    readAll (takeDraft fields empty finish) (Json.object ms).compact = .error .mismatched := by
  have htake := takeRecord_object h []
  rw [List.append_nil, closed, hd] at htake
  rw [readAll, compact, String.toList_ofList, takeDraft, htake]
  rfl

end Json

namespace Status

/-- The draft that the members of a written status make. -/
def draft (s : Status) : Draft where
  machineIp := some s.machineIp
  tunnelIp := some s.tunnelIp
  tunnelAsn := nonempty? s.tunnelAsn
  tunnelOrg := nonempty? s.tunnelOrg
  tunnelActive := some s.tunnelActive
  upstreamOk := some s.upstreamOk
  upstreamLatency := some s.upstreamLatency
  upstreamSeenIp := s.upstreamSeenIp.map some
  lastError := s.lastError.map some
  checkedAt := some s.checkedAt

theorem reads_toJson (s : Status) : ∃ ms, s.toJson = .object ms ∧ Reads fields ms {} s.draft := by
  have hips : Reads fields [("machine_ip", .text s.machineIp), ("tunnel_ip", .text s.tunnelIp)] {}
      { machineIp := some s.machineIp, tunnelIp := some s.tunnelIp } :=
    .known rfl rfl (readsAs_text _).member (.known rfl rfl (readsAs_text _).member .nil)
  -- an empty text is left out, which leaves its place in the draft empty too
  have hasn := hips.append (reads_member? "tunnel_asn" .text (nonempty? s.tunnelAsn)
    (fun o (d : Draft) => { d with tunnelAsn := o }) rfl rfl
    (fun a _ => (readsAs_text a).member) rfl)
  have horg := hasn.append (reads_member? "tunnel_org" .text (nonempty? s.tunnelOrg)
    (fun o (d : Draft) => { d with tunnelOrg := o }) rfl rfl
    (fun a _ => (readsAs_text a).member) rfl)
  have hflags := horg.append (.known (k := "tunnel_active") rfl rfl
    (readsAs_flag s.tunnelActive).member (.known (k := "upstream_ok") rfl rfl
      (readsAs_flag s.upstreamOk).member (.known (k := "upstream_latency_ms") rfl rfl
        (readsAs_word s.upstreamLatency).member .nil)))
  have hseen := hflags.append (reads_member? "upstream_seen_ip" .text s.upstreamSeenIp
    (fun o (d : Draft) => { d with upstreamSeenIp := o.map some }) rfl rfl
    (fun a _ => (readsAs_optional_text a).member) rfl)
  have herror := hseen.append (reads_member? "last_error" .text s.lastError
    (fun o (d : Draft) => { d with lastError := o.map some }) rfl rfl
    (fun a _ => (readsAs_optional_text a).member) rfl)
  exact ⟨_, rfl, herror.append (.known rfl rfl (readsAs_instant s.checkedAt).member .nil)⟩

/-- Each member of a written status is a value of the type of its field. -/
theorem knownAs_toJson {P : Member Draft → Json → Prop}
    (htext : ∀ a, Relates P takeString (.text a))
    (hflag : ∀ b, Relates P takeFlag (.flag b)) (hword : ∀ n, Relates P takeUInt64 (.word n))
    (hoptional : ∀ a, Relates P (takeOptional takeString) (.text a))
    (hinstant : ∀ t, Relates P takeInstant (.instant t)) {s : Status} {ms : List (String × Json)}
    (h : s.toJson = .object ms) : ∀ m ∈ ms, KnownAs P fields m := by
  cases h
  simp only [List.forall_mem_append, List.forall_mem_cons, List.not_mem_nil, false_implies,
    implies_true, and_true]
  refine ⟨⟨⟨⟨⟨⟨⟨?_, ?_⟩, ?_⟩, ?_⟩, ?_, ?_, ?_⟩, ?_⟩, ?_⟩, ?_⟩
  · exact ⟨_, rfl, htext _ _ _ _ _⟩
  · exact ⟨_, rfl, htext _ _ _ _ _⟩
  · exact knownAs_member? fun a _ => ⟨_, rfl, htext a _ _ _ _⟩
  · exact knownAs_member? fun a _ => ⟨_, rfl, htext a _ _ _ _⟩
  · exact ⟨_, rfl, hflag _ _ _ _ _⟩
  · exact ⟨_, rfl, hflag _ _ _ _ _⟩
  · exact ⟨_, rfl, hword _ _ _ _ _⟩
  · exact knownAs_member? fun a _ => ⟨_, rfl, hoptional a _ _ _ _⟩
  · exact knownAs_member? fun a _ => ⟨_, rfl, hoptional a _ _ _ _⟩
  · exact ⟨_, rfl, hinstant _ _ _ _ _⟩

theorem finish_draft (s : Status) : s.draft.finish = .ok s := by
  simp only [draft, Draft.finish, getD_nonempty?, join_map_some]

theorem take_eq : take = takeDraft fields {} Draft.finish := rfl

/-- A written status reads back. -/
theorem readsAs_toJson (s : Status) : ReadsAs take s.toJson s := by
  obtain ⟨ms, hms, hreads⟩ := s.reads_toJson
  rw [hms]
  exact readsAs_object hreads rfl s.finish_draft

/-- None of the members of a status is known to a speed test. -/
theorem reads_toJson_speedTest (s : Status) :
    ∃ ms, s.toJson = .object ms ∧ Reads SpeedTest.fields ms {} {} := by
  have hips : Reads SpeedTest.fields
      [("machine_ip", .text s.machineIp), ("tunnel_ip", .text s.tunnelIp)] {} {} :=
    .unknown rfl (.unknown rfl .nil)
  have hflags : Reads SpeedTest.fields
      [("tunnel_active", .flag s.tunnelActive), ("upstream_ok", .flag s.upstreamOk),
        ("upstream_latency_ms", .word s.upstreamLatency)] {} {} :=
    .unknown rfl (.unknown rfl (.unknown rfl .nil))
  refine ⟨_, rfl, ?_⟩
  exact .append (.append (.append (.append (.append (.append hips (reads_member?_unknown rfl _))
    (reads_member?_unknown rfl _)) hflags) (reads_member?_unknown rfl _))
    (reads_member?_unknown rfl _)) (.unknown rfl .nil)

end Status

namespace Segment

/-- The draft that the members of a written segment make. -/
def draft (s : Segment) : Draft where
  speed := some s.speed
  latency := some s.latency
  bytes := some s.bytes
  sourceIp := some s.sourceIp
  destIp := s.destIp.map some

theorem reads_toJson {s : Segment} (h : Faithful s.speed) :
    ∃ ms, s.toJson = .object ms ∧ Reads fields ms {} s.draft := by
  have hfour : Reads fields [("speed_mbps", .real s.speed), ("latency_ms", .word s.latency),
      ("bytes_transferred", .word s.bytes), ("source_ip", .text s.sourceIp)] {}
      { speed := some s.speed, latency := some s.latency, bytes := some s.bytes,
        sourceIp := some s.sourceIp } :=
    .known rfl rfl (readsAs_real h).member (.known rfl rfl (readsAs_word _).member
      (.known rfl rfl (readsAs_word _).member (.known rfl rfl (readsAs_text _).member .nil)))
  exact ⟨_, rfl, hfour.append (reads_member? "dest_ip" .text s.destIp
    (fun o (d : Draft) => { d with destIp := o.map some }) rfl rfl
    (fun a _ => (readsAs_optional_text a).member) rfl)⟩

/-- Each member of a written segment is a value of the type of its field. -/
theorem knownAs_toJson {P : Member Draft → Json → Prop} {s : Segment}
    (hreal : Relates P takeFloat (.real s.speed)) (hword : ∀ n, Relates P takeUInt64 (.word n))
    (htext : ∀ a, Relates P takeString (.text a))
    (hoptional : ∀ a, Relates P (takeOptional takeString) (.text a)) {ms : List (String × Json)}
    (h : s.toJson = .object ms) : ∀ m ∈ ms, KnownAs P fields m := by
  cases h
  simp only [List.forall_mem_append, List.forall_mem_cons, List.not_mem_nil, false_implies,
    implies_true, and_true]
  refine ⟨⟨?_, ?_, ?_, ?_⟩, ?_⟩
  · exact ⟨_, rfl, hreal _ _ _ _⟩
  · exact ⟨_, rfl, hword _ _ _ _ _⟩
  · exact ⟨_, rfl, hword _ _ _ _ _⟩
  · exact ⟨_, rfl, htext _ _ _ _ _⟩
  · exact knownAs_member? fun a _ => ⟨_, rfl, hoptional a _ _ _ _⟩

theorem finish_draft (s : Segment) : s.draft.finish = .ok s := by
  simp only [draft, Draft.finish, join_map_some]

/-- A written segment reads back if its speed does. -/
theorem readsAs_toJson {s : Segment} (h : Faithful s.speed) : ReadsAs take s.toJson s := by
  obtain ⟨ms, hms, hreads⟩ := reads_toJson h
  rw [hms]
  exact readsAs_object hreads rfl s.finish_draft

theorem readsAs_optional_toJson {s : Segment} (h : Faithful s.speed) :
    ReadsAs (takeOptional take) s.toJson (some s) :=
  (readsAs_toJson h).optional (by rw [toJson, compactText]; simp)

end Segment

namespace SpeedTest

/-- The draft that the members of a written speed test make. -/
def draft (t : SpeedTest) : Draft where
  localEgress := t.localEgress.map some
  upstream := t.upstream.map some
  totalLatency := some t.totalLatency
  testedAt := some t.testedAt
  error := t.error.map some

theorem reads_toJson {t : SpeedTest} (h : ∀ s ∈ t.segments, Faithful s.speed) :
    ∃ ms, t.toJson = .object ms ∧ Reads fields ms {} t.draft := by
  have hlocal : Reads fields (member? "local_egress" Segment.toJson t.localEgress) {}
      { localEgress := t.localEgress.map some } :=
    reads_member? "local_egress" Segment.toJson t.localEgress
      (fun o (d : Draft) => { d with localEgress := o.map some }) rfl rfl
      (fun s hs => (Segment.readsAs_optional_toJson (h s
        (List.mem_append_left _ (Option.mem_toList.mpr hs)))).member) rfl
  have hupstream := hlocal.append (reads_member? "upstream" Segment.toJson t.upstream
    (fun o (d : Draft) => { d with upstream := o.map some }) rfl rfl
    (fun s hs => (Segment.readsAs_optional_toJson (h s
      (List.mem_append_right _ (Option.mem_toList.mpr hs)))).member) rfl)
  have htotal := hupstream.append (.known (k := "total_latency_ms") rfl rfl
    (readsAs_word t.totalLatency).member (.known (k := "tested_at") rfl rfl
      (readsAs_instant t.testedAt).member .nil))
  exact ⟨_, rfl, htotal.append (reads_member? "error" .text t.error
    (fun o (d : Draft) => { d with error := o.map some }) rfl rfl
    (fun a _ => (readsAs_optional_text a).member) rfl)⟩

/-- Each member of a written speed test is a value of the type of its field. -/
theorem knownAs_toJson {P : Member Draft → Json → Prop} {t : SpeedTest}
    (hsegment : ∀ s ∈ t.segments, Relates P (takeOptional Segment.take) s.toJson)
    (hword : ∀ n, Relates P takeUInt64 (.word n))
    (hinstant : ∀ i, Relates P takeInstant (.instant i))
    (hoptional : ∀ a, Relates P (takeOptional takeString) (.text a)) {ms : List (String × Json)}
    (h : t.toJson = .object ms) : ∀ m ∈ ms, KnownAs P fields m := by
  cases h
  simp only [List.forall_mem_append, List.forall_mem_cons, List.not_mem_nil, false_implies,
    implies_true, and_true]
  refine ⟨⟨⟨?_, ?_⟩, ?_, ?_⟩, ?_⟩
  · exact knownAs_member? fun s hs => ⟨_, rfl,
      hsegment s (List.mem_append_left _ (Option.mem_toList.mpr hs)) _ _ _ _⟩
  · exact knownAs_member? fun s hs => ⟨_, rfl,
      hsegment s (List.mem_append_right _ (Option.mem_toList.mpr hs)) _ _ _ _⟩
  · exact ⟨_, rfl, hword _ _ _ _ _⟩
  · exact ⟨_, rfl, hinstant _ _ _ _ _⟩
  · exact knownAs_member? fun a _ => ⟨_, rfl, hoptional a _ _ _ _⟩

theorem finish_draft (t : SpeedTest) : t.draft.finish = .ok t := by
  simp only [draft, Draft.finish, join_map_some]

theorem take_eq : take = takeDraft fields {} Draft.finish := rfl

/-- A written speed test reads back if its speeds do. -/
theorem readsAs_toJson {t : SpeedTest} (h : ∀ s ∈ t.segments, Faithful s.speed) :
    ReadsAs take t.toJson t := by
  obtain ⟨ms, hms, hreads⟩ := reads_toJson h
  rw [hms]
  exact readsAs_object hreads rfl t.finish_draft

/-- None of the members of a speed test is known to a status. -/
theorem reads_toJson_status (t : SpeedTest) :
    ∃ ms, t.toJson = .object ms ∧ Reads Status.fields ms {} {} := by
  have hsegments : Reads Status.fields (member? "local_egress" Segment.toJson t.localEgress ++
      member? "upstream" Segment.toJson t.upstream) {} {} :=
    (reads_member?_unknown rfl _).append (reads_member?_unknown rfl _)
  have htotal := hsegments.append
    (.unknown (k := "total_latency_ms") (v := .word t.totalLatency) rfl
      (.unknown (k := "tested_at") (v := .instant t.testedAt) rfl .nil))
  exact ⟨_, rfl, htotal.append (reads_member?_unknown rfl _)⟩

end SpeedTest

namespace Snapshot

/-- The snapshot can be kept without loss: each of its speeds is finite and reads back. -/
def Faithful : Snapshot → Prop
  | status _ => True
  | speedTest t => ∀ s ∈ t.segments, Json.Faithful s.speed

/-- A snapshot reads back under its own tag. -/
theorem decode_encode {s : Snapshot} (h : s.Faithful) : decode s.kind s.encode = .ok s := by
  cases s with
  | status s =>
    show (readAll Status.take s.toJson.compact).map status = _
    rw [readAll_compact s.readsAs_toJson]
    rfl
  | speedTest t =>
    show (readAll SpeedTest.take t.toJson.compact).map speedTest = _
    rw [readAll_compact (SpeedTest.readsAs_toJson h)]
    rfl

/-- Under the other tag it lacks all that is required there. -/
theorem decode_encode_of_ne {s : Snapshot} {k : Kind} (h : k ≠ s.kind) :
    decode k s.encode = .error .mismatched := by
  cases s with
  | status s =>
    cases k with
    | status => exact absurd rfl h
    | speedTest =>
      obtain ⟨ms, hms, hreads⟩ := s.reads_toJson_speedTest
      show (readAll SpeedTest.take s.toJson.compact).map speedTest = _
      rw [hms, SpeedTest.take_eq, readAll_object_mismatched hreads rfl]
      rfl
  | speedTest t =>
    cases k with
    | status =>
      obtain ⟨ms, hms, hreads⟩ := t.reads_toJson_status
      show (readAll Status.take t.toJson.compact).map status = _
      rw [hms, Status.take_eq, readAll_object_mismatched hreads rfl]
      rfl
    | speedTest => exact absurd rfl h

/-- Reading undoes writing: every status reads back as it was, and so does every speed test whose
speeds read back. Neither kind of text reads under the tag of the other. -/
theorem round_trip :
    (∀ s : Status, decode .status (status s).encode = .ok (status s)) ∧
    (∀ t : SpeedTest, (∀ s ∈ t.segments, Json.Faithful s.speed) →
      decode .speedTest (speedTest t).encode = .ok (speedTest t)) ∧
    (∀ s : Status, decode .speedTest (status s).encode = .error .mismatched) ∧
    ∀ t : SpeedTest, decode .status (speedTest t).encode = .error .mismatched := by
  refine ⟨fun s => ?_, fun t h => ?_, fun s => ?_, fun t => ?_⟩
  · exact decode_encode (s := status s) trivial
  · exact decode_encode (s := speedTest t) h
  · exact decode_encode_of_ne (s := status s) Kind.noConfusion
  · exact decode_encode_of_ne (s := speedTest t) Kind.noConfusion

/-- Speeds with few digits and with many, odd texts, and a leap second before the common era. -/
theorem round_trip_leap_second :
    let fast : Segment := ⟨93.5, 12, 125000000, "10.0.0.2\n", some ""⟩
    let slow : Segment := ⟨0.30000000000000004, 0, 18446744073709551615, "\\ü", none⟩
    let t : SpeedTest :=
      ⟨some fast, some slow, 12, { day := -735587, second := 86399, nano := 1000000001 }, some "\t"⟩
    (∀ s ∈ t.segments, Json.Faithful s.speed) ∧
      decode .speedTest (speedTest t).encode = .ok (speedTest t) := by
  intro fast slow t
  have h : ∀ s ∈ t.segments, Json.Faithful s.speed := by
    intro s hs
    have hs : s = fast ∨ s = slow := by simpa [t, SpeedTest.segments] using hs
    rcases hs with rfl | rfl
    · decide +kernel
    · decide +kernel
  exact ⟨h, round_trip.2.1 t h⟩

end Snapshot

end EgressWatch
