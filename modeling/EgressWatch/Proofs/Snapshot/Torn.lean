import EgressWatch.Proofs.Json.Cut
import EgressWatch.Proofs.Snapshot.RoundTrip
import Mathlib.Data.List.TakeWhile

/-!
# Payloads that are torn

The text of a snapshot is closed by its last character, so nothing less is taken for a snapshot:
wherever it is cut, reading it finds the end too early (`decode_cut`). Nothing more is taken for one
either: with anything behind it but blanks it is malformed, and blanks around it make no difference
(`decode_around`). `torn_payload` says both.

That nothing less is taken rests on what is true of records that are cut. It asks of each member
that its value, cut anywhere, is taken for nothing that leaves something over (`Status.torn_toJson`,
`SpeedTest.torn_toJson`), and a segment is such a value since it is a record itself
(`Segment.torn_optional_toJson`). That a number may lose digits and still be one does no harm, as
`torn_payload_exponent` shows: the segment around it is not closed.
-/

namespace EgressWatch

namespace Json

/-! ## Around an object -/

theorem isEmpty_skipSpace (cs : List Char) : (skipSpace cs).isEmpty = cs.all isSpace := by
  rw [Bool.eq_iff_iff, List.isEmpty_iff, skipSpace, List.dropWhile_eq_nil_iff, List.all_eq_true]

variable {σ α : Type} {fields : List (Member σ)} {ms : List (String × Json)} {empty d : σ}
  {finish : σ → Except Fault α} {a : α}

/-- An object that reads is all that its text may hold, apart from space around it. -/
theorem readAll_object (h : Reads fields ms empty d)
    (hd : (fields.any fun f => f.required && !f.isSet d) = false) (ha : finish d = .ok a)
    {before : String} (hbefore : ∀ c ∈ before.toList, isSpace c = true) (after : String) :
    readAll (takeDraft fields empty finish) (before ++ (Json.object ms).compact ++ after) =
      if after.toList.all isSpace then .ok a else .error .malformed := by
  have hfront (cs : List Char) : takeDraft fields empty finish (before.toList ++ cs) =
      takeDraft fields empty finish cs := by
    rw [takeDraft, takeDraft, takeRecord, takeRecord, skipSpace_append hbefore]
  have htext : (before ++ (Json.object ms).compact ++ after).toList =
      before.toList ++ (compactText (.object ms) ++ after.toList) := by
    rw [String.toList_append, String.toList_append, compact, String.toList_ofList,
      List.append_assoc]
  rw [readAll, htext, hfront, takeDraft_object h hd ha]
  simp only [bind, Except.bind, isEmpty_skipSpace]

theorem takeDraft_cut (h : Reads fields ms empty d) (htorn : ∀ m ∈ ms, TornMember fields m)
    {q r : List Char} (hcut : compactText (.object ms) = q ++ r) (hr : r ≠ []) :
    takeDraft fields empty finish q = .error .truncated := by
  rw [takeDraft, takeRecord_cut h htorn hcut hr]
  rfl

/-- An object that is cut short does not read. -/
theorem readAll_cut (h : Reads fields ms empty d) (htorn : ∀ m ∈ ms, TornMember fields m)
    {q r : String} (hcut : (Json.object ms).compact = q ++ r) (hr : r ≠ "") :
    readAll (takeDraft fields empty finish) q = .error .truncated := by
  have htext : compactText (.object ms) = q.toList ++ r.toList := by
    rw [← String.toList_append, ← hcut, compact, String.toList_ofList]
  have hne : r.toList ≠ [] := by
    rw [Ne, String.toList_eq_nil_iff]
    exact hr
  rw [readAll, takeDraft_cut h htorn htext hne]
  rfl

theorem torn_instant (t : Time.Instant) : Torn takeInstant (.instant t) := by
  intro q r hcut hr
  left
  rw [takeInstant, takeString_cut hcut hr]
  rfl

theorem torn_optional_text (s : String) : Torn (takeOptional takeString) (.text s) :=
  (torn_text s).optional (by rw [compactText] <;> simp [scalarText, quoted])

end Json

open Json

/-! ## The members of each kind -/

theorem Status.torn_toJson {s : Status} {ms : List (String × Json)} (h : s.toJson = .object ms) :
    ∀ m ∈ ms, TornMember fields m :=
  knownAs_toJson (fun a => (torn_text a).relates) (fun b => (torn_flag b).relates)
    (fun n => (torn_word n).relates) (fun a => (torn_optional_text a).relates)
    (fun t => (torn_instant t).relates) h

theorem Segment.torn_optional_toJson {s : Segment} (h : Faithful s.speed) :
    Torn (takeOptional take) s.toJson := by
  have htorn : Torn take s.toJson := by
    obtain ⟨ms, hms, hreads⟩ := reads_toJson h
    have hmembers : ∀ m ∈ ms, TornMember fields m :=
      knownAs_toJson (torn_real h).relates (fun n => (torn_word n).relates)
        (fun a => (torn_text a).relates) (fun a => (torn_optional_text a).relates) hms
    intro q r hcut hr
    rw [hms] at hcut
    have htruncated : takeDraft fields {} Draft.finish q = .error .truncated :=
      takeDraft_cut hreads hmembers hcut hr
    exact .inl htruncated
  exact htorn.optional (by rw [toJson, compactText]; simp)

theorem SpeedTest.torn_toJson {t : SpeedTest} (h : ∀ s ∈ t.segments, Faithful s.speed)
    {ms : List (String × Json)} (hms : t.toJson = .object ms) :
    ∀ m ∈ ms, TornMember fields m :=
  knownAs_toJson (fun s hs => (Segment.torn_optional_toJson (h s hs)).relates)
    (fun n => (torn_word n).relates) (fun i => (torn_instant i).relates)
    (fun a => (torn_optional_text a).relates) hms

namespace Snapshot

/-! ## Payloads -/

theorem decode_cut {s : Snapshot} (h : s.Faithful) {q r : String} (hcut : s.encode = q ++ r)
    (hr : r ≠ "") : decode s.kind q = .error .truncated := by
  cases s with
  | status s =>
    obtain ⟨ms, hms, hreads⟩ := s.reads_toJson
    have hcut : s.toJson.compact = q ++ r := hcut
    rw [hms] at hcut
    show (readAll Status.take q).map status = _
    rw [Status.take_eq, readAll_cut hreads (Status.torn_toJson hms) hcut hr]
    rfl
  | speedTest t =>
    obtain ⟨ms, hms, hreads⟩ := SpeedTest.reads_toJson h
    have hcut : t.toJson.compact = q ++ r := hcut
    rw [hms] at hcut
    show (readAll SpeedTest.take q).map speedTest = _
    rw [SpeedTest.take_eq, readAll_cut hreads (SpeedTest.torn_toJson h hms) hcut hr]
    rfl

theorem decode_around {s : Snapshot} (h : s.Faithful) {before : String}
    (hbefore : ∀ c ∈ before.toList, isSpace c = true) (after : String) :
    decode s.kind (before ++ s.encode ++ after) =
      if after.toList.all isSpace then .ok s else .error .malformed := by
  cases s with
  | status s =>
    obtain ⟨ms, hms, hreads⟩ := s.reads_toJson
    show (readAll Status.take (before ++ s.toJson.compact ++ after)).map status = _
    rw [hms, Status.take_eq, readAll_object hreads rfl s.finish_draft hbefore]
    split <;> rfl
  | speedTest t =>
    obtain ⟨ms, hms, hreads⟩ := SpeedTest.reads_toJson h
    show (readAll SpeedTest.take (before ++ t.toJson.compact ++ after)).map speedTest = _
    rw [hms, SpeedTest.take_eq, readAll_object hreads rfl t.finish_draft hbefore]
    split <;> rfl

/-- No other text is taken for a snapshot than its own: one that is cut anywhere, even before its
first character, ends too early, one that goes on with more than space is malformed, and with
nothing but space around it, it reads as the snapshot. -/
theorem torn_payload {s : Snapshot} (h : s.Faithful) :
    (∀ q r : String, s.encode = q ++ r → r ≠ "" → decode s.kind q = .error .truncated) ∧
    (∀ t : String, (∃ c ∈ t.toList, isSpace c = false) →
      decode s.kind (s.encode ++ t) = .error .malformed) ∧
    ∀ before after : String, (∀ c ∈ before.toList, isSpace c = true) →
      (∀ c ∈ after.toList, isSpace c = true) →
        decode s.kind (before ++ s.encode ++ after) = .ok s := by
  refine ⟨fun q r hcut hr => decode_cut h hcut hr, fun t ⟨c, hc, hs⟩ => ?_,
    fun before after hbefore hafter => ?_⟩
  · have hall : t.toList.all isSpace = false := by
      rw [List.all_eq_false]
      exact ⟨c, hc, by simp [hs]⟩
    have htext : s.encode ++ t = "" ++ s.encode ++ t := by rw [String.empty_append]
    rw [htext, decode_around h (by simp), hall]
    rfl
  · rw [decode_around h hbefore, if_pos (List.all_eq_true.mpr hafter)]

/-- A speed that is cut within its exponent is a smaller speed, but its segment is not closed. -/
theorem torn_payload_exponent :
    let segment : Segment := ⟨1.5e300, 12, 125000000, "10.0.0.2\n", none⟩
    let s := speedTest ⟨none, some segment, 12, { day := 0, second := 0, nano := 0 }, none⟩
    s.Faithful ∧
    s.encode = "\x7b\"upstream\":\x7b\"speed_mbps\":1.5e+30" ++
      "0,\"latency_ms\":12,\"bytes_transferred\":125000000,\"source_ip\":\"10.0.0.2\\n\"\x7d," ++
      "\"total_latency_ms\":12,\"tested_at\":\"1970-01-01T00:00:00Z\"\x7d" ∧
    decode .speedTest "\x7b\"upstream\":\x7b\"speed_mbps\":1.5e+30" = .error .truncated ∧
    decode .speedTest (s.encode ++ "\n,") = .error .malformed ∧
    decode .speedTest (" \t" ++ s.encode ++ "\r\n") = .ok s := by
  intro segment s
  have h : s.Faithful := by
    intro x hx
    have hx : x = segment := by simpa [s, SpeedTest.segments] using hx
    rw [hx]
    decide +kernel
  have htext : s.encode = "\x7b\"upstream\":\x7b\"speed_mbps\":1.5e+30" ++
      ("0,\"latency_ms\":12,\"bytes_transferred\":125000000,\"source_ip\":\"10.0.0.2\\n\"\x7d," ++
      "\"total_latency_ms\":12,\"tested_at\":\"1970-01-01T00:00:00Z\"\x7d") := by
    decide +kernel
  obtain ⟨hcut, hmore, haround⟩ := torn_payload h
  exact ⟨h, htext.trans (String.append_assoc ..).symm, hcut _ _ htext (by decide),
    hmore "\n," ⟨',', by decide, by decide⟩,
    haround " \t" "\r\n" (List.all_eq_true.mp (by decide)) (List.all_eq_true.mp (by decide))⟩

end Snapshot

end EgressWatch
