import EgressWatch.Proofs.Text.ByteOrder
import EgressWatch.Proofs.Time.Stamp

/-!
# Stamps as bytes

The short stamp is what a table keeps of an instant, and a table compares stamps byte by byte. For
the years 0 to 9999 nothing of time is lost by that:

> `stamps_embed_time`: the stamps are of one length, their bytes stand in the order of the instants,
> and each reads back as its instant, cut to the microsecond.

A leap second stands between the second that holds it and the next. The stamp of a negative year
stands before them all; among themselves such stamps do not keep the order.

It is what is true of stamps as texts, seen through the bytes: digits and marks are characters of
one byte each (`utf8Size_of_mem_microStamp`), and UTF-8 keeps the order of texts.
-/

namespace EgressWatch.Text

theorem utf8Size_of_isDigit {c : Char} (h : c.isDigit = true) : c.utf8Size = 1 := by
  have hc : 48 ≤ c.toNat ∧ c.toNat ≤ 57 := Char.isDigit_iff_toNat.mp h
  rw [Char.utf8Size_eq_one_iff, UInt32.le_iff_toNat_le]
  exact Nat.le_trans hc.2 (by decide)

theorem utf8Size_of_mem_padded {w n : Nat} {c : Char} (h : c ∈ padded w n) : c.utf8Size = 1 :=
  utf8Size_of_isDigit (isDigit_of_mem_padded h)

/-- Characters of one byte each take as many bytes as there are of them. -/
theorem Utf8.length_encode {cs : List Char} (h : ∀ c ∈ cs, c.utf8Size = 1) :
    (encode cs).length = cs.length := by
  induction cs with
  | nil => rfl
  | cons c cs ih =>
    obtain ⟨hc, hcs⟩ := List.forall_mem_cons.mp h
    rw [encode_cons, List.length_append, String.length_utf8EncodeChar, hc, ih hcs,
      List.length_cons, Nat.add_comm]

end EgressWatch.Text

namespace EgressWatch.Time

open EgressWatch.Text

namespace Instant

/-- The bytes of the short stamp. -/
def stampBytes (t : Instant) : List UInt8 := Utf8.encode t.microStamp

/-- Digits and marks are characters of one byte. -/
theorem utf8Size_of_mem_microStamp {t : Instant} : ∀ c ∈ t.microStamp, c.utf8Size = 1 := by
  have hyear : ∀ c ∈ yearText t.date.year, c.utf8Size = 1 := by
    unfold yearText
    split
    next => exact fun _ => utf8Size_of_mem_padded
    next =>
      refine List.forall_mem_cons.mpr ⟨?_, fun _ => utf8Size_of_mem_padded⟩
      split <;> rfl
  have hpadded {w n : Nat} : ∀ c ∈ padded w n, c.utf8Size = 1 := fun _ => utf8Size_of_mem_padded
  rw [microStamp_eq, Date.text, timeText]
  simp only [List.forall_mem_append, List.forall_mem_cons]
  exact ⟨⟨⟨hyear, rfl, hpadded⟩, rfl, hpadded⟩, rfl, hpadded, rfl, hpadded, rfl, hpadded, rfl,
    hpadded, rfl, List.forall_mem_nil _⟩

/-- In bytes as in characters, short stamps of the years 0 to 9999 have one width. -/
theorem length_stampBytes {t : Instant} (h : t.PlainYear) : t.stampBytes.length = 27 :=
  (Utf8.length_encode utf8Size_of_mem_microStamp).trans (length_microStamp h)

/-- The stamps of instants of the years 0 to 9999 are of one length, compare byte by byte as the
instants, cut to the microsecond, compare in time, and read back as these; the stamp of a negative
year comes before each of them. -/
theorem stamps_embed_time {a b : Instant} (ha : a.PlainYear) (hb : b.PlainYear) :
    a.stampBytes.length = b.stampBytes.length ∧
      (a.stampBytes < b.stampBytes ↔ a.cut < b.cut) ∧
      ofStamp? a.microStamp = some a.cut ∧
      ∀ c : Instant, c.date.year < 0 → c.stampBytes < a.stampBytes := by
  refine ⟨?_, ?_, ofStamp?_microStamp ha, fun c hc => ?_⟩
  · rw [length_stampBytes ha, length_stampBytes hb]
  · exact Utf8.encode_lt_encode_iff.trans (microStamp_lt_of_plain ha hb)
  · have hsigned : ¬ c.PlainYear := fun hplain => absurd hplain.1 (Int.not_le.mpr hc)
    exact Utf8.encode_lt_encode (microStamp_lt_of_signed hsigned ha)

/-- The last microsecond of the leap second at the end of 2016 comes before the year 2017 and after
the year before the year 0, and what is finer than a microsecond is all that it loses. -/
theorem stamps_embed_time_leap_second :
    let leap : Instant := { day := 17166, second := 86399, nano := 1999999999 }
    let newYear : Instant := { day := 17167, second := 0, nano := 0 }
    let ancient : Instant := { day := -719529, second := 86399, nano := 0 }
    leap.PlainYear ∧ newYear.PlainYear ∧ ancient.date.year < 0 ∧
      leap.microStamp = "2016-12-31T23:59:60.999999Z".toList ∧
      leap.stampBytes.length = newYear.stampBytes.length ∧
      leap.stampBytes < newYear.stampBytes ∧
      ofStamp? leap.microStamp = some { day := 17166, second := 86399, nano := 1999999000 } ∧
      ancient.stampBytes < leap.stampBytes := by
  intro leap newYear ancient
  have hleap : leap.PlainYear := by decide
  have hnew : newYear.PlainYear := by decide
  have hancient : ancient.date.year < 0 := by decide
  have hcut : leap.cut = { day := 17166, second := 86399, nano := 1999999000 } := by decide
  obtain ⟨hlength, horder, hread, hbefore⟩ := stamps_embed_time hleap hnew
  rw [hcut] at hread
  exact ⟨hleap, hnew, hancient, by decide +kernel, hlength, horder.mpr (by decide), hread,
    hbefore ancient hancient⟩

end Instant

end EgressWatch.Time
