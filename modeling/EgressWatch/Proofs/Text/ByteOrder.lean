import EgressWatch.Text.Utf8

/-!
# Text in the order of its bytes

UTF-8 keeps the order of texts: compared byte by byte, texts stand as they do compared character by
character (`encode_lt_encode_iff`). For no bytes of a character are the front of those of another, a
longer form starts with a greater byte, and within a form the digits of the character's number come
in the order of their weight.

That is one lemma about two characters with anything behind them (`encodeChar_append_lt`), in a case
for each pair of forms; texts follow by induction, up to the first character in which they differ. A
table compares text by its bytes, and through this file such comparisons are comparisons of lists of
characters.
-/

namespace EgressWatch.Text.Utf8

/-- Bytes compare by the numbers that they were made of. -/
theorem ofNat_cons_lt_iff {i j : Nat} (hi : i < 256) (hj : j < 256) {us vs : List UInt8} :
    UInt8.ofNat i :: us < UInt8.ofNat j :: vs ↔ i < j ∨ (i = j ∧ us < vs) := by
  rw [List.cons_lt_cons_iff, UInt8.lt_iff_toNat_lt, ← UInt8.toNat_inj, UInt8.toNat_ofNat',
    UInt8.toNat_ofNat', Nat.mod_eq_of_lt hi, Nat.mod_eq_of_lt hj]

/-- The bytes of a character come before those of a greater one, whatever follows on either. -/
theorem encodeChar_append_lt {c d : Char} (h : c < d) (us vs : List UInt8) :
    String.utf8EncodeChar c ++ us < String.utf8EncodeChar d ++ vs := by
  have hval : c.val.toNat < d.val.toNat := UInt32.lt_iff_toNat_lt.mp h
  have hlast : d.val.toNat < 1114112 := by
    have hvalid := d.valid
    unfold UInt32.isValidChar Nat.isValidChar at hvalid
    omega
  unfold String.utf8EncodeChar
  generalize c.val.toNat = m at *
  generalize d.val.toNat = n at *
  have hdigits (k : Nat) : k / 4096 = k / 64 / 64 ∧ k / 262144 = k / 64 / 64 / 64 := by
    rw [Nat.div_div_eq_div_mul, Nat.div_div_eq_div_mul]
    exact ⟨rfl, rfl⟩
  obtain ⟨hm, hm'⟩ := hdigits m
  obtain ⟨hn, hn'⟩ := hdigits n
  dsimp only
  -- one case for each pair of forms; a shorter form never belongs to the greater character
  repeat' split
  all_goals
    simp (disch := omega) only [List.cons_append, List.nil_append, ofNat_cons_lt_iff, hm, hm', hn,
      hn', Nat.mod_eq_of_lt]
    omega

theorem encode_cons (c : Char) (cs : List Char) :
    encode (c :: cs) = String.utf8EncodeChar c ++ encode cs := List.flatMap_cons

theorem encode_lt_encode {cs ds : List Char} (h : cs < ds) : encode cs < encode ds := by
  induction cs generalizing ds with
  | nil =>
    cases ds with
    | nil => exact absurd h (List.lt_irrefl [])
    | cons d ds =>
      rw [encode_cons]
      cases hd : String.utf8EncodeChar d with
      | nil => exact absurd hd String.utf8EncodeChar_ne_nil
      | cons b bs => exact List.nil_lt_cons _ _
  | cons c cs ih =>
    cases ds with
    | nil => exact absurd h (List.not_lt_nil _)
    | cons d ds =>
      rw [encode_cons, encode_cons]
      rcases List.cons_lt_cons_iff.mp h with hlt | ⟨rfl, hlt⟩
      · exact encodeChar_append_lt hlt _ _
      · exact List.append_left_lt (ih hlt)

theorem encode_lt_encode_iff {cs ds : List Char} : encode cs < encode ds ↔ cs < ds := by
  constructor
  · intro h
    by_cases hlt : cs < ds
    · exact hlt
    · rcases List.le_iff_lt_or_eq.mp (List.not_lt.mp hlt) with hgt | heq
      · exact absurd (encode_lt_encode hgt) (List.lt_asymm h)
      · rw [heq] at h
        exact absurd h (List.lt_irrefl _)
  · exact encode_lt_encode

end EgressWatch.Text.Utf8
