import EgressWatch.Net.Address
import EgressWatch.Proofs.Text.Numerals
import Mathlib.Data.List.Basic
import Mathlib.Data.List.TakeWhile

/-!
# Spellings of addresses

An address of version 4 is spelled in one way only, for none of its four numbers may have zeros in
front: a text that reads as one is the text that is written for it (`toList_of_read?_v4`), and two
texts that read as the same one are the same (`eq_of_read?_v4`). Of version 6 this does not hold,
whose groups may have zeros in front, letters in either case and a run of zeros left out.

The proof goes the way of the reader, backwards: a number that was taken off a text is spelled as it
is written (`takeOctet_eq_some`), further ones each after its dot (`takeOctets_eq_some`), and four
of them make the whole (`takeV4_eq_some`).
-/

namespace EgressWatch.Net.Address

open Text

/-- A number that was taken off is spelled as it is written. -/
theorem takeOctet_eq_some {n : Nat} {cs rest : List Char} (h : takeOctet cs = some (n, rest)) :
    n ≤ 255 ∧ cs = digits n ++ rest := by
  have hsplit : cs.takeWhile Char.isDigit ++ cs.dropWhile Char.isDigit = cs :=
    List.takeWhile_append_dropWhile
  have hdigits : ∀ c ∈ cs.takeWhile Char.isDigit, c.isDigit = true := fun c hc =>
    List.mem_takeWhile_imp hc
  unfold takeOctet at h
  generalize cs.takeWhile Char.isDigit = ds at h hsplit hdigits
  simp only [Bool.or_eq_true, Bool.and_eq_true, decide_eq_true_eq, beq_iff_eq,
    List.isEmpty_iff] at h
  split at h
  next => exact absurd h (by simp)
  next hfits =>
    simp only [not_or, not_and, Nat.not_lt] at hfits
    obtain ⟨⟨⟨hne, -⟩, hzero⟩, hle⟩ := hfits
    obtain ⟨rfl, rfl⟩ : natural ds = n ∧ cs.drop ds.length = rest := by simpa using h
    have hlen : ds.head? = some '0' → ds.length = 1 := by
      intro h0
      have hpos := List.length_pos_iff.mpr hne
      have := hzero h0
      omega
    refine ⟨hle, ?_⟩
    rw [digits_natural hne hdigits hlen]
    have hdrop : cs.drop ds.length = cs.dropWhile Char.isDigit := by
      conv => lhs; rw [← hsplit]
      exact List.drop_left
    rw [hdrop, hsplit]

/-- Further numbers that were taken off are spelled as they are written, each after its dot. -/
theorem takeOctets_eq_some {more value n : Nat} {cs rest : List Char}
    (h : takeOctets more value cs = some (n, rest)) :
    ∃ octets : List Nat, octets.length = more ∧ (∀ o ∈ octets, o ≤ 255) ∧
      n = octets.foldl (fun v o => v * 256 + o) value ∧
      cs = (octets.flatMap fun o => '.' :: digits o) ++ rest := by
  induction more generalizing value cs with
  | zero =>
    obtain ⟨rfl, rfl⟩ : value = n ∧ cs = rest := by simpa [takeOctets] using h
    exact ⟨[], rfl, by simp, rfl, rfl⟩
  | succ more ih =>
    cases cs with
    | nil => exact absurd h (by simp [takeOctets])
    | cons c cs =>
      by_cases hc : c = '.'
      · subst hc
        obtain ⟨⟨o, tail⟩, ho, h⟩ := Option.bind_eq_some_iff.mp h
        obtain ⟨hle, htext⟩ := takeOctet_eq_some ho
        obtain ⟨octets, hlen, hoctets, hvalue, htail⟩ := ih h
        refine ⟨o :: octets, by rw [List.length_cons, hlen], ?_, hvalue, ?_⟩
        · exact List.forall_mem_cons.mpr ⟨hle, hoctets⟩
        · rw [htext, htail, List.flatMap_cons, List.append_assoc]
          rfl
      · exact absurd h (by simp [takeOctets, hc])

/-- The four numbers of an address of version 4, in front of whatever comes after it. -/
theorem takeV4_eq_some {n : Nat} {cs rest : List Char} (h : takeV4 cs = some (n, rest)) :
    ∃ a b c d : Nat, (a ≤ 255 ∧ b ≤ 255 ∧ c ≤ 255 ∧ d ≤ 255) ∧
      n = ((a * 256 + b) * 256 + c) * 256 + d ∧
      cs = digits a ++ '.' :: (digits b ++ '.' :: (digits c ++ '.' :: digits d)) ++ rest := by
  obtain ⟨⟨a, tail⟩, ha, h⟩ := Option.bind_eq_some_iff.mp h
  obtain ⟨hle, htext⟩ := takeOctet_eq_some ha
  obtain ⟨octets, hlen, hoctets, hvalue, htail⟩ := takeOctets_eq_some h
  obtain ⟨b, c, d, rfl⟩ := List.length_eq_three.mp hlen
  refine ⟨a, b, c, d, ⟨hle, hoctets b (by simp), hoctets c (by simp), hoctets d (by simp)⟩,
    hvalue, ?_⟩
  rw [htext, htail]
  simp

/-- A text that reads as an address of version 4 is the text that is written for it. -/
theorem toList_of_read?_v4 {s : String} {n : Nat} (h : read? s = some (.v4 n)) :
    s.toList = v4Text n := by
  unfold read? at h
  split at h
  next value htake =>
    obtain rfl : value = n := by simpa using h
    obtain ⟨a, b, c, d, hle, hvalue, htext⟩ := takeV4_eq_some htake
    have ha : value / 16777216 = a := by omega
    have hb : value / 65536 % 256 = b := by omega
    have hc : value / 256 % 256 = c := by omega
    have hd : value % 256 = d := by omega
    rw [htext, v4Text, ha, hb, hc, hd]
    simp [List.intercalate]
  next => exact absurd h (by simp)
  next =>
    obtain ⟨m, -, hm⟩ := Option.map_eq_some_iff.mp h
    exact absurd hm (by simp)

/-- Two texts that read as one address of version 4 are the same. -/
theorem eq_of_read?_v4 {s t : String} {n : Nat} (hs : read? s = some (.v4 n))
    (ht : read? t = some (.v4 n)) : s = t :=
  String.toList_inj.mp ((toList_of_read?_v4 hs).trans (toList_of_read?_v4 ht).symm)

end EgressWatch.Net.Address
