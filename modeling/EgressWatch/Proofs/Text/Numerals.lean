import EgressWatch.Text.Digits
import Mathlib.Algebra.Group.Nat.Defs

/-!
# Numerals

What holds of numbers written in ASCII digits, by themselves (`digits`) or with zeros in front up to
some width (`padded`). There are three things to know:

* A numeral reads back as its number (`natural_padded`, `digits_natural`), zeros in front or not.
* It ends where its width says, or where the digits end (`takeNumber_append`, `takeNumber_padded`),
  so that what comes behind it can be read on its own. `NoDigitFirst` is what has to be known of
  that.
* Two numerals of one width compare as texts in the order of their numbers (`padded_lt_padded_iff`).

The last fact is what stamps rest on: `padded_append_lt_iff` carries it over a text that is made of
several numerals with marks between them, one after the other. It comes from the leading digit,
which decides unless it is the same, and then what is behind it does (`scaled_lt_iff`,
`lt_iff_natural_lt`).
-/

namespace EgressWatch.Text

/-! ## Digits of a number -/

theorem digits_ne_nil (n : Nat) : digits n ≠ [] := Nat.toDigits_ne_nil

theorem isDigit_of_mem_digits {n : Nat} {c : Char} (h : c ∈ digits n) : c.isDigit = true :=
  Nat.isDigit_of_mem_toDigits (by decide) (by decide) h

/-- The first digit of a number other than 0 is no zero. -/
theorem head?_digits_ne_zero {n : Nat} (hn : n ≠ 0) : (digits n).head? ≠ some '0' := by
  induction n using Nat.strongRecOn with
  | ind n ih =>
    unfold digits at ih ⊢
    rw [Nat.toDigits_eq_if (by decide)]
    split
    next hlt =>
      intro h
      have hc : Nat.digitChar n = '0' := by simpa using h
      have h48 := Nat.toNat_digitChar_of_lt_ten hlt
      rw [hc] at h48
      exact hn (by simp at h48; omega)
    next hge =>
      rw [List.head?_append, Option.or_of_isSome (by simp)]
      exact ih (n / 10) (by omega) (by omega)

/-- A digit is the numeral of its value. -/
theorem digits_of_isDigit {c : Char} (h : c.isDigit = true) : digits (c.toNat - 48) = [c] := by
  have hc : 48 ≤ c.toNat ∧ c.toNat ≤ 57 := Char.isDigit_iff_toNat.mp h
  rw [digits, Nat.toDigits_of_lt_base (by omega)]
  refine congrArg (fun x => [x]) (Char.toNat_inj.mp ?_)
  rw [Nat.toNat_digitChar_of_lt_ten (by omega)]
  omega

/-- Digits behind the numeral of a number other than 0 go on with it. -/
theorem digits_append {m : Nat} {ds : List Char} (hm : 0 < m)
    (hd : ∀ c ∈ ds, c.isDigit = true) : digits m ++ ds = digits (Nat.ofDigitChars 10 ds m) := by
  induction ds generalizing m with
  | nil => simp
  | cons c ds ih =>
    have hc : c.isDigit = true := hd c (by simp)
    have hvalue : 48 ≤ c.toNat ∧ c.toNat ≤ 57 := Char.isDigit_iff_toNat.mp hc
    have hmore : digits m ++ digits (c.toNat - 48) = digits (10 * m + (c.toNat - 48)) :=
      Nat.toDigits_append_toDigits (by decide) hm (by omega)
    rw [Nat.ofDigitChars_cons]
    calc digits m ++ c :: ds = (digits m ++ [c]) ++ ds := by simp
      _ = digits (10 * m + (c.toNat - 48)) ++ ds := by rw [← digits_of_isDigit hc, hmore]
      _ = digits (Nat.ofDigitChars 10 ds (10 * m + (c.toNat - 48))) :=
        ih (by omega) fun x hx => hd x (by simp [hx])

/-- Digits without zeros in front are the numeral of their number. -/
theorem digits_natural {ds : List Char} (hne : ds ≠ []) (hd : ∀ c ∈ ds, c.isDigit = true)
    (hzero : ds.head? = some '0' → ds.length = 1) : digits (natural ds) = ds := by
  cases ds with
  | nil => exact absurd rfl hne
  | cons c ds =>
    have hc : c.isDigit = true := hd c (by simp)
    have hvalue : 48 ≤ c.toNat ∧ c.toNat ≤ 57 := Char.isDigit_iff_toNat.mp hc
    have hfirst : natural (c :: ds) = Nat.ofDigitChars 10 ds (c.toNat - 48) := by
      rw [natural, Nat.ofDigitChars_cons, Nat.mul_zero, Nat.zero_add]
      rfl
    rw [hfirst]
    by_cases h0 : c.toNat = 48
    · have hchar : c = '0' := Char.toNat_inj.mp h0
      have hnil : ds = [] := by
        have hlen := hzero (by rw [List.head?_cons, hchar])
        simpa using hlen
      rw [hnil]
      exact digits_of_isDigit hc
    · rw [← digits_append (by omega) fun x hx => hd x (by simp [hx]), digits_of_isDigit hc]
      rfl

theorem length_padded {w n : Nat} (hw : 0 < w) (h : n < 10 ^ w) : (padded w n).length = w := by
  have := (Nat.length_toDigits_le_iff (b := 10) (by decide) hw).mpr h
  simp only [padded, digits, List.length_append, List.length_replicate]
  omega

theorem isDigit_of_mem_padded {w n : Nat} {c : Char} (h : c ∈ padded w n) : c.isDigit = true := by
  rcases List.mem_append.mp h with hz | hd
  · rw [List.eq_of_mem_replicate hz]
    rfl
  · exact isDigit_of_mem_digits hd

theorem le_length_padded (w n : Nat) : w ≤ (padded w n).length := by
  simp only [padded, List.length_append, List.length_replicate]
  omega

/-- A numeral starts with a digit. -/
theorem padded_start (w n : Nat) : ∃ c cs, padded w n = c :: cs ∧ c.isDigit = true := by
  cases hp : padded w n with
  | nil => exact absurd hp (by simp [padded, digits_ne_nil])
  | cons c cs =>
    have hmem : c ∈ padded w n := by
      rw [hp]
      exact List.mem_cons_self
    exact ⟨c, cs, rfl, isDigit_of_mem_padded hmem⟩

/-- Zeros in front make no difference to what a numeral reads as. -/
@[simp] theorem natural_padded (w n : Nat) : natural (padded w n) = n := by
  unfold natural padded digits
  rw [Nat.ofDigitChars_append, Nat.ofDigitChars_replicate_zero, Nat.mul_zero]
  exact Nat.ofDigitChars_ten_toDigits

/-! ## Taking numerals off the front -/

/-- Nothing at the front of a text would go on with a numeral. -/
def NoDigitFirst (cs : List Char) : Prop := ∀ c ∈ cs.head?, c.isDigit = false

theorem noDigitFirst_nil : NoDigitFirst [] := by
  intro c hc
  exact absurd hc (by simp)

theorem noDigitFirst_cons {c : Char} {cs : List Char} (h : c.isDigit = false) :
    NoDigitFirst (c :: cs) := by
  intro x hx
  have : c = x := by simpa using hx
  rw [← this]
  exact h

theorem takeWhile_isDigit_append {ds rest : List Char} (hd : ∀ c ∈ ds, c.isDigit = true)
    (hr : NoDigitFirst rest) : (ds ++ rest).takeWhile Char.isDigit = ds := by
  rw [List.takeWhile_append_of_pos hd]
  cases rest with
  | nil => simp
  | cons c rest =>
    rw [List.takeWhile_cons_of_neg (by simp [hr c (by simp)]), List.append_nil]

theorem dropWhile_isDigit_append {ds rest : List Char} (hd : ∀ c ∈ ds, c.isDigit = true)
    (hr : NoDigitFirst rest) : (ds ++ rest).dropWhile Char.isDigit = rest := by
  rw [List.dropWhile_append_of_pos hd]
  cases rest with
  | nil => rfl
  | cons c rest => exact List.dropWhile_cons_of_neg (by simp [hr c (by simp)])

theorem spanDigits_of_append {ds rest : List Char} (hd : ∀ c ∈ ds, c.isDigit = true)
    (hr : NoDigitFirst rest) : spanDigits (ds ++ rest) = (ds, rest) := by
  rw [spanDigits, takeWhile_isDigit_append hd hr, dropWhile_isDigit_append hd hr]

/-- A run of digits is taken whole where its length is allowed and it ends by itself, or by having
reached the greatest length. -/
theorem takeNumber_append {least most : Nat} {ds rest : List Char}
    (hd : ∀ c ∈ ds, c.isDigit = true) (hl : least ≤ ds.length) (hm : ds.length ≤ most)
    (hr : ds.length = most ∨ NoDigitFirst rest) :
    takeNumber least most (ds ++ rest) = some (natural ds, rest) := by
  have htake : ((ds ++ rest).take most).takeWhile Char.isDigit = ds := by
    rw [List.take_append]
    rcases hr with heq | hnd
    · rw [heq, Nat.sub_self, List.take_zero, ← heq, List.take_length]
      exact takeWhile_isDigit_append hd noDigitFirst_nil
    · rw [List.take_of_length_le hm]
      refine takeWhile_isDigit_append hd ?_
      cases rest with
      | nil => simpa using noDigitFirst_nil
      | cons c rest =>
        cases most - ds.length with
        | zero => simpa using noDigitFirst_nil
        | succ k =>
          rw [List.take_succ_cons]
          exact noDigitFirst_cons (hnd c (by simp))
  unfold takeNumber
  simp only [htake]
  rw [if_neg (by omega), List.drop_left]

/-- A numeral of a fixed width is taken off, whatever follows. -/
theorem takeNumber_padded {least w n : Nat} {rest : List Char} (hw : 0 < w) (h : n < 10 ^ w)
    (hl : least ≤ w) : takeNumber least w (padded w n ++ rest) = some (n, rest) := by
  have hlen := length_padded hw h
  rw [takeNumber_append (fun _ hc => isDigit_of_mem_padded hc) (by omega) (by omega) (.inl hlen),
    natural_padded]

/-! ## The order of numerals -/

theorem append_lt_append_iff {xs ys us vs : List Char} (h : xs.length = ys.length) :
    xs ++ us < ys ++ vs ↔ xs < ys ∨ (xs = ys ∧ us < vs) := by
  induction xs generalizing ys with
  | nil =>
    have : ys = [] := List.length_eq_zero_iff.mp h.symm
    simp [this]
  | cons x xs ih =>
    cases ys with
    | nil => simp at h
    | cons y ys =>
      rw [List.cons_append, List.cons_append, List.cons_lt_cons_iff, List.cons_lt_cons_iff,
        ih (by simpa using h), List.cons.injEq]
      constructor
      · rintro (hlt | ⟨he, hlt | ⟨hs, hlt⟩⟩)
        · exact .inl (.inl hlt)
        · exact .inl (.inr ⟨he, hlt⟩)
        · exact .inr ⟨⟨he, hs⟩, hlt⟩
      · rintro ((hlt | ⟨he, hlt⟩) | ⟨⟨he, hs⟩, hlt⟩)
        · exact .inl hlt
        · exact .inr ⟨he, .inl hlt⟩
        · exact .inr ⟨he, .inr ⟨hs, hlt⟩⟩

theorem natural_cons (c : Char) (cs : List Char) :
    natural (c :: cs) = 10 ^ cs.length * (c.toNat - 48) + natural cs := by
  unfold natural
  rw [Nat.ofDigitChars_cons, Nat.ofDigitChars_eq_ofDigitChars_zero, Nat.mul_zero, Nat.zero_add]
  rfl

/-- More digits only make a number larger. -/
theorem le_ofDigitChars (cs : List Char) (n : Nat) : n ≤ Nat.ofDigitChars 10 cs n := by
  rw [Nat.ofDigitChars_eq_ofDigitChars_zero]
  exact Nat.le_trans (Nat.le_mul_of_pos_left _ (Nat.pow_pos (by decide))) (Nat.le_add_right ..)

theorem natural_lt {cs : List Char} (h : ∀ c ∈ cs, c.isDigit = true) :
    natural cs < 10 ^ cs.length := by
  induction cs with
  | nil => decide
  | cons c cs ih =>
    have hc : 48 ≤ c.toNat ∧ c.toNat ≤ 57 := Char.isDigit_iff_toNat.mp (h c (by simp))
    have hcs := ih fun x hx => h x (by simp [hx])
    rw [natural_cons, List.length_cons, Nat.pow_succ]
    have : 10 ^ cs.length * (c.toNat - 48) ≤ 10 ^ cs.length * 9 :=
      Nat.mul_le_mul_left _ (by omega)
    omega

/-- The leading digit decides, and the rest decides among equal leading digits. -/
theorem scaled_lt_iff {p a b x y : Nat} (hx : x < p) (hy : y < p) :
    p * a + x < p * b + y ↔ a < b ∨ (a = b ∧ x < y) := by
  rcases Nat.lt_trichotomy a b with h | h | h
  · have : p * (a + 1) ≤ p * b := Nat.mul_le_mul_left _ h
    rw [Nat.mul_succ] at this
    exact ⟨fun _ => .inl h, fun _ => by omega⟩
  · subst h
    constructor
    · intro hlt
      exact .inr ⟨rfl, by omega⟩
    · rintro (hlt | ⟨_, hlt⟩)
      · omega
      · omega
  · have : p * (b + 1) ≤ p * a := Nat.mul_le_mul_left _ h
    rw [Nat.mul_succ] at this
    constructor
    · intro hlt
      omega
    · rintro (hlt | ⟨he, _⟩)
      · omega
      · omega

/-- Runs of digits of one length compare as texts in the order of their numbers. -/
theorem lt_iff_natural_lt {xs ys : List Char} (hx : ∀ c ∈ xs, c.isDigit = true)
    (hy : ∀ c ∈ ys, c.isDigit = true) (h : xs.length = ys.length) :
    xs < ys ↔ natural xs < natural ys := by
  induction xs generalizing ys with
  | nil =>
    have : ys = [] := List.length_eq_zero_iff.mp h.symm
    simp [this]
  | cons x xs ih =>
    cases ys with
    | nil => simp at h
    | cons y ys =>
      have hlen : xs.length = ys.length := by simpa using h
      have hxs : ∀ c ∈ xs, c.isDigit = true := fun c hc => hx c (by simp [hc])
      have hys : ∀ c ∈ ys, c.isDigit = true := fun c hc => hy c (by simp [hc])
      have hxd : 48 ≤ x.toNat ∧ x.toNat ≤ 57 := Char.isDigit_iff_toNat.mp (hx x (by simp))
      have hyd : 48 ≤ y.toNat ∧ y.toNat ≤ 57 := Char.isDigit_iff_toNat.mp (hy y (by simp))
      have hlt : x < y ↔ x.toNat - 48 < y.toNat - 48 := by
        rw [Char.lt_def, UInt32.lt_iff_toNat_lt]
        change x.toNat < y.toNat ↔ _
        omega
      have heq : x = y ↔ x.toNat - 48 = y.toNat - 48 := by
        constructor
        · intro he
          rw [he]
        · intro he
          exact Char.toNat_inj.mp (by omega)
      rw [List.cons_lt_cons_iff, natural_cons, natural_cons, ← hlen,
        scaled_lt_iff (natural_lt hxs) (hlen ▸ natural_lt hys), ih hxs hys hlen, hlt, heq]

/-- Numerals of one width compare as texts in the order of their numbers. -/
theorem padded_lt_padded_iff {w a b : Nat} (hw : 0 < w) (ha : a < 10 ^ w) (hb : b < 10 ^ w) :
    padded w a < padded w b ↔ a < b := by
  rw [lt_iff_natural_lt (fun _ hc => isDigit_of_mem_padded hc)
    (fun _ hc => isDigit_of_mem_padded hc) (by rw [length_padded hw ha, length_padded hw hb]),
    natural_padded, natural_padded]

theorem padded_inj {w a b : Nat} : padded w a = padded w b ↔ a = b := by
  constructor
  · intro h
    have := congrArg natural h
    simpa using this
  · intro h
    rw [h]

/-- Texts that start with numerals of one width and the same mark compare as the numbers do, and
where these are equal as what comes after the mark. -/
theorem padded_append_lt_iff {w a b : Nat} (hw : 0 < w) (ha : a < 10 ^ w) (hb : b < 10 ^ w)
    (mark : Char) (u v : List Char) :
    padded w a ++ mark :: u < padded w b ++ mark :: v ↔ a < b ∨ (a = b ∧ u < v) := by
  have hlen : (padded w a).length = (padded w b).length := by
    rw [length_padded hw ha, length_padded hw hb]
  rw [append_lt_append_iff hlen, padded_lt_padded_iff hw ha hb, padded_inj,
    List.cons_lt_cons_self]

end EgressWatch.Text
