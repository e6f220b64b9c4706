/-!
# Blank characters

The characters of the Unicode property `White_Space`, and cutting them from the ends of a text.
The class is wider than `Char.isWhitespace`, which knows four ASCII characters: the vertical tab,
the form feed, the no-break space and the spaces of typography count here, while the zero-width
space does not.
-/

namespace EgressWatch.Text

/-- The Unicode property `White_Space`. -/
def isBlank (c : Char) : Bool :=
  let n := c.toNat
  (9 ≤ n && n ≤ 13) || n == 0x20 || n == 0x85 || n == 0xA0 || n == 0x1680 ||
    (0x2000 ≤ n && n ≤ 0x200A) || n == 0x2028 || n == 0x2029 || n == 0x202F || n == 0x205F ||
    n == 0x3000

/-- Cuts the blanks before the first other character. -/
def trimStart (cs : List Char) : List Char := cs.dropWhile isBlank

/-- Cuts the blanks after the last other character. -/
def trimEnd (cs : List Char) : List Char := (cs.reverse.dropWhile isBlank).reverse

/-- Cuts the blanks at both ends. -/
def trim (cs : List Char) : List Char := trimEnd (trimStart cs)

@[simp] theorem trimStart_nil : trimStart [] = [] := rfl

/-- A text that does not start with a blank keeps its start. -/
theorem trimStart_cons {c : Char} {cs : List Char} (h : isBlank c = false) :
    trimStart (c :: cs) = c :: cs := by
  simp [trimStart, List.dropWhile, h]

/-- Blanks in front make no difference. -/
theorem trimStart_append {bs cs : List Char} (h : ∀ b ∈ bs, isBlank b = true) :
    trimStart (bs ++ cs) = trimStart cs := by
  induction bs with
  | nil => rfl
  | cons b bs ih =>
    have hb := h b (by simp)
    simpa [trimStart, List.dropWhile, hb] using ih (fun x hx => h x (by simp [hx]))

end EgressWatch.Text
