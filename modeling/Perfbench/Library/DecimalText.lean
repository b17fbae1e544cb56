import Mathlib.Algebra.Ring.Nat
import Mathlib.Data.List.TakeWhile

/-!
# Numbers as padded decimal text

`padded` prints an integer as `printf` does with a zero-padded width, `parse`
reads one as `std::stoi` does, and `dropZeros` removes leading zeros but keeps
a last character.  Parsing what was printed gives the number back, with or
without its leading zeros.
-/

namespace DecimalText

/-- Digits after as many zeros as the width leaves room for. -/
def paddedDigits (width value : Nat) : List Char :=
  List.replicate (width - (Nat.toDigits 10 value).length) '0' ++
    Nat.toDigits 10 value

/-- `%0<width>d`; a sign counts towards the width. -/
def padded (width : Nat) : Int → List Char
  | .ofNat value => paddedDigits width value
  | .negSucc value => '-' :: paddedDigits (width - 1) (value + 1)

/-- The digits at the start of the text as a number, if there are any. -/
def parseDigits (text : List Char) : Option Nat :=
  match text.takeWhile Char.isDigit with
  | [] => none
  | digits => some (Nat.ofDigitChars 10 digits 0)

/-- `isspace`, which knows vertical tabs and form feeds as well. -/
def isSpace (char : Char) : Bool :=
  char.isWhitespace || char.toNat == 11 || char.toNat == 12

/-- White space, a sign and digits; none where `std::stoi` throws for want of
digits. -/
def parse (text : List Char) : Option Int :=
  match text.dropWhile isSpace with
  | '-' :: rest => (parseDigits rest).map (fun value => -(value : Int))
  | '+' :: rest => (parseDigits rest).map Int.ofNat
  | rest => (parseDigits rest).map Int.ofNat

def dropZeros (text : List Char) : List Char :=
  text.drop (min (text.takeWhile (fun char => char == '0')).length
    (text.length - 1))

theorem paddedDigits_isDigit {width value : Nat} {char : Char}
    (member : char ∈ paddedDigits width value) : char.isDigit = true := by
  rcases List.mem_append.mp member with zero | digit
  · rw [List.eq_of_mem_replicate zero]
    decide
  · exact Nat.isDigit_of_mem_toDigits (by decide) (by decide) digit

theorem paddedDigits_ne_nil (width value : Nat) :
    paddedDigits width value ≠ [] := by
  simp [paddedDigits, Nat.toDigits_ne_nil]

theorem paddedDigits_length_le_iff {width value most : Nat}
    (wide : width ≤ most) (positive : 0 < most) :
    (paddedDigits width value).length ≤ most ↔ value < 10 ^ most := by
  rw [← @Nat.length_toDigits_le_iff 10 value most (by decide) positive,
    paddedDigits, List.length_append, List.length_replicate]
  omega

theorem ofDigitChars_paddedDigits (width value : Nat) :
    Nat.ofDigitChars 10 (paddedDigits width value) 0 = value := by
  rw [paddedDigits, Nat.ofDigitChars_append, Nat.ofDigitChars_replicate_zero,
    Nat.mul_zero, Nat.ofDigitChars_ten_toDigits]

theorem parseDigits_of_isDigit {text : List Char} (nonempty : text ≠ [])
    (digits : ∀ char ∈ text, char.isDigit = true) :
    parseDigits text = some (Nat.ofDigitChars 10 text 0) := by
  have all : text.takeWhile Char.isDigit = text :=
    List.takeWhile_eq_self_iff.mpr digits
  cases text with
  | nil => exact absurd rfl nonempty
  | cons first rest => rw [parseDigits, all]

theorem isSpace_of_isDigit {char : Char} (digit : char.isDigit = true) :
    isSpace char = false := by
  have low : 48 ≤ char.toNat := by
    have bounds := digit
    simp only [Char.isDigit, Bool.and_eq_true, decide_eq_true_eq] at bounds
    exact bounds.1
  have notSpace : char.isWhitespace = false := by
    cases space : char.isWhitespace with
    | false => rfl
    | true =>
        simp only [Char.isWhitespace, Bool.or_eq_true,
          decide_eq_true_eq] at space
        rcases space with ((rfl | rfl) | rfl) | rfl
        · exact absurd digit (by decide)
        · exact absurd digit (by decide)
        · exact absurd digit (by decide)
        · exact absurd digit (by decide)
  have notTab : char.toNat ≠ 11 := by omega
  have notFeed : char.toNat ≠ 12 := by omega
  simp [isSpace, notSpace, notTab, notFeed]

/-- Text that starts with a digit has neither white space nor sign before
it. -/
theorem parse_of_isDigit {text : List Char} (nonempty : text ≠ [])
    (digits : ∀ char ∈ text, char.isDigit = true) :
    parse text = some (Nat.ofDigitChars 10 text 0 : Nat) := by
  cases text with
  | nil => exact absurd rfl nonempty
  | cons first rest =>
      have digit := digits first List.mem_cons_self
      have notSpace := isSpace_of_isDigit digit
      have kept : (first :: rest).dropWhile isSpace =
          first :: rest := by
        simp [notSpace]
      rw [parse, kept]
      have value := parseDigits_of_isDigit nonempty digits
      split
      · rename_i equality
        rw [List.cons.injEq] at equality
        exact absurd digit (by rw [equality.1]; decide)
      · rename_i equality
        rw [List.cons.injEq] at equality
        exact absurd digit (by rw [equality.1]; decide)
      · rw [value]
        rfl

theorem ofDigitChars_drop {text : List Char} {count : Nat}
    (zeros : count ≤ (text.takeWhile (fun char => char == '0')).length) :
    Nat.ofDigitChars 10 (text.drop count) 0 = Nat.ofDigitChars 10 text 0 := by
  induction text generalizing count with
  | nil => simp
  | cons first rest induction =>
      cases count with
      | zero => rfl
      | succ count =>
          cases isZero : first == '0' with
          | false => simp [isZero] at zeros
          | true =>
              have firstEq : first = '0' := by simpa using isZero
              rw [List.takeWhile_cons, if_pos isZero, List.length_cons] at zeros
              rw [List.drop_succ_cons, induction (Nat.le_of_succ_le_succ zeros),
                Nat.ofDigitChars_cons, firstEq]
              rfl

theorem ofDigitChars_dropZeros (text : List Char) :
    Nat.ofDigitChars 10 (dropZeros text) 0 = Nat.ofDigitChars 10 text 0 :=
  ofDigitChars_drop (Nat.min_le_left _ _)

theorem dropZeros_ne_nil {text : List Char} (nonempty : text ≠ []) :
    dropZeros text ≠ [] := by
  have positive := List.length_pos_iff.mpr nonempty
  intro isEmpty
  have length := congrArg List.length isEmpty
  simp only [dropZeros, List.length_drop, List.length_nil] at length
  omega

/-- Printing, dropping the leading zeros and parsing gives the number back. -/
theorem parse_dropZeros_padded (width : Nat) (value : Int) :
    parse (dropZeros (padded width value)) = some value := by
  cases value with
  | ofNat value =>
      rw [padded, parse_of_isDigit
        (dropZeros_ne_nil (paddedDigits_ne_nil width value)),
        ofDigitChars_dropZeros, ofDigitChars_paddedDigits]
      · rfl
      · intro char member
        exact paddedDigits_isDigit (List.mem_of_mem_drop member)
  | negSucc value =>
      have kept : dropZeros (padded width (.negSucc value)) =
          padded width (.negSucc value) := by
        simp [dropZeros, padded]
      have digits := parseDigits_of_isDigit
        (paddedDigits_ne_nil (width - 1) (value + 1))
        (fun char member => paddedDigits_isDigit member)
      rw [kept, padded, parse]
      have notSpace : ('-' :: paddedDigits (width - 1)
          (value + 1)).dropWhile isSpace =
            '-' :: paddedDigits (width - 1) (value + 1) := by
        simp [isSpace]
      rw [notSpace]
      simp only [digits, ofDigitChars_paddedDigits]
      rfl

/-- Without a width the text is that of `std::to_string`. -/
theorem parse_padded (width : Nat) (value : Int) :
    parse (padded width value) = some value := by
  cases value with
  | ofNat value =>
      rw [padded, parse_of_isDigit (paddedDigits_ne_nil width value)
        (fun char member => paddedDigits_isDigit member),
        ofDigitChars_paddedDigits]
      rfl
  | negSucc value =>
      -- no zeros stand before the sign
      have kept := parse_dropZeros_padded width (.negSucc value)
      simpa [dropZeros, padded] using kept

theorem padded_injective (width : Nat) :
    Function.Injective (padded width) := by
  intro first second same
  have values := congrArg parse same
  rw [parse_padded, parse_padded, Option.some.injEq] at values
  exact values

end DecimalText
