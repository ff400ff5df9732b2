import Mathlib.Data.List.TakeWhile

/-!
# Numbers and addresses in text

Two ways to read decimal numbers. A number is read as the C library reads it, from a sign and the
longest prefix of digits after white space, whatever follows. An address is read strictly, as four
octets of one to three digits with a point between them. What is printed in decimal is read back
either way.
-/

namespace FastDdsWrapper.DecimalText

/-- The value of the longest prefix of digits, zero where there is none. -/
def leadingNumber (text : List Char) : Nat :=
  Nat.ofDigitChars 10 (text.takeWhile Char.isDigit) 0

/-- White space of the C locale. -/
def isSpace (char : Char) : Bool := char == ' ' || (9 ≤ char.toNat && char.toNat ≤ 13)

/-- The value of an optional sign and the longest prefix of digits, after white space. -/
def signedNumber (text : List Char) : Int :=
  match text.dropWhile isSpace with
  | '-' :: rest => -(leadingNumber rest : Int)
  | '+' :: rest => leadingNumber rest
  | rest => leadingNumber rest

/-- An address of four octets. -/
structure Quad where
  /-- First octet. -/
  first : BitVec 8
  /-- Second octet. -/
  second : BitVec 8
  /-- Third octet. -/
  third : BitVec 8
  /-- Fourth octet. -/
  fourth : BitVec 8
deriving DecidableEq

/-- The address of no machine. -/
def Quad.zero : Quad := ⟨0, 0, 0, 0⟩

/-- One to three digits of a value below 256. -/
def readOctet (text : List Char) : Option (BitVec 8) :=
  if text.all Char.isDigit && 0 < text.length && text.length ≤ 3 &&
      Nat.ofDigitChars 10 text 0 < 256 then
    some (BitVec.ofNat 8 (Nat.ofDigitChars 10 text 0))
  else none

/-- Four octets with a point between them. -/
def readQuad (text : List Char) : Option Quad :=
  match text.splitOn '.' with
  | [first, second, third, fourth] => do
    some ⟨← readOctet first, ← readOctet second, ← readOctet third, ← readOctet fourth⟩
  | _ => none

/-- The dotted text of an address. -/
def Quad.text (quad : Quad) : List Char :=
  ['.'].intercalate ([quad.first, quad.second, quad.third, quad.fourth].map fun octet =>
    Nat.toDigits 10 octet.toNat)

/-! ## Numbers -/

/-- A digit is neither white space nor a sign. -/
theorem digit_plain {char : Char} (digit : char.isDigit = true) :
    isSpace char = false ∧ char ≠ '-' ∧ char ≠ '+' := by
  obtain ⟨low, high⟩ := Char.isDigit_iff_toNat.mp digit
  have least : '0'.toNat = 48 := rfl
  refine ⟨?_, ?_, ?_⟩
  · have apart : char ≠ ' ' := by
      rintro rfl
      exact absurd low (by decide)
    simp only [isSpace, apart, beq_eq_false_iff_ne, ne_eq, not_false_eq_true, Bool.or_eq_false_iff,
      true_and, Bool.and_eq_false_iff, decide_eq_false_iff_not, not_le]
    omega
  · rintro rfl
    exact absurd low (by decide)
  · rintro rfl
    exact absurd low (by decide)

/-- Text of digits alone is a number in full. -/
theorem leadingNumber_digits {digits : List Char} (all : ∀ char ∈ digits, char.isDigit = true) :
    leadingNumber digits = Nat.ofDigitChars 10 digits 0 := by
  rw [leadingNumber, List.takeWhile_eq_self_iff.mpr all]

/-- It is read without a sign. -/
theorem signedNumber_digits {digits : List Char} (all : ∀ char ∈ digits, char.isDigit = true) :
    signedNumber digits = Nat.ofDigitChars 10 digits 0 := by
  cases digits with
  | nil => rfl
  | cons char rest =>
    obtain ⟨dark, unsigned, unmarked⟩ := digit_plain (all char (List.mem_cons_self ..))
    have start : (char :: rest).dropWhile isSpace = char :: rest := by
      rw [List.dropWhile_cons, dark]
      rfl
    unfold signedNumber
    rw [start]
    split
    · rename_i other same
      exact absurd (List.cons.inj same).1 unsigned
    · rename_i other same
      exact absurd (List.cons.inj same).1 unmarked
    · rw [leadingNumber_digits all]

/-- The decimal text of a number has digits only. -/
theorem toDigits_isDigit (number : Nat) : ∀ char ∈ Nat.toDigits 10 number, char.isDigit = true :=
  fun _ member => Nat.isDigit_of_mem_toDigits (by decide) (by decide) member

/-! ## Addresses -/

/-- A read octet is a short text of digits. -/
theorem readOctet_some {text : List Char} {octet : BitVec 8} (read : readOctet text = some octet) :
    (∀ char ∈ text, char.isDigit = true) ∧ text.length ≤ 3 := by
  unfold readOctet at read
  split at read
  · rename_i shape
    simp only [Bool.and_eq_true, List.all_eq_true, decide_eq_true_eq] at shape
    exact ⟨shape.1.1.1, shape.1.2⟩
  · cases read

/-- The decimal text of an octet is read back. -/
theorem readOctet_toDigits (octet : BitVec 8) :
    readOctet (Nat.toDigits 10 octet.toNat) = some octet := by
  have bound : octet.toNat < 256 := octet.isLt
  have short : (Nat.toDigits 10 octet.toNat).length ≤ 3 :=
    (Nat.length_toDigits_le_iff (by decide) (by decide)).mpr (by omega)
  have shape : ((Nat.toDigits 10 octet.toNat).all Char.isDigit &&
      0 < (Nat.toDigits 10 octet.toNat).length && (Nat.toDigits 10 octet.toNat).length ≤ 3 &&
      Nat.ofDigitChars 10 (Nat.toDigits 10 octet.toNat) 0 < 256) = true := by
    simp only [Bool.and_eq_true, List.all_eq_true, decide_eq_true_eq,
      Nat.ofDigitChars_ten_toDigits]
    exact ⟨⟨⟨toDigits_isDigit octet.toNat, Nat.length_toDigits_pos⟩, short⟩, bound⟩
  rw [readOctet, if_pos shape, Nat.ofDigitChars_ten_toDigits, BitVec.ofNat_toNat,
    BitVec.setWidth_eq]

/-- A read address is a short text of digits and points. -/
theorem readQuad_some {text : List Char} {quad : Quad} (read : readQuad text = some quad) :
    (∀ char ∈ text, char.isDigit = true ∨ char = '.') ∧ text.length ≤ 15 := by
  unfold readQuad at read
  split at read
  · rename_i first second third fourth parts
    simp only [bind, Option.bind_eq_some_iff, Option.some.injEq] at read
    obtain ⟨_, one, _, two, _, three, _, four, _⟩ := read
    have whole : text = ['.'].intercalate [first, second, third, fourth] := by
      rw [← parts, List.intercalate_splitOn]
    obtain ⟨firstDigits, firstShort⟩ := readOctet_some one
    obtain ⟨secondDigits, secondShort⟩ := readOctet_some two
    obtain ⟨thirdDigits, thirdShort⟩ := readOctet_some three
    obtain ⟨fourthDigits, fourthShort⟩ := readOctet_some four
    constructor
    · intro char member
      simp only [whole, List.intercalate_cons_cons, List.intercalate_singleton, List.mem_append,
        List.mem_singleton] at member
      rcases member with (inside | point) | (inside | point) | (inside | point) | inside
      · exact .inl (firstDigits char inside)
      · exact .inr point
      · exact .inl (secondDigits char inside)
      · exact .inr point
      · exact .inl (thirdDigits char inside)
      · exact .inr point
      · exact .inl (fourthDigits char inside)
    · simp only [whole, List.intercalate_cons_cons, List.intercalate_singleton, List.length_append,
        List.length_singleton]
      omega
  · cases read

/-- The text of an address is read back. -/
theorem readQuad_text (quad : Quad) : readQuad quad.text = some quad := by
  have parts : quad.text.splitOn '.' = [Nat.toDigits 10 quad.first.toNat,
      Nat.toDigits 10 quad.second.toNat, Nat.toDigits 10 quad.third.toNat,
      Nat.toDigits 10 quad.fourth.toNat] := by
    refine List.splitOn_intercalate '.' ?_ (List.cons_ne_nil _ _)
    intro part member inside
    obtain ⟨octet, _, rfl⟩ := List.mem_map.mp member
    exact absurd (toDigits_isDigit octet.toNat '.' inside) (by decide)
  unfold readQuad
  rw [parts]
  simp only [readOctet_toDigits, bind, Option.bind]

end FastDdsWrapper.DecimalText
