/-
This file is a small library on the text functions of the C library: a line read into a
buffer of bounded size, and numbers written and read in decimal.

A line that fits the buffer is read whole, with its newline and nothing behind it. A
number that was written in decimal is read back, whatever stands behind it, as long as
that does not begin with another digit.
-/

import Mathlib.Data.List.Basic
import Mathlib.Data.List.TakeWhile

namespace SensorGateway.Text

/-! ### Lines -/

/-- The characters up to the first newline, the newline included, or as many as there is room
for; and what is left. -/
def readLine : Nat → List Char → List Char × List Char
  | 0, rest => ([], rest)
  | _ + 1, [] => ([], [])
  | room + 1, character :: rest =>
    if character = '\n' then ([character], rest)
    else (character :: (readLine room rest).1, (readLine room rest).2)

/-- `fgets(line, size, stream)`: nothing at the end of the stream, otherwise the line that was
stored (without its NUL) and what is left of the stream. -/
def fgets (size : Nat) (stream : List Char) : Option (List Char × List Char) :=
  if stream = [] then none else some (readLine (size - 1) stream)

theorem readLine_append {line rest : List Char} {room : Nat} (single : '\n' ∉ line)
    (fits : line.length < room) :
    readLine room (line ++ '\n' :: rest) = (line ++ ['\n'], rest) := by
  induction line generalizing room with
  | nil =>
    obtain ⟨room, rfl⟩ : ∃ less, room = less + 1 := ⟨room - 1, by simp at fits; omega⟩
    rfl
  | cons character line inductionHypothesis =>
    rw [List.length_cons] at fits
    rw [List.mem_cons, not_or] at single
    obtain ⟨room, rfl⟩ : ∃ less, room = less + 1 := ⟨room - 1, by omega⟩
    rw [List.cons_append, readLine, if_neg (Ne.symm single.1),
      inductionHypothesis single.2 (by omega)]
    rfl

/-- A line that fits is read whole. -/
theorem fgets_append {line rest : List Char} {size : Nat} (single : '\n' ∉ line)
    (fits : line.length + 1 < size) :
    fgets size (line ++ '\n' :: rest) = some (line ++ ['\n'], rest) := by
  rw [fgets, if_neg (by simp), readLine_append single (by omega)]

theorem length_readLine_le (room : Nat) (stream : List Char) :
    (readLine room stream).2.length ≤ stream.length := by
  induction stream generalizing room with
  | nil => cases room <;> exact Nat.le_refl _
  | cons character rest inductionHypothesis =>
    cases room with
    | zero => exact Nat.le_refl _
    | succ room =>
      rw [readLine]
      split
      · exact Nat.le_succ _
      · exact Nat.le_trans (inductionHypothesis room) (Nat.le_succ _)

/-- Every line takes something from the stream. -/
theorem length_lt_of_fgets {stream line rest : List Char} {size : Nat} (room : 2 ≤ size)
    (read : fgets size stream = some (line, rest)) : rest.length < stream.length := by
  unfold fgets at read
  split_ifs at read with empty
  obtain ⟨character, others, rfl⟩ := List.exists_cons_of_ne_nil empty
  obtain ⟨less, enough⟩ := Nat.exists_eq_add_one_of_ne_zero (Nat.sub_ne_zero_of_lt room)
  rw [Option.some.injEq, enough, readLine] at read
  have left : rest = (if character = '\n' then others else (readLine less others).2) := by
    split_ifs at read ⊢ <;> exact (Prod.mk.inj read).2.symm
  rw [left]
  split
  · exact Nat.lt_succ_self _
  · exact Nat.lt_succ_of_le (length_readLine_le less others)

/-! ### Numbers -/

/-- A character that `scanf` skips. -/
def isSpace (character : Char) : Bool :=
  character ∈ [' ', '\t', '\n', Char.ofNat 11, Char.ofNat 12, '\r']

/-- The digits of a number, as `%hu` writes them. -/
def printUnsigned (number : BitVec 16) : List Char := Nat.toDigits 10 number.toNat

/-- The sign in front of a number, and what stands behind it. -/
def readSign : List Char → Bool × List Char
  | '-' :: rest => (true, rest)
  | '+' :: rest => (false, rest)
  | rest => (false, rest)

/-- The conversion `%hu`: skip spaces, take an optional sign and as many digits as there are; the
number is reduced modulo 2^16. Without a digit the conversion fails. -/
def scanUnsigned (text : List Char) : Option (BitVec 16 × List Char) :=
  let signed := readSign (text.dropWhile isSpace)
  let digits := signed.2.takeWhile Char.isDigit
  let number := BitVec.ofNat 16 (Nat.ofDigitChars 10 digits 0)
  if digits = [] then none
  else some (if signed.1 then -number else number, signed.2.dropWhile Char.isDigit)

/-- The function `strtol` for decimal digits: skip spaces, take an optional sign and as many digits
as there are. A number that no `long` of 64 bits holds becomes the nearest one that it holds. -/
def strtol (text : List Char) : Int :=
  let signed := readSign (text.dropWhile isSpace)
  let number := Nat.ofDigitChars 10 (signed.2.takeWhile Char.isDigit) 0
  if signed.1 then -((number.min 0x8000000000000000 : Nat) : Int)
  else (number.min 0x7fffffffffffffff : Nat)

/-- The function `atoi`: the `int` of 32 bits that is left of the `long`. -/
def atoi (text : List Char) : Int := (strtol text).bmod 0x100000000

theorem isDigit_of_mem_printUnsigned {number : BitVec 16} {character : Char}
    (member : character ∈ printUnsigned number) : character.isDigit :=
  Nat.isDigit_of_mem_toDigits (by decide) (by decide) member

theorem printUnsigned_ne_nil (number : BitVec 16) : printUnsigned number ≠ [] :=
  Nat.toDigits_ne_nil

/-- A 16-bit number has at most five digits. -/
theorem length_printUnsigned_le (number : BitVec 16) : (printUnsigned number).length ≤ 5 := by
  have small : number.toNat < 10 ^ 5 := by omega
  exact (Nat.length_toDigits_le_iff (by decide) (by decide)).mpr small

theorem isSpace_of_isDigit {character : Char} (digit : character.isDigit) :
    isSpace character = false := by
  refine decide_eq_false fun member => ?_
  simp only [List.mem_cons, List.not_mem_nil, or_false] at member
  rcases member with rfl | rfl | rfl | rfl | rfl | rfl
  all_goals exact absurd digit (by decide)

theorem readSign_of_isDigit {character : Char} (digit : character.isDigit) (rest : List Char) :
    readSign (character :: rest) = (false, character :: rest) := by
  unfold readSign
  split
  · exact absurd digit (by simp_all [Char.isDigit])
  · exact absurd digit (by simp_all [Char.isDigit])
  · rfl

/-- A number is written without spaces and without a sign in front. -/
theorem readSign_printUnsigned (number : BitVec 16) (rest : List Char) :
    readSign ((printUnsigned number ++ rest).dropWhile isSpace) =
      (false, printUnsigned number ++ rest) := by
  obtain ⟨first, others, digits⟩ := List.exists_cons_of_ne_nil (printUnsigned_ne_nil number)
  have firstDigit : first.isDigit :=
    isDigit_of_mem_printUnsigned (digits ▸ List.mem_cons_self)
  rw [digits, List.cons_append, List.dropWhile_cons_of_neg, readSign_of_isDigit firstDigit]
  rw [isSpace_of_isDigit firstDigit]
  exact Bool.false_ne_true

/-- A number that was written is read back. -/
theorem scanUnsigned_append {number : BitVec 16} {rest : List Char}
    (ends : ∀ character ∈ rest.head?, character.isDigit = false) :
    scanUnsigned (printUnsigned number ++ rest) = some (number, rest) := by
  have allDigits : ∀ character ∈ printUnsigned number, character.isDigit = true :=
    fun character member => isDigit_of_mem_printUnsigned member
  have stops : rest.takeWhile Char.isDigit = [] ∧ rest.dropWhile Char.isDigit = rest := by
    cases rest with
    | nil => exact ⟨rfl, rfl⟩
    | cons character rest =>
      have other : ¬ character.isDigit = true := by
        rw [ends character rfl]
        exact Bool.false_ne_true
      exact ⟨List.takeWhile_cons_of_neg other, List.dropWhile_cons_of_neg other⟩
  unfold scanUnsigned
  dsimp only
  rw [readSign_printUnsigned]
  dsimp only
  rw [List.takeWhile_append_of_pos allDigits, List.dropWhile_append_of_pos allDigits, stops.1,
    stops.2, List.append_nil, if_neg (printUnsigned_ne_nil number), if_neg Bool.false_ne_true,
    printUnsigned, Nat.ofDigitChars_ten_toDigits, BitVec.ofNat_toNat, BitVec.setWidth_eq]

/-- A space in front of a number is skipped. -/
theorem scanUnsigned_space {character : Char} (space : isSpace character) (rest : List Char) :
    scanUnsigned (character :: rest) = scanUnsigned rest := by
  unfold scanUnsigned
  rw [List.dropWhile_cons_of_pos space]

/-- A number that was written is read back by `strtol`. -/
theorem strtol_printUnsigned (number : BitVec 16) :
    strtol (printUnsigned number) = number.toNat := by
  have unsigned := readSign_printUnsigned number []
  rw [List.append_nil] at unsigned
  have small := number.isLt
  unfold strtol
  dsimp only
  rw [unsigned]
  dsimp only
  rw [List.takeWhile_eq_self_iff.mpr fun character member =>
    isDigit_of_mem_printUnsigned member, if_neg Bool.false_ne_true, printUnsigned,
    Nat.ofDigitChars_ten_toDigits]
  exact congrArg Nat.cast (Nat.min_eq_left (by omega))

/-- A number that was written is read back by `atoi`. -/
theorem ofInt_atoi_printUnsigned (number : BitVec 16) :
    BitVec.ofInt 16 (atoi (printUnsigned number)) = number := by
  have small := number.isLt
  have whole : (number.toNat : Int).bmod 0x100000000 = number.toNat :=
    Int.bmod_eq_of_le (by omega) (by omega)
  rw [atoi, strtol_printUnsigned, whole, BitVec.ofInt_natCast, BitVec.ofNat_toNat,
    BitVec.setWidth_eq]

end SensorGateway.Text
