import ConfigWiring.Config.Escape
import ConfigWiring.Go.Lexer

/-!
# What string literals denote

A string literal between double quotes denotes bytes: each escape stands for the bytes that it
names, every other character for its own.  An escape is longer than what it stands for, so a text
that is put between quotes as it is denotes itself only if no part of it is an escape.
-/

namespace ConfigWiring
namespace Go

/-- The bytes of a text. -/
def bytesOf (text : List Char) : List UInt8 := text.flatMap String.utf8EncodeChar

/-- Whether a text has no character with a meaning of its own between double quotes. -/
def isPlain (text : List Char) : Bool :=
  text.all fun char => char != '"' && char != '\\' && char != '\n'

@[simp] theorem bytesOf_nil : bytesOf [] = [] := rfl

@[simp] theorem bytesOf_cons (char : Char) (rest : List Char) :
    bytesOf (char :: rest) = String.utf8EncodeChar char ++ bytesOf rest := rfl

@[simp] theorem bytesOf_append (front back : List Char) :
    bytesOf (front ++ back) = bytesOf front ++ bytesOf back :=
  List.flatMap_append

theorem length_le_length_bytesOf (text : List Char) : text.length ≤ (bytesOf text).length := by
  induction text with
  | nil => exact Nat.le_refl 0
  | cons char rest inductionHypothesis =>
      have positive := Char.utf8Size_pos char
      simp only [bytesOf_cons, List.length_append, List.length_cons, String.length_utf8EncodeChar]
      omega

/-! ## Escapes -/

/-- The byte that a letter behind a backslash stands for. -/
def letterByte? : Char -> Option UInt8
  | 'a' => some 0x07
  | 'b' => some 0x08
  | 't' => some 0x09
  | 'n' => some 0x0A
  | 'v' => some 0x0B
  | 'f' => some 0x0C
  | 'r' => some 0x0D
  | '"' => some 0x22
  | '\\' => some 0x5C
  | _ => none

/-- The first characters of a text, if it has as many. -/
def digits? (count : Nat) (text : List Char) : Option (List Char) :=
  if count ≤ text.length then some (text.take count) else none

/-- The value of octal digits. -/
def octalValue? (digits : List Char) : Option Nat :=
  if digits.all Number.isOctalDigit then
    some (digits.foldl (fun value digit => 8 * value + (digit.toNat - '0'.toNat)) 0)
  else none

/-- The byte of a number, if there is one. -/
def byteOf? (number : Nat) : Option UInt8 :=
  if number < 256 then some (UInt8.ofNat number) else none

/-- The bytes that a text behind a backslash stands for, and how many characters spell them. -/
def readEscape? : List Char -> Option (List UInt8 × Nat)
  | [] => none
  | letter :: rest =>
      match letterByte? letter, letter with
      | some byte, _ => some ([byte], 1)
      | none, 'x' => do
          let byte ← byteOf? (← Config.hexValue? (← digits? 2 rest))
          return ([byte], 3)
      | none, 'u' => do
          let char ← Config.charOf? (← Config.hexValue? (← digits? 4 rest))
          return (String.utf8EncodeChar char, 5)
      | none, 'U' => do
          let char ← Config.charOf? (← Config.hexValue? (← digits? 8 rest))
          return (String.utf8EncodeChar char, 9)
      | none, _ => do
          let byte ← byteOf? (← octalValue? (← digits? 3 (letter :: rest)))
          return ([byte], 3)

/-- The bytes that a string literal denotes behind its opening quote.  The number tells how many
characters belong to an escape that is already read. -/
def bodyBytes? : Nat -> List Char -> Option (List UInt8)
  | _, [] => none
  | covered + 1, _ :: rest => bodyBytes? covered rest
  | 0, char :: rest =>
      if char = '"' then if rest = [] then some [] else none
      else if char = '\n' then none
      else if char = '\\' then
        (readEscape? rest).bind fun (bytes, length) => (bodyBytes? length rest).map (bytes ++ ·)
      else (bodyBytes? 0 rest).map (String.utf8EncodeChar char ++ ·)

/-- The bytes that a string literal between double quotes denotes. -/
def denoted? : List Char -> Option (List UInt8)
  | '"' :: body => bodyBytes? 0 body
  | _ => none

/-- An escape has no fewer characters behind its backslash than it stands for bytes. -/
theorem length_le_of_readEscape?
    {text : List Char}
    {bytes : List UInt8}
    {length : Nat}
    (read : readEscape? text = some (bytes, length)) :
    bytes.length ≤ length := by
  have bounded (char : Char) : (String.utf8EncodeChar char).length ≤ 4 := by
    rw [String.length_utf8EncodeChar]
    exact Char.utf8Size_le_four char
  unfold readEscape? at read
  split at read
  · cases read
  · split at read
    · cases read
      exact Nat.le_refl 1
    all_goals
      simp only [bind, Option.bind_eq_some_iff, pure, Option.some.injEq, Prod.mk.injEq] at read
      obtain ⟨_, _, _, _, char, _, rfl, rfl⟩ := read
    · exact Nat.le_of_ble_eq_true rfl
    · exact Nat.le_trans (bounded char) (by decide)
    · exact Nat.le_trans (bounded char) (by decide)
    · exact Nat.le_of_ble_eq_true rfl

/-! ## Literals -/

/-- What a literal denotes has no more bytes than it is spelt with, and as many only if nothing in
it has a meaning of its own. -/
theorem exists_body_of_bodyBytes?
    {covered : Nat}
    {text : List Char}
    {bytes : List UInt8}
    (read : bodyBytes? covered text = some bytes) :
    ∃ body, text.drop covered = body ++ ['"'] ∧ bytes.length ≤ (bytesOf body).length ∧
      (bytes.length = (bytesOf body).length -> isPlain body = true) := by
  fun_induction bodyBytes? covered text generalizing bytes with
  | case1 => cases read
  | case2 covered char rest inductionHypothesis => exact inductionHypothesis read
  | case3 =>
      cases read
      exact ⟨[], rfl, Nat.le_refl 0, fun _ => rfl⟩
  | case4 => cases read
  | case5 => cases read
  | case6 rest noQuote noBreak inductionHypothesis =>
      obtain ⟨⟨escaped, length⟩, escape, read⟩ := Option.bind_eq_some_iff.1 read
      obtain ⟨further, readRest, rfl⟩ := Option.map_eq_some_iff.1 read
      obtain ⟨body, spelt, shorter, _⟩ := inductionHypothesis _ readRest
      have inside : length < rest.length := by
        have nonempty : (rest.drop length).length ≠ 0 := by simp [spelt]
        rw [List.length_drop] at nonempty
        omega
      have taken := length_le_length_bytesOf (rest.take length)
      rw [List.length_take_of_le (by omega)] at taken
      have escapes := length_le_of_readEscape? escape
      have less : (escaped ++ further).length <
          (bytesOf ('\\' :: (rest.take length ++ body))).length := by
        have own : (String.utf8EncodeChar '\\').length = 1 := by decide
        simp only [bytesOf_cons, bytesOf_append, List.length_append, own]
        omega
      refine ⟨'\\' :: (rest.take length ++ body), ?_, Nat.le_of_lt less,
        fun same => absurd same (Nat.ne_of_lt less)⟩
      rw [List.drop_zero, List.cons_append, List.append_assoc, ← spelt, List.take_append_drop]
  | case7 char rest noQuote noBreak noBackslash inductionHypothesis =>
      obtain ⟨further, readRest, rfl⟩ := Option.map_eq_some_iff.1 read
      obtain ⟨body, spelt, shorter, plain⟩ := inductionHypothesis readRest
      refine ⟨char :: body, by simpa using spelt, by simpa using shorter, fun same => ?_⟩
      have plainBody : isPlain body = true := plain (by simpa using same)
      simpa [isPlain, noQuote, noBreak, noBackslash] using plainBody

/-- Text without a character of special meaning denotes itself. -/
theorem bodyBytes?_of_isPlain
    {text : List Char}
    (plain : isPlain text = true) :
    bodyBytes? 0 (text ++ ['"']) = some (bytesOf text) := by
  induction text with
  | nil => rfl
  | cons char rest inductionHypothesis =>
      simp only [isPlain, List.all_cons, Bool.and_eq_true, bne_iff_ne, ne_eq] at plain
      obtain ⟨⟨⟨noQuote, noBackslash⟩, noBreak⟩, plainRest⟩ := plain
      rw [List.cons_append, bodyBytes?, if_neg noQuote, if_neg noBreak, if_neg noBackslash,
        inductionHypothesis (by simpa [isPlain] using plainRest)]
      rfl

/-! ## Quoting a text as it is -/

section Quoted

open Lexer

variable {text rest : List Char}

theorem interpretedLength?_of_isPlain
    (plain : isPlain text = true)
    (rest : List Char) :
    interpretedLength? (text ++ '"' :: rest) = some (text.length + 1) := by
  induction text with
  | nil => rfl
  | cons char further inductionHypothesis =>
      simp only [isPlain, List.all_cons, Bool.and_eq_true, bne_iff_ne, ne_eq] at plain
      obtain ⟨⟨⟨noQuote, noBackslash⟩, noBreak⟩, plainRest⟩ := plain
      rw [List.cons_append, interpretedLength?,
        inductionHypothesis (by simpa [isPlain] using plainRest)]
      · rfl
      · exact noQuote
      · exact noBreak
      · exact fun _ _ same => absurd same noBackslash
      · exact fun same => absurd same noBackslash

/-- A quoted text is no longer for the lexer than it was meant, if no string ends behind it. -/
theorem le_of_interpretedLength?
    {text : List Char}
    {length : Nat}
    (endless : interpretedLength? rest = none)
    (closed : interpretedLength? (text ++ '"' :: rest) = some length) :
    length ≤ text.length + 1 := by
  match text with
  | [] =>
      cases closed
      exact Nat.le_refl 1
  | char :: further =>
      by_cases backslash : char = '\\'
      · subst backslash
        match further with
        | [] =>
            -- The quote that was meant to end the text is part of an escape.
            rw [List.singleton_append, interpretedLength?, endless] at closed
            split at closed <;> cases closed
        | escaped :: others =>
            rw [List.cons_append, List.cons_append, interpretedLength?] at closed
            split at closed
            · obtain ⟨inner, found, rfl⟩ := Option.map_eq_some_iff.1 closed
              have bound := le_of_interpretedLength? endless found
              simp only [List.length_cons]
              omega
            · cases closed
      · rw [List.cons_append] at closed
        unfold interpretedLength? at closed
        split at closed
        · next same => cases same
        · cases closed
          simp
        · cases closed
        · next same => exact absurd (List.cons.inj same).1 backslash
        · next same => exact absurd (List.cons.inj same).1 backslash
        · next same =>
            obtain ⟨_, rfl⟩ := List.cons.inj same
            obtain ⟨inner, found, rfl⟩ := Option.map_eq_some_iff.1 closed
            have bound := le_of_interpretedLength? endless found
            simp only [List.length_cons]
            omega

/-- A quoted text denotes itself only if no character in it has a meaning of its own. -/
theorem isPlain_of_denoted?
    {length : Nat}
    (endless : interpretedLength? rest = none)
    (closed : interpretedLength? (text ++ '"' :: rest) = some length)
    (denotes : denoted? ('"' :: (text ++ '"' :: rest).take length) = some (bytesOf text)) :
    isPlain text = true := by
  obtain ⟨body, spelt, shorter, plain⟩ := exists_body_of_bodyBytes? denotes
  rw [List.drop_zero] at spelt
  have bound := le_of_interpretedLength? endless closed
  have inside : body.length ≤ text.length := by
    have lengths := congrArg List.length spelt
    simp only [List.length_take, List.length_append, List.length_cons, List.length_nil] at lengths
    omega
  obtain ⟨further, rfl⟩ : body <+: text := by
    have front : body <+: text ++ '"' :: rest :=
      ((List.prefix_append body ['"']).trans (spelt ▸ List.take_prefix length _))
    exact List.prefix_of_prefix_length_le front (List.prefix_append _ _) inside
  have none : further = [] := by
    have positive := length_le_length_bytesOf further
    rw [bytesOf_append, List.length_append] at shorter
    exact List.eq_nil_of_length_eq_zero (by omega)
  rw [none, List.append_nil] at plain ⊢
  exact plain rfl

end Quoted

end Go
end ConfigWiring
