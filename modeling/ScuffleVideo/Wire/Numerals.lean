import ScuffleVideo.Wire.Text

/-!
# Numerals and slices of text

Numbers are written in a radix, with zeros in front up to a width, and read from text with a bound
on their size.  A reader takes a plus sign in front and zeros of any number.  Text is its characters;
a place in it is a number of bytes, and a slice needs a place between two characters.
-/

namespace ScuffleVideo.Wire

/-- The characters of a text. -/
abbrev Text := List Char

inductive ParseIntError where
  | empty
  | invalidDigit
  | posOverflow
  deriving DecidableEq, Repr

def ParseIntError.message : ParseIntError → String
  | .empty => "cannot parse integer from empty string"
  | .invalidDigit => "invalid digit found in string"
  | .posOverflow => "number too large to fit in target type"

/-! ## Digits -/

section Digits

variable {radix bound : Nat}

/-- The value of a digit, with letters of either case from ten on. -/
def digitValue (char : Char) : Option Nat :=
  if '0' ≤ char ∧ char ≤ '9' then some (char.toNat - '0'.toNat)
  else if 'a' ≤ char ∧ char ≤ 'z' then some (char.toNat - 'a'.toNat + 10)
  else if 'A' ≤ char ∧ char ≤ 'Z' then some (char.toNat - 'A'.toNat + 10)
  else none

def toDigit (radix : Nat) (char : Char) : Option Nat := (digitValue char).filter (· < radix)

/-- The number that digits make behind a value, which must stay below the bound. -/
def digitsFrom (radix bound : Nat) : Nat → Text → Except ParseIntError Nat
  | value, [] => .ok value
  | value, char :: chars =>
      match toDigit radix char with
      | none => .error .invalidDigit
      | some digit =>
          if value * radix + digit < bound then digitsFrom radix bound (value * radix + digit) chars
          else .error .posOverflow

/-- A number of an unsigned type, below the bound of the type. -/
def fromStrRadix (radix bound : Nat) : Text → Except ParseIntError Nat
  | [] => .error .empty
  | char :: chars =>
      if (char = '+' ∨ char = '-') ∧ chars = [] then .error .invalidDigit
      else if char = '+' then digitsFrom radix bound 0 chars
      else digitsFrom radix bound 0 (char :: chars)

/-- A number as it is written, with zeros in front up to the width. -/
def formatted (radix width number : Nat) : Text :=
  List.replicate (width - (Nat.toDigits radix number).length) '0' ++ Nat.toDigits radix number

theorem toDigit_digitChar (narrow : radix ≤ 16) {digit : Nat} (small : digit < radix) :
    toDigit radix (Nat.digitChar digit) = some digit := by
  have known : ∀ digit < 16, digitValue (Nat.digitChar digit) = some digit := by decide
  rw [toDigit, known digit (Nat.lt_of_lt_of_le small narrow), Option.filter_some,
    if_pos (decide_eq_true small)]

/-- Digits are ASCII. -/
theorem utf8Size_of_toDigit {char : Char} (digit : (toDigit radix char).isSome) :
    char.utf8Size = 1 := by
  rw [utf8Size_eq_one_iff]
  by_contra large
  have above (letter : Char) (ascii : letter.toNat < 128) : ¬char ≤ letter := by
    intro below
    exact large (Nat.lt_of_le_of_lt (UInt32.le_iff_toNat_le.mp below) ascii)
  have none : digitValue char = none := by
    rw [digitValue, if_neg (fun both => above '9' (by decide) both.2),
      if_neg (fun both => above 'z' (by decide) both.2),
      if_neg (fun both => above 'Z' (by decide) both.2)]
  rw [toDigit, none] at digit
  cases digit

theorem digitsFrom_append (value : Nat) (front back : Text) :
    digitsFrom radix bound value (front ++ back) =
      (digitsFrom radix bound value front).bind fun value => digitsFrom radix bound value back := by
  induction front generalizing value with
  | nil => rfl
  | cons char chars ih =>
      rw [List.cons_append, digitsFrom, digitsFrom]
      cases toDigit radix char with
      | none => rfl
      | some digit =>
          dsimp only
          split
          · exact ih _
          · rfl

/-- Every character of a number is a digit. -/
theorem isSome_toDigit_of_digitsFrom {value number : Nat} {chars : Text}
    (read : digitsFrom radix bound value chars = .ok number) :
    ∀ char ∈ chars, (toDigit radix char).isSome := by
  induction chars generalizing value with
  | nil => exact nofun
  | cons first chars ih =>
      rw [digitsFrom] at read
      cases known : toDigit radix first with
      | none =>
          rw [known] at read
          cases read
      | some digit =>
          rw [known] at read
          dsimp only at read
          split at read
          · intro char present
            rcases List.mem_cons.mp present with rfl | later
            · rw [known]
              rfl
            · exact ih read char later
          · cases read

theorem digitsFrom_toDigits (wide : 1 < radix) (narrow : radix ≤ 16) {number : Nat}
    (small : number < bound) : digitsFrom radix bound 0 (Nat.toDigits radix number) = .ok number := by
  induction number using Nat.strongRecOn with
  | ind number ih =>
      by_cases single : number < radix
      · rw [Nat.toDigits_of_lt_base single, digitsFrom, toDigit_digitChar narrow single]
        dsimp only
        rw [Nat.zero_mul, Nat.zero_add, if_pos small]
        rfl
      · have larger : radix ≤ number := Nat.le_of_not_lt single
        have less : number / radix < number := Nat.div_lt_self (by omega) wide
        have together : number / radix * radix + number % radix = number := by
          rw [Nat.mul_comm]
          exact Nat.div_add_mod number radix
        rw [Nat.toDigits_of_base_le wide larger, digitsFrom_append, ih _ less (by omega)]
        change digitsFrom radix bound (number / radix) [Nat.digitChar (number % radix)] = _
        rw [digitsFrom, toDigit_digitChar narrow (Nat.mod_lt _ (by omega))]
        dsimp only
        rw [together, if_pos small]
        rfl

theorem digitsFrom_zeros (some : 0 < radix) (room : 0 < bound) (count : Nat) :
    digitsFrom radix bound 0 (List.replicate count '0') = .ok 0 := by
  have zero : toDigit radix '0' = Option.some 0 := by
    rw [toDigit, show digitValue '0' = Option.some 0 from rfl, Option.filter_some,
      if_pos (decide_eq_true some)]
  induction count with
  | zero => rfl
  | succ count ih =>
      rw [List.replicate_succ, digitsFrom, zero]
      dsimp only
      rw [Nat.zero_mul, if_pos room]
      exact ih

theorem digitsFrom_formatted (wide : 1 < radix) (narrow : radix ≤ 16) {number : Nat}
    (small : number < bound) (width : Nat) :
    digitsFrom radix bound 0 (formatted radix width number) = .ok number := by
  rw [formatted, digitsFrom_append, digitsFrom_zeros (by omega) (Nat.zero_lt_of_lt small)]
  exact digitsFrom_toDigits wide narrow small

/-- Digits without a sign in front. -/
theorem fromStrRadix_of_digits {number : Nat} {chars : Text} (nonempty : chars ≠ [])
    (read : digitsFrom radix bound 0 chars = .ok number) :
    fromStrRadix radix bound chars = .ok number := by
  cases chars with
  | nil => exact absurd rfl nonempty
  | cons char chars =>
      have digit := isSome_toDigit_of_digitsFrom read char (List.mem_cons_self ..)
      have plus : char ≠ '+' := by
        rintro rfl
        cases digit
      have minus : char ≠ '-' := by
        rintro rfl
        cases digit
      rw [fromStrRadix, if_neg (fun sign => sign.1.elim plus minus), if_neg plus, read]

/-- What is written is read back. -/
theorem fromStrRadix_formatted (wide : 1 < radix) (narrow : radix ≤ 16) {number : Nat}
    (small : number < bound) (width : Nat) :
    fromStrRadix radix bound (formatted radix width number) = .ok number :=
  fromStrRadix_of_digits (List.append_ne_nil_of_right_ne_nil _ Nat.toDigits_ne_nil)
    (digitsFrom_formatted wide narrow small width)

theorem dot_notMem_formatted (wide : 1 < radix) (narrow : radix ≤ 16) (width number : Nat) :
    '.' ∉ formatted radix width number := by
  intro present
  have read := digitsFrom_formatted wide narrow (Nat.lt_succ_self number) width
  cases isSome_toDigit_of_digitsFrom read '.' present

/-- Two hexadecimal digits are enough for a byte. -/
theorem length_formatted_byte {number : Nat} (small : number < 256) :
    (formatted 16 2 number).length = 2 := by
  have short : (Nat.toDigits 16 number).length ≤ 2 :=
    (Nat.length_toDigits_le_iff (by decide) (by decide)).mpr small
  rw [formatted, List.length_append, List.length_replicate]
  omega

end Digits

/-! ## Slices -/

/-- A text cut behind a number of bytes, which must be a place between characters. -/
def cutAt : Nat → Text → Option (Text × Text)
  | 0, text => some ([], text)
  | _ + 1, [] => none
  | size + 1, char :: chars =>
      if char.utf8Size ≤ size + 1 then
        (cutAt (size + 1 - char.utf8Size) chars).map fun parts => (char :: parts.1, parts.2)
      else none

/-- The number of bytes of a text. -/
def utf8Length (text : Text) : Nat := (asBytes (String.ofList text)).length

/-- The text from one place to another. -/
def sliceText (start stop : Nat) (text : Text) : Option Text := do
  let (_, rest) ← cutAt start text
  let (front, _) ← cutAt (stop - start) rest
  return front

theorem utf8Length_cons (char : Char) (chars : Text) :
    utf8Length (char :: chars) = char.utf8Size + utf8Length chars := by
  rw [utf8Length, utf8Length, asBytes_eq, asBytes_eq, String.toList_ofList, String.toList_ofList,
    List.flatMap_cons, List.length_append, String.length_utf8EncodeChar]

theorem utf8Length_append (front back : Text) :
    utf8Length (front ++ back) = utf8Length front + utf8Length back := by
  induction front with
  | nil => exact (Nat.zero_add _).symm
  | cons char chars ih =>
      rw [List.cons_append, utf8Length_cons, utf8Length_cons, ih, Nat.add_assoc]

theorem utf8Length_of_ascii {text : Text} (ascii : ∀ char ∈ text, char.utf8Size = 1) :
    utf8Length text = text.length := by
  induction text with
  | nil => rfl
  | cons char chars ih =>
      rw [utf8Length_cons, ascii char (List.mem_cons_self ..),
        ih fun char present => ascii char (List.mem_cons_of_mem _ present), List.length_cons, Nat.add_comm]

theorem cutAt_zero (text : Text) : cutAt 0 text = some ([], text) := by
  rw [cutAt]

theorem cutAt_append (front back : Text) :
    cutAt (utf8Length front) (front ++ back) = some (front, back) := by
  induction front with
  | nil => exact cutAt_zero back
  | cons char chars ih =>
      obtain ⟨size, sized⟩ := Nat.exists_eq_succ_of_ne_zero (Nat.ne_of_gt char.utf8Size_pos)
      have size_eq : char.utf8Size + utf8Length chars = size + utf8Length chars + 1 := by omega
      have rest : size + utf8Length chars + 1 - char.utf8Size = utf8Length chars := by omega
      rw [utf8Length_cons, List.cons_append, size_eq, cutAt, if_pos (by omega), rest, ih]
      rfl

/-- A text is cut exactly at the places between its characters. -/
theorem cutAt_eq_some_iff {size : Nat} {text front back : Text} :
    cutAt size text = some (front, back) ↔ text = front ++ back ∧ utf8Length front = size := by
  constructor
  · intro cut
    induction text generalizing size front with
    | nil =>
        cases size with
        | zero =>
            cases cut
            exact ⟨rfl, rfl⟩
        | succ size => cases cut
    | cons char chars ih =>
        cases size with
        | zero =>
            rw [cutAt_zero] at cut
            cases cut
            exact ⟨rfl, rfl⟩
        | succ size =>
            rw [cutAt] at cut
            split at cut
            · rename_i fits
              obtain ⟨⟨rest, last⟩, inner, same⟩ := Option.map_eq_some_iff.mp cut
              cases same
              obtain ⟨rfl, sized⟩ := ih inner
              refine ⟨rfl, ?_⟩
              rw [utf8Length_cons, sized]
              omega
            · cases cut
  · rintro ⟨rfl, rfl⟩
    exact cutAt_append front back

theorem sliceText_append {start stop : Nat} {front middle : Text} (before : utf8Length front = start)
    (sized : utf8Length middle = stop - start) (back : Text) :
    sliceText start stop (front ++ (middle ++ back)) = some middle := by
  rw [sliceText, ← before, cutAt_append]
  change (cutAt (stop - utf8Length front) (middle ++ back)).bind _ = _
  rw [before, ← sized, cutAt_append]
  rfl

/-- Two hexadecimal digits are two bytes. -/
theorem utf8Length_formatted_byte {number : Nat} (small : number < 256) :
    utf8Length (formatted 16 2 number) = 2 := by
  have read := digitsFrom_formatted (show 1 < 16 by decide) (show 16 ≤ 16 by decide) small 2
  rw [utf8Length_of_ascii fun char present =>
    utf8Size_of_toDigit (isSome_toDigit_of_digitsFrom read char present), length_formatted_byte small]

end ScuffleVideo.Wire
