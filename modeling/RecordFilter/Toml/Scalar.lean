import RecordFilter.Number.Numeral
import RecordFilter.Text.Hex
import RecordFilter.Toml.Value

/-!
# Words of TOML

Numbers, dates, times and the two truth values are written without quotes. Each is read from the
whole word that it is written as.
-/

namespace RecordFilter.Toml

/-! ## Integers -/

/-- A row of digits without the underscores in it, each of which has to stand between digits. -/
def ungroup (digit : Char → Bool) : List Char → Option (List Char)
  | [] => none
  | [c] => if digit c then some [c] else none
  | c :: d :: rest =>
    if digit c then
      if d = '_' then (ungroup digit rest).map (c :: ·)
      else (ungroup digit (d :: rest)).map (c :: ·)
    else none

/-- The digits of a decimal number, without a needless zero in front. -/
def decimalDigits? (row : List Char) : Option (List Char) :=
  match ungroup Char.isDigit row with
  | some digits => if digits.head? = some '0' ∧ digits.length ≠ 1 then none else some digits
  | none => none

/-- Whether an integer fits 64 bits with a sign. -/
def fitsWord (n : Int) : Bool := decide (-(twoTo 63 : Int) ≤ n) && decide (n < twoTo 63)

/-- The value of a digit in a base up to sixteen. -/
def digitValue? (base : Nat) (c : Char) : Option Nat :=
  (Text.hexValue? c).filter (· < base)

/-- An integer in a base other than ten. -/
def based? (base : Nat) (row : List Char) : Option Toml := do
  let digits ← ungroup (fun c => (digitValue? base c).isSome) row
  let value : Int := (digits.foldl (fun n c => base * n + (digitValue? base c).getD 0) 0 : Nat)
  if fitsWord value then some (.integer value) else none

/-- An integer. -/
def integer? (word : List Char) : Option Toml :=
  match word with
  | '0' :: 'x' :: row => based? 16 row
  | '0' :: 'o' :: row => based? 8 row
  | '0' :: 'b' :: row => based? 2 row
  | _ => do
    let (negative, row) := Numeral.readSign word
    let digits ← decimalDigits? row
    let size : Int := Numeral.ofDigits digits
    let value := if negative then -size else size
    if fitsWord value then some (.integer value) else none

/-! ## Reals -/

/-- The exponent of a real. -/
def exponent? (row : List Char) : Option Int := do
  let (negative, row) := Numeral.readSign row
  let digits ← ungroup Char.isDigit row
  let size : Int := Numeral.ofDigits digits
  return if negative then -size else size

/-- A real that is written with digits: it has a fraction, an exponent or both. -/
def decimal? (word : List Char) : Option Toml := do
  let (negative, row) := Numeral.readSign word
  let isMark (c : Char) : Bool := c == 'e' || c == 'E'
  let mantissa := row.takeWhile fun c => !isMark c
  let exponent ←
    match row.dropWhile fun c => !isMark c with
    | [] => some none
    | _ :: behind => (exponent? behind).map some
  let whole ← decimalDigits? (mantissa.takeWhile (· != '.'))
  let fraction ←
    match mantissa.dropWhile (· != '.') with
    | [] => some none
    | _ :: behind => (ungroup Char.isDigit behind).map some
  if exponent.isNone && fraction.isNone then none
  else
    let behind := fraction.getD []
    let value := Numeral.toBinary64
      ⟨negative, Numeral.ofDigits (whole ++ behind), exponent.getD 0 - behind.length⟩
    if value.isFinite || negative then some (.real value) else none

/-- A real. -/
def real? (word : List Char) : Option Toml :=
  let (negative, name) := Numeral.readSign word
  if name = ['i', 'n', 'f'] then
    some (.real ⟨negative, Binary64.infinity, Binary64.infinity_lt⟩)
  else if name = ['n', 'a', 'n'] then
    some (.real ⟨negative, Binary64.infinity + twoTo 51, by decide⟩)
  else decimal? word

/-! ## Dates and times -/

/-- The number that a row of exactly so many digits spells. -/
def number? (count : Nat) (row : List Char) : Option Nat :=
  if row.length = count ∧ row.all Char.isDigit then some (Numeral.ofDigits row) else none

/-- How many days a month has. -/
def daysIn (year month : Nat) : Nat :=
  if month = 2 then
    if year % 4 = 0 ∧ (year % 100 ≠ 0 ∨ year % 400 = 0) then 29 else 28
  else if month = 4 ∨ month = 6 ∨ month = 9 ∨ month = 11 then 30
  else 31

/-- Whether a text is a date. -/
def isDate (text : List Char) : Bool :=
  match number? 4 (text.take 4), number? 2 ((text.drop 5).take 2), number? 2 (text.drop 8) with
  | some year, some month, some day =>
    text[4]? == some '-' && text[7]? == some '-' && 1 ≤ month && month ≤ 12 && 1 ≤ day
      && day ≤ daysIn year month
  | _, _, _ => false

/-- Whether a text is hours and minutes. -/
def isClock (text : List Char) : Bool :=
  match number? 2 (text.take 2), number? 2 (text.drop 3) with
  | some hour, some minute => text[2]? == some ':' && hour ≤ 23 && minute ≤ 59
  | _, _ => false

/-- Whether a text is a time of day, perhaps with a fraction of a second. -/
def isTime (text : List Char) : Bool :=
  isClock (text.take 5) && text[5]? == some ':'
    && (number? 2 ((text.drop 6).take 2)).any (· ≤ 60)
    && match text.drop 8 with
      | [] => true
      | c :: digits => c == '.' && !digits.isEmpty && digits.all Char.isDigit

/-- Whether a text is a distance from universal time. -/
def isOffset (text : List Char) : Bool :=
  match text with
  | [c] => c == 'Z' || c == 'z'
  | c :: clock => (c == '+' || c == '-') && isClock clock
  | [] => false

/-- Whether a text is a time of day with or without an offset. -/
def isZonedTime (text : List Char) : Bool :=
  let isTimeChar (c : Char) : Bool := c.isDigit || c == ':' || c == '.'
  isTime (text.takeWhile isTimeChar)
    && (let offset := text.dropWhile isTimeChar
        offset.isEmpty || isOffset offset)

/-- Whether a text is a date, a time, or a date and a time. -/
def isMoment (text : List Char) : Bool :=
  isTime text || isDate text
    || (isDate (text.take 10) && isZonedTime (text.drop 11)
        && (text[10]?).any fun c => c == 'T' || c == 't' || c == ' ')

/-! ## Words -/

/-- The value of a word. -/
def word? (word : List Char) : Option Toml :=
  if word = "true".toList then some (.boolean true)
  else if word = "false".toList then some (.boolean false)
  else if isMoment word then some .moment
  else integer? word <|> real? word

/-- Whether a character belongs to a word. -/
def isWordChar (c : Char) : Bool :=
  c.isAlphanum || c == '+' || c == '-' || c == '.' || c == '_' || c == ':'

/-- The word at the front of a text. A date may have a time behind a blank, which belongs to it. -/
def splitWord (text : List Char) : List Char × List Char :=
  let word := text.takeWhile isWordChar
  let rest := text.dropWhile isWordChar
  match rest with
  | ' ' :: c :: more =>
    if isDate word ∧ c.isDigit then
      (word ++ ' ' :: (c :: more).takeWhile isWordChar, (c :: more).dropWhile isWordChar)
    else (word, rest)
  | _ => (word, rest)

end RecordFilter.Toml
