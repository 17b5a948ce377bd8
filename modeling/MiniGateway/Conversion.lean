/-
  Conversions between scalars and numbers (`model.cpp`, `boolean_value` of `normalizer.cpp`).

  `std::from_chars` is modelled on the byte string as the standard describes it: the longest prefix
  that is an infinity, a NaN or a decimal number, without leading blanks or a plus sign, and the
  rest behind it.  A number too large for binary64, or one that is not zero but rounds to zero, is
  out of range.
-/
import MiniGateway.Model
import MiniGateway.Binary64.Arithmetic

namespace MiniGateway

open Binary64 (Double)

/-! ### Characters -/

def isDigit (c : UInt8) : Bool := 48 ≤ c && c ≤ 57

/-- A letter of the alphabet in lower case. -/
def toLower (c : UInt8) : UInt8 := if 65 ≤ c && c ≤ 90 then c + 32 else c

/-- A character that may stand between the parentheses of `nan(...)`. -/
def isNanChar (c : UInt8) : Bool :=
  isDigit c || (97 ≤ toLower c && toLower c ≤ 122) || c == 95

/-- What follows `word`, in any case, at the start of `s`. -/
def afterWord (word s : ByteString) : Option ByteString :=
  if (s.take word.length).map toLower = word then some (s.drop word.length) else none

/-! ### `std::from_chars` -/

/-- The number a sequence of digits stands for. -/
def digitsValue (digits : ByteString) : ℕ :=
  digits.foldl (fun value c => 10 * value + (c.toNat - 48)) 0

/-- An exponent part and the rest; without digits there is no exponent. -/
def parseExponent (s : ByteString) : ℤ × ByteString :=
  match s with
  | e :: rest =>
    if toLower e = 101 then
      let (negative, body) := match rest with
        | 45 :: body => (true, body)
        | 43 :: body => (false, body)
        | _ => (false, rest)
      let (digits, rest') := body.span isDigit
      if digits.isEmpty then (0, s)
      else (if negative then -(digitsValue digits : ℤ) else digitsValue digits, rest')
    else (0, s)
  | [] => (0, [])

/-- A decimal number without a sign, and the rest. -/
def parseDecimal (s : ByteString) : Option (ℚ × ByteString) :=
  let (whole, rest) := s.span isDigit
  let (fraction, rest) := match rest with
    | 46 :: rest' => if whole.isEmpty && (rest'.span isDigit).1.isEmpty then ([], rest)
        else rest'.span isDigit
    | _ => ([], rest)
  if whole.isEmpty && fraction.isEmpty then none
  else
    let (exponent, rest) := parseExponent rest
    some (digitsValue (whole ++ fraction) * (10 : ℚ) ^ (exponent - fraction.length), rest)

/-- The number nearest to `q`, unless it is out of range. -/
def inRange? (q : ℚ) : Option Double :=
  if q ≠ 0 ∧ (Double.ofRat q).toRat = 0 then none else some (Double.ofRat q)

/-- `std::from_chars` for `double`: the value and what follows it. -/
def fromChars (s : ByteString) : Option (Double × ByteString) :=
  let (negative, body) := match s with
    | 45 :: body => (true, body)
    | _ => (false, s)
  match afterWord (lit "infinity") body with
  | some rest => some (.infinity negative, rest)
  | none =>
  match afterWord (lit "inf") body with
  | some rest => some (.infinity negative, rest)
  | none =>
  match afterWord (lit "nan") body with
  | some (40 :: rest) =>
    match (rest.span isNanChar).2 with
    | 41 :: rest' => some (.nan, rest')
    | _ => some (.nan, 40 :: rest)
  | some rest => some (.nan, rest)
  | none => do
    let (q, rest) ← parseDecimal body
    let value ← inRange? (if negative then -q else q)
    some (value, rest)

/-! ### Conversions of scalars -/

/-- `numeric_value`. -/
def numericValue : Scalar → Option Double
  | .integer n => some (Double.ofInt n.toInt)
  | .double d => some d
  | .boolean b => some (Double.ofInt (if b then 1 else 0))
  | .byteArray _ => none
  | .string s =>
    match fromChars s with
    | some (result, []) => some result
    | _ => none

/-- A finite number with three decimals, as `std::fixed` and `std::setprecision(3)` print it. -/
def fixedThree (q : ℚ) : ByteString :=
  let thousandths := (Binary64.roundInt (q * 1000)).natAbs
  let decimals := decimal (thousandths % 1000)
  (if q < 0 then lit "-" else []) ++ decimal (thousandths / 1000) ++ lit "." ++
    List.replicate (3 - decimals.length) 48 ++ decimals

/-- `scalar_to_string`. -/
def scalarToString : Scalar → ByteString
  | .boolean b => if b then lit "true" else lit "false"
  | .double (.finite q _) => fixedThree q
  | .double (.infinity negative) => if negative then lit "-inf" else lit "inf"
  | .double .nan => lit "nan"
  | .integer n => decimalInt n.toInt
  | .byteArray bytes => lit "<" ++ decimal bytes.length ++ lit " bytes>"
  | .string s => s

/-- `boolean_value`. -/
def booleanValue : Scalar → Option Bool
  | .boolean b => some b
  | .integer n => some (n != 0)
  | .double d => some (decide (d ≠ Double.zero))
  | .byteArray _ => none
  | .string s =>
    if s = lit "true" ∨ s = lit "1" then some true
    else if s = lit "false" ∨ s = lit "0" then some false
    else none

end MiniGateway
