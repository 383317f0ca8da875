import SqlStatement.Binary64.Shortest

/-!
# How JSON writes a number that is not an integer

The digits are the fewest that read back. `Json.realText` writes them positionally, with at
least one digit on either side of the point, while the leading digit stands for a power of ten
in the range from `plainFrom` to below `plainBelow`; other numbers get an exponent, which always
has a sign.
-/

namespace SqlStatement.Json

/-- From this power of ten of the leading digit on, a number is written positionally. -/
def plainFrom : Int := -5

/-- From this power of ten of the leading digit on, a number is written with an exponent. -/
def plainBelow : Int := 16

/-- The digits with the leading one before the point, and a signed exponent. -/
def scientific (digits : List Char) (exponent : Int) : List Char :=
  let mantissa :=
    match digits with
    | first :: second :: rest => first :: '.' :: second :: rest
    | short => short
  let sign := if exponent < 0 then '-' else '+'
  mantissa ++ 'e' :: sign :: Nat.toDigits 10 exponent.natAbs

/-- The digits with the point after the digit of `10 ^ 0`. -/
def positional (digits : List Char) (leading : Int) : List Char :=
  if leading < 0 then
    '0' :: '.' :: (List.replicate (-leading - 1).toNat '0' ++ digits)
  else
    let whole := leading.toNat + 1
    if digits.length ≤ whole then
      digits ++ List.replicate (whole - digits.length) '0' ++ ['.', '0']
    else digits.take whole ++ '.' :: digits.drop whole

/-- A decimal, laid out by the power of ten of its leading digit. -/
def decimalText (decimal : Decimal) : List Char :=
  let digits := Nat.toDigits 10 decimal.digits
  let leading := decimal.exponent + digits.length - 1
  if plainFrom ≤ leading ∧ leading < plainBelow then positional digits leading
  else scientific digits leading

def realText (x : FiniteBinary64) : String :=
  let sign := if x.val.isNegative then ['-'] else []
  let magnitude := if x.val.isZero then ['0', '.', '0'] else decimalText x.val.shortest
  String.ofList (sign ++ magnitude)

end SqlStatement.Json
