/-! Basic texts: white space, hexadecimal digits, and bytes in the encodings that requests and
documents have for them. -/

namespace RegistryOperator.Text

/-! ### White space -/

def isSpace (c : Char) : Bool :=
  let n := c.toNat
  (9 ≤ n && n ≤ 13) || n = 0x20 || n = 0x85 || n = 0xa0 || n = 0x1680 ||
    (0x2000 ≤ n && n ≤ 0x200a) || n = 0x2028 || n = 0x2029 || n = 0x202f || n = 0x205f || n = 0x3000

def skipSpace (cs : List Char) : List Char := cs.dropWhile isSpace

def trim (s : String) : String :=
  String.ofList (skipSpace (skipSpace s.toList).reverse).reverse

/-! ### Hexadecimal digits -/

/-- The hexadecimal digits of `n`, lower case and without leading zeros. -/
def hex (n : Nat) : String := String.ofList (Nat.toDigits 16 n)

/-- The last `width` hexadecimal digits of `n`, with leading zeros. -/
def hexPadded (width n : Nat) : String :=
  let digits := Nat.toDigits 16 n
  String.ofList (List.replicate (width - digits.length) '0' ++ digits)

/-- The value of a hexadecimal digit, in either case of letters. -/
def hexDigit (c : Char) : Nat :=
  if c.isDigit then c.toNat - '0'.toNat else c.toLower.toNat - 'a'.toNat + 10

/-- The bytes that pairs of digits stand for. -/
def hexBytes : List Char → List UInt8
  | high :: low :: rest => (16 * hexDigit high + hexDigit low).toUInt8 :: hexBytes rest
  | _ => []

def hexDigit? (c : Char) : Option Nat :=
  if '0' ≤ c ∧ c ≤ '9' then some (c.toNat - '0'.toNat)
  else if 'a' ≤ c ∧ c ≤ 'f' then some (c.toNat - 'a'.toNat + 10)
  else if 'A' ≤ c ∧ c ≤ 'F' then some (c.toNat - 'A'.toNat + 10)
  else none

/-- The value of hexadecimal digits, if they all are. -/
def hexValue? (cs : List Char) : Option Nat :=
  cs.foldlM (fun acc c => (hexDigit? c).map (16 * acc + ·)) 0

/-! ### Bytes as text of 64 marks

Each mark stands for six bits, and the text is filled up to a multiple of four marks. -/

def base64Digit? (c : Char) : Option Nat :=
  if c.isUpper then some (c.toNat - 'A'.toNat)
  else if c.isLower then some (c.toNat - 'a'.toNat + 26)
  else if c.isDigit then some (c.toNat - '0'.toNat + 52)
  else if c = '+' then some 62
  else if c = '/' then some 63
  else none

/-- Whether the last mark of a group leaves no bits over: it stands for a byte's last `6 - spare`
bits. -/
def leavesNothing (spare : Nat) (c : Char) : Bool :=
  (base64Digit? c).any fun n => n % 2 ^ spare = 0

/-- Whether marks stand for bytes, in the one way in which they can. -/
def isBase64Chars : List Char → Bool
  | [] => true
  | [a, b, '=', '='] => (base64Digit? a).isSome && leavesNothing 4 b
  | [a, b, c, '='] => (base64Digit? a).isSome && (base64Digit? b).isSome && leavesNothing 2 c
  | a :: b :: c :: d :: rest =>
    [a, b, c, d].all (fun c => (base64Digit? c).isSome) && isBase64Chars rest
  | _ => false

def isBase64 (s : String) : Bool := isBase64Chars s.toList

end RegistryOperator.Text

/-! ### Form fields

Text in the query of a request: letters, digits and four marks stand for themselves, a blank is a
plus sign, and every other byte is a percent sign and two digits. -/

namespace RegistryOperator.Form

/-- The hexadecimal digit of a value below 16, upper case. -/
def digit (n : Nat) : Char :=
  if n < 10 then Char.ofNat ('0'.toNat + n) else Char.ofNat ('A'.toNat + n - 10)

/-- Whether a character stands for itself. -/
def isPlain (c : Char) : Bool := c.isAlphanum || c = '*' || c = '-' || c = '.' || c = '_'

def encodeByte (b : UInt8) : List Char :=
  let c := Char.ofNat b.toNat
  if isPlain c then [c]
  else if c = ' ' then ['+']
  else ['%', digit (b.toNat / 16), digit (b.toNat % 16)]

def encode (s : String) : String := String.ofList (s.toUTF8.toList.flatMap encodeByte)

end RegistryOperator.Form
