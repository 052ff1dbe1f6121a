import RegistryOperator.Json.Scan
import RegistryOperator.Text.Basic

/-! Reading the text of a document. The reader never fails: where the text stops being JSON it
leaves a break in the `Scan`. -/

namespace RegistryOperator.Reader

def isBlank (c : Char) : Bool := c = ' ' || c = '\n' || c = '\t' || c = '\r'

def skip (cs : List Char) : List Char := cs.dropWhile isBlank

/-- The containers that may be open at once. -/
def maxDepth : Nat := 127

/-- The code unit of an escape, and what follows its four digits. The text ends too early if it has
fewer than four more bytes. -/
def codeUnit (cs : List Char) : Except DecodeError (Nat × List Char) :=
  let front := cs.take 4
  if (String.ofList front).utf8ByteSize < 4 then .error .truncated
  else
    match Text.hexValue? front with
    | some unit => .ok (unit, cs.drop 4)
    | none => .error .malformed

/-- The character of a one-letter escape. -/
def escaped? : Char → Option Char
  | '"' => some '"'
  | '\\' => some '\\'
  | '/' => some '/'
  | 'b' => some '\x08'
  | 'f' => some '\x0c'
  | 'n' => some '\n'
  | 'r' => some '\r'
  | 't' => some '\t'
  | _ => none

/-- The characters of a string after its opening quote. Code units above the basic plane have to
come in pairs. Each step takes at least one character, so the length of the text is fuel enough. -/
def characters : Nat → List Char → Except DecodeError (List Char)
  | 0, _ => .error .truncated
  | _ + 1, [] => .error .truncated
  | _ + 1, '"' :: _ => .ok []
  | _ + 1, ['\\'] => .error .truncated
  | n + 1, '\\' :: 'u' :: cs =>
    match codeUnit cs with
    | .error e => .error e
    | .ok (unit, cs) =>
      if unit < 0xd800 ∨ 0xdfff < unit then (characters n cs).map (Char.ofNat unit :: ·)
      else if 0xdc00 ≤ unit then .error .malformed
      else
        match cs with
        | [] | ['\\'] => .error .truncated
        | '\\' :: 'u' :: cs =>
          match codeUnit cs with
          | .error e => .error e
          | .ok (low, cs) =>
            if 0xdc00 ≤ low ∧ low ≤ 0xdfff then
              let c := Char.ofNat (0x10000 + (unit - 0xd800) * 0x400 + (low - 0xdc00))
              (characters n cs).map (c :: ·)
            else .error .malformed
        | _ => .error .malformed
  | n + 1, '\\' :: c :: cs =>
    match escaped? c with
    | some d => (characters n cs).map (d :: ·)
    | none => .error .malformed
  | n + 1, c :: cs =>
    if c.toNat < 0x20 then .error .malformed else (characters n cs).map (c :: ·)

/-- What follows a string, whose code units need not come in pairs. -/
def afterString : Nat → List Char → Except DecodeError (List Char)
  | 0, _ => .error .truncated
  | _ + 1, [] => .error .truncated
  | _ + 1, '"' :: cs => .ok cs
  | _ + 1, ['\\'] => .error .truncated
  | n + 1, '\\' :: 'u' :: cs =>
    match codeUnit cs with
    | .error e => .error e
    | .ok (_, cs) => afterString n cs
  | n + 1, '\\' :: c :: cs =>
    if (escaped? c).isSome then afterString n cs else .error .malformed
  | n + 1, c :: cs => if c.toNat < 0x20 then .error .malformed else afterString n cs

/-- What stops whoever skips a string, and what follows it. -/
def skipString (n : Nat) (cs : List Char) : Option DecodeError × List Char :=
  match afterString n cs with
  | .ok rest => (none, rest)
  | .error e => (some e, [])

/-- The whole numbers that keep their exact value. -/
def isExact (n : Int) : Bool := -(2 ^ (63 : Nat) : Int) ≤ n && n < (2 ^ (64 : Nat) : Int)

def powerOfTen (n : Nat) : Float := Float.ofBits (Decimal.bitsOfDecimal 1 n)

/-- Scales `f` by `10 ^ e`, in steps of at most 308 downwards; none if the result is too large. -/
def scale (f : Float) (e : Int) : Nat → Option Float
  | 0 => some f
  | fuel + 1 =>
    if 0 ≤ e then
      if 308 < e then (if f == 0 then some f else none)
      else
        let g := f * powerOfTen e.toNat
        if g.isInf then none else some g
    else if e < -308 then
      if f == 0 then some f else scale (f / powerOfTen 308) (e + 308) fuel
    else some (f / powerOfTen (-e).toNat)

/-- The digits of a significand as far as they fit into 64 bits, and how many were left over. -/
def significand (acc : Nat) : List Char → Nat × Nat
  | [] => (acc, 0)
  | c :: cs =>
    let next := 10 * acc + (c.toNat - '0'.toNat)
    if next < 2 ^ (64 : Nat) then significand next cs else (acc, cs.length + 1)

/-- The double of a number written with digits before and after the point and an exponent: the
significand is cut at 64 bits and scaled in double arithmetic. Where digits before the point are
dropped, those after it may still fit, and then they come next. -/
def double (negative : Bool) (whole fraction : List Char) (exponent : Int) : Option Number :=
  let (m, dropped) := significand 0 whole
  let (m, cut) := significand m fraction
  let e := exponent + dropped - (fraction.length - cut : Nat)
  -- exponents beyond these decide the result whatever the digits
  let e := if e < -100000 then -100000 else if 100000 < e then 100000 else e
  (scale m.toUInt64.toFloat e 1000).map fun f =>
    .double (if negative then (-f).toBits else f.toBits)

def digits (cs : List Char) : List Char × List Char :=
  (cs.takeWhile Char.isDigit, cs.dropWhile Char.isDigit)

def natOf (cs : List Char) : Nat := cs.foldl (fun acc c => 10 * acc + (c.toNat - '0'.toNat)) 0

/-- Reads what may follow the whole part of a number: a fraction and an exponent. The result says
whether either was there. -/
def fractionAndExponent (cs : List Char) :
    Except DecodeError (Bool × List Char × Int × List Char) := do
  let (fraction, cs, seen) ← match cs with
    | '.' :: cs =>
      let (ds, rest) := digits cs
      if ds.isEmpty then throw (if rest.isEmpty then .truncated else .malformed)
      pure (ds, rest, true)
    | _ => pure ([], cs, false)
  match cs with
  | c :: cs =>
    if c = 'e' ∨ c = 'E' then
      let (negative, cs) := match cs with
        | '+' :: cs => (false, cs)
        | '-' :: cs => (true, cs)
        | _ => (false, cs)
      let (ds, rest) := digits cs
      if ds.isEmpty then throw (if rest.isEmpty then .truncated else .malformed)
      let e : Int := natOf ds
      pure (true, fraction, if negative then -e else e, rest)
    else pure (seen, fraction, 0, c :: cs)
  | [] => pure (seen, fraction, 0, [])

/-- A number that breaks off: whoever skips it is stopped by the same characters, but does not tell
the end of the text from them. -/
def brokenNumber (e : DecodeError) : Scan := .broken ⟨e, .malformed, some .malformed⟩

/-- Reads a number after its sign. One out of range can be skipped. -/
def number (negative : Bool) (cs : List Char) : Scan × List Char :=
  let (whole, rest) := digits cs
  match whole, rest with
  | [], [] => (brokenNumber .truncated, [])
  | [], _ :: _ => (brokenNumber .malformed, [])
  | '0' :: _ :: _, _ => (brokenNumber .malformed, [])
  | _, _ =>
    match fractionAndExponent rest with
    | .error e => (brokenNumber e, [])
    | .ok (seen, fraction, exponent, rest) =>
      let n : Int := if negative then -(natOf whole) else natOf whole
      if !seen && isExact n && !(negative && n == 0) then (.num (.whole n), rest)
      else
        match double negative whole fraction exponent with
        | some d => (.num d, rest)
        | none => (.broken ⟨.malformed, .malformed, none⟩, rest)

def brokenWord (e : DecodeError) : Scan := .broken ⟨e, .malformed, some e⟩

def word (value : Scan) : List Char → List Char → Scan × List Char
  | [], cs => (value, cs)
  | _ :: _, [] => (brokenWord .truncated, [])
  | w :: ws, c :: cs => if w = c then word value ws cs else (brokenWord .malformed, [])

/-- A container inside `depth` others. One that is too deep cannot be read, but it can be
skipped. -/
def container (depth : Nat) (found : Scan) : Scan :=
  if depth < maxDepth then found else .broken ⟨.malformed, .malformed, found.stop⟩

def atEnd : Scan := .broken (.all .truncated)

def noValue : Scan := .broken (.all .malformed)

mutual

/-- Reads a value inside `depth` containers. Each call takes at least one character, so four times
the length of the text is fuel enough. -/
def value : Nat → Nat → List Char → Scan × List Char
  | 0, _, _ => (atEnd, [])
  | n + 1, depth, cs =>
    match skip cs with
    | [] => (atEnd, [])
    | '"' :: cs =>
      let (stopped, rest) := skipString n cs
      match characters n cs with
      | .ok s => (.str (String.ofList s), rest)
      | .error e => (.broken ⟨e, e, stopped⟩, rest)
    | '[' :: cs =>
      let (items, stopped, rest) := items n (depth + 1) true cs
      (container depth (.arr items stopped), rest)
    | '\x7b' :: cs =>
      let (members, stopped, rest) := members n (depth + 1) true cs
      (container depth (.obj members stopped), rest)
    | 'n' :: cs => word .null ['u', 'l', 'l'] cs
    | 't' :: cs => word (.bool true) ['r', 'u', 'e'] cs
    | 'f' :: cs => word (.bool false) ['a', 'l', 's', 'e'] cs
    | '-' :: cs => number true cs
    | c :: cs => if c.isDigit then number false (c :: cs) else (noValue, [])

def items : Nat → Nat → Bool → List Char → List Scan × Option DecodeError × List Char
  | 0, _, _, _ => ([], some .truncated, [])
  | n + 1, depth, first, cs =>
    match skip cs, first with
    | [], _ => ([], some .truncated, [])
    | ']' :: rest, _ => ([], none, rest)
    | ',' :: rest, false =>
      match skip rest with
      | ']' :: _ => ([], some .malformed, [])
      | rest => item n depth rest
    | _, false => ([], some .malformed, [])
    | rest, true => item n depth rest

def item : Nat → Nat → List Char → List Scan × Option DecodeError × List Char
  | 0, _, _ => ([], some .truncated, [])
  | n + 1, depth, cs =>
    let (v, rest) := value n depth cs
    match v.stop with
    | some e => ([v], some e, [])
    | none =>
      let (vs, stopped, rest) := items n depth false rest
      (v :: vs, stopped, rest)

/-- Reads the members of an object up to its brace. -/
def members : Nat → Nat → Bool → List Char →
    List (NameScan × Scan) × Option DecodeError × List Char
  | 0, _, _, _ => ([], some .truncated, [])
  | n + 1, depth, first, cs =>
    match skip cs, first with
    | [], _ => ([], some .truncated, [])
    | '\x7d' :: rest, _ => ([], none, rest)
    | ',' :: rest, false => member n depth (skip rest)
    | _, false => ([], some .malformed, [])
    | rest, true => member n depth rest

/-- Reads a member and those after it. A name counts even if nothing follows it, and where no name
stands the error is that of a member. -/
def member : Nat → Nat → List Char →
    List (NameScan × Scan) × Option DecodeError × List Char
  | 0, _, _ => ([], some .truncated, [])
  | n + 1, depth, cs =>
    match cs with
    | [] => ([(.broken .truncated .truncated, atEnd)], some .truncated, [])
    | '"' :: cs =>
      let (stopped, rest) := skipString n cs
      let name := match characters n cs with
        | .ok s => .text (String.ofList s)
        | .error e => .broken e e
      match stopped with
      | some e => ([(name, .broken (.all e))], some e, [])
      | none =>
        match skip rest with
        | [] => ([(name, atEnd)], some .truncated, [])
        | ':' :: rest =>
          let (v, rest) := value n depth rest
          match v.stop with
          | some e => ([(name, v)], some e, [])
          | none =>
            let (vs, stopped, rest) := members n depth false rest
            ((name, v) :: vs, stopped, rest)
        | _ => ([(name, noValue)], some .malformed, [])
    | cs =>
      let found := (value n depth cs).1
      ([(.broken .malformed found.refuse, noValue)], some .malformed, [])

end

/-- Reads the value that a text starts with. -/
def scan (s : String) : Scan × List Char :=
  let cs := s.toList
  value (4 * cs.length + 8) 0 cs

end RegistryOperator.Reader

namespace RegistryOperator.Json

def parse (s : String) : Except DecodeError Json := do
  let (scan, rest) := Reader.scan s
  let j ← scan.toJson
  if (Reader.skip rest).isEmpty then pure j else throw .malformed

end RegistryOperator.Json
