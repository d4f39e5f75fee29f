import TruncIdiom.Collection.Entries
import TruncIdiom.Json.Value

/-!
Reading JSON texts.

The reader goes through the characters once. A step takes what is left of the text, knows the
offset it starts at, and gives a value with what is left after it, or the first fault and where it
stands. Besides the standard's values the names `NaN`, `Infinity` and `-Infinity` are numbers.
Blanks are the four of the standard. Every function takes one unit of fuel a call, and the length of
the text bounds the calls: between two calls for the same rest there is at most one more.
-/

namespace TruncIdiom.Json

open TruncIdiom.Decimal

/-! ## Faults -/

inductive FaultKind where
  | noValue
  | noName
  | noColon
  | noComma
  | openString
  | controlCharacter
  | unknownEscape
  | badCodeEscape
  | extraData
  | byteOrderMark
  deriving DecidableEq, Repr

def FaultKind.label : FaultKind → String
  | .noValue => "Expecting value"
  | .noName => "Expecting property name enclosed in double quotes"
  | .noColon => "Expecting ':' delimiter"
  | .noComma => "Expecting ',' delimiter"
  | .openString => "Unterminated string starting at"
  | .controlCharacter => "Invalid control character at"
  | .unknownEscape => "Invalid \\escape"
  | .badCodeEscape => "Invalid \\uXXXX escape"
  | .extraData => "Extra data"
  | .byteOrderMark => "Unexpected UTF-8 BOM (decode using utf-8-sig)"

inductive ReadError where
  | fault (kind : FaultKind) (line column offset : Nat)
  | longInteger (digits : Nat)
  deriving DecidableEq, Repr

def maxIntegerDigits : Nat := 4300

/-- The wording of an error, with the place by line, column and character. -/
def ReadError.message : ReadError → String
  | .fault kind line column offset =>
    kind.label ++ ": line " ++ toString line ++ " column " ++ toString column ++ " (char " ++
      toString offset ++ ")"
  | .longInteger digits =>
    "Exceeds the limit (" ++ toString maxIntegerDigits ++
      " digits) for integer string conversion: value has " ++ toString digits ++
      " digits; use sys.set_int_max_str_digits() to increase the limit"

/-- A fault while reading, at an offset of the text. -/
inductive Stop where
  | fault (kind : FaultKind) (offset : Nat)
  | longInteger (digits : Nat)
  deriving DecidableEq, Repr

/-- The error for a fault in a text: its line and column are counted from one. -/
def Stop.locate (text : List Char) : Stop → ReadError
  | .fault kind offset =>
    let before := text.take offset
    .fault kind (before.count '\n' + 1) ((before.reverse.takeWhile (· ≠ '\n')).length + 1) offset
  | .longInteger digits => .longInteger digits

/-! ## What is left of a text -/

/-- What is left of a text and the offset it starts at. -/
structure Rest where
  chars : List Char
  offset : Nat
  deriving DecidableEq, Repr

def Rest.skip (r : Rest) (n : Nat) : Rest := ⟨r.chars.drop n, r.offset + n⟩

def isJsonBlank (c : Char) : Bool := c = ' ' || c = '\t' || c = '\n' || c = '\r'

def Rest.trim (r : Rest) : Rest := r.skip (r.chars.takeWhile isJsonBlank).length

/-! ## Strings -/

def hexValue? (c : Char) : Option Nat :=
  if '0' ≤ c ∧ c ≤ '9' then some (c.toNat - '0'.toNat)
  else if 'a' ≤ c ∧ c ≤ 'f' then some (c.toNat - 'a'.toNat + 10)
  else if 'A' ≤ c ∧ c ≤ 'F' then some (c.toNat - 'A'.toNat + 10)
  else none

def fourHex? : List Char → Option Nat
  | a :: b :: c :: d :: _ => do
    let a ← hexValue? a
    let b ← hexValue? b
    let c ← hexValue? c
    let d ← hexValue? d
    return ((a * 16 + b) * 16 + c) * 16 + d
  | _ => none

def escapeChar? : Char → Option Char
  | '"' => some '"'
  | '\\' => some '\\'
  | '/' => some '/'
  | 'b' => some '\x08'
  | 'f' => some '\x0C'
  | 'n' => some '\n'
  | 'r' => some '\r'
  | 't' => some '\t'
  | _ => none

/-- The character of a code escape whose digits begin at `r`, and how many characters it takes
from there. Two escapes that are the halves of a surrogate pair are one character; a half alone
stands for no character. A code escape never ends the text. -/
def codeEscape (r : Rest) : Except Stop (Char × Nat) :=
  match fourHex? r.chars with
  | some code =>
    if (r.chars.drop 4).isEmpty then .error (.fault .badCodeEscape (r.offset - 1))
    else
      match r.chars.drop 4 with
      | '\\' :: 'u' :: more =>
        if 0xD800 ≤ code ∧ code < 0xDC00 ∧ !(more.drop 4).isEmpty then
          match fourHex? more with
          | some low =>
            if 0xDC00 ≤ low ∧ low < 0xE000 then
              .ok (Char.ofNat (0x10000 + (code - 0xD800) * 0x400 + (low - 0xDC00)), 10)
            else .ok ('\uFFFD', 4)
          | none => .error (.fault .badCodeEscape (r.offset + 5))
        else .ok (if 0xD800 ≤ code ∧ code < 0xE000 then '\uFFFD' else Char.ofNat code, 4)
      | _ => .ok (if 0xD800 ≤ code ∧ code < 0xE000 then '\uFFFD' else Char.ofNat code, 4)
  | none => .error (.fault .badCodeEscape (r.offset - 1))

/-- The characters of a string up to its closing quote, latest first in `read`; `start` is the
offset of its opening quote. -/
def stringChars (start : Nat) : Nat → List Char → Rest → Except Stop (List Char × Rest)
  | 0, _, _ => .error (.fault .openString start)
  | fuel + 1, read, r =>
    match r.chars with
    | [] => .error (.fault .openString start)
    | '"' :: _ => .ok (read, r.skip 1)
    | ['\\'] => .error (.fault .openString start)
    | '\\' :: 'u' :: _ =>
      match codeEscape (r.skip 2) with
      | .ok (c, size) => stringChars start fuel (c :: read) (r.skip (2 + size))
      | .error stop => .error stop
    | '\\' :: letter :: _ =>
      match escapeChar? letter with
      | some c => stringChars start fuel (c :: read) (r.skip 2)
      | none => .error (.fault .unknownEscape r.offset)
    | c :: _ =>
      if c.toNat < 0x20 then .error (.fault .controlCharacter r.offset)
      else stringChars start fuel (c :: read) (r.skip 1)

def stringAt (fuel : Nat) (r : Rest) : Except Stop (String × Rest) :=
  match stringChars r.offset fuel [] (r.skip 1) with
  | .ok (read, rest) => .ok (String.ofList read.reverse, rest)
  | .error stop => .error stop

/-! ## Numbers -/

def digitsValue (digits : List Char) : Nat :=
  digits.foldl (fun n c => n * 10 + (c.toNat - '0'.toNat)) 0

def leadingDigits (chars : List Char) : List Char := chars.takeWhile Char.isDigit

/-- The digits after a point in front, if a digit follows the point. -/
def fractionDigits : List Char → List Char
  | '.' :: rest => leadingDigits rest
  | _ => []

/-- The exponent in front and how many characters it takes. -/
def exponentPart (chars : List Char) : Int × Nat :=
  match chars with
  | e :: rest =>
    if e = 'e' || e = 'E' then
      let (negative, rest, signs) :=
        match rest with
        | '-' :: rest => (true, rest, 1)
        | '+' :: rest => (false, rest, 1)
        | _ => (false, rest, 0)
      let digits := leadingDigits rest
      if digits.isEmpty then (0, 0)
      else
        let size : Int := digitsValue digits
        (if negative then -size else size, 1 + signs + digits.length)
    else (0, 0)
  | [] => (0, 0)

/-- A number in front: a zero or digits that begin with none, then a fraction and an exponent. It
is an integer when it has neither. -/
def numberAt (r : Rest) : Except Stop (Value × Rest) :=
  let (negative, body) :=
    match r.chars with
    | '-' :: rest => (true, rest)
    | chars => (false, chars)
  let whole :=
    match body with
    | '0' :: _ => ['0']
    | chars => leadingDigits chars
  if whole.isEmpty then .error (.fault .noValue r.offset)
  else
    let afterWhole := body.drop whole.length
    let fraction := fractionDigits afterWhole
    let pointed := if fraction.isEmpty then 0 else 1 + fraction.length
    let (exponent, marked) := exponentPart (afterWhole.drop pointed)
    let rest := r.skip ((if negative then 1 else 0) + whole.length + pointed + marked)
    if pointed = 0 ∧ marked = 0 then
      if whole.length > maxIntegerDigits then .error (.longInteger whole.length)
      else
        let size : Int := digitsValue whole
        .ok (.int (if negative then -size else size), rest)
    else
      let x := Binary64.ofDecimal negative (digitsValue (whole ++ fraction))
        (exponent - fraction.length)
      .ok (.float x, rest)

/-! ## Values -/

def names : List (List Char × Value) := [
  ("null".toList, .null), ("true".toList, .bool true), ("false".toList, .bool false),
  ("NaN".toList, .float .nan), ("Infinity".toList, .float (.infinity false)),
  ("-Infinity".toList, .float (.infinity true))]

def scalarAt (r : Rest) : Except Stop (Value × Rest) :=
  match names.find? (fun name => name.1.isPrefixOf r.chars) with
  | some (name, value) => .ok (value, r.skip name.length)
  | none => numberAt r

mutual

def valueAt : Nat → Rest → Except Stop (Value × Rest)
  | 0, r => .error (.fault .noValue r.offset)
  | fuel + 1, r =>
    match r.chars with
    | '"' :: _ => do
      let (s, rest) ← stringAt fuel r
      return (.string s, rest)
    | '\x7b' :: _ =>
      let inner := (r.skip 1).trim
      match inner.chars with
      | '\x7d' :: _ => .ok (.object [], inner.skip 1)
      | _ => do
        let (pairs, rest) ← fieldsAt fuel inner
        return (.object (Collection.Entries.ofPairs pairs), rest)
    | '[' :: _ =>
      let inner := (r.skip 1).trim
      match inner.chars with
      | ']' :: _ => .ok (.array [], inner.skip 1)
      | _ => do
        let (items, rest) ← itemsAt fuel inner
        return (.array items, rest)
    | _ => scalarAt r

/-- The items of an array from here to its closing bracket. -/
def itemsAt : Nat → Rest → Except Stop (List Value × Rest)
  | 0, r => .error (.fault .noValue r.offset)
  | fuel + 1, r => do
    let (item, rest) ← valueAt fuel r
    let rest := rest.trim
    match rest.chars with
    | ']' :: _ => return ([item], rest.skip 1)
    | ',' :: _ =>
      let (items, last) ← itemsAt fuel (rest.skip 1).trim
      return (item :: items, last)
    | _ => .error (.fault .noComma rest.offset)

/-- The fields of an object from here to its closing brace. -/
def fieldsAt : Nat → Rest → Except Stop (List (String × Value) × Rest)
  | 0, r => .error (.fault .noName r.offset)
  | fuel + 1, r =>
    match r.chars with
    | '"' :: _ => do
      let (name, rest) ← stringAt fuel r
      let rest := rest.trim
      match rest.chars with
      | ':' :: _ =>
        let (value, rest) ← valueAt fuel (rest.skip 1).trim
        let rest := rest.trim
        match rest.chars with
        | '\x7d' :: _ => return ([(name, value)], rest.skip 1)
        | ',' :: _ =>
          let (fields, last) ← fieldsAt fuel (rest.skip 1).trim
          return ((name, value) :: fields, last)
        | _ => .error (.fault .noComma rest.offset)
      | _ => .error (.fault .noColon rest.offset)
    | _ => .error (.fault .noName r.offset)

end

/-- The value of a whole text, or where reading stopped. -/
def readChars (chars : List Char) : Except Stop Value :=
  if chars.head? = some '\uFEFF' then .error (.fault .byteOrderMark 0)
  else do
    let (value, rest) ← valueAt (2 * chars.length + 2) (Rest.mk chars 0).trim
    let rest := rest.trim
    if rest.chars.isEmpty then return value else .error (.fault .extraData rest.offset)

def read (text : String) : Except ReadError Value :=
  match readChars text.toList with
  | .ok value => .ok value
  | .error stop => .error (stop.locate text.toList)

end TruncIdiom.Json
