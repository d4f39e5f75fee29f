import TruncIdiom.Script.Token

/-!
Cutting a source into tokens.

The lexer works on bytes: everything that is not ASCII and not a blank belongs to a name, and what
stands in a string, a template or a comment is not looked at. It keeps a stack of what is open, for
a closing brace may end a block or a substitution in a template. A regular expression is not read:
a slash is an operator. Where a source cannot be cut, the result is the offset of the trouble.
-/

namespace TruncIdiom.Script

open Text

/-! ## Blanks and comments -/

/-- A rest of the source and where it begins. -/
structure Scan where
  rest : Bytes
  offset : Nat
  deriving DecidableEq, Repr

def Scan.skip (s : Scan) (n : Nat) : Scan := ⟨s.rest.drop n, s.offset + n⟩

def byteOf (c : Char) : UInt8 := UInt8.ofNat c.toNat

/-- The size of the blank character in front, or zero. -/
def blankSize : Bytes → Nat
  | 0x20 :: _ => 1
  | 0xC2 :: 0xA0 :: _ => 2
  | 0xE1 :: 0x9A :: 0x80 :: _ => 3
  | 0xE2 :: 0x80 :: c :: _ =>
    if (0x80 ≤ c ∧ c ≤ 0x8A) ∨ c = 0xA8 ∨ c = 0xA9 ∨ c = 0xAF then 3 else 0
  | 0xE2 :: 0x81 :: 0x9F :: _ => 3
  | 0xE3 :: 0x80 :: 0x80 :: _ => 3
  | 0xEF :: 0xBB :: 0xBF :: _ => 3
  | b :: _ => if 0x09 ≤ b ∧ b ≤ 0x0D then 1 else 0
  | [] => 0

def endsLine : Bytes → Bool
  | 0x0A :: _ => true
  | 0x0D :: _ => true
  | 0xE2 :: 0x80 :: c :: _ => c = 0xA8 || c = 0xA9
  | _ => false

def lineSize : Bytes → Nat
  | [] => 0
  | b :: rest => if endsLine (b :: rest) then 0 else lineSize rest + 1

/-- The size of what stands up to the end of a block comment, and whether a line ends in it. -/
def blockSize? : Bytes → Option (Nat × Bool)
  | [] => none
  | b :: rest =>
    if b = byteOf '*' ∧ rest.head? = some (byteOf '/') then some (2, false)
    else (blockSize? rest).map fun (n, newline) => (n + 1, newline || endsLine (b :: rest))

/-- What stands between two tokens: the comments, latest first, and whether a line ends. -/
structure Gap where
  comments : List (Nat × Nat) := []
  newline : Bool := false
  deriving DecidableEq, Repr

def Gap.add (g : Gap) (s : Scan) (size : Nat) (newline : Bool) : Gap :=
  ⟨(s.offset, s.offset + size) :: g.comments, g.newline || newline⟩

/-- The gap in front of the next token. Every step takes up a byte. -/
def gapFrom : Nat → Gap → Scan → Except Nat (Gap × Scan)
  | 0, g, s => .ok (g, s)
  | fuel + 1, g, s =>
    match blankSize s.rest with
    | size + 1 =>
      gapFrom fuel { g with newline := g.newline || endsLine s.rest } (s.skip (size + 1))
    | 0 =>
      if s.rest.take 2 = [byteOf '/', byteOf '/'] then
        let size := lineSize s.rest
        gapFrom fuel (g.add s size false) (s.skip size)
      else if s.rest.take 2 = [byteOf '/', byteOf '*'] then
        match blockSize? (s.rest.drop 2) with
        | some (size, newline) =>
          gapFrom fuel (g.add s (size + 2) newline) (s.skip (size + 2))
        | none => .error s.offset
      else .ok (g, s)

/-! ## Sizes of tokens -/

def isDigit (b : UInt8) : Bool := byteOf '0' ≤ b && b ≤ byteOf '9'

def isNameByte (b : UInt8) : Bool :=
  isDigit b || (byteOf 'a' ≤ b && b ≤ byteOf 'z') || (byteOf 'A' ≤ b && b ≤ byteOf 'Z') ||
    b = byteOf '_' || b = byteOf '$' || 0x80 ≤ b

def isHexDigit (b : UInt8) : Bool :=
  isDigit b || (byteOf 'a' ≤ b && b ≤ byteOf 'f') || (byteOf 'A' ≤ b && b ≤ byteOf 'F')

def spanSize (p : UInt8 → Bool) (bytes : Bytes) : Nat := (bytes.takeWhile p).length

/-- The size of the code behind `\u`: four digits, or some in braces. -/
def codeSize? : Bytes → Option Nat
  | 0x7B :: rest =>
    let digits := spanSize isHexDigit rest
    if digits ≠ 0 ∧ (rest.drop digits).head? = some (byteOf '\x7d') then some (digits + 2) else none
  | bytes => if 4 ≤ spanSize isHexDigit (bytes.take 4) then some 4 else none

/-- Whether the bytes behind a backslash in a text make an escape. -/
def isEscape : Bytes → Bool
  | 0x78 :: rest => 2 ≤ spanSize isHexDigit (rest.take 2)
  | 0x75 :: rest => (codeSize? rest).isSome
  | _ => true

/-- The size of the name in front. The first `known` bytes are a code that has been looked at. -/
def nameSize (known : Nat) : Bytes → Nat
  | [] => 0
  | b :: rest =>
    match known with
    | known + 1 => nameSize known rest + 1
    | 0 =>
      match b, rest with
      | 0x5C, 0x75 :: code =>
        match codeSize? code with
        | some size => nameSize (size + 1) rest + 1
        | none => 0
      | _, _ =>
        if isNameByte b && blankSize (b :: rest) = 0 then nameSize 0 rest + 1 else 0

/-- The size of the name in front, or zero. Bytes that are no text make no name, and no name begins
with a digit. -/
def wordSize (bytes : Bytes) : Nat :=
  let size := nameSize 0 bytes
  if bytes.head?.any isDigit || (firstFault? (bytes.take size)).isSome then 0 else size

/-- The number of digits in front and of the single underscores between two of them. The byte
before them is a digit. -/
def moreDigitsSize (digit : UInt8 → Bool) : Bytes → Nat
  | [] => 0
  | b :: rest =>
    if digit b || (b = byteOf '_' && rest.head?.any digit) then moreDigitsSize digit rest + 1
    else 0

def digitsSize (digit : UInt8 → Bool) (bytes : Bytes) : Nat :=
  if bytes.head?.any digit then moreDigitsSize digit bytes else 0

def exponentSize : Bytes → Nat
  | e :: rest =>
    if e = byteOf 'e' ∨ e = byteOf 'E' then
      let hasSign := rest.head? = some (byteOf '+') ∨ rest.head? = some (byteOf '-')
      let signSize := if hasSign then 1 else 0
      match digitsSize isDigit (rest.drop signSize) with
      | 0 => 0
      | digits + 1 => 1 + signSize + digits + 1
    else 0
  | [] => 0

def fractionSize : Bytes → Nat
  | 0x2E :: rest =>
    let digits := digitsSize isDigit rest
    1 + digits + exponentSize (rest.drop digits)
  | bytes => exponentSize bytes

/-- Whether a byte is a digit in the base that a letter behind a zero stands for. -/
def isDigitIn (letter b : UInt8) : Bool :=
  if letter = byteOf 'x' ∨ letter = byteOf 'X' then isHexDigit b
  else if letter = byteOf 'o' ∨ letter = byteOf 'O' then byteOf '0' ≤ b && b ≤ byteOf '7'
  else if letter = byteOf 'b' ∨ letter = byteOf 'B' then b = byteOf '0' || b = byteOf '1'
  else false

/-- The size of a zero, the letter of a base and digits in that base, or zero. -/
def basedSize : Bytes → Nat
  | 0x30 :: letter :: rest =>
    match digitsSize (isDigitIn letter) rest with
    | 0 => 0
    | digits + 1 => digits + 3
  | _ => 0

/-- Whether the digits in front may have a fraction or an exponent. With a zero in front there must
be no other digit, or a next one that is no zero. -/
def mayHaveFraction : Bytes → Bool
  | 0x30 :: b :: _ => !(b = byteOf '0' || b = byteOf '_')
  | _ => true

/-- The size of the number in front. An `n` behind whole digits makes a big integer. -/
def numberSize (bytes : Bytes) : Nat :=
  let based := basedSize bytes
  let whole := if based = 0 then digitsSize isDigit bytes else based
  let fraction :=
    if based = 0 && mayHaveFraction bytes then fractionSize (bytes.drop whole) else 0
  if fraction = 0 && (bytes.drop whole).head? = some (byteOf 'n') then whole + 1
  else whole + fraction

/-- The size of what stands up to the closing quote of a string, with it. A line must not end in a
string unless a backslash stands before its end. -/
def stringSize? (quote : UInt8) : Bytes → Option Nat
  | [] => none
  | 0x5C :: 0x0D :: 0x0A :: rest => (stringSize? quote rest).map (· + 3)
  | 0x5C :: b :: rest =>
    if isEscape (b :: rest) then (stringSize? quote rest).map (· + 2) else none
  | b :: rest =>
    if b = quote then some 1
    else if b = 0x0A ∨ b = 0x0D then none
    else (stringSize? quote rest).map (· + 1)

/-- The size of the text of a template up to a backquote or a substitution. -/
def templateSize? : Bytes → Option Nat
  | [] => none
  | 0x60 :: _ => some 0
  | 0x24 :: 0x7B :: _ => some 0
  | 0x5C :: b :: rest => if isEscape (b :: rest) then (templateSize? rest).map (· + 2) else none
  | _ :: rest => (templateSize? rest).map (· + 1)

/-! ## Tokens -/

/-- What is open around a token. -/
inductive Opening where
  | brace
  | template
  | substitution
  deriving DecidableEq, Repr

/-- The kind and the size of the token in front, and what is open after it. -/
structure Cut where
  kind : TokenKind
  size : Nat
  opened : List Opening
  deriving DecidableEq, Repr

def cutTemplate (opened : List Opening) (bytes : Bytes) : Option Cut :=
  match bytes with
  | 0x60 :: _ => some ⟨.punctuator, 1, opened.drop 1⟩
  | 0x24 :: 0x7B :: _ => some ⟨.punctuator, 2, .substitution :: opened⟩
  | _ => (templateSize? bytes).map fun size => ⟨.templateText, size, opened⟩

/-- The size of the punctuator in front. A question mark before a point and a digit stands
alone. -/
def markSize? (bytes : Bytes) : Option Nat :=
  match bytes with
  | 0x3F :: 0x2E :: b :: _ =>
    if isDigit b then some 1 else some 2
  | _ =>
    (punctuators.find? fun p => (encode p).isPrefixOf bytes).map fun p => (encode p).length

def cutCode (opened : List Opening) (bytes : Bytes) : Option Cut :=
  match bytes with
  | [] => some ⟨.ending, 0, opened⟩
  | 0x60 :: _ => some ⟨.punctuator, 1, .template :: opened⟩
  | 0x7B :: _ => some ⟨.punctuator, 1, .brace :: opened⟩
  | 0x7D :: _ => some ⟨.punctuator, 1, opened.drop 1⟩
  | b :: rest =>
    if b = byteOf '\'' ∨ b = byteOf '"' then
      (stringSize? b rest).map fun size => ⟨.string, size + 1, opened⟩
    else if isDigit b ∨ (b = byteOf '.' ∧ rest.head?.any isDigit) then
      some ⟨.number, numberSize bytes, opened⟩
    else if b = byteOf '#' then
      match wordSize rest with
      | 0 => none
      | size + 1 => some ⟨.privateName, size + 2, opened⟩
    else
      match wordSize bytes with
      | size + 1 => some ⟨.word, size + 1, opened⟩
      | 0 => (markSize? bytes).map fun size => ⟨.punctuator, size, opened⟩

def Cut.token (c : Cut) (g : Gap) (s : Scan) : Token where
  kind := c.kind
  text := decode (s.rest.take c.size)
  start := s.offset
  stop := s.offset + c.size
  afterNewline := g.newline
  comments := g.comments.reverse

/-- The tokens of a rest of the source, the last one for its end. -/
def tokensFrom : Nat → List Opening → Scan → Except Nat (List Token)
  | 0, _, s => .error s.offset
  | fuel + 1, opened, s => do
    let inText := opened.head? = some .template
    let (gap, s) ← if inText then .ok ({}, s) else gapFrom fuel {} s
    match (if inText then cutTemplate opened s.rest else cutCode opened s.rest) with
    | none => .error s.offset
    | some cut =>
      let token := cut.token gap s
      if cut.kind = .ending then return [token]
      else return token :: (← tokensFrom fuel cut.opened (s.skip cut.size))

/-- The tokens of a source. Every token but the last takes up a byte. -/
def tokens (source : Bytes) : Except Nat (List Token) :=
  tokensFrom (source.length + 1) [] ⟨source, 0⟩

end TruncIdiom.Script
