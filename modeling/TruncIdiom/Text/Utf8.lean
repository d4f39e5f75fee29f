/-!
UTF-8: texts as bytes, and any bytes at all as a text.

`encode` writes a text. `decode` reads every byte string: it is an automaton whose state says what
the sequence begun still expects, so a longest piece that begins a well-formed sequence without
finishing it is read as one U+FFFD, and so is each byte that can begin nothing. The automaton is a
left fold, so reading a prefix first and the rest afterwards is reading the whole.
`firstFault?` is the strict reader's view of the same automaton: where the first ill-formed piece
stands, and why it is ill-formed.
-/

namespace TruncIdiom.Text

/-- A source, or any other file content. -/
abbrev Bytes := List UInt8

def encode (s : String) : Bytes := s.toList.flatMap String.utf8EncodeChar

/-! ## The automaton -/

/-- What a reader still expects: a new character, or the rest of a sequence. The next byte of a
sequence lies between `low` and `high`; `more` bytes from 80 to BF follow it. -/
inductive Expecting where
  | character
  | continuation (value : Nat) (low high : UInt8) (more : Nat)
  deriving DecidableEq, Repr

def replacement : Char := '\uFFFD'

/-- Reads a byte that begins a character. The narrowed second ranges keep out the long forms, the
surrogates and the values past U+10FFFF. -/
def beginCharacter (b : UInt8) : List Char × Expecting :=
  if b < 0x80 then ([Char.ofNat b.toNat], .character)
  else if b < 0xC2 then ([replacement], .character)
  else if b < 0xE0 then ([], .continuation (b.toNat - 0xC0) 0x80 0xBF 0)
  else if b < 0xF0 then
    let low := if b = 0xE0 then 0xA0 else 0x80
    let high := if b = 0xED then 0x9F else 0xBF
    ([], .continuation (b.toNat - 0xE0) low high 1)
  else if b < 0xF5 then
    let low := if b = 0xF0 then 0x90 else 0x80
    let high := if b = 0xF4 then 0x8F else 0xBF
    ([], .continuation (b.toNat - 0xF0) low high 2)
  else ([replacement], .character)

/-- One step: the characters now complete, and what is expected next. -/
def Expecting.step (state : Expecting) (b : UInt8) : List Char × Expecting :=
  match state with
  | .character => beginCharacter b
  | .continuation value low high more =>
    if low ≤ b ∧ b ≤ high then
      let value := value * 64 + (b.toNat - 0x80)
      match more with
      | 0 => ([Char.ofNat value], .character)
      | more + 1 => ([], .continuation value 0x80 0xBF more)
    else
      let (read, next) := beginCharacter b
      (replacement :: read, next)

/-- A reader part of the way through: what it has read, latest first, and what it expects. -/
structure Reading where
  read : List Char := []
  expecting : Expecting := .character
  deriving DecidableEq, Repr

def Reading.feed (r : Reading) (b : UInt8) : Reading :=
  let (chars, next) := r.expecting.step b
  ⟨chars.reverse ++ r.read, next⟩

/-- The characters read when the input ends here: a sequence left open is ill-formed. -/
def Reading.finish (r : Reading) : List Char :=
  match r.expecting with
  | .character => r.read.reverse
  | .continuation .. => (replacement :: r.read).reverse

def decodeChars (bytes : Bytes) : List Char := (bytes.foldl Reading.feed {}).finish

def decode (bytes : Bytes) : String := String.ofList (decodeChars bytes)

/-! ## The first ill-formed piece -/

inductive FaultKind where
  | start
  | continuation
  | ending
  deriving DecidableEq, Repr

/-- An ill-formed piece: its bytes are those from `start` up to `stop`. -/
structure Fault where
  kind : FaultKind
  start : Nat
  stop : Nat
  lead : UInt8
  deriving DecidableEq, Repr

/-- Searches from offset `here`, inside a sequence that began at `start` with the byte `lead`
unless a character is expected. -/
def faultFrom (state : Expecting) (start : Nat) (lead : UInt8) (here : Nat) : Bytes → Option Fault
  | [] =>
    match state with
    | .character => none
    | .continuation .. => some ⟨.ending, start, here, lead⟩
  | b :: rest =>
    match state with
    | .character =>
      let (read, next) := beginCharacter b
      if read = [replacement] then some ⟨.start, here, here + 1, b⟩
      else faultFrom next here b (here + 1) rest
    | .continuation _ low high _ =>
      if low ≤ b ∧ b ≤ high then faultFrom (state.step b).2 start lead (here + 1) rest
      else some ⟨.continuation, start, here, lead⟩

def firstFault? (bytes : Bytes) : Option Fault := faultFrom .character 0 0 0 bytes

/-- The strict reading: the text of a well-formed byte string. -/
def decodeStrict (bytes : Bytes) : Except Fault String :=
  match firstFault? bytes with
  | some fault => .error fault
  | none => .ok (decode bytes)

end TruncIdiom.Text
