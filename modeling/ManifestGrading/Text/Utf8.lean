import ManifestGrading.Text.Digit
import ManifestGrading.Text.Raw

/-! Text in UTF-8. The reading is strict: overlong forms, surrogates and code points beyond the last one
are refused, with the place of the first bytes at fault and what is wrong with them. Line ends are read
alike on every platform: a carriage return, alone or before a line feed, is a line feed. A text with a half
of a pair in it cannot be written. -/

namespace ManifestGrading.Text.Utf8

/-- What is wrong with bytes that are no UTF-8. -/
inductive Defect where
  | start
  | continuation
  | truncated
  deriving Repr, DecidableEq

/-- Bytes that are no UTF-8: the first at fault, its offset, and how many belong to the fault. -/
structure Fault where
  byte : UInt8
  offset : Nat
  width : Nat
  defect : Defect
  deriving Repr, DecidableEq

def Defect.message : Defect → String
  | .start => "invalid start byte"
  | .continuation => "invalid continuation byte"
  | .truncated => "unexpected end of data"

/-- The message of a fault names the byte where it is one, and the range of offsets where there are
several. -/
def Fault.message (f : Fault) : String :=
  let place :=
    if f.width = 1 then
      "byte 0x" ++ String.ofList (hexDigits 2 f.byte.toNat) ++
        " in position " ++ toString f.offset
    else "bytes in position " ++ toString f.offset ++ "-" ++ toString (f.offset + f.width - 1)
  "'utf-8' codec can't decode " ++ place ++ ": " ++ f.defect.message

/-- A byte that continues a character. -/
def isTail (b : UInt8) : Bool := 0x80 ≤ b && b ≤ 0xBF

/-- What the bytes at the start of a text say: a character and how many bytes it takes, or the width of
the fault and the defect. -/
inductive Step where
  | char (c : Char) (width : Nat)
  | fault (width : Nat) (defect : Defect)

/-- The least and the greatest byte that may follow the first byte of a character. -/
def secondRange (b : UInt8) : UInt8 × UInt8 :=
  if b = 0xE0 then (0xA0, 0xBF)
  else if b = 0xED then (0x80, 0x9F)
  else if b = 0xF0 then (0x90, 0xBF)
  else if b = 0xF4 then (0x80, 0x8F)
  else (0x80, 0xBF)

/-- How many bytes a character with this first byte takes. -/
def lengthOf? (b : UInt8) : Option Nat :=
  if b ≤ 0x7F then some 1
  else if 0xC2 ≤ b && b ≤ 0xDF then some 2
  else if 0xE0 ≤ b && b ≤ 0xEF then some 3
  else if 0xF0 ≤ b && b ≤ 0xF4 then some 4
  else none

/-- How many of the bytes after the first belong to the character that the first one starts. -/
def matching (b : UInt8) (rest : List UInt8) : Nat :=
  let range := secondRange b
  match rest with
  | [] => 0
  | second :: more =>
    if range.1 ≤ second && second ≤ range.2 then 1 + (more.takeWhile isTail).length else 0

/-- The code point of a character of `width` bytes. -/
def codePoint (width : Nat) (b : UInt8) (tail : List UInt8) : Nat :=
  let head := match width with
    | 1 => b.toNat
    | 2 => b.toNat % 0x20
    | 3 => b.toNat % 0x10
    | _ => b.toNat % 0x08
  tail.foldl (fun acc t => acc * 0x40 + t.toNat % 0x40) head

/-- The character that starts with the byte `b`, or what is wrong with it. -/
def step (b : UInt8) (rest : List UInt8) : Step :=
  match lengthOf? b with
  | none => .fault 1 .start
  | some width =>
    let good := min (matching b rest) (width - 1)
    if good = width - 1 then .char (Char.ofNat (codePoint width b (rest.take (width - 1)))) width
    else if rest.length ≤ good then .fault (1 + rest.length) .truncated
    else .fault (1 + good) .continuation

/-- The characters of the bytes that follow `offset` other ones; `skip` bytes belong to a character that
is already read. -/
def decodeFrom (offset skip : Nat) : List UInt8 → Except Fault (List Char)
  | [] => .ok []
  | b :: rest =>
    match skip with
    | skip + 1 => decodeFrom (offset + 1) skip rest
    | 0 =>
      match step b rest with
      | .char c width => (decodeFrom (offset + 1) (width - 1) rest).map (c :: ·)
      | .fault width defect => .error ⟨b, offset, width, defect⟩

def decode (bytes : List UInt8) : Except Fault (List Char) := decodeFrom 0 0 bytes

def mark : List UInt8 := [0xEF, 0xBB, 0xBF]

/-- The reading of bytes that a byte order mark may precede. Offsets count from behind the mark, and
bytes that are no more than the beginning of a mark stand for nothing. -/
def decodeMarked (bytes : List UInt8) : Except Fault (List Char) :=
  if bytes.length < 3 ∧ bytes <+: mark then .ok []
  else if mark <+: bytes then decode (bytes.drop 3)
  else decode bytes

/-- Line ends as line feeds. -/
def unifyLines : List Char → List Char
  | [] => []
  | '\r' :: '\n' :: rest => '\n' :: unifyLines rest
  | c :: rest => (if c = '\r' then '\n' else c) :: unifyLines rest

def readText (bytes : List UInt8) : Except Fault String :=
  (decode bytes).map fun cs => String.ofList (unifyLines cs)

/-- The text of a file in UTF-8 that may begin with a byte order mark. -/
def readMarkedText (bytes : List UInt8) : Except Fault String :=
  (decodeMarked bytes).map fun cs => String.ofList (unifyLines cs)

/-- Code points of a text that cannot be written: the number of the first, its offset, and how many follow each
other. -/
structure WritingFault where
  number : Nat
  offset : Nat
  width : Nat
  deriving Repr, DecidableEq

/-- The message of a fault names the code point where it is one, and the range of offsets where there are
several. -/
def WritingFault.message (f : WritingFault) : String :=
  let place :=
    if f.width = 1 then
      "character '" ++ String.ofList (numberEscape f.number) ++ "' in position " ++ toString f.offset
    else "characters in position " ++ toString f.offset ++ "-" ++ toString (f.offset + f.width - 1)
  "'utf-8' codec can't encode " ++ place ++ ": surrogates not allowed"

def encode (t : RawText) : Except WritingFault (List UInt8) :=
  let before := t.points.takeWhile fun p => !p.isHalf
  match t.points.drop before.length with
  | [] => .ok t.shown.toUTF8.toList
  | p :: rest => .error ⟨p.number, before.length, 1 + (rest.takeWhile CodePoint.isHalf).length⟩

/-- What is written of texts that are written one after the other, up to the first that cannot be, and the fault in that
one. -/
def writeEach : List RawText → List String × Option WritingFault
  | [] => ([], none)
  | text :: rest =>
    match encode text with
    | .error fault => ([], some fault)
    | .ok _ =>
      let (written, fault) := writeEach rest
      (text.shown :: written, fault)

end ManifestGrading.Text.Utf8
