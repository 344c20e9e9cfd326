import ManifestGrading.Text.Utf8
import ManifestGrading.Yaml.Scalar
import ManifestGrading.Yaml.Token

/-! The division of a text in YAML into tokens. Whether a scalar is the key of a mapping shows only at the
colon behind it, so the place of every possible key is kept as a `Candidate`, one for each level of flow
collections, and the tokens for the key and for the start of its mapping are put in front of it later. A
candidate lasts to the end of its line and for 1024 characters. -/

namespace ManifestGrading.Yaml

/-- A place where the key of a mapping may have started. -/
structure Candidate where
  token : Nat
  required : Bool
  index : Nat
  line : Nat
  column : Nat

/-- The tokens so far, newest first, and what decides about the next one: the columns of the open block
collections, whether a key may start here, and the candidates of the open levels, innermost first. -/
structure Lexer where
  place : Cursor
  tokens : List Token
  count : Nat
  indent : Int
  indents : List Int
  keyAllowed : Bool
  candidate : Option Candidate
  outer : List (Option Candidate)

/-- The greatest distance between the start of a key and its colon. -/
def keyLimit : Nat := 1024

namespace Lexer

def start (cs : List Char) : Lexer := ⟨.start cs, [], 0, -1, [], true, none, []⟩

def inFlow (l : Lexer) : Bool := !l.outer.isEmpty

def push (l : Lexer) (t : Token) : Lexer := { l with tokens := t :: l.tokens, count := l.count + 1 }

/-- A token in front of the one with the number `place`. -/
def pushBefore (l : Lexer) (place : Nat) (t : Token) : Lexer :=
  let behind := l.count - place
  { l with tokens := l.tokens.take behind ++ t :: l.tokens.drop behind, count := l.count + 1 }

/-- A further token that takes a number of characters. -/
def pushWide (l : Lexer) (t : Token) (width : Nat) : Lexer :=
  { l.push t with place := l.place.advance width }

/-- A candidate that is still one at a place. -/
def freshCandidate (place : Cursor) (c : Candidate) : Except Fault (Option Candidate) :=
  if c.line != place.line || keyLimit < place.index - c.index then
    if c.required then .error .malformed else .ok none
  else .ok (some c)

/-- The candidates that are still ones. -/
def dropStale (l : Lexer) : Except Fault Lexer := do
  let fresh (c : Option Candidate) : Except Fault (Option Candidate) :=
    match c with
    | none => .ok none
    | some c => freshCandidate l.place c
  return { l with candidate := ← fresh l.candidate, outer := ← l.outer.mapM fresh }

/-- The state without a candidate on the innermost level; a required one must not be lost. -/
def dropCandidate (l : Lexer) : Except Fault Lexer :=
  if l.candidate.any (·.required) then .error .malformed else .ok { l with candidate := none }

/-- The state with a candidate for the next token, where a key may start. -/
def saveCandidate (l : Lexer) : Except Fault Lexer :=
  if l.keyAllowed then do
    let required := !l.inFlow && l.indent = l.place.column
    let l ← l.dropCandidate
    return { l with candidate := some ⟨l.count, required, l.place.index, l.place.line, l.place.column⟩ }
  else .ok l

/-- The ends of the block collections that stand deeper than a column. -/
def closeBlocks (column : Int) (indent : Int) (indents : List Int) (tokens : List Token) (count : Nat) :
    Int × List Int × List Token × Nat :=
  if column < indent then
    match indents with
    | [] => (indent, [], tokens, count)
    | outer :: rest => closeBlocks column outer rest (.blockEnd :: tokens) (count + 1)
  else (indent, indents, tokens, count)

/-- The state where no block collection stands deeper than a column. Flow collections ignore columns. -/
def unwind (l : Lexer) (column : Int) : Lexer :=
  if l.inFlow then l
  else
    let (indent, indents, tokens, count) := closeBlocks column l.indent l.indents l.tokens l.count
    { l with indent := indent, indents := indents, tokens := tokens, count := count }

def opens (l : Lexer) (column : Nat) : Bool := l.indent < column

/-- The state in a block collection at a column. -/
def deepen (l : Lexer) (column : Nat) : Lexer := { l with indent := column, indents := l.indent :: l.indents }

/-- The state at the next token, behind spaces, comments and line ends. -/
def skipToToken : (bound : Nat) → Lexer → Lexer
  | 0, l => l
  | bound + 1, l =>
    let place := l.place.skipComment
    match place.lineBreak? with
    | none => { l with place := place }
    | some (_, place) =>
      skipToToken bound { l with place := place, keyAllowed := l.keyAllowed || !l.inFlow }

/-- The characters of a name behind an indicator, which must not be empty. -/
def wordAt (c : Cursor) : Except Fault (String × Cursor) :=
  let (word, c) := c.takeWhile isWordChar
  if word.isEmpty then .error .malformed else .ok (String.ofList word, c)

def anchorName (c : Cursor) : Except Fault (String × Cursor) := do
  let (name, c) ← wordAt c
  if endsOr (fun ch => isGap ch || ch ∈ ['?', ':', ',', ']', '}', '%', '@', '`']) c.rest then return (name, c)
  else throw .malformed

/-- A character of the name of a tag. -/
def isTagChar (c : Char) : Bool := c.isAlphanum || c ∈ "-;/?:@&=+$,_.!~*'()[]%".toList

/-- The bytes of numbered characters in the name of a tag. -/
def tagBytes : (bound : Nat) → Cursor → Except Fault (List UInt8 × Cursor)
  | 0, c => .ok ([], c)
  | bound + 1, c =>
    match c.rest with
    | '%' :: a :: b :: _ =>
      match Text.hexValue? a, Text.hexValue? b with
      | some a, some b =>
        (tagBytes bound (c.advance 3)).map fun r => (UInt8.ofNat (a * 16 + b) :: r.1, r.2)
      | _, _ => .error .malformed
    | '%' :: _ => .error .malformed
    | _ => .ok ([], c)

def tagChars : (bound : Nat) → Cursor → Except Fault (List Char × Cursor)
  | 0, c => .ok ([], c)
  | bound + 1, c =>
    match c.rest with
    | [] => .ok ([], c)
    | ch :: _ =>
      if ch = '%' then do
        let (bytes, c) ← tagBytes c.rest.length c
        match Text.Utf8.decode bytes with
        | .error _ => throw .malformed
        | .ok cs =>
          let (more, c) ← tagChars bound c
          return (cs ++ more, c)
      else if isTagChar ch then (tagChars bound c.next).map fun r => (ch :: r.1, r.2)
      else .ok ([], c)

/-- The name of a tag or the start of one, which must not be empty. -/
def tagText (c : Cursor) : Except Fault (String × Cursor) := do
  let (cs, after) ← tagChars (c.rest.length + 1) c
  if after.index = c.index then throw .malformed else return (String.ofList cs, after)

/-- A handle of tags: an exclamation mark, or a word between two. -/
def tagHandle (c : Cursor) : Except Fault (String × Cursor) :=
  match c.rest with
  | '!' :: rest =>
    if startsWith (· = ' ') rest then .ok ("!", c.next)
    else
      let word := rest.takeWhile isWordChar
      if startsWith (· = '!') (rest.dropWhile isWordChar) then
        .ok (String.ofList ('!' :: word ++ ['!']), c.advance (word.length + 2))
      else .error .malformed
  | _ => .error .malformed

/-- A tag from its exclamation mark on. -/
def tagAt (c : Cursor) : Except Fault (TagName × Cursor) := do
  let (tag, c) ← match c.next.rest with
    | '<' :: _ => do
      let (name, c) ← tagText (c.advance 2)
      if startsWith (· = '>') c.rest then pure (TagName.verbatim name, c.next) else throw .malformed
    | rest =>
      if endsOr isGap rest then pure (TagName.verbatim "!", c.next)
      else if (rest.takeWhile fun ch => !(ch = ' ' || isBreak ch)).contains '!' then do
        let (handle, c) ← tagHandle c
        let (name, c) ← tagText c
        pure (TagName.short handle name, c)
      else do
        let (name, c) ← tagText c.next
        pure (TagName.short "!" name, c)
  if endsOr (fun ch => ch = ' ' || isBreak ch) c.rest then return (tag, c) else throw .malformed

/-- A run of digits as a number. -/
def numberAt (c : Cursor) : Except Fault (Nat × Cursor) :=
  let (ds, c) := c.takeWhile Text.isAsciiDigit
  if ds.isEmpty then .error .malformed
  else if Number.digitLimit < ds.length then .error (.integer (.tooLong ds.length))
  else .ok (Number.digitsValue ds, c)

/-- A directive from its percent sign on. -/
def directiveAt (c : Cursor) : Except Fault (Directive × Cursor) := do
  let spaceOrEnd (c : Cursor) : Except Fault Unit :=
    if endsOr (fun ch => ch = ' ' || isBreak ch) c.rest then .ok () else .error .malformed
  let (name, c) ← wordAt c.next
  spaceOrEnd c
  let (directive, c) ←
    if name = "YAML" then do
      let (major, c) ← numberAt (c.skip (· = ' '))
      if !startsWith (· = '.') c.rest then throw .malformed
      let (minor, c) ← numberAt c.next
      spaceOrEnd c
      pure (Directive.version major minor, c)
    else if name = "TAG" then do
      let (handle, c) ← tagHandle (c.skip (· = ' '))
      if !startsWith (· = ' ') c.rest then throw .malformed
      let (tagStart, c) ← tagText (c.skip (· = ' '))
      spaceOrEnd c
      pure (Directive.handle handle tagStart, c)
    else pure (Directive.other, c.skip (!isBreak ·))
  let c := c.skipComment
  match c.lineBreak? with
  | some (_, c) => return (directive, c)
  | none => if c.rest.isEmpty then return (directive, c) else throw .malformed

/-- The state behind a mark of a document or a directive, which end every block. -/
def endDocument (l : Lexer) : Except Fault Lexer := do
  let l ← (l.unwind (-1)).dropCandidate
  return { l with keyAllowed := false }

/-- The start of a flow collection, which may be a key. -/
def openFlow (l : Lexer) (t : Token) : Except Fault Lexer := do
  let l ← l.saveCandidate
  let l := { l with candidate := none, outer := l.candidate :: l.outer, keyAllowed := true }
  return l.pushWide t 1

def closeFlow (l : Lexer) (t : Token) : Except Fault Lexer := do
  let l ← l.dropCandidate
  let l := { l with candidate := (l.outer.headD none), outer := l.outer.tail, keyAllowed := false }
  return l.pushWide t 1

/-- A comma between the parts of a flow collection. -/
def flowEntry (l : Lexer) : Except Fault Lexer := do
  let l ← { l with keyAllowed := true }.dropCandidate
  return l.pushWide .flowEntry 1

/-- The indicator of an item or a key of a block collection, which may be the first one. -/
def blockIndicator (l : Lexer) (opening indicator : Token) (keyAllowed : Bool) : Except Fault Lexer := do
  if !l.inFlow && !l.keyAllowed then throw .malformed
  let l :=
    if !l.inFlow && l.opens l.place.column then (l.deepen l.place.column).push opening else l
  let l ← { l with keyAllowed := keyAllowed }.dropCandidate
  return l.pushWide indicator 1

/-- The colon behind a key. If a candidate stands before it, the candidate is the key. -/
def mappingValue (l : Lexer) : Except Fault Lexer :=
  match l.candidate with
  | some c =>
    let l := { l with candidate := none, keyAllowed := false }.pushBefore c.token .key
    let l := if !l.inFlow && l.opens c.column then (l.deepen c.column).pushBefore c.token .blockMappingStart else l
    .ok (l.pushWide .value 1)
  | none => l.blockIndicator .blockMappingStart .value !l.inFlow

/-- A token that may be a key and behind which none may start. -/
def keyLike (l : Lexer) (read : Cursor → Except Fault (Token × Cursor)) : Except Fault Lexer := do
  let l ← l.saveCandidate
  let (t, place) ← read l.place
  return { { l with keyAllowed := false }.push t with place := place }

/-- A plain scalar. A key may start behind it if a line ended there. -/
def plain (l : Lexer) : Except Fault Lexer := do
  let l ← l.saveCandidate
  let (text, place, ended) := plainScalar l.inFlow l.indent l.place
  return { { l with keyAllowed := ended }.push (.scalar text true) with place := place }

/-- A block scalar, behind which a key may start. -/
def block (l : Lexer) (folded : Bool) : Except Fault Lexer := do
  let l ← { l with keyAllowed := true }.dropCandidate
  let (text, place) ← blockScalar folded l.indent l.place
  return { l.push (.scalar text false) with place := place }

/-- Whether a plain scalar may start at a place. -/
def startsPlain (inFlow : Bool) : List Char → Bool
  | [] => false
  | c :: rest =>
    (!isGap c && c ∉ "-?:,[]{}#&*!|>'\"%@`".toList) ||
      (startsWith (!isGap ·) rest && (c = '-' || (!inFlow && (c = '?' || c = ':'))))

/-- The state behind the token that starts at a place. -/
def nextToken (l : Lexer) (ch : Char) (rest : List Char) : Except Fault Lexer :=
  let indicator : Bool := l.inFlow || endsOr isGap rest
  if ch = '%' && l.place.column = 0 then do
    let l ← l.endDocument
    let (directive, place) ← directiveAt l.place
    return { l.push (.directive directive) with place := place }
  else if l.place.column = 0 && atDocumentMark (ch :: rest) then do
    let l ← l.endDocument
    return l.pushWide (if ch = '-' then .documentStart else .documentEnd) 3
  else if ch = '[' then l.openFlow .flowSequenceStart
  else if ch = '{' then l.openFlow .flowMappingStart
  else if ch = ']' then l.closeFlow .flowSequenceEnd
  else if ch = '}' then l.closeFlow .flowMappingEnd
  else if ch = ',' then l.flowEntry
  else if ch = '-' && endsOr isGap rest then l.blockIndicator .blockSequenceStart .blockEntry true
  else if ch = '?' && indicator then l.blockIndicator .blockMappingStart .key !l.inFlow
  else if ch = ':' && indicator then l.mappingValue
  else if ch = '*' then l.keyLike fun c => (anchorName c.next).map fun r => (.alias r.1, r.2)
  else if ch = '&' then l.keyLike fun c => (anchorName c.next).map fun r => (.anchor r.1, r.2)
  else if ch = '!' then l.keyLike fun c => (tagAt c).map fun r => (.tag r.1, r.2)
  else if ch = '|' && !l.inFlow then l.block false
  else if ch = '>' && !l.inFlow then l.block true
  else if ch = '\'' then l.keyLike fun c => (quotedScalar false c).map fun r => (.scalar r.1 false, r.2)
  else if ch = '"' then l.keyLike fun c => (quotedScalar true c).map fun r => (.scalar r.1 false, r.2)
  else if startsPlain l.inFlow (ch :: rest) then l.plain
  else .error .malformed

/-- The number of tokens that are known to stay as they are: those before every candidate. -/
def settled (l : Lexer) : Nat := (l.candidate :: l.outer).foldl (fun n c => c.elim n fun c => min n c.token) l.count

/-- The state with the next token. -/
def advance (bound : Nat) (l : Lexer) : Except Fault (Lexer × Bool) := do
  let l ← (skipToToken bound l).dropStale
  let l := l.unwind l.place.column
  match l.place.rest with
  | [] => return ((← l.endDocument).push .streamEnd, true)
  | ch :: rest => return (← l.nextToken ch rest, false)

/-- The first tokens, of which `count` are settled, and the fault behind them. -/
def cut (l : Lexer) (count : Nat) (fault : Fault) : List Token × Option Fault :=
  (l.tokens.reverse.take count, some fault)

/-- The tokens of a text, and what ends the reading early. A token is read as soon as it is settled, so a fault
is met behind the tokens that were settled before it. The bound exceeds the number of characters that are
left. -/
def run : (bound settledBefore : Nat) → Lexer → List Token × Option Fault
  | 0, count, l => l.cut count .malformed
  | bound + 1, count, l =>
    match l.dropStale with
    | .error fault => l.cut count fault
    | .ok l =>
      match l.advance (bound + 1) with
      | .error fault => l.cut l.settled fault
      | .ok (next, true) => (next.tokens.reverse, none)
      | .ok (next, false) => run bound l.settled next

end Lexer

/-- A character that may stand in a text in YAML. -/
def isAllowed (c : Char) : Bool :=
  let n := c.toNat
  n = 0x09 || n = 0x0A || n = 0x0D || (0x20 ≤ n && n ≤ 0x7E) || n = 0x85 || (0xA0 ≤ n && n ≤ 0xD7FF) ||
    (0xE000 ≤ n && n ≤ 0xFFFD) || 0x10000 ≤ n

/-- The tokens of a text in YAML, and what ends the reading early. A byte order mark at the start of the
text is passed over, and a character that must not occur anywhere makes the whole text no YAML. -/
def tokens (cs : List Char) : List Token × Option Fault :=
  if cs.all isAllowed then
    let start := Lexer.start cs
    let start := if startsWith (· = '\uFEFF') cs then { start with place := start.place.next } else start
    Lexer.run (cs.length + 1) 0 start
  else ([], some .malformed)

end ManifestGrading.Yaml
