import ManifestGrading.Yaml.Cursor
import ManifestGrading.Yaml.Fault

/-! The texts of scalars: plain, between single or double quotes, and as a block of lines that is kept or
folded. Each reader returns the text and the place behind it. The loops are bounded by the characters that
are left, of which every round takes at least one. -/

namespace ManifestGrading.Yaml

/-- The number of characters that a plain scalar takes before the next space. -/
def plainLength (inFlow : Bool) : List Char → Nat
  | [] => 0
  | c :: rest =>
    if isGap c then 0
    else if c = ':' && endsOr (fun d => isGap d || (inFlow && d ∈ [',', '[', ']', '{', '}'])) rest then 0
    else if inFlow && c ∈ [',', '?', '[', ']', '{', '}'] then 0
    else plainLength inFlow rest + 1

/-- The line ends of empty lines within a plain scalar; none where a document ends. -/
def plainBreaks : (bound : Nat) → Cursor → Option (List Char × Cursor)
  | 0, c => some ([], c)
  | bound + 1, c =>
    if startsWith (· = ' ') c.rest then plainBreaks bound c.next
    else match c.lineBreak? with
      | none => some ([], c)
      | some (b, c) =>
        if atDocumentMark c.rest then none
        else (plainBreaks bound c).map fun r => (b :: r.1, r.2)

/-- A line end and the empty lines behind it as they count in a scalar that goes on: a single line feed is
a space. -/
def foldedBreak (b : Char) (breaks : List Char) : List Char :=
  (if b != '\n' then [b] else if breaks.isEmpty then [' '] else []) ++ breaks

/-- The characters between two parts of a plain scalar, the place behind them, and whether a line ended.
There are none if the scalar ends. -/
def plainSpaces (c : Cursor) : List Char × Cursor × Bool :=
  let (spaces, c) := c.takeWhile (· = ' ')
  match c.lineBreak? with
  | none => (spaces, c, false)
  | some (b, c) =>
    if atDocumentMark c.rest then ([], c, true)
    else match plainBreaks c.rest.length c with
      | none => ([], c, true)
      | some (breaks, c) => (foldedBreak b breaks, c, true)

/-- The parts of a plain scalar behind the characters `spaces`, the place behind them, and whether a line
ended last. -/
def plainParts (inFlow : Bool) (indent : Int) :
    (bound : Nat) → (spaces : List Char) → (ended : Bool) → Cursor → List Char × Cursor × Bool
  | 0, _, ended, c => ([], c, ended)
  | bound + 1, spaces, ended, c =>
    let length := if startsWith (· = '#') c.rest then 0 else plainLength inFlow c.rest
    if length = 0 then ([], c, ended)
    else
      let part := c.rest.take length
      let (more, c, ended) := plainSpaces (c.advance length)
      if more.isEmpty || startsWith (· = '#') c.rest || (!inFlow && (c.column : Int) < indent) then
        (spaces ++ part, c, ended)
      else
        let (parts, c, ended) := plainParts inFlow indent bound more ended c
        (spaces ++ part ++ parts, c, ended)

/-- A plain scalar in a collection that is indented by `indent`; the last component says whether a line
ended behind it. -/
def plainScalar (inFlow : Bool) (indent : Int) (c : Cursor) : String × Cursor × Bool :=
  let (cs, c, ended) := plainParts inFlow (indent + 1) (c.rest.length + 1) [] false c
  (String.ofList cs, c, ended)

/-- The character that a letter behind a backslash stands for between double quotes. -/
def escaped? : Char → Option Char
  | '0' => some '\x00'
  | 'a' => some '\x07'
  | 'b' => some '\x08'
  | 't' => some '\t'
  | '\t' => some '\t'
  | 'n' => some '\n'
  | 'v' => some '\x0B'
  | 'f' => some '\x0C'
  | 'r' => some '\r'
  | 'e' => some '\x1B'
  | ' ' => some ' '
  | '"' => some '"'
  | '\\' => some '\\'
  | '/' => some '/'
  | 'N' => some '\u0085'
  | '_' => some '\u00A0'
  | 'L' => some '\u2028'
  | 'P' => some '\u2029'
  | _ => none

/-- The number of digits behind the letter of a numbered escape. -/
def escapeWidth? : Char → Option Nat
  | 'x' => some 2
  | 'u' => some 4
  | 'U' => some 8
  | _ => none

/-- The value of hexadecimal digits. -/
def hexNumber? (cs : List Char) : Option Nat :=
  cs.foldlM (fun n c => (Text.hexValue? c).map (n * 16 + ·)) 0

/-- The line ends of empty lines within a quoted scalar; a document must not end there. -/
def quotedBreaks : (bound : Nat) → Cursor → Except Fault (List Char × Cursor)
  | 0, _ => .error .malformed
  | bound + 1, c =>
    if atDocumentMark c.rest then .error .malformed
    else
      let c := c.skip fun ch => ch = ' ' || ch = '\t'
      match c.lineBreak? with
      | none => .ok ([], c)
      | some (b, c) => (quotedBreaks bound c).map fun r => (b :: r.1, r.2)

/-- The numbers of the code points of a quoted scalar up to its closing quote, and the place behind it. -/
def quotedParts (double : Bool) : (bound : Nat) → Cursor → Except Fault (List Nat × Cursor)
  | 0, _ => .error .malformed
  | bound + 1, c =>
    let quote := if double then '"' else '\''
    let go (before : List Nat) (c : Cursor) : Except Fault (List Nat × Cursor) :=
      (quotedParts double bound c).map fun r => (before ++ r.1, r.2)
    match c.rest with
    | [] => .error .malformed
    | ch :: rest =>
      if ch = quote then
        if !double && startsWith (· = '\'') rest then go ['\''.toNat] (c.advance 2) else .ok ([], c.next)
      else if double && ch = '\\' then
        match rest with
        | [] => .error .malformed
        | letter :: digits =>
          match escaped? letter, escapeWidth? letter with
          | some e, _ => go [e.toNat] (c.advance 2)
          | none, some width =>
            if digits.length < width then .error .malformed
            else match hexNumber? (digits.take width) with
              | none => .error .malformed
              | some n =>
                if 0x10FFFF < n then .error (.codePoint n) else go [n] (c.advance (2 + width))
          | none, none =>
            match c.next.lineBreak? with
            | none => .error .malformed
            | some (_, c) => do
              let (breaks, c) ← quotedBreaks (c.rest.length + 1) c
              go (breaks.map Char.toNat) c
      else if ch = ' ' || ch = '\t' || isBreak ch then
        let (spaces, c) := c.takeWhile fun ch => ch = ' ' || ch = '\t'
        match c.lineBreak? with
        | none => if c.rest.isEmpty then .error .malformed else go (spaces.map Char.toNat) c
        | some (b, c) => do
          let (breaks, c) ← quotedBreaks (c.rest.length + 1) c
          go ((foldedBreak b breaks).map Char.toNat) c
      else go [ch.toNat] c.next

/-- A quoted scalar from its opening quote on. -/
def quotedScalar (double : Bool) (c : Cursor) : Except Fault (RawText × Cursor) := do
  let (codes, c) ← quotedParts double (c.rest.length + 1) c.next
  return (.ofNumbers codes, c)

/-- What the head of a block scalar says: whether the line ends behind the text are all kept or all dropped,
and how far the block is indented. -/
structure BlockHeader where
  keep : Option Bool
  increment : Option Nat

/-- The sign for the line ends of a block scalar. -/
def keepSign? : List Char → Option Bool
  | '+' :: _ => some true
  | '-' :: _ => some false
  | _ => none

/-- The digit for the indentation of a block scalar; zero is refused. -/
def incrementDigit? (cs : List Char) : Except Fault (Option Nat) :=
  match cs with
  | c :: _ =>
    if Text.isAsciiDigit c then
      if c = '0' then .error .malformed else .ok (some (c.toNat - '0'.toNat))
    else .ok none
  | [] => .ok none

/-- The head of a block scalar behind its indicator, and the place at the start of the next line. -/
def blockHeader (c : Cursor) : Except Fault (BlockHeader × Cursor) := do
  let after (c : Cursor) (found : Bool) : Cursor := if found then c.next else c
  let keep := keepSign? c.rest
  let c := after c keep.isSome
  let increment ← incrementDigit? c.rest
  let c := after c increment.isSome
  let late := if keep.isNone && increment.isSome then keepSign? c.rest else none
  let c := after c late.isSome
  if !endsOr (fun ch => ch = ' ' || isBreak ch) c.rest then throw .malformed
  let c := c.skipComment
  match c.lineBreak? with
  | some (_, c) => return (⟨keep.or late, increment⟩, c)
  | none => if c.rest.isEmpty then return (⟨keep.or late, increment⟩, c) else throw .malformed

/-- The line ends before the first line of a block scalar, and the greatest column on the way. -/
def blockIndentation : (bound : Nat) → (greatest : Nat) → Cursor → List Char × Nat × Cursor
  | 0, greatest, c => ([], greatest, c)
  | bound + 1, greatest, c =>
    if startsWith (· = ' ') c.rest then blockIndentation bound (max greatest c.next.column) c.next
    else match c.lineBreak? with
      | none => ([], greatest, c)
      | some (b, c) =>
        let (breaks, greatest, c) := blockIndentation bound greatest c
        (b :: breaks, greatest, c)

/-- The place behind the spaces that indent a line by at most `indent`. -/
def skipIndent (indent : Nat) (c : Cursor) : Cursor :=
  c.advance (min (c.rest.takeWhile (· = ' ')).length (indent - c.column))

/-- The line ends before the next line of a block scalar. -/
def blockBreaks (indent : Nat) : (bound : Nat) → Cursor → List Char × Cursor
  | 0, c => ([], c)
  | bound + 1, c =>
    let c := skipIndent indent c
    match c.lineBreak? with
    | none => ([], c)
    | some (b, c) =>
      let (breaks, c) := blockBreaks indent bound c
      (b :: breaks, c)

/-- The text of a block scalar from a line on, the line ends before which are `breaks`. -/
def blockLines (folded : Bool) (keep : Option Bool) (indent : Nat) :
    (bound : Nat) → (lineBreak breaks : List Char) → Cursor → List Char × Cursor
  | 0, _, _, c => ([], c)
  | bound + 1, lineBreak, breaks, c =>
    if c.column = indent && !c.rest.isEmpty then
      let wide := startsWith (fun ch => ch = ' ' || ch = '\t') c.rest
      let (line, c) := c.takeWhile (!isBreak ·)
      let (ended, c) := match c.lineBreak? with
        | none => ([], c)
        | some (b, c) => ([b], c)
      let (next, c) := blockBreaks indent (c.rest.length + 1) c
      let joint :=
        if c.column = indent && !c.rest.isEmpty then
          if folded && ended = ['\n'] && !wide && !startsWith (fun ch => ch = ' ' || ch = '\t') c.rest then
            (if next.isEmpty then [' '] else [])
          else ended
        else []
      let (more, c) := blockLines folded keep indent bound ended next c
      (breaks ++ line ++ joint ++ more, c)
    else
      ((if keep = some false then [] else lineBreak) ++ (if keep = some true then breaks else []), c)

/-- A block scalar from its indicator on, in a collection that is indented by `indent`. -/
def blockScalar (folded : Bool) (indent : Int) (c : Cursor) : Except Fault (String × Cursor) := do
  let (header, c) ← blockHeader c.next
  let least := max (indent + 1) 1
  let (breaks, column, c) := match header.increment with
    | none =>
      let (breaks, greatest, c) := blockIndentation (c.rest.length + 1) 0 c
      (breaks, max least.toNat greatest, c)
    | some n =>
      let column := least.toNat + n - 1
      let (breaks, c) := blockBreaks column (c.rest.length + 1) c
      (breaks, column, c)
  let (text, c) := blockLines folded header.keep column (c.rest.length + 1) [] breaks c
  return (String.ofList text, c)

end ManifestGrading.Yaml
