/-! A stable sort whose comparisons may fail. It makes the fewest assumptions about the order: every comparison
asks whether one value lies below another, in a fixed sequence, so the first one that fails is known.
Ascending and strictly descending runs are found from left to right, short ones are lengthened by insertion,
and runs are merged in the order of the powers of their boundaries, by steps while the runs alternate and
by strides once one of them wins again and again. -/

namespace ManifestGrading.Sorting

variable {α ε : Type}

/-- A comparison: whether the first value lies below the second. -/
abbrev Less (α ε : Type) := α → α → Except ε Bool

/-- The number of values at the start of a list that pass a test, sought between `low` and `low + width`. -/
def bisect [Inhabited α] (test : α → Except ε Bool) (values : Array α) (low : Nat) :
    (bound width : Nat) → Except ε Nat
  | 0, _ => .ok low
  | bound + 1, width =>
    if width = 0 then .ok low
    else do
      let half := width / 2
      if ← test (values.getD (low + half) default) then bisect test values (low + half + 1) bound (width - half - 1)
      else bisect test values low bound half

/-- Strides of growing width that stay below `limit` and pass a test: the last stride that passes, and the
one that ends the search. -/
def stride (test : Nat → Except ε Bool) (limit : Nat) :
    (bound last next : Nat) → Except ε (Nat × Nat)
  | 0, last, next => .ok (last, min next limit)
  | bound + 1, last, next =>
    if next < limit then do
      if ← test next then stride test limit bound next (2 * next + 1) else return (last, next)
    else .ok (last, limit)

/-- The number of values at the start of a list that pass a test, sought by strides from the place `hint`. -/
def gallop [Inhabited α] (test : α → Except ε Bool) (values : Array α) (hint : Nat) : Except ε Nat := do
  let valueAt (i : Nat) : α := values.getD i default
  if ← test (valueAt hint) then
    let (last, next) ← stride (fun n => test (valueAt (hint + n))) (values.size - hint) values.size 0 1
    bisect test values (hint + last + 1) values.size (next - last - 1)
  else
    let (last, next) ← stride (fun n => (test (valueAt (hint - n))).map not) (hint + 1) values.size 0 1
    bisect test values (hint + 1 - next) values.size (next - last - 1)

/-- The number of values at the start of a sorted list that a value does not lie below. -/
def placeBehind [Inhabited α] (less : Less α ε) (v : α) (values : List α) (hint : Nat) : Except ε Nat :=
  gallop (fun w => (less v w).map not) values.toArray hint

/-- The number of values at the start of a sorted list that lie below a value. -/
def placeBefore [Inhabited α] (less : Less α ε) (v : α) (values : List α) (hint : Nat) : Except ε Nat :=
  gallop (fun w => less w v) values.toArray hint

/-- A run of sorted values at the start of a list, and the rest. -/
structure Run (α : Type) where
  values : List α
  rest : List α

/-- The values that go on as they are said to, falling or not, behind the value `before`, and the rest. -/
def follow (less : Less α ε) (falling : Bool) (before : α) : List α → Except ε (Run α)
  | [] => .ok ⟨[], []⟩
  | v :: rest => do
    if (← less v before) = falling then
      let run ← follow less falling v rest
      return { run with values := v :: run.values }
    else return ⟨[], v :: rest⟩

/-- The run at the start of a list; one that falls strictly is turned around. -/
def firstRun (less : Less α ε) : List α → Except ε (Run α)
  | u :: v :: rest => do
    let falling ← less v u
    let run ← follow less falling v rest
    return if falling then ⟨run.values.reverse ++ [v, u], run.rest⟩ else ⟨u :: v :: run.values, run.rest⟩
  | values => .ok ⟨values, []⟩

/-- A sorted list with further values, each inserted behind those that it does not lie below. -/
def insertAll [Inhabited α] (less : Less α ε) (sorted : List α) : List α → Except ε (List α)
  | [] => .ok sorted
  | v :: rest => do
    let place ← bisect (fun w => (less v w).map not) sorted.toArray 0 (sorted.length + 1) sorted.length
    insertAll less (sorted.take place ++ v :: sorted.drop place) rest

/-- The least length of a run, for a list with `length` values. The bound exceeds the digits of the length. -/
def leastRun : (bound : Nat) → (odd : Bool) → (length : Nat) → Nat
  | 0, _, length => length
  | bound + 1, odd, length =>
    if 64 ≤ length then leastRun bound (odd || length % 2 = 1) (length / 2) else length + (if odd then 1 else 0)

/-- How a merge goes on: by steps, after so many that the left and the right run won in a row, or by strides. -/
inductive Pace where
  | steps (left right : Nat)
  | strides (again : Bool)

/-- The number of wins in a row that makes strides worth trying at first. -/
def patience : Nat := 7

/-- Merged values, and the patience that is left. -/
abbrev Merged (α : Type) := List α × Nat

/-- The patience within strides: it shrinks while they go on. -/
def shrunk (patience : Nat) (again : Bool) : Nat := if again && 1 < patience then patience - 1 else patience

/-- Two runs merged from their starts; `done` holds what is merged, the last value first. The left run keeps
one value to the end. -/
def mergeForward [Inhabited α] (less : Less α ε) :
    (bound patience : Nat) → Pace → (done left right : List α) → Except ε (Merged α)
  | 0, patience, _, done, left, right => .ok (done.reverse ++ left ++ right, patience)
  | bound + 1, patience, pace, done, left, right =>
    match left, right with
    | [], right => .ok (done.reverse ++ right, patience)
    | left, [] => .ok (done.reverse ++ left, patience)
    | [last], right => .ok (done.reverse ++ right ++ [last], patience)
    | a :: moreLeft, b :: moreRight =>
      match pace with
      | .steps i j => do
        if ← less b a then
          let pace := if patience ≤ j + 1 then .strides false else .steps 0 (j + 1)
          mergeForward less bound patience pace (b :: done) left moreRight
        else
          let pace := if patience ≤ i + 1 then .strides false else .steps (i + 1) 0
          mergeForward less bound patience pace (a :: done) moreLeft right
      | .strides again => do
        let patience := shrunk patience again
        let i ← placeBehind less b left 0
        let done := (left.take i).reverse ++ done
        match left.drop i with
        | [] => return (done.reverse ++ right, patience)
        | a :: moreLeft =>
          if i != 0 && moreLeft.isEmpty then return (done.reverse ++ right ++ [a], patience)
          let done := b :: done
          if moreRight.isEmpty then return (done.reverse ++ a :: moreLeft, patience)
          let j ← placeBefore less a moreRight 0
          let done := (moreRight.take j).reverse ++ done
          let right := moreRight.drop j
          if right.isEmpty then return (done.reverse ++ a :: moreLeft, patience)
          if let [last] := moreLeft then return ((a :: done).reverse ++ right ++ [last], patience)
          if Sorting.patience ≤ i || Sorting.patience ≤ j then
            mergeForward less bound patience (.strides true) (a :: done) moreLeft right
          else mergeForward less bound (patience + 1) (.steps 0 0) (a :: done) moreLeft right

/-- Two runs merged from their ends, which come first in `left` and `right`; `done` holds what is merged. The
right run keeps one value to the end. -/
def mergeBackward [Inhabited α] (less : Less α ε) :
    (bound patience : Nat) → Pace → (done left right : List α) → Except ε (Merged α)
  | 0, patience, _, done, left, right => .ok (left.reverse ++ right.reverse ++ done, patience)
  | bound + 1, patience, pace, done, left, right =>
    match left, right with
    | left, [] => .ok (left.reverse ++ done, patience)
    | [], right => .ok (right.reverse ++ done, patience)
    | left, [first] => .ok (first :: left.reverse ++ done, patience)
    | a :: moreLeft, b :: moreRight =>
      match pace with
      | .steps i j => do
        if ← less b a then
          let pace := if patience ≤ i + 1 then .strides false else .steps (i + 1) 0
          mergeBackward less bound patience pace (a :: done) moreLeft right
        else
          let pace := if patience ≤ j + 1 then .strides false else .steps 0 (j + 1)
          mergeBackward less bound patience pace (b :: done) left moreRight
      | .strides again => do
        let patience := shrunk patience again
        let i := left.length - (← placeBehind less b left.reverse (left.length - 1))
        let done := (left.take i).reverse ++ done
        let left := left.drop i
        match left with
        | [] => return (right.reverse ++ done, patience)
        | a :: moreLeft =>
          let done := b :: done
          match moreRight with
          | [first] => return (first :: left.reverse ++ done, patience)
          | right =>
            let j := right.length - (← placeBefore less a right.reverse (right.length - 1))
            let done := (right.take j).reverse ++ done
            match right.drop j with
            | [] => return (left.reverse ++ done, patience)
            | b :: moreRight =>
              if j != 0 && moreRight.isEmpty then return (b :: left.reverse ++ done, patience)
              if moreLeft.isEmpty then return ((b :: moreRight).reverse ++ a :: done, patience)
              let pace := if Sorting.patience ≤ i || Sorting.patience ≤ j then .strides true else .steps 0 0
              let patience := if Sorting.patience ≤ i || Sorting.patience ≤ j then patience else patience + 1
              mergeBackward less bound patience pace (a :: done) moreLeft (b :: moreRight)

/-- Two runs merged. What is in its place already at either end stays there. -/
def merge [Inhabited α] (less : Less α ε) (patience : Nat) (left right : List α) : Except ε (Merged α) :=
  match right with
  | [] => .ok (left, patience)
  | b :: moreRight => do
    let kept ← placeBehind less b left 0
    let before := left.take kept
    let left := left.drop kept
    match left.getLast? with
    | none => return (before ++ right, patience)
    | some a =>
      let length ← placeBefore less a right (right.length - 1)
      if length = 0 then return (before ++ left ++ right, patience)
      let behind := right.drop length
      let right := right.take length
      let bound := left.length + right.length
      let (middle, patience) ←
        if left.length ≤ right.length then
          mergeForward less bound patience (.steps 0 0) [b] left (moreRight.take (length - 1))
        else mergeBackward less bound patience (.steps 0 0) [a] (left.reverse.drop 1) right.reverse
      return (before ++ middle ++ behind, patience)

/-- A run that waits to be merged: its values, where it starts, and the power of the boundary behind it. -/
structure Waiting (α : Type) where
  values : List α
  start : Nat
  power : Nat

/-- The power of the boundary between two runs of a list with `length` values: the first binary digit in which
their middles differ, as fractions of the length. `a` and `b` are twice the middles. -/
def powerOf (length : Nat) : (bound a b : Nat) → Nat
  | 0, _, _ => 0
  | bound + 1, a, b =>
    if length ≤ a then powerOf length bound (2 * (a - length)) (2 * (b - length)) + 1
    else if length ≤ b then 1
    else powerOf length bound (2 * a) (2 * b) + 1

def join [Inhabited α] (less : Less α ε) (patience : Nat) (left right : Waiting α) :
    Except ε (Waiting α × Nat) := do
  let (values, patience) ← merge less patience left.values right.values
  return (⟨values, left.start, left.power⟩, patience)

/-- Waiting runs, the last one first, after those before a boundary of some power are merged. -/
def settle [Inhabited α] (less : Less α ε) (power : Nat) :
    (bound patience : Nat) → List (Waiting α) → Except ε (List (Waiting α) × Nat)
  | bound + 1, patience, right :: left :: more => do
    if power < left.power then
      let (joined, patience) ← join less patience left right
      settle less power bound patience (joined :: more)
    else return (right :: left :: more, patience)
  | _, patience, runs => .ok (runs, patience)

/-- Waiting runs, the last one first, merged to one. -/
def collapse [Inhabited α] (less : Less α ε) : (bound patience : Nat) → List (Waiting α) → Except ε (List α)
  | bound + 1, patience, last :: right :: left :: more => do
    if left.values.length < last.values.length then
      let (joined, patience) ← join less patience left right
      collapse less bound patience (last :: joined :: more)
    else
      let (joined, patience) ← join less patience right last
      collapse less bound patience (joined :: left :: more)
  | bound + 1, patience, [right, left] => do
    let (joined, patience) ← join less patience left right
    collapse less bound patience [joined]
  | _, _, runs => .ok (runs.reverse.flatMap Waiting.values)

/-- The runs of the values that are left, which start at `start`, merged with those that wait. -/
def sortRuns [Inhabited α] (less : Less α ε) (least length : Nat) :
    (bound patience start : Nat) → List (Waiting α) → List α → Except ε (List α)
  | 0, patience, _, waiting, _ => collapse less waiting.length patience waiting
  | _ + 1, patience, _, waiting, [] => collapse less waiting.length patience waiting
  | bound + 1, patience, start, waiting, values => do
    let run ← firstRun less values
    let missing := least - run.values.length
    let sorted ← insertAll less run.values (run.rest.take missing)
    let rest := run.rest.drop missing
    let (waiting, patience) ← match waiting with
      | [] => pure ([], patience)
      | last :: more => do
        let a := 2 * last.start + last.values.length
        let power := powerOf length (length + 1) a (a + last.values.length + sorted.length)
        let (waiting, patience) ← settle less power (more.length + 1) patience (last :: more)
        pure (match waiting with
          | [] => []
          | last :: more => { last with power := power } :: more, patience)
    sortRuns less least length bound patience (start + sorted.length) (⟨sorted, start, 0⟩ :: waiting) rest

def sort [Inhabited α] (less : Less α ε) (values : List α) : Except ε (List α) :=
  let length := values.length
  if length < 2 then .ok values
  else sortRuns less (leastRun length false length) length length patience 0 [] values

end ManifestGrading.Sorting
