import ManifestGrading.Text.Digit
import ManifestGrading.Text.Quoted

/-! The arguments of a command. Flags start with a hyphen, may be cut short as long as they stay unambiguous,
and may have a value in the next argument or behind an equals sign. The arguments in between that are no
flags are taken by the positional argument of the command, all at one place; what nothing takes is left
over. Behind a double hyphen no argument is a flag. A double hyphen is no value either: a flag that is joined
to one has its value left out. -/

namespace ManifestGrading

namespace CommandLine

/-- A flag by its names, of which the first is the one in messages on its own. -/
structure Flag where
  names : List String
  takesValue : Bool
  deriving Repr, DecidableEq

/-- How a flag is called in messages. -/
def Flag.title (f : Flag) : String := "/".intercalate f.names

/-- How many arguments the positional argument of a command takes: one, at least one, or one and everything
behind it. -/
inductive Extent where
  | one
  | many
  | rest
  deriving Repr, DecidableEq

inductive Problem where
  | missingValue
  | ignoredValue (text : String)
  | invalidValue (type text : String)
  | invalidChoice (text : String) (choices : List String)
  deriving Repr, DecidableEq

/-- What is wrong with the arguments of a command. -/
inductive UsageFault where
  | ambiguous (argument : String) (candidates : List String)
  | argument (title : String) (problem : Problem)
  | required (title : String)
  | unrecognized (arguments : List String)
  deriving Repr, DecidableEq

def Problem.message : Problem → String
  | .missingValue => "expected one argument"
  | .ignoredValue text => "ignored explicit argument " ++ Text.quoted text
  | .invalidValue type text => "invalid " ++ type ++ " value: " ++ Text.quoted text
  | .invalidChoice text choices =>
    "invalid choice: " ++ Text.quoted text ++ " (choose from " ++ ", ".intercalate (choices.map Text.quoted) ++ ")"

def UsageFault.message : UsageFault → String
  | .ambiguous given candidates =>
    "ambiguous option: " ++ given ++ " could match " ++ ", ".intercalate candidates
  | .argument title problem => "argument " ++ title ++ ": " ++ problem.message
  | .required title => "the following arguments are required: " ++ title
  | .unrecognized left => "unrecognized arguments: " ++ " ".intercalate left

/-- What an argument is by its look: a plain one, the double hyphen, a flag with the text that is joined to it, or no
known flag. -/
inductive Look where
  | plain
  | divider
  | flag (f : Flag) (joined : Option String)
  | unknown
  deriving Repr, DecidableEq

def namesOf (flags : List Flag) : List (String × Flag) := flags.flatMap fun f => f.names.map fun n => (n, f)

/-- The parts of an argument before and behind its first equals sign. -/
def splitAtSign (argument : String) : String × Option String :=
  let cs := argument.toList
  match cs.dropWhile (· != '=') with
  | [] => (argument, none)
  | _ :: behind => (String.ofList (cs.takeWhile (· != '=')), some (String.ofList behind))

/-- Whether an argument is a negative number by its look, which makes it a plain one. -/
def isNegativeNumber (argument : String) : Bool :=
  match argument.toList with
  | '-' :: cs =>
    let cs := if cs.getLast? = some '\n' then cs.dropLast else cs
    match cs.dropWhile Text.isDecimalDigit with
    | [] => !cs.isEmpty
    | '.' :: fraction => !fraction.isEmpty && fraction.all Text.isDecimalDigit
    | _ => false
  | _ => false

/-- The flags that an argument may be short for, by the names that complete it. A single letter behind a
single hyphen may have its value directly behind it. -/
def completions (flags : List Flag) (argument : String) : List (String × Flag × Option String) :=
  let named := namesOf flags
  if argument.toList.take 2 = ['-', '-'] then
    let (start, joined) := splitAtSign argument
    (named.filter fun n => start.toList.isPrefixOf n.1.toList).map fun n => (n.1, n.2, joined)
  else
    named.filterMap fun n =>
      if n.1.toList = argument.toList.take 2 then
        some (n.1, n.2, some (String.ofList (argument.toList.drop 2)))
      else if argument.toList.isPrefixOf n.1.toList then some (n.1, n.2, none)
      else none

/-- What an argument is by its look. -/
def lookOf (flags : List Flag) (argument : String) : Except UsageFault Look :=
  if argument.toList.head? != some '-' then .ok .plain
  else match (namesOf flags).lookup argument with
    | some f => .ok (.flag f none)
    | none =>
      if argument = "-" then .ok .plain
      else
        let (start, joined) := splitAtSign argument
        match joined, (namesOf flags).lookup start with
        | some joined, some f => .ok (.flag f (some joined))
        | _, _ =>
          match completions flags argument with
          | [(_, f, joined)] => .ok (.flag f joined)
          | [] =>
            if isNegativeNumber argument || argument.toList.contains ' ' then .ok .plain else .ok .unknown
          | found => .error (.ambiguous argument (found.map Prod.fst))

abbrev Items := List (String × Look)

/-- What all arguments are by their looks. -/
def looksOf (flags : List Flag) : List String → Except UsageFault Items
  | [] => .ok []
  | argument :: rest =>
    if argument = "--" then .ok ((argument, .divider) :: rest.map fun a => (a, .plain))
    else do
      let look ← lookOf flags argument
      return (argument, look) :: (← looksOf flags rest)

namespace Look

/-- An argument that is no flag. -/
def isPlain : Look → Bool
  | plain => true
  | _ => false

def isDivider : Look → Bool
  | divider => true
  | _ => false

/-- An argument that takes part in a positional argument. -/
def isOperand (l : Look) : Bool := l.isPlain || l.isDivider

end Look

/-- How many arguments at the start of several belong to a positional argument; none if too few. -/
def operandCount (extent : Extent) (items : Items) : Nat :=
  let before := (items.takeWhile fun i => i.2.isDivider).length
  let behind := items.drop before
  if behind.head?.any fun i => i.2.isPlain then
    match extent with
    | .one => before + 1 + ((behind.drop 1).takeWhile fun i => i.2.isDivider).length
    | .many => before + (behind.takeWhile fun i => i.2.isOperand).length
    | .rest => items.length
  else 0

/-- What arguments ask for, one thing after the other. A flag has no value if it takes none, or if its value is left
out. -/
inductive Event where
  | flag (f : Flag) (value : Option String)
  | operands (arguments : List String)
  deriving Repr, DecidableEq

/-- What arguments ask for, what is left over, and what ended the reading early. -/
structure Parsed where
  events : List Event := []
  extras : List String := []
  fault : Option UsageFault := none

namespace Parsed

/-- An event before others. -/
def andThen (e : Event) (p : Parsed) : Parsed := { p with events := e :: p.events }

/-- Arguments that are left over before others. -/
def leave (arguments : List String) (p : Parsed) : Parsed := { p with extras := arguments ++ p.extras }

def stop (fault : UsageFault) : Parsed := { fault := some fault }

end Parsed

/-- The arguments that a positional argument takes; the first double hyphen is no part of them unless the
positional argument takes everything. -/
def operandsOf (extent : Extent) (items : Items) : List String :=
  let arguments := items.map Prod.fst
  if extent = .rest then arguments else arguments.erase "--"

/-- The value that a text joined to a flag is; a double hyphen leaves the value out. -/
def joinedValue (joined : String) : Option String := if joined = "--" then none else some joined

/-- The flags without values whose letters are written behind each other: `f`, and those that the text joined to it
consists of. Without a known letter in front, what is left of the text has no use. -/
def letters (flags : List Flag) (f : Flag) : List Char → Except UsageFault (List Flag)
  | [] => .ok [f]
  | c :: rest =>
    match (namesOf flags).lookup (String.ofList ['-', c]) with
    | some g => (letters flags g rest).map (f :: ·)
    | none => .error (.argument f.title (.ignoredValue (String.ofList (c :: rest))))

/-- The flags without values that an argument calls: one by its whole name, which leaves no use for a text that is
joined to it, or one by its letter with others behind it. -/
def flagsCalled (flags : List Flag) (argument : String) (f : Flag) (joined : String) :
    Except UsageFault (List Flag) :=
  if argument.toList.take 2 = ['-', '-'] || joined = "" then .error (.argument f.title (.ignoredValue joined))
  else letters flags f joined.toList

/-- The reading of arguments; `extent` is that of the positional argument while it is missing. -/
def readItems (flags : List Flag) : (bound : Nat) → (extent : Option Extent) → Items → Parsed
  | 0, _, items => { extras := items.map Prod.fst }
  | _ + 1, _, [] => {}
  | bound + 1, extent, (argument, look) :: rest =>
    let items := (argument, look) :: rest
    match look with
    | .unknown => (readItems flags bound extent rest).leave [argument]
    | .flag f none =>
      if f.takesValue then
        match rest with
        | (value, .plain) :: rest => (readItems flags bound extent rest).andThen (.flag f (some value))
        | _ => .stop (.argument f.title .missingValue)
      else (readItems flags bound extent rest).andThen (.flag f none)
    | .flag f (some joined) =>
      if f.takesValue then (readItems flags bound extent rest).andThen (.flag f (joinedValue joined))
      else match flagsCalled flags argument f joined with
        | .error fault => .stop fault
        | .ok found => found.foldr (fun g p => p.andThen (.flag g none)) (readItems flags bound extent rest)
    | _ =>
      let count := (extent.map fun e => operandCount e items).getD 0
      match extent, count with
      | some e, count + 1 =>
        (readItems flags bound none (items.drop (count + 1))).andThen
          (.operands (operandsOf e (items.take (count + 1))))
      | _, _ =>
        let left := items.takeWhile fun i => i.2.isOperand
        (readItems flags bound extent (items.drop left.length)).leave (left.map Prod.fst)

/-- What the arguments of a command with some flags and one positional argument ask for. -/
def parse (flags : List Flag) (extent : Extent) (arguments : List String) : Parsed :=
  match looksOf flags arguments with
  | .error fault => .stop fault
  | .ok items => readItems flags (items.length + 1) (some extent) items

end CommandLine

end ManifestGrading
