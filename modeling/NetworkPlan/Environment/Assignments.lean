import NetworkPlan.Environment.Basic
import NetworkPlan.Text.Alphanumeric
import NetworkPlan.Text.Splitting

/-!
# Files of assignments

A file can set variables that are not set yet, one to a line: a name, an equals sign and a
value. A value may be quoted in part, and outside single quotes `$name` stands for the value of
a variable. The first line that cannot be read ends the file; what stands before it counts.
-/

namespace NetworkPlan

namespace Assignment

/-- Where the reader of a value is. The flag of a mode tells whether it was entered between
double quotes. -/
inductive Mode where
  | plain
  | singleQuoted
  | doubleQuoted
  /-- After a backslash. -/
  | escape (quoted : Bool)
  /-- After a dollar sign and the first characters of a name. -/
  | name (quoted : Bool) (start : List Char)
  /-- The same where the name stands in braces. -/
  | bracedName (quoted : Bool) (start : List Char)
  /-- After the value: only blanks and a comment may follow. -/
  | finished

/-- The mode outside escapes and names. -/
def Mode.base (quoted : Bool) : Mode :=
  if quoted then .doubleQuoted else .plain

/-- The character that an escaped character stands for. -/
def escaped? (c : Char) : Option Char :=
  if c = 'n' then some '\n'
  else if ['\\', '\'', '"', '$', ' '].contains c then some c
  else none

/-- A blank that ends a value. -/
def isGap (c : Char) : Bool :=
  c = ' ' || c = '\t'

/-- The value of a variable as characters; nothing if it is not set. -/
def valueOf (env : Environment) (name : List Char) : List Char :=
  ((env.get? (String.ofList name)).getD "").toList

/-- Reads a value; `none` if it is malformed. A character that ends the name of a variable
stands for itself, even if it is a quote. -/
def readValue (env : Environment) : Mode → List Char → Option (List Char)
  | .plain, [] => some []
  | .plain, c :: cs =>
      if c = '$' then readValue env (.name false []) cs
      else if c = '\'' then readValue env .singleQuoted cs
      else if c = '"' then readValue env .doubleQuoted cs
      else if c = '\\' then readValue env (.escape false) cs
      else if isGap c then readValue env .finished cs
      else (readValue env .plain cs).map (c :: ·)
  | .singleQuoted, [] => none
  | .singleQuoted, c :: cs =>
      if c = '\'' then readValue env .plain cs
      else (readValue env .singleQuoted cs).map (c :: ·)
  | .doubleQuoted, [] => none
  | .doubleQuoted, c :: cs =>
      if c = '$' then readValue env (.name true []) cs
      else if c = '"' then readValue env .plain cs
      else if c = '\\' then readValue env (.escape true) cs
      else (readValue env .doubleQuoted cs).map (c :: ·)
  | .escape quoted, [] => if quoted then none else some []
  | .escape quoted, c :: cs =>
      match escaped? c with
      | some c => (readValue env (.base quoted) cs).map (c :: ·)
      | none => none
  | .name quoted start, [] => if quoted then none else some (valueOf env start)
  | .name quoted start, c :: cs =>
      if Text.isAlphanumeric c then readValue env (.name quoted (start ++ [c])) cs
      else if c = '{' && start.isEmpty then readValue env (.bracedName quoted []) cs
      else if c = '$' then (readValue env (.name quoted []) cs).map (valueOf env start ++ ·)
      else (readValue env (.base quoted) cs).map (valueOf env start ++ c :: ·)
  | .bracedName _ _, [] => none
  | .bracedName quoted start, c :: cs =>
      if c = '}' then (readValue env (.base quoted) cs).map (valueOf env start ++ ·)
      else readValue env (.bracedName quoted (start ++ [c])) cs
  | .finished, [] => some []
  | .finished, c :: cs =>
      if isGap c then readValue env .finished cs
      else if c = '#' then some []
      else none

/-!
## Lines
-/

def startsName (c : Char) : Bool :=
  c.isAlpha || c = '_'

def continuesName (c : Char) : Bool :=
  c.isAlphanum || c = '_' || c = '.'

/-- A name and what follows it and the blanks after it. -/
def readName (cs : List Char) : Option (List Char × List Char) :=
  if cs.head?.any startsName then
    some (cs.takeWhile continuesName, (cs.dropWhile continuesName).dropWhile Text.isBlank)
  else none

/-- What follows an equals sign and the blanks after it. -/
def afterEquals : List Char → Option (List Char)
  | '=' :: cs => some (cs.dropWhile Text.isBlank)
  | _ => none

/-- Nothing, or a comment. -/
def isRemark (cs : List Char) : Bool :=
  cs.head?.all (· = '#')

/-- Reads a line without blanks at its ends. The word `export` may stand before the name. -/
def readAssignment (env : Environment) (cs : List Char) : Option (String × String) := do
  let (first, rest) ← readName cs
  let (name, rest) ←
    match afterEquals rest with
    | some rest => some (first, rest)
    | none =>
        if first = "export".toList then
          (readName rest).bind fun (name, rest) => (afterEquals rest).map (name, ·)
        else none
  let value ← if isRemark rest then some [] else readValue env .plain rest
  return (String.ofList name, String.ofList value)

/-- The names after dollar signs, in braces or not. -/
def namesUsed : List Char → List (List Char)
  | [] => []
  | c :: cs =>
      if c = '$' then
        (if cs.head? = some '{' then cs.tail.takeWhile (· ≠ '}')
          else cs.takeWhile Text.isAlphanumeric) :: namesUsed cs
      else namesUsed cs

/-- The variables whose values can matter to a line: those it may set and those it uses. -/
def variablesIn (line : String) : List String :=
  let cs := Text.trimChars line.toList
  let set :=
    match readName cs with
    | some (first, rest) => first :: ((readName rest).map (·.1)).toList
    | none => []
  (set ++ namesUsed cs).map String.ofList

/-- The lines of a file, up to the first that is not text. -/
def lines (bytes : ByteArray) : List String :=
  (((Text.splitAll 10 bytes.toList).map fun line => String.fromUTF8? ⟨line.toArray⟩).takeWhile
    Option.isSome).filterMap id

end Assignment

namespace Environment

/-- Gives a variable a value unless it has one. -/
def offer (env : Environment) (name value : String) : Environment :=
  if (env.get? name).isSome then env else Entries.put name value env

/-- Takes over assignments line by line, up to the first line that cannot be read. -/
def assign (env : Environment) : List String → Environment
  | [] => env
  | line :: rest =>
      let cs := Text.trimChars line.toList
      if Assignment.isRemark cs then assign env rest
      else
        match Assignment.readAssignment env cs with
        | some (name, value) => assign (env.offer name value) rest
        | none => env

end Environment
end NetworkPlan
