import NetworkPlan.Json.Draft
import NetworkPlan.Json.Literal

/-!
# Reading JSON texts

Every function takes the characters still to be read and gives back what it read together with
the characters after it; `none` in place of those means that reading broke off. Values nest, so
the recursion is on a number of steps that the text's length bounds.
-/

namespace NetworkPlan
namespace Json

/-- The blanks that may stand between the tokens of a JSON text. -/
def isSpace (c : Char) : Bool :=
  c = ' ' || c = '\n' || c = '\t' || c = '\r'

def skipSpace (cs : List Char) : List Char :=
  cs.dropWhile isSpace

/-- Reads the rest of a word such as `null`. -/
def readWord : List Char → List Char → Except SyntaxError (List Char)
  | [], cs => .ok cs
  | _ :: _, [] => .error .endInValue
  | e :: expected, c :: cs => if e = c then readWord expected cs else .error .expectedWord

/-!
## Strings
-/

/-- The value of four hexadecimal digits. -/
def hexValue? (digits : List Char) : Option Nat :=
  digits.foldl (fun n? c => do
    let n ← n?
    if c.isDigit then some (16 * n + (c.toNat - '0'.toNat))
    else if 'a' ≤ c && c ≤ 'f' then some (16 * n + (c.toNat - 'a'.toNat + 10))
    else if 'A' ≤ c && c ≤ 'F' then some (16 * n + (c.toNat - 'A'.toNat + 10))
    else none) (some 0)

/-- The fault where fewer than four characters follow `\u`: the text ends, unless the characters
take four bytes. -/
def shortEscape (cs : List Char) : SyntaxError :=
  if (String.ofList cs).utf8ByteSize < 4 then .endInString else .invalidEscape

/-- The character that an escape of one character stands for. -/
def simpleEscape? : Char → Option Char
  | '"' => some '"'
  | '\\' => some '\\'
  | '/' => some '/'
  | 'b' => some '\x08'
  | 'f' => some '\x0c'
  | 'n' => some '\n'
  | 'r' => some '\r'
  | 't' => some '\t'
  | _ => none

def isLeadingSurrogate (n : Nat) : Bool := 0xD800 ≤ n && n ≤ 0xDBFF

def isTrailingSurrogate (n : Nat) : Bool := 0xDC00 ≤ n && n ≤ 0xDFFF

/-- The code point of a surrogate pair. -/
def surrogatePair (leading trailing : Nat) : Nat :=
  (leading - 0xD800) * 0x400 + (trailing - 0xDC00) + 0x10000

/-- Puts a character before a string that was read. -/
def prepend (c : Char) (r : Except SyntaxError (List Char × List Char)) :
    Except SyntaxError (List Char × List Char) :=
  r.map fun (s, rest) => (c :: s, rest)

/-- Reads a string for its value, from after the opening quote. -/
def unquote : List Char → Except SyntaxError (List Char × List Char)
  | [] => .error .endInString
  | '"' :: rest => .ok ([], rest)
  | ['\\'] => .error .endInString
  | '\\' :: 'u' :: a :: b :: c :: d :: rest =>
      match hexValue? [a, b, c, d] with
      | none => .error .invalidEscape
      | some n =>
          if isTrailingSurrogate n then .error .loneSurrogate
          else if isLeadingSurrogate n then
            match rest with
            | '\\' :: 'u' :: a :: b :: c :: d :: rest =>
                match hexValue? [a, b, c, d] with
                | none => .error .invalidEscape
                | some m =>
                    if isTrailingSurrogate m then
                      prepend (Char.ofNat (surrogatePair n m)) (unquote rest)
                    else .error .loneSurrogate
            | '\\' :: 'u' :: short => .error (shortEscape short)
            | [] => .error .endInString
            | ['\\'] => .error .endInString
            | _ => .error .unfinishedPair
          else prepend (Char.ofNat n) (unquote rest)
  | '\\' :: 'u' :: short => .error (shortEscape short)
  | '\\' :: c :: rest =>
      match simpleEscape? c with
      | some x => prepend x (unquote rest)
      | none => .error .invalidEscape
  | c :: rest =>
      if c.toNat < 0x20 then .error .controlCharacter else prepend c (unquote rest)

/-- Skips a string, from after the opening quote. -/
def skipString : List Char → Except SyntaxError (List Char)
  | [] => .error .endInString
  | '"' :: rest => .ok rest
  | ['\\'] => .error .endInString
  | '\\' :: 'u' :: a :: b :: c :: d :: rest =>
      if (hexValue? [a, b, c, d]).isSome then skipString rest else .error .invalidEscape
  | '\\' :: 'u' :: short => .error (shortEscape short)
  | '\\' :: c :: rest =>
      if (simpleEscape? c).isSome then skipString rest else .error .invalidEscape
  | c :: rest => if c.toNat < 0x20 then .error .controlCharacter else skipString rest

/-- The value of a string, from after the opening quote, for its user. -/
def stringValue (cs : List Char) : Except SyntaxError String :=
  (unquote cs).map fun (s, _) => String.ofList s

/-- The fault of a string that cannot even be skipped. -/
def stringFault (cs : List Char) (skipped : SyntaxError) : Fault :=
  match unquote cs with
  | .error used => ⟨used, skipped⟩
  | .ok _ => .plain skipped

/-!
## Numbers
-/

/-- The fault where a digit is due. -/
def digitFault (cs : List Char) : Fault :=
  if cs.isEmpty then ⟨.endInValue, .invalidNumber⟩ else .plain .invalidNumber

/-- Reads the digits before the point: a zero, or digits that do not start with one. -/
def readWhole : List Char → Except Fault (List Char × List Char)
  | '0' :: rest =>
      if (rest.head?.map Char.isDigit).getD false then .error (.plain .invalidNumber)
      else .ok (['0'], rest)
  | cs =>
      let digits := cs.takeWhile Char.isDigit
      if digits.isEmpty then .error (digitFault cs)
      else .ok (digits, cs.dropWhile Char.isDigit)

/-- Reads one or more digits. -/
def readDigits (cs : List Char) : Except Fault (List Char × List Char) :=
  let digits := cs.takeWhile Char.isDigit
  if digits.isEmpty then .error (digitFault cs)
  else .ok (digits, cs.dropWhile Char.isDigit)

/-- Reads the digits after the point, if there is one. -/
def readFraction : List Char → Except Fault (Option (List Char) × List Char)
  | '.' :: rest => (readDigits rest).map fun (digits, rest) => (some digits, rest)
  | cs => .ok (none, cs)

/-- Reads the exponent, if there is one. -/
def readExponent : List Char → Except Fault (Option (Bool × List Char) × List Char)
  | e :: rest =>
      if e = 'e' || e = 'E' then
        let (negative, rest) :=
          match rest with
          | '+' :: rest => (false, rest)
          | '-' :: rest => (true, rest)
          | rest => (false, rest)
        (readDigits rest).map fun (digits, rest) => (some (negative, digits), rest)
      else .ok (none, e :: rest)
  | [] => .ok (none, [])

/-- Reads a number. -/
def readLiteral (cs : List Char) : Except Fault (Literal × List Char) := do
  let (negative, cs) :=
    match cs with
    | '-' :: rest => (true, rest)
    | cs => (false, cs)
  let (whole, cs) ← readWhole cs
  let (fraction, cs) ← readFraction cs
  let (exponent, cs) ← readExponent cs
  return (⟨negative, whole, fraction, exponent⟩, cs)

/-!
## Values
-/

/-- The number of containers that may stand inside each other in a value that is used. -/
def depthLimit : Nat := 127

/-- Reads a word from after its first character; `d` is the draft of the whole word. -/
def wordDraft (d : Draft) (start : Char) (expected rest : List Char) :
    Draft × Option (List Char) :=
  match readWord expected rest with
  | .ok after => (d, some after)
  | .error e => (.broken (some start) (.plain e), none)

mutual

/-- Reads a value inside `depth` containers. -/
def readValue : Nat → Nat → List Char → Draft × Option (List Char)
  | 0, _, _ => (.broken none (.plain .endInValue), none)
  | steps + 1, depth, cs =>
      match skipSpace cs with
      | [] => (.broken none (.plain .endInValue), none)
      | 'n' :: rest => wordDraft .null 'n' ['u', 'l', 'l'] rest
      | 't' :: rest => wordDraft (.bool true) 't' ['r', 'u', 'e'] rest
      | 'f' :: rest => wordDraft (.bool false) 'f' ['a', 'l', 's', 'e'] rest
      | '"' :: rest =>
          match skipString rest with
          | .ok after => (.string (stringValue rest), some after)
          | .error e => (.broken (some '"') (stringFault rest e), none)
      | '[' :: rest =>
          let (items, stop, after) := readItems steps (depth + 1) true rest
          (.array items stop (depthLimit < depth + 1), after)
      | '{' :: rest =>
          let (members, stop, after) := readMembers steps (depth + 1) true rest
          (.object members stop (depthLimit < depth + 1), after)
      | c :: rest =>
          if c = '-' || c.isDigit then
            match readLiteral (c :: rest) with
            | .ok (literal, after) => (.number literal.value?, some after)
            | .error fault => (.broken (some c) fault, none)
          else (.broken (some c) (.plain .expectedValue), none)

/-- Reads the items of a list; `first` is set before the first of them. -/
def readItems : Nat → Nat → Bool → List Char →
    List Draft × Option ListStop × Option (List Char)
  | 0, _, _, _ => ([], some .ended, none)
  | steps + 1, depth, first, cs =>
      let item (cs : List Char) :=
        match readValue steps depth cs with
        | (d, none) => ([d], none, none)
        | (d, some after) =>
            let (items, stop, after) := readItems steps depth false after
            (d :: items, stop, after)
      match skipSpace cs with
      | [] => ([], some .ended, none)
      | ']' :: rest => ([], none, some rest)
      | ',' :: rest =>
          if first then item (',' :: rest)
          else
            match skipSpace rest with
            | [] => ([], some .endedAfterComma, none)
            | ']' :: _ => ([], some .closedAfterComma, none)
            | cs => item cs
      | cs => if first then item cs else ([], some .noSeparator, none)

/-- Reads the members of an object; `first` is set before the first of them. -/
def readMembers : Nat → Nat → Bool → List Char →
    List (Except SyntaxError String × Draft) × Option ObjectStop × Option (List Char)
  | 0, _, _, _ => ([], some .ended, none)
  | steps + 1, depth, first, cs =>
      let member (cs : List Char) :=
        match skipString cs with
        | .error e => ([], some (.brokenKey (stringFault cs e)), none)
        | .ok after =>
            let key := stringValue cs
            match skipSpace after with
            | [] => ([(key, .noColon .endInObject)], none, none)
            | ':' :: rest =>
                match readValue steps depth rest with
                | (d, none) => ([(key, d)], none, none)
                | (d, some after) =>
                    let (members, stop, after) := readMembers steps depth false after
                    ((key, d) :: members, stop, after)
            | _ => ([(key, .noColon .expectedColon)], none, none)
      match skipSpace cs with
      | [] => ([], some .ended, none)
      | '}' :: rest => ([], none, some rest)
      | ',' :: rest =>
          if first then ([], some .noKey, none)
          else
            match skipSpace rest with
            | [] => ([], some .endedAfterComma, none)
            | '}' :: _ => ([], some .closedAfterComma, none)
            | '"' :: rest => member rest
            | _ => ([], some .noKey, none)
      | '"' :: rest => if first then member rest else ([], some .noSeparator, none)
      | _ => if first then ([], some .noKey, none) else ([], some .noSeparator, none)

end

end Json

/-- The first value of a text as a draft, and what follows it unless it breaks off. -/
def Draft.read (text : String) : Draft × Option (List Char) :=
  let cs := text.toList
  Json.readValue (2 * cs.length + 2) 0 cs

end NetworkPlan
