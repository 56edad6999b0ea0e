import NetworkPlan.Json.Basic

/-!
# Writing JSON

The compact form has no blanks. The indented form puts each item and member on a line of its
own, two blanks deeper than its container; empty containers stay on one line.
-/

namespace NetworkPlan
namespace Json

/-- The lower-case hexadecimal digit of a number below sixteen. -/
def hexDigit (n : Nat) : Char :=
  if n < 10 then Char.ofNat ('0'.toNat + n) else Char.ofNat ('a'.toNat + (n - 10))

/-- A character inside a string: quotes, backslashes and control characters are escaped. -/
def escapeChar (c : Char) : List Char :=
  match c with
  | '"' => ['\\', '"']
  | '\\' => ['\\', '\\']
  | '\x08' => ['\\', 'b']
  | '\t' => ['\\', 't']
  | '\n' => ['\\', 'n']
  | '\x0c' => ['\\', 'f']
  | '\r' => ['\\', 'r']
  | c =>
      if c.toNat < 0x20 then ['\\', 'u', '0', '0', hexDigit (c.toNat / 16), hexDigit (c.toNat % 16)]
      else [c]

/-- A string in quotes. -/
def quoted (s : String) : String :=
  String.ofList ('"' :: s.toList.flatMap escapeChar ++ ['"'])

mutual

/-- The compact text of a value. -/
def compact : Json → String
  | null => "null"
  | bool b => if b then "true" else "false"
  | number n => n.toText
  | string s => quoted s
  | array items => "[" ++ ",".intercalate (compactItems items) ++ "]"
  | object members => "\x7b" ++ ",".intercalate (compactMembers members) ++ "\x7d"

def compactItems : List Json → List String
  | [] => []
  | item :: rest => compact item :: compactItems rest

def compactMembers : List (String × Json) → List String
  | [] => []
  | (key, value) :: rest => (quoted key ++ ":" ++ compact value) :: compactMembers rest

end

/-- A line break followed by blanks. -/
def newLine (indent : Nat) : String :=
  String.ofList ('\n' :: List.replicate indent ' ')

/-- Parts between brackets, each on a line of its own. -/
def bracketed (opening closing : String) (indent : Nat) (parts : List String) : String :=
  if parts.isEmpty then opening ++ closing
  else
    opening ++ newLine (indent + 2) ++ ("," ++ newLine (indent + 2)).intercalate parts
      ++ newLine indent ++ closing

mutual

/-- The indented text of a value that starts at a given depth. -/
def indented (indent : Nat) : Json → String
  | array items => bracketed "[" "]" indent (indentedItems (indent + 2) items)
  | object members => bracketed "\x7b" "\x7d" indent (indentedMembers (indent + 2) members)
  | null => "null"
  | bool b => if b then "true" else "false"
  | number n => n.toText
  | string s => quoted s

def indentedItems (indent : Nat) : List Json → List String
  | [] => []
  | item :: rest => indented indent item :: indentedItems indent rest

def indentedMembers (indent : Nat) : List (String × Json) → List String
  | [] => []
  | (key, value) :: rest =>
      (quoted key ++ ": " ++ indented indent value) :: indentedMembers indent rest

end

end Json
end NetworkPlan
