import NetworkPlan.Json.Basic

/-!
# Bicep literals

Values as they are written in a parameter file. Strings stand in single quotes, with a quote
inside written twice; nothing else is escaped. The parts of a container stand on lines of their
own, two blanks deeper than the container, without commas.
-/

namespace NetworkPlan
namespace Bicep

/-- A string in single quotes. -/
def quote (s : String) : String :=
  let inner := s.toList.flatMap fun c => if c = '\'' then ['\'', '\''] else [c]
  String.ofList ('\'' :: inner ++ ['\''])

/-- A letter of the English alphabet or an underscore. -/
def startsIdentifier (c : Char) : Bool :=
  c.isAlpha || c = '_'

/-- Also a digit. -/
def continuesIdentifier (c : Char) : Bool :=
  c.isAlphanum || c = '_'

/-- A name that needs no quotes. -/
def isIdentifier (s : String) : Bool :=
  match s.toList with
  | [] => false
  | c :: cs => startsIdentifier c && cs.all continuesIdentifier

/-- The name of an object's member. -/
def key (s : String) : String :=
  if isIdentifier s then s else quote s

/-- So many blanks. -/
def blanks (n : Nat) : String :=
  String.ofList (List.replicate n ' ')

/-- A container that starts at a given depth: its parts are complete lines. -/
def container (opening closing : String) (indent : Nat) (lines : List String) : String :=
  if lines.isEmpty then opening ++ closing
  else opening ++ "\n" ++ "\n".intercalate lines ++ "\n" ++ blanks indent ++ closing

mutual

/-- The literal of a value that starts at a given depth. -/
def literal (indent : Nat) : Json → String
  | .null => "null"
  | .bool b => if b then "true" else "false"
  | .number n => n.toText
  | .string s => quote s
  | .array items => container "[" "]" indent (itemLines (indent + 2) items)
  | .object members => container "\x7b" "\x7d" indent (memberLines (indent + 2) members)

def itemLines (indent : Nat) : List Json → List String
  | [] => []
  | item :: rest => (blanks indent ++ literal indent item) :: itemLines indent rest

def memberLines (indent : Nat) : List (String × Json) → List String
  | [] => []
  | (name, value) :: rest =>
      (blanks indent ++ key name ++ ": " ++ literal indent value) :: memberLines indent rest

end

/-- The line that gives a parameter its value. -/
def parameter (name : String) (value : Json) : String :=
  s!"param {name} = " ++ literal 0 value

end Bicep
end NetworkPlan
