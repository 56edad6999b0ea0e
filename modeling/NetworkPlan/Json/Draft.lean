import NetworkPlan.Json.Basic
import NetworkPlan.Json.SyntaxError

/-!
# Drafts

A draft is a JSON text as far as it can be read: a tree that may break off. It lets a typed
reader go through a text in document order and meet a syntax error only when it arrives there,
so that of two faults the earlier one is reported.

A value can be used or only skipped, and skipping is more lenient: it does not check surrogate
pairs, the size of numbers or the depth of nesting, and it words some faults differently. So a
fault has two wordings, and a leaf that can be skipped may still hold a fault for its user.
-/

namespace NetworkPlan

/-- A place where a text stops being JSON: the error for one who uses the value, and for one who
skips it. -/
structure Fault where
  used : SyntaxError
  skipped : SyntaxError
deriving DecidableEq

/-- A fault with one wording. -/
def Fault.plain (e : SyntaxError) : Fault := ⟨e, e⟩

/-- Why the items of a list break off. -/
inductive ListStop where
  /-- The text ends where a separator or the end of the list is due. -/
  | ended
  /-- Something else stands there. -/
  | noSeparator
  /-- The text ends after a comma. -/
  | endedAfterComma
  /-- The list ends after a comma. -/
  | closedAfterComma
deriving DecidableEq

namespace ListStop

/-- The error for one who reads the items. -/
def used : ListStop → SyntaxError
  | ended => .endInList
  | noSeparator => .expectedListSeparator
  | endedAfterComma => .endInValue
  | closedAfterComma => .trailingComma

/-- The error for one who skips the list. -/
def skipped : ListStop → SyntaxError
  | ended => .endInList
  | noSeparator => .expectedListSeparator
  | endedAfterComma => .endInValue
  | closedAfterComma => .expectedValue

/-- The error for one who wants no more items. -/
def overdue : ListStop → SyntaxError
  | ended => .endInList
  | noSeparator => .trailingText
  | endedAfterComma => .trailingText
  | closedAfterComma => .trailingComma

end ListStop

/-- Why the members of an object break off. -/
inductive ObjectStop where
  /-- The text ends where a separator or the end of the object is due. -/
  | ended
  /-- Something else stands there. -/
  | noSeparator
  /-- The text ends after a comma. -/
  | endedAfterComma
  /-- The object ends after a comma. -/
  | closedAfterComma
  /-- What should be a name is not a string. -/
  | noKey
  /-- The string of a name is broken. -/
  | brokenKey (fault : Fault)
deriving DecidableEq

namespace ObjectStop

/-- The error for one who reads the members. -/
def used : ObjectStop → SyntaxError
  | ended => .endInObject
  | noSeparator => .expectedObjectSeparator
  | endedAfterComma => .endInValue
  | closedAfterComma => .trailingComma
  | noKey => .keyNotString
  | brokenKey fault => fault.used

/-- The error for one who skips the object. -/
def skipped : ObjectStop → SyntaxError
  | ended => .endInObject
  | noSeparator => .expectedObjectSeparator
  | endedAfterComma => .endInObject
  | closedAfterComma => .keyNotString
  | noKey => .keyNotString
  | brokenKey fault => fault.skipped

end ObjectStop

/-- A JSON text as far as it can be read. -/
inductive Draft where
  | null
  | bool (b : Bool)
  /-- A number; `none` if it is too large to be used. -/
  | number (n : Option Number)
  /-- A string, with the error for its user if it has one. -/
  | string (s : Except SyntaxError String)
  /-- A list: its items, why they break off if they do, and whether it is nested too deep to be
  used. -/
  | array (items : List Draft) (stop : Option ListStop) (tooDeep : Bool)
  | object (members : List (Except SyntaxError String × Draft)) (stop : Option ObjectStop)
      (tooDeep : Bool)
  /-- There is no readable value; `start` is the character it starts with, unless the text ends
  before it. -/
  | broken (start : Option Char) (fault : Fault)
  /-- A member's name is not followed by a colon. -/
  | noColon (e : SyntaxError)

namespace Draft

mutual

/-- The draft of a value that is already there: nothing in it breaks off. -/
def ofJson : Json → Draft
  | .null => null
  | .bool b => bool b
  | .number n => number (some n)
  | .string s => string (.ok s)
  | .array items => array (ofItems items) none false
  | .object members => object (ofMembers members) none false

def ofItems : List Json → List Draft
  | [] => []
  | item :: rest => ofJson item :: ofItems rest

def ofMembers : List (String × Json) → List (Except SyntaxError String × Draft)
  | [] => []
  | (key, value) :: rest => (.ok key, ofJson value) :: ofMembers rest

end

mutual

/-- The error met on skipping the value, if any. -/
def skipError? : Draft → Option SyntaxError
  | array items stop _ => (skipItemsError? items).or (stop.map ListStop.skipped)
  | object members stop _ => (skipMembersError? members).or (stop.map ObjectStop.skipped)
  | broken _ fault => some fault.skipped
  | noColon e => some e
  | _ => none

def skipItemsError? : List Draft → Option SyntaxError
  | [] => none
  | item :: rest => (skipError? item).or (skipItemsError? rest)

def skipMembersError? : List (Except SyntaxError String × Draft) → Option SyntaxError
  | [] => none
  | (_, value) :: rest => (skipError? value).or (skipMembersError? rest)

end

end Draft
end NetworkPlan
