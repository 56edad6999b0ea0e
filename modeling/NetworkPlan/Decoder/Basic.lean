import NetworkPlan.Decoder.Failure

/-!
# Decoders

A decoder turns a draft into a value of some type or tells the first thing that is wrong with it
in document order. Drafts come from texts and from values that were read before; the two origins
differ in a few failures only.
-/

namespace NetworkPlan

/-- Where a draft comes from. -/
inductive Origin where
  | text
  | value
deriving DecidableEq

/-- Reads a value of type `α` off a draft. -/
abbrev Decoder (α : Type) := Origin → Draft → Except Failure α

namespace Draft

/-- What stands at the root of a draft, unless it is broken. -/
def found : Draft → Except SyntaxError Found
  | null => .ok .null
  | bool b => .ok (.bool b)
  | number (some n) => .ok (.number n)
  | number none => .error .numberOutOfRange
  | string (.ok s) => .ok (.string s)
  | string (.error e) => .error e
  | array .. => .ok .sequence
  | object .. => .ok .map
  | broken _ fault => .error fault.used
  | noColon e => .error e

end Draft

namespace Decoder

variable {α β : Type}

/-- The failure of a value of another type than the one expected. -/
def mismatch (expected : String) (d : Draft) : Except Failure α :=
  match d.found with
  | .ok found => .error (.here (.wrongType found expected))
  | .error e => .error (.here (.notJson e))

/-- Runs a decoder on the part of a value that a way leads to. -/
def within (way : Path) (r : Except Failure α) : Except Failure α :=
  r.mapError (Failure.under way)

def map (f : α → β) (decoder : Decoder α) : Decoder β :=
  fun origin d => (decoder origin d).map f

/-!
## Scalars
-/

def string : Decoder String
  | _, .string (.ok s) => .ok s
  | _, d => mismatch "a string" d

def bool : Decoder Bool
  | _, .bool b => .ok b
  | _, d => mismatch "a boolean" d

/-- A natural number below a limit; `type` names the range. -/
def natural (limit : Nat) (type : String) : Decoder Nat
  | _, .number (some (.integer n)) =>
      if 0 ≤ n ∧ n < limit then .ok n.toNat
      else .error (.here (.wrongValue (.number (.integer n)) type))
  | _, d => mismatch type d

/-- A number of at most eight bits. -/
def byte : Decoder Nat :=
  natural 256 "u8"

/-- A number of at most thirty-two bits. -/
def word : Decoder Nat :=
  natural 4294967296 "u32"

/-- The text of a block without host bits. -/
def block : Decoder Block :=
  fun origin d => do
    let text ← string origin d
    match Block.parseNetwork text with
    | .ok b => .ok b
    | .error e => .error (.here (.badBlock e))

/-- Any value. -/
def json : Decoder Json :=
  fun _ d => d.toJson.mapError Failure.ofSyntax

/-- A value or null. -/
def option (decoder : Decoder α) : Decoder (Option α)
  | _, .null => .ok none
  | _, .broken (some 'n') fault => .error (.here (.notJson fault.used))
  | origin, d => (decoder origin d).map some

/-!
## Containers
-/

/-- The items of a list counted from `index`. -/
def items (decoder : Decoder α) (origin : Origin) (stop : Option ListStop) (index : Nat) :
    List Draft → Except Failure (List α)
  | [] =>
      match stop with
      | none => .ok []
      | some stop => .error (.here (.notJson stop.used))
  | d :: rest => do
      let a ← within [.item index] (decoder origin d)
      let as ← items decoder origin stop (index + 1) rest
      return a :: as

/-- A list. -/
def list (decoder : Decoder α) : Decoder (List α)
  | origin, .array ds stop tooDeep =>
      if tooDeep then .error (.here (.notJson .nestedTooDeep))
      else items decoder origin stop 0 ds
  | _, d => mismatch "a sequence" d

/-- The members read so far together with the members to come. -/
def members (decoder : Decoder α) (origin : Origin) (stop : Option ObjectStop) (done : Entries α) :
    List (Except SyntaxError String × Draft) → Except Failure (Entries α)
  | [] =>
      match stop with
      | none => .ok done
      | some stop => .error ⟨[.unknown], .notJson stop.used⟩
  | (.error e, _) :: _ => .error ⟨[.unknown], .notJson e⟩
  | (.ok key, d) :: rest => do
      let a ← within (d.wayTo key) (decoder origin d)
      members decoder origin stop (Entries.put key a done) rest

/-- An object whose members are all of one type; the last value of a name counts. -/
def entries (decoder : Decoder α) : Decoder (Entries α)
  | origin, .object ms stop tooDeep =>
      if tooDeep then .error (.here (.notJson .nestedTooDeep))
      else members decoder origin stop [] ms
  | _, d => mismatch "a map" d

/-!
## Choices

One of several names. It may also be given as an object whose only member has that name and the
value null.
-/

/-- The value for a name. -/
def variant (choices : Entries α) (name : String) : Except Failure α :=
  match choices.get? name with
  | some a => .ok a
  | none => .error (.here (.unknownVariant name choices.keys))

/-- The value of a choice that carries no data. -/
def nothing (d : Draft) : Except Failure Unit :=
  match d with
  | .null => .ok ()
  | d => mismatch "unit" d

/-- A choice in a text; anything but a string or an object is refused unread. -/
def choiceInText (choices : Entries α) : Draft → Except Failure α
  | .string (.ok name) => variant choices name
  | .string (.error e) => .error (.here (.notJson e))
  | .broken (some '"') fault => .error (.here (.notJson fault.used))
  | .broken none fault => .error (.here (.notJson fault.used))
  | .noColon e => .error (.here (.notJson e))
  | .object ms stop tooDeep =>
      if tooDeep then .error (.here (.notJson .nestedTooDeep))
      else
        match ms with
        | [] =>
            match stop with
            | some .ended => .error (.here (.notJson .endInValue))
            | some (.brokenKey fault) => .error (.here (.notJson fault.used))
            | some .noKey => .error (.here (.notJson .keyNotString))
            | _ => .error (.here (.notJson .expectedValue))
        | (.error e, _) :: _ => .error (.here (.notJson e))
        | (.ok name, d) :: rest => do
            let a ← variant choices name
            within (d.wayTo name) (nothing d)
            match rest, stop with
            | [], none => return a
            | [], some .ended => throw (.here (.notJson .endInObject))
            | _, _ => throw (.here (.notJson .expectedValue))
  | _ => .error (.here (.notJson .expectedValue))

/-- A choice in a value that was read before. -/
def choiceInValue (choices : Entries α) : Draft → Except Failure α
  | .string (.ok name) => variant choices name
  | .object [(.ok name, d)] _ _ => do
      let a ← variant choices name
      within (d.wayTo name) (nothing d)
      return a
  | .object .. => .error (.here (.wrongValue .map "map with a single key"))
  | d => mismatch "string or map" d

/-- One of several names. -/
def choice (choices : Entries α) : Decoder α
  | .text, d => choiceInText choices d
  | .value, d => choiceInValue choices d

end Decoder
end NetworkPlan
