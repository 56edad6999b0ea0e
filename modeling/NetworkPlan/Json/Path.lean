import NetworkPlan.Json.Reader

/-!
# Places in a document

A path leads from the root of a document to a value in it. The last step is unknown where the
name of a member could not be read. What is wrong between the items of a list, or where the colon
of a member is due, is placed at the container itself. The whole value of a draft is read here,
with the place of the first syntax error if there is one.
-/

namespace NetworkPlan

/-- One step into a value. -/
inductive PathStep where
  | item (index : Nat)
  | member (name : String)
  | unknown
deriving DecidableEq

/-- The steps from the root of a document to a value. -/
abbrev Path := List PathStep

namespace Path

/-- The text of the steps after the first one. -/
def tailText : Path → String
  | [] => ""
  | .item index :: rest => s!"[{index}]" ++ tailText rest
  | .member name :: rest => "." ++ name ++ tailText rest
  | .unknown :: rest => ".?" ++ tailText rest

/-- The text of a path; the root is a point. -/
def toText : Path → String
  | [] => "."
  | .item index :: rest => s!"[{index}]" ++ tailText rest
  | .member name :: rest => name ++ tailText rest
  | .unknown :: rest => "?" ++ tailText rest

end Path

/-- A syntax error and the place where it was met. -/
structure PlacedSyntaxError where
  path : Path
  error : SyntaxError

/-- The same error as seen from the start of a way that leads to the value. -/
def PlacedSyntaxError.under (way : Path) (e : PlacedSyntaxError) : PlacedSyntaxError :=
  { e with path := way ++ e.path }

namespace Draft

/-- The way from an object to the value of its member `key`. Where the colon is missing no value
was reached, and the way ends at the object. -/
def wayTo (key : String) : Draft → Path
  | noColon _ => []
  | _ => [.member key]

mutual

/-- The value of a draft, if nothing in it is broken. -/
def toJson : Draft → Except PlacedSyntaxError Json
  | null => .ok .null
  | bool b => .ok (.bool b)
  | number (some n) => .ok (.number n)
  | number none => .error ⟨[], .numberOutOfRange⟩
  | string (.ok s) => .ok (.string s)
  | string (.error e) => .error ⟨[], e⟩
  | array items stop tooDeep =>
      if tooDeep then .error ⟨[], .nestedTooDeep⟩
      else (toItems 0 stop items).map .array
  | object members stop tooDeep =>
      if tooDeep then .error ⟨[], .nestedTooDeep⟩
      else (toMembers stop [] members).map .object
  | broken _ fault => .error ⟨[], fault.used⟩
  | noColon e => .error ⟨[], e⟩

/-- The values of items counted from `index`. -/
def toItems (index : Nat) (stop : Option ListStop) :
    List Draft → Except PlacedSyntaxError (List Json)
  | [] =>
      match stop with
      | none => .ok []
      | some stop => .error ⟨[], stop.used⟩
  | item :: rest =>
      match toJson item with
      | .error e => .error (e.under [.item index])
      | .ok value => (toItems (index + 1) stop rest).map (value :: ·)

/-- The members read so far together with the members to come; the last value of a name counts. -/
def toMembers (stop : Option ObjectStop) (done : List (String × Json)) :
    List (Except SyntaxError String × Draft) → Except PlacedSyntaxError (List (String × Json))
  | [] =>
      match stop with
      | none => .ok done
      | some stop => .error ⟨[.unknown], stop.used⟩
  | (.error e, _) :: _ => .error ⟨[.unknown], e⟩
  | (.ok key, d) :: rest =>
      match toJson d with
      | .error e => .error (e.under (d.wayTo key))
      | .ok value => toMembers stop (Entries.put key value done) rest

end

end Draft

/-- Reads a text that holds one value and nothing else. -/
def Json.parse (text : String) : Except SyntaxError Json :=
  match Draft.read text with
  | (d, after) =>
      match d.toJson with
      | .error e => .error e.error
      | .ok value =>
          if (Json.skipSpace (after.getD [])).isEmpty then .ok value else .error .trailingText

end NetworkPlan
