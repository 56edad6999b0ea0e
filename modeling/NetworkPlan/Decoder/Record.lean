import NetworkPlan.Decoder.Basic

/-!
# Records

A record is an object with known members. Its description lists the members in order; each says
how its value changes the record under construction. A record may also be given as an array of
its members' values in that order.
-/

namespace NetworkPlan

/-- What it means for a member to be absent. -/
inductive Presence where
  /-- The record cannot do without it. -/
  | required
  /-- Absence from an object counts as null; an array must hold it. -/
  | nullable
  /-- The record has a value for it. -/
  | defaulted
deriving DecidableEq

/-- A known member of a record of type `σ`. -/
structure RecordMember (σ : Type) where
  name : String
  /-- Other names that are also read. -/
  aliases : List String
  presence : Presence
  /-- Reads the member's value and says how it changes the record. -/
  read : Decoder (σ → σ)

namespace RecordMember

variable {σ α : Type}

/-- A member the record cannot do without. -/
def required (name : String) (decoder : Decoder α) (set : α → σ → σ) : RecordMember σ :=
  ⟨name, [], .required, decoder.map set⟩

/-- A member that may be null or absent. -/
def nullable (name : String) (decoder : Decoder α) (set : Option α → σ → σ)
    (aliases : List String := []) : RecordMember σ :=
  ⟨name, aliases, .nullable, decoder.option.map set⟩

/-- A member that the record has a value for. -/
def defaulted (name : String) (decoder : Decoder α) (set : α → σ → σ) : RecordMember σ :=
  ⟨name, [], .defaulted, decoder.map set⟩

/-- Whether a name in an object means this member. -/
def answersTo (m : RecordMember σ) (key : String) : Bool :=
  m.name == key || m.aliases.contains key

end RecordMember

/-- What becomes of members that a record does not know. -/
inductive OtherMembers (σ : Type) where
  | skipped
  | refused
  /-- Kept in the record; such a record cannot be given as an array. -/
  | kept (put : String → Json → σ → σ)

/-- The description of a record of type `σ`. -/
structure Record (σ : Type) where
  name : String
  /-- The record before anything is read. -/
  initial : σ
  members : List (RecordMember σ)
  others : OtherMembers σ

namespace Record

variable {σ : Type}

/-- Reads one member that the record does not know. A name that is refused is the fault of the
member, whatever follows it. -/
def readOther (r : Record σ) (origin : Origin) (key : String) (d : Draft) :
    Except Failure (σ → σ) :=
  match r.others with
  | .skipped =>
      match d.skipError? with
      | none => .ok id
      | some e => .error ⟨d.wayTo key, .notJson e⟩
  | .refused => .error ⟨[.member key], .unknownMember key (r.members.map (·.name))⟩
  | .kept put => Decoder.within (d.wayTo key) ((Decoder.json origin d).map (put key))

/-- Reads members in document order; `seen` names the known members read so far. -/
def readMembers (r : Record σ) (origin : Origin) (stop : Option ObjectStop) (seen : List String)
    (record : σ) : List (Except SyntaxError String × Draft) → Except Failure (List String × σ)
  | [] =>
      match stop with
      | none => .ok (seen, record)
      | some stop => .error ⟨[.unknown], .notJson stop.used⟩
  | (.error e, _) :: _ => .error ⟨[.unknown], .notJson e⟩
  | (.ok key, d) :: rest =>
      match r.members.find? (·.answersTo key) with
      | some m =>
          if seen.contains m.name then .error (.here (.duplicate m.name))
          else do
            let change ← Decoder.within (d.wayTo key) (m.read origin d)
            readMembers r origin stop (m.name :: seen) (change record) rest
      | none => do
          let change ← r.readOther origin key d
          readMembers r origin stop seen (change record) rest

/-- The first member that must be there and is not. -/
def firstMissing? (r : Record σ) (seen : List String) : Option String :=
  (r.members.find? fun m => m.presence = .required && !seen.contains m.name).map (·.name)

/-- How a failure names the record given as an array. -/
def arrayText (r : Record σ) : String :=
  let n := r.members.length
  s!"struct {r.name} with {n} " ++ (if n = 1 then "element" else "elements")

/-- Reads values in the order of the members; gives back the values left over. -/
def readItems (r : Record σ) (origin : Origin) (stop : Option ListStop) :
    List (RecordMember σ) → Nat → σ → List Draft → Except Failure (List Draft × σ)
  | [], _, record, ds => .ok (ds, record)
  | m :: ms, index, record, d :: ds => do
      let change ← Decoder.within [.item index] (m.read origin d)
      readItems r origin stop ms (index + 1) (change record) ds
  | m :: ms, index, record, [] =>
      match stop with
      | some stop => .error (.here (.notJson stop.used))
      | none =>
          if m.presence = .defaulted then readItems r origin stop ms (index + 1) record []
          else .error (.here (.wrongLength index r.arrayText))

/-- Refuses values after the last member's. -/
def checkEnd (origin : Origin) (stop : Option ListStop) (total : Nat) (surplus : List Draft) :
    Except Failure Unit :=
  match origin, surplus, stop with
  | .value, [], _ => .ok ()
  | .value, _ :: _, _ => .error (.here (.wrongLength total "fewer elements in array"))
  | .text, [], none => .ok ()
  | .text, [], some stop => .error (.here (.notJson stop.overdue))
  | .text, _ :: _, _ => .error (.here (.notJson .trailingText))

/-- Reads a record. -/
def decode (r : Record σ) : Decoder σ
  | origin, .object ms stop tooDeep =>
      if tooDeep then .error (.here (.notJson .nestedTooDeep))
      else do
        let (seen, record) ← r.readMembers origin stop [] r.initial ms
        match r.firstMissing? seen with
        | some name => .error (.here (.missing name))
        | none => .ok record
  | origin, .array ds stop tooDeep =>
      match r.others with
      | .kept _ => Decoder.mismatch s!"struct {r.name}" (.array ds stop tooDeep)
      | _ =>
          if tooDeep then .error (.here (.notJson .nestedTooDeep))
          else do
            let (surplus, record) ← r.readItems origin stop r.members 0 r.initial ds
            checkEnd origin stop ds.length surplus
            return record
  | _, d => Decoder.mismatch s!"struct {r.name}" d

end Record
end NetworkPlan
