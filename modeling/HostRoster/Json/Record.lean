import HostRoster.Dict
import HostRoster.Json.Draft
import HostRoster.Text.Quoted
import HostRoster.Timestamp.Text

/-!
# Decoding records

A decoder turns a draft into a value of the domain. Drafts are decoded in the order of the text, so
of several faults the first one in the text is the error, be it a fault of the text or of its
content.

A record is an object with named fields in any order; unknown names are passed over, and a field
named twice is an error. An array with the fields in their order will do as well.
-/

namespace HostRoster.Json

/-- What stands where something else is expected. -/
inductive Found where
  /-- The literal `null`. -/
  | null
  /-- A truth value. -/
  | bool (b : Bool)
  /-- A number. -/
  | number (n : Number)
  /-- A text. -/
  | string (s : String)
  /-- An array. -/
  | sequence
  /-- An object. -/
  | map
  deriving DecidableEq, Repr

/-- Why a draft cannot be decoded. -/
inductive DecodeError where
  /-- The text is not well formed. -/
  | malformed
  /-- A value is of another kind than the expected one. -/
  | mismatch (found : Found) (expected : String)
  /-- A field that must be there is not. -/
  | missingField (name : String)
  /-- A field is named twice. -/
  | duplicateField (name : String)
  /-- A name is none of those to choose from. -/
  | unknownChoice (name : String) (known : List String)
  /-- An array has a number of items that does not do. -/
  | wrongLength (length : Nat) (expected : String)
  /-- A text is no timestamp. -/
  | badTime (cause : TimeError)
  deriving DecidableEq, Repr

/-- A value as errors describe it. -/
def Found.text : Found → String
  | .null => "null"
  | .bool b => "boolean `" ++ (if b then "true" else "false") ++ "`"
  | .number n =>
    let kind :=
      match n with
      | .integer _ => "integer `"
      | .float _ _ => "floating point `"
    kind ++ String.ofList n.chars ++ "`"
  | .string s => "string " ++ Text.quoted s
  | .sequence => "sequence"
  | .map => "map"

/-- Names to choose from as errors list them. -/
def choiceText (names : List String) : String :=
  match names.map fun n => "`" ++ n ++ "`" with
  | [a, b] => "expected " ++ a ++ " or " ++ b
  | l => "expected one of " ++ String.intercalate ", " l

/-- The error as it is shown. -/
def DecodeError.message : DecodeError → String
  | .malformed => "syntax error"
  | .mismatch found expected => "invalid type: " ++ found.text ++ ", expected " ++ expected
  | .missingField name => "missing field `" ++ name ++ "`"
  | .duplicateField name => "duplicate field `" ++ name ++ "`"
  | .unknownChoice name known => "unknown variant `" ++ name ++ "`, " ++ choiceText known
  | .wrongLength n expected =>
    "invalid length " ++ toString n ++ ", expected " ++ expected
  | .badTime cause => cause.message

/-- A way to read a value from a draft. -/
abbrev Decoder (α : Type) := Draft → Except DecodeError α

/-- What a draft holds, unless it is malformed. -/
def Draft.found? : Draft → Option Found
  | .broken => none
  | .null => some .null
  | .bool b => some (.bool b)
  | .number n => n.map .number
  | .string s => s.map .string
  | .array _ _ => some .sequence
  | .object _ _ => some .map

/-- The error for a draft of the wrong kind. -/
def mismatch (d : Draft) (expected : String) : DecodeError :=
  match d.found? with
  | some found => .mismatch found expected
  | none => .malformed

namespace Decoder

/-- A text. -/
def string : Decoder String
  | .string (some s) => .ok s
  | d => .error (mismatch d "a string")

/-- A truth value. -/
def bool : Decoder Bool
  | .bool b => .ok b
  | d => .error (mismatch d "a boolean")

/-- Something that may be `null`. -/
def option {α : Type} (item : Decoder α) : Decoder (Option α)
  | .null => .ok none
  | d => (item d).map some

/-- A list. -/
def list {α : Type} (item : Decoder α) : Decoder (List α)
  | .array items closed => do
    let l ← items.mapM item
    if closed then .ok l else .error .malformed
  | d => .error (mismatch d "a sequence")

/-- One member of a dictionary. -/
def entry {α : Type} (item : Decoder α) (m : Option String × Draft) :
    Except DecodeError (String × α) :=
  match m.1 with
  | some name => (item m.2).map fun v => (name, v)
  | none => .error .malformed

/-- A dictionary; of members of one name the last counts. -/
def dict {α : Type} (item : Decoder α) : Decoder (Dict α)
  | .object members closed => do
    let l ← members.mapM (entry item)
    if closed then .ok (Dict.ofList l) else .error .malformed
  | d => .error (mismatch d "a map")

/-- A timestamp. -/
def timestamp : Decoder Timestamp
  | .string (some s) => (Timestamp.parse s).mapError .badTime
  | d => .error (mismatch d "an RFC 3339 formatted date and time string")

/-- A name to choose from a table. -/
def chosen {α : Type} (table : List (String × α)) (name : String) : Except DecodeError α :=
  match table.lookup name with
  | some v => .ok v
  | none => .error (.unknownChoice name (table.map Prod.fst))

/-- A choice from a table: its name as a text, or as the name of the only member of an object with
the value `null`. -/
def choice {α : Type} (table : List (String × α)) : Decoder α
  | .string (some s) => chosen table s
  | .object ((some name, d) :: rest) closed => do
    let v ← chosen table name
    match d with
    | .null => if rest.isEmpty && closed then .ok v else .error .malformed
    | d => .error (mismatch d "unit")
  | _ => .error .malformed

end Decoder

/-- Where a draft comes from. Items of an array after the last field are a fault of the text in a
text and a wrong number of items in a value. -/
inductive Source where
  /-- The reader. -/
  | text
  /-- A value. -/
  | value
  deriving DecidableEq, Repr

/-- When a field need not be there. -/
inductive Presence where
  /-- It must be there. -/
  | required
  /-- An object may lack it. -/
  | optional
  /-- Arrays may lack it too. -/
  | defaulted
  deriving DecidableEq, Repr

/-- A field of a record. -/
structure Field (α : Type) where
  /-- Its name. -/
  name : String
  /-- When it need not be there. -/
  presence : Presence
  /-- Reads the field into a record. -/
  read : Draft → α → Except DecodeError α

/-- A field that is read by a decoder. -/
def Field.of {α β : Type} (name : String) (presence : Presence) (decode : Decoder β)
    (store : α → β → α) : Field α :=
  ⟨name, presence, fun d a => (decode d).map (store a)⟩

/-- A kind of record. -/
structure RecordType (α : Type) where
  /-- Its name. -/
  name : String
  /-- A record to start from; it holds the values of absent fields. -/
  blank : α
  /-- The fields in order. -/
  fields : List (Field α)

namespace RecordType

variable {α : Type}

/-- The record as errors name it. -/
def description (r : RecordType α) : String := "struct " ++ r.name

/-- The record with the number of its fields as errors name it. -/
def lengthDescription (r : RecordType α) : String :=
  r.description ++ " with " ++ toString r.fields.length ++
    (if r.fields.length = 1 then " element" else " elements")

/-- Reads one member into a record; `seen` are the names of the fields read before. -/
def readMember (r : RecordType α) (state : α × List String) (m : Option String × Draft) :
    Except DecodeError (α × List String) :=
  match m.1 with
  | some name =>
    match r.fields.find? fun f => f.name == name with
    | none => if m.2.isWhole then .ok state else .error .malformed
    | some f =>
      if state.2.contains name then .error (.duplicateField name)
      else (f.read m.2 state.1).map fun a => (a, name :: state.2)
  | none => .error .malformed

/-- Decodes the members of an object. -/
def ofMembers (r : RecordType α) (members : List (Option String × Draft))
    (closed : Bool) :
    Except DecodeError α := do
  let (a, seen) ← members.foldlM r.readMember (r.blank, [])
  if !closed then .error .malformed
  else
    match r.fields.find? fun f => f.presence == .required && !seen.contains f.name with
    | some f => .error (.missingField f.name)
    | none => .ok a

/-- Decodes items as the fields from the one at an index on. -/
def ofItemsFrom (r : RecordType α) (closed : Bool) (index : Nat) (a : α) :
    List (Field α) → List Draft → Except DecodeError α
  | [], _ => .ok a
  | f :: fs, [] =>
    if !closed then .error .malformed
    else if f.presence = .defaulted then r.ofItemsFrom closed (index + 1) a fs []
    else .error (.wrongLength index r.lengthDescription)
  | f :: fs, d :: ds => do
    let a ← f.read d a
    r.ofItemsFrom closed (index + 1) a fs ds

/-- Decodes the items of an array. -/
def ofItems (r : RecordType α) (source : Source) (items : List Draft) (closed : Bool) :
    Except DecodeError α := do
  let a ← r.ofItemsFrom closed 0 r.blank r.fields items
  if r.fields.length < items.length then
    match source with
    | .text => .error .malformed
    | .value => .error (.wrongLength items.length "fewer elements in array")
  else if !closed then .error .malformed
  else .ok a

/-- Decodes a record. -/
def decode (r : RecordType α) (source : Source) : Decoder α
  | .object members closed => r.ofMembers members closed
  | .array items closed => r.ofItems source items closed
  | d => .error (mismatch d r.description)

end RecordType

/-- Decodes a whole text, after which only blanks may follow. -/
def Document.decode {α : Type} (d : Document) (decoder : Decoder α) : Except DecodeError α := do
  let a ← decoder d.root
  if d.alone then .ok a else .error .malformed

end HostRoster.Json
