import HostRoster.Json.Value

/-!
# Drafts of JSON texts

What a reader knows of a JSON text when it meets the first fault or the end: a tree in the order of
the text, in which a fault is a leaf or an array or object without a closing bracket. Two faults do
not stop the reading, because they matter only to one who wants the content: a number too large to
represent, and a text with a lone surrogate or with bytes that are no characters.

A draft without faults and of limited depth denotes a value.
-/

namespace HostRoster.Json

open HostRoster.Decimal

/-- A JSON text as far as it could be read. -/
inductive Draft where
  /-- The place where the reading stopped. -/
  | broken
  /-- The literal `null`. -/
  | null
  /-- A truth value. -/
  | bool (b : Bool)
  /-- A number; nothing for one that is too large. -/
  | number (n : Option Number)
  /-- A text; nothing for one with malformed content. -/
  | string (s : Option String)
  /-- A list of drafts, and whether its closing bracket was read. -/
  | array (items : List Draft) (closed : Bool)
  /-- Drafts with their names in the order of the text, repetitions included, and whether the
  closing brace was read. A name is nothing if its content is malformed. -/
  | object (members : List (Option String × Draft)) (closed : Bool)
  deriving Repr, Inhabited

/-- The greatest number of arrays and objects inside each other. -/
def maxDepth : Nat := 127

mutual

/-- The value that a draft denotes, if it has no fault and at most `depth` levels. -/
def Draft.value? (depth : Nat) : Draft → Option Value
  | .broken => none
  | .null => some .null
  | .bool b => some (.bool b)
  | .number n => n.map .number
  | .string s => s.map .string
  | .array items closed =>
    match depth with
    | 0 => none
    | depth + 1 => if closed then (itemValues? depth items).map .array else none
  | .object members closed =>
    match depth with
    | 0 => none
    | depth + 1 => if closed then (memberValues? depth members []).map .object else none

/-- The values of items. -/
def itemValues? (depth : Nat) : List Draft → Option (List Value)
  | [] => some []
  | d :: rest => do
    let v ← d.value? depth
    let vs ← itemValues? depth rest
    some (v :: vs)

/-- The members read so far with the values of the others. -/
def memberValues? (depth : Nat) :
    List (Option String × Draft) → List (String × Value) → Option (List (String × Value))
  | [], done => some done
  | (name, d) :: rest, done => do
    let name ← name
    let v ← d.value? depth
    memberValues? depth rest (KeyedList.put name v done)

end

mutual

/-- The draft of a value. -/
def Value.draft : Value → Draft
  | .null => .null
  | .bool b => .bool b
  | .number n => .number (some n)
  | .string s => .string (some s)
  | .array items => .array (itemDrafts items) true
  | .object members => .object (memberDrafts members) true

/-- The drafts of items. -/
def itemDrafts : List Value → List Draft
  | [] => []
  | v :: rest => v.draft :: itemDrafts rest

/-- The drafts of members. -/
def memberDrafts : List (String × Value) → List (Option String × Draft)
  | [] => []
  | (name, v) :: rest => (some name, v.draft) :: memberDrafts rest

end

mutual

/-- Whether a draft has no fault that stops the reading. -/
def Draft.isWhole : Draft → Bool
  | .broken => false
  | .array items closed => closed && allWhole items
  | .object members closed => closed && allMembersWhole members
  | _ => true

/-- Whether no item has a fault that stops the reading. -/
def allWhole : List Draft → Bool
  | [] => true
  | d :: rest => d.isWhole && allWhole rest

/-- Whether no member has a fault that stops the reading. -/
def allMembersWhole : List (Option String × Draft) → Bool
  | [] => true
  | (_, d) :: rest => d.isWhole && allMembersWhole rest

end

/-- The draft of a whole text. -/
structure Document where
  /-- The value that the text starts with. -/
  root : Draft
  /-- Whether nothing but blanks follows it. -/
  alone : Bool
  deriving Repr

/-- The value that a text denotes, if it has no fault. -/
def Document.value? (d : Document) : Option Value :=
  if d.alone then d.root.value? maxDepth else none

end HostRoster.Json
