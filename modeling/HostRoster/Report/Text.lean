import HostRoster.Json.Reader
import HostRoster.Json.Writer
import HostRoster.Wire.Report

/-!
# Reports as texts

A report is submitted as a JSON object. If its member `hypervisors` is an array of objects, the
whole object is a report. Otherwise it has the older form: every member is a host, with an array of
guest ids or `null`, and `hypervisors` is the id of a host like any other.
-/

namespace HostRoster

open HostRoster.Json

/-- Why a text is no report. -/
inductive ReportError where
  /-- It is no JSON text. -/
  | notJson
  /-- It is no JSON object. -/
  | notObject
  /-- The object is no report. -/
  | malformed (cause : DecodeError)
  /-- A guest id is no text. -/
  | guestNotText (host : String) (found : Value)
  /-- The guests of a host are no list. -/
  | guestsNotList (host : String) (found : Value)
  deriving Repr

namespace ReportError

/-- What the message for a text that is no JSON text starts with. -/
def notJsonLead : String := "report is not valid JSON: "

/-- The error as it is shown. -/
def message : ReportError → String
  | .notJson => notJsonLead ++ DecodeError.malformed.message
  | .notObject => "report must be a JSON object"
  | .malformed cause => "malformed hypervisor report: " ++ cause.message
  | .guestNotText host found =>
    "guest ids of " ++ host ++ " must be strings, got " ++ found.compactText
  | .guestsNotList host found =>
    "guests of " ++ host ++ " must be a list, got " ++ found.compactText

end ReportError

namespace Report

/-- The name of the member that holds the hosts. -/
def hostsMember : String := "hypervisors"

/-- Whether an object holds its hosts in one member. -/
def isWrapped (members : KeyedList Value) : Bool :=
  match members.find? hostsMember with
  | some (.array items) => items.all Value.isObject
  | _ => false

/-- The guest ids of a host of the older form. -/
def guestTexts (host : String) : List Value → Except ReportError (List String)
  | [] => .ok []
  | .string g :: rest => (guestTexts host rest).map (g :: ·)
  | .null :: rest => guestTexts host rest
  | v :: _ => .error (.guestNotText host v)

/-- A host of the older form. -/
def hostOfMember (m : String × Value) : Except ReportError (String × Option (List String)) :=
  match m.2 with
  | .null => .ok (m.1, none)
  | .array items => (guestTexts m.1 items).map fun l => (m.1, some l)
  | v => .error (.guestsNotList m.1 v)

/-- The report that an object denotes. -/
def ofMembers (members : KeyedList Value) : Except ReportError Report :=
  if isWrapped members then
    ((Wire.report .value).decode .value (Value.object members).draft).mapError .malformed
  else (members.mapM hostOfMember).map .ofIds

/-- The report that a text denotes. -/
def parse (text : String) : Except ReportError Report :=
  match Json.parse? text with
  | none => .error .notJson
  | some (.object members) => ofMembers members
  | some _ => .error .notObject

/-- The report that a text in the newer form denotes, read without looking at the form first. -/
def parseWrapped (text : String) : Except DecodeError Report :=
  (Json.read text).decode ((Wire.report .text).decode .text)

end Report

end HostRoster
