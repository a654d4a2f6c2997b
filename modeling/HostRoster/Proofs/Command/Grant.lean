import HostRoster.Command.Grant
import HostRoster.Proofs.Dict
import HostRoster.Proofs.Identity
import HostRoster.Proofs.Lists
import Mathlib.Data.List.Forall2

/-!
# What grants on the command line give

A text is read as a grant exactly if it is written as one, and a principal that is made of such
texts may do exactly what they say: of the texts about an owner the last one counts, and an
administrator may do everything.
-/

namespace HostRoster

/-- A text with an owner before its first equals sign and a level after it. Blanks around both do
not count, and neither does whether the letters A to Z of the level are capital. -/
def Grant.IsWritten (g : Grant) (text : String) : Prop :=
  ∃ owner level : String, text = owner ++ "=" ++ level ∧ '=' ∉ owner.toList ∧
    Text.isBlank owner = false ∧ Text.trim owner = g.ownerKey ∧
    Text.lowerAscii (Text.trim level) = Text.lowerAscii g.level.label

/-- The last of some texts about an owner gives a level. -/
inductive LastGrant (ownerKey : String) (level : Access) : List String → Prop where
  /-- No later text is about the owner. -/
  | here (text : String) (later : List String) (htext : Grant.IsWritten ⟨ownerKey, level⟩ text)
    (hlater : ∀ t ∈ later, ∀ a, ¬ Grant.IsWritten ⟨ownerKey, a⟩ t) :
    LastGrant ownerKey level (text :: later)
  /-- It is one of the later texts. -/
  | later (text : String) (rest : List String) (hrest : LastGrant ownerKey level rest) :
    LastGrant ownerKey level (text :: rest)

/-- A list is split where a character occurs first. -/
theorem splitAtFirst_eq_some_iff {c : Char} {cs before after : List Char} :
    splitAtFirst c cs = some (before, after) ↔ cs = before ++ c :: after ∧ c ∉ before := by
  induction cs generalizing before with
  | nil => simp [splitAtFirst]
  | cons d rest ih =>
    rw [splitAtFirst]
    by_cases hd : d = c
    · subst hd
      rw [if_pos rfl]
      constructor
      · rintro ⟨⟩
        exact ⟨rfl, List.not_mem_nil⟩
      · rintro ⟨hsplit, hfirst⟩
        cases before with
        | nil =>
          obtain ⟨_, rfl⟩ := List.cons.inj hsplit
          rfl
        | cons e before =>
          obtain ⟨rfl, _⟩ := List.cons.inj hsplit
          exact absurd List.mem_cons_self hfirst
    · rw [if_neg hd, Option.map_eq_some_iff]
      constructor
      · rintro ⟨⟨b, a⟩, hsplit, heq⟩
        obtain ⟨rfl, rfl⟩ := Prod.mk.inj heq
        obtain ⟨hrest, hfirst⟩ := ih.mp hsplit
        rw [hrest]
        exact ⟨rfl, List.not_mem_cons_of_ne_of_not_mem (Ne.symm hd) hfirst⟩
      · rintro ⟨hsplit, hfirst⟩
        cases before with
        | nil => exact absurd (List.cons.inj hsplit).1 hd
        | cons e before =>
          obtain ⟨rfl, hrest⟩ := List.cons.inj hsplit
          exact ⟨(before, after), ih.mpr ⟨hrest, List.not_mem_of_not_mem_cons hfirst⟩, rfl⟩

namespace Access

/-- Labels of levels are in lower case. -/
theorem lowerAscii_label (a : Access) : Text.lowerAscii a.label = a.label := by
  cases a <;> decide +kernel

/-- The only name of a level is its label. -/
theorem lookup_names {name : String} {a : Access} :
    names.lookup name = some a ↔ name = a.label := by
  constructor
  · intro h
    simp only [names, List.lookup_cons, List.lookup_nil] at h
    grind [label]
  · rintro rfl
    cases a <;> rfl

/-- A level is read from its name, in whatever letters. -/
theorem parse_eq_ok_iff {text : String} {a : Access} :
    Access.parse text = .ok a ↔
      Text.lowerAscii (Text.trim text) = Text.lowerAscii a.label := by
  rw [parse, lowerAscii_label, ← lookup_names]
  cases names.lookup (Text.lowerAscii (Text.trim text)) <;> simp

end Access

namespace Grant

variable {text : String} {g : Grant}

/-- A text with an equals sign is a grant if its owner is not blank and its level is one. -/
theorem parse_of_split {owner level : String}
    (h : splitAtFirst '=' text.toList = some (owner.toList, level.toList)) :
    Grant.parse text =
      if Text.isBlank owner then .error (.noOwner text)
      else ((Access.parse level).mapError .level).map fun a => ⟨Text.trim owner, a⟩ := by
  have hblank : (Text.trimChars owner.toList).isEmpty = Text.isBlank owner := by
    rw [Bool.eq_iff_iff, ← Text.trim_eq_empty_iff, Text.trim, List.isEmpty_iff]
    exact String.ofList_eq_empty_iff.symm
  rw [parse, h]
  simp only [hblank, String.ofList_toList]
  rfl

/-- A text is read as a grant exactly if it is written as this grant. -/
theorem parse_eq_ok_iff : Grant.parse text = .ok g ↔ g.IsWritten text := by
  constructor
  · intro h
    cases hsplit : splitAtFirst '=' text.toList with
    | none =>
      rw [parse, hsplit] at h
      cases h
    | some p =>
      obtain ⟨before, after⟩ := p
      obtain ⟨htext, hfirst⟩ := splitAtFirst_eq_some_iff.mp hsplit
      have hsplit' : splitAtFirst '=' text.toList =
          some ((String.ofList before).toList, (String.ofList after).toList) := by
        simpa using hsplit
      rw [parse_of_split hsplit'] at h
      split at h
      · cases h
      · next hblank =>
        cases hlevel : Access.parse (.ofList after) with
        | error e =>
          rw [hlevel] at h
          cases h
        | ok a =>
          rw [hlevel] at h
          cases h
          refine ⟨.ofList before, .ofList after, ?_, by simpa using hfirst,
            Bool.eq_false_iff.mpr hblank, rfl, Access.parse_eq_ok_iff.mp hlevel⟩
          rw [← String.toList_inj, htext]
          simp
  · rintro ⟨owner, level, rfl, hfirst, hblank, howner, hlevel⟩
    have hsplit : splitAtFirst '=' (owner ++ "=" ++ level).toList =
        some (owner.toList, level.toList) := by
      rw [splitAtFirst_eq_some_iff]
      exact ⟨by simp, hfirst⟩
    rw [parse_of_split hsplit, hblank, Access.parse_eq_ok_iff.mpr hlevel, howner]
    rfl

end Grant

/-- Grants given one after the other are inserted in this order. -/
theorem Principal.foldl_grant (gs : List Grant) (p : Principal) :
    gs.foldl (fun p g => p.grant g.ownerKey g.level) p =
      { p with grants :=
          (gs.map fun g => (g.ownerKey, g.level)).foldl (fun d e => d.insert e.1 e.2) p.grants } := by
  induction gs generalizing p with
  | nil => rfl
  | cons g gs ih =>
    rw [List.foldl_cons, ih]
    rfl

theorem Principal.ofGrants_eq (username : String) (admin : Bool) (gs : List Grant) :
    ofGrants username admin gs =
      ⟨username, admin, .ofList (gs.map fun g => (g.ownerKey, g.level))⟩ := by
  rw [ofGrants, foldl_grant]
  cases admin <;> rfl

/-- Of the levels that grants give on an owner the last one counts. -/
theorem Principal.accessTo_ofGrants (username : String) (gs : List Grant) (ownerKey : String) :
    (ofGrants username false gs).accessTo ownerKey =
      (gs.findRev? fun g => g.ownerKey == ownerKey).map (·.level) := by
  rw [ofGrants_eq, accessTo, if_neg Bool.false_ne_true, Dict.get?_ofList_map Grant.ownerKey]

/-- Texts are read as grants, one by one. -/
abbrev ReadAs (texts : List String) (grants : List Grant) : Prop :=
  List.Forall₂ (fun text g => Grant.parse text = .ok g) texts grants

namespace ReadAs

variable {texts : List String} {grants : List Grant} {k : String} {level : Access}

/-- No grant is on an owner if no text is about it. -/
theorem findRev?_eq_none_iff (h : ReadAs texts grants) :
    (grants.findRev? fun g => g.ownerKey == k) = none ↔
      ∀ t ∈ texts, ∀ a, ¬ Grant.IsWritten ⟨k, a⟩ t := by
  simp only [Lists.findRev?_eq_none_iff, ne_eq, beq_iff_eq]
  constructor
  · intro hnone t ht a hwritten
    obtain ⟨g, hg, hparse⟩ := Lists.exists_right h ht
    rw [Grant.parse_eq_ok_iff.mpr hwritten] at hparse
    cases hparse
    exact hnone _ hg rfl
  · rintro hnone g hg rfl
    obtain ⟨t, ht, hparse⟩ := Lists.exists_left h hg
    exact hnone t ht g.level (Grant.parse_eq_ok_iff.mp hparse)

/-- The last grant on an owner is what the last text about it says. -/
theorem findRev?_eq_some_iff (h : ReadAs texts grants) :
    (grants.findRev? fun g => g.ownerKey == k).map (·.level) = some level ↔
      LastGrant k level texts := by
  induction h with
  | nil => exact ⟨fun h => (by cases h), fun h => (by cases h)⟩
  | @cons text g texts grants hparse hrest ih =>
    rw [List.findRev?]
    cases hlater : grants.findRev? fun g => g.ownerKey == k with
    | some g' =>
      -- A later text is about the owner, so this one does not count.
      rw [hlater] at ih
      refine ih.trans ⟨.later text texts, fun hlast => ?_⟩
      rcases hlast with ⟨_, _, _, hnone⟩ | ⟨_, _, hlast⟩
      · rw [(findRev?_eq_none_iff hrest).mpr hnone] at hlater
        cases hlater
      · exact hlast
    | none =>
      rw [hlater] at ih
      have hnone := (findRev?_eq_none_iff hrest).mp hlater
      constructor
      · intro hhere
        obtain ⟨g', hg', rfl⟩ := Option.map_eq_some_iff.mp hhere
        obtain ⟨hkey, rfl⟩ : g.ownerKey = k ∧ g = g' := by simpa using hg'
        exact .here text texts (hkey ▸ Grant.parse_eq_ok_iff.mp hparse) hnone
      · rintro (⟨_, _, htext, _⟩ | ⟨_, _, hlast⟩)
        · rw [Grant.parse_eq_ok_iff.mpr htext] at hparse
          cases hparse
          simp
        · cases ih.mpr hlast

end ReadAs

/-- Grants on the command line give what is written. A text is accepted exactly if it is written as
a grant; and the principal that is made of accepted texts may do something for an owner exactly if
it is an administrator, or the last text about the owner gives a level that is high enough. -/
theorem grants_give_what_is_written :
    (∀ text g, Grant.parse text = .ok g ↔ g.IsWritten text) ∧
      ∀ texts grants, ReadAs texts grants → ∀ username admin o required,
        Authorizer.byGrants (.ofGrants username admin grants) o required = true ↔
          admin = true ∨ ∃ level, LastGrant o.key level texts ∧ required.rank ≤ level.rank := by
  refine ⟨fun _ _ => Grant.parse_eq_ok_iff, fun texts grants hread username admin o required => ?_⟩
  cases admin with
  | true =>
    have haccess : (Principal.ofGrants username true grants).accessTo o.key = some .create := by
      rw [Principal.ofGrants_eq]
      rfl
    rw [Authorizer.byGrants, haccess]
    exact iff_of_true (by cases required <;> rfl) (Or.inl rfl)
  | false =>
    simp only [Authorizer.byGrants, Principal.accessTo_ofGrants, Option.any_eq_true,
      hread.findRev?_eq_some_iff, Access.allows, decide_eq_true_iff, Bool.false_eq_true, false_or]

/-- The last text about an owner takes back what an earlier one gave. Texts may have blanks in them
and letters of either case. -/
theorem grants_give_what_is_written_overridden :
    let texts := ["a=create", " b c\u2003= UPDATE", "a=Read"]
    let grants : List Grant := [⟨"a", .create⟩, ⟨"b c", .update⟩, ⟨"a", .read⟩]
    let allows (k : String) (required : Access) : Prop :=
      ∃ level, LastGrant k level texts ∧ required.rank ≤ level.rank
    ReadAs texts grants ∧ allows "a" .read ∧ ¬ allows "a" .update ∧ allows "b c" .update ∧
      ¬ allows "b" .read := by
  intro texts grants allows
  have hread : ReadAs texts grants :=
    .cons (by decide +kernel) (.cons (by decide +kernel) (.cons (by decide +kernel) .nil))
  have hallows (k : String) (required : Access) :
      Authorizer.byGrants (.ofGrants "joe" false grants) (.named k) required = true ↔
        allows k required := by
    rw [grants_give_what_is_written.2 texts grants hread "joe" false (.named k) required]
    simp only [Bool.false_eq_true, false_or]
    rfl
  refine ⟨hread, ?_, ?_, ?_, ?_⟩ <;> rw [← hallows] <;> decide +kernel

end HostRoster
