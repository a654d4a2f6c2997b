import HostRoster.Json.Reader
import HostRoster.Json.Writer
import Mathlib.Data.List.Forall2

/-!
# Reading what was written

The reader undoes the writer: a value without numbers that is written in either layout is read as
the draft of that value, and so is the whole text. Every character of a text comes back, be it
escaped or not, and it does not matter which blanks a layout puts between tokens.
-/

namespace HostRoster.Json

/-- Hexadecimal digits have the value they were written for. -/
theorem hexValue?_hexDigit (n : Nat) : hexValue? (hexDigit n) = some (n % 16) := by
  have h : ∀ m < 16, hexValue? (Nat.digitChar m) = some m := by decide
  exact h _ (Nat.mod_lt _ (by decide))

/-- The four digits of a small number are read back. -/
theorem readHex?_digits {n : Nat} (hn : n < 256) (rest : List Char) :
    readHex? ('0' :: '0' :: hexDigit (n / 16) :: hexDigit n :: rest) = some (n, rest) := by
  have hzero : hexValue? '0' = some 0 := by decide
  have hvalue : ((0 * 16 + 0) * 16 + n / 16 % 16) * 16 + n % 16 = n := by omega
  simp only [readHex?, hzero, hexValue?_hexDigit, Option.bind_eq_bind, Option.bind_some, hvalue]

/-- So is the character they stand for. -/
theorem readUnicodeEscape?_digits {c : Char} (hc : c.toNat < 0x20) (rest : List Char) :
    readUnicodeEscape? ('0' :: '0' :: hexDigit (c.toNat / 16) :: hexDigit c.toNat :: rest) =
      some (some c, rest) := by
  have hhigh : isHighSurrogate c.toNat = false := by
    simp only [isHighSurrogate, Bool.and_eq_false_iff, decide_eq_false_iff_not]
    omega
  have hlow : isLowSurrogate c.toNat = false := by
    simp only [isLowSurrogate, Bool.and_eq_false_iff, decide_eq_false_iff_not]
    omega
  have hdigits := readHex?_digits (n := c.toNat) (by omega) rest
  simp only [readUnicodeEscape?, hdigits, hhigh, hlow, Option.bind_eq_bind, Option.bind_some,
    Bool.false_eq_true, if_false, Char.ofNat_toNat]

/-- One written character is read back. -/
theorem readChar?_escapeChar (c : Char) (rest : List Char) :
    readChar? none (escapeChar c ++ rest) = some (some c, rest) := by
  unfold escapeChar
  split
  case h_8 _ hbackslash _ _ _ _ _ =>
    by_cases hlow : c.toNat < 0x20
    · rw [if_pos hlow]
      exact readUnicodeEscape?_digits hlow rest
    · rw [if_neg hlow, List.cons_append, List.nil_append]
      unfold readChar?
      split
      · next h => cases h
      · next h =>
        cases h
        exact absurd rfl hbackslash
      · next h =>
        cases h
        exact absurd rfl hbackslash
      · next h =>
        cases h
        have hne : c ≠ '\\' := hbackslash
        simp [hlow, hne]
  all_goals rfl

/-- No written character starts with a quote. -/
theorem escapeChar_eq_cons (c : Char) : ∃ d ds, escapeChar c = d :: ds ∧ d ≠ '"' := by
  unfold escapeChar
  split
  case h_8 hquote _ _ _ _ _ _ =>
    split
    · exact ⟨_, _, rfl, by decide⟩
    · exact ⟨_, _, rfl, hquote⟩
  all_goals exact ⟨_, _, rfl, by decide⟩

/-- A written text is read back up to its closing quote. -/
theorem readText?_flatMap (l sofar rest : List Char) (fuel : Nat)
    (hfuel : (l.flatMap escapeChar).length < fuel) :
    readText? none fuel (some sofar) (l.flatMap escapeChar ++ '"' :: rest) =
      some (some (String.ofList (sofar.reverse ++ l)), rest) := by
  induction l generalizing sofar fuel with
  | nil =>
    obtain ⟨n, rfl⟩ : ∃ n, fuel = n + 1 := Nat.exists_eq_add_one.mpr hfuel
    simp [readText?]
  | cons c l ih =>
    obtain ⟨n, rfl⟩ : ∃ n, fuel = n + 1 :=
      Nat.exists_eq_add_one.mpr (Nat.lt_of_le_of_lt (Nat.zero_le _) hfuel)
    obtain ⟨d, ds, hc, hd⟩ := escapeChar_eq_cons c
    rw [List.flatMap_cons, List.length_append, hc, List.length_cons] at hfuel
    have hread := readChar?_escapeChar c (l.flatMap escapeChar ++ '"' :: rest)
    rw [hc] at hread
    rw [List.flatMap_cons, List.append_assoc, hc]
    unfold readText?
    split
    · next h =>
      cases h
      exact absurd rfl hd
    · rw [hread]
      have hrest := ih (c :: sofar) n (by omega)
      simpa using hrest

/-- A text with its escapes is read up to the quotation mark that ends it. -/
theorem readText?_textChars (s : String) (rest : List Char) (fuel : Nat)
    (hfuel : (textChars s).length ≤ fuel + 1) :
    readText? none fuel (some []) (s.toList.flatMap escapeChar ++ '"' :: rest) =
      some (some s, rest) := by
  rw [textChars, List.length_append, List.length_cons, List.length_singleton] at hfuel
  rw [readText?_flatMap s.toList [] rest fuel (by omega)]
  simp

/-- Characters that may stand between tokens. -/
def Blanks (cs : List Char) : Prop := ∀ c ∈ cs, isBlank c = true

theorem blanks_nil : Blanks [] := fun _ h => absurd h List.not_mem_nil

theorem blanks_space : Blanks [' '] := fun _ h => List.mem_singleton.mp h ▸ by decide

theorem blanks_newLine (level : Nat) : Blanks (newLine level) := by
  intro c h
  rcases List.mem_cons.mp h with rfl | h
  · decide
  · rw [List.eq_of_mem_replicate h]
    decide

/-- Nothing is skipped in front of what is not blank. -/
theorem skipBlanks_cons {c : Char} (h : isBlank c = false) (cs : List Char) :
    skipBlanks (c :: cs) = c :: cs :=
  List.dropWhile_cons_of_neg (by simpa using h)

section blanks

variable {gap : List Char} (h : Blanks gap) (fuel : Nat) (cs : List Char)
include h

/-- A gap is skipped as a whole. -/
theorem skipBlanks_append : skipBlanks (gap ++ cs) = skipBlanks cs := by
  induction gap with
  | nil => rfl
  | cons c gap ih =>
    rw [List.cons_append, skipBlanks, List.dropWhile_cons_of_pos (h c List.mem_cons_self)]
    exact ih fun d hd => h d (List.mem_cons_of_mem _ hd)

/-- Blanks may stand before a value. -/
theorem readValue_blanks : readValue none fuel (gap ++ cs) = readValue none fuel cs := by
  cases fuel with
  | zero => rw [readValue, readValue]
  | succ fuel =>
    unfold readValue
    rw [skipBlanks_append h]

/-- So may they before the items of an array. -/
theorem readItems_blanks (done : List Draft) :
    readItems none fuel done (gap ++ cs) = readItems none fuel done cs := by
  cases fuel with
  | zero => rw [readItems, readItems]
  | succ fuel =>
    unfold readItems
    rw [readValue_blanks h]

/-- So may they before the members of an object. -/
theorem readMembers_blanks (done : List (Option String × Draft)) :
    readMembers none fuel done (gap ++ cs) = readMembers none fuel done cs := by
  cases fuel with
  | zero => rw [readMembers, readMembers]
  | succ fuel =>
    unfold readMembers
    rw [skipBlanks_append h]

end blanks

/-- Characters that are read as a value, whatever follows them. -/
structure ReadsAs (cs : List Char) (v : Value) : Prop where
  /-- The first one is neither a blank nor a closing bracket. -/
  opens : ∃ c rest, cs = c :: rest ∧ isBlank c = false ∧ c ≠ ']'
  /-- The reader stops behind the last one. -/
  reads : ∀ fuel rest, 2 * cs.length ≤ fuel →
    readValue none fuel (cs ++ rest) = (v.draft, some rest)

/-- Some fuel is left after the first step. -/
theorem ReadsAs.of_succ {cs : List Char} {v : Value}
    (hopens : ∃ c rest, cs = c :: rest ∧ isBlank c = false ∧ c ≠ ']')
    (h : ∀ n rest, 2 * cs.length ≤ n + 1 →
      readValue none (n + 1) (cs ++ rest) = (v.draft, some rest)) : ReadsAs cs v := by
  refine ⟨hopens, fun fuel rest hfuel => ?_⟩
  obtain ⟨c, tail, rfl, _⟩ := hopens
  cases fuel with
  | zero =>
    rw [List.length_cons] at hfuel
    omega
  | succ n => exact h n rest hfuel

theorem readsAs_null : ReadsAs nullChars .null :=
  .of_succ ⟨_, _, rfl, by decide, by decide⟩ fun _ _ _ => rfl

/-- Truth values are read back. -/
theorem readsAs_bool (b : Bool) : ReadsAs (boolChars b) (.bool b) := by
  cases b <;> exact .of_succ ⟨_, _, rfl, by decide, by decide⟩ fun _ _ _ => rfl

/-- Texts are read back from between quotation marks. -/
theorem readsAs_string (s : String) : ReadsAs (textChars s) (.string s) := by
  refine .of_succ ⟨_, _, rfl, by decide, by decide⟩ fun n rest hfuel => ?_
  have hchars : textChars s ++ rest = '"' :: (s.toList.flatMap escapeChar ++ '"' :: rest) := by
    simp [textChars]
  rw [hchars, readValue, skipBlanks_cons (by decide)]
  simp only [readString, readText?_textChars s rest n (by omega)]
  rfl

theorem readsAs_emptyArray : ReadsAs ['[', ']'] (.array []) :=
  .of_succ ⟨_, _, rfl, by decide, by decide⟩ fun _ _ _ => rfl

theorem readsAs_emptyObject : ReadsAs ['\x7b', '\x7d'] (.object []) :=
  .of_succ ⟨_, _, rfl, by decide, by decide⟩ fun _ _ _ => rfl

/-- Pieces on both sides of brackets, with a gap before each piece and before the closing one. -/
def enclosed (opening closing : Char) (gap close : List Char) (pieces : List (List Char)) :
    List Char :=
  opening :: (gap ++ (joinChars (',' :: gap) pieces ++ (close ++ [closing])))

/-- A separator stands between any two pieces. -/
theorem joinChars_cons_cons (separator p q : List Char) (rest : List (List Char)) :
    joinChars separator (p :: q :: rest) = p ++ separator ++ joinChars separator (q :: rest) := rfl

/-- Joined pieces start like the first one. -/
theorem joinChars_eq_cons (separator : List Char) {p : List Char} {c : Char} {cs : List Char}
    (hp : p = c :: cs) (rest : List (List Char)) :
    ∃ tail, joinChars separator (p :: rest) = c :: tail := by
  subst hp
  cases rest with
  | nil => exact ⟨cs, rfl⟩
  | cons q rest => exact ⟨_, rfl⟩

/-- Characters that are read as a member of an object: its name, a colon and its value. -/
def ReadsAsMember (cs : List Char) (m : String × Value) : Prop :=
  ∃ gap value, Blanks gap ∧ cs = textChars m.1 ++ ':' :: (gap ++ value) ∧ ReadsAs value m.2

/-- What is read of an object behind its first members. -/
def behindMembers (fuel : Nat) (done : List (Option String × Draft)) (rest : List Char) :
    Draft × Option (List Char) :=
  match skipBlanks rest with
  | '\x7d' :: rest => (.object done.reverse true, some rest)
  | ',' :: rest => readMembers none fuel done rest
  | _ => (.object done.reverse false, none)

/-- The first member is read together with its name. -/
theorem readMembers_member {cs : List Char} {m : String × Value} (hm : ReadsAsMember cs m)
    (done : List (Option String × Draft)) (rest : List Char) {n : Nat}
    (hfuel : 2 * cs.length ≤ n) :
    readMembers none (n + 1) done (cs ++ rest) =
      behindMembers n ((some m.1, m.2.draft) :: done) rest := by
  obtain ⟨name, v⟩ := m
  obtain ⟨gap, value, hgap, rfl, hvalue⟩ := hm
  have hvalue : ReadsAs value v := hvalue
  simp only [List.length_append, List.length_cons] at hfuel
  have hchars : textChars name ++ ':' :: (gap ++ value) ++ rest =
      '"' :: (name.toList.flatMap escapeChar ++ '"' :: ':' :: (gap ++ (value ++ rest))) := by
    simp [textChars]
  have hquote (cs : List Char) : skipBlanks ('"' :: cs) = '"' :: cs :=
    skipBlanks_cons (by decide) cs
  have hcolon (cs : List Char) : skipBlanks (':' :: cs) = ':' :: cs :=
    skipBlanks_cons (by decide) cs
  have hname := readText?_textChars name (':' :: (gap ++ (value ++ rest))) n (by omega)
  rw [readMembers]
  simp only [hchars, hquote, hname, hcolon, readValue_blanks hgap,
    hvalue.reads n rest (by omega)]
  rfl

section brackets

variable {gap close : List Char} (hgap : Blanks gap) (hclose : Blanks close)
  {pieces : List (List Char)}
include hgap hclose

/-- The items of an array are read up to its closing bracket. -/
theorem readItems_joined {items : List Value} (hne : pieces ≠ [])
    (h : List.Forall₂ ReadsAs pieces items) (done : List Draft) (rest : List Char) (fuel : Nat)
    (hfuel : 2 * (joinChars (',' :: gap) pieces).length < fuel) :
    readItems none fuel done (joinChars (',' :: gap) pieces ++ (close ++ ']' :: rest)) =
      (.array (done.reverse ++ itemDrafts items) true, some rest) := by
  induction h generalizing done fuel with
  | nil => exact absurd rfl hne
  | @cons p v pieces items hp hrest ih =>
    obtain ⟨n, rfl⟩ : ∃ n, fuel = n + 1 :=
      Nat.exists_eq_add_one.mpr (Nat.lt_of_le_of_lt (Nat.zero_le _) hfuel)
    cases hrest with
    | nil =>
      have hjoin : joinChars (',' :: gap) [p] = p := rfl
      rw [hjoin] at hfuel ⊢
      unfold readItems
      have hend : skipBlanks (close ++ ']' :: rest) = ']' :: rest := by
        rw [skipBlanks_append hclose, skipBlanks_cons (by decide)]
      rw [hp.reads n _ (by omega)]
      simp only [hend]
      simp [itemDrafts]
    | @cons q w pieces items _ _ =>
      rw [joinChars_cons_cons, List.length_append, List.length_append, List.length_cons] at hfuel
      rw [joinChars_cons_cons, List.append_assoc, List.append_assoc]
      unfold readItems
      have hcomma (cs : List Char) : skipBlanks (',' :: gap ++ cs) = ',' :: gap ++ cs :=
        skipBlanks_cons (by decide) _
      rw [hp.reads n _ (by omega)]
      simp only [hcomma]
      rw [List.cons_append]
      simp only [readItems_blanks hgap]
      rw [ih (List.cons_ne_nil _ _) _ n (by omega)]
      simp [itemDrafts]

/-- The members of an object are read up to its closing brace. -/
theorem readMembers_joined {members : List (String × Value)} (hne : pieces ≠ [])
    (h : List.Forall₂ ReadsAsMember pieces members) (done : List (Option String × Draft))
    (rest : List Char) (fuel : Nat)
    (hfuel : 2 * (joinChars (',' :: gap) pieces).length < fuel) :
    readMembers none fuel done (joinChars (',' :: gap) pieces ++ (close ++ '\x7d' :: rest)) =
      (.object (done.reverse ++ memberDrafts members) true, some rest) := by
  induction h generalizing done fuel with
  | nil => exact absurd rfl hne
  | @cons p m pieces members hp hrest ih =>
    obtain ⟨n, rfl⟩ : ∃ n, fuel = n + 1 :=
      Nat.exists_eq_add_one.mpr (Nat.lt_of_le_of_lt (Nat.zero_le _) hfuel)
    cases hrest with
    | nil =>
      have hjoin : joinChars (',' :: gap) [p] = p := rfl
      rw [hjoin] at hfuel ⊢
      have hend : skipBlanks (close ++ '\x7d' :: rest) = '\x7d' :: rest := by
        rw [skipBlanks_append hclose, skipBlanks_cons (by decide)]
      rw [readMembers_member hp done _ (by omega)]
      simp only [behindMembers, hend]
      simp [memberDrafts]
    | @cons q m' pieces members _ _ =>
      rw [joinChars_cons_cons, List.length_append, List.length_append, List.length_cons] at hfuel
      have hcomma (cs : List Char) : skipBlanks (',' :: gap ++ cs) = ',' :: gap ++ cs :=
        skipBlanks_cons (by decide) _
      rw [joinChars_cons_cons, List.append_assoc, List.append_assoc,
        readMembers_member hp done _ (by omega)]
      simp only [behindMembers, hcomma]
      rw [List.cons_append]
      simp only [readMembers_blanks hgap]
      rw [ih (List.cons_ne_nil _ _) _ n (by omega)]
      simp [memberDrafts]

/-- An array is read if its items are. -/
theorem readsAs_array {items : List Value} (hne : pieces ≠ [])
    (h : List.Forall₂ ReadsAs pieces items) :
    ReadsAs (enclosed '[' ']' gap close pieces) (.array items) := by
  refine .of_succ ⟨_, _, rfl, by decide, by decide⟩ fun n rest hfuel => ?_
  simp only [enclosed, List.length_append, List.length_cons, List.length_nil] at hfuel
  have hitems := readItems_joined hgap hclose hne h [] rest n (by omega)
  cases h with
  | nil => exact absurd rfl hne
  | @cons p v pieces items hp _ =>
    obtain ⟨c, cs, hstart, hblank, hbracket⟩ := hp.opens
    obtain ⟨tail, htail⟩ := joinChars_eq_cons (',' :: gap) hstart pieces
    rw [htail, List.cons_append] at hitems
    have hchars : enclosed '[' ']' gap close (p :: pieces) ++ rest =
        '[' :: (gap ++ c :: (tail ++ (close ++ ']' :: rest))) := by
      simp [enclosed, htail]
    rw [hchars, readValue, skipBlanks_cons (by decide)]
    simp only [skipBlanks_append hgap, skipBlanks_cons hblank]
    split
    · next heq =>
      cases heq
      exact absurd rfl hbracket
    · exact hitems

/-- An object is read if its members are. -/
theorem readsAs_object {members : List (String × Value)} (hne : pieces ≠ [])
    (h : List.Forall₂ ReadsAsMember pieces members) :
    ReadsAs (enclosed '\x7b' '\x7d' gap close pieces) (.object members) := by
  refine .of_succ ⟨_, _, rfl, by decide, by decide⟩ fun n rest hfuel => ?_
  simp only [enclosed, List.length_append, List.length_cons, List.length_nil] at hfuel
  have hmembers := readMembers_joined hgap hclose hne h [] rest n (by omega)
  cases h with
  | nil => exact absurd rfl hne
  | @cons p m pieces members hp _ =>
    obtain ⟨space, value, _, hp, _⟩ := hp
    obtain ⟨tail, htail⟩ := joinChars_eq_cons (',' :: gap) (hp.trans rfl) pieces
    rw [htail, List.cons_append] at hmembers
    have hchars : enclosed '\x7b' '\x7d' gap close (p :: pieces) ++ rest =
        '\x7b' :: (gap ++ '"' :: (tail ++ (close ++ '\x7d' :: rest))) := by
      simp [enclosed, htail]
    have hquote (cs : List Char) : skipBlanks ('"' :: cs) = '"' :: cs :=
      skipBlanks_cons (by decide) cs
    rw [hchars, readValue, skipBlanks_cons (by decide)]
    simp only [skipBlanks_append hgap, hquote]
    exact hmembers

end brackets

/-- Values in which no number occurs. -/
inductive Value.Numberless : Value → Prop where
  /-- The literal `null`. -/
  | null : Numberless .null
  /-- A truth value. -/
  | bool (b : Bool) : Numberless (.bool b)
  /-- A text. -/
  | string (s : String) : Numberless (.string s)
  /-- A list of such values. -/
  | array {items : List Value} (h : ∀ v ∈ items, v.Numberless) : Numberless (.array items)
  /-- Such values with their names. -/
  | object {members : List (String × Value)} (h : ∀ m ∈ members, m.2.Numberless) :
    Numberless (.object members)

/-- Pieces in brackets stand on lines of their own. -/
theorem bracketed_cons (level : Nat) (opening closing : Char) (p : List Char)
    (pieces : List (List Char)) :
    bracketed level opening closing (p :: pieces) =
      enclosed opening closing (newLine (level + 1)) (newLine level) (p :: pieces) := by
  simp [bracketed, enclosed]

/-- Items that are read back are so on lines of their own too. -/
theorem forall₂_indentedItems {level : Nat} {items : List Value}
    (h : ∀ v ∈ items, ReadsAs (v.indented level) v) :
    List.Forall₂ ReadsAs (indentedItems level items) items := by
  induction items with
  | nil => exact .nil
  | cons v items ih =>
    exact .cons (h v List.mem_cons_self) (ih fun w hw => h w (List.mem_cons_of_mem _ hw))

theorem forall₂_indentedMembers {level : Nat} {members : List (String × Value)}
    (h : ∀ m ∈ members, ReadsAs (m.2.indented level) m.2) :
    List.Forall₂ ReadsAsMember (indentedMembers level members) members := by
  induction members with
  | nil => exact .nil
  | cons m members ih =>
    exact .cons ⟨[' '], _, blanks_space, rfl, h m List.mem_cons_self⟩
      (ih fun m' hm' => h m' (List.mem_cons_of_mem _ hm'))

/-- Items that are read back are so side by side too. -/
theorem forall₂_compactItems {items : List Value} (h : ∀ v ∈ items, ReadsAs v.compact v) :
    List.Forall₂ ReadsAs (compactItems items) items := by
  induction items with
  | nil => exact .nil
  | cons v items ih =>
    exact .cons (h v List.mem_cons_self) (ih fun w hw => h w (List.mem_cons_of_mem _ hw))

theorem forall₂_compactMembers {members : List (String × Value)}
    (h : ∀ m ∈ members, ReadsAs m.2.compact m.2) :
    List.Forall₂ ReadsAsMember (compactMembers members) members := by
  induction members with
  | nil => exact .nil
  | cons m members ih =>
    exact .cons ⟨[], _, blanks_nil, rfl, h m List.mem_cons_self⟩
      (ih fun m' hm' => h m' (List.mem_cons_of_mem _ hm'))

/-- An indented value is read back. -/
theorem readsAs_indented {v : Value} (hv : v.Numberless) (level : Nat) :
    ReadsAs (v.indented level) v := by
  induction hv generalizing level with
  | null => exact readsAs_null
  | bool b => exact readsAs_bool b
  | string s => exact readsAs_string s
  | @array items _ ih =>
    have hpieces := forall₂_indentedItems fun v hv => ih v hv (level + 1)
    rw [Value.indented]
    cases items with
    | nil => exact readsAs_emptyArray
    | cons v items =>
      rw [indentedItems, bracketed_cons]
      exact readsAs_array (blanks_newLine _) (blanks_newLine _) (List.cons_ne_nil _ _) hpieces
  | @object members _ ih =>
    have hpieces := forall₂_indentedMembers fun m hm => ih m hm (level + 1)
    rw [Value.indented]
    cases members with
    | nil => exact readsAs_emptyObject
    | cons m members =>
      rw [indentedMembers, bracketed_cons]
      exact readsAs_object (blanks_newLine _) (blanks_newLine _) (List.cons_ne_nil _ _) hpieces

/-- So is a compact one. -/
theorem readsAs_compact {v : Value} (hv : v.Numberless) : ReadsAs v.compact v := by
  induction hv with
  | null => exact readsAs_null
  | bool b => exact readsAs_bool b
  | string s => exact readsAs_string s
  | @array items _ ih =>
    rw [Value.compact]
    cases items with
    | nil => exact readsAs_emptyArray
    | cons v items =>
      exact readsAs_array blanks_nil blanks_nil (List.cons_ne_nil _ _) (forall₂_compactItems ih)
  | @object members _ ih =>
    rw [Value.compact]
    cases members with
    | nil => exact readsAs_emptyObject
    | cons m members =>
      exact readsAs_object blanks_nil blanks_nil (List.cons_ne_nil _ _) (forall₂_compactMembers ih)

/-- A written text is read back as a whole. -/
theorem read_of_readsAs {cs : List Char} {v : Value} (h : ReadsAs cs v) :
    read (String.ofList cs) = ⟨v.draft, true⟩ := by
  have hback := h.reads (2 * cs.length + 2) [] (by omega)
  rw [List.append_nil] at hback
  rw [read, String.toList_ofList, readChars, hback]
  rfl

/-- A value without numbers is read back from its text over many lines. -/
theorem read_indentedText {v : Value} (hv : v.Numberless) :
    read v.indentedText = ⟨v.draft, true⟩ :=
  read_of_readsAs (readsAs_indented hv 0)

/-- It is read back from its text on one line as well. -/
theorem read_compactText {v : Value} (hv : v.Numberless) : read v.compactText = ⟨v.draft, true⟩ :=
  read_of_readsAs (readsAs_compact hv)

end HostRoster.Json
