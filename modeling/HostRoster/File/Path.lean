/-!
# Paths

A path is a row of segments between slashes, from the root or from the working directory. A segment
that is empty or a single dot is no name. On the way such segments lead nowhere else, but the path
keeps them: the length of its text is limited, and at the end they ask for a directory. Reading a
path and writing it gives the same text.
-/

namespace HostRoster

/-- What a path starts with. -/
inductive PathStart where
  /-- A slash, for the root. -/
  | root
  /-- A single dot, for the working directory. -/
  | here
  /-- A segment, which is looked for in the working directory. -/
  | segment
  deriving DecidableEq, Repr

/-- What a path ends with. -/
inductive PathEnd where
  /-- A name, or nothing at all. -/
  | name
  /-- A slash. -/
  | slash
  /-- A single dot. -/
  | dot
  deriving DecidableEq, Repr

/-- A path. -/
structure Path where
  /-- What it starts with. -/
  start : PathStart
  /-- The segments after the start. After a dot the first one is empty, if there is one. -/
  segments : List String
  deriving DecidableEq, Repr

/-- The start of a path as text. -/
def PathStart.text : PathStart → String
  | .root => "/"
  | .here => "."
  | .segment => ""

namespace Path

/-- The name for the directory itself. -/
def here : String := "."

/-- The name for the directory above. -/
def above : String := ".."

/-- The characters between slashes; the segment read so far is given backwards. -/
def segmentsFrom (sofar : List Char) : List Char → List String
  | [] => [String.ofList sofar.reverse]
  | '/' :: rest => String.ofList sofar.reverse :: segmentsFrom [] rest
  | c :: rest => segmentsFrom (c :: sofar) rest

/-- Reads a path. -/
def ofText (text : String) : Path :=
  match text.toList with
  | [] => ⟨.segment, []⟩
  | ['.'] => ⟨.here, []⟩
  | '.' :: '/' :: rest => ⟨.here, "" :: segmentsFrom [] rest⟩
  | '/' :: rest => ⟨.root, segmentsFrom [] rest⟩
  | cs => ⟨.segment, segmentsFrom [] cs⟩

/-- A path as text. -/
def text (p : Path) : String := p.start.text ++ String.intercalate "/" p.segments

theorem segmentsFrom_ne_nil (sofar cs : List Char) : segmentsFrom sofar cs ≠ [] := by
  fun_induction segmentsFrom sofar cs <;> simp_all

/-- A segment before others is followed by a slash. -/
theorem intercalate_cons_segmentsFrom (s : String) (sofar cs : List Char) :
    String.intercalate "/" (s :: segmentsFrom sofar cs) =
      s ++ "/" ++ String.intercalate "/" (segmentsFrom sofar cs) := by
  obtain ⟨t, l, h⟩ := List.exists_cons_of_ne_nil (segmentsFrom_ne_nil sofar cs)
  rw [h, String.intercalate_cons_cons]

/-- Segments with slashes between them are the characters they were read from. -/
theorem intercalate_segmentsFrom (sofar cs : List Char) :
    String.intercalate "/" (segmentsFrom sofar cs) = String.ofList (sofar.reverse ++ cs) := by
  fun_induction segmentsFrom sofar cs with
  | case1 sofar => simp
  | case2 sofar rest ih =>
    rw [intercalate_cons_segmentsFrom, ih]
    exact String.toList_injective (by simp)
  | case3 sofar c rest _ ih => rw [ih]; simp

/-- A path that was read has the text it was read from. -/
theorem text_ofText (s : String) : (ofText s).text = s := by
  apply String.toList_injective
  unfold ofText
  split <;> rename_i h <;>
    simp only [text, PathStart.text, intercalate_cons_segmentsFrom, intercalate_segmentsFrom] <;>
    simp [h]

/-- The path from the root through the given names. -/
def fromRoot (names : List String) : Path := ⟨.root, names⟩

/-- Whether a segment is a name. -/
def isName (segment : String) : Bool := !segment.isEmpty && segment != here

/-- The names, of which two dots mean the directory above. -/
def names (p : Path) : List String := p.segments.filter isName

/-- Whether a path starts at the root. -/
def isAbsolute (p : Path) : Bool := p.start = .root

/-- What a path ends with. -/
def ending (p : Path) : PathEnd :=
  match p.segments.reverse with
  | [] => .name
  | last :: before =>
    if (last :: before).find? (fun s => !s.isEmpty) = some here then .dot
    else if last.isEmpty then .slash
    else .name

/-- A start and segments without those at the end that are no names. The segments are given
backwards. -/
def trimmed (start : PathStart) (segments : List String) : Path :=
  ⟨start, (segments.dropWhile fun s => !isName s).reverse⟩

/-- The directory that a path is in; nothing for the root and for the working directory. -/
def parent? (p : Path) : Option Path :=
  match p.segments.reverse.dropWhile fun s => !isName s with
  | [] => none
  | _ :: above =>
    let parent := trimmed p.start above
    if parent = ⟨.segment, []⟩ then none else some parent

/-- The paths that end with one of the segments that is a name, and the start if it is a directory
by itself; the longest comes first. The segments are given backwards. -/
def ancestorsFrom (start : PathStart) : List String → List Path
  | [] => if start = .segment then [] else [⟨start, []⟩]
  | s :: above =>
    if isName s then ⟨start, (s :: above).reverse⟩ :: ancestorsFrom start above
    else ancestorsFrom start above

/-- A path and the directories above it, the nearest first. -/
def ancestors (p : Path) : List Path := ancestorsFrom p.start p.segments.reverse

/-- A name without its last part after a dot; a dot at the start does not count. -/
def stem (name : String) : String :=
  let after := name.toList.reverse.takeWhile (· != '.')
  let before := (name.toList.reverse.drop (after.length + 1)).reverse
  if before.isEmpty then name else String.ofList before

/-- The path of a file in the same directory under the stem of its name and another extension. What
follows the name falls away. A path that ends with no name stays as it is. The old extension is cut
off from the end of the text first: where nothing but two dots is left of the name there, they mean
the directory above, which gets no extension. -/
def withExtension (p : Path) (extension : String) : Path :=
  match p.segments.reverse.span fun s => !isName s with
  | (_, []) => p
  | (after, name :: before) =>
    if name = above then p
    else if after.isEmpty && stem name = here then ⟨p.start, (above :: before).reverse⟩
    else ⟨p.start, ((stem name ++ "." ++ extension) :: before).reverse⟩

end Path

end HostRoster
