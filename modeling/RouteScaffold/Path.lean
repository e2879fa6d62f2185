/-!
File paths as written, and the components by which they are compared.

A path keeps its spelling, which is what messages show. Two spellings with the same components are
the same path: repeated and trailing slashes and inner `.` segments do not count, a leading `.` and
every `..` do.
-/

namespace RouteScaffold

inductive Component where
  | root
  | current
  | parent
  | name (text : String)
  deriving DecidableEq, Repr

namespace Component

def rank : Component → Nat
  | .root => 0
  | .current => 1
  | .parent => 2
  | .name _ => 3

def text : Component → String
  | .root => "/"
  | .current => "."
  | .parent => ".."
  | .name text => text

/-- First by kind, then names by their text. -/
instance : Ord Component := ⟨compareLex (compareOn rank) (compareOn text)⟩

instance : Std.TransOrd Component :=
  inferInstanceAs (Std.TransCmp (compareLex (compareOn rank) (compareOn text)))

instance : Std.LawfulEqOrd Component where
  eq_of_compare {a b} h := by
    obtain ⟨hrank, htext⟩ := Ordering.then_eq_eq.1 h
    have hrank := Std.LawfulEqOrd.eq_of_compare hrank
    have htext := Std.LawfulEqOrd.eq_of_compare htext
    cases a <;> cases b <;> simp_all [rank, text]

end Component

/-- A path in its written form. -/
structure Path where
  text : String
  deriving DecidableEq, Repr

namespace Path

/-- The parts between slashes. -/
def segments (path : Path) : List String :=
  (path.text.toList.splitOn '/').map String.ofList

def ofSegments (segments : List String) : Path :=
  ⟨"/".intercalate segments⟩

/-- A segment that names nothing: empty, or the directory it stands in. -/
def isNoise (segment : String) : Bool :=
  segment == "" || segment == "."

def componentOf (segment : String) : Component :=
  if segment == ".." then .parent else .name segment

/-- The first segments that count as a component of their own: a root or a leading `.`. -/
def leading : List String → List Component
  | "" :: _ :: _ => [.root]
  | "." :: _ => [.current]
  | _ => []

def components (path : Path) : List Component :=
  leading path.segments ++ (path.segments.filter (!isNoise ·)).map componentOf

instance : Ord Path := ⟨compareOn components⟩

instance : Std.TransOrd Path := inferInstanceAs (Std.TransCmp (compareOn components))

/-- Equality of paths as places, whatever their spelling. -/
def Same (p q : Path) : Prop := p.components = q.components

instance (p q : Path) : Decidable (p.Same q) := inferInstanceAs (Decidable (_ = _))

theorem compare_eq_iff_same {p q : Path} : compare p q = .eq ↔ p.Same q :=
  Std.LawfulEqOrd.compare_eq_iff_eq (a := p.components) (b := q.components)

def isAbsolute (path : Path) : Bool :=
  path.text.toList.head? == some '/'

/-- The path `rest` seen from `base`; an absolute `rest` stands for itself. -/
def join (base rest : Path) : Path :=
  if rest.isAbsolute || base.text == "" then rest
  else if base.text.toList.getLast? == some '/' then ⟨base.text ++ rest.text⟩
  else ⟨base.text ++ "/" ++ rest.text⟩

/-- Drops the segments at the end that name nothing. -/
def dropNoise (segments : List String) : List String :=
  (segments.reverse.dropWhile isNoise).reverse

/-- The segments without the last one that names something. -/
def dropLastName (segments : List String) : Option (List String) :=
  match dropNoise segments with
  | [] => none
  | named => some (dropNoise named.dropLast)

/-- The path without its last component, if it has one that may be dropped. -/
def parent? (path : Path) : Option Path :=
  match path.segments with
  | "" :: next :: rest =>
    (dropLastName (next :: rest)).map fun kept =>
      if kept.isEmpty then ⟨"/"⟩ else ofSegments ("" :: kept)
  | "." :: rest =>
    match dropLastName rest with
    | some kept => some (ofSegments ("." :: kept))
    | none => some ⟨""⟩
  | segments => (dropLastName segments).map ofSegments

/-- The last component, if it is a name. -/
def fileName? (path : Path) : Option String :=
  match path.components.getLast? with
  | some (.name text) => some text
  | _ => none

/-- What follows the last dot of the file name, unless the name begins with that dot. -/
def extension? (path : Path) : Option String :=
  path.fileName?.bind fun name =>
    match (name.toList.splitOn '.').reverse with
    | last :: stem :: others =>
      if others.isEmpty && stem.isEmpty then none else some (String.ofList last)
    | _ => none

end Path

example : (Path.mk "a/./b").Same ⟨"a//b/"⟩ := by decide +kernel
example : ¬ (Path.mk "./a").Same ⟨"a"⟩ := by decide +kernel
example : (Path.mk "c/../api.yaml").parent? = some ⟨"c/.."⟩ := by decide +kernel
example : (Path.mk "a/b/").parent? = some ⟨"a"⟩ := by decide +kernel
example : (Path.mk "/a").parent? = some ⟨"/"⟩ := by decide +kernel
example : (Path.mk ".yaml").extension? = none := by decide +kernel

end RouteScaffold
