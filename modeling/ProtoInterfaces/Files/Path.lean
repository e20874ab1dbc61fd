import ProtoInterfaces.Text.Utf8

/-!
# Paths

A path is a text of segments between slashes. Empty segments mean nothing, `.` means the place
already reached and `..` the one above it. This module reads and writes paths as texts only;
where they lead is told by a file tree.
-/
namespace ProtoInterfaces.Path

/-- The segment that means the place already reached. -/
def here : Text := ['.']

/-- The segment that means the place above. -/
def above : Text := ['.', '.']

/-- The segments of a path that are not empty. -/
def segments (path : Text) : List Text := path.runs (· = '/')

/-- Whether a path begins at the root. -/
def isAbsolute (path : Text) : Bool := path.head? = some '/'

/-- Whether a path asks for a directory by the slash at its end. -/
def endsWithSlash (path : Text) : Bool := path.getLast? = some '/'

/-- The root that a path begins with: none, one slash, or two if there are exactly two. -/
def root (path : Text) : Text :=
  match path.takeWhile (· = '/') with
  | [] => []
  | ['/', '/'] => ['/', '/']
  | _ => ['/']

/-- The segments of a path that lead somewhere else. -/
def steps (path : Text) : List Text := (segments path).filter fun segment => segment ≠ here

/-- A path in its shortest form: one slash between segments and none at the end, no segment that
stays in place, and a single `.` if nothing is left. Segments that lead up are kept. -/
def normal (path : Text) : Text :=
  match root path ++ Text.join ['/'] (steps path) with
  | [] => here
  | shortest => shortest

/-- The last segment of a path that leads somewhere, empty if there is none. -/
def lastName (path : Text) : Text := (steps path).getLastD []

/-- A name without its last extension. A dot at either end of a name begins no extension. -/
def withoutExtension (name : Text) : Text :=
  let extension := name.reverse.takeWhile (· ≠ '.')
  let before := name.reverse.dropWhile (· ≠ '.')
  match extension, before with
  | _ :: _, _ :: stem@(_ :: _) => stem.reverse
  | _, _ => name

/-- The last name of a path without its last extension. -/
def stem (path : Text) : Text := withoutExtension (lastName path)

/-- A relative path within a directory. -/
def within (directory relative : Text) : Text :=
  if directory.isEmpty || endsWithSlash directory then directory ++ relative
  else directory ++ ['/'] ++ relative

/-- A path divided before its last segment, slashes between the two parts dropped unless nothing
but slashes stands before it. The last segment is empty if the path ends with a slash. -/
def divide (path : Text) : Text × Text :=
  let name := path.reverse.takeWhile (· ≠ '/')
  let before := path.reverse.dropWhile (· ≠ '/')
  match before.dropWhile (· = '/') with
  | [] => (before.reverse, name.reverse)
  | directory => (directory.reverse, name.reverse)

/-- The parent directory of a path and its last segment, a slash at the end set aside. -/
def parentAndName (path : Text) : Text × Text :=
  let parts := divide path
  if parts.2.isEmpty then divide parts.1 else parts

/-- The longest name of a file, in bytes. -/
def longestName : Nat := 255

/-- The longest path, in bytes. -/
def longestPath : Nat := 4095

/-- Dividing a path keeps its parts within its length. -/
theorem length_divide (path : Text) :
    (divide path).1.length + (divide path).2.length ≤ path.length := by
  have parted : (path.reverse.takeWhile (· ≠ '/')).length +
      (path.reverse.dropWhile (· ≠ '/')).length = path.length := by
    rw [← List.length_append, List.takeWhile_append_dropWhile, List.length_reverse]
  have shorter := (List.dropWhile_sublist (l := path.reverse.dropWhile (· ≠ '/'))
    (p := (· = '/'))).length_le
  simp only [divide]
  split <;> rename_i directory <;> simp only [List.length_reverse] at * <;> omega

/-- A parent directory is shorter than a path whose last segment is not empty. -/
theorem length_parentAndName {path : Text} (named : (parentAndName path).2 ≠ []) :
    (parentAndName path).1.length < path.length := by
  have outer := length_divide path
  unfold parentAndName at named ⊢
  by_cases bare : (divide path).2.isEmpty
  · simp only [bare, if_true] at named ⊢
    have inner := length_divide (divide path).1
    have positive := List.length_pos_iff.mpr named
    omega
  · rw [if_neg bare] at named ⊢
    have positive := List.length_pos_iff.mpr named
    omega

end ProtoInterfaces.Path
