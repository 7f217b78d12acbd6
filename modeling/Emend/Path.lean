import Emend.Text.Lines

/-!
# Paths

Paths as texts: their extension, and putting a relative path behind a directory. Nothing here looks at
files.
-/

namespace Emend.Path

/-- The part after the last slash. -/
def baseName (p : List Char) : List Char := (p.reverse.takeWhile (· != '/')).reverse

/-- The extension with its point: from the last point of the name on, unless only points stand before
it. -/
def extension (p : List Char) : List Char :=
  let name := (baseName p).dropWhile (· == '.')
  if name.contains '.' then '.' :: (name.reverse.takeWhile (· != '.')).reverse else []

/-- The path starts at the root. -/
def isAbsolute (p : List Char) : Bool := p.head? == some '/'

/-- The path behind a directory; an absolute path stands by itself. -/
def join (directory p : List Char) : List Char :=
  if isAbsolute p then p
  else if directory.isEmpty || directory.getLast? == some '/' then directory ++ p
  else directory ++ '/' :: p

/-- The parts between slashes. -/
def components (p : List Char) : List (List Char) := Text.pieces '/' p

/-- Work a component into those before it, the last first: a point adds nothing, and two points take
one away where there is one to take. -/
def addComponent (absolute : Bool) (acc : List (List Char)) (part : List Char) : List (List Char) :=
  if part.isEmpty || part == ['.'] then acc
  else if part != ['.', '.'] then part :: acc
  else match acc with
    | [] => if absolute then [] else [part]
    | last :: before => if last == ['.', '.'] then part :: acc else before

/-- The slashes in front of a path that are kept: two stay two, any other number is one. -/
def rootSlashes (p : List Char) : List Char :=
  match p.takeWhile (· == '/') with
  | [] => []
  | ['/', '/'] => ['/', '/']
  | _ => ['/']

/-- The path without points, empty components and components that are taken back. -/
def normalize (p : List Char) : List Char :=
  let slashes := rootSlashes p
  let parts := ((components p).foldl (addComponent (!slashes.isEmpty)) []).reverse
  let path := slashes ++ List.intercalate ['/'] parts
  if path.isEmpty then ['.'] else path

/-- The part before the last slash, without slashes at its end unless it is nothing else. -/
def directoryName (p : List Char) : List Char :=
  let head := p.take (p.length - (baseName p).length)
  if head.all (· == '/') then head else (head.reverse.dropWhile (· == '/')).reverse

end Emend.Path
