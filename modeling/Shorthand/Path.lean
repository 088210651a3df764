import Shorthand.Text.Split

/-!
# Paths

A path in its normal form has no empty and no idle steps.  Two slashes in front
are kept apart from one and from three.
-/

namespace Shorthand.Path

/-- The slashes that stand for the root of a path. -/
def root : List Char → List Char
  | '/' :: '/' :: '/' :: _ => ['/']
  | '/' :: '/' :: _ => ['/', '/']
  | '/' :: _ => ['/']
  | _ => []

/-- The steps of a path that lead somewhere. -/
def steps (path : List Char) : List (List Char) :=
  (splitAt '/' path).filter fun step => !step.isEmpty && step != ['.']

def normalize (path : List Char) : List Char :=
  match root path ++ joinWith '/' (steps path) with
  | [] => ['.']
  | text => text

def join (directory file : List Char) : List Char := normalize (directory ++ '/' :: file)

end Shorthand.Path
