import Shorthand.Abbreviations
import Shorthand.CommandLine

/-!
# Program

The program of the command line.  It serves no editor by itself: that takes a
transport, which is the business of a program that embeds a session.
-/

namespace Shorthand

/-- Writes what a program leaves behind, and gives its exit code. -/
def Exit.write (result : Exit) : IO UInt32 := do
  (← IO.getStdout).putStr (String.ofList result.output)
  (← IO.getStderr).putStr (String.ofList result.errors)
  return UInt32.ofNat result.code

def program (words : List String) : IO UInt32 :=
  match Command.ofWords (words.map String.toList) with
  | none => Exit.usage.write
  | some (.expand grammar rendition abbreviation) =>
    (expansionExit abbreviations grammar rendition abbreviation).write
  | some (.serve _) => Exit.write ⟨1, [], "error: no transport\n".toList⟩

end Shorthand

def main (words : List String) : IO UInt32 := Shorthand.program words
