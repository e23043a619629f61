import PuzzlePrograms.Failure
import PuzzlePrograms.Source.Printer
import PuzzlePrograms.Source.Token

/-!
# What can go wrong with programs as data

Causes that stop a conversion of programs, and the words for those that are stated in words.
-/

namespace PuzzlePrograms

inductive Problem where
  | failed (e : Failure)
  | source (f : Source.Fault)
  | unwritable (u : Source.Unwritable)
  | unboundName
  | asserted (text : String)
  /-- A cause that any operation on values can have, met where a condition is checked and said in words. -/
  | stated (e : Failure) (text : String)
  | unhandledTerm (kind : String)
  | unexpectedEnd
  | unexpectedClose
  | noExpression
  | startsClosed
  | trailing (text : String)
  | unclosed (text : String)
  | freeVariables
  | panicked (text : String)
  | turnedDown (kind : String)
  | noFile
  | isFolder
  | notFolder
  | alreadyThere
  | noJson
  deriving Repr

def Problem.message? : Problem → Option String
  | .failed e => e.message?
  | .asserted t => some t
  | .stated _ t => some t
  | .unhandledTerm k => some ("Unhandled node type: <class 'ast." ++ k ++ "'>")
  | .unexpectedEnd => some "unexpected EOF"
  | .unexpectedClose => some "unexpected )"
  | .noExpression => some "SExpr parse called on empty (or all whitespace) string"
  | .startsClosed => some "SExpr starts with a closeparen"
  | .trailing t => some ("trailing characters after final closeparen in " ++ t)
  | .unclosed t => some ("unbalanced parens: unclosed parens in " ++ t)
  | .freeVariables => some "abstraction contains free variables"
  | .panicked t => some ("Rust backend panicked with exception: " ++ t)
  | _ => none

abbrev Conversion := Except Problem

def fail (e : Failure) : Conversion α := .error (.failed e)

def notSearchable (type : String) : Conversion α :=
  .error (.stated .wrongType ("argument of type '" ++ type ++ "' is not iterable"))

def lacksMember (type member : String) : Conversion α :=
  .error (.stated .noAttribute ("'" ++ type ++ "' object has no attribute '" ++ member ++ "'"))

def noLength (type : String) : Conversion α :=
  .error (.stated .wrongType ("object of type '" ++ type ++ "' has no len()"))

end PuzzlePrograms
