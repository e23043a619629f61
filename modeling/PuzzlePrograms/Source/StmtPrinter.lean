import PuzzlePrograms.Source.Printer

/-!
# Writing statements as source text

A statement is written as a list of lines; the lines of a block stand four blanks deeper than its header.
A definition is parted from what stands before it by an empty line. A docstring is one item of the list,
whatever line breaks it holds.
-/

namespace PuzzlePrograms.Source

/-! ## 1. Patterns -/

mutual

def Pattern.write (level : Level) : Pattern → Written String
  | .value e => e.text
  | .constant c => .ok c.text
  | .sequence ps => do
    return "[" ++ String.intercalate ", " (← writePatterns Level.test ps) ++ "]"
  | .star x => .ok ("*" ++ x.getD "_")
  | .mapping ks ps rest => do
    let a ← ks.mapM Expr.text
    let b ← writePatterns Level.test ps
    let es := (a.zip b).map fun (k, p) => k ++ ": " ++ p
    let r := match rest with
      | some x => ["**" ++ x]
      | none => []
    return "\x7b" ++ String.intercalate ", " (es ++ r) ++ "\x7d"
  | .cls c ps names named => do
    let a ← c.doc.text false Level.atom
    let b ← writePatterns Level.test ps
    let d ← writePatterns Level.test named
    let e := (names.zip d).map fun (x, p) => x ++ "=" ++ p
    return a ++ "(" ++ String.intercalate ", " (b ++ e) ++ ")"
  | .bind p x => do
    match x with
    | none => return "_"
    | some x =>
      match p with
      | none => return x
      | some p => return bracketedIf (level > Level.test) ((← p.write Level.bitOr) ++ " as " ++ x)
  | .or ps => do
    let ts ← writePatterns (Level.next Level.bitOr) ps
    return bracketedIf (level > Level.bitOr) (String.intercalate " | " ts)

def writePatterns (level : Level) : List Pattern → Written (List String)
  | [] => .ok []
  | p :: ps => do
    let a ← p.write level
    return a :: (← writePatterns level ps)

end

/-! ## 2. Statements -/

def deeper (lines : List String) : List String := lines.map fun l => if l.isEmpty then l else "    " ++ l

def withBlock (header : String) (lines : List String) : List String := (header ++ ":") :: deeper lines

def wordBlock (word : String) (lines : List String) : List String := if lines.isEmpty then [] else withBlock word lines

def commaTexts (es : List Expr) : Written String := do
  return String.intercalate ", " (← es.mapM Expr.text)

def optText (mark : String) (e : Expr) : Written String := Doc.optional false mark e e.doc

def docstring? : List Stmt → Option (String × Bool)
  | .expr (.const (.str s marked)) :: _ => some (s, marked)
  | _ => none

def describedLines (body : List Stmt) (lines : List (List String)) : List String :=
  match docstring? body with
  | some (s, marked) =>
    ((if marked then "u" else "") ++ inLightQuotes s longQuotes) :: (lines.drop 1).flatten
  | none => lines.flatten

def aliasText (x : String × Option String) : String :=
  match x.2 with
  | some a => x.1 ++ " as " ++ a
  | none => x.1

def elifLines : List String → List String
  | l :: ls => ("el" ++ l) :: ls
  | [] => []

def decoratorLines (ds : List Expr) : Written (List String) := ds.mapM fun d => do return "@" ++ (← d.text)

mutual

def Stmt.lines (isStar : Bool) : Stmt → Written (List String)
  | .functionDef isAsync x ps body ds r => do
    let d ← decoratorLines ds
    let p ← ps.text
    let r ← optText " -> " r
    let b ← linesOf false body
    let header := (if isAsync then "async def " else "def ") ++ x ++ "(" ++ p ++ ")" ++ r
    return "" :: d ++ withBlock header (describedLines body b)
  | .classDef x bases keywords body ds => do
    let d ← decoratorLines ds
    let a ← commaTexts (bases ++ keywords)
    let b ← linesOf false body
    let header := "class " ++ x ++ (if (bases ++ keywords).isEmpty then "" else "(" ++ a ++ ")")
    return "" :: d ++ withBlock header (describedLines body b)
  | .return e => do return ["return" ++ (← optText " " e)]
  | .delete es => do return ["del " ++ (← commaTexts es)]
  | .assign ts v => do
    let a ← Doc.allAt false Level.tuple (docs ts)
    let b ← v.text
    return [String.join (a.map (· ++ " = ")) ++ b]
  | .augAssign t o v => do
    let a ← t.text
    let b ← v.text
    return [a ++ " " ++ o.text ++ "= " ++ b]
  | .annAssign t a v simple => do
    let x ← t.text
    let isName := match t with
      | .name _ => true
      | _ => false
    let y ← a.text
    let z ← optText " = " v
    return [bracketedIf (!simple && isName) x ++ ": " ++ y ++ z]
  | .for isAsync t e body orelse => do
    let a ← t.doc.text false Level.tuple
    let b ← e.text
    let ls ← linesOf false body
    let os ← linesOf false orelse
    return withBlock ((if isAsync then "async for " else "for ") ++ a ++ " in " ++ b) ls.flatten
      ++ wordBlock "else" os.flatten
  | .while c body orelse => do
    let a ← c.text
    let ls ← linesOf false body
    let os ← linesOf false orelse
    return withBlock ("while " ++ a) ls.flatten ++ wordBlock "else" os.flatten
  | .if c body orelse => do
    let a ← c.text
    let ls ← linesOf false body
    let os ← linesOf false orelse
    let rest := match orelse with
      | [.if _ _ _] => elifLines os.flatten
      | _ => wordBlock "else" os.flatten
    return withBlock ("if " ++ a) ls.flatten ++ rest
  | .with isAsync items body => do
    let a ← items.mapM fun (e, v) => do
      let x ← e.text
      return x ++ (← optText " as " v)
    let ls ← linesOf false body
    return withBlock ((if isAsync then "async with " else "with ") ++ String.intercalate ", " a)
      ls.flatten
  | .match e cases => do
    let a ← e.text
    let ls ← linesOf false cases
    return withBlock ("match " ++ a) ls.flatten
  | .case p g body => do
    let a ← p.write Level.test
    let b ← optText " if " g
    let ls ← linesOf false body
    return withBlock ("case " ++ a ++ b) ls.flatten
  | .raise e c => do
    if e.isAbsent then return ["raise"]
    let a ← e.text
    return ["raise " ++ a ++ (← optText " from " c)]
  | .try star body handlers orelse final => do
    let ls ← linesOf false body
    let hs ← linesOf star handlers
    let os ← linesOf false orelse
    let fs ← linesOf false final
    return withBlock "try" ls.flatten ++ hs.flatten ++ wordBlock "else" os.flatten
      ++ wordBlock "finally" fs.flatten
  | .handler e x body => do
    let a ← optText " " e
    let b := match x with
      | some x => " as " ++ x
      | none => ""
    let ls ← linesOf false body
    return withBlock ((if isStar then "except*" else "except") ++ a ++ b) ls.flatten
  | .assert c m => do
    let a ← c.text
    return ["assert " ++ a ++ (← optText ", " m)]
  | .importModule xs => .ok ["import " ++ String.intercalate ", " (xs.map aliasText)]
  | .importFrom m xs level =>
    .ok ["from " ++ String.ofList (List.replicate level '.') ++ m.getD "" ++ " import "
      ++ String.intercalate ", " (xs.map aliasText)]
  | .global xs => .ok ["global " ++ String.intercalate ", " xs]
  | .nonlocal xs => .ok ["nonlocal " ++ String.intercalate ", " xs]
  | .expr e => do return [← e.doc.text false Level.yield]
  | .pass => .ok ["pass"]
  | .break => .ok ["break"]
  | .continue => .ok ["continue"]

def linesOf (isStar : Bool) : List Stmt → Written (List (List String))
  | [] => .ok []
  | s :: ss => do
    let a ← s.lines isStar
    return a :: (← linesOf isStar ss)

end

def joinLines (lines : List String) : String :=
  match lines with
  | "" :: rest => String.intercalate "\n" rest
  | lines => String.intercalate "\n" lines

def Stmt.text (s : Stmt) : Written String := do return joinLines (← s.lines false)

end PuzzlePrograms.Source
