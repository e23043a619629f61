import PuzzlePrograms.Source.Term
import PuzzlePrograms.Text.CharClass

/-!
# Tokens of Python source text

A text is cut into names, numbers, strings and operators, with marks for the end of a logical line and
for a change of indentation. Line breaks inside brackets are blanks. The first thing that is no token ends
the list with `Token.fault`.

* `lex` is the whole cut; it goes through the text once, from left to right;
* numbers become constants here, strings keep the text between their quotes.
-/

namespace PuzzlePrograms.Source

/-! ## 1. Tokens -/

inductive Fault where
  | invalid
  | indentation
  | tabs
  deriving DecidableEq, Repr

structure StringMark where
  isBytes : Bool := false
  isRaw : Bool := false
  isFormatted : Bool := false
  isMarked : Bool := false
  deriving DecidableEq, Repr

inductive Token where
  | name (s : String)
  | number (c : Constant)
  | string (mark : StringMark) (body : List Char)
  | op (s : String)
  | newline
  | indent
  | dedent
  | endMarker
  | fault (f : Fault) (loud : Bool)
  deriving Inhabited, Repr

/-! ## 2. Numbers -/

def digitValue (c : Char) : Nat :=
  if c.isDigit then c.toNat - '0'.toNat
  else if 'a' ≤ c ∧ c ≤ 'f' then c.toNat - 'a'.toNat + 10
  else if 'A' ≤ c ∧ c ≤ 'F' then c.toNat - 'A'.toNat + 10
  else 16

def isDigitOf (base : Nat) (c : Char) : Bool := digitValue c < base

def valueOf (base : Nat) (ds : List Char) : Nat :=
  ds.foldl (fun n c => if c == '_' then n else base * n + digitValue c) 0

/-- Digits of a base with single low lines between them, and what follows. There is no such run if a
    low line has no digit after it. -/
def digitRun? (base : Nat) : List Char → Option (List Char × List Char)
  | c :: cs =>
    if isDigitOf base c then
      (digitRun? base cs).map fun (ds, rest) => (c :: ds, rest)
    else if c == '_' then
      match cs with
      | d :: _ =>
        if isDigitOf base d then (digitRun? base cs).map fun (ds, rest) => ('_' :: ds, rest)
        else none
      | [] => none
    else some ([], c :: cs)
  | [] => some ([], [])

/-- Whether what follows a number may follow it: no letter may, unless it starts one of the words that
    can stand after a number. -/
def endsNumber : List Char → Bool
  | 'a' :: 'n' :: 'd' :: _ | 'e' :: 'l' :: 's' :: 'e' :: _ | 'f' :: 'o' :: 'r' :: _
  | 'i' :: 'f' :: _ | 'i' :: 'n' :: _ | 'i' :: 's' :: _ | 'o' :: 'r' :: _
  | 'n' :: 'o' :: 't' :: _ => true
  | c :: _ => !(c.isAlphanum || c == '_' || 128 ≤ c.toNat)
  | [] => true

def floatOf (digits : Nat) (exponent : Int) : Float :=
  if digits == 0 then 0.0
  else if exponent < 0 then Float.ofScientific digits true (min exponent.natAbs 20000)
  else Float.ofScientific digits false (min exponent.natAbs 400)

def radixNumber? (base : Nat) (cs : List Char) : Option (Constant × List Char) := do
  let cs := match cs with
    | '_' :: rest => rest
    | rest => rest
  let (ds, rest) ← digitRun? base cs
  if ds.isEmpty || ds.head? == some '_' then none
  else if endsNumber rest && !(rest.head?.map Char.isDigit).getD false then
    some (.int (valueOf base ds), rest)
  else none

def exponentPart? (cs : List Char) : Option (Option Int × List Char) :=
  match cs with
  | e :: rest =>
    if e == 'e' || e == 'E' then
      match rest with
      | s :: d :: more =>
        if s == '+' || s == '-' then
          if d.isDigit then
            (digitRun? 10 (d :: more)).map fun (ds, rest) =>
              let n : Int := valueOf 10 ds
              (some (if s == '-' then -n else n), rest)
          else none
        else if s.isDigit then
          (digitRun? 10 rest).map fun (ds, rest) => (some (valueOf 10 ds : Int), rest)
        else some (none, cs)
      | s :: [] =>
        if s == '+' || s == '-' then none
        else if s.isDigit then some (some (digitValue s : Int), [])
        else some (none, cs)
      | [] => some (none, cs)
    else some (none, cs)
  | [] => some (none, [])

def number? (cs : List Char) : Option (Constant × List Char) := do
  match cs with
  | '0' :: 'x' :: rest | '0' :: 'X' :: rest => radixNumber? 16 rest
  | '0' :: 'o' :: rest | '0' :: 'O' :: rest => radixNumber? 8 rest
  | '0' :: 'b' :: rest | '0' :: 'B' :: rest => radixNumber? 2 rest
  | cs =>
    let (whole, rest) ← digitRun? 10 cs
    let (fraction?, rest) ← match rest with
      | '.' :: '_' :: _ => some (some [], rest.drop 1)
      | '.' :: rest => (digitRun? 10 rest).map fun (ds, rest) => (some ds, rest)
      | rest => some (none, rest)
    let (exponent?, rest) ← exponentPart? rest
    let fraction := (fraction?.getD []).filter (· != '_')
    let x := floatOf (valueOf 10 (whole ++ fraction)) (exponent?.getD 0 - fraction.length)
    match rest with
    | 'j' :: rest | 'J' :: rest => if endsNumber rest then some (.imaginary x, rest) else none
    | rest =>
      if !endsNumber rest then none
      else if fraction?.isSome || exponent?.isSome then some (.float x, rest)
      else if whole.head? == some '0' && whole.any (fun c => c != '0' && c != '_') then none
      else some (.int (valueOf 10 whole), rest)

/-! ## 3. Strings -/

/-- The text of a string up to its closing quotes, in reverse, and what follows them. `seen` counts the
    quotes just read. -/
def stringBody? (quote : Char) (size : Nat) : Nat → List Char → List Char → Option (List Char × List Char)
  | _, _, [] => none
  | seen, acc, c :: cs =>
    if c == quote then
      if seen + 1 == size then some ((c :: acc).drop size, cs)
      else stringBody? quote size (seen + 1) (c :: acc) cs
    else if c == '\n' && size == 1 then none
    else if c == '\\' then
      match cs with
      | d :: rest => stringBody? quote size 0 (d :: c :: acc) rest
      | [] => none
    else stringBody? quote size 0 (c :: acc) cs

def string? (cs : List Char) : Option (List Char × List Char) :=
  match cs with
  | a :: b :: c :: rest =>
    if a == b && b == c then (stringBody? a 3 0 [] rest).map fun (acc, r) => (acc.reverse, r)
    else if a == b then some ([], c :: rest)
    else (stringBody? a 1 0 [] (b :: c :: rest)).map fun (acc, r) => (acc.reverse, r)
  | [a, b] => if a == b then some ([], []) else none
  | _ => none

def stringMark? (letters : List Char) : Option StringMark :=
  match letters.map Char.toLower with
  | ['r'] => some { isRaw := true }
  | ['b'] => some { isBytes := true }
  | ['u'] => some { isMarked := true }
  | ['f'] => some { isFormatted := true }
  | ['b', 'r'] | ['r', 'b'] => some { isBytes := true, isRaw := true }
  | ['f', 'r'] | ['r', 'f'] => some { isFormatted := true, isRaw := true }
  | _ => none

/-! ## 4. Operators and names -/

def longOps : List String :=
  ["**=", "//=", ">>=", "<<=", "...", "!=", "==", "<=", ">=", "->", "+=", "-=", "*=", "/=", "%=",
   "&=", "|=", "^=", "@=", ":=", "**", "//", "<<", ">>"]

def shortOps : List Char := "()[]\x7b\x7d:,;+-*/|&<>=.%~^@".toList

def op? (cs : List Char) : Option (String × List Char) :=
  match longOps.find? fun o => o.toList.isPrefixOf cs with
  | some o => some (o, cs.drop o.length)
  | none =>
    match cs with
    | c :: rest => if shortOps.contains c then some (c.toString, rest) else none
    | [] => none

def isNameLike (c : Char) : Bool := c.isAlphanum || c == '_' || 128 ≤ c.toNat

def closing : Char → Char
  | '(' => ')'
  | '[' => ']'
  | _ => '\x7d'

def bracketLimit : Nat := 200

def blockLimit : Nat := 100

/-! ## 5. Lines -/

/-- The depth of a line in two ways of counting a tab, and the rest of the line. A line that is
    continued counts by the depth at its first mark of continuation; `none` if such a mark is not at the
    end of a line or ends the text. -/
def depth : Nat → Nat → Nat → Option Nat → List Char → Option (Nat × Nat × List Char)
  | 0, _, _, _, _ => none
  | n + 1, col, alt, held, cs =>
    match cs with
    | ' ' :: rest => depth n (col + 1) (alt + 1) held rest
    | '\t' :: rest => depth n ((col / 8 + 1) * 8) (alt + 1) held rest
    | '\x0c' :: rest => depth n 0 0 held rest
    | '\\' :: '\n' :: rest =>
      if rest.isEmpty then none
      else
        let held := match held with
          | some h => if h == 0 then some col else held
          | none => some col
        depth n col alt held rest
    | '\\' :: _ => none
    | rest =>
      match held with
      | some h => if h == 0 then some (col, alt, rest) else some (h, h, rest)
      | none => some (col, alt, rest)

inductive Shift where
  | same
  | deeper (blocks : List (Nat × Nat))
  | shallower (count : Nat) (blocks : List (Nat × Nat))
  | fault (f : Fault)

def closeBlocks (col : Nat) : Nat → List (Nat × Nat) → Nat × List (Nat × Nat)
  | count, (c, a) :: rest =>
    if col < c && !rest.isEmpty then closeBlocks col (count + 1) rest else (count, (c, a) :: rest)
  | count, [] => (count, [])

def shift (col alt : Nat) (blocks : List (Nat × Nat)) : Shift :=
  match blocks with
  | [] => .same
  | (c, a) :: _ =>
    if col == c then if alt == a then .same else .fault .tabs
    else if c < col then
      if blockLimit ≤ blocks.length then .fault .indentation
      else if alt ≤ a then .fault .tabs
      else .deeper ((col, alt) :: blocks)
    else
      let (count, rest) := closeBlocks col 0 blocks
      match rest with
      | (c', a') :: _ =>
        if col != c' then .fault .indentation
        else if alt != a' then .fault .tabs
        else .shallower count rest
      | [] => .fault .indentation

def skipComment (cs : List Char) : List Char := cs.dropWhile (· != '\n')

/-! ## 6. The cut -/

/-- Cut a text into tokens. `blocks` are the open blocks, the innermost first, and `brackets` the open
    brackets; `fresh` tells that a line starts here. -/
def lexFrom : Nat → List (Nat × Nat) → List Char → Bool → List Char → List Token
  | 0, _, _, _, _ => [.fault .invalid true]
  | n + 1, blocks, brackets, true, cs =>
    match depth (n + 1) 0 0 none cs with
    | none => [.fault .invalid false]
    | some (col, alt, rest) =>
      match rest with
      | '#' :: _ => lexFrom n blocks brackets true ((skipComment rest).drop 1)
      | '\n' :: rest => lexFrom n blocks brackets true rest
      | rest =>
        if !brackets.isEmpty then lexFrom n blocks brackets false rest
        else
          match shift col alt blocks with
          | .same => lexFrom n blocks brackets false rest
          | .deeper blocks => .indent :: lexFrom n blocks brackets false rest
          | .shallower count blocks =>
            List.replicate count .dedent ++ lexFrom n blocks brackets false rest
          | .fault f => [.fault f false]
  | n + 1, blocks, brackets, false, cs =>
    match cs with
    | [] => if brackets.isEmpty then [.endMarker] else [.fault .invalid false]
    | ' ' :: rest | '\t' :: rest | '\x0c' :: rest => lexFrom n blocks brackets false rest
    | '#' :: _ => lexFrom n blocks brackets false (skipComment cs)
    | '\n' :: rest =>
      if brackets.isEmpty then .newline :: lexFrom n blocks brackets true rest
      else lexFrom n blocks brackets true rest
    | '\\' :: '\n' :: rest =>
      if rest.isEmpty then [.fault .invalid false] else lexFrom n blocks brackets false rest
    | '\\' :: _ => [.fault .invalid false]
    | c :: rest =>
      if c == '"' || c == '\'' then
        match string? cs with
        | some (body, rest) => .string {} body :: lexFrom n blocks brackets false rest
        | none => [.fault .invalid true]
      else if c.isDigit || (c == '.' && (rest.head?.map Char.isDigit).getD false) then
        match number? cs with
        | some (k, rest) => .number k :: lexFrom n blocks brackets false rest
        | none => [.fault .invalid true]
      else if isNameLike c then
        let word := cs.takeWhile isNameLike
        let rest := cs.dropWhile isNameLike
        match stringMark? word, rest with
        | some mark, q :: _ =>
          if q == '"' || q == '\'' then
            match string? rest with
            | some (body, rest) => .string mark body :: lexFrom n blocks brackets false rest
            | none => [.fault .invalid true]
          else .name (String.ofList word) :: lexFrom n blocks brackets false rest
        | _, _ =>
          if Text.isName (String.ofList word) then
            .name (String.ofList word) :: lexFrom n blocks brackets false rest
          else [.fault .invalid true]
      else
        match op? cs with
        | none => [.fault .invalid true]
        | some (o, rest') =>
          if c == '(' || c == '[' || c == '\x7b' then
            if bracketLimit ≤ brackets.length then [.fault .invalid true]
            else .op o :: lexFrom n blocks (closing c :: brackets) false rest'
          else if c == ')' || c == ']' || c == '\x7d' then
            match brackets with
            | b :: brackets =>
              if b == c then .op o :: lexFrom n blocks brackets false rest'
              else [.fault .invalid true]
            | [] => [.fault .invalid true]
          else .op o :: lexFrom n blocks brackets false rest'

theorem lexFrom_blank {n : Nat} {blocks : List (Nat × Nat)} {brackets rest : List Char} :
    lexFrom (n + 1) blocks brackets false (' ' :: rest) = lexFrom n blocks brackets false rest := by
  rw [lexFrom]

def unifyBreaks : List Char → List Char
  | '\r' :: '\n' :: rest => '\n' :: unifyBreaks rest
  | '\r' :: rest => '\n' :: unifyBreaks rest
  | c :: rest => c :: unifyBreaks rest
  | [] => []

/-- The tokens of a text. If the text is a list of lines, its last line need not end in a line
    break. -/
def lex (isLines : Bool) (text : String) : List Token :=
  let cs := unifyBreaks text.toList
  if cs.contains '\x00' then [.fault .invalid true]
  else
    let cs := if isLines && cs.getLast? != some '\n' then cs ++ ['\n'] else cs
    lexFrom (2 * cs.length + 4) [(0, 0)] [] true cs

end PuzzlePrograms.Source
