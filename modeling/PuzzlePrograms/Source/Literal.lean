import PuzzlePrograms.Source.Token

/-!
# What a string literal says

Escapes of strings and bytes. An escape that the rules do not know stands for its own two characters. A
code point that no character has becomes the replacement character.
-/

namespace PuzzlePrograms.Source

def hexDigits? : Nat → Nat → List Char → Option (Nat × List Char)
  | 0, acc, cs => some (acc, cs)
  | n + 1, acc, c :: cs => if isDigitOf 16 c then hexDigits? n (16 * acc + digitValue c) cs else none
  | _ + 1, _, [] => none

def octalDigits : Nat → Nat → List Char → Nat × List Char
  | 0, acc, cs => (acc, cs)
  | n + 1, acc, c :: cs =>
    if isDigitOf 8 c then octalDigits n (8 * acc + digitValue c) cs else (acc, c :: cs)
  | _ + 1, acc, [] => (acc, [])

def charOf? (n : Nat) : Option Char :=
  if n < 0x110000 then some (if 0xD800 ≤ n ∧ n < 0xE000 then '�' else Char.ofNat n) else none

def simpleEscape? : Char → Option Char
  | '\\' => some '\\'
  | '\'' => some '\''
  | '"' => some '"'
  | 'a' => some '\x07'
  | 'b' => some '\x08'
  | 'f' => some '\x0c'
  | 'n' => some '\n'
  | 'r' => some '\r'
  | 't' => some '\t'
  | 'v' => some '\x0b'
  | _ => none

def unescape? : Nat → List Char → Option (List Char)
  | 0, _ => none
  | n + 1, cs =>
    match cs with
    | [] => some []
    | '\\' :: '\n' :: rest => unescape? n rest
    | '\\' :: c :: rest =>
      match simpleEscape? c with
      | some d => (unescape? n rest).map (d :: ·)
      | none =>
        if c == 'x' then do
          let (v, rest) ← hexDigits? 2 0 rest
          return (← charOf? v) :: (← unescape? n rest)
        else if c == 'u' then do
          let (v, rest) ← hexDigits? 4 0 rest
          return (← charOf? v) :: (← unescape? n rest)
        else if c == 'U' then do
          let (v, rest) ← hexDigits? 8 0 rest
          return (← charOf? v) :: (← unescape? n rest)
        else if c == 'N' then none
        else if isDigitOf 8 c then do
          let (v, rest) := octalDigits 3 0 (c :: rest)
          return (← charOf? v) :: (← unescape? n rest)
        else (unescape? n rest).map ('\\' :: c :: ·)
    | c :: rest => (unescape? n rest).map (c :: ·)

def textOf? (isRaw : Bool) (body : List Char) : Option (List Char) :=
  if isRaw then some body else unescape? (body.length + 1) body

def unescapeBytes? : Nat → List Char → Option (List UInt8)
  | 0, _ => none
  | n + 1, cs =>
    match cs with
    | [] => some []
    | '\\' :: '\n' :: rest => unescapeBytes? n rest
    | '\\' :: c :: rest =>
      match simpleEscape? c with
      | some d => (unescapeBytes? n rest).map (UInt8.ofNat d.toNat :: ·)
      | none =>
        if c == 'x' then do
          let (v, rest) ← hexDigits? 2 0 rest
          return UInt8.ofNat v :: (← unescapeBytes? n rest)
        else if isDigitOf 8 c then do
          let (v, rest) := octalDigits 3 0 (c :: rest)
          return UInt8.ofNat v :: (← unescapeBytes? n rest)
        else
          (unescapeBytes? n rest).map (UInt8.ofNat '\\'.toNat :: UInt8.ofNat c.toNat :: ·)
    | c :: rest => (unescapeBytes? n rest).map (UInt8.ofNat c.toNat :: ·)

def bytesOf? (isRaw : Bool) (body : List Char) : Option (List UInt8) :=
  if body.any (128 ≤ ·.toNat) then none
  else if isRaw then some (body.map fun c => UInt8.ofNat c.toNat)
  else unescapeBytes? (body.length + 1) body

/-! ## Formatted strings -/

/-- The literal text at the start of a formatted string: the text as written, and the rest, which
    starts with a bracket or is empty. A doubled bracket stands for one; inside a format
    (`nested`) it does not. `none` for a closing bracket that closes nothing. -/
def literalPart? (isRaw nested : Bool) : List Char → List Char → Option (List Char × List Char)
  | acc, '\\' :: 'N' :: rest =>
    if isRaw then literalPart? isRaw nested ('N' :: '\\' :: acc) rest else none
  | acc, '\\' :: c :: rest =>
    if isRaw || c == '\x7b' || c == '\x7d' then literalPart? isRaw nested ('\\' :: acc) (c :: rest)
    else literalPart? isRaw nested (c :: '\\' :: acc) rest
  | acc, '\x7b' :: '\x7b' :: rest =>
    if nested then some (acc.reverse, '\x7b' :: '\x7b' :: rest)
    else literalPart? isRaw nested ('\x7b' :: acc) rest
  | acc, '\x7d' :: '\x7d' :: rest =>
    if nested then some (acc.reverse, '\x7d' :: '\x7d' :: rest)
    else literalPart? isRaw nested ('\x7d' :: acc) rest
  | acc, '\x7b' :: rest => some (acc.reverse, '\x7b' :: rest)
  | acc, '\x7d' :: rest => if nested then some (acc.reverse, '\x7d' :: rest) else none
  | acc, c :: rest => literalPart? isRaw nested (c :: acc) rest
  | acc, [] => some (acc.reverse, [])

/-- The text of an expression inside a formatted string, up to the mark that ends it. `quote` is the
    quote of a string that is open, with its size; `brackets` are the open brackets. -/
def expressionPart? : Nat → Option (Char × Nat) → List Char → List Char → List Char → Option (List Char × List Char)
  | 0, _, _, _, _ => none
  | n + 1, quote?, brackets, acc, cs =>
    match cs with
    | [] => none
    | c :: rest =>
      if c == '\\' then none
      else
        match quote? with
        | some (q, size) =>
          if c == q then
            if size == 3 then
              match rest with
              | d :: e :: rest' =>
                if d == q && e == q then expressionPart? n none brackets (e :: d :: c :: acc) rest'
                else expressionPart? n quote? brackets (c :: acc) rest
              | _ => expressionPart? n quote? brackets (c :: acc) rest
            else expressionPart? n none brackets (c :: acc) rest
          else expressionPart? n quote? brackets (c :: acc) rest
        | none =>
          if c == '"' || c == '\'' then
            match rest with
            | d :: e :: rest' =>
              if d == c && e == c then
                expressionPart? n (some (c, 3)) brackets (e :: d :: c :: acc) rest'
              else expressionPart? n (some (c, 1)) brackets (c :: acc) rest
            | _ => expressionPart? n (some (c, 1)) brackets (c :: acc) rest
          else if c == '(' || c == '[' || c == '\x7b' then
            expressionPart? n none (closing c :: brackets) (c :: acc) rest
          else if c == '#' then none
          else if brackets.isEmpty && ['!', ':', '\x7d', '=', '<', '>'].contains c then
            if rest.head? == some '=' && c != ':' && c != '\x7d' then
              expressionPart? n none brackets ('=' :: c :: acc) (rest.drop 1)
            else if c == '<' || c == '>' then expressionPart? n none brackets (c :: acc) rest
            else some (acc.reverse, cs)
          else if c == ')' || c == ']' || c == '\x7d' then
            match brackets with
            | b :: brackets => if b == c then expressionPart? n none brackets (c :: acc) rest else none
            | [] => none
          else expressionPart? n none brackets (c :: acc) rest

end PuzzlePrograms.Source
