import PuzzlePrograms.Text.CharClass

/-!
# Quoted text

How strings and bytes are written in program text. Single quotes are used unless the text has single
quotes and no double ones. What cannot be printed is written as an escape by its code point.
-/

namespace PuzzlePrograms.Text

def hex (width n : Nat) : String :=
  let ds := Nat.toDigits 16 n
  String.ofList (List.replicate (width - ds.length) '0' ++ ds)

def escape (c : Char) : String :=
  if c == '\\' then "\\\\"
  else if c == '\n' then "\\n"
  else if c == '\r' then "\\r"
  else if c == '\t' then "\\t"
  else if c.toNat < 0x100 then "\\x" ++ hex 2 c.toNat
  else if c.toNat < 0x10000 then "\\u" ++ hex 4 c.toNat
  else "\\U" ++ hex 8 c.toNat

def quoteFor (cs : List Char) : Char := if cs.contains '\'' && !cs.contains '"' then '"' else '\''

def quotedChar (quote c : Char) : String :=
  if c == quote then String.ofList ['\\', c]
  else if c == '\\' || !isPrintable c then escape c
  else c.toString

def quoted (s : String) : String :=
  let cs := s.toList
  let q := quoteFor cs
  q.toString ++ String.join (cs.map (quotedChar q)) ++ q.toString

def quotedBytes (bs : List UInt8) : String :=
  let cs := bs.map fun b => Char.ofNat b.toNat
  let q := quoteFor cs
  let one (c : Char) : String :=
    if c == q then String.ofList ['\\', c]
    else if c == '\\' || c.toNat < 32 || 127 ≤ c.toNat then escape c
    else c.toString
  "b" ++ q.toString ++ String.join (cs.map one) ++ q.toString

end PuzzlePrograms.Text
