/-!
# JSON

Values, a reader and a writer. An object keeps the order of its members; of two members with one name
the later value stands at the earlier place. A number with a fraction or an exponent is a float, any
other an integer of any size. `NaN` and the infinities are read as the numbers that they name.
-/

namespace PuzzlePrograms

inductive Json where
  | null
  | bool (b : Bool)
  | int (i : Int)
  | float (x : Float)
  | str (s : String)
  | arr (xs : List Json)
  | obj (members : List (String × Json))
  deriving Inhabited, Repr

namespace Json

/-! ## 1. Members -/

def put (key : String) (value : Json) : List (String × Json) → List (String × Json)
  | [] => [(key, value)]
  | (k, v) :: rest => if k == key then (k, value) :: rest else (k, v) :: put key value rest

def get? (key : String) : Json → Option Json
  | .obj members => members.lookup key
  | _ => none

/-! ## 2. Reading -/

def isBlank (c : Char) : Bool := c == ' ' || c == '\t' || c == '\n' || c == '\r'

def skipBlank : List Char → List Char
  | [] => []
  | c :: cs => if isBlank c then skipBlank cs else c :: cs

def hexDigit? (c : Char) : Option Nat :=
  if c.isDigit then some (c.toNat - '0'.toNat)
  else if 'a' ≤ c ∧ c ≤ 'f' then some (c.toNat - 'a'.toNat + 10)
  else if 'A' ≤ c ∧ c ≤ 'F' then some (c.toNat - 'A'.toNat + 10)
  else none

def unit16? : List Char → Option (Nat × List Char)
  | a :: b :: c :: d :: rest => do
    let a ← hexDigit? a
    let b ← hexDigit? b
    let c ← hexDigit? c
    let d ← hexDigit? d
    return (((a * 16 + b) * 16 + c) * 16 + d, rest)
  | _ => none

/-- The character of a unit, which with a unit of the other half forms one character. A half that
stands alone has no character and becomes the replacement character. -/
def escaped? (cs : List Char) : Option (Char × List Char) := do
  let (u, rest) ← unit16? cs
  if 0xD800 ≤ u ∧ u < 0xDC00 then
    match rest with
    | '\\' :: 'u' :: rest' =>
      match unit16? rest' with
      | some (v, rest'') =>
        if 0xDC00 ≤ v ∧ v < 0xE000 then
          return (Char.ofNat (0x10000 + (u - 0xD800) * 1024 + (v - 0xDC00)), rest'')
        else return ('�', rest)
      | none => return ('�', rest)
    | _ => return ('�', rest)
  else if 0xDC00 ≤ u ∧ u < 0xE000 then return ('�', rest)
  else return (Char.ofNat u, rest)

def stringBody : Nat → List Char → List Char → Option (List Char × List Char)
  | 0, _, _ => none
  | n + 1, acc, cs =>
    match cs with
    | '"' :: rest => some (acc, rest)
    | '\\' :: c :: rest =>
      match c with
      | '"' => stringBody n ('"' :: acc) rest
      | '\\' => stringBody n ('\\' :: acc) rest
      | '/' => stringBody n ('/' :: acc) rest
      | 'b' => stringBody n ('\x08' :: acc) rest
      | 'f' => stringBody n ('\x0c' :: acc) rest
      | 'n' => stringBody n ('\n' :: acc) rest
      | 'r' => stringBody n ('\r' :: acc) rest
      | 't' => stringBody n ('\t' :: acc) rest
      | 'u' =>
        match escaped? rest with
        | some (c, rest) => stringBody n (c :: acc) rest
        | none => none
      | _ => none
    | c :: rest => if c.toNat < 32 then none else stringBody n (c :: acc) rest
    | [] => none

def string? (cs : List Char) : Option (String × List Char) :=
  (stringBody (cs.length + 1) [] cs).map fun (acc, rest) => (String.ofList acc.reverse, rest)

def natOf (ds : List Char) : Nat := ds.foldl (fun n c => 10 * n + (c.toNat - '0'.toNat)) 0

def exponent? : List Char → Option (Int × List Char)
  | c :: rest =>
    if c == 'e' || c == 'E' then
      let (negative, digits) :=
        match rest with
        | '-' :: r => (true, r)
        | '+' :: r => (false, r)
        | r => (false, r)
      let ds := digits.takeWhile Char.isDigit
      if ds.isEmpty then none
      else
        let e : Int := natOf ds
        some (if negative then -e else e, digits.dropWhile Char.isDigit)
    else none
  | [] => none

def decimal (mantissa : Nat) (exponent : Int) : Float :=
  if exponent < 0 then Float.ofScientific mantissa true (min exponent.natAbs 5000)
  else Float.ofScientific mantissa false (min exponent.natAbs 5000)

def number? (negative : Bool) (cs : List Char) : Option (Json × List Char) :=
  let whole :=
    match cs with
    | '0' :: _ => ['0']
    | cs => cs.takeWhile Char.isDigit
  if whole.isEmpty then none
  else
    let rest := cs.drop whole.length
    let (fraction, rest) :=
      match rest with
      | '.' :: r =>
        let ds := r.takeWhile Char.isDigit
        if ds.isEmpty then ([], rest) else (ds, r.drop ds.length)
      | r => ([], r)
    match exponent? rest with
    | some (e, rest) =>
      let x := decimal (natOf (whole ++ fraction)) (e - fraction.length)
      some (.float (if negative then -x else x), rest)
    | none =>
      if fraction.isEmpty then
        let i : Int := natOf whole
        some (.int (if negative then -i else i), rest)
      else
        let x := decimal (natOf (whole ++ fraction)) (-fraction.length)
        some (.float (if negative then -x else x), rest)

def word? (w : List Char) (cs : List Char) : Option (List Char) :=
  if w.isPrefixOf cs then some (cs.drop w.length) else none

mutual

def value? : Nat → List Char → Option (Json × List Char)
  | 0, _ => none
  | n + 1, cs =>
    match cs with
    | '"' :: rest => (string? rest).map fun (s, rest) => (.str s, rest)
    | '[' :: rest =>
      match skipBlank rest with
      | ']' :: rest => some (.arr [], rest)
      | rest => (elements? n rest []).map fun (xs, rest) => (.arr xs, rest)
    | '\x7b' :: rest =>
      match skipBlank rest with
      | '\x7d' :: rest => some (.obj [], rest)
      | rest => (members? n rest []).map fun (ms, rest) => (.obj ms, rest)
    | 'n' :: rest => (word? "ull".toList rest).map fun rest => (.null, rest)
    | 't' :: rest => (word? "rue".toList rest).map fun rest => (.bool true, rest)
    | 'f' :: rest => (word? "alse".toList rest).map fun rest => (.bool false, rest)
    | 'N' :: rest => (word? "aN".toList rest).map fun rest => (.float (0.0 / 0.0), rest)
    | 'I' :: rest => (word? "nfinity".toList rest).map fun rest => (.float (1.0 / 0.0), rest)
    | '-' :: 'I' :: rest =>
      (word? "nfinity".toList rest).map fun rest => (.float (-1.0 / 0.0), rest)
    | '-' :: rest => number? true rest
    | rest => number? false rest

def elements? : Nat → List Char → List Json → Option (List Json × List Char)
  | 0, _, _ => none
  | n + 1, cs, acc =>
    match value? n (skipBlank cs) with
    | none => none
    | some (x, rest) =>
      match skipBlank rest with
      | ',' :: rest => elements? n rest (x :: acc)
      | ']' :: rest => some ((x :: acc).reverse, rest)
      | _ => none

def members? : Nat → List Char → List (String × Json) → Option (List (String × Json) × List Char)
  | 0, _, _ => none
  | n + 1, cs, acc =>
    match skipBlank cs with
    | '"' :: rest =>
      match string? rest with
      | none => none
      | some (key, rest) =>
        match skipBlank rest with
        | ':' :: rest =>
          match value? n (skipBlank rest) with
          | none => none
          | some (x, rest) =>
            match skipBlank rest with
            | ',' :: rest => members? n rest (put key x acc)
            | '\x7d' :: rest => some (put key x acc, rest)
            | _ => none
        | _ => none
    | _ => none

end

def parse? (text : String) : Option Json :=
  let cs := text.toList
  match value? (2 * cs.length + 2) (skipBlank cs) with
  | some (v, rest) => if (skipBlank rest).isEmpty then some v else none
  | none => none

/-! ## 3. Writing -/

def hex4 (n : Nat) : String :=
  let ds := Nat.toDigits 16 n
  String.ofList (List.replicate (4 - ds.length) '0' ++ ds)

def escapeChar (c : Char) : String :=
  if c == '"' then "\\\""
  else if c == '\\' then "\\\\"
  else if c == '\n' then "\\n"
  else if c == '\r' then "\\r"
  else if c == '\t' then "\\t"
  else if c == '\x08' then "\\b"
  else if c == '\x0c' then "\\f"
  else if 32 ≤ c.toNat ∧ c.toNat < 127 then c.toString
  else if c.toNat == 127 then c.toString
  else if c.toNat < 0x10000 then "\\u" ++ hex4 c.toNat
  else
    let u := c.toNat - 0x10000
    "\\u" ++ hex4 (0xD800 + u / 1024) ++ "\\u" ++ hex4 (0xDC00 + u % 1024)

def quote (s : String) : String := s.foldl (fun acc c => acc ++ escapeChar c) "\"" ++ "\""

mutual

def writeAfter (acc : String) : Json → String
  | .null => acc ++ "null"
  | .bool b => acc ++ if b then "true" else "false"
  | .int i => acc ++ toString i
  | .float x => acc ++ toString x
  | .str s => acc ++ quote s
  | .arr xs => writeElements (acc ++ "[") xs ++ "]"
  | .obj ms => writeMembers (acc ++ "\x7b") ms ++ "\x7d"

def writeElements (acc : String) : List Json → String
  | [] => acc
  | [x] => writeAfter acc x
  | x :: xs => writeElements (writeAfter acc x ++ ",") xs

def writeMembers (acc : String) : List (String × Json) → String
  | [] => acc
  | [(k, x)] => writeAfter (acc ++ quote k ++ ":") x
  | (k, x) :: xs => writeMembers (writeAfter (acc ++ quote k ++ ":") x ++ ",") xs

end

def compress (v : Json) : String := writeAfter "" v

end Json

end PuzzlePrograms
