import FogHttpBenchmark.Python.Latin1
import FogHttpBenchmark.Python.Utf8

/-!
# Query strings

`urllib.parse.parse_qsl` with the percent escapes that it decodes.
-/

set_option autoImplicit false

namespace FogHttpBenchmark.Python

/-- The value of a hexadecimal digit of an escape. -/
def percentDigit (c : Char) : Option ℕ :=
  if '0' ≤ c ∧ c ≤ '9' then some (c.toNat - 48)
  else if 'a' ≤ c ∧ c ≤ 'f' then some (c.toNat - 87)
  else if 'A' ≤ c ∧ c ≤ 'F' then some (c.toNat - 55)
  else none

/-- `unquote_to_bytes(text)` of an ASCII text; an escape without two digits is kept. -/
def unquoteToBytes : List Char → List UInt8
  | [] => []
  | '%' :: a :: b :: rest =>
      match percentDigit a, percentDigit b with
      | some high, some low => UInt8.ofNat (16 * high + low) :: unquoteToBytes rest
      | _, _ => 0x25 :: unquoteToBytes (a :: b :: rest)
  | c :: rest => latin1Byte c :: unquoteToBytes rest

/-- `unquote(text, errors="replace")`: each stretch of ASCII is decoded by itself. -/
def unquote (text : String) : String :=
  let isAscii := fun c : Char => decide (c.toNat < 0x80)
  let runs := text.toList.splitBy fun c d => isAscii c == isAscii d
  String.join (runs.map fun run =>
    if run.all isAscii then decodeReplaced (unquoteToBytes run) else String.ofList run)

/-- A name or a value of a query. -/
def unquotePlus (text : String) : String :=
  unquote (String.ofList (text.toList.map fun c => if c = '+' then ' ' else c))

/-- `parse_qsl(query, keep_blank_values=True)`. -/
def parseQsl (query : String) : List (String × String) :=
  ((splitText '&' query).filter (· ≠ "")).map fun nameValue =>
    let parts := partitionText '=' nameValue
    (unquotePlus parts.1, unquotePlus parts.2)

end FogHttpBenchmark.Python
