import PromptForm.Xml.CodePage
import PromptForm.Xml.Symbol

/-!
# From bytes to symbols

A document comes as bytes. Its first bytes tell whether it is UTF-8 or one of the two orders of
UTF-16; a declaration may then name an encoding of one byte a character.

## Main definitions

* `utf8`, `utf16`, `Charset.decode`: the decoders.
* `Layout.detect`: what the first bytes tell.
-/

namespace PromptForm

namespace Xml

/-- The number of bytes that a byte calls for, itself included; zero when it begins no character. -/
def utf8Length (b : UInt8) : Nat :=
  if b < 0x80 then 1
  else if b < 0xC0 then 0
  else if b < 0xE0 then 2
  else if b < 0xF0 then 3
  else if b < 0xF5 then 4
  else 0

def continuation? (b : UInt8) : Option Nat :=
  if 0x80 ≤ b ∧ b < 0xC0 then some (b.toNat - 0x80) else none

/-- The number of the character that bytes denote, when it could not be written shorter. -/
def utf8Number? : List UInt8 → Option Nat
  | [a, b] => do
    let n := (a.toNat - 0xC0) * 64 + (← continuation? b)
    if n ≥ 0x80 then some n else none
  | [a, b, c] => do
    let n := ((a.toNat - 0xE0) * 64 + (← continuation? b)) * 64 + (← continuation? c)
    if n ≥ 0x800 ∧ ¬(0xD800 ≤ n ∧ n < 0xE000) ∧ n < 0xFFFE then some n else none
  | [a, b, c, d] => do
    let n := (((a.toNat - 0xF0) * 64 + (← continuation? b)) * 64 + (← continuation? c)) * 64 +
      (← continuation? d)
    if n ≥ 0x10000 ∧ n < 0x110000 then some n else none
  | _ => none

/-- The symbol of bytes of which the first one calls for the others. -/
def utf8Symbol (bytes : List UInt8) : Symbol :=
  match utf8Number? bytes with
  | some n => Symbol.ofNat .composed bytes.length n
  | none => Symbol.faulty .spoilt bytes.length

/-- The symbol of the last bytes, of which the first one calls for more. -/
def cutSymbol (bytes : List UInt8) : Symbol :=
  Symbol.faulty .cut bytes.length

/-- Decodes UTF-8, in reverse, behind what is decoded already. -/
def utf8From (done : List Symbol) : List UInt8 → List Symbol
  | [] => done
  | a :: rest =>
    match utf8Length a with
    | 0 => utf8From (Symbol.faulty .illegal 1 :: done) rest
    | 1 => utf8From (Symbol.ofNat .single 1 a.toNat :: done) rest
    | 2 =>
      match rest with
      | b :: rest => utf8From (utf8Symbol [a, b] :: done) rest
      | _ => cutSymbol (a :: rest) :: done
    | 3 =>
      match rest with
      | b :: c :: rest => utf8From (utf8Symbol [a, b, c] :: done) rest
      | _ => cutSymbol (a :: rest) :: done
    | _ =>
      match rest with
      | b :: c :: d :: rest => utf8From (utf8Symbol [a, b, c, d] :: done) rest
      | _ => cutSymbol (a :: rest) :: done

def utf8 (bytes : List UInt8) : Symbols :=
  Symbols.numbered (utf8From [] bytes)

/-- The two orders of the bytes of a unit. -/
inductive ByteOrder where
  | little
  | big
  deriving DecidableEq, Repr

def ByteOrder.unit : ByteOrder → UInt8 → UInt8 → Nat
  | little, a, b => b.toNat * 256 + a.toNat
  | big, a, b => a.toNat * 256 + b.toNat

/-- The symbol of a unit that does not call for another one. -/
def utf16Symbol (u : Nat) : Symbol :=
  if u < 0x100 then Symbol.ofNat .latin 1 u else Symbol.ofNat .composed 1 u

/-- Decodes UTF-16, in reverse, behind what is decoded already. A unit after a leading one is taken
for a trailing one whatever it is. -/
def utf16From (order : ByteOrder) (done : List Symbol) : List UInt8 → List Symbol
  | [] => done
  | [_] => Symbol.faulty .stray 1 :: done
  | a :: b :: rest =>
    let u := order.unit a b
    if 0xD800 ≤ u ∧ u < 0xDC00 then
      match rest with
      | [] => Symbol.faulty .cut 1 :: done
      | [_] => Symbol.faulty .stray 1 :: Symbol.faulty .cut 1 :: done
      | c :: d :: rest =>
        let n := 0x10000 + (u - 0xD800) * 1024 + order.unit c d % 1024
        utf16From order (Symbol.ofNat .composed 2 n :: done) rest
    else utf16From order (utf16Symbol u :: done) rest

def utf16 (order : ByteOrder) (bytes : List UInt8) : Symbols :=
  Symbols.numbered (utf16From order [] bytes)

/-- The symbol of a byte in a table of characters, where the replacement character stands for no
character. -/
def tableSymbol (form : Form) (c : Char) : Symbol :=
  if c = Symbol.noChar then Symbol.faulty .illegal 1 else Symbol.ofChar form 1 c

def Charset.symbols (charset : Charset) : Array Symbol :=
  let ascii := (List.range 128).map fun n => Symbol.ofNat .single 1 n
  let upper :=
    match charset with
    | .latin => (List.range 128).map fun n => Symbol.ofNat .latin 1 (128 + n)
    | .page upper => upper.map (tableSymbol .single)
    | _ => []
  let ascii :=
    match charset with
    | .shiftedAscii => ascii.map fun s => if s.is '~' then Symbol.faulty .illegal 1 else s
    | _ => ascii
  (ascii ++ upper).toArray

/-- Decodes an encoding of one byte a character, in reverse. -/
def Charset.decodeReversed (charset : Charset) (bytes : List UInt8) : List Symbol :=
  let symbols := charset.symbols
  bytes.foldl (fun done b => symbols.getD b.toNat (Symbol.faulty .illegal 1) :: done) []

/-- Decodes an encoding of one byte a character. -/
def Charset.decode (charset : Charset) (bytes : List UInt8) : Symbols :=
  Symbols.numbered (charset.decodeReversed bytes)

/-- How the characters of a document lie in its bytes. -/
inductive Layout where
  | utf8 (marked : Bool)
  | utf16 (order : ByteOrder) (marked : Bool)
  /-- A text of which the first bytes tell that it breaks off at once. -/
  | broken
  deriving DecidableEq, Repr

/-- What the first bytes tell. Unmarked UTF-16 is known by the zero byte of its first character. -/
def Layout.detect : List UInt8 → Layout
  | [] => .utf8 false
  | [a] => if [0x00, 0x3C, 0xEF, 0xFE, 0xFF].contains a then .broken else .utf8 false
  | a :: b :: rest =>
    if a = 0xFE ∧ b = 0xFF then .utf16 .big true
    else if a = 0xFF ∧ b = 0xFE then .utf16 .little true
    else if a = 0xEF ∧ b = 0xBB then
      match rest with
      | [] => .broken
      | c :: _ => .utf8 (c = 0xBF)
    else if a = 0x00 then .utf16 .big false
    else if b = 0x00 then .utf16 .little false
    else .utf8 false

/-- Whether the symbols begin with a byte order mark. -/
def Layout.isMarked : Layout → Bool
  | utf8 marked => marked
  | utf16 _ marked => marked
  | broken => false

/-- Decodes a document of a layout, its byte order mark included. -/
def Layout.decode : Layout → List UInt8 → Symbols
  | utf8 _, bytes => Xml.utf8 bytes
  | utf16 order _, bytes => Xml.utf16 order bytes
  | broken, _ => []

def Layout.unitBytes : Layout → Nat
  | utf16 _ _ => 2
  | _ => 1

def Layout.byteLength (layout : Layout) (s : Symbols) : Nat :=
  layout.unitBytes * s.units

end Xml

end PromptForm
