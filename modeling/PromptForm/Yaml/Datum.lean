import PromptForm.Export.Moment
import PromptForm.Value
import PromptForm.Yaml.Graph

/-!
# Data of YAML documents

A document holds values and a few kinds of data besides: dates and times, bytes, sets and pairs. Each
has a text of its own, and one for the inside of a collection. Collections are kept in a store under
the addresses of their nodes, because they may hold themselves; where one comes up inside itself, its
text is three dots between brackets.

## Main definitions

* `Datum`: the data.
* `Collection`, `Store`: the collections and where they are kept.
* `Store.asText`, `Store.shown`: the two texts of a datum.
* `Datum.isName`, `Datum.same`: which data may be keys, and when two keys agree.
-/

namespace PromptForm

namespace Yaml

inductive Datum where
  /-- Nothing, a truth value, a number, or a text. -/
  | scalar (v : Value)
  | broken (text : List Point)
  /-- What is not a number. It is the same thing only where it comes from the same node, or from the
  word for it, which always means the same thing. -/
  | notNumber (node? : Option Address)
  | date (m : Moment)
  | moment (m : Moment)
  | bytes (b : List UInt8)
  | collection (address : Address)
  deriving Repr

inductive Collection where
  | list (items : List Datum)
  | pairs (items : List (Datum × Datum))
  | mapping (entries : List (Datum × Datum))
  | set (items : List Datum)
  deriving Repr

structure Store where
  entries : List (Address × Collection) := []

namespace Datum

/-- The texts one after the other, with a comma and a space between them. -/
def commaList (parts : List String) : String :=
  ", ".intercalate parts

def dateText (m : Moment) : String :=
  String.ofList
    (Moment.padded 4 m.year ++ '-' :: Moment.padded 2 m.month ++ '-' :: Moment.padded 2 m.day)

def offsetText (seconds : Int) : String :=
  let n := seconds.natAbs
  String.ofList ((if seconds < 0 then '-' else '+') ::
    Moment.padded 2 (n / 3600) ++ ':' :: Moment.padded 2 (n / 60 % 60))

/-- The date and the time of day of a moment. -/
def momentText (m : Moment) : String :=
  dateText m ++ " " ++
    String.ofList (Moment.padded 2 m.hour ++ ':' :: Moment.padded 2 m.minute ++ ':' ::
      Moment.padded 2 m.second) ++
    (if m.microsecond = 0 then "" else "." ++ String.ofList (Moment.padded 6 m.microsecond)) ++
    (m.offset?.map offsetText).getD ""

def dateShown (m : Moment) : String :=
  "datetime.date(" ++ commaList ([m.year, m.month, m.day].map toString) ++ ")"

/-- The distance from UTC inside a collection. -/
def offsetShown (seconds : Int) : String :=
  if seconds = 0 then "datetime.timezone.utc"
  else
    let delta :=
      if seconds < 0 then "days=-1, seconds=" ++ toString (seconds + 86400)
      else "seconds=" ++ toString seconds
    "datetime.timezone(datetime.timedelta(" ++ delta ++ "))"

/-- A date and a time of day inside a collection: the second and the microsecond only when they are
not zero. -/
def momentShown (m : Moment) : String :=
  let small :=
    if m.microsecond ≠ 0 then [m.second, m.microsecond]
    else if m.second ≠ 0 then [m.second]
    else []
  let parts := ([m.year, m.month, m.day, m.hour, m.minute] ++ small).map toString
  let zone := (m.offset?.map fun seconds => ["tzinfo=" ++ offsetShown seconds]).getD []
  "datetime.datetime(" ++ commaList (parts ++ zone) ++ ")"

def byteShown (quote : Char) (b : UInt8) : List Char :=
  let c := Char.ofNat b.toNat
  if c = quote ∨ c = '\\' then ['\\', c]
  else if c = '\t' then ['\\', 't']
  else if c = '\n' then ['\\', 'n']
  else if c = '\r' then ['\\', 'r']
  else if 0x20 ≤ b.toNat ∧ b.toNat < 0x7F then [c]
  else '\\' :: 'x' :: Text.hexText 2 b.toNat

def bytesShown (bytes : List UInt8) : String :=
  let quote := Text.quoteFor (bytes.map fun b => Char.ofNat b.toNat)
  String.ofList ('b' :: quote :: bytes.flatMap (byteShown quote) ++ [quote])

end Datum

/-! ### Texts -/

/-- The number of collections one inside the other that are shown at most. -/
def maxShownDepth : Nat := 980

/-- Numbers with more digits than this one has are not written. -/
def maxWrittenDigits : Nat := 4300

namespace Collection

def isEmpty : Collection → Bool
  | list items => items.isEmpty
  | pairs items => items.isEmpty
  | mapping entries => entries.isEmpty
  | set items => items.isEmpty

/-- The text of a collection inside itself. -/
def again : Collection → String
  | list _ | pairs _ => "[...]"
  | mapping _ => "\x7b...\x7d"
  | set _ => "set(...)"

/-- The text of a collection, given the texts of what is in it. -/
def textWith (text : Datum → Except Stop String) : Collection → Except Stop String
  | list items => do return "[" ++ Datum.commaList (← items.mapM text) ++ "]"
  | pairs items => do
    let parts ← items.mapM fun item => do
      return "(" ++ Datum.commaList [← text item.1, ← text item.2] ++ ")"
    return "[" ++ Datum.commaList parts ++ "]"
  | mapping entries => do
    let parts ← entries.mapM fun entry => do return (← text entry.1) ++ ": " ++ (← text entry.2)
    return "\x7b" ++ Datum.commaList parts ++ "\x7d"
  | set [] => .ok "set()"
  | set items => do return "\x7b" ++ Datum.commaList (← items.mapM text) ++ "\x7d"

end Collection

namespace Store

def get (store : Store) (address : Address) : Collection :=
  (store.entries.lookup address).getD (.list [])

/-- The store with a collection kept at an address. -/
def put (store : Store) (address : Address) (c : Collection) : Store :=
  ⟨(address, c) :: store.entries⟩

/-- The text of a value, unless it is a number of too many digits. -/
def valueText (text : Value → String) (v : Value) : Except Stop String :=
  match v with
  | .int n =>
    let digits := toString n.natAbs
    if digits.length > maxWrittenDigits then .error .longNumber else .ok (text v)
  | _ => .ok (text v)

/-- The text of a datum inside a collection; `inside` are the addresses of the collections around
it. -/
def shown (store : Store) : Nat → List Address → Datum → Except Stop String
  | 0, _, _ => .error .tooDeep
  | fuel + 1, inside, d =>
    match d with
    | .scalar v => valueText Value.shown v
    | .broken text => .ok (Point.quoted text)
    | .notNumber _ => .ok "nan"
    | .date m => .ok (Datum.dateShown m)
    | .moment m => .ok (Datum.momentShown m)
    | .bytes b => .ok (Datum.bytesShown b)
    | .collection address =>
      let c := store.get address
      if inside.contains address then .ok c.again
      else c.textWith (shown store fuel (address :: inside))

def asText (store : Store) (d : Datum) : Except Stop String :=
  match d with
  | .scalar v => valueText Value.asText v
  | .broken text => .ok (String.ofList (text.map Point.toChar))
  | .date m => .ok (Datum.dateText m)
  | .moment m => .ok (Datum.momentText m)
  | d => store.shown maxShownDepth [] d

def isTrue (store : Store) : Datum → Bool
  | .scalar v => v.isTrue
  | .bytes b => !b.isEmpty
  | .collection address => !(store.get address).isEmpty
  | _ => true

/-- The collection that is kept last is found at its address. -/
@[simp] theorem get_put_self (store : Store) (address : Address) (c : Collection) :
    (store.put address c).get address = c := by
  simp [put, get]

end Store

namespace Datum

def isName : Datum → Bool
  | collection _ => false
  | _ => true

/-- Whether two times are the same key: both are taken as they stand, or both as instants. -/
def sameTime (m n : Moment) : Bool :=
  m.offset?.isSome == n.offset?.isSome && m.instant == n.instant

def same : Datum → Datum → Bool
  | scalar v, scalar w => v == w
  | broken s, broken t => s == t
  | notNumber m, notNumber n => m == n
  | date m, date n => sameTime m n
  | moment m, moment n => sameTime m n
  | bytes b, bytes c => b == c
  | _, _ => false

instance : BEq Datum := ⟨same⟩

end Datum

end Yaml

end PromptForm
