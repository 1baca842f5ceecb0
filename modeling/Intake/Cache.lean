import Intake.Metrics
import Intake.Record.Basic
import Intake.Template

/-!
# Values kept between activities

A store that finished records write values to and later activities read them from. Its entries say
under which key, made from the fields of a record, which value is kept. When the store is full, the
key that was added longest ago makes room.

* `Cache.put`: keeps a value.
* `Cache.store`: keeps what the entries take from a record.
* `Cache.find`: the value that an entry leads to for a record.
-/

namespace Intake

/-- What is kept of a record, and under which key. -/
structure CacheEntry where
  /-- The name that locators use. -/
  id : String
  /-- Template of the key. -/
  key : String
  /-- Template of the value. -/
  value : String
  /-- The only parser that the entry is for. -/
  parser : Option String := none
deriving DecidableEq, Repr

namespace CacheEntry

/-- The entry is for this parser. -/
def appliesTo (e : CacheEntry) (parser : String) : Bool :=
  e.parser.all (· == parser)

/-- A template filled from the fields of a record, if all of them have a value. -/
def fillFrom? (template : String) (r : Record) : Option String :=
  let (s, complete) := Template.fill template fun name => (r.get? name).map Value.text
  if complete then some s else none

/-- The key for a record. -/
def keyFor? (e : CacheEntry) (r : Record) : Option String :=
  fillFrom? e.key r

/-- The value of a record: that of a field, if the template is its name alone, else a text. -/
def valueFor? (e : CacheEntry) (r : Record) : Option Value :=
  match Template.soleVar? e.value with
  | some name => r.get? name
  | none => (fillFrom? e.value r).map .str

end CacheEntry

/-- Values kept between activities. -/
structure Cache where
  entries : List CacheEntry := []
  /-- How many keys there may be. -/
  capacity : Nat := 10000
  capacity_pos : 0 < capacity := by omega
  values : Keyed Value := []
  /-- The keys in the order in which they were added. -/
  order : List String := []

namespace Cache

instance : Inhabited Cache := ⟨{}⟩

/-- An empty store for so many keys, and at least for one. -/
def ofCapacity (capacity : Nat) (entries : List CacheEntry) : Cache where
  entries := entries
  capacity := max capacity 1
  capacity_pos := by omega

/-- The number of keys. -/
def size (c : Cache) : Nat := c.values.length

/-- The value under a key. -/
def get? (c : Cache) (key : String) : Option Value := Keyed.get? key c.values

/-- The reading of the number of keys. -/
def level (c : Cache) : Reading :=
  { metric := .cacheEntries, amount := c.size }

/-- The order of the keys after one was set: a new one is the youngest. -/
def orderAfter (c : Cache) (key : String) : List String :=
  match c.get? key with
  | some _ => c.order
  | none => c.order ++ [key]

/-- Keeps a value under a key. A new key is the youngest; as long as there are too many, the oldest
is forgotten. -/
def put (c : Cache) (key : String) (v : Value) : Cache :=
  let order := c.orderAfter key
  let excess := order.length - c.capacity
  { c with
    values := (order.take excess).foldl (fun m k => Keyed.erase k m) (Keyed.insert key v c.values)
    order := order.drop excess }

/-- The number of keys that make room when one is set. -/
def evictions (c : Cache) (key : String) : Nat :=
  (c.orderAfter key).length - c.capacity

/-- Keeps a value under a key, and notes the size of the store. -/
def putNoted (c : Cache) (key : String) (v : Value) : Noted Cache :=
  let next := c.put key v
  let evicted : List Reading :=
    if c.evictions key = 0 then []
    else [{ metric := .cacheEvictions, amount := c.evictions key }]
  ⟨next, evicted ++ [next.level]⟩

/-- Forgets all values. -/
def clear (c : Cache) : Cache :=
  { c with values := [], order := [] }

/-- Forgets all values, and notes the size of the store. -/
def clearNoted (c : Cache) : Noted Cache :=
  ⟨c.clear, [c.clear.level]⟩

/-- The keys and values that the entries take from a record, those without either left out. -/
def takings (c : Cache) (r : Record) (parser : String) : List (String × Value) :=
  (c.entries.filter (·.appliesTo parser)).filterMap fun e =>
    match e.keyFor? r, e.valueFor? r with
    | some key, some v => some (key, v)
    | _, _ => none

/-- Keeps what the entries take from a record. -/
def store (c : Cache) (r : Record) (parser : String) : Noted Cache := do
  let takings := c.takings r parser
  let next ← takings.foldlM (fun c kv => c.putNoted kv.1 kv.2) c
  if !takings.isEmpty then
    Noted.note { Reading.ofParser .cacheWrites parser with amount := takings.length }
  return next

/-- The value that an entry leads to for a record: the first entry of this name decides. -/
def find? (c : Cache) (r : Record) (id parser : String) : Option Value :=
  (c.entries.find? fun e => e.id == id && e.appliesTo parser).bind fun e =>
    (e.keyFor? r).bind c.get?

/-- The value that an entry leads to for a record, with a note if there is one. -/
def findNoted (c : Cache) (r : Record) (id parser : String) : Noted (Option Value) :=
  match c.find? r id parser with
  | some v => ⟨some v, [Reading.ofParser .cacheHits parser]⟩
  | none => ⟨none, []⟩

end Cache

end Intake
