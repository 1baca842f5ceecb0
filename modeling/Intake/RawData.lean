import Intake.Feed
import Intake.Json.Printer
import Intake.Value.Json

/-!
# Raw data

What a parser is given: one item, or a feed to take items from.

* `RawData.ofValue`: a value as the item of another parser.
* `RawData.next`: the item to work on, taken from the feed if it is one.
-/

namespace Intake

/-- What a parser is given. -/
inductive RawData where
  | text (s : String)
  | bytes (bs : List UInt8)
  | map (entries : Keyed Value)
  | json (doc : Json)
  | feed (f : Feed)

namespace RawData

/-- A value as an item: a list as a document, and a number or the like as text. -/
def ofValue : Value → RawData
  | .str s => text s
  | .bytes bs => bytes bs
  | .map entries => map entries
  | .list items => json (Value.toJson (.list items))
  | v => text v.text

/-- The name of a kind of data. -/
def kindName : RawData → String
  | text _ => "text"
  | bytes _ => "bytes"
  | map _ => "map"
  | json _ => "json"
  | feed _ => "reader"

/-- The item as a value. -/
def toValue? : RawData → Option Value
  | text s => some (.str s)
  | bytes bs => some (.bytes bs)
  | map entries => some (.map entries)
  | json doc => Value.ofJson doc
  | feed _ => none

/-- The item as text. -/
def toText? : RawData → Option String
  | text s => some s
  | bytes bs => some (Text.Utf8.decodeLossy bs)
  | map entries => some (Value.map entries).text
  | json doc => some doc.render
  | feed _ => none

/-- The characters of a text or of bytes that stand for one. -/
def characters? : RawData → Option String
  | text s => some s
  | bytes bs => some (Text.Utf8.decodeLossy bs)
  | _ => none

/-- The item to work on, if there is one left, and what can be read after it. -/
def next (p : Portion) : RawData → Except Failure (Option RawData) × RawData
  | feed f =>
    let (item, rest) := f.next p
    (item.map fun s => s.map text, feed rest)
  | item => (.ok (some item), item)

end RawData

/-- Where items come from. -/
structure Source where
  name : String
  properties : Keyed Value := []
  /-- The activity that all items belong to. -/
  groupId : Option String := none

end Intake
