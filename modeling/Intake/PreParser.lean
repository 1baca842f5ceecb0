import Intake.Json.Reader
import Intake.RawData
import Intake.Text.Base64

/-!
# Pre-parsers

Changes to an item before it is read. Each has data that it can be applied to.

* `PreParser.run`: what one pre-parser makes of an item.
-/

namespace Intake

/-- A change to an item before it is read. -/
inductive PreParser where
  /-- Bytes as text; with `lossy` wrong bytes are replaced, else they are a failure. -/
  | utf8 (lossy : Bool)
  /-- The bytes that a text stands for. -/
  | base64
  /-- The document that a text or bytes stand for. -/
  | json
  /-- A change given from outside. It learns how often it was asked before, counted under
  `counter`. -/
  | custom (name : String) (counter : Nat) (run : Nat → RawData → Except String RawData)

namespace PreParser

/-- The name of a pre-parser. -/
def name : PreParser → String
  | utf8 _ => "utf8"
  | base64 => "base64"
  | json => "json"
  | custom name _ _ => name

/-- The pre-parser can be applied to data of this kind. -/
def isApplicable : PreParser → RawData → Bool
  | utf8 _, .bytes _ => true
  | base64, .text _ => true
  | json, .text _ | json, .bytes _ => true
  | custom _ _ _, _ => true
  | _, _ => false

/-- The document in a text. -/
def readJson (s : String) : Except String RawData :=
  match Json.parse? s with
  | some doc => .ok (.json doc)
  | none => .error "not a document"

/-- What a pre-parser makes of an item, or why it fails; `asked` says how often it was asked
before. What it cannot be applied to stays as it is. -/
def change (p : PreParser) (asked : Nat) (raw : RawData) : Except String RawData :=
  match p, raw with
  | utf8 true, .bytes bs => .ok (.text (Text.Utf8.decodeLossy bs))
  | utf8 false, .bytes bs => ((Text.Utf8.decode bs).mapError (·.message)).map .text
  | base64, .text s =>
    match Text.Base64.decode (Text.Utf8.encode (Text.trim s)) with
    | some bs => .ok (.bytes bs)
    | none => .error "not a run of padded groups"
  | json, .text s => readJson s
  | json, .bytes bs => ((Text.Utf8.decode bs).mapError (·.message)).bind readJson
  | custom _ _ run, raw => run asked raw
  | _, raw => .ok raw

/-- What a pre-parser makes of an item. -/
def run (p : PreParser) (asked : Nat) (raw : RawData) : Except Failure RawData :=
  (p.change asked raw).mapError (.preParse p.name)

end PreParser

end Intake
