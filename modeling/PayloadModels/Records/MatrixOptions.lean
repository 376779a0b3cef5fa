import PayloadModels.Decimal.Reader
import PayloadModels.Error
import PayloadModels.Json.Reader

/-!
# Purchase options

The purchase options of a product are a record of nineteen fields. Each field has a key, and its
kind says which values it takes; an absent field and a `null` one have the default of their kind.
What is inside the nested objects is not known beforehand, so they keep their members as they
are.

A record is decoded from an object (`MatrixOptions.decode`) or from text
(`MatrixOptions.decodeText`). From text a fault has its place, a key may not be repeated, and the
fields may also stand in an array in their order.
-/

namespace PayloadModels

/-- The kinds of field. -/
inductive FieldKind where
  | flag
  | integer
  | text
  | object
  | objects
  deriving DecidableEq, Repr

/-- The values of a kind of field. -/
def FieldKind.Value : FieldKind → Type
  | flag => Bool
  | integer => Int64
  | text => Option String
  | object => Option Json.Members
  | objects => List Json.Members

namespace FieldKind

/-- The value of a field that is absent. -/
def default : (kind : FieldKind) → kind.Value
  | flag => false
  | integer => (0 : Int64)
  | text => (none : Option String)
  | object => (none : Option Json.Members)
  | objects => ([] : List Json.Members)

/-- Whether a value is that of an absent field. -/
def isDefault : (kind : FieldKind) → kind.Value → Bool
  | flag, (b : Bool) => !b
  | integer, (n : Int64) => n == 0
  | text, (s : Option String) => s.isNone
  | object, (members : Option Json.Members) => members.isNone
  | objects, (list : List Json.Members) => list.isEmpty

/-- What a value of the kind is expected to be. -/
def expected : FieldKind → Json.Expected
  | flag => .boolean
  | integer => .int64
  | text => .string
  | object => .map
  | objects => .sequence

/-- Refuses a value, as not being what was expected. -/
def mismatch {α : Type} (value : Json) (expected : Json.Expected) : Except Json.Cause α :=
  .error (.mismatch value.shape expected)

/-- Decodes a nested object. -/
def decodeObject : Json → Except Json.Cause Json.Members
  | .obj members => .ok members
  | value => mismatch value .map

/-- Decodes a value that is not `null`. -/
def decode : (kind : FieldKind) → Json → Except Json.Cause kind.Value
  | flag, .bool b => .ok b
  | integer, .num (.int n) =>
    if isInt64 n then .ok (Int64.ofInt n) else mismatch (.num (.int n)) .int64
  | text, .str s => .ok (some s)
  | object, .obj members => .ok (some members)
  | objects, .arr items => items.mapM decodeObject
  | kind, value => mismatch value kind.expected

/-- Decodes a value, where `null` is the default. -/
def decodeField (kind : FieldKind) (value : Json) : Except Json.Cause kind.Value :=
  if value.isNull then .ok kind.default else kind.decode value

/-- The value as JSON, if it is written at all: an absent text or object is not. -/
def toJson? : (kind : FieldKind) → kind.Value → Option Json
  | flag, (b : Bool) => some (.bool b)
  | integer, (n : Int64) => some (.num (.int n.toInt))
  | text, (s : Option String) => s.map .str
  | object, (members : Option Json.Members) => members.map .obj
  | objects, (list : List Json.Members) => some (.arr (list.map .obj))

end FieldKind

namespace MatrixOptions

/-- The fields of a record. -/
inductive Field where
  | autoship
  | hasHsnSizeChart
  | images
  | tabs
  | productId
  | autoshipInformation
  | itemNumber
  | jsonProductZoomUrls
  | optionDescription
  | previewUrl
  | productDescription
  | productImageUrl
  | productImageUrlWithToken
  | productUrl
  | thumbnailUrl
  | oldPrice
  | price
  | pricingDetail
  | productOptions
  deriving DecidableEq, Repr

namespace Field

/-- The fields in their order. -/
def all : List Field :=
  [autoship, hasHsnSizeChart, images, tabs, productId, autoshipInformation, itemNumber,
   jsonProductZoomUrls, optionDescription, previewUrl, productDescription, productImageUrl,
   productImageUrlWithToken, productUrl, thumbnailUrl, oldPrice, price, pricingDetail,
   productOptions]

/-- The key of a field. -/
def key : Field → String
  | autoship => "autoship"
  | hasHsnSizeChart => "hasHsnSizeChart"
  | images => "images"
  | tabs => "tabs"
  | productId => "productId"
  | autoshipInformation => "autoshipInformation"
  | itemNumber => "itemNumber"
  | jsonProductZoomUrls => "jsonProductZoomUrls"
  | optionDescription => "optionDescription"
  | previewUrl => "previewUrl"
  | productDescription => "productDescription"
  | productImageUrl => "productImageUrl"
  | productImageUrlWithToken => "productImageUrlWithToken"
  | productUrl => "productUrl"
  | thumbnailUrl => "thumbnailUrl"
  | oldPrice => "oldPrice"
  | price => "price"
  | pricingDetail => "pricingDetail"
  | productOptions => "productOptions"

/-- The kind of a field. -/
def kind : Field → FieldKind
  | hasHsnSizeChart => .flag
  | productId => .integer
  | images | tabs => .objects
  | autoship | oldPrice | price | pricingDetail | productOptions => .object
  | autoshipInformation | itemNumber | jsonProductZoomUrls | optionDescription | previewUrl
  | productDescription | productImageUrl | productImageUrlWithToken | productUrl
  | thumbnailUrl => .text

/-- The field of a key. -/
def ofKey? (key : String) : Option Field := all.find? (·.key = key)

/-- No field is missing from the list. -/
theorem mem_all (field : Field) : field ∈ all := by cases field <;> decide

/-- A field is found by its key. -/
theorem ofKey?_key (field : Field) : ofKey? field.key = some field := by
  cases field <;> decide

end Field

end MatrixOptions

/-- The purchase options of a product. -/
structure MatrixOptions where
  /-- The value of each field. -/
  value : (field : MatrixOptions.Field) → field.kind.Value

namespace MatrixOptions

/-- The record all of whose fields are absent. -/
def default : MatrixOptions := ⟨fun field => field.kind.default⟩

/-- The record with a field changed. -/
def set (options : MatrixOptions) (field : Field) (value : field.kind.Value) : MatrixOptions :=
  ⟨fun other => if h : other = field then h ▸ value else options.value other⟩

/-- Whether all fields of the record have the values of absent ones. -/
def isDefault (options : MatrixOptions) : Bool :=
  Field.all.all fun field => field.kind.isDefault (options.value field)

/-- The record after a member of an object; a member of another key is passed over. -/
def decodeMember (options : MatrixOptions) (member : String × Json) :
    Except Json.Cause MatrixOptions :=
  match Field.ofKey? member.1 with
  | none => .ok options
  | some field => (field.kind.decodeField member.2).map (options.set field)

/-- The record that an object holds. -/
def ofMembers (members : Json.Members) : Except Json.Cause MatrixOptions :=
  members.foldlM decodeMember default

/-- The name of the record, as messages give it. -/
def recordName : String := "MatrixOptions"

/-- Decodes the record that an object holds. -/
def decode (members : Json.Members) : Except Error MatrixOptions :=
  (ofMembers members).mapError fun cause => .recordUndecodable recordName cause.describe

/-- The record as an object, without the absent texts and objects. -/
def toMembers (options : MatrixOptions) : Json.Members :=
  Field.all.filterMap fun field =>
    (field.kind.toJson? (options.value field)).map fun value => (field.key, value)

/-- The record as JSON. -/
def toJson (options : MatrixOptions) : Json := .obj options.toMembers

end MatrixOptions

end PayloadModels
