import PgAnalytics.RecordBatches

/-! `get_cell`: what is read from an Arrow array for a Postgres type. The reader fails on
the types alone: it turns a pair of types down, takes an array for one of another type, or
panics. A cell holds the value that was read and what it is converted to; a conversion can
fail as well. -/

namespace PgAnalytics.CellReader
open RecordBatches

inductive TimeUnit where
  | second
  | millisecond
  | microsecond
  | nanosecond
  deriving DecidableEq, Repr

inductive IntervalUnit where
  | yearMonth
  | dayTime
  | monthDayNano
  deriving DecidableEq, Repr

inductive DataType where
  | null
  | boolean
  | int8
  | int16
  | int32
  | int64
  | uint8
  | uint16
  | uint32
  | uint64
  | float16
  | float32
  | float64
  | decimal128 (precision scale : ℕ)
  | utf8
  | largeUtf8
  | binary
  | largeBinary
  | date32
  | date64
  | time32 (unit : TimeUnit)
  | time64 (unit : TimeUnit)
  | timestamp (unit : TimeUnit) (timeZone : Option String)
  | interval (unit : IntervalUnit)
  | list (element : DataType)
  | fixedSizeList (element : DataType) (size : ℕ)
  | struct (fields : List (String × DataType))
  | other (name : String)

inductive ArrayType where
  | null
  | boolean
  | int8
  | int16
  | int32
  | int64
  | uint8
  | uint16
  | uint32
  | uint64
  | float16
  | float32
  | float64
  | decimal128
  | string
  | largeString
  | binary
  | largeBinary
  | date32
  | date64
  | time32 (unit : TimeUnit)
  | time64 (unit : TimeUnit)
  | timestamp (unit : TimeUnit)
  | interval (unit : IntervalUnit)
  | list
  | fixedSizeList
  | struct
  | other (name : String)
  deriving DecidableEq, Repr

def DataType.arrayType : DataType → ArrayType
  | .null => .null
  | .boolean => .boolean
  | .int8 => .int8
  | .int16 => .int16
  | .int32 => .int32
  | .int64 => .int64
  | .uint8 => .uint8
  | .uint16 => .uint16
  | .uint32 => .uint32
  | .uint64 => .uint64
  | .float16 => .float16
  | .float32 => .float32
  | .float64 => .float64
  | .decimal128 _ _ => .decimal128
  | .utf8 => .string
  | .largeUtf8 => .largeString
  | .binary => .binary
  | .largeBinary => .largeBinary
  | .date32 => .date32
  | .date64 => .date64
  | .time32 unit => .time32 unit
  | .time64 unit => .time64 unit
  | .timestamp unit _ => .timestamp unit
  | .interval unit => .interval unit
  | .list _ => .list
  | .fixedSizeList _ _ => .fixedSizeList
  | .struct _ => .struct
  | .other name => .other name

variable {σ : Type}

inductive Value (σ : Type) where
  | null
  | single (value : σ)
  | list (elements : List (Value σ))
  | struct (fields : List (Value σ))

inductive Value.HasType : DataType → Value σ → Prop where
  | null (t : DataType) : HasType t .null
  | single {t : DataType} (value : σ) (scalar : t.arrayType ∉ [.list, .fixedSizeList, .struct]) :
    HasType t (.single value)
  | list {t : DataType} {elements : List (Value σ)} (typed : ∀ v ∈ elements, HasType t v) :
    HasType (.list t) (.list elements)
  | fixedSizeList {t : DataType} {size : ℕ} {elements : List (Value σ)}
    (typed : ∀ v ∈ elements, HasType t v) (length : elements.length = size) :
    HasType (.fixedSizeList t size) (.list elements)
  | struct {fields : List (String × DataType)} {values : List (Value σ)}
    (length : values.length = fields.length)
    (typed : ∀ f ∈ fields.zip values, HasType f.1.2 f.2) : HasType (.struct fields) (.struct values)

/-- How reading fails. The first three are errors, the last is a panic of `arrow`. -/
inductive ReadFault where
  | mismatch (name : String) (dataType : DataType) (oid : Oid)
  | unsupported (container : String) (dataType : DataType)
  | downcast (array : String)
  | panic (array : String)

inductive CellKind where
  | bool
  | bytea
  | i16
  | i32
  | i64
  | f32
  | f64
  | numeric
  | string
  | date
  | interval
  | time
  | timestamp
  | timestamptz
  | uuid
  deriving DecidableEq, Repr

inductive Json (σ : Type) where
  | null
  | single (value : σ)
  | parsed (text : σ)
  | array (elements : List (Json σ))
  | object (fields : List (String × Json σ))

inductive Cell (σ : Type) where
  | single (kind : CellKind) (value : σ)
  | array (kind : CellKind) (values : List (Option σ))
  | json (value : Json σ)
  | jsonb (value : Json σ)

def Value.single? : Value σ → Option σ
  | .single value => some value
  | _ => none

/-- `downcast_ref` with an error. -/
def downcast (target : ArrayType) (array : String) (t : DataType) (v : Value σ) :
    Except ReadFault (Option σ) :=
  if t.arrayType = target then .ok v.single? else .error (.downcast array)

/-- `as_primitive`, which panics. -/
def asPrimitive (target : ArrayType) (t : DataType) (v : Value σ) : Except ReadFault (Option σ) :=
  if t.arrayType = target then .ok v.single? else .error (.panic "primitive array")

def getPrimitiveValue (target : ArrayType) (t : DataType) (v : Value σ) :=
  downcast target "primitive array" t v

def getBinaryValue (target : ArrayType) (t : DataType) (v : Value σ) :=
  downcast target "binary array" t v

def getByteValue (target : ArrayType) (t : DataType) (v : Value σ) :=
  downcast target "byte array" t v

def getDecimalValue (t : DataType) (v : Value σ) := downcast .decimal128 "Decimal128 array" t v

def getUuidValue (t : DataType) (v : Value σ) := downcast .string "uuid array" t v

def getUintValue (target : ArrayType) (t : DataType) (v : Value σ) := asPrimitive target t v

def getDateValue (target : ArrayType) (t : DataType) (v : Value σ) := asPrimitive target t v

def getTimeValue (target : ArrayType) (t : DataType) (v : Value σ) := asPrimitive target t v

def getTimestampValue (unit : TimeUnit) (t : DataType) (v : Value σ) :=
  asPrimitive (.timestamp unit) t v

def getTimestamptzValue (unit : TimeUnit) (t : DataType) (v : Value σ) :=
  asPrimitive (.timestamp unit) t v

/-- `get_interval_day_time_value` and its siblings. -/
def getIntervalValue (unit : IntervalUnit) (t : DataType) (v : Value σ) :=
  asPrimitive (.interval unit) t v

def getNumberValue (t : DataType) (v : Value σ) : Option (Except ReadFault (Option σ)) :=
  match t with
  | .int8 => some (getPrimitiveValue .int8 t v)
  | .int16 => some (getPrimitiveValue .int16 t v)
  | .int32 => some (getPrimitiveValue .int32 t v)
  | .int64 => some (getPrimitiveValue .int64 t v)
  | .uint8 => some (getUintValue .uint8 t v)
  | .uint16 => some (getUintValue .uint16 t v)
  | .uint32 => some (getUintValue .uint32 t v)
  | .uint64 => some (getUintValue .uint64 t v)
  | .float16 => some (getPrimitiveValue .float16 t v)
  | .float32 => some (getPrimitiveValue .float32 t v)
  | .float64 => some (getPrimitiveValue .float64 t v)
  | .decimal128 _ _ => some (getDecimalValue t v)
  | _ => none

/-- `get_string_list_value` is the one for strings. -/
def getPrimitiveListValue (target : ArrayType) (t : DataType) (v : Value σ) :
    Except ReadFault (Option (List (Option σ))) :=
  match t, v with
  | .list element, .list elements =>
    if element.arrayType = target then .ok (some (elements.map Value.single?))
    else .error (.downcast "list array")
  | .list _, _ => .ok none
  | _, _ => .error (.panic "list array")

def getFieldValue (t : DataType) (v : Value σ) : Except ReadFault (Option σ) :=
  match t with
  | .boolean => getPrimitiveValue .boolean t v
  | .utf8 => getPrimitiveValue .string t v
  | _ => (getNumberValue t v).getD (.error (.unsupported "Structs" t))

/-- `fields.find`: a name is that of its first field. -/
def readField (fields : List (String × DataType)) (values : List (Value σ)) (columnName : String) :
    Except ReadFault (Option (String × Json σ)) :=
  match (fields.zip values).find? fun field => field.1.1 == columnName with
  | none => .ok none
  | some ((_, t), v) =>
    (getFieldValue t v).map (Option.map fun value => (columnName, .single value))

def getStructValue (t : DataType) (v : Value σ) : Except ReadFault (Option (Json σ)) :=
  match t, v with
  | .struct fields, .struct values =>
    (fields.mapM fun field => readField fields values field.1).map fun map =>
      some (.object (map.filterMap id))
  | .struct _, _ => .ok none
  | _, _ => .error (.panic "struct array")

/-- The match of `get_list_value` on the type of the elements. -/
def listValues : DataType → List (Value σ) → Except ReadFault (List (Json σ))
  | .boolean, elements | .int8, elements | .int16, elements | .int32, elements | .int64, elements
  | .utf8, elements => .ok (elements.map fun v => v.single?.elim .null .single)
  -- the array of lists itself is taken for one of strings
  | .largeUtf8, _ => .error (.downcast "primitive array")
  | .struct fields, elements =>
    elements.mapM fun v => (getStructValue (.struct fields) v).map (·.getD .null)
  | .list element, elements =>
    elements.mapM fun
      | .list inner => (listValues element inner).map .array
      | _ => .ok .null
  | t, _ => .error (.unsupported "List" t)

def getListValue (t : DataType) (v : Value σ) : Except ReadFault (Option (Json σ)) :=
  match t, v with
  | .list element, .list elements => (listValues element elements).map (some ∘ .array)
  | .list _, _ => .ok none
  | _, _ => .error (.panic "list array")

def BOOLOID : Oid := 16
def BYTEAOID : Oid := 17
def NAMEOID : Oid := 19
def TEXTOID : Oid := 25
def JSONOID : Oid := 114
def FLOAT4OID : Oid := 700
def FLOAT8OID : Oid := 701
def BOOLARRAYOID : Oid := 1000
def INT2ARRAYOID : Oid := 1005
def INT4ARRAYOID : Oid := 1007
def TEXTARRAYOID : Oid := 1009
def BPCHARARRAYOID : Oid := 1014
def VARCHARARRAYOID : Oid := 1015
def INT8ARRAYOID : Oid := 1016
def FLOAT4ARRAYOID : Oid := 1021
def FLOAT8ARRAYOID : Oid := 1022
def BPCHAROID : Oid := 1042
def VARCHAROID : Oid := 1043
def DATEOID : Oid := 1082
def TIMEOID : Oid := 1083
def TIMESTAMPOID : Oid := 1114
def TIMESTAMPTZOID : Oid := 1184
def INTERVALOID : Oid := 1186
def NUMERICOID : Oid := 1700
def VOIDOID : Oid := 2278
def UUIDOID : Oid := 2950
def JSONBOID : Oid := 3802

inductive Arm where
  | bool
  | bytea
  | number (kind : CellKind)
  | text
  | date
  | interval
  | json
  | jsonb
  | time
  | timestamp
  | timestamptz
  | void
  | uuid
  | list (target : ArrayType) (kind : CellKind)
  deriving DecidableEq, Repr

def arms : List (Oid × Arm) :=
  [(BOOLOID, .bool), (BYTEAOID, .bytea), (INT2OID, .number .i16), (INT4OID, .number .i32),
    (INT8OID, .number .i64), (FLOAT4OID, .number .f32), (FLOAT8OID, .number .f64),
    (NUMERICOID, .number .numeric), (TEXTOID, .text), (VARCHAROID, .text), (BPCHAROID, .text),
    (NAMEOID, .text), (DATEOID, .date), (INTERVALOID, .interval), (JSONOID, .json),
    (JSONBOID, .jsonb), (TIMEOID, .time), (TIMESTAMPOID, .timestamp),
    (TIMESTAMPTZOID, .timestamptz), (VOIDOID, .void), (UUIDOID, .uuid),
    (BOOLARRAYOID, .list .boolean .bool), (TEXTARRAYOID, .list .string .string),
    (VARCHARARRAYOID, .list .string .string), (BPCHARARRAYOID, .list .string .string),
    (INT2ARRAYOID, .list .int16 .i16), (INT4ARRAYOID, .list .int32 .i32),
    (INT8ARRAYOID, .list .int64 .i64), (FLOAT4ARRAYOID, .list .float32 .f32),
    (FLOAT8ARRAYOID, .list .float64 .f64)]

/-- What an arm answers, none for a type that it has no case for. -/
abbrev Answer (σ : Type) := Option (Except ReadFault (Option (Cell σ)))

def cell (kind : CellKind) (found : Except ReadFault (Option σ)) :
    Except ReadFault (Option (Cell σ)) :=
  found.map (Option.map (.single kind))

/-- The arms of numbers differ in two cases. -/
def readNumber (kind : CellKind) (t : DataType) (v : Value σ) : Answer σ :=
  match kind, t with
  | .i16, .int64 => some (cell kind (getUintValue .uint8 t v))
  | .numeric, .decimal128 _ _ => some (cell kind (getPrimitiveValue .decimal128 t v))
  | _, _ => (getNumberValue t v).map (cell kind)

def readBytea (t : DataType) (v : Value σ) : Answer σ :=
  match t with
  | .binary => some (cell .bytea (getByteValue .binary t v))
  | .largeBinary => some (cell .bytea (getByteValue .largeBinary t v))
  | .utf8 => some (cell .bytea (getPrimitiveValue .string t v))
  | _ => none

def readText (t : DataType) (v : Value σ) : Answer σ :=
  match t with
  | .utf8 => some (cell .string (getPrimitiveValue .string t v))
  | .largeUtf8 => some (cell .string (getPrimitiveValue .largeString t v))
  | .binary => some (cell .string (getBinaryValue .binary t v))
  | .largeBinary => some (cell .string (getBinaryValue .largeBinary t v))
  | _ => none

def readDate (kind : CellKind) (t : DataType) (v : Value σ) : Answer σ :=
  match t with
  | .date32 => some (cell kind (getDateValue .date32 t v))
  | .date64 => some (cell kind (getDateValue .date64 t v))
  | _ => none

def readInterval (t : DataType) (v : Value σ) : Answer σ :=
  match t with
  | .interval unit => some (cell .interval (getIntervalValue unit t v))
  | _ => none

/-- The arms of `json` and `jsonb`, by the cell they make. -/
def readJson (make : Json σ → Cell σ) (t : DataType) (v : Value σ) : Answer σ :=
  match t with
  | .struct _ => some ((getStructValue t v).map (Option.map make))
  | .utf8 => some ((getPrimitiveValue .string t v).map (Option.map (make ∘ .parsed)))
  | .largeUtf8 => some ((getPrimitiveValue .largeString t v).map (Option.map (make ∘ .parsed)))
  | .list _ => some ((getListValue t v).map (Option.map make))
  | _ => none

def readTime (t : DataType) (v : Value σ) : Answer σ :=
  match t with
  | .time64 .nanosecond => some (cell .time (getTimeValue (.time64 .nanosecond) t v))
  | .time64 .microsecond => some (cell .time (getTimeValue (.time64 .microsecond) t v))
  | .time32 .millisecond => some (cell .time (getTimeValue (.time32 .millisecond) t v))
  | .time32 .second => some (cell .time (getTimeValue (.time32 .second) t v))
  | _ => none

def readTimestamp (t : DataType) (v : Value σ) : Answer σ :=
  match t with
  | .timestamp unit _ => some (cell .timestamp (getTimestampValue unit t v))
  | _ => readDate .timestamp t v

def readTimestamptz (t : DataType) (v : Value σ) : Answer σ :=
  match t with
  | .timestamp unit _ => some (cell .timestamptz (getTimestamptzValue unit t v))
  | _ => readDate .timestamptz t v

def readArm (arm : Arm) (t : DataType) (v : Value σ) : Answer σ :=
  match arm with
  | .bool => some (cell .bool (getPrimitiveValue .boolean t v))
  | .bytea => readBytea t v
  | .number kind => readNumber kind t v
  | .text => readText t v
  | .date => readDate .date t v
  | .interval => readInterval t v
  | .json => readJson .json t v
  | .jsonb => readJson .jsonb t v
  | .time => readTime t v
  | .timestamp => readTimestamp t v
  | .timestamptz => readTimestamptz t v
  | .void => if t.arrayType = .null then some (.ok none) else none
  | .uuid => some (cell .uuid (getUuidValue t v))
  | .list target kind => some ((getPrimitiveListValue target t v).map (Option.map (.array kind)))

def getCell (t : DataType) (v : Value σ) (oid : Oid) (name : String) :
    Except ReadFault (Option (Cell σ)) :=
  ((arms.lookup oid).bind fun arm => readArm arm t v).getD (.error (.mismatch name t oid))

/-- `overflow` is the panic of a build that checks its arithmetic. -/
inductive ConversionFault where
  | read (fault : ReadFault)
  | error (message : String)
  | overflow

def convertEntry {β : Type} (convert : σ → Except ConversionFault β)
    (entry : Except ReadFault (Option σ)) : Except ConversionFault (Option β) :=
  match entry with
  | .error fault => .error (.read fault)
  | .ok none => .ok none
  | .ok (some value) => (convert value).map some

theorem asPrimitive_single (target : ArrayType) (t : DataType) (same : t.arrayType = target)
    (value : σ) : asPrimitive target t (.single value) = .ok (some value) :=
  if_pos same

theorem convertEntry_single {β : Type} (convert : σ → Except ConversionFault β) {value : σ}
    {entry : Except ReadFault (Option σ)} (found : entry = .ok (some value)) {result : β} :
    convertEntry convert entry = .ok (some result) ↔ convert value = .ok result := by
  rw [found, convertEntry]
  cases convert value <;> simp [Except.map]

theorem mapError_eq_ok_iff {β : Type} {made : Except String β} {result : β} :
    made.mapError ConversionFault.error = .ok result ↔ made = .ok result := by
  cases made <;> simp [Except.mapError]

end PgAnalytics.CellReader
