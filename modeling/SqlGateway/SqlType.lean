/-!
# Declared types

The type that a driver declares for a column or a parameter.
-/

namespace SqlGateway

inductive SqlType where
  | binary
  | varBinary
  | longVarBinary
  | blob
  | char
  | varChar
  | longVarChar
  | nChar
  | nVarChar
  | clob
  | bit
  | boolean
  | tinyInt
  | smallInt
  | integer
  | bigInt
  | decimal
  | numeric
  | float
  | double
  | real
  | date
  | time
  | timeWithTimezone
  | timestamp
  | timestampWithTimezone
  | refCursor
  | object
  | other
  deriving DecidableEq, Repr

namespace SqlType

def sqlName : SqlType → String
  | .binary => "BINARY"
  | .varBinary => "VARBINARY"
  | .longVarBinary => "LONGVARBINARY"
  | .blob => "BLOB"
  | .char => "CHAR"
  | .varChar => "VARCHAR"
  | .longVarChar => "LONGVARCHAR"
  | .nChar => "NCHAR"
  | .nVarChar => "NVARCHAR"
  | .clob => "CLOB"
  | .bit => "BIT"
  | .boolean => "BOOLEAN"
  | .tinyInt => "TINYINT"
  | .smallInt => "SMALLINT"
  | .integer => "INTEGER"
  | .bigInt => "BIGINT"
  | .decimal => "DECIMAL"
  | .numeric => "NUMERIC"
  | .float => "FLOAT"
  | .double => "DOUBLE"
  | .real => "REAL"
  | .date => "DATE"
  | .time => "TIME"
  | .timeWithTimezone => "TIME WITH TIME ZONE"
  | .timestamp => "TIMESTAMP"
  | .timestampWithTimezone => "TIMESTAMP WITH TIME ZONE"
  | .refCursor => "REF CURSOR"
  | .object => "OBJECT"
  | .other => "OTHER"

def storedName : SqlType → String
  | .binary => "Binary"
  | .varBinary => "VarBinary"
  | .longVarBinary => "LongVarBinary"
  | .blob => "Blob"
  | .char => "Char"
  | .varChar => "VarChar"
  | .longVarChar => "LongVarChar"
  | .nChar => "NChar"
  | .nVarChar => "NVarChar"
  | .clob => "Clob"
  | .bit => "Bit"
  | .boolean => "Boolean"
  | .tinyInt => "TinyInt"
  | .smallInt => "SmallInt"
  | .integer => "Integer"
  | .bigInt => "BigInt"
  | .decimal => "Decimal"
  | .numeric => "Numeric"
  | .float => "Float"
  | .double => "Double"
  | .real => "Real"
  | .date => "Date"
  | .time => "Time"
  | .timeWithTimezone => "TimeWithTimezone"
  | .timestamp => "Timestamp"
  | .timestampWithTimezone => "TimestampWithTimezone"
  | .refCursor => "RefCursor"
  | .object => "Object"
  | .other => "Other"

def all : List SqlType :=
  [.binary, .varBinary, .longVarBinary, .blob, .char, .varChar, .longVarChar, .nChar, .nVarChar,
    .clob, .bit, .boolean, .tinyInt, .smallInt, .integer, .bigInt, .decimal, .numeric, .float,
    .double, .real, .date, .time, .timeWithTimezone, .timestamp, .timestampWithTimezone,
    .refCursor, .object, .other]

def ofStoredName? (name : String) : Option SqlType :=
  all.find? (·.storedName == name)

end SqlType

end SqlGateway
