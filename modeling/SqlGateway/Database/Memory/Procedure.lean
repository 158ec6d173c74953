import SqlGateway.Database.Memory.Basic

/-!
# Procedures

Procedures for a table of numbered names: its rows are an `ID` and a `NAME`.
-/

namespace SqlGateway.Database.Procedure

def idColumn : Column := ⟨"ID", .bigInt⟩

def nameColumn : Column := ⟨"NAME", .varChar⟩

def cellIn (index : Nat) (values : List Value) (row : List Value) : Bool :=
  row[index]?.any (values.contains ·)

/-- Adds a row with the first value as its name, and gives its number as a key. -/
def insert : Procedure := fun table values =>
  match values.head? with
  | none | some .null => (.error (.plain "ORA-01400: cannot insert NULL"), table)
  | some name =>
    let id := Value.int table.nextId
    (.ok { count := 1, keys := some ⟨[idColumn], [[id]]⟩ },
      { rows := table.rows ++ [[id, name]], nextId := table.nextId + 1 })

/-- The rows that have one of the values as number or name; without values all rows. -/
def select : Procedure := fun table values =>
  let rows :=
    if values.isEmpty then table.rows
    else table.rows.filter fun row => cellIn 0 values row || cellIn 1 values row
  (.ok { results := [⟨[idColumn, nameColumn], rows⟩] }, table)

def delete : Procedure := fun table values =>
  let rows := table.rows.filter fun row => !cellIn 1 values row
  (.ok { count := .ofNat (table.rows.length - rows.length) }, { table with rows })

/-- The name in the first row that has the first value as number, as output value at position 2. -/
def nameById : Procedure := fun table values =>
  let row := table.rows.find? (cellIn 0 (values.take 1))
  (.ok { out := [(2, (row.bind (·[1]?)).getD .null)] }, table)

def fixed (outcome : Except Failure (Execution (ResultSet Value) Value)) : Procedure :=
  fun table _ => (outcome, table)

end SqlGateway.Database.Procedure
