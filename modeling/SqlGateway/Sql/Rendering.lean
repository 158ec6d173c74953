import SqlGateway.Parameter

/-!
# Rendering

A text as it is executed, for diagnostics: each question mark of the text gives way to the value
that is bound to it. Inserted text is not looked into; marks without a value stay.
-/

namespace SqlGateway.Sql

/-- Replaces question marks in order; one for which nothing is given stays. -/
def fillMarks : List Char → List (Option String) → List Char
  | [], _ => []
  | '?' :: s, fills =>
    match fills with
    | some text :: fills => text.toList ++ fillMarks s fills
    | none :: fills => '?' :: fillMarks s fills
    | [] => '?' :: fillMarks s []
  | c :: s, fills => c :: fillMarks s fills

def render (sql : String) (values : List Value) : String :=
  .ofList (fillMarks sql.toList (values.map fun v => some v.display))

/-- A statement once for every row, joined by semicolons; the bare statement if there is none. -/
def renderBatch (sql : String) (rows : List (List Value)) : String :=
  if rows.isEmpty then sql else ";".intercalate (rows.map (render sql))

/-- A call with the values it passes in; an output parameter stays a question mark. -/
def renderCall (sql : String) (params : List Parameter) : String :=
  .ofList (fillMarks sql.toList (params.map fun p => p.value?.map Value.display))

end SqlGateway.Sql
