import SqlGateway.Proofs.Trace.Protocol

/-!
# What passes during an update

The statement of an update is prepared and given its settings, its rows are run one by one or as a
batch, and it is closed. Where keys are wanted they are read after each execution.
-/

namespace SqlGateway

/-! ## Calls -/

namespace Call

def settings (i : StatementId) (o : Options) : List Call :=
  (o.timeout.map (setTimeout i)).toList ++
    setPoolable i o.poolable :: setEscapeProcessing i o.escapeProcessing ::
      ((o.fetchSize.map (setFetchSize i)).toList ++ (o.maxRows.map (setMaxRows i)).toList)

/-- The values of a row, at successive positions. -/
def bindings (i : StatementId) (position : Nat) : List Value → List Call
  | [] => []
  | value :: values => bind i position value :: bindings i (position + 1) values

def execution (i : StatementId) (large : Bool) : Call :=
  if large then executeLargeUpdate i else executeUpdate i

/-- The calls that belong to one execution each: a batch has one execution, and otherwise each row
has its own. -/
def executions (i : StatementId) (rows : List (List Value)) (large batch : Bool) :
    List (List Call) :=
  if batch then
    [rows.flatMap (fun row => bindings i 1 row ++ [addBatch i]) ++ [executeLargeBatch i]]
  else rows.map fun row => bindings i 1 row ++ [execution i large]

end Call

/-! ## Protocols -/

open Protocol

/-- The executions of an update. What is in `L` passes after each of them. -/
def Executions (L : Protocol) (executions : List (List Call)) : Protocol :=
  Each (fun calls => Then (Each Once calls) L) executions

/-- The rows of an update. Whether the driver has batches is asked only where one is wanted. -/
inductive Rows (i : StatementId) (rows : List (List Value)) (options : Options) (L : Protocol) :
    Protocol
  | asked {t : List Exchange} {ok : Bool} (h : (options.batch && 1 < rows.length) = true)
      (batch : Bool) (ht : Executions L (Call.executions i rows options.large batch) t ok) :
      Rows i rows options L (.probe .supportsBatch batch :: t) ok
  | unasked {t : List Exchange} {ok : Bool} (h : (options.batch && 1 < rows.length) = false)
      (ht : Executions L (Call.executions i rows options.large false) t ok) :
      Rows i rows options L t ok

/-- A reading of a row, and what it comes to with the answers that it was given. -/
inductive Replays {α : Type} (k : CursorId) :
    Reading CellRead CellRead.Answer α → List Exchange → α → Prop
  | done (a : α) : Replays k (.done a) [] a
  | object {index : Nat} {next : Except Failure Value → Reading CellRead CellRead.Answer α}
      {answer : Except Failure Value} {t : List Exchange} {a : α}
      (h : Replays k (next answer) t a) :
      Replays k (.ask (.object index) next) (.call (.getObject k index) answer :: t) a
  | binaryStream {index : Nat}
      {next : Except Failure (Option Stream) → Reading CellRead CellRead.Answer α}
      {answer : Except Failure (Option Stream)} {t : List Exchange} {a : α}
      (h : Replays k (next answer) t a) :
      Replays k (.ask (.binaryStream index) next) (.call (.getBinaryStream k index) answer :: t) a
  | characterStream {index : Nat}
      {next : Except Failure (Option Stream) → Reading CellRead CellRead.Answer α}
      {answer : Except Failure (Option Stream)} {t : List Exchange} {a : α}
      (h : Replays k (next answer) t a) :
      Replays k (.ask (.characterStream index) next)
        (.call (.getCharacterStream k index) answer :: t) a

/-- The columns of a cursor are asked for with its first row. -/
inductive Described (k : CursorId) : Option Row → List Exchange → Row → Prop
  | known (row : Row) : Described k (some row) [] row
  | first (columns : List Column) :
      Described k none [.call (.columns k) (.ok columns)] (.ofColumns columns)

/-- The rows that are left of a cursor over keys, each of them mapped. -/
inductive KeyRows {α : Type} (k : CursorId) (mapper : RowMapper α) : Option Row → Protocol
  | unmoved {known : Option Row} (f : Failure) :
      KeyRows k mapper known [.call (.next k) (.error f)] false
  | finished {known : Option Row} : KeyRows k mapper known [.call (.next k) (.ok false)] true
  | undescribed (f : Failure) : KeyRows k mapper none
      [.call (.next k) (.ok true), .call (.columns k) (.error f)] false
  | unmapped {known : Option Row} {row : Row} {t u : List Exchange} {e : Error}
      (hrow : Described k known t row) (hmap : Replays k (mapper row).run u (.error e)) :
      KeyRows k mapper known (.call (.next k) (.ok true) :: (t ++ u)) false
  | mapped {known : Option Row} {row : Row} {t u v : List Exchange} {a : α} {ok : Bool}
      (hrow : Described k known t row) (hmap : Replays k (mapper row).run u (.ok a))
      (hrest : KeyRows k mapper (some row) v ok) :
      KeyRows k mapper known (.call (.next k) (.ok true) :: (t ++ u ++ v)) ok

/-- The keys of one execution. Their cursor is closed, whatever becomes of its rows. -/
inductive Keys {α : Type} (i : StatementId) (mapper : RowMapper α) : Protocol
  | unopened (k : CursorId) (f : Failure) :
      Keys i mapper [.call (.generatedKeys i k) (.error f)] false
  | opened (k : CursorId) {t : List Exchange} {ok : Bool}
      (ht : Finally (KeyRows k mapper none) (Once (.closeCursor k)) t ok) :
      Keys i mapper (.call (.generatedKeys i k) (.ok ()) :: t) ok

/-- An update, with what is in `L` for its rows. Its statement is closed, whatever becomes of it. -/
inductive Updated (sql : String) (keys : GeneratedKeys) (options : Options)
    (L : StatementId → Protocol) : Protocol
  | closed : Updated sql keys options L [.probe .isClosed true] false
  | unprepared (i : StatementId) (f : Failure) : Updated sql keys options L
      [.probe .isClosed false, .call (.prepare i sql .dml keys) (.error f)] false
  | prepared (i : StatementId) {t : List Exchange} {ok : Bool}
      (ht : Finally (Then (Each Hint (Call.settings i options)) (L i)) (Once (.closeStatement i))
        t ok) :
      Updated sql keys options L
        (.probe .isClosed false :: .call (.prepare i sql .dml keys) (.ok ()) :: t) ok

/-! ## Traces are decisive -/

theorem probe_injective {q : Probe} {b b' : Bool} (h : Exchange.probe q b = .probe q b') :
    b = b' := by
  cases h
  rfl

theorem Protocol.Decisive.executions {L : Protocol} (hL : Decisive L)
    (executions : List (List Call)) :
    Decisive (Executions L executions) :=
  .each (fun calls => (Decisive.each Decisive.once calls).andThen hL) executions

theorem Protocol.Decisive.rows {i : StatementId} {rows : List (List Value)} {options : Options}
    {L : Protocol} (hL : Decisive L) : Decisive (Rows i rows options L) := by
  intro t t' u u' ok ok' h h' heq
  cases h with
  | asked h batch ht =>
      cases h' with
      | asked h' batch' ht' =>
          obtain ⟨hprobe, htail⟩ := List.cons.inj heq
          obtain rfl := probe_injective hprobe
          obtain ⟨rfl, rfl⟩ := hL.executions _ ht ht' htail
          exact ⟨rfl, rfl⟩
      | unasked h' ht' => exact absurd (h.symm.trans h') nofun
  | unasked h ht =>
      cases h' with
      | asked h' batch' ht' => exact absurd (h'.symm.trans h) nofun
      | unasked h' ht' => exact hL.executions _ ht ht' heq

theorem Replays.decisive {α : Type} {k : CursorId} {p : Reading CellRead CellRead.Answer α}
    {t t' u u' : List Exchange} {a a' : α} (h : Replays k p t a) (h' : Replays k p t' a')
    (heq : t ++ u = t' ++ u') : t = t' ∧ a = a' := by
  induction h generalizing t' with
  | done a =>
      cases h'
      exact ⟨rfl, rfl⟩
  | object h ih | binaryStream h ih | characterStream h ih =>
      cases h' with
      | _ h' =>
          obtain ⟨hcall, htail⟩ := List.cons.inj heq
          obtain rfl := call_injective hcall
          obtain ⟨rfl, rfl⟩ := ih h' htail
          exact ⟨rfl, rfl⟩

theorem Described.decisive {k : CursorId} {known : Option Row} {row row' : Row}
    {t t' u u' : List Exchange} (h : Described k known t row) (h' : Described k known t' row')
    (heq : t ++ u = t' ++ u') : t = t' ∧ row = row' := by
  cases h with
  | known row =>
      cases h'
      exact ⟨rfl, rfl⟩
  | first columns =>
      cases h' with
      | first columns' =>
          obtain rfl := Except.ok.inj (call_injective (List.cons.inj heq).1)
          exact ⟨rfl, rfl⟩

theorem call_cons_injective {c : Call} {r r' : Except Failure c.Answer}
    {t t' u u' : List Exchange} (h : .call c r :: t ++ u = .call c r' :: t' ++ u') :
    r = r' ∧ t ++ u = t' ++ u' :=
  ⟨call_injective (List.cons.inj h).1, (List.cons.inj h).2⟩

/-- The first key row cannot both have columns and have none. -/
theorem Described.not_undescribed {k : CursorId} {row : Row} {f : Failure}
    {t u u' : List Exchange} (h : Described k none t row)
    (heq : t ++ u = .call (.columns k) (.error f) :: u') : False := by
  cases h with
  | first columns => cases call_injective (List.cons.inj heq).1

theorem Protocol.Decisive.keyRows {α : Type} {k : CursorId} {mapper : RowMapper α}
    (known : Option Row) : Decisive (KeyRows k mapper known) := by
  intro t t' u u' ok ok' h h' heq
  induction h generalizing t' with
  | unmoved f | finished =>
      cases h' <;> cases (call_cons_injective heq).1
      exact ⟨rfl, rfl⟩
  | undescribed f =>
      cases h' with
      | unmoved | finished => cases (call_cons_injective heq).1
      | undescribed f' =>
          cases call_injective (List.cons.inj (call_cons_injective heq).2).1
          exact ⟨rfl, rfl⟩
      | unmapped hrow' hmap' | mapped hrow' hmap' hrest' =>
          have htail := (call_cons_injective heq).2
          simp only [List.append_assoc] at htail
          exact (hrow'.not_undescribed htail.symm).elim
  | unmapped hrow hmap =>
      cases h' with
      | unmoved | finished => cases (call_cons_injective heq).1
      | undescribed f' =>
          have htail := (call_cons_injective heq).2
          rw [List.append_assoc] at htail
          exact (hrow.not_undescribed htail).elim
      | unmapped hrow' hmap' =>
          have htail := (call_cons_injective heq).2
          simp only [List.append_assoc] at htail
          obtain ⟨rfl, rfl⟩ := hrow.decisive hrow' htail
          obtain ⟨rfl, -⟩ := hmap.decisive hmap' (List.append_cancel_left htail)
          exact ⟨rfl, rfl⟩
      | mapped hrow' hmap' hrest' =>
          have htail := (call_cons_injective heq).2
          simp only [List.append_assoc] at htail
          obtain ⟨rfl, rfl⟩ := hrow.decisive hrow' htail
          cases (hmap.decisive hmap' (List.append_cancel_left htail)).2
  | mapped hrow hmap hrest ih =>
      cases h' with
      | unmoved | finished => cases (call_cons_injective heq).1
      | undescribed f' =>
          have htail := (call_cons_injective heq).2
          simp only [List.append_assoc] at htail
          exact (hrow.not_undescribed htail).elim
      | unmapped hrow' hmap' =>
          have htail := (call_cons_injective heq).2
          simp only [List.append_assoc] at htail
          obtain ⟨rfl, rfl⟩ := hrow.decisive hrow' htail
          cases (hmap.decisive hmap' (List.append_cancel_left htail)).2
      | mapped hrow' hmap' hrest' =>
          have htail := (call_cons_injective heq).2
          simp only [List.append_assoc] at htail
          obtain ⟨rfl, rfl⟩ := hrow.decisive hrow' htail
          have hmapped := List.append_cancel_left htail
          obtain ⟨rfl, -⟩ := hmap.decisive hmap' hmapped
          obtain ⟨rfl, rfl⟩ := ih hrest' (List.append_cancel_left hmapped)
          exact ⟨rfl, rfl⟩

theorem Protocol.Decisive.keys {α : Type} {i : StatementId} {mapper : RowMapper α} :
    Decisive (Keys i mapper) := by
  intro t t' u u' ok ok' h h' heq
  have hrows (k : CursorId) :
      Decisive (Finally (KeyRows k mapper none) (Once (.closeCursor k))) :=
    (Decisive.keyRows none).andFinally (.once _)
  cases h with
  | unopened k f =>
      cases h' <;> cases (List.cons.inj heq).1
      exact ⟨rfl, rfl⟩
  | opened k ht =>
      cases h' with
      | unopened k' f' => cases (List.cons.inj heq).1
      | opened k' ht' =>
          cases (List.cons.inj heq).1
          obtain ⟨rfl, rfl⟩ := hrows k ht ht' (List.cons.inj heq).2
          exact ⟨rfl, rfl⟩

theorem Protocol.Decisive.updated {sql : String} {keys : GeneratedKeys} {options : Options}
    {L : StatementId → Protocol} (hL : ∀ i, Decisive (L i)) :
    Decisive (Updated sql keys options L) := by
  intro t t' u u' ok ok' h h' heq
  have hwork (i : StatementId) : Decisive (Finally
      (Then (Each Hint (Call.settings i options)) (L i)) (Once (.closeStatement i))) :=
    ((Decisive.each Decisive.hint _).andThen (hL i)).andFinally (.once _)
  cases h with
  | closed =>
      cases h' <;> cases (List.cons.inj heq).1
      exact ⟨rfl, rfl⟩
  | unprepared i f =>
      cases h' with
      | closed => cases (List.cons.inj heq).1
      | unprepared i' f' =>
          cases (List.cons.inj (List.cons.inj heq).2).1
          exact ⟨rfl, rfl⟩
      | prepared i' ht' => cases (List.cons.inj (List.cons.inj heq).2).1
  | prepared i ht =>
      cases h' with
      | closed => cases (List.cons.inj heq).1
      | unprepared i' f' => cases (List.cons.inj (List.cons.inj heq).2).1
      | prepared i' ht' =>
          obtain ⟨hprepare, htail⟩ := List.cons.inj (List.cons.inj heq).2
          cases hprepare
          obtain ⟨rfl, rfl⟩ := hwork i ht ht' htail
          exact ⟨rfl, rfl⟩

end SqlGateway
