import SqlGateway.Client.Run
import SqlGateway.Proofs.Custody.Operation

/-!
# Custody through the steps of a client

What is open between two steps of a client is what the cursors that it keeps own.
-/

namespace SqlGateway

variable {σ α β ι : Type} {d : Driver σ}

/-- What the cursors of a registry own. -/
def Registry.holdings (cursors : Registry Nat (ResultCursor α)) : List Holding :=
  cursors.flatMap (·.2.holdings)

theorem Registry.holdings_of_get? {n : Nat} {cursor : ResultCursor α}
    {cursors : Registry Nat (ResultCursor α)} (h : cursors.get? n = some cursor) :
    cursors.holdings.Perm (cursor.holdings ++ (cursors.remove n).holdings) :=
  (perm_of_get? h).flatMap_right _

theorem Registry.holdings_put (n : Nat) (cursor : ResultCursor α)
    (cursors : Registry Nat (ResultCursor α)) :
    (cursors.put n cursor).holdings.Perm (cursor.holdings ++ (cursors.remove n).holdings) :=
  (put_perm n cursor cursors).flatMap_right _

/-- The steps that only go through the library: no work by hand on statements or the connection,
and nothing that happens to the database from outside. -/
def Step.isLibrary : Step σ α → Bool
  | .guard _ | .connection _ | .change _ => false
  | _ => true

namespace Client

/-- The client keeps no guards, and `M` is open besides what its cursors own. Only the cursors in
`view` are taken to be kept. -/
structure Keeping (I : List Holding → Session σ → Prop)
    (view : Registry Nat (ResultCursor α) → Registry Nat (ResultCursor α)) (M : List Holding)
    (client : Client σ α) : Prop where
  guards : client.guards = []
  keys : client.cursors.keys.Nodup
  sound : ∀ e ∈ view client.cursors, e.2.Sound
  open_ : I (M ++ Registry.holdings (view client.cursors)) client.session

def after (d : Driver σ) (client : Client σ α) : List (Step σ α) → Client σ α
  | [] => client
  | step :: steps => after d (client.step d step).2 steps

namespace Keeping

variable {I : List Holding → Session σ → Prop}
  {view : Registry Nat (ResultCursor α) → Registry Nat (ResultCursor α)} {M : List Holding}
  {E : Client σ α → Prop}

/-! ## Acts -/

theorem act {act : Act σ Error β} {p : β → Prop} {M' : β → List Holding}
    (h : ∀ L, Secures (I (M ++ L)) act (fun b s => p b ∧ I (M' b ++ L) s) (I L)) :
    Secures (Keeping I view M) (Client.act act)
      (fun b client => p b ∧ Keeping I view (M' b) client) (Keeping I view []) := by
  intro client hk
  have := h _ client.session hk.open_
  revert this
  change _ → Settled _ _ ((act.run client.session).1.mapError _)
    { client with session := (act.run client.session).2 }
  cases (act.run client.session).1 with
  | ok b => exact fun hs => ⟨hs.1, hk.guards, hk.keys, hk.sound, hs.2⟩
  | error e => exact fun hs => ⟨hk.guards, hk.keys, hk.sound, hs⟩

theorem plain {act : Plain σ β} {p : β → Prop} {M' : β → List Holding}
    (h : ∀ L, Triple (I (M ++ L)) act fun b s => p b ∧ I (M' b ++ L) s) :
    Secures (Keeping I view M) (Client.plain act)
      (fun b client => p b ∧ Keeping I view (M' b) client) E := by
  intro client hk
  have hs := h _ client.session hk.open_
  exact ⟨hs.1, hk.guards, hk.keys, hk.sound, hs.2⟩

/-- An act that disposes of what was open. -/
theorem settle {act : Act σ Error β} (h : ∀ L, Secures (I (M ++ L)) act (fun _ => I L) (I L)) :
    Secures (Keeping I view M) (Client.act act) (fun _ => Keeping I view [])
      (Keeping I view []) := by
  have hact : Secures (Keeping I view M) (Client.act act)
      (fun _ client => True ∧ Keeping I view [] client) (Keeping I view []) :=
    Keeping.act fun L => Secures.weaken (h L) (fun _ _ hs => ⟨trivial, hs⟩) fun _ hs => hs
  exact Secures.weaken hact (fun _ _ hs => hs.2) fun _ hs => hs

theorem accept {P : Client σ α → Prop} (result : Except Error β) :
    Secures P (Client.accept result : Doing σ α β) (fun b client => result = .ok b ∧ P client)
      P := by
  cases result with
  | ok b => exact Secures.pure fun _ hs => ⟨rfl, hs⟩
  | error e => exact Secures.throw fun _ hs => hs

theorem accepted {P : Client σ α → Prop} (result : Except Error β) :
    Keeps P (Client.accept result : Doing σ α β) :=
  Secures.weaken (accept result) (fun _ _ hs => hs.2) fun _ hs => hs

theorem print (text : String) : Keeps (Keeping I view M) (Client.print text) :=
  Secures.modifyState fun _ hk => ⟨hk.guards, hk.keys, hk.sound, hk.open_⟩

end Keeping

end Client

namespace Custody

open Client

variable {I : List Holding → Session σ → Prop}
  {view : Registry Nat (ResultCursor α) → Registry Nat (ResultCursor α)}
  {E : Client σ α → Prop} (hI : Custody d I)
include hI

/-! ## Cursors -/

/-- What stands under a number is open apart from the other cursors. -/
theorem keeping_apart {n : Nat} {cursor : ResultCursor α} {M : List Holding}
    {client : Client σ α} (hn : client.cursors.get? n = some cursor)
    (hk : Keeping I id M client) :
    cursor.Sound ∧ Keeping I (Registry.remove n) (cursor.holdings ++ M) client := by
  have hp := Registry.perm_of_get? hn
  refine ⟨hk.sound _ (hp.mem_iff.mpr List.mem_cons_self), hk.guards, hk.keys, fun e he => ?_, ?_⟩
  · exact hk.sound e (hp.mem_iff.mpr (List.mem_cons_of_mem _ he))
  · refine hI.perm (((Registry.holdings_of_get? hn).append_left M).trans ?_) hk.open_
    rw [List.append_assoc]
    exact List.perm_append_comm_assoc _ _ _

omit hI in
theorem lookUp (n : Nat) :
    Keeps (Keeping I id []) (Client.cursor n : Doing σ α (ResultCursor α)) := by
  refine Secures.bind (Secures.getState fun _ hk => hk) fun client => ?_
  cases client.cursors.get? n with
  | some cursor => exact Keeps.pure
  | none => exact Keeps.throw

theorem cursor (n : Nat) :
    Secures (Keeping I id []) (Client.cursor n : Doing σ α (ResultCursor α))
      (fun cursor client => cursor.Sound ∧ Keeping I (Registry.remove n) cursor.holdings client)
      (Keeping I id []) := by
  intro client hk
  change Settled _ _ ((found (client.cursors.get? n) : Doing σ α (ResultCursor α)) client).1
    ((found (client.cursors.get? n) : Doing σ α (ResultCursor α)) client).2
  cases hn : client.cursors.get? n with
  | none => exact hk
  | some cursor =>
      have := hI.keeping_apart hn hk
      rwa [List.append_nil] at this

theorem takeCursor (n : Nat) :
    Secures (Keeping I id []) (Client.takeCursor n : Doing σ α (ResultCursor α))
      (fun cursor client => cursor.Sound ∧ Keeping I id cursor.holdings client ∧
        Keeping I (Registry.remove n) cursor.holdings client)
      (Keeping I id []) := by
  refine Secures.bind (hI.cursor n) fun cursor => ?_
  refine Secures.assuming fun hc => ?_
  refine Secures.bind (Q := fun _ client => Keeping I id cursor.holdings client ∧
    Keeping I (Registry.remove n) cursor.holdings client) ?_ fun _ => ?_
  · refine Secures.modifyState fun client hk => ?_
    have hkeys := Registry.nodup_remove hk.keys n
    have hr := Registry.remove_remove hk.keys n
    exact ⟨⟨hk.guards, hkeys, hk.sound, hk.open_⟩,
      ⟨hk.guards, hkeys, hr.symm ▸ hk.sound, hr.symm ▸ hk.open_⟩⟩
  · exact Secures.pure fun _ hk => ⟨hc, hk⟩

/-- Under its number a cursor is kept with the others, in place of what the number stood for. -/
theorem putCursor {n : Nat} {cursor : ResultCursor α} {M : List Holding} (hc : cursor.Sound) :
    Secures (Keeping I (Registry.remove n) (M ++ cursor.holdings)) (Client.putCursor n cursor)
      (fun _ => Keeping I id M) E := by
  refine Secures.modifyState fun client hk => ?_
  have hp := Registry.put_perm n cursor client.cursors
  refine ⟨hk.guards, Registry.nodup_put hk.keys n cursor, fun e he => ?_, ?_⟩
  · rcases List.mem_cons.mp (hp.mem_iff.mp he) with rfl | he
    · exact hc
    · exact hk.sound e he
  · refine hI.perm ?_ hk.open_
    rw [List.append_assoc]
    exact ((Registry.holdings_put n cursor client.cursors).append_left M).symm

/-- What a number stood for is dropped once the new cursor is in its place. -/
theorem keepCursor {n : Nat} {cursor : ResultCursor α} (hc : cursor.Sound) :
    Secures (Keeping I id cursor.holdings) (Client.keepCursor d n cursor)
      (fun _ => Keeping I id []) (Keeping I id []) := by
  refine Secures.bind (Secures.getState (Q := fun s client =>
    s = client ∧ Keeping I id cursor.holdings client) fun s hs => ⟨rfl, hs⟩) fun s => ?_
  cases hn : s.cursors.get? n with
  | none =>
      refine Secures.strengthen (P := Keeping I (Registry.remove n) cursor.holdings) ?_ ?_
      · exact Secures.bind (hI.putCursor (M := []) hc) fun _ => Keeps.pure
      · rintro client ⟨rfl, hk⟩
        have hr := Registry.remove_of_get? hn
        exact ⟨hk.guards, hk.keys, hr.symm ▸ hk.sound, hr.symm ▸ hk.open_⟩
  | some old =>
      refine Secures.strengthen (P := fun client => old.Sound ∧
        Keeping I (Registry.remove n) (old.holdings ++ cursor.holdings) client)
        (Secures.assuming fun ho => ?_) ?_
      · refine Secures.bind (hI.putCursor hc) fun _ => ?_
        exact Keeping.settle fun L => Secures.lift (hI.drop ho L)
      · rintro client ⟨rfl, hk⟩
        exact hI.keeping_apart hn hk

/-! ## Rows -/

omit hI in
theorem advance {cursor : ResultCursor α}
    {move : ResultCursor α → Plain σ (β × ResultCursor α)} {p : β × ResultCursor α → Prop}
    (h : ∀ L, Triple (I (cursor.holdings ++ L)) (move cursor) fun r s =>
      p r ∧ I (r.2.holdings ++ L) s) :
    Secures (Keeping I view cursor.holdings) (Client.advance cursor move)
      (fun r client => p r ∧ Keeping I view r.2.holdings client) E := by
  refine Secures.bind (Keeping.plain h) fun r => ?_
  obtain ⟨b, after⟩ := r
  refine Secures.assuming fun hp => ?_
  dsimp only
  split
  · refine Secures.bind (Q := fun _ => Keeping I view after.holdings)
      (Secures.modifyState fun client hk => ⟨hk.guards, hk.keys, hk.sound, hk.open_⟩) fun _ => ?_
    exact Secures.pure fun _ hk => ⟨hp, hk⟩
  · exact Secures.pure fun _ hk => ⟨hp, hk⟩

theorem maps {cursor : ResultCursor α} (hc : cursor.Sound) :
    Secures (Keeping I id cursor.holdings) (Client.maps d cursor) (fun _ => Keeping I id [])
      (Keeping I id []) := by
  refine Secures.bind (Custody.advance fun L => hI.rowMaps hc L) fun r => ?_
  obtain ⟨rows, after⟩ := r
  refine Secures.assuming fun hc => ?_
  refine Secures.bind (Keeping.settle fun L => Secures.lift (hI.drop hc L)) fun _ => ?_
  exact Keeping.accepted rows

theorem fetch {cursor : ResultCursor α} (hc : cursor.Sound) (wanted : Fetch) :
    Secures (Keeping I id cursor.holdings) (Client.fetch d cursor wanted)
      (fun _ => Keeping I id []) (Keeping I id []) := by
  cases wanted with
  | keep n => exact Secures.bind (hI.keepCursor hc) fun _ => Keeps.pure
  | maps => exact Secures.bind (hI.maps hc) fun rows => Keeps.pure

theorem readKept {n : Nat} {row : CurrentRow} {cursor : ResultCursor α}
    (hm : ResultCursor.Moved (.ok (some row), cursor)) (reading : CellReading Error β) :
    Keeps (fun client => client.cursors.get? n = some cursor ∧ Keeping I id [] client)
      (Client.plain (d.readRow row.cursor reading).run) := by
  rintro client ⟨hn, hk⟩
  have hp := Registry.holdings_of_get? hn
  have hs := (hI.readCurrent hm reading _).run _ (hI.perm hp hk.open_)
  exact ⟨hn, hk.guards, hk.keys, hk.sound, hI.perm hp.symm hs⟩

theorem next (n : Nat) (reads : List (RowMapper α)) :
    Keeps (Keeping I id []) (Client.next d n reads) := by
  refine Secures.bind (hI.cursor n) fun cursor => ?_
  refine Secures.assuming fun hc => ?_
  refine Secures.bind (Custody.advance fun L => hI.nextRow hc L) fun r => ?_
  obtain ⟨row, after⟩ := r
  refine Secures.assuming fun hm => ?_
  refine Secures.bind (Q := fun _ client => client.cursors.get? n = some after ∧
    Keeping I id [] client) ?_ fun _ => ?_
  · intro client hk
    exact ⟨Registry.get?_put n after client.cursors,
      hI.putCursor (M := []) (E := fun _ => True) hm.sound client hk⟩
  refine Secures.bind (Secures.weaken (Keeping.accept row) (fun _ _ hs => hs) fun _ hs => hs.2)
    fun current => ?_
  refine Secures.assuming fun hrow => ?_
  obtain rfl : row = .ok current := hrow
  cases current with
  | none => exact Secures.pure fun _ hs => hs.2
  | some row =>
      refine Secures.bind (Secures.weaken (Keeps.mapM (fun mapper => hI.readKept hm _) reads)
        (fun _ _ hs => hs) fun _ hs => hs.2) fun results => ?_
      exact Secures.pure fun _ hs => hs.2

theorem map (n : Nat) (mapper : RowMapper α) (limit : Option Nat) (keep : Bool) :
    Keeps (Keeping I id []) (Client.map d n mapper limit keep) := by
  refine Secures.bind (hI.takeCursor n) fun cursor => ?_
  refine Secures.assuming fun hc => ?_
  cases keep with
  | false =>
      refine Secures.strengthen (P := Keeping I id cursor.holdings) ?_ fun _ hs => hs.1
      refine Secures.bind (Custody.advance fun L => hI.mapRows mapper limit hc L) fun r => ?_
      obtain ⟨items, after⟩ := r
      refine Secures.assuming fun hc => ?_
      exact Secures.bind (Keeping.settle fun L => Secures.lift (hI.drop hc L)) fun _ => Keeps.pure
  | true =>
      refine Secures.strengthen (P := Keeping I (Registry.remove n) cursor.holdings) ?_
        fun _ hs => hs.2
      refine Secures.bind (Custody.advance fun L => hI.mapRows mapper limit hc L) fun r => ?_
      obtain ⟨items, after⟩ := r
      refine Secures.assuming fun hc => ?_
      exact Secures.bind (hI.putCursor (M := []) hc) fun _ => Keeps.pure

theorem dropAll {cursors : List (ResultCursor α)} (hc : ∀ cursor ∈ cursors, cursor.Sound)
    (L : List Holding) :
    Triple (I (cursors.flatMap ResultCursor.holdings ++ L)) (cursors.forM d.drop) fun _ => I L := by
  induction cursors with
  | nil => exact Triple.pure fun _ hs => hs
  | cons cursor cursors ih =>
      rw [List.flatMap_cons, List.append_assoc]
      refine Triple.bind (hI.drop (hc cursor List.mem_cons_self) _) fun _ => ?_
      exact ih fun c hmem => hc c (List.mem_cons_of_mem _ hmem)

end Custody

/-! ## Steps -/

namespace Stewardship

open Client

variable {I : ι → List Holding → Session σ → Prop} (hI : Stewardship d I) (x : ι)
include hI

theorem selectStep (sql : String) (params : Params) (setup : Setup) (use : SelectUse α) :
    Keeps (Keeping (I x) id []) (Client.select d sql params setup use) := by
  refine Secures.bind (Secures.getState fun _ hk => hk) fun client => ?_
  refine Secures.bind (Keeping.accepted _) fun query => ?_
  extract_lets query run
  have hrun (u : PUnit) : Keeps (Keeping (I x) id []) (run u) := by
    cases use with
    | text => exact Keeps.pure
    | fetch wanted =>
        refine Secures.bind (Keeping.act fun L => hI.select query x L) fun cursor => ?_
        refine Secures.assuming fun hc => ?_
        exact Secures.bind ((hI.custody x).fetch hc wanted) fun _ => Keeps.pure
    | single mapper =>
        exact Secures.bind (Keeping.settle fun L => hI.single query mapper x L) fun _ => Keeps.pure
  split
  · exact Secures.bind (Keeping.print _) hrun
  · exact hrun ⟨⟩

theorem updateStep (sql : String) (values : UpdateValues) (setup : Setup) (use : UpdateUse α) :
    Keeps (Keeping (I x) id []) (Client.update d sql values setup use) := by
  refine Secures.bind (Secures.getState fun _ hk => hk) fun client => ?_
  refine Secures.bind (Keeping.accepted _) fun update => ?_
  extract_lets update run
  have hrun (u : PUnit) : Keeps (Keeping (I x) id []) (run u) := by
    cases use with
    | text => exact Keeps.pure
    | execute =>
        exact Secures.bind (Keeping.settle fun L => hI.update update x L) fun _ => Keeps.pure
    | keys keys mapper =>
        exact Secures.bind (Keeping.settle fun L => hI.updateWithKeys update keys mapper _ x L)
          fun _ => Keeps.pure
  split
  · exact Secures.bind (Keeping.print _) hrun
  · exact hrun ⟨⟩

theorem callStep (sql : String) (params : List Parameter) (setup : Setup)
    (handler : Option (OutMapper α)) (use : CallUse α) :
    Keeps (Keeping (I x) id []) (Client.call d sql params setup handler use) := by
  refine Secures.bind (Secures.getState fun _ hk => hk) fun client => ?_
  refine Secures.bind (Keeping.accepted _) fun built => ?_
  extract_lets shown call run
  have hrun (u : PUnit) : Keeps (Keeping (I x) id []) (run u) := by
    cases use with
    | text => exact Keeps.pure
    | fetch wanted =>
        refine Secures.bind (Keeping.act fun L => hI.call call x L) fun cursor => ?_
        refine Secures.assuming fun hc => ?_
        exact Secures.bind ((hI.custody x).fetch hc wanted) fun _ => Keeps.pure
    | invoke =>
        exact Secures.bind (Keeping.settle fun L => hI.invoke call _ x L) fun _ => Keeps.pure
    | invokeWith mapper =>
        exact Secures.bind (Keeping.settle fun L => hI.invoke call mapper x L) fun _ => Keeps.pure
  split
  · exact Secures.bind (Keeping.print _) hrun
  · exact hrun ⟨⟩

theorem executeStep (sql : String) (params : Params) (wanted : Fetch) :
    Keeps (Keeping (I x) id []) (Client.execute d sql params wanted : Doing σ α (Reply α)) := by
  refine Secures.bind (Secures.getState fun _ hk => hk) fun client => ?_
  refine Secures.bind (Keeping.act fun L => hI.execute _ sql params x L) fun outcome => ?_
  refine Secures.assuming fun hc => ?_
  cases outcome with
  | rowCount count => exact Keeps.pure
  | rows cursor => exact Secures.bind ((hI.custody x).fetch hc wanted) fun _ => Keeps.pure

theorem operate (operation : Operation α) :
    Keeps (Keeping (I x) id []) (Client.operate d operation) := by
  cases operation with
  | select sql params setup use => exact hI.selectStep x sql params setup use
  | update sql values setup use => exact hI.updateStep x sql values setup use
  | call sql params setup handler use => exact hI.callStep x sql params setup handler use
  | execute sql params wanted => exact hI.executeStep x sql params wanted
  | next n reads => exact (hI.custody x).next n reads
  | isClosed n =>
      refine Secures.bind (Q := fun _ => Keeping (I x) id []) ?_ fun cursor => Keeps.pure
      exact Custody.lookUp n
  | close n =>
      refine Secures.bind ((hI.custody x).takeCursor n) fun cursor => ?_
      refine Secures.assuming fun hc => ?_
      refine Secures.strengthen (P := Keeping (I x) id cursor.holdings) ?_ fun _ hs => hs.1
      exact Secures.bind (Keeping.settle fun L => (hI.custody x).close hc L) fun _ => Keeps.pure
  | drop n =>
      refine Secures.bind ((hI.custody x).takeCursor n) fun cursor => ?_
      refine Secures.assuming fun hc => ?_
      refine Secures.strengthen (P := Keeping (I x) id cursor.holdings) ?_ fun _ hs => hs.1
      exact Secures.bind (Keeping.settle fun L => Secures.lift ((hI.custody x).drop hc L)) fun _ =>
        Keeps.pure
  | maps n =>
      refine Secures.bind ((hI.custody x).takeCursor n) fun cursor => ?_
      refine Secures.assuming fun hc => ?_
      refine Secures.strengthen (P := Keeping (I x) id cursor.holdings) ?_ fun _ hs => hs.1
      exact Secures.bind ((hI.custody x).maps hc) fun rows => Keeps.pure
  | map n mapper limit keep => exact (hI.custody x).map n mapper limit keep

theorem updates (us : List PlainUpdate) (fail : Option String) (L : List Holding) :
    Keeps (I x L) (Client.updates d us fail) := by
  refine Secures.bind (Keeps.mapM (fun u => hI.executeUpdate _ _ _ x L) us) fun counts => ?_
  cases fail with
  | none => exact Keeps.pure
  | some text => exact Keeps.throw

theorem takeStep {step : Step σ α} (hs : step.isLibrary = true) :
    Keeps (Keeping (I x) id []) (Client.takeStep d step) := by
  cases step with
  | operation operation => exact hI.operate x operation
  | update u =>
      exact Secures.bind (Keeping.settle fun L => hI.executeUpdate _ _ _ x L) fun _ => Keeps.pure
  | updateKeys u keys mapper =>
      exact Secures.bind (Keeping.settle fun L => hI.executeUpdateWithKeys _ _ _ keys mapper _ x L)
        fun _ => Keeps.pure
  | transaction isolation us fail =>
      refine Secures.bind (Keeping.settle fun L => ?_) fun _ => Keeps.pure
      exact hI.transaction isolation (fun x L => hI.updates x us fail L) x L
  | config => exact Secures.bind (Secures.getState fun _ hs => hs) fun _ => Keeps.pure
  | guard | connection | change => cases hs

/-- Whatever steps a client takes, what is open after them is what its cursors own. -/
theorem after {steps : List (Step σ α)} (hs : ∀ step ∈ steps, step.isLibrary = true)
    {client : Client σ α} (hk : Keeping (I x) id [] client) :
    Keeping (I x) id [] (client.after d steps) := by
  induction steps generalizing client with
  | nil => exact hk
  | cons step steps ih =>
      have htake := (hI.takeStep x (hs step List.mem_cons_self)).run client hk
      exact ih (fun s hmem => hs s (List.mem_cons_of_mem _ hmem)) htake

/-- A client that gives up what it keeps leaves nothing open. -/
theorem finish {client : Client σ α} (hk : Keeping (I x) id [] client) :
    I x [] (client.finish d).session := by
  let ordered := (client.cursors.mergeSort fun a b => a.1 ≤ b.1).map (·.2)
  have hp : ordered.Perm (client.cursors.map (·.2)) := (List.mergeSort_perm _ _).map _
  have hsound : ∀ cursor ∈ ordered, cursor.Sound := by
    intro cursor hmem
    obtain ⟨e, he, rfl⟩ := List.mem_map.mp (hp.mem_iff.mp hmem)
    exact hk.sound e he
  have hopen : I x (ordered.flatMap ResultCursor.holdings ++ []) client.session := by
    refine (hI.custody x).perm ?_ hk.open_
    rw [List.append_nil, List.nil_append]
    refine List.Perm.trans (List.Perm.of_eq ?_) (hp.symm.flatMap_right _)
    rw [List.flatMap_map]
    rfl
  have hdrop := (hI.custody x).dropAll hsound [] client.session hopen
  simp only [Client.finish, hk.guards, List.mergeSort_nil]
  exact hdrop

end Stewardship

end SqlGateway
