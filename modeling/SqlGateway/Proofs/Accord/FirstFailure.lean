import SqlGateway.Proofs.Accord.Failing

/-!
# The first failure is reported

On a watched driver whatever fails first is what the caller is told, no matter what fails after it.
Only where a statement is closed after its last row does a failure go unreported. What an action
does with the failures it meets is its own affair; the transaction around it reports what the action
does.
-/

namespace SqlGateway

variable {σ τ α γ ρ : Type} {d : Driver σ} {own : Error → Prop} {u : List Exchange} {x : Exchange}
  {e : Error} {i : StatementId}

/-! ## Phases -/

theorem Clean.call {c : Call} (hc : c.isOption = false) :
    Concur (Alongside Clean) (d.traced.perform c) (d.traced.perform c) (fun _ => Alongside Clean)
      fun e => Alongside (Reports own e) :=
  Alongside.perform (fun _ _ hu => hu.append id) fun _ f hu => hu.reports_failed hc f

theorem Reports.late (c : Call) (e : Error) :
    Abreast (Alongside (Reports own e)) (d.traced.perform c).run (d.traced.perform c).run
      fun _ _ => Alongside (Reports own e) :=
  Alongside.late fun _ _ hu => hu.append _

theorem Clean.option {c : Call} (hc : c.isOption = true) :
    Abreast (Alongside Clean) (d.traced.perform c).run (d.traced.perform c).run
      (Tolerable (Alongside Clean) fun e => Alongside (Reports own e)) := by
  have answered : Abreast (Alongside Clean) (d.traced.perform c).run (d.traced.perform c).run
      (Same fun r => Alongside fun u => (Passes r ∧ Clean u) ∨
        ∃ f, r = .error f ∧ f.isUnsupported = false ∧ Reports own (.ofFailure f) u) :=
    Alongside.outcome fun u r hu => by
      cases r with
      | ok a => exact .inl ⟨nofun, hu.append id⟩
      | error f =>
          cases hf : f.isUnsupported with
          | true =>
              refine .inl ⟨fun f' hf' => Except.error.inj hf' ▸ hf, hu.append fun hfails => ?_⟩
              exact absurd (hfails hc) (by simp [hf])
          | false => exact .inr ⟨f, rfl, hf, hu.reports (.failed fun _ => hf)⟩
  refine Abreast.weaken answered fun r r' s s' ⟨hr, hs⟩ => ?_
  subst hr
  obtain ⟨hpasses, hclean⟩ | ⟨f, hf, hcounts, hreports⟩ := hs.passed
  · exact .inl ⟨hpasses, hpasses, { hs with passed := hclean }⟩
  · exact .inr ⟨f, f, hf, hf, hcounts, hcounts, rfl, { hs with passed := hreports }⟩

section

variable {A : ρ → Type} {answer : (r : ρ) → Act (Traced σ) Failure (A r)}
  {heard : (r : ρ) → Except Failure (A r) → Exchange} {refuses : (r : ρ) → A r → Failure → Prop}
  {p : List Exchange → Prop} {reading : Reading ρ A (Except Error α)}

theorem Reading.Always.reports (hanswer : Answers answer heard)
    (h : reading.Always (· = .error e)) :
    Abreast (Alongside (Reports own e)) (reading.run answer) (reading.run answer)
      (Same fun r s s' => r = .error e ∧ Alongside (Reports own e) s s') := by
  induction reading with
  | done r => exact Abreast.same fun _ _ hs => ⟨h, hs⟩
  | ask r next ih =>
      exact Abreast.same_bind (hanswer r _ (fun _ => Reports own e) fun u a hu => hu.append _)
        fun a => ih a (h a)

theorem Reading.PassesOn.reports (hanswer : Answers answer heard)
    (hp : ∀ u r a, p u → p (u ++ [heard r (.ok a)])) (hclean : ∀ u, p u → Clean u)
    (hfails : ∀ r f, (heard r (.error f)).Tells (.ofFailure f))
    (hrefuses : ∀ r a f, refuses r a f → (heard r (.ok a)).Tells (.ofFailure f))
    (h : reading.PassesOn refuses own) :
    Abreast (Alongside p) (reading.run answer) (reading.run answer)
      (Same (Ends (fun _ => Alongside p) fun e => Alongside (Reports own e))) := by
  have passed {e : Error} {reading : Reading ρ A (Except Error α)}
      (h : reading.Always (· = .error e)) : Abreast (Alongside (Reports own e))
        (reading.run answer) (reading.run answer)
        (Same (Ends (fun _ => Alongside p) fun e => Alongside (Reports own e))) := by
    refine Abreast.weaken (h.reports hanswer) fun r r' s s' ⟨hr, he, hs⟩ => ⟨hr, ?_⟩
    subst he
    exact hs
  induction reading with
  | done r =>
      refine Abreast.same fun s s' hs => ?_
      cases r with
      | ok a => exact hs
      | error e => exact hs.mono fun u _ _ => .inl h
  | ask r next ih =>
      rw [Reading.run_ask]
      refine Abreast.same_bind (hanswer r p (fun a u => match a with
        | .ok a => p u ∧ ∀ f, refuses r a f → Reports own (.ofFailure f) u
        | .error f => Reports own (.ofFailure f) u) fun u a hu => ?_) fun a => ?_
      · cases a with
        | ok a => exact ⟨hp u r a hu, fun f hf => (hclean u hu).reports (hrefuses r a f hf)⟩
        | error f => exact (hclean u hu).reports (hfails r f)
      · cases a with
        | error f => exact passed (h.1 f)
        | ok a =>
            obtain h | ⟨f, hf, h⟩ := h.2 a
            · exact Abreast.strengthen (ih _ h) fun s s' hs => hs.mono fun u hu => hu.1
            · exact Abreast.strengthen (passed h) fun s s' hs => hs.mono fun u hu => hu.2 f hf

end

end SqlGateway
