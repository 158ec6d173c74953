import SqlGateway.Proofs.Conduct.Traced

/-!
# Refusals before calls

Whatever is wrong with what a caller asks for is reported while nothing has been asked of the
driver. Once something has passed, an operation reports a failed execution, or what one of the
caller's own programs came to.
-/

namespace SqlGateway

variable {σ α : Type}

/-- An error that is no failed execution and that no program of the caller came to is reported
before the driver is asked for anything, a connection included. In particular the rows of an update
that was built are of one width, so they are never refused for that once there is a connection. -/
theorem refusal_precedes_calls (d : Driver σ) :
    (∀ (client : Client (Traced σ) α) (operation : Operation α),
      ∃ u, (client.step d.traced (.operation operation)).2.session.trace =
          client.session.trace ++ u ∧
        ∀ e ∈ reported (client.step d.traced (.operation operation)).1,
          e.IsExecution ∨ Raised operation.mapper? (operation.handler? client.cursors) u e ∨
            u = []) ∧
    ∀ (g : Gateway) (sql : String) (values : UpdateValues) (u : Update),
      Client.buildUpdate g sql values = .ok u →
        (∃ width, ∀ row ∈ u.rows, row.length = width) ∧ checkArity u.rows = .ok () := by
  constructor
  · intro client operation
    cases hq : operation.request client.gateway with
    | error e =>
        rw [operate_unserved hq]
        exact ⟨[], (List.append_nil _).symm, fun _ _ => .inr (.inr rfl)⟩
    | ok q =>
        obtain ⟨u, hu, -, herrors⟩ := operate_served (d := d) hq
        exact ⟨u, hu, fun e he => (herrors e he).imp_right .inl⟩
  · intro g sql values u h
    obtain ⟨width, hwidth⟩ := exists_width_of_buildUpdate h
    exact ⟨⟨width, hwidth⟩, checkArity_of_width hwidth⟩

end SqlGateway
