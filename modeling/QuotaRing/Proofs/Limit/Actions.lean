import QuotaRing.Limit.Service

/-!
# Actions in sequence

What an action followed by another does, once it is known what the first one
does; and from that, what charging in order and deciding on a request come to.
-/

namespace QuotaRing.Limit

variable
    {σ α β : Type}
    {action : Action σ α}
    {state next : σ}

theorem Action.bind_of_ok
    {value : α}
    (told : action state = (.ok value, next))
    (rest : α → Action σ β) :
    (action >>= rest) state = rest value next := by
  simp only [bind, ExceptT.bind, ExceptT.mk, StateT.bind, told,
    ExceptT.bindCont]

theorem Action.bind_of_error
    {error : Error}
    (told : action state = (.error error, next))
    (rest : α → Action σ β) :
    (action >>= rest) state = (.error error, next) := by
  simp only [bind, ExceptT.bind, ExceptT.mk, StateT.bind, told,
    ExceptT.bindCont]
  rfl

/-- Actions that only read are answered one by one from the same state. -/
theorem Action.mapM_of_reads
    (values : List α)
    {action : α → Action σ β}
    {read : α → Except Error β}
    (reads : ∀ value, action value state = (read value, state)) :
    (values.mapM action) state = (values.mapM read, state) := by
  induction values with
  | nil => rfl
  | cons first rest ih =>
      rw [List.mapM_cons, List.mapM_cons]
      cases told : read first with
      | error error =>
          rw [bind_of_error ((reads first).trans (by rw [told]))]
          rfl
      | ok value =>
          rw [bind_of_ok ((reads first).trans (by rw [told]))]
          cases others : rest.mapM read with
          | error error =>
              rw [bind_of_error (ih.trans (by rw [others]))]
              rfl
          | ok results =>
              rw [bind_of_ok (ih.trans (by rw [others]))]
              rfl

theorem chargeAll_cons
    (store : Datastore σ)
    (now : Int64)
    (method : Method)
    (charge : Charge)
    (rest : List Charge)
    (state : σ) :
    chargeAll store now method (charge :: rest) state =
      match hit store now method charge.subject charge.group charge.definition
        state with
      | (.error error, next) => (.error error, next)
      | (.ok verdict, next) =>
          if verdict.allowed then chargeAll store now method rest next
          else
            (.ok (.overLimit charge.definition.id
              (Instant.ofMillis verdict.nextAvailable)
              (verdict.retryAfter now)), next) := by
  rw [chargeAll]
  cases told : hit store now method charge.subject charge.group
      charge.definition state with
  | mk result next =>
      cases result with
      | error error => exact Action.bind_of_error told _
      | ok verdict =>
          rw [Action.bind_of_ok told]
          by_cases allowed : verdict.allowed = true
          · simp only [if_pos allowed]
          · simp only [if_neg allowed]
            rfl

/-- A request is decided on by its charges if its subject and method are fine. -/
theorem track_eq
    (store : Datastore σ)
    (rules : Rules)
    (now : Int64)
    (subject : String)
    (callers : List String)
    (uri method : String)
    (state : σ) :
    track store rules now subject callers uri method state =
      match checkSubject subject, Method.read method with
      | .error error, _ => (.error error, state)
      | .ok _, .error message => (.error (.argument message), state)
      | .ok _, .ok read =>
          chargeAll store now read (charges rules subject callers uri read)
            state := by
  rw [track]
  cases checked : checkSubject subject with
  | error error => rfl
  | ok _ =>
      cases Method.read method with
      | error message => rfl
      | ok read => rfl

end QuotaRing.Limit
