import Messenger.Proofs.Steps

/-!
# Requests on behalf of business connections

A request may run on behalf of business connections, one inside the other. Whoever sends it hears
what the request inside would have brought.

1. **Chains** (`Wire.Request.behalf`, `Wire.Request.connections`): a request is one call on behalf of
   one chain of connections, and acting on behalf of further ones only lengthens the chain.
2. **Answers** (`Client.map_receive`): what an answer means depends on the innermost call alone.

Main statement: `connections_are_transparent`.
-/

namespace Messenger

/-! ## Chains -/

namespace Wire.Request

/-- The request on behalf of connections, of which the first one is the outermost. -/
def behalf (request : Request) (connections : List String) : Request :=
  connections.foldr .onBehalf request

/-- The connections on whose behalf a request runs, the outermost first. -/
def connections : Request → List String
  | .call _ => []
  | .onBehalf id query => id :: query.connections

@[simp]
theorem behalf_cons (request : Request) (id : String) (ids : List String) :
    request.behalf (id :: ids) = .onBehalf id (request.behalf ids) := rfl

/-- Acting on somebody's behalf does not change what will run in the end. -/
theorem innermost_behalf (request : Request) (ids : List String) :
    (request.behalf ids).innermost = request.innermost := by
  induction ids with
  | nil => rfl
  | cons id ids ih =>
    rw [behalf_cons]
    exact ih

theorem connections_behalf (request : Request) (ids : List String) :
    (request.behalf ids).connections = ids ++ request.connections := by
  induction ids with
  | nil => rfl
  | cons id ids ih => rw [behalf_cons, connections, ih, List.cons_append]

/-- A request is made of its innermost call and its connections. -/
theorem behalf_connections (request : Request) :
    (call request.innermost).behalf request.connections = request := by
  induction request with
  | call c => rfl
  | onBehalf id query ih => rw [connections, behalf_cons, ih]

/-- A request returns what the call returns that runs in the end. -/
theorem returns_eq_innermost (request : Request) : request.returns = request.innermost.returns := by
  induction request with
  | call c => rfl
  | onBehalf id query ih => exact ih

/-- What runs in the end has a name of its own, not that of acting on somebody's behalf. -/
theorem name_innermost_ne (request : Request) (id : String) (query : Request) :
    request.innermost.name ≠ (onBehalf id query).name := by
  cases request.innermost <;> simp [Call.name, name]

end Wire.Request

/-! ## Answers -/

namespace Client

/-- What an answer means for a call: a response of another kind than the call returns is refused, and
an error of the server that does not say what caused it is put down to the call. -/
def meaning (call : Wire.Call) : Answer → Except CallError Wire.Response
  | .ok response =>
    if response.kind = call.returns then .ok response
    else .error (.deserialize ⟨call.returns, response.kind⟩)
  | .error (.rpc error) =>
    .error (.rpc { error with causedBy := some (error.causedBy.getD call.name) })
  | .error error => .error error

/-- What an answer means for a request is what it means for its innermost call. -/
theorem map_receive (request : Wire.Request) (answer : Answer) :
    (receive request answer).map (Wire.Response.mk _) = meaning request.innermost answer := by
  rcases answer with error | ⟨kind, value⟩
  · cases error with
    | rpc error =>
      rcases error with ⟨code, name, number, _ | cause⟩ <;> rfl
    | dropped => rfl
    | io error => rfl
    | deserialize mistake => rfl
  · by_cases hkind : kind = request.returns
    · subst hkind
      have hreceive : receive request (.ok ⟨request.returns, value⟩) = .ok value :=
        receive_eq_ok_iff.2 rfl
      rw [hreceive, meaning, if_pos request.returns_eq_innermost]
      rfl
    · rw [meaning, ← request.returns_eq_innermost, if_neg hkind]
      simp [receive, Wire.Response.as, hkind, Except.map]

/-- An answer means the same on behalf of any connections. -/
theorem receive_behalf (request : Wire.Request) (ids : List String) (answer : Answer) :
    (receive (request.behalf ids) answer).map (Wire.Response.mk _) =
      (receive request answer).map (Wire.Response.mk _) := by
  rw [map_receive, map_receive, request.innermost_behalf]

end Client

/-! ## Main statement -/

/-- Whatever is answered, a request on behalf of a chain of connections brings what the request
itself would have brought, of the same kind and with the same failures, and uses up the same answer;
it is sent on behalf of just these connections, in their order, before those that it had. What runs
in the end is one call, never something on somebody's behalf, and the request returns what that call
returns; one more connection does not change it; and together with the connections it makes up the
request. -/
theorem connections_are_transparent (request : Wire.Request) (ids : List String)
    (services : Services) (world : World) :
    (let plain := Client.invoke request services world
      let wrapped := Client.invoke (request.behalf ids) services world
      wrapped.1.map (Wire.Response.mk _) = plain.1.map (Wire.Response.mk _) ∧
        wrapped.2.answers = plain.2.answers ∧
        plain.2.sent = world.sent ++ [request] ∧
        ∃ sent, wrapped.2.sent = world.sent ++ [sent] ∧
          sent.connections = ids ++ request.connections ∧
          sent.innermost = request.innermost) ∧
      (∀ id query, Wire.Request.call request.innermost ≠ .onBehalf id query ∧
        request.innermost.name ≠ (Wire.Request.onBehalf id query).name) ∧
      request.returns = request.innermost.returns ∧
      (∀ id, (Wire.Request.onBehalf id request).innermost = request.innermost) ∧
      (Wire.Request.call request.innermost).behalf request.connections = request := by
  refine ⟨?_, ?_, request.returns_eq_innermost, fun id => rfl, request.behalf_connections⟩
  · intro plain wrapped
    obtain ⟨hplain, hsent, hanswers⟩ := Client.invoke_spec request services world
    obtain ⟨hwrapped, hsent', hanswers'⟩ := Client.invoke_spec (request.behalf ids) services world
    have hresult : wrapped.1.map (Wire.Response.mk _) = plain.1.map (Wire.Response.mk _) := by
      rw [hplain, hwrapped]
      exact Client.receive_behalf request ids _
    exact ⟨hresult, hanswers'.trans hanswers.symm, hsent, request.behalf ids, hsent',
      request.connections_behalf ids, request.innermost_behalf ids⟩
  · intro id query
    exact ⟨fun heq => Wire.Request.noConfusion heq, request.name_innermost_ne id query⟩

end Messenger
