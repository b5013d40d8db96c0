import SessionGate.Host.Basic

/-!
# The log of a host

Messages that reach a host one after another, and what can be seen of each of them from outside.

- `Delivery`: a message, and the surroundings in which the host takes it. They may change from one
  message to the next.
- `Exchange`: what can be seen of a message: what the host gave out, and the controller after it.
- `Host.after`, `Host.log`: the host after deliveries, and the exchange for each of them.
- `Host.run_eq_log`: a run is the log of its messages in surroundings that stay as they are.
-/

namespace SessionGate

/-- A message, and what the host finds outside itself when it takes it. -/
structure Delivery where
  message : Message
  surroundings : Surroundings

namespace Delivery

/-- A message in surroundings without a working directory. -/
def bare (method : String) (id params : Option Json) : Delivery :=
  ⟨⟨method, id, params⟩, .lost "No such file or directory"⟩

/-- A handshake for a root by a client with these capabilities. -/
def handshake (id : Option Json) (root : String) (capabilities : Json := .empty) : Delivery :=
  bare "initialize" id (some (.object
    [("capabilities", capabilities), ("processId", .null), ("rootUri", .string root)]))

end Delivery

/-- What can be seen of a message. The emission is absent if the host had been ended. -/
structure Exchange where
  delivery : Delivery
  emission : Option Emission
  controller : Controller

namespace Exchange

/-- The result that the message was answered with. -/
def result? (x : Exchange) : Option Json :=
  x.emission.bind fun e => e.response.bind fun r => r.content.toOption

/-- The work that was started. -/
def triggers (x : Exchange) : List Trigger :=
  x.emission.elim [] Emission.triggers

/-- The registrations that the client was asked for, request by request. -/
def registrations (x : Exchange) : List (List Registration) :=
  x.emission.elim [] Emission.registrations

/-- No work was started, and the client was asked for nothing. -/
def IsQuiet (x : Exchange) : Prop :=
  x.triggers = [] ∧ x.registrations = []

/-- A handshake that was answered with a result. -/
def IsOpening (x : Exchange) : Prop :=
  x.delivery.message.method = "initialize" ∧ x.result?.isSome

/-- A shutdown that was answered with null. -/
def IsShutdown (x : Exchange) : Prop :=
  x.delivery.message.method = "shutdown" ∧ x.result? = some .null

instance (x : Exchange) : Decidable x.IsOpening :=
  inferInstanceAs (Decidable (_ ∧ _))

theorem not_isOpening {x : Exchange} (h : x.result? = none) : ¬x.IsOpening := by
  rintro ⟨-, hresult⟩
  rw [h] at hresult
  cases hresult

theorem not_isShutdown {x : Exchange} (h : x.result? = none) : ¬x.IsShutdown := by
  rintro ⟨-, hresult⟩
  cases h.symm.trans hresult

end Exchange

namespace Host

/-- A host takes a message. It keeps the parameters of a handshake as they were sent. -/
def receive (h : Host) (d : Delivery) : Host × Option Emission :=
  h.step ⟨d.surroundings, true⟩ d.message

/-- What can be seen of a message that a host takes. -/
def exchange (h : Host) (d : Delivery) : Exchange :=
  ⟨d, (h.receive d).2, (h.receive d).1.controller⟩

/-- The host after deliveries. -/
def after (h : Host) (ds : List Delivery) : Host :=
  ds.foldl (fun h d => (h.receive d).1) h

/-- What can be seen of each delivery. -/
def log (h : Host) : List Delivery → List Exchange
  | [] => []
  | d :: ds => h.exchange d :: log (h.receive d).1 ds

@[simp] theorem after_nil (h : Host) : h.after [] = h := rfl

@[simp] theorem after_cons (h : Host) (d : Delivery) (ds : List Delivery) :
    h.after (d :: ds) = (h.receive d).1.after ds := rfl

theorem after_append (h : Host) (ds es : List Delivery) :
    h.after (ds ++ es) = (h.after ds).after es :=
  List.foldl_append ..

@[simp] theorem log_nil (h : Host) : h.log [] = [] := rfl

@[simp] theorem log_cons (h : Host) (d : Delivery) (ds : List Delivery) :
    h.log (d :: ds) = h.exchange d :: (h.receive d).1.log ds := rfl

theorem log_append (h : Host) (ds es : List Delivery) :
    h.log (ds ++ es) = h.log ds ++ (h.after ds).log es := by
  induction ds generalizing h with
  | nil => rfl
  | cons d ds ih => rw [List.cons_append, log_cons, log_cons, ih, after_cons, List.cons_append]

/-- A run is the log of its messages in surroundings that stay as they are, and ends in the host
after them. -/
theorem run_eq_log (s : Surroundings) (h : Host) (ms : List Message) :
    (h.run ⟨s, true⟩ ms).1.map (fun x => (x.1, x.2.controller))
        = (h.log (ms.map (⟨·, s⟩))).map (fun x => (x.emission, x.controller)) ∧
      (h.run ⟨s, true⟩ ms).2 = h.after (ms.map (⟨·, s⟩)) := by
  induction ms generalizing h with
  | nil => exact ⟨rfl, rfl⟩
  | cons m ms ih =>
    obtain ⟨hsteps, hlast⟩ := ih (h.receive ⟨m, s⟩).1
    exact ⟨congrArg (((h.receive ⟨m, s⟩).2, (h.receive ⟨m, s⟩).1.controller) :: ·) hsteps, hlast⟩

end Host

end SessionGate
