import SessionGate.Session.Controller

/-!
# What a session registers for

What a client declares is a value of any kind and any depth. The server registers for an event where
the client says so in the one place that counts, and finds that place by following keys through
objects; a value of another kind on the way is the end of the path.

- `Json.Holds`, `Json.Leads`: an object holds a key, and a path of keys leads from one value to
  another.
- `Json.lookup_eq_some_iff`, `Json.lookup_append`: what is found at the end of a path, and of a path
  that is continued.
- `Record.Declares`: the client lets the server register for an event.
- `Registration.registers_what_is_declared`: every session.
-/

namespace SessionGate

/-! ## Paths of keys -/

namespace Json

/-- A value is an object that holds a key with a value. -/
def Holds (v : Json) (key : String) (w : Json) : Prop :=
  ∃ members, v = .object members ∧ Members.get? key members = some w

/-- A path of keys leads from one value to another: each step goes through an object that holds the
key. -/
inductive Leads : Json → List String → Json → Prop where
  | here (v : Json) : Leads v [] v
  | step {v w u : Json} {key : String} {path : List String} (holds : v.Holds key w)
      (rest : Leads w path u) : Leads v (key :: path) u

variable {v w u : Json} {key : String} {path : List String}

theorem get?_eq_some_iff : v.get? key = some w ↔ v.Holds key w := by
  constructor
  · intro h
    cases v with
    | object members => exact ⟨members, rfl, h⟩
    | _ => cases h
  · rintro ⟨members, rfl, h⟩
    exact h

theorem leads_nil_iff : v.Leads [] u ↔ v = u := by
  constructor
  · rintro ⟨⟩
    rfl
  · rintro rfl
    exact .here v

theorem leads_cons_iff : v.Leads (key :: path) u ↔ ∃ w, v.Holds key w ∧ w.Leads path u := by
  constructor
  · rintro (_ | ⟨holds, rest⟩)
    exact ⟨_, holds, rest⟩
  · rintro ⟨w, holds, rest⟩
    exact .step holds rest

/-- A value is found at the end of a path exactly if the path leads to it. -/
theorem lookup_eq_some_iff : v.lookup path = some u ↔ v.Leads path u := by
  induction path generalizing v with
  | nil => rw [lookup_nil, Option.some.injEq, leads_nil_iff]
  | cons key path ih =>
    rw [lookup_cons, Option.bind_eq_some_iff, leads_cons_iff]
    exact exists_congr fun w => and_congr get?_eq_some_iff ih

/-- A path that is continued leads on from what the path leads to. -/
theorem lookup_append (v : Json) (p q : List String) :
    v.lookup (p ++ q) = (v.lookup p).bind fun w => w.lookup q := by
  induction p generalizing v with
  | nil => rw [List.nil_append, lookup_nil, Option.bind_some]
  | cons key p ih =>
    rw [List.cons_append, lookup_cons, lookup_cons, Option.bind_assoc]
    exact congrArg (v.get? key).bind (funext ih)

end Json

/-! ## What a client declares -/

/-- The client lets the server register for an event: its capabilities are an object, in it the
workspace is one, in that the event is one, and there registration is said to be dynamic. -/
def Record.Declares (r : Record) (event : String) : Prop :=
  ∃ workspace capability, r.clientCapabilities.Holds "workspace" workspace ∧
    workspace.Holds event capability ∧ capability.Holds "dynamicRegistration" (.bool true)

namespace Registration

variable {r : Record} {event : String}

theorem isSupported_iff : isSupported r event = true ↔ r.Declares event := by
  have hlookup : isSupported r event = true ↔
      r.clientCapabilities.Leads ["workspace", event, "dynamicRegistration"] (.bool true) := by
    rw [← Json.lookup_eq_some_iff]
    exact decide_eq_true_iff
  rw [hlookup]
  constructor
  · intro h
    obtain ⟨workspace, hworkspace, h⟩ := Json.leads_cons_iff.mp h
    obtain ⟨capability, hcapability, h⟩ := Json.leads_cons_iff.mp h
    obtain ⟨said, hsaid, h⟩ := Json.leads_cons_iff.mp h
    rw [Json.leads_nil_iff.mp h] at hsaid
    exact ⟨workspace, capability, hworkspace, hcapability, hsaid⟩
  · rintro ⟨workspace, capability, hworkspace, hcapability, hsaid⟩
    exact .step hworkspace (.step hcapability (.step hsaid (.here _)))

/-- The events that a session registers for: those that the client lets it register for. -/
def declared (r : Record) : List String :=
  events.filter (isSupported r)

theorem mem_declared_iff : event ∈ declared r ↔ event ∈ events ∧ r.Declares event := by
  rw [declared, List.mem_filter, isSupported_iff]

theorem nodup_declared (r : Record) : (declared r).Nodup := by
  have hevents : events.Nodup := by decide
  exact hevents.filter _

/-! ## What is sent -/

theorem send_of_ne_nil (h : all r ≠ []) : send r = ([all r], (all r).length) := by
  have hsome : (all r).isEmpty = false := by simpa using h
  rw [send, hsome]
  rfl

theorem send_of_eq_nil (h : all r = []) : send r = ([], 0) := by
  rw [send, h]
  rfl

/-- The work of a session begins with what is sent. -/
theorem startUp_eq_send (r : Record) :
    Controller.startUp r = (send r).1.map Trigger.register ++
      [.startNode (NodeName.forRoot applicationName r.root), .index r] := by
  unfold Controller.startUp
  split
  · next hnil =>
    rw [send_of_eq_nil hnil]
    rfl
  · next hne =>
    rw [send_of_ne_nil hne]
    rfl

/-- **A session registers for what its client declares.** Whatever the capabilities and the root
are, the registrations are sent in one request and counted, or none is sent if there are none; and
there is one for each event in turn that the client lets the server register for, and no other. What
is found at the end of a path of keys is what the path leads to, object by object, and a path that
is continued leads on from there. -/
theorem registers_what_is_declared (r : Record) :
    ((all r ≠ [] → send r = ([all r], (all r).length)) ∧ (all r = [] → send r = ([], 0))) ∧
      Controller.startUp r = (send r).1.map Trigger.register ++
        [.startNode (NodeName.forRoot applicationName r.root), .index r] ∧
      (∃ declared : List String, declared.Sublist events ∧ declared.Nodup ∧
        (∀ event, event ∈ declared ↔ event ∈ events ∧ r.Declares event) ∧
        all r = declared.map fun event => ⟨"workspace/" ++ event, "workspace/" ++ event,
          .ofMembers
            [("watchers", .array [.ofMembers [("globPattern", .string (sourceGlob r))]])]⟩) ∧
      (∀ p q, r.clientCapability? (p ++ q) = (r.clientCapability? p).bind fun v => v.lookup q) ∧
      ∀ path v, r.clientCapability? path = some v ↔ r.clientCapabilities.Leads path v :=
  ⟨⟨send_of_ne_nil, send_of_eq_nil⟩, startUp_eq_send r,
    ⟨declared r, List.filter_sublist, nodup_declared r, fun _ => mem_declared_iff, rfl⟩,
    Json.lookup_append r.clientCapabilities, fun _ _ => Json.lookup_eq_some_iff⟩

end Registration

end SessionGate
