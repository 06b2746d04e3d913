import HttpContract.Proofs.Service.Compilation
import HttpContract.Proofs.Steps

/-!
# Names of methods

An interface holds its methods under names, and a compiled method answers to the name of its function.
The two differ where a function stands under a second name. `Client.createClient_names` says which names a
client answers to, and that it implements its interface exactly when no public method has two names.
-/

namespace HttpContract

/-- The name that a function gives itself. -/
def Callable.name? : Callable → Option String
  | .function f => some f.name
  | .nameless => none

/-! ## What a method is compiled from -/

theorem Method.function_of_compile {scope : Scope} {service : String} {type : Option Exchange}
    {registry : Registry} {limit : Value} {f : Function} {m : Method}
    (h : compile scope service type registry limit f = .ok m) : m.function = f := by
  unfold compile at h
  split at h
  · cases h
  · obtain ⟨formals, -, h⟩ := exists_of_bind_eq_ok h
    obtain ⟨result, -, h⟩ := exists_of_bind_eq_ok h
    simp only at h
    split at h
    · cases h
    · obtain ⟨template, -, h⟩ := exists_of_bind_eq_ok h
      obtain ⟨plan, -, h⟩ := exists_of_bind_eq_ok h
      cases h
      rfl

namespace Interfaces

variable {is : Interfaces} {scope : Scope} {registry : Registry} {limit : Value} {place : Nat}
  {c : Callable} {m : Method} {name : String}

theorem function_of_compileMethod {f : Function}
    (h : is.compileMethod scope registry limit place (.function f) = .ok m) : m.function = f :=
  Method.function_of_compile (exists_of_mapError_eq_ok h)

theorem name?_of_compileMethod (h : is.compileMethod scope registry limit place c = .ok m) :
    c.name? = some m.name := by
  cases c with
  | nameless => cases h
  | function f => simp only [Callable.name?, Method.name, function_of_compileMethod h]

/-- The records apart, methods are compiled as a list is gone through. -/
theorem compileEach_fst (compileOne : Callable → Except Failure Method) (cs : List Callable) :
    (compileEach compileOne cs).1 = cs.mapM compileOne := by
  induction cs with
  | nil => rfl
  | cons c cs ih =>
      simp only [compileEach, List.mapM_cons, ← ih]
      cases compileOne c with
      | error e => rfl
      | ok m => cases (compileEach compileOne cs).1 <;> rfl

/-- The records apart, compilation goes through the methods in order, once every member can be read. -/
theorem compile_fst (is : Interfaces) (scope : Scope) (registry : Registry) (limit : Value) (place : Nat) :
    (is.compile scope registry limit place).1 =
      match is.fault? place with
      | some e => .error (.raised e)
      | none =>
        ((is.exchangeMethods place).map Prod.snd).mapM (is.compileMethod scope registry limit place) := by
  unfold compile
  cases is.fault? place with
  | some e => rfl
  | none => exact compileEach_fst _ _

theorem compile_eq_ok_iff {ms : List Method} :
    (is.compile scope registry limit place).1 = .ok ms ↔ is.fault? place = none ∧
      ((is.exchangeMethods place).map Prod.snd).mapM (is.compileMethod scope registry limit place) =
        .ok ms := by
  rw [compile_fst]
  cases is.fault? place <;> simp

theorem forall₂_of_compile {ms : List Method}
    (h : (is.compile scope registry limit place).1 = .ok ms) :
    List.Forall₂ (fun e m => is.compileMethod scope registry limit place e.2 = .ok m)
      (is.exchangeMethods place) ms := by
  rw [compile_eq_ok_iff, mapM_eq_ok_iff] at h
  exact List.forall₂_map_left_iff.mp h.2

theorem isPublic_of_mem_exchangeMethods (h : (name, c) ∈ is.exchangeMethods place) :
    isPublic name = true := by
  obtain ⟨n, hn, he⟩ := List.mem_filterMap.mp h
  obtain ⟨c', -, he⟩ := Option.map_eq_some_iff.mp he
  cases he
  exact (mem_publicAmong.mp hn).2

end Interfaces

/-! ## Looking names up -/

namespace Dispatcher

variable {d : Dispatcher} {m : Method} {name : String}

theorem name_of_find (h : d.find name = .ok m) : m.name = name := by
  unfold find at h
  split at h
  · rename_i hm
    cases h
    simpa using List.find?_some hm
  · cases h

theorem find_of_notMem (h : name ∉ d.names) : d.find name = .error (.noMethod name) := by
  have hnone : d.methods.find? (fun m => m.name = name) = none := by
    rw [List.find?_eq_none]
    intro m hm hname
    exact h (List.mem_map.mpr ⟨m, hm, by simpa using hname⟩)
  rw [find, hnone]

/-- A dispatcher holds the methods of its interface, all compiled, under different names. -/
theorem compile_of_createDispatcher {factory : Factory} {is : Interfaces} {scope : Scope} {place : Nat}
    (h : (factory.createDispatcher is scope place).1 = .ok d) :
    (is.compile scope factory.registry factory.blockTimeout place).1 = .ok d.methods ∧ d.names.Nodup := by
  rw [Factory.createDispatcher_fst] at h
  obtain ⟨ms, hms, h⟩ := exists_of_bind_eq_ok h
  obtain ⟨hnodup, rfl⟩ := ofMethods_eq_ok_iff.mp h
  exact ⟨hms, hnodup⟩

end Dispatcher

namespace Client

variable {client : Client} {m : Method} {name : String} {σ π : Type}

theorem keptKind?_of_isPublic (h : Interfaces.isPublic name = true) : keptKind? name = none := by
  unfold keptKind?
  split
  all_goals first | rfl | exact absurd h (by decide)

theorem method_of_isPublic (h : Interfaces.isPublic name = true) :
    client.method name =
      (client.dispatcher.find name).mapError fun _ => .noClientMethod client.service name :=
  if_pos h

/-- What a client has besides its methods has names that are not public. -/
theorem lookUp_of_isPublic (h : Interfaces.isPublic name = true) :
    client.lookUp name =
      (client.method name).map fun m => { name, qualname := m.qualname, doc := m.function.doc } := by
  have hne : ∀ other, Interfaces.isPublic other = false → name ≠ other := by
    rintro other hother rfl
    rw [hother] at h
    cases h
  have hown : ownFunctions.contains name = false := by
    have hnotin : name ∉ ownFunctions := fun hmem => by
      have hall : ∀ other ∈ ownFunctions, Interfaces.isPublic other = false := by decide
      exact hne name (hall name hmem) rfl
    simpa using hnotin
  simp only [lookUp, keptKind?_of_isPublic h, if_neg (hne "_service_type" (by decide)),
    if_neg (hne "__class__" (by decide)), hown, Bool.false_eq_true, if_false]

theorem call_of_isPublic (h : Interfaces.isPublic name = true) (t : Transport σ π)
    (resolvers : List (Resolver σ)) (positional : List Value) (named : Assoc String Value)
    (context : Context σ) :
    client.call t resolvers name positional named context =
      match client.method name with
      | .error e => ({ result := .error e }, context)
      | .ok m =>
        match m.bindArguments positional named with
        | .error e => ({ result := .error e }, context)
        | .ok arguments => m.invoke t resolvers arguments context := by
  rw [call, keptKind?_of_isPublic h]
  cases client.method name <;> rfl

/-- An attribute of the name stands for the method, and a call of it binds its arguments and invokes the
method. -/
structure Runs (client : Client) (name : String) (m : Method) : Prop where
  behind : client.method name = .ok m
  shown : client.lookUp name = .ok { name, qualname := m.qualname, doc := m.function.doc }
  called {σ π : Type} (t : Transport σ π) (resolvers : List (Resolver σ)) (positional : List Value)
      (named : Assoc String Value) (context : Context σ) :
    client.call t resolvers name positional named context =
      match m.bindArguments positional named with
      | .error e => ({ result := .error e }, context)
      | .ok arguments => m.invoke t resolvers arguments context

/-- There is no attribute of the name, neither to look at nor to call. -/
structure Lacks (client : Client) (name : String) : Prop where
  unseen : client.lookUp name = .error (.noClientMethod client.service name)
  uncalled {σ π : Type} (t : Transport σ π) (resolvers : List (Resolver σ)) (positional : List Value)
      (named : Assoc String Value) (context : Context σ) :
    client.call t resolvers name positional named context =
      ({ result := .error (.noClientMethod client.service name) }, context)

theorem runs_of_find (h : Interfaces.isPublic name = true) (hm : client.dispatcher.find name = .ok m) :
    client.Runs name m := by
  have hbehind : client.method name = .ok m := by rw [method_of_isPublic h, hm]; rfl
  refine ⟨hbehind, ?_, ?_⟩
  · rw [lookUp_of_isPublic h, hbehind]
    rfl
  · intro σ π t resolvers positional named context
    rw [call_of_isPublic h, hbehind]

theorem lacks_of_notMem (h : Interfaces.isPublic name = true) (hname : name ∉ client.dispatcher.names) :
    client.Lacks name := by
  have hmethod : client.method name = .error (.noClientMethod client.service name) := by
    rw [method_of_isPublic h, Dispatcher.find_of_notMem hname]
    rfl
  refine ⟨?_, ?_⟩
  · rw [lookUp_of_isPublic h, hmethod]
    rfl
  · intro σ π t resolvers positional named context
    rw [call_of_isPublic h, hmethod]

theorem Runs.name_eq (h : client.Runs name m) (hname : Interfaces.isPublic name = true) :
    m.name = name := by
  have hbehind := h.behind
  rw [method_of_isPublic hname] at hbehind
  cases hm : client.dispatcher.find name with
  | error e =>
      rw [hm] at hbehind
      cases hbehind
  | ok m' =>
      rw [hm] at hbehind
      cases hbehind
      exact Dispatcher.name_of_find hm

/-! ## Clients of an interface -/

section Creation

variable {factory : Factory} {is : Interfaces} {scope : Scope} {place : Nat}

/-- The client answers to the names of the public methods of its interface and to no other public name,
each with the method that is compiled from what the interface holds under it. -/
structure Implements (client : Client) (factory : Factory) (is : Interfaces) (scope : Scope)
    (place : Nat) : Prop where
  names : ∀ name, name ∈ client.dispatcher.names ↔ name ∈ (is.exchangeMethods place).map Prod.fst
  runs : ∀ name c, (name, c) ∈ is.exchangeMethods place →
    ∃ m, is.compileMethod scope factory.registry factory.blockTimeout place c = .ok m ∧
      client.Runs name m
  lacks : ∀ name, Interfaces.isPublic name = true →
    name ∉ (is.exchangeMethods place).map Prod.fst → client.Lacks name

/-- The client answers to the public ones among the names of the functions that its interface holds, each
with the method that is compiled from the function of the name. -/
structure FollowsFunctions (client : Client) (factory : Factory) (is : Interfaces) (scope : Scope)
    (place : Nat) : Prop where
  names : ∀ name, name ∈ client.dispatcher.names ↔
    ∃ e ∈ is.exchangeMethods place, e.2.name? = some name
  runs : ∀ e ∈ is.exchangeMethods place,
    ∃ m, is.compileMethod scope factory.registry factory.blockTimeout place e.2 = .ok m ∧
      (Interfaces.isPublic m.name = true → client.Runs m.name m)
  lacks : ∀ name, Interfaces.isPublic name = true →
    (∀ e ∈ is.exchangeMethods place, e.2.name? ≠ some name) → client.Lacks name

theorem compile_of_createClient (h : (factory.createClient is scope place).1 = .ok client) :
    (is.compile scope factory.registry factory.blockTimeout place).1 = .ok client.dispatcher.methods ∧
      client.dispatcher.names.Nodup := by
  rw [Factory.createClient_fst] at h
  cases hd : (factory.createDispatcher is scope place).1 with
  | error e =>
      rw [hd] at h
      cases h
  | ok d =>
      rw [hd] at h
      cases h
      exact Dispatcher.compile_of_createDispatcher hd

theorem followsFunctions_of_createClient (h : (factory.createClient is scope place).1 = .ok client) :
    client.FollowsFunctions factory is scope place := by
  obtain ⟨hms, hnodup⟩ := compile_of_createClient h
  have hcompiled := Interfaces.forall₂_of_compile hms
  have hnames : ∀ name, name ∈ client.dispatcher.names ↔
      ∃ e ∈ is.exchangeMethods place, e.2.name? = some name := by
    intro name
    constructor
    · intro hname
      obtain ⟨m, hm, rfl⟩ := List.mem_map.mp hname
      obtain ⟨e, he, hem⟩ := exists_left_of_mem hcompiled hm
      exact ⟨e, he, Interfaces.name?_of_compileMethod hem⟩
    · rintro ⟨e, he, hname⟩
      obtain ⟨m, hm, hem⟩ := exists_right_of_mem hcompiled he
      rw [Interfaces.name?_of_compileMethod hem, Option.some.injEq] at hname
      exact List.mem_map.mpr ⟨m, hm, hname⟩
  refine ⟨hnames, ?_, ?_⟩
  · intro e he
    obtain ⟨m, hm, hem⟩ := exists_right_of_mem hcompiled he
    exact ⟨m, hem, fun hpublic => runs_of_find hpublic (Dispatcher.find_of_mem hnodup hm)⟩
  · intro name hpublic hother
    refine lacks_of_notMem hpublic fun hname => ?_
    obtain ⟨e, he, hname⟩ := (hnames name).mp hname
    exact hother e he hname

theorem FollowsFunctions.implements (h : client.FollowsFunctions factory is scope place)
    (hown : ∀ e ∈ is.exchangeMethods place, e.2.name? = some e.1) :
    client.Implements factory is scope place := by
  have hkeys : ∀ name, (∃ e ∈ is.exchangeMethods place, e.2.name? = some name) ↔
      name ∈ (is.exchangeMethods place).map Prod.fst := by
    intro name
    rw [List.mem_map]
    refine exists_congr fun e => and_congr_right fun he => ?_
    rw [hown e he, Option.some.injEq]
  refine ⟨fun name => (h.names name).trans (hkeys name), ?_, ?_⟩
  · intro name c he
    obtain ⟨m, hm, hruns⟩ := h.runs (name, c) he
    have hname : name = m.name :=
      Option.some.inj ((hown _ he).symm.trans (Interfaces.name?_of_compileMethod hm))
    subst hname
    exact ⟨m, hm, hruns (Interfaces.isPublic_of_mem_exchangeMethods he)⟩
  · intro name hpublic hother
    exact h.lacks name hpublic fun e he hname => hother ((hkeys name).mp ⟨e, he, hname⟩)

theorem Implements.own_names (h : client.Implements factory is scope place) :
    ∀ e ∈ is.exchangeMethods place, e.2.name? = some e.1 := by
  rintro ⟨name, c⟩ he
  obtain ⟨m, hm, hruns⟩ := h.runs name c he
  rw [Interfaces.name?_of_compileMethod hm,
    hruns.name_eq (Interfaces.isPublic_of_mem_exchangeMethods he)]

/-- A client answers to the names of functions. It implements its interface exactly when every public
method stands there under the name of its function. -/
theorem createClient_names (h : (factory.createClient is scope place).1 = .ok client) :
    client.FollowsFunctions factory is scope place ∧
      (client.Implements factory is scope place ↔
        ∀ e ∈ is.exchangeMethods place, e.2.name? = some e.1) := by
  have hfollows := followsFunctions_of_createClient h
  exact ⟨hfollows, Implements.own_names, hfollows.implements⟩

end Creation

/-- A function that its interface holds under a second name, while the first one is hidden, is called by
the first. -/
theorem createClient_names_of_hidden :
    let get : Function :=
      { name := "get", home := ⟨0, 0⟩, qualname := "Base.get", formals := [{ name := "self" }]
        result := some (.cls .str), declared := .exchange { url := "/users", method := "GET" } }
    let is : Interfaces :=
      ⟨[{ name := "Base"
          members := [("get", .callable (.function get)), ("fetch", .callable (.function get))] },
        { name := "Users", bases := [0], members := [("get", .value .null)] }]⟩
    let factory : Factory := { blockTimeout := .int 5 }
    let scope : Scope := { find? := fun _ => none, member? := fun _ _ => none }
    ∃ client m, (factory.createClient is scope 1).1 = .ok client ∧
      is.compileMethod scope factory.registry factory.blockTimeout 1 (.function get) = .ok m ∧
        client.Runs "get" m ∧ client.Lacks "fetch" ∧ ¬ client.Implements factory is scope 1 := by
  intro get is factory scope
  have hmethods : is.exchangeMethods 1 = [("fetch", .function get)] := by
    dsimp only [is, get]
    rfl
  obtain ⟨client, hclient⟩ : ∃ client, (factory.createClient is scope 1).1 = .ok client := by
    dsimp only [factory, is, scope, get]
    exact ⟨_, rfl⟩
  obtain ⟨hfollows, himplements⟩ := createClient_names hclient
  obtain ⟨m, hm, hruns⟩ := hfollows.runs ("fetch", .function get) (by simp [hmethods])
  have hname : m.name = "get" := (Option.some.inj (Interfaces.name?_of_compileMethod hm)).symm
  rw [hname] at hruns
  refine ⟨client, m, hclient, hm, hruns (by decide), hfollows.lacks "fetch" (by decide) ?_, ?_⟩
  · simp [hmethods, Callable.name?, get]
  · rw [himplements]
    simp [hmethods, Callable.name?, get]

/-- A public name for a function whose own name is not public is a name of the interface, but none of its
client. -/
theorem createClient_underscored_function :
    let get : Function :=
      { name := "_get", home := ⟨0, 0⟩, qualname := "Users._get", formals := [{ name := "self" }]
        result := some (.cls .str), declared := .exchange { url := "/users", method := "GET" } }
    let is : Interfaces :=
      ⟨[{ name := "Users"
          members := [("_get", .callable (.function get)), ("get", .callable (.function get))] }]⟩
    let factory : Factory := { blockTimeout := .int 5 }
    let scope : Scope := { find? := fun _ => none, member? := fun _ _ => none }
    (is.exchangeMethods 0).map Prod.fst = ["get"] ∧
      ∃ client, (factory.createClient is scope 0).1 = .ok client ∧ client.dispatcher.names = ["_get"] ∧
        client.lookUp "get" = .error (.noClientMethod "Users" "get") ∧
          ¬ client.Implements factory is scope 0 := by
  refine ⟨by rfl, _, by rfl, by rfl, by rfl, fun h => ?_⟩
  have hname := (h.names "get").mpr (by decide)
  revert hname
  decide

end Client

end HttpContract
