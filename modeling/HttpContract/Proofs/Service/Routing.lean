import HttpContract.Proofs.Service.Naming

/-!
# Calls by function

A dispatcher takes the name of a method or a function. A call by a function is the call by its name if the
interface holds the function and gives the same one at each access; a call by any other function is refused
before anybody is asked anything. A function that is new at each access counts among the others, although its
method is called by name.
-/

namespace HttpContract

namespace Dispatcher

variable {d : Dispatcher} {m : Method} {f : Function}

/-! ## Functions and names -/

/-- Calls by the function are the calls by its name. -/
def Agrees (d : Dispatcher) (f : Function) : Prop :=
  ∀ {σ π : Type} (t : Transport σ π) (resolvers : List (Resolver σ)) (arguments : List Value)
    (c : Context σ), d.invokeFunction t resolvers f arguments c = d.invoke t resolvers f.name arguments c

/-- Calls by the function fail for want of its method, and leave everything as it was. -/
def Refuses (d : Dispatcher) (f : Function) : Prop :=
  ∃ e, (e = .noMethod f.name ∨ ∃ compiled, e = .otherFunction f.qualname compiled) ∧
    ∀ {σ π : Type} (t : Transport σ π) (resolvers : List (Resolver σ)) (arguments : List Value)
      (c : Context σ), d.invokeFunction t resolvers f arguments c = ({ result := .error e }, c)

/-- Calls by the name of the function are those of the method. -/
def Routes (d : Dispatcher) (f : Function) (m : Method) : Prop :=
  ∀ {σ π : Type} (t : Transport σ π) (resolvers : List (Resolver σ)) (arguments : List Value)
    (c : Context σ), d.invoke t resolvers f.name arguments c = m.invoke t resolvers arguments c

theorem mem_of_find {name : String} (h : d.find name = .ok m) : m ∈ d.methods := by
  unfold find at h
  split at h
  · rename_i hm
    cases h
    exact List.mem_of_find?_eq_some hm
  · cases h

theorem refuses_of_findFunction {e : Failure} (h : d.findFunction f = .error e) : d.Refuses f := by
  refine ⟨e, ?_, fun t resolvers arguments c => by rw [invokeFunction, h]⟩
  unfold findFunction at h
  split at h
  · rename_i e' hfind
    cases h
    unfold find at hfind
    split at hfind
    · cases hfind
    · cases hfind
      exact .inl rfl
  · rename_i m hfind
    split at h
    · cases h
    · cases h
      exact .inr ⟨m.qualname, rfl⟩

theorem refuses_of_forall (h : ∀ m ∈ d.methods, m.function.isSame f = false) : d.Refuses f := by
  cases hf : d.findFunction f with
  | error e => exact refuses_of_findFunction hf
  | ok m =>
      unfold findFunction at hf
      split at hf
      · cases hf
      · rename_i m' hfind
        rw [h m' (mem_of_find hfind)] at hf
        cases hf

theorem agrees_of_find (hfind : d.find f.name = .ok m) (hsame : m.function.isSame f = true) :
    d.Agrees f := by
  intro σ π t resolvers arguments c
  rw [invokeFunction, invoke, findFunction, hfind]
  simp [hsame]

/-- A transport with no publishers. -/
def unreachable : Transport Unit Empty where
  call _ _ _ w := (.error .wrongShape, w)
  shape := nofun
  isCoroutine := nofun
  await := nofun
  cancel := nofun
  next := nofun
  close := nofun

/-- A method can be given a wrong number of arguments, which is another failure. -/
theorem Refuses.not_agrees (h : d.Refuses f) (hm : d.Routes f m) : ¬ d.Agrees f := by
  intro hagrees
  obtain ⟨e, he, hrefused⟩ := h
  let arguments := List.replicate (m.parameters.length + 1) Value.null
  have hcount : arguments.length ≠ m.parameters.length := by simp [arguments]
  have hname := hm unreachable [] arguments default
  rw [← hagrees, hrefused, Method.invoke, if_pos hcount] at hname
  rcases he with rfl | ⟨compiled, rfl⟩
  · cases hname
  · cases hname

end Dispatcher

/-! ## Functions of an interface -/

theorem Function.isSame_self (f : Function) : f.isSame f = !f.fresh := by
  simp [isSame]

theorem Function.isSame_of_fresh {f : Function} (hf : f.fresh = true) (g : Function) :
    g.isSame f = false := by
  simp [isSame, hf]

namespace Dispatcher

variable {d : Dispatcher} {m : Method} {f : Function} {factory : Factory} {is : Interfaces}
  {scope : Scope} {place : Nat} {name : String}

theorem find_of_createDispatcher (h : (factory.createDispatcher is scope place).1 = .ok d)
    (hf : (name, .function f) ∈ is.exchangeMethods place) :
    ∃ m, is.compileMethod scope factory.registry factory.blockTimeout place (.function f) = .ok m ∧
      m.function = f ∧ d.find f.name = .ok m := by
  obtain ⟨hms, hnodup⟩ := compile_of_createDispatcher h
  obtain ⟨m, hm, hcompiled⟩ := exists_right_of_mem (Interfaces.forall₂_of_compile hms) hf
  have hfunction := Interfaces.function_of_compileMethod hcompiled
  have hname : m.name = f.name := congrArg Function.name hfunction
  exact ⟨m, hcompiled, hfunction, hname ▸ find_of_mem hnodup hm⟩

/-- Every compiled method is that of a function which the interface holds. -/
theorem exists_function_of_mem (h : (factory.createDispatcher is scope place).1 = .ok d)
    (hm : m ∈ d.methods) : ∃ name, (name, .function m.function) ∈ is.exchangeMethods place := by
  obtain ⟨hms, -⟩ := compile_of_createDispatcher h
  obtain ⟨⟨name, c⟩, hc, hcompiled⟩ := exists_left_of_mem (Interfaces.forall₂_of_compile hms) hm
  cases c with
  | nameless => cases hcompiled
  | function g => exact ⟨name, Interfaces.function_of_compileMethod hcompiled ▸ hc⟩

theorem routes_of_createDispatcher (h : (factory.createDispatcher is scope place).1 = .ok d)
    (hf : (name, .function f) ∈ is.exchangeMethods place) :
    ∃ m, is.compileMethod scope factory.registry factory.blockTimeout place (.function f) = .ok m ∧
      d.Routes f m := by
  obtain ⟨m, hm, -, hfind⟩ := find_of_createDispatcher h hf
  exact ⟨m, hm, fun t resolvers arguments c => by rw [invoke, hfind]⟩

theorem refuses_of_createDispatcher (h : (factory.createDispatcher is scope place).1 = .ok d)
    (hf : ∀ name g, (name, .function g) ∈ is.exchangeMethods place → g.isSame f = false) :
    d.Refuses f := by
  refine refuses_of_forall fun m hm => ?_
  obtain ⟨name, hmem⟩ := exists_function_of_mem h hm
  exact hf name m.function hmem

theorem agrees_iff_of_createDispatcher (h : (factory.createDispatcher is scope place).1 = .ok d)
    (hf : (name, .function f) ∈ is.exchangeMethods place) : d.Agrees f ↔ f.fresh = false := by
  cases hfresh : f.fresh with
  | true =>
      have hrefuses := refuses_of_createDispatcher h fun _ g _ => Function.isSame_of_fresh hfresh g
      obtain ⟨m, -, hroutes⟩ := routes_of_createDispatcher h hf
      exact iff_of_false (hrefuses.not_agrees hroutes) (by simp)
  | false =>
      obtain ⟨m, -, hfunction, hfind⟩ := find_of_createDispatcher h hf
      have hsame : m.function.isSame f = true := by
        rw [hfunction, f.isSame_self, hfresh]
        rfl
      exact iff_of_true (agrees_of_find hfind hsame) rfl

/-- What becomes of calls by functions. -/
structure FollowsInterface (d : Dispatcher) (factory : Factory) (is : Interfaces) (scope : Scope)
    (place : Nat) : Prop where
  /-- The name of a function leads to the method that is compiled from the function. -/
  routed : ∀ name f, (name, .function f) ∈ is.exchangeMethods place →
    ∃ m, is.compileMethod scope factory.registry factory.blockTimeout place (.function f) = .ok m ∧
      d.Routes f m
  /-- The function does so too unless it is new at each access. -/
  agrees_iff : ∀ name f, (name, .function f) ∈ is.exchangeMethods place → (d.Agrees f ↔ f.fresh = false)
  /-- A function that is none of those of the interface leads nowhere, whatever its name. -/
  refused : ∀ f, (∀ name g, (name, .function g) ∈ is.exchangeMethods place → g.isSame f = false) →
    d.Refuses f

/-- A dispatcher takes the functions of its interface for their methods, except those that are new at each
access, and no other function. -/
theorem followsInterface_of_createDispatcher (h : (factory.createDispatcher is scope place).1 = .ok d) :
    d.FollowsInterface factory is scope place where
  routed _ _ hf := routes_of_createDispatcher h hf
  agrees_iff _ _ hf := agrees_iff_of_createDispatcher h hf
  refused _ hf := refuses_of_createDispatcher h hf

/-- A function that is held, one that is new at each access, and one of the same name from elsewhere. -/
theorem followsInterface_of_createDispatcher_mixed :
    let get : Function :=
      { name := "get", home := ⟨0, 0⟩, qualname := "Users.get", formals := [{ name := "self" }]
        result := some (.cls .str), declared := .exchange { url := "/users", method := "GET" } }
    let count : Function :=
      { get with name := "count", home := ⟨0, 1⟩, qualname := "Users.count", fresh := true }
    let other : Function := { get with home := ⟨1, 0⟩, qualname := "Others.get" }
    let is : Interfaces :=
      ⟨[{ name := "Users"
          members := [("get", .callable (.function get)), ("count", .callable (.function count))] }]⟩
    let factory : Factory := { blockTimeout := .int 5 }
    let scope : Scope := { find? := fun _ => none, member? := fun _ _ => none }
    ∃ d, (factory.createDispatcher is scope 0).1 = .ok d ∧
      d.Agrees get ∧ d.Refuses count ∧ d.Refuses other := by
  intro get count other is factory scope
  have hmethods : is.exchangeMethods 0 = [("count", .function count), ("get", .function get)] := by
    dsimp only [is, count, get]
    rfl
  obtain ⟨d, hd⟩ : ∃ d, (factory.createDispatcher is scope 0).1 = .ok d := by
    dsimp only [factory, is, scope, count, get]
    exact ⟨_, rfl⟩
  obtain ⟨-, hagrees, hrefused⟩ := followsInterface_of_createDispatcher hd
  refine ⟨d, hd, (hagrees "get" get (by simp [hmethods])).mpr rfl, hrefused count ?_, hrefused other ?_⟩
  · exact fun _ g _ => Function.isSame_of_fresh rfl g
  · intro name g hg
    rw [hmethods] at hg
    simp only [List.mem_cons, Prod.mk.injEq, Callable.function.injEq, List.not_mem_nil, or_false] at hg
    rcases hg with ⟨-, rfl⟩ | ⟨-, rfl⟩ <;> rfl

/-- A function that is new at each access is refused as another than itself. -/
theorem invokeFunction_fresh :
    let get : Function :=
      { name := "get", home := ⟨0, 0⟩, qualname := "Users.get", result := some (.cls .str)
        declared := .exchange { url := "/users", method := "GET" }, fresh := true }
    let is : Interfaces := ⟨[{ name := "Users", members := [("get", .callable (.function get))] }]⟩
    let factory : Factory := { blockTimeout := .int 5 }
    let scope : Scope := { find? := fun _ => none, member? := fun _ _ => none }
    is.exchangeMethods 0 = [("get", .function get)] ∧
      ∃ d m, (factory.createDispatcher is scope 0).1 = .ok d ∧ d.find "get" = .ok m ∧ m.function = get ∧
        (d.invokeFunction unreachable [] get [] default).1.result =
          .error (.otherFunction "Users.get" "Users.get") ∧
        (d.invoke unreachable [] "get" [] default).1.request.isSome = true ∧ ¬ d.Agrees get := by
  refine ⟨by rfl, _, _, by rfl, by rfl, by rfl, by rfl, by rfl, fun hagrees => ?_⟩
  have hrequest := congrArg (fun call => call.1.request.isSome) (hagrees unreachable [] [] default)
  cases hrequest

end Dispatcher

end HttpContract
