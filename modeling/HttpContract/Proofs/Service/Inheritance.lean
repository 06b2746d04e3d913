import HttpContract.Proofs.Service.Lineage
import HttpContract.Proofs.Service.Naming

/-!
# Interfaces that add nothing

What comes of compiling an interface depends on its methods and its declaration, and its name only labels
that. An interface that adds nothing to its one base has the methods and the declaration of the base: it is the
same interface under another name.
-/

namespace HttpContract

/-- The method, compiled for an interface of another name. -/
def Method.under (service : String) (m : Method) : Method := { m with service }

theorem Method.compile_under (scope : Scope) (service other : String) (type : Option Exchange)
    (registry : Registry) (limit : Value) (f : Function) :
    compile scope service type registry limit f =
      (compile scope other type registry limit f).map (under service) := by
  refine compile_map (g := id) (fun result => ?_) fun _ _ _ _ => rfl
  cases Plan.compile result registry limit <;> rfl

/-! ## Outcomes -/

/-- Why there is no dispatcher for an interface, apart from its name. -/
inductive Fault where
  | undefinable (method : String) (e : DefinitionError)
  | raised (e : Raised)
  | nameless
  | repeated (name : String)
deriving Repr, DecidableEq, Inhabited

def Fault.ofCompile (method : String) : CompileError → Fault
  | .definition e => undefinable method e
  | .escaped e => raised e

/-- The failure that reports the fault of an interface with a name. -/
def Fault.failure (service : String) : Fault → Failure
  | undefinable method e => .definition (service ++ "." ++ method) e
  | raised e => .raised e
  | nameless => .namelessMember
  | repeated name => .duplicateMethod name

theorem Fault.failure_injective (service : String) : Function.Injective (failure service) := by
  intro fault fault' h
  cases fault with
  | undefinable method e =>
      cases fault' with
      | undefinable method' e' =>
          obtain ⟨hmethod, rfl⟩ := Failure.definition.inj h
          rw [(String.append_right_inj _).mp hmethod]
      | _ => cases h
  | raised e =>
      cases fault' with
      | raised e' => rw [Failure.raised.inj h]
      | _ => cases h
  | nameless =>
      cases fault' with
      | nameless => rfl
      | _ => cases h
  | repeated name =>
      cases fault' with
      | repeated name' => rw [Failure.duplicateMethod.inj h]
      | _ => cases h

theorem Fault.failure_ofCompile (service method : String) (e : CompileError) :
    (ofCompile method e).failure service = .ofCompile (service ++ "." ++ method) e := by
  cases e <;> rfl

namespace Dispatcher

/-- The dispatcher of an interface of another name. -/
def under (service : String) (d : Dispatcher) : Dispatcher := ⟨d.methods.map (Method.under service)⟩

theorem under_under (service other : String) (d : Dispatcher) :
    (d.under other).under service = d.under service := by
  simp [under, Method.under, Function.comp_def]

theorem go_under (service : String) (seen : List String) (ms : List Method) :
    ofMethods.go seen (ms.map (Method.under service)) = ofMethods.go seen ms := by
  induction ms generalizing seen with
  | nil => rfl
  | cons m ms ih =>
      have hname : (m.under service).name = m.name := rfl
      simp only [List.map_cons, ofMethods.go, hname, ih]

end Dispatcher

namespace Factory

variable {factory : Factory} {is : Interfaces} {scope : Scope} {place base : Nat}

/-- A method for any interface with a declaration. -/
def compileAny (factory : Factory) (scope : Scope) (type : Option Exchange) :
    Callable → Except Fault Method
  | .nameless => .error .nameless
  | .function f =>
    (Method.compile scope "" type factory.registry factory.blockTimeout f).mapError (Fault.ofCompile f.name)

/-- What comes of compiling methods for any interface with a declaration, where every member can be read. -/
def compiled (factory : Factory) (scope : Scope) (type : Option Exchange) (cs : List Callable) :
    Except Fault Dispatcher :=
  (cs.mapM (factory.compileAny scope type)).bind fun ms =>
    match Dispatcher.ofMethods.go [] ms with
    | some name => .error (.repeated name)
    | none => .ok ⟨ms⟩

/-- What comes of an interface of any name with the given fault of its members, declaration and methods. -/
def outcome (factory : Factory) (scope : Scope) (fault : Option Raised) (type : Option Exchange)
    (cs : List Callable) : Except Fault Dispatcher :=
  match fault with
  | some e => .error (.raised e)
  | none => factory.compiled scope type cs

theorem compileMethod_eq (c : Callable) :
    is.compileMethod scope factory.registry factory.blockTimeout place c =
      ((factory.compileAny scope (is.findExchange place) c).mapError (Fault.failure (is.nameAt place))).map
        (Method.under (is.nameAt place)) := by
  cases c with
  | nameless => rfl
  | function f =>
      simp only [Interfaces.compileMethod, compileAny, Method.compile_under scope (is.nameAt place) ""]
      cases Method.compile scope "" (is.findExchange place) factory.registry factory.blockTimeout f with
      | error e => exact congrArg Except.error (Fault.failure_ofCompile _ _ e).symm
      | ok m => rfl

/-- The name of an interface only labels what comes of its members and its declaration. -/
theorem createDispatcher_eq_outcome (factory : Factory) (is : Interfaces) (scope : Scope) (place : Nat) :
    (factory.createDispatcher is scope place).1 =
      ((factory.outcome scope (is.fault? place) (is.findExchange place)
        ((is.exchangeMethods place).map Prod.snd)).mapError
          (Fault.failure (is.nameAt place))).map (Dispatcher.under (is.nameAt place)) := by
  rw [createDispatcher_fst, Interfaces.compile_fst]
  unfold outcome
  cases is.fault? place with
  | some e => rfl
  | none =>
      have hlabelled : is.compileMethod scope factory.registry factory.blockTimeout place = fun c =>
          ((factory.compileAny scope (is.findExchange place) c).mapError
            (Fault.failure (is.nameAt place))).map (Method.under (is.nameAt place)) :=
        funext fun c => compileMethod_eq c
      simp only [hlabelled, mapM_mapError_map, compiled]
      cases ((is.exchangeMethods place).map Prod.snd).mapM
          (factory.compileAny scope (is.findExchange place)) with
      | error fault => rfl
      | ok ms =>
          simp only [Except.mapError, Except.map, Except.bind, Dispatcher.ofMethods, Dispatcher.go_under]
          cases Dispatcher.ofMethods.go [] ms <;> rfl

end Factory

/-! ## Adding nothing -/

namespace Interfaces

variable {is : Interfaces} {place base : Nat} {i : Interface}

/-- The interface at a place has one base, before it, and adds neither members nor a declaration to it; in the
place of a declaration it may have something else. -/
structure AddsNothing (is : Interfaces) (place base : Nat) (i : Interface) : Prop where
  at_place : is.list[place]? = some i
  bases : i.bases = [base]
  below : base < place
  members : i.members = []
  declared : i.declared.exchange? = none

/-- What was added below one base and says nothing itself adds nothing to the base. -/
theorem addsNothing_of_add {added : Interfaces} (h : is.add i = .ok added) (hbases : i.bases = [base])
    (hmembers : i.members = []) (hdeclared : i.declared.exchange? = none) :
    added.AddsNothing is.list.length base i := by
  unfold add at h
  split at h
  · cases h
  · rw [hbases] at h
    split at h
    · cases h
    · cases h
    · rename_i l _ hof
      cases h
      have hbelow : base < is.list.length := by
        have hlineage : (is.lineages[base]?).join ≠ none := by
          intro hnone
          simp [Lineage.of, hnone] at hof
        have hlt : base < is.lineages.length := by
          by_contra hge
          exact hlineage (by rw [List.getElem?_eq_none (Nat.not_lt.mp hge)]; rfl)
        simpa [lineages, Lineage.length_extend] using hlt
      exact ⟨List.getElem?_concat_length, hbases, hbelow, hmembers, hdeclared⟩

namespace AddsNothing

/-- A base without a lineage leaves none to the interface either. -/
theorem ancestry (h : is.AddsNothing place base i) :
    is.ancestry place = i :: is.ancestry base ∨ is.ancestry place = [] ∧ is.ancestry base = [] := by
  have hlineage := lineage_of_single h.at_place h.bases h.below
  simp only [Interfaces.ancestry, lineage, hlineage]
  cases (is.lineages[base]?).join with
  | none => exact .inr ⟨rfl, rfl⟩
  | some l => exact .inl (by simp [h.at_place])

theorem find? (h : is.AddsNothing place base i) (name : String) :
    is.find? place name = is.find? base name := by
  unfold Interfaces.find?
  rcases h.ancestry with hplace | ⟨hplace, hbase⟩
  · simp [hplace, h.members, Assoc.get?]
  · rw [hplace, hbase]

theorem publicNames (h : is.AddsNothing place base i) : is.publicNames place = is.publicNames base := by
  unfold Interfaces.publicNames
  rcases h.ancestry with hplace | ⟨hplace, hbase⟩
  · simp [hplace, h.members]
  · rw [hplace, hbase]

theorem exchangeMethods (h : is.AddsNothing place base i) :
    is.exchangeMethods place = is.exchangeMethods base := by
  simp only [Interfaces.exchangeMethods, h.publicNames, h.find?]

theorem fault? (h : is.AddsNothing place base i) : is.fault? place = is.fault? base := by
  simp only [Interfaces.fault?, h.publicNames, h.find?]

theorem findExchange (h : is.AddsNothing place base i) : is.findExchange place = is.findExchange base := by
  unfold Interfaces.findExchange
  rcases h.ancestry with hplace | ⟨hplace, hbase⟩
  · simp [hplace, h.declared]
  · rw [hplace, hbase]

end AddsNothing

end Interfaces

namespace Factory

variable {factory : Factory} {is : Interfaces} {scope : Scope} {place base : Nat} {i : Interface}

/-- The interface at a place is the one at another under its own name. -/
structure SameInterface (factory : Factory) (is : Interfaces) (scope : Scope) (place base : Nat) : Prop where
  methods : is.exchangeMethods place = is.exchangeMethods base
  /-- Each method has the function, parameters, template and plan that it has there. -/
  succeeds : ∀ d, (factory.createDispatcher is scope place).1 = .ok d ↔
    ∃ d', (factory.createDispatcher is scope base).1 = .ok d' ∧ d = d'.under (is.nameAt place)
  fails : ∀ e, (factory.createDispatcher is scope place).1 = .error e ↔
    ∃ fault : Fault, (factory.createDispatcher is scope base).1 = .error (fault.failure (is.nameAt base)) ∧
      e = fault.failure (is.nameAt place)

/-- An interface that adds nothing to its base is compiled as the base is. -/
theorem sameInterface_of_addsNothing (h : is.AddsNothing place base i) (factory : Factory) (scope : Scope) :
    factory.SameInterface is scope place base := by
  have hplace := factory.createDispatcher_eq_outcome is scope place
  have hbase := factory.createDispatcher_eq_outcome is scope base
  rw [h.fault?, h.exchangeMethods, h.findExchange] at hplace
  generalize factory.outcome scope _ _ _ = outcome at hplace hbase
  refine ⟨h.exchangeMethods, fun d => ?_, fun e => ?_⟩
  · rw [hplace, hbase]
    cases outcome with
    | error fault => simp [Except.mapError, Except.map]
    | ok d₀ => simp [Except.mapError, Except.map, Dispatcher.under_under, eq_comm]
  · rw [hplace, hbase]
    cases outcome with
    | error fault =>
        simp only [Except.mapError, Except.map, Except.error.injEq]
        constructor
        · rintro rfl
          exact ⟨fault, rfl, rfl⟩
        · rintro ⟨fault', hfault, rfl⟩
          rw [Fault.failure_injective _ hfault]
    | ok d₀ => simp [Except.mapError, Except.map]

/-- Below a diamond in which one side hides a function and the other declares the exchange. -/
theorem sameInterface_below_diamond :
    let get : Function :=
      { name := "get", home := ⟨0, 0⟩, qualname := "Base.get", formals := [{ name := "self" }]
        result := some (.cls .str), declared := .exchange { url := "/users", method := "GET" } }
    let count : Function := { get with name := "count", home := ⟨2, 0⟩, qualname := "Right.count" }
    let is : Interfaces :=
      ⟨[{ name := "Base", members := [("get", .callable (.function get))] },
        { name := "Left", bases := [0], members := [("count", .value .null)] },
        { name := "Right", bases := [0], declared := .exchange { url := "/v1" }
          members := [("count", .callable (.function count))] },
        { name := "Both", bases := [1, 2] },
        { name := "Same", bases := [3], declared := .foreign }]⟩
    let factory : Factory := { blockTimeout := .int 5 }
    let scope : Scope := { find? := fun _ => none, member? := fun _ _ => none }
    is.lineage 3 = [3, 1, 2, 0] ∧ (is.exchangeMethods 4).map Prod.fst = ["get"] ∧
      ∃ d, (factory.createDispatcher is scope 3).1 = .ok d ∧
        (factory.createDispatcher is scope 4).1 = .ok (d.under "Same") ∧
        (d.under "Same").methods.map Method.qualname = ["Same.get"] := by
  intro get count is factory scope
  have hadds : is.AddsNothing 4 3 { name := "Same", bases := [3], declared := .foreign } :=
    ⟨rfl, rfl, by decide, rfl, rfl⟩
  obtain ⟨hmethods, hsucceeds, -⟩ := sameInterface_of_addsNothing hadds factory scope
  obtain ⟨d, hd, hnames⟩ : ∃ d, (factory.createDispatcher is scope 3).1 = .ok d ∧
      (d.under "Same").methods.map Method.qualname = ["Same.get"] := by
    dsimp only [factory, is, scope, count, get]
    exact ⟨_, rfl, rfl⟩
  have hlineage : is.lineage 3 = [3, 1, 2, 0] := by
    dsimp only [is, count, get]
    rfl
  have hbase : (is.exchangeMethods 3).map Prod.fst = ["get"] := by
    dsimp only [is, count, get]
    rfl
  rw [hmethods]
  exact ⟨hlineage, hbase, d, hd, (hsucceeds _).mpr ⟨d, hd, rfl⟩, hnames⟩

end Factory

end HttpContract
