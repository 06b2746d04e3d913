import HttpContract.Proofs.Plan.Choice
import HttpContract.Service.Client

/-!
# Compiled interfaces

How long a call may wait bears on nothing else in what is compiled. A dispatcher holds compiled methods
whose names are pairwise different, and the first name that is repeated is why there is none.
-/

namespace HttpContract

/-! ## Limits -/

/-- The plan with another limit for its waits. -/
def Plan.within (limit : Value) (p : Plan) : Plan := { p with blockTimeout := limit }

/-- The method with another limit for its waits. -/
def Method.within (limit : Value) (m : Method) : Method := { m with plan := m.plan.within limit }

theorem Plan.compile_within (result : Hint) (registry : Registry) (limit other : Value) :
    compile result registry limit = (compile result registry other).map (within limit) := by
  simp only [compile_eq]
  cases actualHint (registry.findOrigin? result.unwrap) result.unwrap with
  | error e => rfl
  | ok actual =>
      simp only [Except.bind]
      cases choose registry (registry.findOrigin? result.unwrap) actual.1 <;> rfl

/-- Methods are compiled alike up to what becomes of the plan and the name of the interface. -/
theorem Method.compile_map {scope : Scope} {type : Option Exchange} {registry : Registry} {f : Function}
    {service other : String} {limit otherLimit : Value} {g : Plan → Plan} {h : Method → Method}
    (hplan : ∀ result, Plan.compile result registry limit = (Plan.compile result registry otherLimit).map g)
    (hmethod : ∀ parameters result template plan,
      { service, function := f, parameters, result, template, plan := g plan } =
        h { service := other, function := f, parameters, result, template, plan }) :
    compile scope service type registry limit f = (compile scope other type registry otherLimit f).map h := by
  unfold compile
  simp only [hplan]
  -- stage by stage: only the last one knows of the limit
  cases f.declared.exchange? with
  | none => rfl
  | some exchange =>
      cases (resolveFormals scope f.formals).mapError CompileError.ofScope with
      | error e => rfl
      | ok formals =>
          cases (resolveResult scope f.result).mapError CompileError.ofScope with
          | error e => rfl
          | ok result =>
              simp only [bind, Except.bind]
              split
              · rfl
              · cases (Template.compile (some exchange) type).mapError fun e =>
                    CompileError.definition (.template e) with
                | error e => rfl
                | ok template =>
                    cases Plan.compile result registry otherLimit with
                    | error e => rfl
                    | ok plan => exact congrArg Except.ok (hmethod _ _ _ _)

theorem Method.compile_within (scope : Scope) (service : String) (type : Option Exchange)
    (registry : Registry) (limit other : Value) (f : Function) :
    compile scope service type registry limit f =
      (compile scope service type registry other f).map (within limit) :=
  compile_map (fun result => Plan.compile_within result registry limit other) fun _ _ _ _ => rfl

namespace Interfaces

theorem compileMethod_within (is : Interfaces) (scope : Scope) (registry : Registry)
    (limit other : Value) (place : Nat) (callable : Callable) :
    is.compileMethod scope registry limit place callable =
      (is.compileMethod scope registry other place callable).map (Method.within limit) := by
  cases callable with
  | nameless => rfl
  | function f =>
      simp only [compileMethod, Method.compile_within scope _ _ registry limit other f]
      cases Method.compile scope (is.nameAt place) (is.findExchange place) registry other f <;> rfl

/-- Where every method is compiled alike up to a change that no record shows, so are all of them. -/
theorem compileEach_map {compileOne compileOther : Callable → Except Failure Method} {f : Method → Method}
    (hcompile : ∀ callable, compileOne callable = (compileOther callable).map f)
    (hrecord : ∀ m, compileRecord (f m) = compileRecord m) (callables : List Callable) :
    compileEach compileOne callables =
      ((compileEach compileOther callables).1.map (List.map f), (compileEach compileOther callables).2) := by
  induction callables with
  | nil => rfl
  | cons callable rest ih =>
      simp only [compileEach, hcompile callable, ih]
      cases compileOther callable with
      | error e => rfl
      | ok m =>
          simp only [Except.map, hrecord]
          cases (compileEach compileOther rest).1 <;> rfl

/-- Interfaces are compiled alike for every limit, with the same records on the way. -/
theorem compile_within (is : Interfaces) (scope : Scope) (registry : Registry) (limit other : Value)
    (place : Nat) :
    is.compile scope registry limit place =
      ((is.compile scope registry other place).1.map (List.map (Method.within limit)),
        (is.compile scope registry other place).2) := by
  unfold compile
  cases is.fault? place with
  | some e => rfl
  | none => exact compileEach_map (is.compileMethod_within scope registry limit other place) (fun _ => rfl) _

end Interfaces

/-! ## Names -/

namespace Dispatcher

variable {ms rest : List Method} {m : Method} {d : Dispatcher} {seen : List String} {name : String}

theorem go_cons_of_mem (hm : m.name ∈ seen) : ofMethods.go seen (m :: rest) = some m.name := by
  simp [ofMethods.go, hm]

theorem go_cons_of_notMem (hm : m.name ∉ seen) :
    ofMethods.go seen (m :: rest) = ofMethods.go (m.name :: seen) rest := by
  simp [ofMethods.go, hm]

theorem go_eq_none_iff :
    ofMethods.go seen ms = none ↔ (ms.map Method.name).Nodup ∧ ∀ m ∈ ms, m.name ∉ seen := by
  induction ms generalizing seen with
  | nil => simp [ofMethods.go]
  | cons m rest ih =>
      by_cases hm : m.name ∈ seen
      · simp [go_cons_of_mem hm, hm]
      · rw [go_cons_of_notMem hm, ih, List.map_cons, List.nodup_cons, List.forall_mem_cons]
        simp only [List.mem_map, List.mem_cons, not_or]
        constructor
        · rintro ⟨hnodup, hunseen⟩
          refine ⟨⟨?_, hnodup⟩, hm, fun other hother => (hunseen other hother).2⟩
          rintro ⟨other, hother, hname⟩
          exact (hunseen other hother).1 hname
        · rintro ⟨⟨hnew, hnodup⟩, -, hunseen⟩
          refine ⟨hnodup, fun other hother => ⟨fun hname => ?_, hunseen other hother⟩⟩
          exact hnew ⟨other, hother, hname⟩

/-- A name that is refused has been seen before, or two methods have it. -/
theorem repeated_of_go (h : ofMethods.go seen ms = some name) :
    (name ∈ seen ∧ name ∈ ms.map Method.name) ∨ 2 ≤ (ms.map Method.name).count name := by
  induction ms generalizing seen with
  | nil => cases h
  | cons m rest ih =>
      by_cases hm : m.name ∈ seen
      · rw [go_cons_of_mem hm, Option.some.injEq] at h
        subst h
        exact .inl ⟨hm, by simp⟩
      · rw [go_cons_of_notMem hm] at h
        rcases ih h with ⟨hseen, hlater⟩ | hcount
        · rcases List.mem_cons.mp hseen with rfl | hseen
          · refine .inr ?_
            have hpos := List.count_pos_iff.mpr hlater
            rw [List.map_cons, List.count_cons_self]
            omega
          · exact .inl ⟨hseen, List.mem_cons_of_mem _ hlater⟩
        · exact .inr (Nat.le_trans hcount List.count_le_count_cons)

theorem ofMethods_eq_ok_iff : ofMethods ms = .ok d ↔ (ms.map Method.name).Nodup ∧ d = ⟨ms⟩ := by
  have hgo : ofMethods.go [] ms = none ↔ (ms.map Method.name).Nodup := by simp [go_eq_none_iff]
  unfold ofMethods
  rw [← hgo]
  cases ofMethods.go [] ms with
  | none => simp [eq_comm]
  | some name => simp

/-- Methods make no dispatcher only because two of them have one name. -/
theorem exists_duplicate_of_ofMethods {e : Failure} (h : ofMethods ms = .error e) :
    ∃ name, e = .duplicateMethod name ∧ 2 ≤ (ms.map Method.name).count name := by
  unfold ofMethods at h
  cases hname : ofMethods.go [] ms with
  | none =>
      rw [hname] at h
      cases h
  | some name =>
      rw [hname] at h
      cases h
      exact ⟨name, rfl, (repeated_of_go hname).resolve_left fun h => List.not_mem_nil h.1⟩

theorem find_of_mem (hnodup : d.names.Nodup) (hm : m ∈ d.methods) : d.find m.name = .ok m := by
  suffices h : d.methods.find? (fun other => other.name = m.name) = some m by simp only [find, h]
  obtain ⟨methods⟩ := d
  induction methods with
  | nil => cases hm
  | cons first rest ih =>
      obtain ⟨hnew, hrest⟩ := List.nodup_cons.mp hnodup
      rcases List.mem_cons.mp hm with rfl | hm
      · simp
      · have hname : first.name ≠ m.name := fun h => hnew (h ▸ List.mem_map_of_mem hm)
        simpa [hname] using ih hrest hm

end Dispatcher

/-! ## Dispatchers of an interface -/

namespace Factory

variable (factory : Factory) (is : Interfaces) (scope : Scope) (place : Nat)

theorem createDispatcher_fst :
    (factory.createDispatcher is scope place).1 =
      (is.compile scope factory.registry factory.blockTimeout place).1.bind Dispatcher.ofMethods := by
  rw [createDispatcher]
  rcases is.compile scope factory.registry factory.blockTimeout place with ⟨_ | ms, log⟩
  · rfl
  · simp only [Except.bind]
    cases Dispatcher.ofMethods ms <;> rfl

theorem createClient_fst :
    (factory.createClient is scope place).1 =
      (factory.createDispatcher is scope place).1.map fun dispatcher =>
        { service := is.nameAt place, dispatcher } := by
  rw [createClient]
  rcases factory.createDispatcher is scope place with ⟨_ | d, log⟩ <;> rfl

end Factory

end HttpContract
