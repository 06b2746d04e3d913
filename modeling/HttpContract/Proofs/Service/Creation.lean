import HttpContract.Proofs.Service.Escape
import HttpContract.Proofs.Service.Naming
import Mathlib.Data.List.Count
import Mathlib.Data.List.Nodup
import Mathlib.Data.Option.Basic
import Mathlib.Data.String.Basic

/-!
# Interfaces without a dispatcher

There are five reasons for an interface to have no dispatcher: a member cannot be read; the first method that
cannot be compiled is a function whose definition is refused, or meets an error that compilation does not
expect, or has no name; or all are compiled and two of them have one name. Only a refused definition is reported
as such, under the name that the function gives itself.
-/

namespace HttpContract

/-! ## Names in an interface -/

namespace Interfaces

variable {is : Interfaces} {place : Nat} {name : String} {names : List String}

theorem pairwise_insertName (h : names.Pairwise (· < ·)) (name : String) :
    (insertName name names).Pairwise (· < ·) := by
  induction names with
  | nil => exact List.pairwise_singleton _ _
  | cons n rest ih =>
      obtain ⟨hfirst, hrest⟩ := List.pairwise_cons.mp h
      rw [insertName]
      split
      · exact h
      · rename_i hne
        split
        · rename_i hlt
          refine List.pairwise_cons.mpr ⟨fun x hx => ?_, h⟩
          rcases List.mem_cons.mp hx with rfl | hx
          · exact hlt
          · exact String.lt_trans hlt (hfirst x hx)
        · rename_i hle
          refine List.pairwise_cons.mpr ⟨fun x hx => ?_, ih hrest⟩
          rcases mem_insertName.mp hx with rfl | hx
          · exact lt_of_le_of_ne (String.not_lt.mp hle) hne
          · exact hfirst x hx

theorem nodup_publicAmong (names : List String) : (publicAmong names).Nodup := by
  suffices h : ∀ kept : List String, (kept.foldr insertName []).Pairwise (· < ·) from
    (h _).imp fun hlt => ne_of_lt hlt
  intro kept
  induction kept with
  | nil => exact .nil
  | cons name kept ih => exact pairwise_insertName ih name

theorem nodup_names_exchangeMethods (is : Interfaces) (place : Nat) :
    ((is.exchangeMethods place).map Prod.fst).Nodup := by
  rw [exchangeMethods, List.map_filterMap]
  refine List.Nodup.filterMap ?_ (nodup_publicAmong _)
  intro n n' name hn hn'
  simp only [Option.mem_def, Option.map_map, Option.map_eq_some_iff] at hn hn'
  obtain ⟨_, -, hname⟩ := hn
  obtain ⟨_, -, hname'⟩ := hn'
  exact hname.trans hname'.symm

/-- The failure is a definition error, and its text begins with the name of a public method. -/
def NamesMethod (is : Interfaces) (place : Nat) (e : Failure) : Prop :=
  ∃ name ∈ (is.exchangeMethods place).map Prod.fst, ∃ d : DefinitionError,
    e = .definition (is.nameAt place ++ "." ++ name) d ∧
      e.message = is.nameAt place ++ "." ++ name ++ "(): " ++ d.message

theorem namesMethod_definition_iff {d : DefinitionError} :
    is.NamesMethod place (.definition (is.nameAt place ++ "." ++ name) d) ↔
      name ∈ (is.exchangeMethods place).map Prod.fst := by
  constructor
  · rintro ⟨other, hother, d', he, -⟩
    obtain ⟨hname, -⟩ := Failure.definition.inj he
    rwa [(String.append_right_inj _).mp hname]
  · intro hname
    exact ⟨name, hname, d, rfl, rfl⟩

end Interfaces

/-! ## Failures -/

namespace Factory

variable {factory : Factory} {is : Interfaces} {scope : Scope} {place : Nat} {e : Failure}

/-- The first public method that cannot be compiled, with the name it stands under. -/
def fault? (factory : Factory) (is : Interfaces) (scope : Scope) (place : Nat) :
    Option (String × Callable) :=
  (is.exchangeMethods place).find? fun m =>
    !(is.compileMethod scope factory.registry factory.blockTimeout place m.2).isOk

/-- The members can be read, and the function under the name is the first method that is not compiled, for the
given reason. -/
structure Refused (factory : Factory) (is : Interfaces) (scope : Scope) (place : Nat) (name : String)
    (f : Function) (reason : CompileError) : Prop where
  read : is.fault? place = none
  first : factory.fault? is scope place = some (name, .function f)
  compiled : Method.compile scope (is.nameAt place) (is.findExchange place) factory.registry
    factory.blockTimeout f = .error reason

theorem Refused.unique {name name' : String} {f f' : Function} {reason reason' : CompileError}
    (h : factory.Refused is scope place name f reason) (h' : factory.Refused is scope place name' f' reason') :
    f = f' ∧ reason = reason' := by
  cases h.first.symm.trans h'.first
  exact ⟨rfl, Except.error.inj (h.compiled.symm.trans h'.compiled)⟩

/-- Why there is no dispatcher for an interface. -/
inductive Fails (factory : Factory) (is : Interfaces) (scope : Scope) (place : Nat) : Failure → Prop
  | unreadable {e : Raised} (hread : is.fault? place = some e) : Fails factory is scope place (.raised e)
  | undefinable {name : String} {f : Function} {d : DefinitionError}
      (hrefused : factory.Refused is scope place name f (.definition d)) :
      Fails factory is scope place (.definition (is.nameAt place ++ "." ++ f.name) d)
  | escaped {name : String} {f : Function} {e : Raised}
      (hrefused : factory.Refused is scope place name f (.escaped e)) (he : Escapes scope factory.registry e) :
      Fails factory is scope place (.raised e)
  | nameless {name : String} (hread : is.fault? place = none)
      (hfault : factory.fault? is scope place = some (name, .nameless)) :
      Fails factory is scope place .namelessMember
  | repeated {name : String} (hread : is.fault? place = none)
      (hcompiled : factory.fault? is scope place = none)
      (hcount : 2 ≤ ((is.exchangeMethods place).map fun m => m.2.name?).count (some name)) :
      Fails factory is scope place (.duplicateMethod name)

theorem fails_of_compile (h : (is.compile scope factory.registry factory.blockTimeout place).1 = .error e) :
    factory.Fails is scope place e := by
  rw [Interfaces.compile_fst] at h
  cases hread : is.fault? place with
  | some r =>
      rw [hread] at h
      cases h
      exact .unreadable hread
  | none =>
      rw [hread] at h
      obtain ⟨c, hc, he⟩ := mapM_eq_error_iff.mp h
      rw [List.find?_map, Option.map_eq_some_iff] at hc
      obtain ⟨⟨name, c⟩, hfault, rfl⟩ := hc
      cases c with
      | nameless =>
          cases he
          exact .nameless hread hfault
      | function f =>
          obtain ⟨reason, hreason, rfl⟩ := mapError_eq_error_iff.mp he
          cases reason with
          | definition d => exact .undefinable ⟨hread, hfault, hreason⟩
          | escaped r => exact .escaped ⟨hread, hfault, hreason⟩ (Method.escapes_of_compile hreason)

theorem fails_of_ofMethods {ms : List Method}
    (hms : (is.compile scope factory.registry factory.blockTimeout place).1 = .ok ms)
    (h : Dispatcher.ofMethods ms = .error e) : factory.Fails is scope place e := by
  have hcompiled := Interfaces.forall₂_of_compile hms
  obtain ⟨name, rfl, hcount⟩ := Dispatcher.exists_duplicate_of_ofMethods h
  refine .repeated (Interfaces.compile_eq_ok_iff.mp hms).1 ?_ ?_
  · rw [fault?, List.find?_eq_none]
    intro x hx
    obtain ⟨m, -, hm⟩ := exists_right_of_mem hcompiled hx
    simp [hm, Except.isOk, Except.toBool]
  · have hnames : ((is.exchangeMethods place).map fun m => m.2.name?) = (ms.map Method.name).map some := by
      rw [List.map_map]
      exact map_eq_map_of_forall₂ (hcompiled.imp fun _ _ hm => Interfaces.name?_of_compileMethod hm)
    rwa [hnames, List.count_map_of_injective _ _ (Option.some_injective _)]

theorem fails_of_createDispatcher (h : (factory.createDispatcher is scope place).1 = .error e) :
    factory.Fails is scope place e := by
  rw [createDispatcher_fst] at h
  cases hms : (is.compile scope factory.registry factory.blockTimeout place).1 with
  | error e' =>
      rw [hms] at h
      cases h
      exact fails_of_compile hms
  | ok ms =>
      rw [hms] at h
      exact fails_of_ofMethods hms h

theorem Fails.namesMethod_iff (h : factory.Fails is scope place e) :
    is.NamesMethod place e ↔ ∃ name f d, factory.Refused is scope place name f (.definition d) ∧
      f.name ∈ (is.exchangeMethods place).map Prod.fst := by
  cases h with
  | unreadable hread =>
      constructor
      · rintro ⟨_, _, _, he, -⟩
        cases he
      · rintro ⟨_, _, _, hrefused, -⟩
        cases hread.symm.trans hrefused.read
  | @undefinable name f d hrefused =>
      rw [Interfaces.namesMethod_definition_iff]
      constructor
      · intro hname
        exact ⟨name, f, d, hrefused, hname⟩
      · rintro ⟨name', f', d', hrefused', hname⟩
        rwa [(hrefused.unique hrefused').1]
  | escaped hrefused he =>
      constructor
      · rintro ⟨_, _, _, he, -⟩
        cases he
      · rintro ⟨_, _, _, hrefused', -⟩
        cases (hrefused.unique hrefused').2
  | nameless hread hfault =>
      constructor
      · rintro ⟨_, _, _, he, -⟩
        cases he
      · rintro ⟨_, _, _, hrefused, -⟩
        cases hfault.symm.trans hrefused.first
  | repeated hread hcompiled hcount =>
      constructor
      · rintro ⟨_, _, _, he, -⟩
        cases he
      · rintro ⟨_, _, _, hrefused, -⟩
        cases hcompiled.symm.trans hrefused.first

/-- An error that is none of the compilation: reading a member raises it, or it passes through. -/
def Foreign (factory : Factory) (is : Interfaces) (scope : Scope) (place : Nat) (e : Failure) : Prop :=
  ∃ r, e = .raised r ∧ (is.fault? place = some r ∨ Escapes scope factory.registry r)

/-- Where every public method stands under the name of its function, the failure names one of them, unless it is
a foreign error. -/
theorem Fails.namesMethod (h : factory.Fails is scope place e)
    (hown : ∀ m ∈ is.exchangeMethods place, m.2.name? = some m.1) :
    is.NamesMethod place e ∨ factory.Foreign is scope place e := by
  rw [h.namesMethod_iff]
  cases h with
  | unreadable hread => exact .inr ⟨_, rfl, .inl hread⟩
  | @undefinable name f d hrefused =>
      have hmem := List.mem_of_find?_eq_some hrefused.first
      have hname : f.name = name := Option.some.inj (hown _ hmem)
      exact .inl ⟨name, f, d, hrefused, hname ▸ List.mem_map_of_mem hmem⟩
  | escaped hrefused he => exact .inr ⟨_, rfl, .inr he⟩
  | nameless hread hfault => cases hown _ (List.mem_of_find?_eq_some hfault)
  | @repeated name hread hcompiled hcount =>
      have hnames : ((is.exchangeMethods place).map fun m => m.2.name?) =
          ((is.exchangeMethods place).map Prod.fst).map some := by
        rw [List.map_map]
        exact List.map_congr_left hown
      rw [hnames, List.count_map_of_injective _ _ (Option.some_injective _)] at hcount
      have hle := List.nodup_iff_count_le_one.mp (is.nodup_names_exchangeMethods place) name
      omega

end Factory

end HttpContract
