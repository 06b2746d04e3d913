import HttpContract.Proofs.Plan.Choice
import HttpContract.Proofs.Registry.Replacement
import HttpContract.Proofs.Steps
import HttpContract.Method.Basic

/-!
# Errors that pass through compilation

Compilation reports what is wrong with a method. Two kinds of errors it does not expect: what evaluating the
text of a hint raises, apart from a few classes, and an index before the first type argument of a container.
-/

namespace HttpContract

variable {scope : Scope} {registry : Registry} {e : Raised}

/-! ## Evaluated texts -/

namespace Scope

/-- Evaluating some text raises the error. -/
def Raises (scope : Scope) (e : Raised) : Prop := ∃ text, scope.raises? text = some e

theorem follow_ne_raised {h : Hint} {path : List String} : scope.follow h path ≠ .error (.raised e) := by
  induction path generalizing h with
  | nil => nofun
  | cons name rest ih =>
      cases h with
      | cls c =>
          simp only [follow]
          split
          · exact ih
          · nofun
      | _ => nofun

theorem raises_of_lookUp {name : String} (h : scope.lookUp name = .error (.raised e)) : scope.Raises e := by
  unfold lookUp at h
  cases hraises : scope.raises? name with
  | some e' =>
      rw [hraises] at h
      cases h
      exact ⟨name, hraises⟩
  | none =>
      rw [hraises] at h
      split at h
      · contradiction
      · cases h
      · split at h
        · cases h
        · exact absurd (map_eq_error_iff.mp h) follow_ne_raised

mutual

theorem raises_of_resolve {h : Hint} (herror : scope.resolve h = .error (.raised e)) : scope.Raises e := by
  match h with
  | .forward name => exact raises_of_lookUp herror
  | .generic c args =>
      obtain hargs | ⟨_, _, hend⟩ := bind_eq_error_iff.mp herror
      · exact raises_of_resolveAll hargs
      · cases hend
  | .union barred ms =>
      obtain hms | ⟨_, _, hend⟩ := bind_eq_error_iff.mp herror
      · exact raises_of_resolveAll hms
      · cases hend
  | .annotated inner ms =>
      obtain hinner | ⟨_, _, hend⟩ := bind_eq_error_iff.mp herror
      · exact raises_of_resolve hinner
      · cases hend
  | .callable none result =>
      obtain hresult | ⟨_, _, hend⟩ := bind_eq_error_iff.mp herror
      · exact raises_of_resolve hresult
      · cases hend
  | .callable (some params) result =>
      obtain hparams | ⟨_, _, hrest⟩ := bind_eq_error_iff.mp herror
      · exact raises_of_resolveAll hparams
      · obtain hresult | ⟨_, _, hend⟩ := bind_eq_error_iff.mp hrest
        · exact raises_of_resolve hresult
        · cases hend
  | .nothing | .ellipsis | .typeVar _ | .cls _ | .form _ | .literal _ | .sequence _ | .value _ => cases herror

theorem raises_of_resolveAll {hs : List Hint} (herror : scope.resolveAll hs = .error (.raised e)) :
    scope.Raises e := by
  match hs with
  | [] => cases herror
  | h :: hs =>
      obtain hfirst | ⟨_, _, hrest⟩ := bind_eq_error_iff.mp herror
      · exact raises_of_resolve hfirst
      · obtain hrest | ⟨_, _, hend⟩ := bind_eq_error_iff.mp hrest
        · exact raises_of_resolveAll hrest
        · cases hend

end

theorem raises_of_resolveDeclared {h : Hint} (herror : scope.resolveDeclared h = .error (.raised e)) :
    scope.Raises e :=
  raises_of_resolve (map_eq_error_iff.mp herror)

end Scope

/-! ## Compilation -/

/-- An error that compilation does not expect, with what it comes from. -/
inductive Escapes (scope : Scope) (registry : Registry) : Raised → Prop
  | hint {e : Raised} (hraises : scope.Raises e) (hexpected : CompileError.expected.any e.isA = false)
      (hdefinition : e.isA Raised.definition = false) : Escapes scope registry e
  | index {a : Adapter} (ha : a ∈ registry.adapters) (hbefore : a.valueArg < 0) :
      Escapes scope registry Plan.Error.outOfRange

theorem escapes_ofScope {se : ScopeError} (h : CompileError.ofScope se = .escaped e)
    (hraises : ∀ e', se = .raised e' → scope.Raises e') : Escapes scope registry e := by
  cases se with
  | raised e' =>
      simp only [CompileError.ofScope] at h
      split at h
      · cases h
      · split at h
        · cases h
        · rename_i hexpected hdefinition
          cases h
          exact .hint (hraises e rfl) (by simpa using hexpected) (by simpa using hdefinition)
  | _ => cases h

namespace Method

theorem raises_of_resolveFormals {formals : List Formal}
    (h : resolveFormals scope formals = .error (.raised e)) : scope.Raises e := by
  induction formals with
  | nil => cases h
  | cons f fs ih =>
      rw [resolveFormals] at h
      split at h
      · exact ih (map_eq_error_iff.mp h)
      · obtain hfirst | ⟨_, _, hrest⟩ := bind_eq_error_iff.mp h
        · exact Scope.raises_of_resolveDeclared hfirst
        · obtain hrest | ⟨_, _, hend⟩ := bind_eq_error_iff.mp hrest
          · exact ih hrest
          · cases hend

theorem raises_of_resolveResult {hint : Option Hint}
    (h : resolveResult scope hint = .error (.raised e)) : scope.Raises e := by
  cases hint with
  | none => cases h
  | some _ => exact Scope.raises_of_resolveDeclared h

end Method

namespace Registry

theorem mem_of_findOrigin? {h : Hint} {a : Adapter} (hfind : registry.findOrigin? h = some a) :
    a ∈ registry.adapters := by
  obtain ⟨c, -, hfound⟩ := Option.bind_eq_some_iff.mp hfind
  exact mem_of_find? hfound

end Registry

theorem Hint.neg_of_typeArg? {h : Hint} {i : Int} (hnone : h.typeArg? i = none) : i < 0 := by
  by_contra hi
  simp only [typeArg?, if_neg hi, reduceCtorEq] at hnone

namespace Plan

variable {result : Hint} {limit : Value}

theorem choose_ne_noTypeArg {returnAdapter : Option Adapter} {actual : Hint} :
    choose registry returnAdapter actual ≠ .error .noTypeArg := by
  intro h
  cases choose_eq_iff_chosen.mp h with
  | entity _ _ hentity => cases hentity

/-- There is nothing before the first type argument, and only a negative place asks for that. -/
theorem exists_of_compile_noTypeArg (h : compile result registry limit = .error .noTypeArg) :
    ∃ a ∈ registry.adapters, a.valueArg < 0 := by
  rw [compile_eq] at h
  obtain hactual | ⟨_, -, hchoice⟩ := bind_eq_error_iff.mp h
  · unfold actualHint at hactual
    split at hactual
    · rename_i a hfind
      split at hactual
      · cases hactual
      · rename_i hnone
        exact ⟨a, Registry.mem_of_findOrigin? hfind, Hint.neg_of_typeArg? hnone⟩
    · cases hactual
  · exact absurd (map_eq_error_iff.mp hchoice) choose_ne_noTypeArg

end Plan

namespace Method

theorem escapes_of_compile {service : String} {type : Option Exchange} {limit : Value} {f : Function}
    (h : compile scope service type registry limit f = .error (.escaped e)) : Escapes scope registry e := by
  -- the stages in their order; what is missing, variadic or no template is an error of the definition
  unfold compile at h
  split at h
  · cases h
  · obtain hformals | ⟨_, -, h⟩ := bind_eq_error_iff.mp h
    · obtain ⟨se, hse, hscope⟩ := mapError_eq_error_iff.mp hformals
      exact escapes_ofScope hscope fun e' he => raises_of_resolveFormals (he ▸ hse)
    · obtain hresult | ⟨_, -, h⟩ := bind_eq_error_iff.mp h
      · obtain ⟨se, hse, hscope⟩ := mapError_eq_error_iff.mp hresult
        exact escapes_ofScope hscope fun e' he => raises_of_resolveResult (he ▸ hse)
      · simp only at h
        split at h
        · cases h
        · obtain htemplate | ⟨_, -, h⟩ := bind_eq_error_iff.mp h
          · obtain ⟨_, -, hend⟩ := mapError_eq_error_iff.mp htemplate
            cases hend
          · obtain hplan | ⟨_, -, hend⟩ := bind_eq_error_iff.mp h
            · obtain ⟨pe, hpe, hescaped⟩ := mapError_eq_error_iff.mp hplan
              cases pe with
              | singleValueBody container => cases hescaped
              | noTypeArg =>
                  cases hescaped
                  obtain ⟨a, ha, hbefore⟩ := Plan.exists_of_compile_noTypeArg hpe
                  exact .index ha hbefore
            · cases hend

end Method

end HttpContract
