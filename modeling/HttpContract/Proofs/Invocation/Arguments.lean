import HttpContract.Proofs.Invocation.Binding
import HttpContract.Proofs.Service.Naming

/-!
# Arguments of calls

A call of a compiled method binds its arguments exactly when they fit the parameters of its function, the
receiver left out. Otherwise it ends there, before a resolver or the transport is asked anything.
-/

namespace HttpContract

/-! ## Parameters of a compiled method -/

def FormalKind.rank : FormalKind → Nat
  | named kind => kind.rank
  | variadic => 2
  | variadicNamed => 4

/-- Formal parameters as a function can have them: with different names, ordered by their kinds. -/
structure Function.Signature (formals : List Formal) : Prop where
  names : (formals.map Formal.name).Nodup
  kinds : formals.Pairwise fun f g => f.kind.rank ≤ g.kind.rank

namespace Method

variable {m : Method} {f : Function} {scope : Scope} {service : String} {type : Option Exchange}
  {registry : Registry} {limit : Value}

/-- The parameter is what is compiled of the formal one. -/
structure Declares (formal : Formal) (p : Parameter) : Prop where
  name : p.name = formal.name
  kind : formal.kind = .named p.kind
  default : p.default = formal.default

/-- The formal parameter without its hint. -/
def bare (formal : Formal) : Formal := { formal with hint := none }

theorem map_bare_of_resolveFormals {formals resolved : List Formal}
    (h : resolveFormals scope formals = .ok resolved) : resolved.map bare = formals.map bare := by
  induction formals generalizing resolved with
  | nil =>
      cases h
      rfl
  | cons f formals ih =>
      rw [resolveFormals] at h
      split at h
      · cases hrest : resolveFormals scope formals with
        | error e =>
            rw [hrest] at h
            cases h
        | ok rest =>
            rw [hrest] at h
            cases h
            exact congrArg (bare f :: ·) (ih hrest)
      · obtain ⟨hint, -, h⟩ := exists_of_bind_eq_ok h
        obtain ⟨rest, hrest, h⟩ := exists_of_bind_eq_ok h
        cases h
        exact congrArg (bare f :: ·) (ih hrest)

theorem map_bare_callerFormals (formals : List Formal) :
    (callerFormals formals).map bare = callerFormals (formals.map bare) := by
  rw [callerFormals, callerFormals, List.filter_map]
  rfl

/-- Hints have no part in what a parameter declares. -/
theorem forall₂_declares_bare {formals : List Formal} {ps : List Parameter} :
    List.Forall₂ Declares (formals.map bare) ps ↔ List.Forall₂ Declares formals ps := by
  rw [List.forall₂_map_left_iff]
  exact ⟨fun h => h.imp fun _ _ hd => ⟨hd.name, hd.kind, hd.default⟩,
    fun h => h.imp fun _ _ hd => ⟨hd.name, hd.kind, hd.default⟩⟩

theorem forall₂_parametersFrom {methodName : String} {index : Nat} {formals : List Formal}
    (h : (parametersFrom methodName index formals).2 = []) :
    List.Forall₂ Declares formals (parametersFrom methodName index formals).1 := by
  induction formals generalizing index with
  | nil => exact .nil
  | cons f formals ih =>
      simp only [parametersFrom] at h ⊢
      cases hkind : f.kind with
      | named kind =>
          simp only [hkind] at h ⊢
          exact .cons ⟨rfl, hkind, rfl⟩ (ih h)
      | variadic => simp [hkind] at h
      | variadicNamed => simp [hkind] at h

theorem forall₂_of_compile (h : compile scope service type registry limit f = .ok m) :
    List.Forall₂ Declares (callerFormals f.formals) m.parameters := by
  unfold compile at h
  split at h
  · cases h
  · obtain ⟨formals, hformals, h⟩ := exists_of_bind_eq_ok h
    obtain ⟨result, -, h⟩ := exists_of_bind_eq_ok h
    simp only at h
    split at h
    · cases h
    · rename_i hvariadic
      obtain ⟨template, -, h⟩ := exists_of_bind_eq_ok h
      obtain ⟨plan, -, h⟩ := exists_of_bind_eq_ok h
      cases h
      have hbare := map_bare_of_resolveFormals (exists_of_mapError_eq_ok hformals)
      have hparameters := forall₂_parametersFrom (List.isEmpty_iff.mp (by simpa using hvariadic))
      rw [← forall₂_declares_bare, map_bare_callerFormals, hbare, ← map_bare_callerFormals,
        forall₂_declares_bare] at hparameters
      exact hparameters

theorem signature_of_compile (hf : Function.Signature f.formals)
    (h : compile scope service type registry limit f = .ok m) : Binding.Signature m.parameters := by
  have hdeclares := forall₂_of_compile h
  have hcaller : (callerFormals f.formals).Sublist f.formals := List.filter_sublist
  have hnames : (callerFormals f.formals).map Formal.name = m.parameters.map Parameter.name :=
    map_eq_map_of_forall₂ (hdeclares.imp fun _ _ hd => hd.name.symm)
  have hranks : (callerFormals f.formals).map (fun x => x.kind.rank) =
      m.parameters.map fun p => p.kind.rank :=
    map_eq_map_of_forall₂ (hdeclares.imp fun _ _ hd => congrArg FormalKind.rank hd.kind)
  constructor
  · rw [← hnames]
    exact hf.names.sublist (hcaller.map _)
  · have hkinds := hf.kinds.sublist hcaller
    rw [← List.pairwise_map (R := (· ≤ ·))] at hkinds ⊢
    rwa [← hranks]

end Method

/-! ## Calls -/

/-- An attribute that stands for a method binds the arguments of a call to it. -/
theorem Client.call_of_method {σ π : Type} {client : Client} {name : String} {m : Method}
    (h : client.method name = .ok m) (t : Transport σ π) (resolvers : List (Resolver σ))
    (positional : List Value) (named : Assoc String Value) (c : Context σ) :
    client.call t resolvers name positional named c =
      match m.bindArguments positional named with
      | .error e => ({ result := .error e }, c)
      | .ok arguments => m.invoke t resolvers arguments c := by
  cases hpublic : Interfaces.isPublic name with
  | true =>
      have hcall : client.call t resolvers name positional named c = _ :=
        call_of_isPublic hpublic t resolvers positional named c
      rw [h] at hcall
      exact hcall
  | false =>
      rw [method, hpublic] at h
      cases h

namespace Method

variable {m : Method} {f : Function} {scope : Scope} {service : String} {type : Option Exchange}
  {registry : Registry} {limit : Value} {positional arguments : List Value} {named : Assoc String Value}

/-- Past the count of the arguments a request is built. -/
theorem isSome_request_of_invoke {σ π : Type} (t : Transport σ π) (resolvers : List (Resolver σ))
    (c : Context σ) (hcount : arguments.length = m.parameters.length) :
    (m.invoke t resolvers arguments c).1.request.isSome = true := by
  rw [invoke, if_neg (not_not_intro hcount)]
  simp only
  split
  · rfl
  · rfl

/-- What becomes of the arguments of a call of a method. Bound arguments are handed on, and their count is that
of the parameters, so that a request is built; arguments that do not fit end the call before anybody else is
asked. -/
structure BindsCalls (m : Method) (positional : List Value) (named : Assoc String Value) : Prop where
  ok_iff : (∃ vs, m.bindArguments positional named = .ok vs) ↔ Binding.Fits m.parameters positional named
  fills : ∀ vs, m.bindArguments positional named = .ok vs →
    Binding.Fills m.parameters positional named vs
  invoked : ∀ vs, m.bindArguments positional named = .ok vs → ∀ {σ π : Type} (t : Transport σ π)
    (resolvers : List (Resolver σ)) (client : Client) (name : String) (c : Context σ),
    client.method name = .ok m →
      client.call t resolvers name positional named c = m.invoke t resolvers vs c ∧
        (client.call t resolvers name positional named c).1.request.isSome = true
  refused : ¬ Binding.Fits m.parameters positional named →
    ∃ e, m.bindArguments positional named = .error (.binding m.qualname e) ∧
      ∀ {σ π : Type} (t : Transport σ π) (resolvers : List (Resolver σ)) (client : Client) (name : String)
        (c : Context σ), client.method name = .ok m →
          client.call t resolvers name positional named c =
            ({ result := .error (.binding m.qualname e) }, c)

theorem bindsCalls_of_signature (hsig : Binding.Signature m.parameters) (positional : List Value)
    (named : Assoc String Value) : m.BindsCalls positional named := by
  have hbinds := Binding.binds_bind hsig positional named
  cases hbind : Binding.bind m.parameters positional named with
  | ok vs =>
      rw [hbind] at hbinds
      obtain ⟨hfits, hfills⟩ := hbinds
      have hbound : m.bindArguments positional named = .ok vs := by
        rw [bindArguments, hbind]
        rfl
      refine ⟨⟨fun _ => hfits, fun _ => ⟨vs, hbound⟩⟩, ?_, ?_, fun h => absurd hfits h⟩
      · intro vs' hvs'
        cases hbound.symm.trans hvs'
        exact hfills
      · intro vs' hvs' σ π t resolvers client name c hclient
        cases hbound.symm.trans hvs'
        have hcall : client.call t resolvers name positional named c = m.invoke t resolvers vs c := by
          rw [Client.call_of_method hclient, hbound]
        refine ⟨hcall, ?_⟩
        rw [hcall]
        exact isSome_request_of_invoke t resolvers c hfills.length
  | error e =>
      rw [hbind] at hbinds
      obtain ⟨hfits⟩ | ⟨hfits⟩ := hbinds
      have hrefused : m.bindArguments positional named = .error (.binding m.qualname e) := by
        rw [bindArguments, hbind]
        rfl
      have hnone : ∀ vs, m.bindArguments positional named ≠ .ok vs := by
        intro vs hvs
        cases hrefused.symm.trans hvs
      refine ⟨⟨fun ⟨vs, hvs⟩ => absurd hvs (hnone vs), fun h => absurd h hfits⟩,
        fun vs hvs => absurd hvs (hnone vs), fun vs hvs => absurd hvs (hnone vs), fun _ => ?_⟩
      refine ⟨e, hrefused, fun t resolvers client name c hclient => ?_⟩
      rw [Client.call_of_method hclient, hrefused]

/-- The parameters of a method that is compiled from a function are the formal ones in their order, the receiver
left out, and the arguments of a call are bound to them exactly when they fit. -/
theorem bindsCalls_of_compile (hf : Function.Signature f.formals)
    (hm : compile scope service type registry limit f = .ok m) (positional : List Value)
    (named : Assoc String Value) :
    List.Forall₂ Declares (callerFormals f.formals) m.parameters ∧ m.BindsCalls positional named :=
  ⟨forall₂_of_compile hm, bindsCalls_of_signature (signature_of_compile hf hm) positional named⟩

theorem bindsCalls_of_compile_mixed :
    let f : Function :=
      { name := "find", home := ⟨0, 0⟩, qualname := "Users.find"
        formals := [{ name := "self", kind := .named .positionalOnly },
          { name := "group", kind := .named .positionalOnly },
          { name := "name", default := some (.str "ann") }, { name := "strict", kind := .named .keywordOnly }]
        declared := .exchange { url := "/users", method := "GET" } }
    let scope : Scope := { find? := fun _ => none, member? := fun _ _ => none }
    Function.Signature f.formals ∧ ∃ m, compile scope "Users" none .default (.int 5) f = .ok m ∧
      m.bindArguments [.int 1] [("strict", .bool true)] = .ok [.int 1, .str "ann", .bool true] ∧
        Binding.Fits m.parameters [.int 1] [("strict", .bool true)] ∧
          ¬ Binding.Fits m.parameters [.int 1, .str "bob"] [("strict", .bool true), ("name", .str "eve")] := by
  intro f scope
  have hf : Function.Signature f.formals := ⟨by decide, by decide⟩
  obtain ⟨m, hm⟩ : ∃ m, compile scope "Users" none .default (.int 5) f = .ok m := ⟨_, rfl⟩
  have hbound : m.bindArguments [.int 1] [("strict", .bool true)] =
      .ok [.int 1, .str "ann", .bool true] := by
    cases hm
    rfl
  have hrefused : m.bindArguments [.int 1, .str "bob"] [("strict", .bool true), ("name", .str "eve")] =
      .error (.binding "Users.find" (.multiple "name")) := by
    cases hm
    rfl
  obtain ⟨-, hbinds⟩ := bindsCalls_of_compile hf hm [.int 1] [("strict", .bool true)]
  obtain ⟨-, hdoubled⟩ :=
    bindsCalls_of_compile hf hm [.int 1, .str "bob"] [("strict", .bool true), ("name", .str "eve")]
  refine ⟨hf, m, hm, hbound, hbinds.ok_iff.mp ⟨_, hbound⟩, fun h => ?_⟩
  obtain ⟨vs, hvs⟩ := hdoubled.ok_iff.mpr h
  cases hrefused.symm.trans hvs

end Method

end HttpContract
