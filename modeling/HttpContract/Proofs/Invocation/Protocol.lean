import HttpContract.Proofs.Invocation.Trace
import HttpContract.Proofs.Template.Fresh

/-!
# The protocol of a call

`Conducted` says how a call goes: a wrong count of arguments asks nothing of anyone; otherwise the offers
are made in order up to the first that is refused, and the transport is asked once when none is.
-/

namespace HttpContract

variable {σ π : Type}

namespace Offer

def make (o : Offer σ) (r : Request) (w : σ) : Except Failure Unit × Request × σ :=
  o.resolver.resolve o.argument o.parameter r w

theorem make_traced (o : Offer σ) (r : Request) (w : σ) (contacts : List (Contact σ)) :
    o.traced.make r ⟨w, contacts⟩ =
      ((o.make r w).1, (o.make r w).2.1, ⟨(o.make r w).2.2, contacts ++ [.offer o]⟩) := rfl

end Offer

namespace Method

/-! ## Offers in order -/

/-- Each parameter is offered with its argument, in the order of the parameters, to one resolver after the
other. -/
structure InOrder (parameters : List Parameter) (arguments : List Value)
    (resolvers : List (Resolver σ)) (os : List (Offer σ)) : Prop where
  length : os.length = parameters.length * resolvers.length
  offered : ∀ (i j : Nat) (p : Parameter) (v : Value) (s : Resolver σ),
    parameters[i]? = some p → arguments[i]? = some v → resolvers[j]? = some s →
      os[i * resolvers.length + j]? = some ⟨p, v, s⟩

/-- The offers of one argument come before those of the arguments after it. -/
theorem InOrder.cons {p : Parameter} {ps : List Parameter} {v : Value} {vs : List Value}
    {resolvers : List (Resolver σ)} {os : List (Offer σ)} (h : InOrder ps vs resolvers os) :
    InOrder (p :: ps) (v :: vs) resolvers ((resolvers.map fun s => ⟨p, v, s⟩) ++ os) where
  length := by
    rw [List.length_append, List.length_map, h.length, List.length_cons, Nat.succ_mul, Nat.add_comm]
  offered i j q u s hp hv hs := by
    cases i with
    | zero =>
        have hj : j < resolvers.length := (List.getElem?_eq_some_iff.mp hs).1
        simp only [List.getElem?_cons_zero, Option.some.injEq] at hp hv
        subst hp hv
        rw [Nat.zero_mul, Nat.zero_add, List.getElem?_append_left (by simpa using hj),
          List.getElem?_map, hs]
        rfl
    | succ i =>
        have hindex : (i + 1) * resolvers.length + j = resolvers.length + (i * resolvers.length + j) := by
          rw [Nat.succ_mul]
          omega
        rw [hindex, List.getElem?_append_right (by simp), List.length_map, Nat.add_sub_cancel_left]
        exact h.offered i j q u s hp hv hs

theorem inOrder_flatMap {parameters : List Parameter} {arguments : List Value}
    (hcount : arguments.length = parameters.length) (resolvers : List (Resolver σ)) :
    InOrder parameters arguments resolvers
      ((parameters.zip arguments).flatMap fun x => resolvers.map fun s => ⟨x.1, x.2, s⟩) := by
  induction parameters generalizing arguments with
  | nil => exact ⟨by simp, by simp⟩
  | cons p ps ih =>
      cases arguments with
      | nil => simp at hcount
      | cons v vs => exact (ih (Nat.succ.inj hcount)).cons

theorem inOrder_offers {m : Method} {arguments : List Value}
    (hcount : arguments.length = m.parameters.length) (resolvers : List (Resolver σ)) :
    InOrder m.parameters arguments resolvers (m.offers resolvers arguments) :=
  inOrder_flatMap hcount resolvers

theorem offers_traced (m : Method) (resolvers : List (Resolver σ)) (arguments : List Value) :
    m.offers (resolvers.map Resolver.traced) arguments =
      (m.offers resolvers arguments).map Offer.traced := by
  simp [offers, List.map_flatMap, Function.comp_def, Offer.traced]

/-! ## Making offers -/

/-- Offers made one after the other, none of them refused, from a request and a world to another. -/
inductive Accepted : List (Offer σ) → Request → σ → Request → σ → Prop where
  | nil {r : Request} {w : σ} : Accepted [] r w r w
  | cons {o : Offer σ} {rest : List (Offer σ)} {r r₁ r₂ : Request} {w w₁ w₂ : σ}
      (ho : o.make r w = (.ok (), r₁, w₁)) (hrest : Accepted rest r₁ w₁ r₂ w₂) :
      Accepted (o :: rest) r w r₂ w₂

section Making

variable {os accepted left : List (Offer σ)} {o : Offer σ} {r r₁ r' : Request} {w w₁ w' : σ}
  {e : Failure}

theorem resolveAll_cons (o : Offer σ) (rest : List (Offer σ)) (r : Request) (w : σ) :
    resolveAll (o :: rest) r w =
      match o.make r w with
      | (.ok (), r, w) => resolveAll rest r w
      | (.error e, r, w) => (.error e, r, w) := rfl

theorem Accepted.resolveAll_append (h : Accepted accepted r w r₁ w₁) (left : List (Offer σ)) :
    resolveAll (accepted ++ left) r w = resolveAll left r₁ w₁ := by
  induction h with
  | nil => rfl
  | cons ho _ ih =>
      rw [List.cons_append, resolveAll_cons, ho]
      exact ih

theorem Accepted.resolveAll_eq (h : Accepted os r w r' w') : resolveAll os r w = (.ok (), r', w') := by
  have happend := h.resolveAll_append []
  rwa [List.append_nil] at happend

theorem Accepted.resolveAll_refused (h : Accepted accepted r w r₁ w₁)
    (ho : o.make r₁ w₁ = (.error e, r', w')) (left : List (Offer σ)) :
    resolveAll (accepted ++ o :: left) r w = (.error e, r', w') := by
  rw [h.resolveAll_append, resolveAll_cons, ho]

/-- Either no offer is refused, or there is a first one that is. -/
theorem accepted_or_refused (os : List (Offer σ)) (r : Request) (w : σ) :
    (∃ r' w', Accepted os r w r' w') ∨
      ∃ accepted o left r₁ w₁ e r' w', os = accepted ++ o :: left ∧ Accepted accepted r w r₁ w₁ ∧
        o.make r₁ w₁ = (.error e, r', w') := by
  induction os generalizing r w with
  | nil => exact .inl ⟨r, w, .nil⟩
  | cons o rest ih =>
      rcases ho : o.make r w with ⟨answer, r₁, w₁⟩
      cases answer with
      | error e => exact .inr ⟨[], o, rest, r, w, e, r₁, w₁, rfl, .nil, ho⟩
      | ok u =>
          rcases ih r₁ w₁ with ⟨r', w', hrest⟩ | ⟨accepted, o', left, r₂, w₂, e, r', w', rfl, hacc, ho'⟩
          · exact .inl ⟨r', w', .cons ho hrest⟩
          · exact .inr ⟨o :: accepted, o', left, r₂, w₂, e, r', w', rfl, .cons ho hacc, ho'⟩

theorem Accepted.traced (h : Accepted os r w r' w') (contacts : List (Contact σ)) :
    Accepted (os.map Offer.traced) r ⟨w, contacts⟩ r' ⟨w', contacts ++ os.map .offer⟩ := by
  induction h generalizing contacts with
  | nil =>
      rw [List.map_nil, List.map_nil, List.append_nil]
      exact .nil
  | @cons o rest r r₁ r₂ w w₁ w₂ ho _ ih =>
      have hmake : o.traced.make r ⟨w, contacts⟩ = (.ok (), r₁, ⟨w₁, contacts ++ [.offer o]⟩) := by
        rw [Offer.make_traced, ho]
      rw [List.map_cons, List.map_cons, List.append_cons]
      exact .cons hmake (ih (contacts ++ [.offer o]))

end Making

/-! ## The call -/

section Calling

variable {m : Method} {resolvers : List (Resolver σ)} {arguments : List Value} {c : Context σ}
  {accepted left : List (Offer σ)} {o : Offer σ} {r r' : Request} {w w' : σ} {e : Failure}

theorem invoke_of_miscounted (t : Transport σ π) (resolvers : List (Resolver σ)) (c : Context σ)
    (hcount : arguments.length ≠ m.parameters.length) :
    invoke t resolvers m arguments c =
      ({ result := .error (.argumentCount m.qualname m.parameters.length arguments.length) }, c) :=
  if_pos hcount

theorem invoke_of_refused (t : Transport σ π) (hcount : arguments.length = m.parameters.length)
    (hos : m.offers resolvers arguments = accepted ++ o :: left)
    (h : Accepted accepted m.template.fresh c.world r w) (ho : o.make r w = (.error e, r', w')) :
    invoke t resolvers m arguments c =
      ({ result := .error e, request := some r' },
        { c.note (m.invokeRecord arguments) with world := w' }) := by
  have hprepare : m.prepare resolvers arguments c.world = (.error e, r', w') := by
    simp only [prepare, Template.newRequest_eq, hos, h.resolveAll_refused ho]
  have hworld : (c.note (m.invokeRecord arguments)).world = c.world := rfl
  rw [invoke, if_neg (not_not_intro hcount)]
  simp only [hworld, hprepare]

theorem invoke_of_accepted (t : Transport σ π) (hcount : arguments.length = m.parameters.length)
    (h : Accepted (m.offers resolvers arguments) m.template.fresh c.world r w) :
    invoke t resolvers m arguments c =
      let performed :=
        m.plan.execute t m.qualname r.finish { c.note (m.invokeRecord arguments) with world := w }
      ({ result := performed.1, request := some r.finish }, performed.2) := by
  have hprepare : m.prepare resolvers arguments c.world = (.ok (), r.finish, w) := by
    simp only [prepare, Template.newRequest_eq, h.resolveAll_eq]
  have hworld : (c.note (m.invokeRecord arguments)).world = c.world := rfl
  rw [invoke, if_neg (not_not_intro hcount)]
  simp only [hworld, hprepare]

theorem invoke_traced_of_refused (t : Transport σ π)
    (hcount : arguments.length = m.parameters.length)
    (hos : m.offers resolvers arguments = accepted ++ o :: left)
    (h : Accepted accepted m.template.fresh c.world r w) (ho : o.make r w = (.error e, r', w')) :
    invoke t.traced (resolvers.map Resolver.traced) m arguments (c.traced []) =
      ((invoke t resolvers m arguments c).1,
        (invoke t resolvers m arguments c).2.traced ((accepted ++ [o]).map .offer)) := by
  have hos' : m.offers (resolvers.map Resolver.traced) arguments =
      accepted.map Offer.traced ++ o.traced :: left.map Offer.traced := by
    rw [offers_traced, hos, List.map_append, List.map_cons]
  have ho' : o.traced.make r ⟨w, [] ++ accepted.map .offer⟩ =
      (.error e, r', ⟨w', (accepted ++ [o]).map .offer⟩) := by
    rw [Offer.make_traced, ho, List.nil_append, List.map_append, List.map_singleton]
  rw [invoke_of_refused t.traced hcount hos' (h.traced []) ho', invoke_of_refused t hcount hos h ho]
  rfl

theorem invoke_traced_of_accepted (t : Transport σ π)
    (hcount : arguments.length = m.parameters.length)
    (h : Accepted (m.offers resolvers arguments) m.template.fresh c.world r w) :
    invoke t.traced (resolvers.map Resolver.traced) m arguments (c.traced []) =
      ((invoke t resolvers m arguments c).1,
        (invoke t resolvers m arguments c).2.traced
          ((m.offers resolvers arguments).map .offer ++
            [.call m.plan.operation m.plan.toldType r.finish])) := by
  have h' : Accepted (m.offers (resolvers.map Resolver.traced) arguments) m.template.fresh
      (c.traced []).world r ⟨w, (m.offers resolvers arguments).map .offer⟩ := by
    rw [offers_traced]
    exact h.traced []
  have hperformed := Plan.execute_traced t m.plan m.qualname r.finish
    { c.note (m.invokeRecord arguments) with world := w }
    ((m.offers resolvers arguments).map .offer)
  rw [invoke_of_accepted t.traced hcount h', invoke_of_accepted t hcount h]
  exact congrArg (fun x => (({ result := x.1, request := some r.finish } : Call π), x.2)) hperformed

end Calling

/-! ## The protocol -/

/-- How a call goes: what it leaves, and what it asked of its collaborators in order. -/
inductive Conducted (t : Transport σ π) (resolvers : List (Resolver σ)) (m : Method)
    (arguments : List Value) (c : Context σ) :
    Call π × Context σ → List (Contact σ) → Prop where
  /-- Nobody is asked anything. -/
  | miscounted (hcount : arguments.length ≠ m.parameters.length) :
      Conducted t resolvers m arguments c
        ({ result := .error (.argumentCount m.qualname m.parameters.length arguments.length) }, c) []
  /-- The first refusal ends the call, and the transport is not asked. -/
  | refused {os accepted left : List (Offer σ)} {o : Offer σ} {r r' : Request} {w w' : σ}
      {e : Failure} (hcount : arguments.length = m.parameters.length)
      (horder : InOrder m.parameters arguments resolvers os) (hos : os = accepted ++ o :: left)
      (haccepted : Accepted accepted m.template.fresh c.world r w)
      (ho : o.make r w = (.error e, r', w')) :
      Conducted t resolvers m arguments c
        ({ result := .error e, request := some r' },
          { c.note (m.invokeRecord arguments) with world := w' })
        ((accepted ++ [o]).map .offer)
  /-- The request that no resolver refused is completed, and the transport is asked for the plan's
  operation with it. -/
  | performed {os : List (Offer σ)} {r : Request} {w : σ} {result : Except Failure (Result π)}
      {c' : Context σ} (hcount : arguments.length = m.parameters.length)
      (horder : InOrder m.parameters arguments resolvers os)
      (haccepted : Accepted os m.template.fresh c.world r w)
      (hresult : m.plan.execute t m.qualname { r with complete := true }
        { c.note (m.invokeRecord arguments) with world := w } = (result, c')) :
      Conducted t resolvers m arguments c
        ({ result, request := some { r with complete := true } }, c')
        (os.map .offer ++ [.call m.plan.operation m.plan.toldType { r with complete := true }])

/-- No fresh request is refused, every call follows the protocol, and tracing it changes nothing else. -/
theorem invoke_conducted (t : Transport σ π) (resolvers : List (Resolver σ)) (m : Method)
    (arguments : List Value) (c : Context σ) :
    m.template.newRequest = (.ok (), m.template.fresh) ∧
      ∃ contacts,
        invoke t.traced (resolvers.map Resolver.traced) m arguments (c.traced []) =
          ((invoke t resolvers m arguments c).1,
            (invoke t resolvers m arguments c).2.traced contacts) ∧
        Conducted t resolvers m arguments c (invoke t resolvers m arguments c) contacts := by
  refine ⟨Template.newRequest_eq m.template, ?_⟩
  by_cases hcount : arguments.length = m.parameters.length
  · have horder := inOrder_offers hcount resolvers
    rcases accepted_or_refused (m.offers resolvers arguments) m.template.fresh c.world with
      ⟨r, w, haccepted⟩ | ⟨accepted, o, left, r, w, e, r', w', hos, haccepted, ho⟩
    · refine ⟨_, invoke_traced_of_accepted t hcount haccepted, ?_⟩
      rw [invoke_of_accepted t hcount haccepted]
      exact .performed hcount horder haccepted rfl
    · refine ⟨_, invoke_traced_of_refused t hcount hos haccepted ho, ?_⟩
      rw [invoke_of_refused t hcount hos haccepted ho]
      exact .refused hcount horder hos haccepted ho
  · refine ⟨[], ?_, ?_⟩
    · rw [invoke_of_miscounted t resolvers c hcount, invoke_of_miscounted t.traced _ _ hcount]
    · rw [invoke_of_miscounted t resolvers c hcount]
      exact .miscounted hcount

end Method

end HttpContract
