import HttpContract.Proofs.Plan.Container
import HttpContract.Proofs.Plan.Place

/-!
# The two spellings of a union

A union is written with bars or without. Both spellings give the same plan, up to the spelling of the body,
unless the class of barred unions has an adapter: `SpellingsCompile` says what follows then.
-/

namespace HttpContract

/-! ## Spellings -/

namespace Hint

variable {x y : Hint} {hs : List Hint} {barred : Bool}

/-- The second hint is the first one, with no bars if it is a union. -/
inductive Respelled : Hint → Hint → Prop where
  | refl (h : Hint) : Respelled h h
  | union (members : List Hint) : Respelled (.union true members) (.union false members)

theorem unionOf_of_union? (hx : union? barred hs = .ok x) : unionOf barred hs = x := by
  unfold union? at hx
  split at hx
  · cases hx
  · split at hx
    · cases hx
    · exact Except.ok.inj hx

theorem respelled_unionOf (barred : Bool) (hs : List Hint) :
    Respelled (unionOf barred hs) (unionOf false hs) := by
  cases barred with
  | false => exact .refl _
  | true =>
      unfold unionOf
      rcases distinct (hs.flatMap members) with _ | ⟨h, _ | ⟨h', ms⟩⟩
      · exact .union []
      · exact .refl h
      · exact .union (h :: h' :: ms)

theorem respelled_of_union? (hx : union? barred hs = .ok x) (hy : union? false hs = .ok y) :
    Respelled x y := by
  rw [← unionOf_of_union? hx, ← unionOf_of_union? hy]
  exact respelled_unionOf barred hs

theorem optional_union (members : List Hint) :
    (∃ member, (union true members).optional = (member, true) ∧
        (union false members).optional = (member, true)) ∨
      ∀ barred, (union barred members).optional = (union barred members, false) := by
  -- an optional hint has two members, and one of them is the absent value
  rcases members with _ | ⟨a, _ | ⟨b, _ | ⟨c, ms⟩⟩⟩
  · exact .inr fun _ => rfl
  · exact .inr fun _ => rfl
  · cases ha : a.isVoidClass <;> cases hb : b.isVoidClass
    · exact .inr fun _ => by simp only [optional, ha, hb]
    · exact .inl ⟨a, by simp only [optional, ha, hb], by simp only [optional, ha, hb]⟩
    · exact .inl ⟨b, by simp only [optional, ha, hb], by simp only [optional, ha, hb]⟩
    · exact .inr fun _ => by simp only [optional, ha, hb]
  · exact .inr fun _ => rfl

theorem typeArg?_entityOf (i : Int) :
    (∀ body, (entityOf body).typeArg? i = none) ∨ (∀ body, (entityOf body).typeArg? i = some any) ∨
      ∀ body, (entityOf body).typeArg? i = some body.asClass.unwrap := by
  have hargs (body : Hint) : (entityOf body).args = [body.asClass] := rfl
  simp only [typeArg?, hargs, List.length_singleton]
  generalize (if i < 0 then ((1 : Nat) : Int) + i else i) = place
  by_cases hplace : place < 0
  · exact .inl fun _ => if_pos hplace
  · simp only [if_neg hplace]
    cases place.toNat with
    | zero => exact .inr (.inr fun _ => rfl)
    | succ n => exact .inr (.inl fun _ => rfl)

end Hint

namespace Plan

open Hint (Respelled)

variable {registry : Registry} {x y : Hint} {members : List Hint} {blockTimeout : Value} {a : Adapter}

/-! ## Plans up to spelling -/

/-- The results of two compilations differ at most in the spelling of the type of the body. -/
inductive CompilesAlike : Except Error Plan → Except Error Plan → Prop where
  | failed (e : Error) : CompilesAlike (.error e) (.error e)
  | compiled {p : Plan} {bodyType : Hint} (hbody : Respelled p.bodyType bodyType) :
      CompilesAlike (.ok p) (.ok { p with bodyType })

theorem CompilesAlike.refl (x : Except Error Plan) : CompilesAlike x x := by
  cases x with
  | error e => exact .failed e
  | ok p => exact .compiled (.refl p.bodyType)

theorem CompilesAlike.failed_or_compiled {r s : Except Error Plan} (h : CompilesAlike r s) :
    (∃ e, r = .error e ∧ s = .error e) ∨
      ∃ p q, r = .ok p ∧ s = .ok q ∧ CompilesAlike (.ok p) (.ok q) := by
  cases h with
  | failed e => exact .inl ⟨e, rfl, rfl⟩
  | compiled hbody => exact .inr ⟨_, _, rfl, rfl, .compiled hbody⟩

theorem CompilesAlike.operation_eq {p q : Plan} (h : CompilesAlike (.ok p) (.ok q)) :
    p.operation = q.operation := by
  cases h with
  | compiled _ => rfl

theorem CompilesAlike.returnAdapter_eq {p q : Plan} (h : CompilesAlike (.ok p) (.ok q)) :
    p.returnAdapter = q.returnAdapter := by
  cases h with
  | compiled _ => rfl

/-! ## Unions as results -/

theorem choose_union (registry : Registry) (returnAdapter : Option Adapter) (barred : Bool)
    (members : List Hint) :
    choose registry returnAdapter (.union barred members) =
      .ok (if returnAdapter.any (·.noValue) then { operation := .void }
        else
          { operation := if returnAdapter.any (·.multiValue) then .bodyFlux else .body
            bodyType := .union barred members }) := by
  have hown := not_hasOwnOperation_union barred members
  cases hvalue : returnAdapter.any (·.noValue) with
  | true => exact Chosen.eq_choose (.void fun h => Bool.false_ne_true (h.2.symm.trans hvalue))
  | false =>
      exact Chosen.eq_choose (.body ⟨rfl, hvalue⟩ (fun h => hown (.inr (.inl h)))
        fun h => hown (.inr (.inr h)))

theorem compilesAlike_choose_union (registry : Registry) (returnAdapter : Option Adapter) (optional : Bool)
    (members : List Hint) (blockTimeout : Value) :
    CompilesAlike
      ((choose registry returnAdapter (.union true members)).map
        (ofChoice returnAdapter optional blockTimeout))
      ((choose registry returnAdapter (.union false members)).map
        (ofChoice returnAdapter optional blockTimeout)) := by
  rw [choose_union, choose_union]
  cases returnAdapter.any (·.noValue) with
  | true => exact .refl _
  | false => exact .compiled (.union members)

theorem compilesAlike_union (hnone : registry.find? .unionType = none) (members : List Hint)
    (blockTimeout : Value) :
    CompilesAlike (compile (.union true members) registry blockTimeout)
      (compile (.union false members) registry blockTimeout) := by
  have hbarred : registry.findOrigin? (Hint.union true members).unwrap = none := hnone
  have hplain : registry.findOrigin? (Hint.union false members).unwrap = none := rfl
  have hunwrap (barred : Bool) : (Hint.union barred members).unwrap = .union barred members := rfl
  rw [compile_of_no_adapter hbarred, compile_of_no_adapter hplain, hunwrap, hunwrap]
  rcases Hint.optional_union members with ⟨member, htrue, hfalse⟩ | hunion
  · rw [htrue, hfalse]
    exact .refl _
  · rw [hunion, hunion]
    exact compilesAlike_choose_union registry none false members blockTimeout

/-- With an adapter for the class of barred unions, the one spelling has an adapter and the other has none. -/
theorem returnAdapter_of_union {p q : Plan} (hsome : registry.find? .unionType = some a)
    (hp : compile (.union true members) registry blockTimeout = .ok p)
    (hq : compile (.union false members) registry blockTimeout = .ok q) :
    p.returnAdapter = some a ∧ q.returnAdapter = none :=
  ⟨(returnAdapter_of_compile hp).trans hsome, returnAdapter_of_compile hq⟩

/-! ## Unions as bodies -/

theorem chooseEntity_plain_union (registry : Registry) (members : List Hint) :
    chooseEntity registry (.union false members) =
      .ok { operation := .entity, bodyType := .union false members } :=
  EntityChosen.eq_chooseEntity (.whole rfl rfl)

theorem chooseEntity_barred_union (hnone : registry.find? .unionType = none) (members : List Hint) :
    chooseEntity registry (.union true members) =
      .ok { operation := .entity, bodyType := .union true members } :=
  EntityChosen.eq_chooseEntity (.whole rfl hnone)

/-- An adapter for the class of barred unions takes the union for a container. -/
theorem chooseEntity_union_of_some (hsome : registry.find? .unionType = some a) (members : List Hint)
    {c : Choice} (hc : chooseEntity registry (.union true members) = .ok c) : c.operation = .entityFlux := by
  have hchosen := entityChosen_chooseEntity registry (.union true members)
  rw [hc] at hchosen
  cases hchosen with
  | bodiless hbody => cases hbody
  | whole _ hfind => cases hsome.symm.trans hfind
  | streamed _ _ _ => rfl

/-- An entity with an adapter has the union for a value, or leaves it aside. -/
theorem compilesAlike_adapted_entity (hentity : registry.find? .responseEntity = some a)
    (hxy : Respelled x y) (blockTimeout : Value) :
    CompilesAlike (compile (.entityOf x) registry blockTimeout)
      (compile (.entityOf y) registry blockTimeout) := by
  have hfind (body : Hint) : registry.findOrigin? (Hint.entityOf body).unwrap = some a := hentity
  have hunwrap (body : Hint) : (Hint.entityOf body).unwrap = .entityOf body := rfl
  cases hxy with
  | refl _ => exact .refl _
  | union members =>
      have harg (body : Hint) {value : Option Hint} (h : (Hint.entityOf body).typeArg? a.valueArg = value) :
          (Hint.entityOf body).unwrap.typeArg? a.valueArg = value := by
        rw [hunwrap, h]
      rcases Hint.typeArg?_entityOf a.valueArg with hnone | hany | hbody
      · rw [compile_of_no_typeArg (hfind _) (harg _ (hnone _)),
          compile_of_no_typeArg (hfind _) (harg _ (hnone _))]
        exact .refl _
      · rw [compile_of_adapter (hfind _) (harg _ (hany _)), compile_of_adapter (hfind _) (harg _ (hany _))]
        exact .refl _
      · rw [compile_of_adapter (hfind _) (harg _ (hbody _)), compile_of_adapter (hfind _) (harg _ (hbody _))]
        exact compilesAlike_choose_union registry (some a) false members blockTimeout

theorem compilesAlike_entity_iff {place : Option Adapter} {result result' : Hint}
    (hentity : LeavesEntities registry place) (hxy : Respelled x y)
    (hresult : Declares registry (.entityOf x) place result)
    (hresult' : Declares registry (.entityOf y) place result') (blockTimeout : Value) :
    CompilesAlike (compile result registry blockTimeout) (compile result' registry blockTimeout) ↔
      x = y ∨ registry.find? .unionType = none ∨ place.any (·.noValue) = true := by
  rw [compile_of_declares_entity hentity hresult, compile_of_declares_entity hentity hresult',
    choose_entityOf, choose_entityOf]
  cases hxy with
  | refl _ => exact iff_of_true (.refl _) (.inl rfl)
  | union members =>
      have hbody (barred : Bool) : (Hint.union barred members).asClass.unwrap = .union barred members := rfl
      rw [hbody, hbody]
      cases hvalue : place.any (·.noValue) with
      | true => exact iff_of_true (.refl _) (.inr (.inr rfl))
      | false =>
          rw [if_neg Bool.false_ne_true, if_neg Bool.false_ne_true, chooseEntity_plain_union]
          cases hfind : registry.find? .unionType with
          | none =>
              rw [chooseEntity_barred_union hfind]
              exact iff_of_true (.compiled (.union members)) (.inr (.inl rfl))
          | some u =>
              -- with bars the body is a stream or none at all, and without bars it is the whole body
              refine iff_of_false (fun halike => ?_) (by simp)
              cases hc : chooseEntity registry (.union true members) with
              | error e =>
                  rw [hc] at halike
                  cases halike
              | ok c =>
                  rw [hc] at halike
                  have hflux : c.operation = .entityFlux := chooseEntity_union_of_some hfind members hc
                  have hwhole : c.operation = .entity := halike.operation_eq
                  cases hflux.symm.trans hwhole

/-! ## Both spellings -/

/-- How the plans compare for two spellings of a hint. -/
structure SpellingsCompile (registry : Registry) (blockTimeout : Value) (x y : Hint) : Prop where
  result_iff : CompilesAlike (compile x registry blockTimeout) (compile y registry blockTimeout) ↔
    x = y ∨ registry.find? .unionType = none ∨
      ∃ e, compile x registry blockTimeout = .error e ∧ compile y registry blockTimeout = .error e
  /-- Alone or inside a container, where no adapter for entities is in the way. -/
  entity_iff : ∀ {place result result'}, LeavesEntities registry place →
    Declares registry (.entityOf x) place result → Declares registry (.entityOf y) place result' →
      (CompilesAlike (compile result registry blockTimeout) (compile result' registry blockTimeout) ↔
        x = y ∨ registry.find? .unionType = none ∨ place.any (·.noValue) = true)
  adapted_entity : registry.find? .responseEntity ≠ none →
    CompilesAlike (compile (.entityOf x) registry blockTimeout)
      (compile (.entityOf y) registry blockTimeout)

theorem compilesAlike_iff (hxy : Respelled x y) (registry : Registry) (blockTimeout : Value) :
    CompilesAlike (compile x registry blockTimeout) (compile y registry blockTimeout) ↔
      x = y ∨ registry.find? .unionType = none ∨
        ∃ e, compile x registry blockTimeout = .error e ∧ compile y registry blockTimeout = .error e := by
  constructor
  · intro halike
    cases hxy with
    | refl _ => exact .inl rfl
    | union members =>
        cases hfind : registry.find? .unionType with
        | none => exact .inr (.inl rfl)
        | some u =>
            rcases halike.failed_or_compiled with hfailed | ⟨p, q, hx, hy, hpq⟩
            · exact .inr (.inr hfailed)
            · obtain ⟨hsome, hnone⟩ := returnAdapter_of_union hfind hx hy
              cases hsome.symm.trans (hpq.returnAdapter_eq.trans hnone)
  · rintro (rfl | hnone | ⟨e, hx, hy⟩)
    · exact .refl _
    · cases hxy with
      | refl _ => exact .refl _
      | union members => exact compilesAlike_union hnone members blockTimeout
    · rw [hx, hy]
      exact .failed e

/-- Bars in a union leave plans as they are, up to the spelling of the body, unless the class of barred unions
has an adapter. -/
theorem spellingsCompile_of_union {barred : Bool} {hs : List Hint}
    (hx : Hint.union? barred hs = .ok x) (hy : Hint.union? false hs = .ok y) (registry : Registry)
    (blockTimeout : Value) : SpellingsCompile registry blockTimeout x y :=
  have hxy := Hint.respelled_of_union? hx hy
  { result_iff := compilesAlike_iff hxy registry blockTimeout
    entity_iff := fun hentity hresult hresult' =>
      compilesAlike_entity_iff hentity hxy hresult hresult' blockTimeout
    adapted_entity := fun hentity =>
      have ⟨_, ha⟩ := Option.ne_none_iff_exists'.mp hentity
      compilesAlike_adapted_entity ha hxy blockTimeout }

/-- Optional text has the one plan, alone and as the body of an entity in a future. -/
theorem spellingsCompile_optional_text :
    let text (barred : Bool) := Hint.union barred [.cls .str, .void]
    let future (body : Hint) := Hint.genericOf .future [.entityOf body]
    Hint.union? true [.cls .str, .nothing] = .ok (text true) ∧
      Hint.union? false [.cls .str, .nothing] = .ok (text false) ∧
      CompilesAlike (compile (text true) .default (.int 5)) (compile (text false) .default (.int 5)) ∧
      CompilesAlike (compile (future (text true)) .default (.int 5))
        (compile (future (text false)) .default (.int 5)) := by
  intro text future
  have hx : Hint.union? true [.cls .str, .nothing] = .ok (text true) := by rfl
  have hy : Hint.union? false [.cls .str, .nothing] = .ok (text false) := by rfl
  have hnone : Registry.default.find? .unionType = none := by rfl
  have hspellings := spellingsCompile_of_union hx hy .default (.int 5)
  let a : Adapter := { container := .future, conversion := .future }
  have hentity : LeavesEntities .default (some a) := fun hplace => nomatch hplace
  have hfuture (body : Hint) : Declares .default (.entityOf body) (some a) (future body) :=
    .inside (by rfl) (Hint.hasTypeArg_genericOf (i := 0) rfl)
  exact ⟨hx, hy, hspellings.result_iff.mpr (.inr (.inl hnone)),
    (hspellings.entity_iff hentity (hfuture _) (hfuture _)).mpr (.inr (.inl hnone))⟩

/-- An adapter for every class takes optional text with bars for a container, and leaves it without bars. -/
theorem compile_spellings_under_top :
    let a : Adapter := { container := .top }
    let registry := Registry.default.register a
    let text (barred : Bool) := Hint.union barred [.cls .str, .void]
    Hint.union? true [.cls .str, .nothing] = .ok (text true) ∧
      Hint.union? false [.cls .str, .nothing] = .ok (text false) ∧
      ∃ p q, compile (text true) registry (.int 5) = .ok p ∧
        compile (text false) registry (.int 5) = .ok q ∧
        p.returnAdapter = some a ∧ p.blockForOptional = false ∧
        q.returnAdapter = none ∧ q.blockForOptional = true ∧
        ¬CompilesAlike (compile (text true) registry (.int 5)) (compile (text false) registry (.int 5)) := by
  intro a registry text
  have hp : compile (text true) registry (.int 5) = .ok
      { operation := .body, bodyType := .cls .str, returnAdapter := some a, blockTimeout := .int 5 } := by
    rfl
  have hq : compile (text false) registry (.int 5) = .ok
      { operation := .body, bodyType := .cls .str, blockForOptional := true, blockTimeout := .int 5 } := by
    rfl
  refine ⟨by rfl, by rfl, _, _, hp, hq, rfl, rfl, rfl, rfl, fun halike => ?_⟩
  rw [hp, hq] at halike
  cases halike.returnAdapter_eq

end Plan

end HttpContract
