import HttpContract.Proofs.Request.Reads

/-!
# Bodies of requests

The body of a request is a value or a publisher, never both, and only a publisher has a type of elements. A
publisher stays: it may give way to another one, but no step takes it away or puts a value beside it.
-/

namespace HttpContract

namespace Request

variable {r s start : Request} {a : Action} {history : List Action}

/-! ## A step -/

/-- What a step does to the body. -/
inductive BodyStep (r s : Request) : Action → Prop
  | kept {a : Action} (body : s.body = r.body) (publisher : s.publisher = r.publisher)
      (elementType : s.elementType = r.elementType) : BodyStep r s a
  | valued {v : Value} (before : r.publisher = none) (body : s.body = v) (publisher : s.publisher = none)
      (elementType : s.elementType = r.elementType) : BodyStep r s (.edit (.setBody v))
  | published {elements : Value} {type : Hint} (before : r.body.isNull = true) (body : s.body = r.body)
      (publisher : s.publisher = some elements) (elementType : s.elementType = some type) :
      BodyStep r s (.edit (.setPublisher elements type))

theorem bodyStep_refl (r : Request) (a : Action) : BodyStep r r a := .kept rfl rfl rfl

theorem bodyStep_read (r : Request) (x : Accessor) : BodyStep r (r.read x) (.read x) := by
  cases x with
  | headers => exact .kept rfl rfl rfl
  | _ => exact bodyStep_refl r (.read _)

theorem bodyStep_editOpen (r : Request) (e : Edit) : BodyStep r (r.editOpen e).2 (.edit e) := by
  cases e with
  | addHeader name value =>
      obtain ⟨headers, hs⟩ := exists_headers_addHeader r name value
      rw [editOpen, hs]
      exact .kept rfl rfl rfl
  | setHeader name value =>
      obtain ⟨headers, hs⟩ := exists_headers_setHeader r name value
      rw [editOpen, hs]
      exact .kept rfl rfl rfl
  | setBody v =>
      rw [editOpen, setBody]
      split
      · exact bodyStep_refl r (.edit (.setBody v))
      · rename_i hpublisher
        have hnone : r.publisher = none := by simpa using hpublisher
        exact .valued hnone rfl hnone rfl
  | setPublisher elements elementType =>
      rw [editOpen, setPublisher]
      split
      · rename_i hbody
        exact .published hbody rfl rfl rfl
      · exact bodyStep_refl r (.edit (.setPublisher elements elementType))
  | _ => exact .kept rfl rfl rfl

theorem bodyStep_act (r : Request) (a : Action) : BodyStep r (r.act a).2 a := by
  cases a with
  | edit e =>
      rw [act]
      cases hr : r.complete with
      | true =>
          rw [edit_of_complete hr]
          exact bodyStep_refl r (.edit e)
      | false =>
          rw [edit_of_open hr]
          exact bodyStep_editOpen r e
  | finish => exact .kept rfl rfl rfl
  | read x => exact bodyStep_read r x

/-! ## A value or a publisher -/

structure Exclusive (r : Request) : Prop where
  body : r.body.isNull = true ∨ r.publisher = none
  elementType : r.publisher = none → r.elementType = none

theorem Started.exclusive (h : Started start) : start.Exclusive := by
  cases h with
  | empty => exact ⟨.inr rfl, fun _ => rfl⟩
  | template t =>
      rw [t.newRequest_eq]
      exact ⟨.inr rfl, fun _ => rfl⟩

theorem BodyStep.exclusive (h : BodyStep r s a) (hr : r.Exclusive) : s.Exclusive := by
  cases h with
  | kept body publisher elementType =>
      constructor
      · rw [body, publisher]
        exact hr.body
      · rw [publisher, elementType]
        exact hr.elementType
  | valued before _ publisher elementType =>
      exact ⟨.inr publisher, fun _ => elementType.trans (hr.elementType before)⟩
  | published before body publisher _ =>
      refine ⟨.inl (body ▸ before), fun hnone => ?_⟩
      rw [hnone] at publisher
      cases publisher

theorem Exclusive.run (hr : r.Exclusive) (history : List Action) : (run history r).Exclusive := by
  induction history generalizing r with
  | nil => exact hr
  | cons a history ih => exact ih ((bodyStep_act r a).exclusive hr)

/-! ## A publisher stays -/

structure Published (r : Request) : Prop where
  publisher : r.publisher.isSome = true
  body : r.body.isNull = true

/-- The step names a publisher. -/
def Action.SetsPublisher : Action → Prop
  | .edit (.setPublisher _ _) => True
  | _ => False

theorem Exclusive.published (hr : r.Exclusive) (hpublisher : r.publisher.isSome = true) : r.Published := by
  refine ⟨hpublisher, hr.body.resolve_right fun hnone => ?_⟩
  rw [hnone] at hpublisher
  cases hpublisher

theorem BodyStep.published_of_published (h : BodyStep r s a) (hr : r.Published) : s.Published := by
  cases h with
  | kept body publisher _ => exact ⟨publisher ▸ hr.publisher, body ▸ hr.body⟩
  | valued before _ _ _ =>
      have hpublisher := hr.publisher
      rw [before] at hpublisher
      cases hpublisher
  | published _ body publisher _ => exact ⟨publisher ▸ rfl, body ▸ hr.body⟩

theorem BodyStep.publisher_eq (h : BodyStep r s a) (ha : ¬ a.SetsPublisher) :
    s.publisher = r.publisher ∧ s.elementType = r.elementType := by
  cases h with
  | kept _ publisher elementType => exact ⟨publisher, elementType⟩
  | valued before _ publisher elementType => exact ⟨publisher.trans before.symm, elementType⟩
  | published _ _ _ _ => exact absurd trivial ha

theorem Published.run (hr : r.Published) (history : List Action) : (run history r).Published := by
  induction history generalizing r with
  | nil => exact hr
  | cons a history ih => exact ih ((bodyStep_act r a).published_of_published hr)

theorem publisher_run (h : ∀ a ∈ history, ¬ a.SetsPublisher) :
    (run history r).publisher = r.publisher ∧ (run history r).elementType = r.elementType := by
  induction history generalizing r with
  | nil => exact ⟨rfl, rfl⟩
  | cons a history ih =>
      obtain ⟨ha, hrest⟩ := List.forall_mem_cons.mp h
      obtain ⟨hpublisher, helementType⟩ := (bodyStep_act r a).publisher_eq ha
      obtain ⟨hpublisher', helementType'⟩ := ih (r := (r.act a).2) hrest
      exact ⟨hpublisher'.trans hpublisher, helementType'.trans helementType⟩

/-- In every reachable state a request has a value or a publisher as its body but not both, and a type of
elements only with a publisher. Once it has a publisher, it has one, and no value, ever after, and the same
one until another is named. -/
theorem exclusive_run (hstart : Started start) (before after : List Action) :
    (run before start).Exclusive ∧
      ((run before start).publisher.isSome = true →
        (run after (run before start)).Published ∧
          ((∀ a ∈ after, ¬ a.SetsPublisher) →
            (run after (run before start)).publisher = (run before start).publisher ∧
              (run after (run before start)).elementType = (run before start).elementType)) := by
  have hbefore := hstart.exclusive.run before
  refine ⟨hbefore, fun hpublisher => ⟨?_, fun hafter => publisher_run hafter⟩⟩
  exact (hbefore.published hpublisher).run after

theorem exclusive_run_value_withdrawn :
    let stream : Edit := .setPublisher (.list [.int 1]) (.cls .int)
    let before : List Action :=
      [.edit (.setBody (.str "a")), .edit stream, .edit (.setBody .null), .edit stream]
    let after : List Action := [.edit (.setBody (.str "b")), .edit (.setBody .null), .finish]
    (run before {}).Exclusive ∧ (run before {}).publisher.isSome = true ∧
      (∀ a ∈ after, ¬ a.SetsPublisher) ∧ (run after (run before {})).Published ∧
        (run after (run before {})).publisher = (run before {}).publisher := by
  intro stream before after
  have hpublisher : (run before {}).publisher.isSome = true := rfl
  have hafter : ∀ a ∈ after, ¬ a.SetsPublisher := by
    simp only [after, List.forall_mem_cons, List.not_mem_nil, false_implies, implies_true, and_true,
      Action.SetsPublisher, not_false_eq_true]
  obtain ⟨hexclusive, hstays⟩ := exclusive_run .empty before after
  obtain ⟨hpublished, hkept⟩ := hstays hpublisher
  exact ⟨hexclusive, hpublisher, hafter, hpublished, (hkept hafter).1⟩

end Request

end HttpContract
