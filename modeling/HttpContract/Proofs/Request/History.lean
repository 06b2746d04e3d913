import HttpContract.Request

/-!
# Histories of requests

A request lives through edits, completion and reads, in any order. What is seen of a history is how each
of its steps ends and all that the request shows after it. Completion fixes all of that: whatever is tried
later, every edit is refused and the request shows what it showed when it was completed.
-/

namespace HttpContract

namespace Request

variable {r : Request}

/-! ## What a request shows -/

/-- What can be observed of a request, the values of every header name included. -/
structure View where
  verb : Option Verb
  uri : Value
  template : Option String
  urlVariables : Assoc String Value
  headers : Option (List (String × String))
  rawNames : List String
  header : String → Except Headers.Error (Option String)
  query : Multimap String String
  cookies : Multimap String String
  body : Value
  publisher : Option Value
  elementType : Option Hint
  complete : Bool
  summary : String

def view (r : Request) : View where
  verb := r.verb
  uri := r.uri
  template := r.template
  urlVariables := r.urlVariables
  headers := r.headers.items?
  rawNames := r.headers.rawNames
  header := r.headers.get?
  query := r.query
  cookies := r.cookies
  body := r.body
  publisher := r.publisher
  elementType := r.elementType
  complete := r.complete
  summary := r.summary

/-! ## Steps -/

/-- What can be asked of a request. -/
inductive Accessor where
  | verb
  | uri
  | template
  | urlVariables
  | headers
  | query
  | cookies
  | body
  | publisher
  | elementType
  | complete
  | summary
deriving Repr, DecidableEq, Inhabited

/-- The request after it was asked. The header fields are given out as a copy, for which their encoding is
settled. -/
def read (r : Request) : Accessor → Request
  | .headers => r.readHeaders
  | _ => r

inductive Action where
  | edit (e : Edit)
  | finish
  | read (a : Accessor)
deriving Inhabited

def act (r : Request) : Action → Except Error Unit × Request
  | .edit e => r.edit e
  | .finish => (.ok (), r.finish)
  | .read a => (.ok (), r.read a)

/-! ## Histories -/

def run : List Action → Request → Request
  | [], r => r
  | a :: rest, r => run rest (r.act a).2

/-- How a step ends and what the request shows after it. -/
structure Seen where
  result : Except Error Unit
  view : View

def seen : List Action → Request → List Seen
  | [], _ => []
  | a :: rest, r => ⟨(r.act a).1, (r.act a).2.view⟩ :: seen rest (r.act a).2

theorem seen_append (before after : List Action) :
    seen (before ++ after) r = seen before r ++ seen after (run before r) := by
  induction before generalizing r with
  | nil => rfl
  | cons a before ih =>
      simp only [List.cons_append, seen, run]
      rw [ih]

/-! ## What an edit leaves alone -/

theorem exists_headers_addHeader (r : Request) (name value : String) :
    ∃ headers, (r.addHeader name value).2 = { r with headers } := by
  unfold addHeader
  split
  · exact ⟨_, rfl⟩
  · simp only
    split
    · exact ⟨r.headers, rfl⟩
    · exact ⟨r.headers.settle, rfl⟩

theorem exists_headers_setHeader (r : Request) (name value : String) :
    ∃ headers, (r.setHeader name value).2 = { r with headers } := by
  unfold setHeader
  split
  · exact ⟨_, rfl⟩
  · exact ⟨r.headers, rfl⟩

theorem headers_setBody (r : Request) (v : Value) : (r.setBody v).2.headers = r.headers := by
  unfold setBody
  split
  · rfl
  · rfl

theorem headers_setPublisher (r : Request) (elements : Value) (elementType : Hint) :
    (r.setPublisher elements elementType).2.headers = r.headers := by
  unfold setPublisher
  split
  · rfl
  · rfl

/-! ## Reading -/

theorem view_read (a : Accessor) : (r.read a).view = r.view := by
  cases a with
  | headers => rfl
  | _ => rfl

theorem complete_read (a : Accessor) : (r.read a).complete = r.complete := by
  cases a with
  | headers => rfl
  | _ => rfl

/-! ## After completion -/

/-- How a step ends on a complete request. -/
def Action.late : Action → Except Error Unit
  | .edit _ => .error .complete
  | .finish | .read _ => .ok ()

theorem edit_of_complete (hr : r.complete = true) (e : Edit) : r.edit e = (.error .complete, r) := by
  rw [edit, if_pos hr]

theorem edit_of_open (hr : r.complete = false) (e : Edit) : r.edit e = r.editOpen e := by
  rw [edit, hr]
  rfl

theorem finish_of_complete (hr : r.complete = true) : r.finish = r := by
  rw [finish, ← hr]

theorem act_of_complete (hr : r.complete = true) (a : Action) :
    (r.act a).1 = a.late ∧ (r.act a).2.view = r.view ∧ (r.act a).2.complete = true := by
  cases a with
  | edit e =>
      rw [act, edit_of_complete hr]
      exact ⟨rfl, rfl, hr⟩
  | finish =>
      rw [act, finish_of_complete hr]
      exact ⟨rfl, rfl, hr⟩
  | read a => exact ⟨rfl, view_read a, (complete_read a).trans hr⟩

theorem seen_of_complete (hr : r.complete = true) (after : List Action) :
    seen after r = after.map fun a => ⟨a.late, r.view⟩ := by
  induction after generalizing r with
  | nil => rfl
  | cons a after ih =>
      obtain ⟨hresult, hview, hcomplete⟩ := act_of_complete hr a
      rw [seen, List.map_cons, ih hcomplete, hresult, hview]

/-- Whatever precedes completion and whatever is tried after it, each later edit is refused because the
request is complete, and after each later step the request shows what it showed at completion. -/
theorem seen_after_finish (before after : List Action) (start : Request) :
    let completed := (run before start).finish
    completed.view.complete = true ∧
      seen (before ++ .finish :: after) start =
        seen before start ++ ⟨.ok (), completed.view⟩ ::
          after.map fun a => ⟨a.late, completed.view⟩ := by
  intro completed
  have hcomplete : completed.complete = true := rfl
  refine ⟨hcomplete, ?_⟩
  rw [seen_append]
  have hlater : seen (.finish :: after) (run before start) =
      ⟨.ok (), completed.view⟩ :: seen after completed := rfl
  rw [hlater, seen_of_complete hcomplete]

/-! ## Refused edits -/

/-- Adding a field may read the fields there are before it is refused. -/
theorem edit_of_refused {e : Edit} {err : Error} (h : (r.edit e).1 = .error err) :
    (r.edit e).2 = r ∨ (r.edit e).2 = r.read .headers := by
  cases hr : r.complete with
  | true =>
      rw [edit_of_complete hr]
      exact .inl rfl
  | false =>
      rw [edit_of_open hr] at h ⊢
      -- of all edits only a new field looks at the fields there are
      cases e with
      | addHeader name value =>
          simp only [editOpen, addHeader] at h ⊢
          cases hadd : r.headers.add name value with
          | ok headers => simp only [hadd, reduceCtorEq] at h
          | error e =>
              simp only
              split
              · exact .inl rfl
              · exact .inr rfl
      | setHeader name value =>
          simp only [editOpen, setHeader] at h ⊢
          cases hset : r.headers.set name value with
          | ok headers => simp only [hset, reduceCtorEq] at h
          | error e => exact .inl rfl
      | setBody v =>
          simp only [editOpen, setBody] at h ⊢
          split at h
          · rename_i hpublisher
            rw [if_pos hpublisher]
            exact .inl rfl
          · cases h
      | setPublisher elements elementType =>
          simp only [editOpen, setPublisher] at h ⊢
          split at h
          · cases h
          · rename_i hbody
            rw [if_neg hbody]
            exact .inl rfl
      | _ => cases h

theorem view_of_refused {e : Edit} {err : Error} (h : (r.edit e).1 = .error err) :
    (r.edit e).2.view = r.view := by
  rcases edit_of_refused h with hsame | hread
  · rw [hsame]
  · rw [hread, view_read]

end Request

end HttpContract
