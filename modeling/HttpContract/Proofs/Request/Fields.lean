import HttpContract.Proofs.Headers.Items
import HttpContract.Proofs.Request.Reads

/-!
# Header fields along a history

The header fields of a request are determined by the edits that succeeded: they hold the list of names and
values that these edits make, one after the other, whatever was read or refused in between. All of it is read
back as it was written.
-/

namespace HttpContract

/-! ## Reading a list back -/

namespace Headers

/-- What is read of header fields is this list, as a whole and name by name. -/
structure ReadAs (h : Headers) (items : List (String × String)) : Prop where
  all : h.items? = some items
  byName : ∀ name, Text.outsideAscii? (sought name) = none →
    h.get? name = .ok (joined ((items.filter fun item => item.1 = sought name).map Prod.snd))

theorem Holds.readAs {h : Headers} {items : List (String × String)} (hh : h.Holds items) : h.ReadAs items where
  all := hh.items?
  byName := fun _ hname => hh.coherent.get?_of_written hname hh.written

end Headers

namespace Request

variable {r s : Request} {a : Action} {e : Edit} {err : Error} {items : List (String × String)}

/-! ## A step -/

/-- The names and values of the header fields after an edit that succeeds. -/
def Edit.listed (items : List (String × String)) : Edit → List (String × String)
  | .addHeader name value => items ++ [(name.toLower, value)]
  | .setHeader name value => Headers.assign name.toLower value items
  | _ => items

theorem holds_of_addHeader (hh : r.headers.Holds items) {name value : String}
    (he : (r.addHeader name value).1 = .ok ()) :
    (r.addHeader name value).2.headers.Holds (items ++ [(name.toLower, value)]) := by
  simp only [addHeader, hh.add_eq] at he ⊢
  cases hrun : (items ++ [(name, value)]).findSome? Headers.foreign? with
  | none => exact hh.added name value
  | some run => simp only [hrun, reduceCtorEq] at he

theorem holds_of_setHeader (hh : r.headers.Holds items) {name value : String}
    (he : (r.setHeader name value).1 = .ok ()) :
    (r.setHeader name value).2.headers.Holds (Headers.assign name.toLower value items) := by
  simp only [setHeader] at he ⊢
  cases hset : r.headers.set name value with
  | ok headers => exact hh.set hset
  | error e => simp only [hset, reduceCtorEq] at he

theorem holds_of_edit_ok (hh : r.headers.Holds items) (he : (r.edit e).1 = .ok ()) :
    (r.edit e).2.headers.Holds (e.listed items) := by
  cases hr : r.complete with
  | true => simp only [edit_of_complete hr, reduceCtorEq] at he
  | false =>
      rw [edit_of_open hr] at he ⊢
      cases e with
      | addHeader name value => exact holds_of_addHeader hh he
      | setHeader name value => exact holds_of_setHeader hh he
      | setBody v => rwa [editOpen, headers_setBody]
      | setPublisher elements elementType => rwa [editOpen, headers_setPublisher]
      | _ => exact hh

theorem holds_read (hh : r.headers.Holds items) (x : Accessor) : (r.read x).headers.Holds items := by
  cases x with
  | headers => exact hh.settle
  | _ => exact hh

theorem holds_of_refused (hh : r.headers.Holds items) (he : (r.edit e).1 = .error err) :
    (r.edit e).2.headers.Holds items := by
  rcases edit_of_refused he with hsame | hread
  · rwa [hsame]
  · rw [hread]
    exact holds_read hh .headers

/-! ## A history -/

/-- The edits of a history that succeed, in order. -/
def succeeded : List Action → Request → List Edit
  | [], _ => []
  | .edit e :: rest, r =>
    match r.edit e with
    | (.ok (), r) => e :: succeeded rest r
    | (.error _, r) => succeeded rest r
  | a :: rest, r => succeeded rest (r.act a).2

/-- The list that edits make of the names and values of header fields, in order. -/
def listing (items : List (String × String)) (edits : List Edit) : List (String × String) :=
  edits.foldl Edit.listed items

theorem holds_run (hh : r.headers.Holds items) (history : List Action) :
    (run history r).headers.Holds (listing items (succeeded history r)) := by
  induction history generalizing r items with
  | nil => exact hh
  | cons a history ih =>
      cases a with
      | edit e =>
          rcases he : r.edit e with ⟨_ | _, s⟩
          · have hs : s.headers.Holds items := by
              simpa only [he] using holds_of_refused hh (congrArg Prod.fst he)
            simpa only [run, act, succeeded, he] using ih hs
          · have hs : s.headers.Holds (e.listed items) := by
              simpa only [he] using holds_of_edit_ok hh (congrArg Prod.fst he)
            simpa only [run, act, succeeded, he, listing, List.foldl_cons] using ih hs
      | finish => exact ih (r := r.finish) hh
      | read x => exact ih (holds_read hh x)

/-! ## From the beginning -/

theorem run_of_editAll {edits : List Edit} (h : editAll edits r = (.ok (), s)) :
    run (edits.map .edit) r = s ∧ succeeded (edits.map .edit) r = edits := by
  induction edits generalizing r with
  | nil =>
      cases h
      exact ⟨rfl, rfl⟩
  | cons e edits ih =>
      rcases he : r.edit e with ⟨_ | _, next⟩
      · simp only [editAll, he] at h
        cases h
      · simp only [editAll, he] at h
        obtain ⟨hrun, hsucceeded⟩ := ih h
        simp only [List.map_cons, run, act, succeeded, he]
        exact ⟨hrun, congrArg (e :: ·) hsucceeded⟩

theorem holds_newRequest (t : Template) : t.newRequest.2.headers.Holds (listing [] t.edits) := by
  obtain ⟨hrun, hsucceeded⟩ := run_of_editAll t.newRequest_eq
  have hholds := holds_run (r := {}) Headers.holds_empty (t.edits.map .edit)
  rw [t.newRequest_eq]
  rwa [hrun, hsucceeded] at hholds

/-- Whatever happens to a request, its header fields are read as the list that the successful edits make,
those of its template first. -/
theorem readAs_run (t : Template) (history : List Action) :
    (run history {}).headers.ReadAs (listing [] (succeeded history {})) ∧
      (run history t.newRequest.2).headers.ReadAs
        (listing [] (t.edits ++ succeeded history t.newRequest.2)) := by
  constructor
  · exact (holds_run Headers.holds_empty history).readAs
  · rw [listing, List.foldl_append]
    exact (holds_run (holds_newRequest t) history).readAs

end Request

end HttpContract
